import Ombrac.NetstackTurns

set_option autoImplicit false

/-!
# The notice of a closed read side

The worker announces the close once: it stores `read_closed` and wakes whoever is registered. A
reader loads the flag before it registers, and afterwards looks at the buffer alone.
-/
namespace Ombrac.NetstackNotice
open LabelledSystem NetstackTcp NetstackWaiters NetstackTurns ProtocolPacket RingBuffer

/-! ## The readers that a step leaves waiting -/

section Waits
variable {σ : Type}

def ReadAt (s : Stream σ) : Point → Prop
  | .readRegister _ => s.CloseNoticed
  | .readRecheck _ => s.ReadCovered ∨ s.Readable
  | _ => True

structure Attended (s : Stream σ) : Prop where
  working : s.connection.socket = none → s.waking = none ∧ s.connection.worker = .polling
  reads : s.waiting.read = true → s.ReadCovered
  point : ∀ p, s.task = .calling p → ReadAt s p

structure Beside (s v : Stream σ) : Prop where
  task : v.task = s.task
  waiting : v.waiting = s.waiting
  readable : s.Readable → v.Readable
  covered : s.ReadCovered → v.ReadCovered
  noticed : s.task.readRegistering = true → s.CloseNoticed → v.CloseNoticed
  working : v.connection.socket = none →
    (s.connection.socket = none ∧ v.waking = s.waking ∧
      v.connection.worker = s.connection.worker) ∨
    (v.waking = none ∧ v.connection.worker = .polling)

variable {net : Smoltcp σ} {s v : Stream σ} {k : σ}

theorem Beside.attended (beside : Beside s v) (inv : Attended s) : Attended v where
  working removed := by
    obtain ⟨before, waking, worker⟩ | idle := beside.working removed
    · obtain ⟨quiet, polling⟩ := inv.working before
      exact ⟨waking.trans quiet, worker.trans polling⟩
    · exact idle
  reads waits := beside.covered (inv.reads (beside.waiting ▸ waits))
  point p calling := by
    rw [beside.task] at calling
    have here := inv.point p calling
    cases p with
    | readRegister len => exact beside.noticed (by rw [calling]; rfl) here
    | readRecheck len => exact here.imp beside.covered beside.readable
    | readLoad | readPop | writeCheck | writeRegister | writeRecheck | writePush | flushRegister
    | flushRecheck | storeWriteClosed => trivial

/-- A step that leaves the flag, the waker and the wake-up of the reader alone. -/
theorem Beside.of_kept (task : v.task = s.task) (waiting : v.waiting = s.waiting)
    (readable : s.Readable → v.Readable)
    (woken : v.connection.woken = s.connection.woken)
    (recvWaker : v.connection.shared.recvWaker = s.connection.shared.recvWaker)
    (readClosed : v.connection.shared.readClosed = s.connection.shared.readClosed)
    (about : s.WillWake .recv → v.WillWake .recv)
    (working : v.connection.socket = none →
      (s.connection.socket = none ∧ v.waking = s.waking ∧
        v.connection.worker = s.connection.worker) ∨
      (v.waking = none ∧ v.connection.worker = .polling)) : Beside s v where
  task := task
  waiting := waiting
  readable := readable
  covered := by
    unfold Stream.ReadCovered
    rw [woken, recvWaker, readClosed]
    exact Or.imp_right (And.imp_right fun comes closed => about (comes closed))
  noticed := by
    unfold Stream.CloseNoticed
    rw [woken, readClosed]
    exact fun _ noticed closed => (noticed closed).imp_right (Or.imp about readable)
  working := working

/-- The flag is set, and the wake-up is owed. -/
theorem Beside.of_closed (task : v.task = s.task) (waiting : v.waiting = s.waiting)
    (readable : s.Readable → v.Readable) (woken : v.connection.woken = s.connection.woken)
    (recvWaker : v.connection.shared.recvWaker = s.connection.shared.recvWaker)
    (about : v.WillWake .recv) (stays : v.connection.socket ≠ none) : Beside s v where
  task := task
  waiting := waiting
  readable := readable
  covered := by
    unfold Stream.ReadCovered
    rw [woken, recvWaker]
    exact Or.imp_right (And.imp_right fun _ _ => about)
  noticed _ _ _ := .inr (.inl about)
  working removed := absurd removed stays

theorem beside_wake_recv (waking : s.waking = some .recv) (there : s.connection.socket = some k)
    (guard : s.InTime .worker) : Beside s (s.wake .recv) where
  task := rfl
  waiting := rfl
  readable := id
  covered := by
    rintro (woken | ⟨registered, _⟩)
    · exact .inl (Bool.or_eq_true_iff.2 (.inl woken))
    · exact .inl (Bool.or_eq_true_iff.2 (.inr registered))
  noticed := by
    intro registering _ closed
    obtain woken | registered | readable := guard waking registering closed
    · exact .inl (Bool.or_eq_true_iff.2 (.inl woken))
    · exact .inl (Bool.or_eq_true_iff.2 (.inr registered))
    · exact .inr (.inr readable)
  working removed := by cases there.symm.trans removed

theorem beside_wake_send (waking : s.waking = some .send)
    (there : s.connection.socket = some k) : Beside s (s.wake .send) where
  task := rfl
  waiting := rfl
  readable := id
  covered := by
    rintro (woken | ⟨registered, comes⟩)
    · exact .inl (Bool.or_eq_true_iff.2 (.inl woken))
    · refine .inr ⟨registered, fun closed => .inr ?_⟩
      exact (comes closed).resolve_left (by simp [waking])
  noticed := by
    intro _ noticed closed
    obtain woken | about | readable := noticed closed
    · exact .inl (Bool.or_eq_true_iff.2 (.inl woken))
    · exact .inr (.inl (.inr (about.resolve_left (by simp [waking]))))
    · exact .inr (.inr readable)
  working removed := by cases there.symm.trans removed

theorem beside_turn (there : s.connection.socket = some k) (turn : Turn net s k v)
    (guard : s.InTime .worker) : Beside s v := by
  cases turn with
  | @wakes w waking =>
    cases w with
    | recv => exact beside_wake_recv waking there guard
    | send => exact beside_wake_send waking there
  | received quiet phase can offered =>
    refine .of_kept rfl rfl (fun readable => RingBuf.pushSlice_nonempty readable _) rfl rfl rfl
      (fun about => ?_) (fun removed => by cases removed)
    exact absurd about (Stream.not_willWake quiet (by simp [phase]) (by simp [phase]) _)
  | failed quiet phase can offered =>
    exact .of_closed rfl rfl id rfl rfl (.inr rfl) (by simp [Connection.setReadClosed, there])
  | closed quiet phase shut unset =>
    exact .of_closed rfl rfl id rfl rfl (.inl rfl) (by simp [Connection.setReadClosed, there])
  | enqueued quiet phase offered =>
    refine .of_kept rfl rfl id rfl rfl rfl (fun about => ?_) (fun removed => by cases removed)
    rcases about with about | about
    · cases quiet.symm.trans about
    · cases phase.symm.trans about
  | closes quiet phase written empty =>
    refine .of_kept rfl rfl id rfl rfl rfl (fun about => ?_) (fun removed => by cases removed)
    exact absurd about (Stream.not_willWake quiet (by simp [phase]) (by simp [phase]) _)
  | removed quiet phase =>
    refine .of_kept rfl rfl id rfl rfl rfl (fun about => ?_) (fun _ => .inr ⟨quiet, rfl⟩)
    rcases phase with phase | phase
    · exact absurd about (Stream.not_willWake quiet (by simp [phase]) (by simp [phase]) _)
    · exact absurd about (Stream.not_willWake quiet (by simp [phase]) (by simp [phase]) _)
  | passes quiet idle opened owed next =>
    refine .of_kept rfl rfl id rfl rfl rfl (fun about => .inl ((owed .recv).1 about))
      (fun removed => ?_)
    cases there.symm.trans removed

/-! ## The steps of the task -/

theorem Attended.setPoint (inv : Attended s) {p : Point} (here : ReadAt s p) :
    Attended (s.setPoint p) where
  working := inv.working
  reads := inv.reads
  point q calling := by
    cases calling
    exact here

theorem Attended.answer (inv : Attended s) {w : Waiting} {pending : Bool}
    (reads : w.read = true → s.ReadCovered) : Attended (s.answer w pending) where
  working := inv.working
  reads := reads
  point q calling := by cases calling

theorem Attended.flushed (inv : Attended s) (shutdown : Bool) : Attended (s.flushed shutdown) := by
  cases shutdown with
  | false => exact inv.answer inv.reads
  | true => exact inv.setPoint trivial

theorem Attended.begin (inv : Attended s) (begun : Begun s v) : Attended v := by
  cases begun with
  | loads | pops | writes | registers => exact inv.setPoint trivial
  | refused => exact inv.answer inv.reads
  | flushed shutdown empty => exact inv.flushed shutdown
  | drops => exact ⟨inv.working, inv.reads, fun q now => by cases now⟩

/-- The registration of a reader that the close has not passed by. -/
theorem Attended.registerRecv (inv : Attended s) {len : ℕ}
    (calling : s.task = .calling (.readRegister len)) :
    Attended (s.registerRecv.setPoint (.readRecheck len)) := by
  have noticed : s.CloseNoticed := inv.point _ calling
  refine ⟨inv.working, fun waits => ?_, fun q now => ?_⟩
  · exact (inv.reads waits).imp_right fun covered => ⟨rfl, covered.2⟩
  · cases now
    exact Stream.registerRecv_covered noticed

theorem Attended.advance (inv : Attended s) {p : Point} (calling : s.task = .calling p)
    (accessed : Accessed s p v) : Attended v := by
  have here := inv.point p calling
  cases accessed with
  | ends => exact inv.answer fun waits => by cases waits
  | @goesOn len opened =>
    refine inv.setPoint (p := .readRegister len) fun closed => ?_
    cases opened.symm.trans closed
  | registersRead => exact inv.registerRecv calling
  | readWaits empty =>
    refine inv.answer fun _ => here.resolve_right fun readable => ?_
    cases empty.symm.trans readable
  | readFinds | full | writeFinds | writeRefinds => exact inv.setPoint trivial
  | writeWaits | flushWaits => exact inv.answer inv.reads
  | registersWrite | registersFlush =>
    exact ⟨inv.working, inv.reads, fun q now => by cases now; trivial⟩
  | pops => exact ⟨inv.working, fun waits => (by cases waits), fun q now => (by cases now)⟩
  | pushes | closes => exact ⟨inv.working, inv.reads, fun q now => by cases now⟩
  | flushed empty => exact inv.flushed _

theorem Attended.step {e : Event σ} (inv : Attended s) (guard : s.InTime e)
    (h : s.step net e = some v) : Attended v := by
  cases step_moved h with
  | turned there turn => exact (beside_turn there turn guard).attended inv
  | polled there polling =>
    refine Beside.attended (s := s) (.of_kept rfl rfl id rfl rfl rfl id fun removed => ?_) inv
    cases removed
  | spurious =>
    have beside : Beside s { s with connection := { s.connection with woken := true } } :=
      ⟨rfl, rfl, id, fun _ => .inl rfl, fun _ _ _ => .inl rfl,
        fun removed => .inl ⟨removed, rfl, rfl⟩⟩
    exact beside.attended inv
  | called running begun =>
    have later : Attended { s with late := s.connection.socket.isNone } :=
      ⟨inv.working, inv.reads, inv.point⟩
    exact later.begin begun
  | advanced calling accessed => exact inv.advance calling accessed
  | parked running => exact ⟨inv.working, inv.reads, fun q now => by cases now⟩
  | resumed parked woken =>
    exact ⟨inv.working, fun waits => (by cases waits), fun q now => (by cases now)⟩

end Waits

/-! ## The worker wakes the reader within three turns -/

section Wakes
variable {σ : Type} {net : Smoltcp σ} {socket : σ} {recvBufferSize sendBufferSize : ℕ+}
  {s : Stream σ} {k : σ}

/-- The wake-up has come, or the turns that the worker makes by itself bring it. -/
def WakeComes (net : Smoltcp σ) (socket : σ) (recvBufferSize sendBufferSize : ℕ+) (s : Stream σ) :
    Prop :=
  ∃ n v, execFrom (stack net socket recvBufferSize sendBufferSize) s
    (List.replicate n .worker) = some v ∧ v.connection.woken = true

/-- A reader whose `poll_read` has answered `Pending`, with the read side closed, is woken. -/
def Noticed (net : Smoltcp σ) (socket : σ) (recvBufferSize sendBufferSize : ℕ+) (s : Stream σ) :
    Prop :=
  s.waiting.read = true → s.connection.shared.readClosed = true →
    WakeComes net socket recvBufferSize sendBufferSize s

theorem WakeComes.of_turn {v : Stream σ} (turn : s.workerStep net = some v)
    (comes : WakeComes net socket recvBufferSize sendBufferSize v) :
    WakeComes net socket recvBufferSize sendBufferSize s := by
  obtain ⟨n, w, ran, woken⟩ := comes
  exact ⟨n + 1, w, (exec_worker turn _).trans ran, woken⟩

theorem wake_recv_comes (there : s.connection.socket = some k) (waking : s.waking = some .recv)
    (registered : s.connection.shared.recvWaker = true) :
    WakeComes net socket recvBufferSize sendBufferSize s := by
  have turn : s.workerStep net = some (s.wake .recv) := by
    simp [Stream.workerStep, there, waking]
  exact .of_turn turn ⟨0, _, rfl, Bool.or_eq_true_iff.2 (.inr registered)⟩

theorem announcement_comes (there : s.connection.socket = some k) (quiet : s.waking = none)
    (phase : s.connection.worker = .checkingOpen true)
    (registered : s.connection.shared.recvWaker = true) :
    WakeComes net socket recvBufferSize sendBufferSize s := by
  have turn : s.workerStep net = some (s.checkOpen net k true) := by
    simp [Stream.workerStep, there, quiet, phase]
  have still : (s.checkOpen net k true).connection.socket = some k := by
    unfold Stream.checkOpen
    dsimp only
    split_ifs <;> exact there
  have waker : (s.checkOpen net k true).connection.shared.recvWaker = true := by
    unfold Stream.checkOpen
    dsimp only
    split_ifs <;> exact registered
  exact .of_turn turn (wake_recv_comes still rfl waker)

theorem Attended.noticed (inv : Attended s) :
    Noticed net socket recvBufferSize sendBufferSize s := by
  intro waits closed
  obtain woken | ⟨registered, comes⟩ := inv.reads waits
  · exact ⟨0, s, rfl, woken⟩
  have about := comes closed
  have present : s.connection.socket ≠ none := by
    intro removed
    obtain ⟨quiet, polling⟩ := inv.working removed
    rcases about with about | about
    · cases quiet.symm.trans about
    · cases polling.symm.trans about
  obtain ⟨k, there⟩ := Option.ne_none_iff_exists'.1 present
  cases waking : s.waking with
  | none =>
    exact announcement_comes there waking (about.resolve_left (by simp [waking])) registered
  | some w =>
    cases w with
    | recv => exact wake_recv_comes there waking registered
    | send =>
      have turn : s.workerStep net = some (s.wake .send) := by
        simp [Stream.workerStep, there, waking]
      have phase : (s.wake .send).connection.worker = .checkingOpen true :=
        about.resolve_left (by simp [waking])
      exact .of_turn turn (announcement_comes there rfl phase registered)

/-- A reader to which the close is announced too early answers `Pending` all the same, and the
announcement is over. -/
theorem early_announcement_missed {v : Stream σ} (early : ¬ s.InTime .worker)
    (turn : s.workerStep net = some v) :
    ∃ w, execFrom (stack net socket recvBufferSize sendBufferSize) v [.task, .task] = some w ∧
      w.waiting.read = true ∧ w.connection.shared.readClosed = true ∧
      w.connection.woken = false ∧ w.waking = none ∧
      w.connection.worker = s.connection.worker := by
  simp only [Stream.InTime, Classical.not_imp, not_or, Bool.not_eq_true] at early
  obtain ⟨waking, registering, closed, asleep, unregistered, unreadable⟩ := early
  have empty : s.connection.recvBuffer.isEmpty = true := Bool.not_eq_false _ ▸ unreadable
  obtain ⟨len, calling⟩ : ∃ len, s.task = .calling (.readRegister len) := by
    unfold Task.readRegistering at registering
    split at registering
    · exact ⟨_, ‹_›⟩
    · cases registering
  obtain ⟨k, there, turned⟩ := workerStep_turn turn
  cases turned with
  | @wakes w now =>
    obtain rfl : Waker.recv = w := Option.some.inj (waking.symm.trans now)
    have still : (s.wake .recv).task = .calling (.readRegister len) := calling
    rw [exec_task still, Stream.advance, exec_task rfl, Stream.advance]
    simp only [Stream.registerRecv, Stream.setPoint, Stream.wake, Connection.wakeRecv, empty,
      if_true, execFrom]
    exact ⟨_, rfl, rfl, closed, by simp [Stream.readAnswer, Stream.answer, asleep, unregistered],
      rfl, rfl⟩
  | received quiet | failed quiet | closed quiet | enqueued quiet | closes quiet | removed quiet
  | passes quiet => cases quiet.symm.trans waking

/-- As long as the worker announces a close only to readers that are registered, or that have not
loaded the flag, no reader misses it. -/
theorem close_noticed {es : List (Event σ)}
    (guarded : ∀ s e v, Takes (stack net socket recvBufferSize sendBufferSize) es s e v →
      s.InTime e)
    (visit : Visits (stack net socket recvBufferSize sendBufferSize) es s) :
    Noticed net socket recvBufferSize sendBufferSize s := by
  have inv : Attended s := by
    refine guarded_invariant (I := Attended) ⟨fun removed => ?_, fun waits => ?_, fun q now => ?_⟩
      (fun _ _ _ inv guard h => inv.step guard h) guarded visit
    · cases removed
    · cases waits
    · cases now
  exact inv.noticed

end Wakes

def resetWhileParked : List (Event TcpState) :=
  [.network .established, .call (.pollRead 1), .task, .task, .task, .park, .network .closed,
    .worker, .worker, .worker]

theorem close_noticed_reset : ∃ s, Visits (stack dataless .listen 4096 4096) resetWhileParked s ∧
    s.task = .parked ∧ s.connection.woken = false ∧
    ∃ n v, execFrom (stack dataless .listen 4096 4096) s (List.replicate n .worker) = some v ∧
      v.connection.woken = true := by
  obtain ⟨s, ran, parked, asleep, waits, closed⟩ :
      ∃ s, exec (stack dataless .listen 4096 4096) resetWhileParked = some s ∧
        s.task = .parked ∧ s.connection.woken = false ∧ s.waiting.read = true ∧
        s.connection.shared.readClosed = true := ⟨_, rfl, rfl, rfl, rfl, rfl⟩
  have visit := (runs_of_exec ran).visits
  refine ⟨s, visit, parked, asleep, close_noticed ?_ visit waits closed⟩
  intro u e v take
  obtain ⟨n, here, reached⟩ := take.exec_take
  have all : ∀ n < resetWhileParked.length,
      ((exec (stack dataless .listen 4096 4096) (resetWhileParked.take n)).all
        fun u => (resetWhileParked[n]?).all fun e => decide (u.InTime e)) = true := by
    decide
  have guarded := all n (List.getElem?_eq_some_iff.1 here).1
  rw [reached, here] at guarded
  exact of_decide_eq_true guarded

section Forgotten

structure Forgotten (s : Stream TcpState) : Prop where
  quiet : s.waking = none
  phase : s.connection.worker ≠ .checkingOpen true ∧ s.connection.worker ≠ .sending true
  closed : s.connection.shared.readClosed = true
  asleep : s.connection.woken = false

variable {s v : Stream TcpState}

theorem Forgotten.turn {k : TcpState} (forgotten : Forgotten s) (turn : Turn dataless s k v) :
    Forgotten v := by
  obtain ⟨quiet, phase, closed, asleep⟩ := forgotten
  cases turn with
  | wakes waking => cases quiet.symm.trans waking
  | received _ _ can _ => cases can
  | failed _ _ can _ => cases can
  | closed _ _ _ unset => cases closed.symm.trans unset
  | enqueued _ _ offered => cases offered
  | closes => exact ⟨quiet, ⟨by simp, by simp⟩, closed, asleep⟩
  | removed => exact ⟨quiet, ⟨by simp, by simp⟩, closed, asleep⟩
  | @passes _ w _ _ _ owed next =>
    refine ⟨Option.eq_none_iff_forall_ne_some.2 fun u waking => ?_, next.plain, closed, asleep⟩
    have about := (owed u).2 waking
    cases u with
    | recv => exact about.elim (by simp [quiet]) phase.1
    | send => exact about.elim (by simp [quiet]) phase.2

theorem Forgotten.exec (forgotten : Forgotten s) {rest : List (Event TcpState)}
    (beside : ∀ e ∈ rest, e = .worker ∨ ∃ k, e = .network k)
    (ran : execFrom (stack dataless .listen 4096 4096) s rest = some v) : Forgotten v := by
  induction rest generalizing s with
  | nil =>
    obtain rfl := Option.some.inj ran
    exact forgotten
  | cons e rest ih =>
    obtain ⟨u, step, later⟩ := Option.bind_eq_some_iff.1 ran
    refine ih ?_ (fun e there => beside e (List.mem_cons_of_mem _ there)) later
    obtain ⟨quiet, phase, closed, asleep⟩ := forgotten
    rcases beside e List.mem_cons_self with rfl | ⟨k, rfl⟩
    · obtain ⟨k, there, turn⟩ := workerStep_turn step
      exact Forgotten.turn ⟨quiet, phase, closed, asleep⟩ turn
    · have polled : s.step dataless (.network k) = some u := step
      cases step_moved polled
      exact ⟨quiet, phase, closed, asleep⟩

end Forgotten

/-- The connection is reset and announced between the load of a `poll_read` and its
registration. -/
def announcedEarly : List (Event TcpState) :=
  [.network .established, .call (.pollRead 1), .task, .network .closed, .worker, .worker, .worker,
    .worker, .task, .task, .park]

theorem reader_never_woken : ∃ s, Runs (stack dataless .listen 4096 4096) announcedEarly s ∧
    s.task = .parked ∧ s.waiting.read = true ∧ s.connection.shared.readClosed = true ∧
    ∀ rest v, (∀ e ∈ rest, e = .worker ∨ ∃ k, e = .network k) →
      execFrom (stack dataless .listen 4096 4096) s rest = some v →
        v.connection.woken = false := by
  obtain ⟨s, ran, parked, waits, quiet, phase, closed, asleep⟩ :
      ∃ s, exec (stack dataless .listen 4096 4096) announcedEarly = some s ∧
        s.task = .parked ∧ s.waiting.read = true ∧ s.waking = none ∧
        s.connection.worker = .sending false ∧ s.connection.shared.readClosed = true ∧
        s.connection.woken = false :=
    ⟨_, rfl, rfl, rfl, rfl, rfl, rfl, rfl⟩
  have forgotten : Forgotten s := ⟨quiet, by simp [phase], closed, asleep⟩
  refine ⟨s, runs_of_exec ran, parked, waits, forgotten.closed, fun rest v beside later => ?_⟩
  exact (forgotten.exec beside later).asleep

end Ombrac.NetstackNotice
