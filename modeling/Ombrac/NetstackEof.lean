import Ombrac.NetstackBytes
import Ombrac.NetstackTurns

set_option autoImplicit false

/-!
# The end of the stream at its reader

A read of no bytes is the end of the stream. `poll_read` answers it when it has found the buffer
empty and then loads `read_closed` as set; the worker sets the flag when smoltcp no longer counts
the socket as open.
-/
namespace Ombrac.NetstackEof
open LabelledSystem NetstackTcp NetstackWaiters NetstackBytes NetstackTurns ProtocolPacket
  RingBuffer StackSink

/-! ## What a read answers -/

section Answers
variable {σ : Type}

/-- What the `poll_read` under way answers with its next access, and how many bytes its caller
has asked for. -/
def readReturn (s : Stream σ) : Option (ℕ × Poll Bytes) :=
  match s.task with
  | .calling (.readLoad len) =>
    if s.connection.shared.readClosed then some (len, .ready []) else none
  | .calling (.readRecheck len) =>
    if s.connection.recvBuffer.isEmpty then some (len, .pending) else none
  | .calling (.readPop len) => some (len, .ready (s.connection.recvBuffer.popSlice len).1)
  | _ => none

variable {net : Smoltcp σ} {socket : σ} {recvBufferSize sendBufferSize : ℕ+} {s : Stream σ}

/-- The answer ends the call, and its bytes are the caller's. -/
theorem readReturn_step {len : ℕ} {r : Poll Bytes} (answers : readReturn s = some (len, r)) :
    ∃ v, s.step net .task = some v ∧ v.task = .running ∧
      (v.waiting.read = true ↔ r = .pending) ∧
      ∀ bytes, r = .ready bytes →
        v.connection.returned = s.connection.returned ++ bytes := by
  unfold readReturn at answers
  split at answers
  · rename_i n calling
    split_ifs at answers with closed
    obtain ⟨rfl, rfl⟩ := Prod.mk.inj (Option.some.inj answers)
    refine ⟨s.readAnswer false, ?_, rfl, by simp [Stream.readAnswer, Stream.answer], ?_⟩
    · simp [Stream.step, calling, Stream.advance, closed]
    · rintro bytes ⟨⟩
      exact (List.append_nil _).symm
  · rename_i n calling
    split_ifs at answers with empty
    obtain ⟨rfl, rfl⟩ := Prod.mk.inj (Option.some.inj answers)
    refine ⟨s.readAnswer true, ?_, rfl, by simp [Stream.readAnswer, Stream.answer], ?_⟩
    · simp [Stream.step, calling, Stream.advance, empty]
    · rintro bytes ⟨⟩
  · rename_i n calling
    obtain ⟨rfl, rfl⟩ := Prod.mk.inj (Option.some.inj answers)
    refine ⟨(s.pop n).readAnswer false, ?_, rfl, by simp [Stream.readAnswer, Stream.answer], ?_⟩
    · simp [Stream.step, calling, Stream.advance]
    · rintro bytes ⟨⟩
      rfl
  · cases answers

/-- A call that nobody interrupts answers what `NetstackTcp` has it answer. -/
theorem pollRead_returns (running : s.task = .running) (len : ℕ) :
    ∃ n v, execFrom (stack net socket recvBufferSize sendBufferSize) s
      (.call (.pollRead len) :: List.replicate n .task) = some v ∧
        readReturn v = some (len, (s.connection.pollRead len).2) := by
  unfold Connection.pollRead
  split_ifs with empty closed
  · refine ⟨0, ?_⟩
    rw [exec_call running]
    simp [execFrom, Stream.begin, Stream.setPoint, readReturn, empty, closed]
  · refine ⟨2, ?_⟩
    rw [exec_call running]
    simp only [Stream.begin, empty, if_true, List.replicate]
    rw [exec_task rfl]
    simp only [Stream.advance, Stream.setPoint, closed, Bool.false_eq_true, if_false]
    rw [exec_task rfl]
    simp [execFrom, Stream.advance, Stream.setPoint, Stream.registerRecv, readReturn, empty]
  · refine ⟨0, ?_⟩
    rw [exec_call running]
    simp [execFrom, Stream.begin, Stream.setPoint, readReturn, empty]

end Answers

/-! ## A finished peer -/

/-- What smoltcp documents of `is_open` and `can_recv`; `empty` says of the socket's own receive
buffer that it holds nothing. -/
structure ReceiveHalf {σ : Type} (net : Smoltcp σ) where
  state : σ → TcpState
  empty : σ → Bool
  isOpen : ∀ k, net.isOpen k = false ↔ state k = .closed ∨ state k = .timeWait
  canRecv : ∀ k, empty k = true → net.canRecv k = false

def peerFinished : TcpState → Bool
  | .closeWait | .closing | .lastAck | .timeWait | .closed => true
  | _ => false

section Handled
variable {σ : Type}

structure Handling (M : System (Stream σ) (Event σ)) (t : Stream σ) (stretch : List (Event σ))
    (u : Stream σ) : Prop where
  begins : t.connection.worker = .receiving
  runs : execFrom M t stretch = some u
  ends : u.connection.worker = .pruning
  inside : ∀ first s, first <+: stretch → first ≠ stretch → execFrom M t first = some s →
    s.connection.worker ≠ .pruning

variable {net : Smoltcp σ}

/-- In a run, `handle_socket_io` handles from `t` to `u` the socket `k`, which was established
before, whose peer has finished and whose receive buffer is empty. -/
def HandlesFinished (half : ReceiveHalf net) (M : System (Stream σ) (Event σ))
    (es : List (Event σ)) (t : Stream σ) (k : σ) (u : Stream σ) : Prop :=
  ∃ before stretch, before ++ stretch <+: es ∧ Runs M before t ∧ Handling M t stretch u ∧
    t.connection.socket = some k ∧
    (∃ s j, Visits M before s ∧ s.connection.socket = some j ∧ half.state j = .established) ∧
    peerFinished (half.state k) = true ∧ half.empty k = true

variable {socket : σ} {recvBufferSize sendBufferSize : ℕ+}

/-- The read side is closed, and from now on every `poll_read` that finds the ring buffer empty
answers the end of the stream. -/
def EndsStream (net : Smoltcp σ) (socket : σ) (recvBufferSize sendBufferSize : ℕ+)
    (u : Stream σ) : Prop :=
  u.connection.shared.readClosed = true ∧
    ∀ rest v len, execFrom (stack net socket recvBufferSize sendBufferSize) u rest = some v →
      v.task = .running → v.connection.recvBuffer.isEmpty = true →
        ∃ w, v.step net (.call (.pollRead len)) = some w ∧ readReturn w = some (len, .ready [])

theorem readClosed_stays {rest : List (Event σ)} {u v : Stream σ}
    (closed : u.connection.shared.readClosed = true)
    (later : execFrom (stack net socket recvBufferSize sendBufferSize) u rest = some v) :
    v.connection.shared.readClosed = true :=
  execFrom_invariant (I := fun s : Stream σ => s.connection.shared.readClosed = true)
    (fun _ _ _ closed h => (step_flags h).1 closed) closed later

theorem endsStream_iff {u : Stream σ} :
    EndsStream net socket recvBufferSize sendBufferSize u ↔
      u.connection.shared.readClosed = true := by
  refine ⟨And.left, fun closed => ⟨closed, fun rest v len later running empty => ?_⟩⟩
  have still := readClosed_stays closed later
  refine ⟨{ v with late := v.connection.socket.isNone }.setPoint (.readLoad len), ?_, ?_⟩
  · simp [Stream.step, running, Stream.begin, empty]
  · simp [readReturn, Stream.setPoint, still]

/-- Where `handle_socket_io` is with a socket that has nothing to receive, and what becomes of the
flag, which was `closed`. -/
def Stage (net : Smoltcp σ) (k : σ) (closed : Bool) (s : Stream σ) : Prop :=
  (s.connection.socket = some k ∧
    (s.connection.worker = .receiving ∨ ∃ n, s.connection.worker = .checkingOpen n) ∧
    s.connection.shared.readClosed = closed) ∨
  (((∃ n, s.connection.worker = .sending n) ∨ s.connection.worker = .pruning) ∧
    s.connection.shared.readClosed = (closed || !net.isOpen k))

variable {s v : Stream σ} {k j : σ} {closed : Bool}

theorem Stage.apart (stage : Stage net k closed s) (apart : Apart s v) : Stage net k closed v := by
  unfold Stage
  rw [apart.socket, apart.worker, apart.readClosed]
  exact stage

theorem Stage.wake (stage : Stage net k closed s) (w : Waker) : Stage net k closed (s.wake w) := by
  cases w with
  | recv => exact stage
  | send => exact stage

/-- Receiving nothing, and the test of `is_open`. -/
theorem stage_receiving (nothing : net.canRecv k = false) (there : s.connection.socket = some k)
    (phase : s.connection.worker = .receiving ∨ ∃ n, s.connection.worker = .checkingOpen n)
    (turn : Turn net s k v) : Stage net k s.connection.shared.readClosed v := by
  cases turn with
  | wakes waking => exact Stage.wake (.inl ⟨there, phase, rfl⟩) _
  | received quiet receiving can offered => cases nothing.symm.trans can
  | failed quiet receiving can offered => cases nothing.symm.trans can
  | closed quiet checking shut unset =>
    refine .inr ⟨.inl ⟨false, rfl⟩, ?_⟩
    rw [shut, Bool.not_false, Bool.or_true]
    rfl
  | enqueued quiet sending offered => simp [sending] at phase
  | closes quiet closing written empty => simp [closing] at phase
  | removed quiet pruning => rcases pruning with pruning | pruning <;> simp [pruning] at phase
  | passes quiet idle opened owed next =>
    rcases phase with phase | ⟨n, phase⟩
    · rw [phase] at next
      cases next
      exact .inl ⟨there, .inr ⟨false, rfl⟩, rfl⟩
    · rw [phase] at next
      cases next
      refine .inr ⟨.inl ⟨false, rfl⟩, ?_⟩
      rcases opened n phase with still | set
      · rw [still, Bool.not_true, Bool.or_false]
      · exact set.trans (by rw [set, Bool.true_or])

theorem stage_sending {n : Bool} (phase : s.connection.worker = .sending n)
    (set : s.connection.shared.readClosed = (closed || !net.isOpen k))
    (turn : Turn net s j v) : Stage net k closed v := by
  cases turn with
  | wakes waking => exact Stage.wake (.inr ⟨.inl ⟨n, phase⟩, set⟩) _
  | received quiet receiving => cases phase.symm.trans receiving
  | failed quiet receiving => cases phase.symm.trans receiving
  | closed quiet checking => cases phase.symm.trans checking
  | enqueued quiet sending offered => exact .inr ⟨.inl ⟨true, rfl⟩, set⟩
  | closes quiet closing => cases phase.symm.trans closing
  | removed quiet pruning =>
    rcases pruning with pruning | pruning
    · cases phase.symm.trans pruning
    · cases phase.symm.trans pruning
  | passes quiet idle opened owed next =>
    rw [phase] at next
    cases next
    exact .inr ⟨.inr rfl, set⟩

theorem Stage.step (nothing : net.canRecv k = false) (stage : Stage net k closed s)
    (inside : s.connection.worker ≠ .pruning) {e : Event σ} (h : s.step net e = some v) :
    Stage net k closed v := by
  rcases step_apart h with ⟨j, there, turn⟩ | ⟨polling, j, rfl⟩ | apart
  · rcases stage with ⟨here, phase, rfl⟩ | ⟨phase, set⟩
    · obtain rfl : k = j := Option.some.inj (here.symm.trans there)
      exact stage_receiving nothing here phase turn
    · obtain ⟨n, phase⟩ := phase.resolve_right inside
      exact stage_sending phase set turn
  · rcases stage with ⟨_, phase, _⟩ | ⟨phase, _⟩
    · simp [polling] at phase
    · simp [polling] at phase
  · exact stage.apart apart

theorem Stage.exec (nothing : net.canRecv k = false) {stretch : List (Event σ)} {u : Stream σ}
    (stage : Stage net k closed s)
    (ran : execFrom (stack net socket recvBufferSize sendBufferSize) s stretch = some u)
    (inside : ∀ first v, first <+: stretch → first ≠ stretch →
      execFrom (stack net socket recvBufferSize sendBufferSize) s first = some v →
        v.connection.worker ≠ .pruning) : Stage net k closed u := by
  induction stretch generalizing s with
  | nil =>
    obtain rfl := Option.some.inj ran
    exact stage
  | cons e rest ih =>
    obtain ⟨v, step, later⟩ := Option.bind_eq_some_iff.1 ran
    have here := inside [] s List.nil_prefix (by simp) rfl
    refine ih (stage.step nothing here step) later fun first w front proper reached => ?_
    refine inside (e :: first) w (List.cons_prefix_cons.2 ⟨rfl, front⟩) (by simpa using proper) ?_
    exact (execFrom_step step first).trans reached

/-- The flag after a handling that had nothing to receive. -/
theorem Handling.readClosed {stretch : List (Event σ)} {t u : Stream σ}
    (handling : Handling (stack net socket recvBufferSize sendBufferSize) t stretch u)
    (there : t.connection.socket = some k) (nothing : net.canRecv k = false) :
    u.connection.shared.readClosed =
      (t.connection.shared.readClosed || !net.isOpen k) := by
  have stage : Stage net k t.connection.shared.readClosed u :=
    Stage.exec nothing (.inl ⟨there, .inl handling.begins, rfl⟩) handling.runs handling.inside
  rcases stage with ⟨_, phase, _⟩ | ⟨_, set⟩
  · simp [handling.ends] at phase
  · exact set

/-- The end of the stream follows the FIN of the peer exactly where smoltcp no longer counts the
socket as open, or the flag was set before. -/
theorem eof_follows_fin_iff (half : ReceiveHalf net) (es : List (Event σ)) :
    (∀ t k u, HandlesFinished half (stack net socket recvBufferSize sendBufferSize) es t k u →
      EndsStream net socket recvBufferSize sendBufferSize u) ↔
    ∀ t k u, HandlesFinished half (stack net socket recvBufferSize sendBufferSize) es t k u →
      half.state k = .timeWait ∨ half.state k = .closed ∨
        t.connection.shared.readClosed = true := by
  have each : ∀ t k u,
      HandlesFinished half (stack net socket recvBufferSize sendBufferSize) es t k u →
        (EndsStream net socket recvBufferSize sendBufferSize u ↔
          half.state k = .timeWait ∨ half.state k = .closed ∨
            t.connection.shared.readClosed = true) := by
    rintro t k u ⟨before, stretch, _, _, handling, there, _, _, empty⟩
    rw [endsStream_iff, handling.readClosed there (half.canRecv k empty), Bool.or_eq_true,
      Bool.not_eq_true', half.isOpen k]
    exact ⟨fun h => by tauto, fun h => by tauto⟩
  exact forall₃_congr fun t k u => forall_congr' (each t k u)

end Handled

def datalessHalf : ReceiveHalf dataless where
  state := id
  empty _ := true
  isOpen := dataless_lawful.isOpen
  canRecv _ _ := rfl

def finArrives : List (Event TcpState) := [.network .established, .network .closeWait, .worker]

theorem closeWait_ends_no_stream : ∃ t u,
    HandlesFinished datalessHalf (stack dataless .listen 4096 4096)
      (finArrives ++ [.worker, .worker, .worker]) t .closeWait u ∧
    ¬EndsStream dataless .listen 4096 4096 u := by
  obtain ⟨t, u, ran, handled, there, begins, ends, opened⟩ :
      ∃ t u, exec (stack dataless .listen 4096 4096) finArrives = some t ∧
        execFrom (stack dataless .listen 4096 4096) t [.worker, .worker, .worker] = some u ∧
        t.connection.socket = some .closeWait ∧ t.connection.worker = .receiving ∧
        u.connection.worker = .pruning ∧ u.connection.shared.readClosed = false :=
    ⟨_, _, rfl, rfl, rfl, rfl, rfl, rfl⟩
  have run := runs_of_exec ran
  refine ⟨t, u, ⟨finArrives, [.worker, .worker, .worker], List.prefix_rfl, run,
    ⟨begins, handled, ends, ?_⟩, there, ?_, rfl, rfl⟩, ?_⟩
  · intro first s front proper reached phase
    have short : first.length < 3 := lt_of_le_of_ne front.length_le fun same =>
      proper (front.eq_of_length same)
    have all : ∀ n < 3, ((exec (stack dataless .listen 4096 4096)
        (finArrives ++ [.worker, .worker, .worker].take n)).all
          fun s => decide (s.connection.worker ≠ .pruning)) = true := by
      decide
    have here := all first.length short
    rw [← List.prefix_iff_eq_take.1 front, exec, execFrom_append, ← exec, ran, Option.bind_some,
      reached] at here
    exact of_decide_eq_true here phase
  · obtain ⟨s, begun, established⟩ : ∃ s,
        exec (stack dataless .listen 4096 4096) [.network .established] = some s ∧
          s.connection.socket = some .established := ⟨_, rfl, rfl⟩
    exact ⟨s, .established, ⟨_, ⟨_, rfl⟩, runs_of_exec begun⟩, established, rfl⟩
  · rw [endsStream_iff, opened]
    simp

/-! ## The last bytes and the flag -/

section Honest
variable {σ : Type}

/-- A read of no bytes answers only when the flag is set and every byte received has been
returned. -/
def HonestEof (s : Stream σ) : Prop :=
  ∀ len, readReturn s = some (len, .ready []) → 0 < len →
    s.connection.shared.readClosed = true ∧ s.connection.recvBuffer.isEmpty = true ∧
      s.connection.returned = s.connection.received

/-- The worker puts no bytes into the buffer with the flag set, and does not set the flag over
bytes. -/
structure Closes (net : Smoltcp σ) (s : Stream σ) (k : σ) : Prop where
  pushes : s.connection.worker = .receiving → net.canRecv k = true →
    ∀ slice, net.recvSlice k = some slice → s.connection.recvBuffer.accepts slice ≠ [] →
      s.connection.shared.readClosed = false
  fails : s.connection.worker = .receiving → net.canRecv k = true → net.recvSlice k = none →
    s.connection.recvBuffer.isEmpty = true
  stores : ∀ n, s.connection.worker = .checkingOpen n → net.isOpen k = false →
    s.connection.shared.readClosed = false → s.connection.recvBuffer.isEmpty = true

/-- So it is in each turn that falls between the length check of a `poll_read` and its load of the
flag. -/
def KeptApart (net : Smoltcp σ) (s : Stream σ) : Event σ → Prop
  | .worker => ∀ len k, s.task = .calling (.readLoad len) → 0 < len →
      s.connection.socket = some k → s.waking = none → Closes net s k
  | _ => True

def Overtaken (s : Stream σ) : Prop :=
  ∃ len, s.task = .calling (.readLoad len) ∧ 0 < len ∧
    s.connection.shared.readClosed = true ∧ s.Readable

structure Reading (recvBufferSize sendBufferSize : ℕ) (s : Stream σ) : Prop where
  exact : Exact recvBufferSize sendBufferSize (ledger s.connection)
  pops : ∀ len, s.task = .calling (.readPop len) → s.Readable

variable {net : Smoltcp σ} {recvBufferSize sendBufferSize : ℕ} {s v : Stream σ} {k : σ}

theorem Reading.honest_iff (reading : Reading recvBufferSize sendBufferSize s) :
    HonestEof s ↔ ¬Overtaken s := by
  constructor
  · rintro honest ⟨len, calling, positive, closed, readable⟩
    have answers : readReturn s = some (len, .ready []) := by simp [readReturn, calling, closed]
    cases (honest len answers positive).2.1.symm.trans readable
  · intro kept len answers positive
    unfold readReturn at answers
    split at answers
    · rename_i n calling
      split_ifs at answers with closed
      obtain ⟨rfl, _⟩ := Prod.mk.inj (Option.some.inj answers)
      have empty : s.connection.recvBuffer.isEmpty = true := by
        rw [← Bool.not_eq_false]
        exact fun readable => kept ⟨n, calling, positive, closed, readable⟩
      have received : s.connection.received =
          s.connection.returned ++ s.connection.recvBuffer.contents := reading.exact.received
      refine ⟨closed, empty, ?_⟩
      rw [received, List.isEmpty_iff.1 empty, List.append_nil]
    · split_ifs at answers
      cases answers
    · rename_i n calling
      obtain ⟨rfl, popped⟩ := Prod.mk.inj (Option.some.inj answers)
      have taken : s.connection.recvBuffer.contents.take n = [] := Poll.ready.inj popped
      have readable := List.isEmpty_eq_false_iff.1 (reading.pops n calling)
      rcases List.take_eq_nil_iff.1 taken with zero | none_left
      · exact absurd zero positive.ne'
      · exact absurd none_left readable
    · cases answers

theorem accepts_of_pushed {r : RingBuf UInt8} {slice : Bytes} (empty : r.isEmpty = true) :
    (r.pushSlice slice).isEmpty = true ↔ r.accepts slice = [] := by
  rw [RingBuf.isEmpty, List.isEmpty_iff, RingBuf.pushSlice_contents, List.append_eq_nil_iff]
  exact and_iff_right (List.isEmpty_iff.1 empty)

/-- A turn that neither sets the flag nor puts bytes into the buffer. -/
theorem closes_of_idle (receiving : s.connection.worker = .receiving → net.canRecv k = false)
    (checking : ∀ n, s.connection.worker = .checkingOpen n →
      net.isOpen k = true ∨ s.connection.shared.readClosed = true) : Closes net s k where
  pushes phase can := by cases (receiving phase).symm.trans can
  fails phase can := by cases (receiving phase).symm.trans can
  stores n phase shut unset := by
    rcases checking n phase with still | set
    · cases shut.symm.trans still
    · cases unset.symm.trans set

/-- In the window, a turn leaves the flag over bytes exactly when it breaks the rule. -/
theorem turn_closes (quiet : s.waking = none)
    (clean : s.connection.shared.readClosed = true → s.connection.recvBuffer.isEmpty = true)
    (turn : Turn net s k v) :
    (v.connection.shared.readClosed = true → v.connection.recvBuffer.isEmpty = true) ↔
      Closes net s k := by
  cases turn with
  | wakes waking => cases quiet.symm.trans waking
  | @received slice _ phase can offered =>
    constructor
    · intro honest
      refine ⟨fun _ _ slice' offered' pushed => ?_, fun _ _ failed => ?_, fun n checking => ?_⟩
      · obtain rfl : slice = slice' := Option.some.inj (offered.symm.trans offered')
        rw [← Bool.not_eq_true]
        exact fun closed => pushed ((accepts_of_pushed (clean closed)).1 (honest closed))
      · cases offered.symm.trans failed
      · cases phase.symm.trans checking
    · intro closes closed
      refine (accepts_of_pushed (clean closed)).2 ?_
      by_contra pushed
      cases closed.symm.trans (closes.pushes phase can slice offered pushed)
  | failed _ phase can offered =>
    constructor
    · intro honest
      refine ⟨fun _ _ slice offered' => ?_, fun _ _ _ => honest rfl, fun n checking => ?_⟩
      · cases offered.symm.trans offered'
      · cases phase.symm.trans checking
    · exact fun closes _ => closes.fails phase can offered
  | closed _ phase shut unset =>
    constructor
    · intro honest
      refine ⟨fun receiving => ?_, fun receiving => ?_, fun _ _ _ _ => honest rfl⟩
      · cases phase.symm.trans receiving
      · cases phase.symm.trans receiving
    · exact fun closes _ => closes.stores _ phase shut unset
  | enqueued _ phase offered =>
    exact iff_of_true clean (closes_of_idle (by simp [phase]) (by simp [phase]))
  | closes _ phase written empty =>
    exact iff_of_true clean (closes_of_idle (by simp [phase]) (by simp [phase]))
  | removed _ phase =>
    refine iff_of_true clean ?_
    rcases phase with phase | phase
    · exact closes_of_idle (by simp [phase]) (by simp [phase])
    · exact closes_of_idle (by simp [phase]) (by simp [phase])
  | passes _ idle opened owed next => exact iff_of_true clean (closes_of_idle idle opened)

/-- Outside the window nothing is overtaken. -/
theorem not_overtaken (elsewhere : ∀ len, s.task ≠ .calling (.readLoad len)) : ¬Overtaken s :=
  fun ⟨len, calling, _⟩ => elsewhere len calling

theorem overtaken_turn (there : s.connection.socket = some k) (turn : Turn net s k v)
    (kept : ¬Overtaken s) : ¬Overtaken v ↔ KeptApart net s .worker := by
  have same := turn.task
  by_cases window : ∃ len, s.task = .calling (.readLoad len) ∧ 0 < len
  · obtain ⟨len, calling, positive⟩ := window
    have clean : ∀ {u : Stream σ}, u.task = .calling (.readLoad len) →
        (¬Overtaken u ↔ (u.connection.shared.readClosed = true →
          u.connection.recvBuffer.isEmpty = true)) := by
      intro u here
      constructor
      · intro kept closed
        rw [← Bool.not_eq_false]
        exact fun readable => kept ⟨len, here, positive, closed, readable⟩
      · rintro clean ⟨_, _, _, closed, readable⟩
        cases (clean closed).symm.trans readable
    rw [clean (same.trans calling)]
    cases waking : s.waking with
    | some w =>
      refine iff_of_true ?_ fun _ _ _ _ _ quiet => ?_
      · cases turn with
        | wakes now => cases ‹Waker› <;> exact (clean calling).1 kept
        | received quiet | failed quiet | closed quiet | enqueued quiet | closes quiet
        | removed quiet | passes quiet => cases waking.symm.trans quiet
      · cases waking.symm.trans quiet
    | none =>
      rw [turn_closes waking ((clean calling).1 kept) turn]
      refine ⟨fun closes _ j _ _ here _ => ?_, fun apart => ?_⟩
      · obtain rfl : k = j := Option.some.inj (there.symm.trans here)
        exact closes
      · exact apart len k calling positive there waking
  · refine iff_of_true ?_ fun len j calling positive => absurd ⟨len, calling, positive⟩ window
    rintro ⟨len, calling, positive, _⟩
    exact window ⟨len, same.symm.trans calling, positive⟩

structure Entered (s : Stream σ) : Prop where
  load : ∀ len, s.task = .calling (.readLoad len) → s.connection.recvBuffer.isEmpty = true
  pop : ∀ len, s.task = .calling (.readPop len) → s.Readable

theorem Entered.not_overtaken (entered : Entered s) : ¬Overtaken s := by
  rintro ⟨len, calling, _, _, readable⟩
  cases (entered.load len calling).symm.trans readable

theorem Entered.setPoint {p : Point}
    (load : ∀ len, p = .readLoad len → s.connection.recvBuffer.isEmpty = true)
    (pop : ∀ len, p = .readPop len → s.Readable) : Entered (s.setPoint p) where
  load len calling := load len (Task.calling.inj calling)
  pop len calling := pop len (Task.calling.inj calling)

theorem Entered.answer (w : Waiting) (pending : Bool) : Entered (s.answer w pending) where
  load len calling := by cases calling
  pop len calling := by cases calling

theorem Entered.flushed (shutdown : Bool) : Entered (s.flushed shutdown) := by
  cases shutdown with
  | false => exact .answer _ false
  | true => exact .setPoint (by simp) (by simp)

theorem entered_begun (begun : Begun s v) : Entered v := by
  cases begun with
  | loads empty => exact .setPoint (fun _ _ => empty) (by simp)
  | pops readable => exact .setPoint (by simp) (fun _ _ => readable)
  | refused => exact .answer _ false
  | writes | registers => exact .setPoint (by simp) (by simp)
  | flushed shutdown empty => exact .flushed shutdown
  | drops => exact ⟨fun len now => (by cases now), fun len now => (by cases now)⟩

theorem entered_accessed {p : Point} (accessed : Accessed s p v) : Entered v := by
  cases accessed with
  | ends | pops | pushes | closes => exact .answer _ false
  | readWaits | writeWaits | flushWaits => exact .answer _ true
  | readFinds readable => exact .setPoint (by simp) (fun _ _ => readable)
  | flushed empty => exact .flushed _
  | goesOn | registersRead | full | writeFinds | registersWrite | writeRefinds | registersFlush =>
    exact .setPoint (by simp) (by simp)

theorem Reading.step {e : Event σ} (reading : Reading recvBufferSize sendBufferSize s)
    (h : s.step net e = some v) : Reading recvBufferSize sendBufferSize v := by
  have moves : Transfer net (fun _ _ => True) s.connection v.connection :=
    step_transfer (fun _ _ _ _ => trivial) h
  refine ⟨reading.exact.transfer moves, ?_⟩
  cases step_moved h with
  | turned there turn =>
    exact fun len calling => turn.readable (reading.pops len (turn.task ▸ calling))
  | called running begun => exact (entered_begun begun).pop
  | advanced calling accessed => exact (entered_accessed accessed).pop
  | polled | spurious => exact reading.pops
  | parked | resumed => exact fun len calling => by cases calling

/-- One step leaves reads honest exactly when it is kept apart from them. -/
theorem Reading.honest_step {e : Event σ} (reading : Reading recvBufferSize sendBufferSize s)
    (honest : HonestEof s) (h : s.step net e = some v) : HonestEof v ↔ KeptApart net s e := by
  rw [(reading.step h).honest_iff]
  have kept := reading.honest_iff.1 honest
  cases step_moved h with
  | turned there turn => exact overtaken_turn there turn kept
  | called running begun => exact iff_of_true (entered_begun begun).not_overtaken trivial
  | advanced calling accessed => exact iff_of_true (entered_accessed accessed).not_overtaken trivial
  | polled | spurious => exact iff_of_true kept trivial
  | parked | resumed =>
    refine iff_of_true ?_ trivial
    rintro ⟨len, calling, _⟩
    cases calling

end Honest

section HonestRuns
variable {σ : Type} {net : Smoltcp σ} {socket : σ} {recvBufferSize sendBufferSize : ℕ+}

/-- No read ends the stream before its bytes are read, exactly when the worker keeps its last
bytes and the flag out of the window of a `poll_read`. -/
theorem no_premature_eof_iff (es : List (Event σ)) :
    (∀ s, Visits (stack net socket recvBufferSize sendBufferSize) es s → HonestEof s) ↔
      ∀ s e v, Takes (stack net socket recvBufferSize sendBufferSize) es s e v →
        KeptApart net s e := by
  have reading : Reading recvBufferSize sendBufferSize
      (stack net socket recvBufferSize sendBufferSize).initial :=
    ⟨⟨rfl, rfl, rfl, rfl⟩, fun len calling => by cases calling⟩
  refine safe_iff_guarded (I := Reading recvBufferSize sendBufferSize) reading ?_
    (fun _ _ _ reading _ h => reading.step h)
    (fun _ _ _ reading honest h => reading.honest_step honest h)
  exact fun len answers => by cases answers

end HonestRuns

structure UnreadSocket where
  state : TcpState
  unread : Bytes

def unreadSmoltcp : Smoltcp UnreadSocket where
  canRecv k := !k.unread.isEmpty
  canSend _ := false
  isOpen k := dataless.isOpen k.state
  isActive k := dataless.isActive k.state
  established k := dataless.established k.state
  recvSlice k := if k.unread.isEmpty then none else some k.unread
  recvTake k n := { k with unread := k.unread.drop n }
  sendSlice _ := none
  sendPut k _ := k
  close k := { k with state := dataless.close k.state }
  active_of_established k := dataless.active_of_established k.state

/-- The last byte and a reset arrive after the length check of a `poll_read`. -/
def lastByte : List (Event UnreadSocket) :=
  [.network ⟨.established, []⟩, .call (.pollRead 4), .network ⟨.closed, [7]⟩, .worker, .worker,
    .worker]

theorem last_byte_overtaken : ∃ s, Visits (stack unreadSmoltcp ⟨.listen, []⟩ 4096 4096) lastByte s ∧
    readReturn s = some (4, .ready []) ∧ s.connection.recvBuffer.contents = [7] ∧
    ¬HonestEof s := by
  obtain ⟨s, ran, answers, kept⟩ :
      ∃ s, exec (stack unreadSmoltcp ⟨.listen, []⟩ 4096 4096) lastByte = some s ∧
        readReturn s = some (4, .ready []) ∧ s.connection.recvBuffer.contents = [7] :=
    ⟨_, rfl, rfl, rfl⟩
  refine ⟨s, (runs_of_exec ran).visits, answers, kept, fun honest => ?_⟩
  have empty := List.isEmpty_iff.1 (honest 4 answers (by decide)).2.1
  cases kept.symm.trans empty

end Ombrac.NetstackEof
