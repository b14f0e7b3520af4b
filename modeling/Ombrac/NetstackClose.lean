import Ombrac.NetstackBytes
import Ombrac.NetstackTurns

set_option autoImplicit false

/-!
# When the worker closes the socket

`prune_sockets` loads `write_closed` and then looks at the send buffer, and the stream may act in
between. The flag is set by a shutdown that has found the send buffer empty, and nothing is
written after it.
-/
namespace Ombrac.NetstackClose
open LabelledSystem NetstackTcp NetstackWaiters NetstackBytes NetstackTurns ProtocolPacket
  RingBuffer

/-- `loaded` says that `prune_sockets` has loaded `write_closed` as set and has not yet looked at
the send buffer. -/
structure Pruned (σ : Type) where
  stream : Stream σ
  loaded : Bool

section Steps
variable {σ : Type}

def deciding (s : Stream σ) : Option σ :=
  match s.waking, s.connection.worker with
  | none, .closing => s.connection.socket
  | _, _ => none

def skipClose (s : Stream σ) : Stream σ :=
  { s with connection := { s.connection with worker := .checkingActive } }

def callClose (net : Smoltcp σ) (s : Stream σ) (k : σ) : Stream σ :=
  { s with connection := { s.connection with
    socket := some (net.close k)
    closeCalled := true
    worker := .checkingActive } }

def closeCheck (net : Smoltcp σ) (p : Pruned σ) (k : σ) : Pruned σ :=
  if p.loaded then
    if p.stream.connection.sendBuffer.isEmpty then ⟨callClose net p.stream k, false⟩
    else ⟨skipClose p.stream, false⟩
  else if p.stream.connection.shared.writeClosed then ⟨p.stream, true⟩
  else ⟨skipClose p.stream, false⟩

def pruneStep (net : Smoltcp σ) (p : Pruned σ) (e : Event σ) : Option (Pruned σ) :=
  match e, deciding p.stream with
  | .worker, some k => some (closeCheck net p k)
  | e, _ => (p.stream.step net e).map fun s => { p with stream := s }

def CallsClose (p : Pruned σ) (e : Event σ) : Prop :=
  e = .worker ∧ (deciding p.stream).isSome = true ∧ p.loaded = true ∧
    p.stream.connection.sendBuffer.isEmpty = true

end Steps

def pruning {σ : Type} (net : Smoltcp σ) (socket : σ) (recvBufferSize sendBufferSize : ℕ+) :
    System (Pruned σ) (Event σ) where
  initial := ⟨.new socket recvBufferSize sendBufferSize, false⟩
  step := pruneStep net

section Steps
variable {σ : Type} {net : Smoltcp σ} {s v : Stream σ} {p q : Pruned σ} {k : σ}

theorem deciding_some (here : deciding s = some k) :
    s.waking = none ∧ s.connection.worker = .closing ∧ s.connection.socket = some k := by
  unfold deciding at here
  split at here
  · exact ⟨‹_›, ‹_›, here⟩
  · cases here

/-- A decision, or a step of the stream. -/
theorem pruneStep_cases {e : Event σ} (h : pruneStep net p e = some q) :
    (∃ k, e = .worker ∧ deciding p.stream = some k ∧ q = closeCheck net p k) ∨
      (p.stream.step net e = some q.stream ∧ q.loaded = p.loaded) := by
  unfold pruneStep at h
  split at h
  · rename_i k here
    exact .inl ⟨k, rfl, here, (Option.some.inj h).symm⟩
  · obtain ⟨s, step, rfl⟩ := Option.map_eq_some_iff.1 h
    exact .inr ⟨step, rfl⟩

theorem decided_step (here : deciding s = some k) :
    s.step net .worker = some { s with connection := s.connection.closeWritten net k } := by
  obtain ⟨quiet, phase, there⟩ := deciding_some here
  simp [Stream.step, Stream.workerStep, NetstackTcp.workerStep, quiet, phase, there]

/-- The load is no step of the stream; with what comes of it, the two accesses are one. -/
theorem closeCheck_steps (net : Smoltcp σ) (here : deciding p.stream = some k)
    (loaded : p.loaded = true → p.stream.connection.shared.writeClosed = true) :
    (closeCheck net p k = ⟨p.stream, true⟩ ∧ p.stream.connection.shared.writeClosed = true) ∨
      (p.stream.step net .worker = some (closeCheck net p k).stream ∧
        (closeCheck net p k).loaded = false) := by
  rw [decided_step here]
  unfold closeCheck
  split_ifs with before empty written
  · refine .inr ⟨?_, rfl⟩
    simp only [Connection.closeWritten, loaded before, empty, Bool.and_self, if_true]
    rfl
  · refine .inr ⟨?_, rfl⟩
    simp only [Connection.closeWritten, empty, Bool.and_false]
    rfl
  · exact .inl ⟨rfl, written⟩
  · refine .inr ⟨?_, rfl⟩
    simp only [Connection.closeWritten, written, Bool.false_and]
    rfl

end Steps

/-! ## What the stream has done when the flag is set -/

section Graceful
variable {σ : Type}

/-- A write is under way only before the flag is set, and a shutdown sets it over an empty
buffer. -/
def At (s : Stream σ) : Point → Prop
  | .writeCheck _ | .writeRegister _ | .writeRecheck _ | .writePush _ =>
    s.connection.shared.writeClosed = false
  | .storeWriteClosed => s.connection.sendBuffer.isEmpty = true
  | _ => True

structure Graceful (s : Stream σ) : Prop where
  drained : s.connection.shared.writeClosed = true → s.connection.sendBuffer.isEmpty = true
  closes : s.connection.closeCalled = true → s.connection.shared.writeClosed = true
  point : ∀ p, s.task = .calling p → At s p

variable {net : Smoltcp σ} {s v : Stream σ} {k : σ}

/-- A turn of the worker takes bytes out of the send buffer and puts none in. -/
theorem turn_empties (turn : Turn net s k v) :
    (s.connection.sendBuffer.isEmpty = true → v.connection.sendBuffer.isEmpty = true) ∧
      (v.connection.closeCalled = true →
        s.connection.closeCalled = true ∨ s.connection.shared.writeClosed = true) := by
  cases turn with
  | wakes waking => cases ‹Waker› <;> exact ⟨id, .inl⟩
  | enqueued quiet phase offered => exact ⟨fun empty => RingBuf.popSlice_empty empty _, .inl⟩
  | closes quiet phase written empty => exact ⟨id, fun _ => .inr written⟩
  | received | failed | closed | removed | passes => exact ⟨id, .inl⟩

theorem Graceful.of_kept (inv : Graceful s) (task : v.task = s.task)
    (written : v.connection.shared.writeClosed = s.connection.shared.writeClosed)
    (empties : s.connection.sendBuffer.isEmpty = true → v.connection.sendBuffer.isEmpty = true)
    (closes : v.connection.closeCalled = true →
      s.connection.closeCalled = true ∨ s.connection.shared.writeClosed = true) :
    Graceful v where
  drained closed := empties (inv.drained (written ▸ closed))
  closes called := written.trans ((closes called).elim inv.closes id)
  point p calling := by
    have here := inv.point p (task ▸ calling)
    cases p with
    | writeCheck | writeRegister | writeRecheck | writePush => exact written.trans here
    | storeWriteClosed => exact empties here
    | readLoad | readRegister | readRecheck | readPop | flushRegister | flushRecheck => trivial

/-- The call goes on with its next access. -/
theorem Graceful.setPoint (inv : Graceful s) {p : Point} (here : At s p) :
    Graceful (s.setPoint p) where
  drained := inv.drained
  closes := inv.closes
  point q calling := by
    cases calling
    exact here

theorem Graceful.answer (inv : Graceful s) (w : Waiting) (pending : Bool) :
    Graceful (s.answer w pending) where
  drained := inv.drained
  closes := inv.closes
  point q calling := by cases calling

theorem Graceful.flushed (inv : Graceful s) (empty : s.connection.sendBuffer.isEmpty = true)
    (shutdown : Bool) : Graceful (s.flushed shutdown) := by
  cases shutdown with
  | false => exact inv.answer _ false
  | true => exact inv.setPoint empty

theorem Graceful.begin (inv : Graceful s) (begun : Begun s v) : Graceful v := by
  cases begun with
  | loads | pops | registers => exact inv.setPoint trivial
  | refused => exact inv.answer _ false
  | writes opened => exact inv.setPoint (p := .writeCheck _) opened
  | flushed shutdown empty => exact inv.flushed empty shutdown
  | drops => exact ⟨inv.drained, inv.closes, fun q calling => by cases calling⟩

theorem Graceful.advance (inv : Graceful s) {p : Point} (calling : s.task = .calling p)
    (accessed : Accessed s p v) : Graceful v := by
  have here := inv.point p calling
  cases accessed with
  | ends => exact inv.answer _ false
  | readWaits | writeWaits | flushWaits => exact inv.answer _ true
  | goesOn | readFinds => exact inv.setPoint trivial
  | full => exact inv.setPoint (p := .writeRegister _) here
  | writeFinds | writeRefinds => exact inv.setPoint (p := .writePush _) here
  | registersRead | registersFlush =>
    exact ⟨inv.drained, inv.closes, fun q now => by cases now; trivial⟩
  | registersWrite => exact ⟨inv.drained, inv.closes, fun q now => by cases now; exact here⟩
  | pops => exact ⟨inv.drained, inv.closes, fun q now => by cases now⟩
  | pushes =>
    refine ⟨fun closed => ?_, inv.closes, fun q now => by cases now⟩
    cases closed.symm.trans here
  | flushed empty => exact inv.flushed empty _
  | closes => exact ⟨fun _ => here, fun _ => rfl, fun q now => by cases now⟩

theorem Graceful.step {e : Event σ} (inv : Graceful s) (h : s.step net e = some v) :
    Graceful v := by
  cases step_moved h with
  | turned there turn =>
    obtain ⟨empties, closes⟩ := turn_empties turn
    exact inv.of_kept turn.task turn.writeClosed empties closes
  | called running begun =>
    have later : Graceful { s with late := s.connection.socket.isNone } :=
      inv.of_kept rfl rfl id .inl
    exact later.begin begun
  | advanced calling accessed => exact inv.advance calling accessed
  | polled there polling => exact inv.of_kept rfl rfl id .inl
  | spurious => exact inv.of_kept rfl rfl id .inl
  | parked | resumed => exact ⟨inv.drained, inv.closes, fun q calling => by cases calling⟩

/-- With the flag set, the send buffer is empty and stays so. -/
theorem accepts_nothing {e : Event σ} (before : Graceful s)
    (closed : s.connection.shared.writeClosed = true) (h : s.step net e = some v) :
    v.connection.accepted = s.connection.accepted ∧
      v.connection.sendBuffer.contents = [] := by
  have empty : s.connection.sendBuffer.contents = [] := List.isEmpty_iff.1 (before.drained closed)
  have after : v.connection.sendBuffer.contents = [] :=
    List.isEmpty_iff.1 ((before.step h).drained ((step_flags h).2 closed))
  refine ⟨?_, after⟩
  have moves : Transfer net (fun _ _ => True) s.connection v.connection :=
    step_transfer (fun _ _ _ _ => trivial) h
  cases moves with
  | stay _ moved | removed _ moved | closed _ _ _ moved | polled _ _ _ _ _ moved
  | received _ _ _ _ _ moved | enqueued _ _ _ _ _ moved | returned _ _ moved =>
    exact (Ledger.mk.inj moved).2.2.1
  | accepted buf _ moved =>
    obtain ⟨_, buffer, accepted, _⟩ := Ledger.mk.inj moved
    have pushed : s.connection.sendBuffer.contents ++ s.connection.sendBuffer.accepts buf = [] :=
      (congrArg RingBuf.contents buffer).symm.trans after
    rw [accepted, (List.append_eq_nil_iff.1 pushed).2, List.append_nil]

end Graceful

/-! ## The close comes last -/

section Runs
variable {σ : Type} {net : Smoltcp σ} {socket : σ} {recvBufferSize sendBufferSize : ℕ+}
  {es : List (Event σ)} {p : Pruned σ} {s : Stream σ}

theorem graceful_runs (run : Runs (stack net socket recvBufferSize sendBufferSize) es s) :
    Graceful s := by
  refine run.invariant (I := Graceful) ⟨fun closed => ?_, fun called => ?_, fun q calling => ?_⟩
    (fun u e v inv h => inv.step h)
  · cases closed
  · cases called
  · cases calling

/-- A step of `prune_sockets` and the steps of the stream that it comes to. -/
theorem pruneStep_matched {q : Pruned σ} {e : Event σ} (h : pruneStep net p e = some q)
    (loaded : p.loaded = true → p.stream.connection.shared.writeClosed = true) :
    ∃ more, execFrom (stack net socket recvBufferSize sendBufferSize) p.stream more =
        some q.stream ∧ (q.loaded = true → q.stream.connection.shared.writeClosed = true) := by
  rcases pruneStep_cases h with ⟨k, rfl, here, rfl⟩ | ⟨step, same⟩
  · rcases closeCheck_steps net here loaded with ⟨load, written⟩ | ⟨step, fresh⟩
    · rw [load]
      exact ⟨[], rfl, fun _ => written⟩
    · refine ⟨[.worker], execFrom_step step [], fun loaded => ?_⟩
      cases fresh.symm.trans loaded
  · refine ⟨[e], execFrom_step step [], fun after => ?_⟩
    exact (step_flags step).2 (loaded (same.symm.trans after))

/-- The stream of a run in which `prune_sockets` takes two accesses is that of a run in which it
takes one. -/
theorem pruning_simulated (run : Runs (pruning net socket recvBufferSize sendBufferSize) es p) :
    ∃ fs, Runs (stack net socket recvBufferSize sendBufferSize) fs p.stream ∧
      (p.loaded = true → p.stream.connection.shared.writeClosed = true) := by
  have simulated : ∃ fs s, Runs (stack net socket recvBufferSize sendBufferSize) fs s ∧
      p.stream = s ∧ (p.loaded = true → s.connection.shared.writeClosed = true) := by
    refine run.simulated (R := fun p s =>
      p.stream = s ∧ (p.loaded = true → s.connection.shared.writeClosed = true)) ?_ ?_
    · exact ⟨rfl, fun loaded => by cases loaded⟩
    · rintro fs p e q _ matched ⟨rfl, loaded⟩ h
      obtain ⟨more, after, loaded⟩ := pruneStep_matched h loaded
      exact ⟨more, q.stream, after, rfl, loaded⟩
  obtain ⟨fs, s, matched, rfl, loaded⟩ := simulated
  exact ⟨fs, matched, loaded⟩

theorem enqueued_all (run : Runs (pruning net socket recvBufferSize sendBufferSize) es p)
    (empty : p.stream.connection.sendBuffer.isEmpty = true) :
    p.stream.connection.enqueued = p.stream.connection.accepted := by
  obtain ⟨fs, matched, _⟩ := pruning_simulated run
  have exact : p.stream.connection.accepted =
      p.stream.connection.enqueued ++ p.stream.connection.sendBuffer.contents :=
    (runs_exact matched).accepted
  rw [exact, List.isEmpty_iff.1 empty, List.append_nil]

/-- The worker closes the socket only when every accepted byte has been enqueued into it, which
stays so, and once `write_closed` is set nothing enters the send buffer. -/
theorem graceful_close :
    (∀ p e q, Takes (pruning net socket recvBufferSize sendBufferSize) es p e q →
      CallsClose p e → p.stream.connection.enqueued = p.stream.connection.accepted) ∧
    (∀ p, Visits (pruning net socket recvBufferSize sendBufferSize) es p →
      p.stream.connection.closeCalled = true →
        p.stream.connection.enqueued = p.stream.connection.accepted) ∧
    (∀ p e q, Takes (pruning net socket recvBufferSize sendBufferSize) es p e q →
      p.stream.connection.shared.writeClosed = true →
        q.stream.connection.shared.writeClosed = true ∧
        q.stream.connection.accepted = p.stream.connection.accepted ∧
        q.stream.connection.sendBuffer.contents <:+ p.stream.connection.sendBuffer.contents) := by
  refine ⟨?_, ?_, ?_⟩
  · rintro p e q ⟨before, _, run, _⟩ ⟨rfl, _, _, empty⟩
    exact enqueued_all run empty
  · rintro p ⟨before, _, run⟩ called
    obtain ⟨fs, matched, _⟩ := pruning_simulated run
    have graceful := graceful_runs matched
    exact enqueued_all run (graceful.drained (graceful.closes called))
  · rintro p e q ⟨before, _, run, h⟩ closed
    obtain ⟨fs, matched, loaded⟩ := pruning_simulated run
    have graceful := graceful_runs matched
    rcases pruneStep_cases h with ⟨k, rfl, here, rfl⟩ | ⟨step, _⟩
    · rcases closeCheck_steps net here loaded with ⟨load, written⟩ | ⟨step, _⟩
      · rw [load]
        exact ⟨closed, rfl, List.suffix_rfl⟩
      · obtain ⟨accepted, empty⟩ := accepts_nothing graceful closed step
        exact ⟨(step_flags step).2 closed, accepted, empty ▸ List.nil_suffix⟩
    · obtain ⟨accepted, empty⟩ := accepts_nothing graceful closed step
      exact ⟨(step_flags step).2 closed, accepted, empty ▸ List.nil_suffix⟩

end Runs

/-- Two bytes are written, the worker enqueues them, the stream is shut down, and the worker has
loaded the flag. -/
def writtenAndShut : List (Event WrappedSocket) :=
  [.call (.pollWrite [7, 8]), .task, .task, .worker, .worker, .worker, .worker, .worker, .worker,
    .call .pollShutdown, .task, .worker, .worker]

theorem graceful_close_shut : ∃ p : Pruned WrappedSocket,
    Runs (pruning wrapping ⟨[], [], []⟩ 3 3) writtenAndShut p ∧ CallsClose p .worker ∧
      p.stream.connection.enqueued = [7, 8] := by
  obtain ⟨p, q, ran, step, calls, accepted⟩ :
      ∃ p q, exec (pruning wrapping ⟨[], [], []⟩ 3 3) writtenAndShut = some p ∧
        (pruning wrapping ⟨[], [], []⟩ 3 3).step p .worker = some q ∧ CallsClose p .worker ∧
        p.stream.connection.accepted = [7, 8] :=
    ⟨_, _, rfl, rfl, ⟨rfl, rfl, rfl, rfl⟩, rfl⟩
  have run := runs_of_exec ran
  refine ⟨p, run, calls, ?_⟩
  rw [graceful_close.1 p .worker q (run.takes step) calls, accepted]

end Ombrac.NetstackClose
