import Ombrac.NetstackWaiters

set_option autoImplicit false

/-!
# The turns of the worker

What a turn of the worker leaves behind, with the tests that led there, and which flags a step
only ever sets.
-/
namespace Ombrac.NetstackTurns
open LabelledSystem NetstackTcp NetstackWaiters ProtocolPacket RingBuffer

inductive Follows : Worker → Worker → Prop
  | dropped : Follows .polling .pruning
  | taken : Follows .polling .receiving
  | idle : Follows .receiving (.checkingOpen false)
  | opened (notifyRead : Bool) : Follows (.checkingOpen notifyRead) (.sending false)
  | sent (notifyWrite : Bool) : Follows (.sending notifyWrite) .pruning
  | kept : Follows .pruning .closing
  | unclosed : Follows .closing .checkingActive
  | active : Follows .checkingActive .polling

theorem Follows.plain {before after : Worker} (next : Follows before after) :
    after ≠ .checkingOpen true ∧ after ≠ .sending true := by
  cases next <;> simp

/-- A turn of the worker over the socket `k`. `passes` goes on to another phase and may owe a
wake-up; it says which tests have failed. -/
inductive Turn {σ : Type} (net : Smoltcp σ) (s : Stream σ) (k : σ) : Stream σ → Prop
  | wakes {w : Waker} (waking : s.waking = some w) : Turn net s k (s.wake w)
  | received {slice : Bytes} (quiet : s.waking = none)
      (phase : s.connection.worker = .receiving) (can : net.canRecv k = true)
      (offered : net.recvSlice k = some slice) :
      Turn net s k { s with connection := { s.connection with
        socket := some (net.recvTake k (s.connection.recvBuffer.accepts slice).length)
        recvBuffer := s.connection.recvBuffer.pushSlice slice
        received := s.connection.received ++ s.connection.recvBuffer.accepts slice
        worker := .checkingOpen (!slice.isEmpty) } }
  | failed (quiet : s.waking = none) (phase : s.connection.worker = .receiving)
      (can : net.canRecv k = true) (offered : net.recvSlice k = none) :
      Turn net s k { s with connection := { s.connection.setReadClosed with
        worker := .checkingOpen true } }
  | closed {notifyRead : Bool} (quiet : s.waking = none)
      (phase : s.connection.worker = .checkingOpen notifyRead) (shut : net.isOpen k = false)
      (unset : s.connection.shared.readClosed = false) :
      Turn net s k { s with
        connection := { s.connection.setReadClosed with worker := .sending false }
        waking := some .recv }
  | enqueued {room : ℕ} {notifyWrite : Bool} (quiet : s.waking = none)
      (phase : s.connection.worker = .sending notifyWrite)
      (offered : net.sendSlice k = some room) :
      Turn net s k { s with connection := { s.connection with
        socket := some (net.sendPut k (s.connection.sendBuffer.popSlice room).1)
        sendBuffer := (s.connection.sendBuffer.popSlice room).2
        enqueued := s.connection.enqueued ++ (s.connection.sendBuffer.popSlice room).1
        worker := .sending true } }
  | closes (quiet : s.waking = none) (phase : s.connection.worker = .closing)
      (written : s.connection.shared.writeClosed = true)
      (empty : s.connection.sendBuffer.isEmpty = true) :
      Turn net s k { s with connection := { s.connection with
        socket := some (net.close k)
        closeCalled := true
        worker := .checkingActive } }
  | removed {aborted : Bool} (quiet : s.waking = none)
      (phase : s.connection.worker = .pruning ∨ s.connection.worker = .checkingActive) :
      Turn net s k { s with connection := { s.connection with
        socket := none
        aborted := aborted
        worker := .polling } }
  | passes {phase : Worker} {w : Option Waker} (quiet : s.waking = none)
      (idle : s.connection.worker = .receiving → net.canRecv k = false)
      (opened : ∀ n, s.connection.worker = .checkingOpen n →
        net.isOpen k = true ∨ s.connection.shared.readClosed = true)
      (owed : ∀ u, s.WillWake u ↔ w = some u)
      (next : Follows s.connection.worker phase) :
      Turn net s k { s with
        connection := { s.connection with worker := phase }
        waking := w }

section Worker
variable {σ : Type} {net : Smoltcp σ} {s v : Stream σ} {k : σ}

theorem turn_receive (quiet : s.waking = none) (phase : s.connection.worker = .receiving) :
    Turn net s k { s with connection := s.connection.receive net k } := by
  unfold Connection.receive
  split_ifs with can
  · split
    · rename_i offered
      exact .failed quiet phase can offered
    · rename_i slice offered
      exact .received quiet phase can offered
  · refine .passes (w := s.waking) quiet (fun _ => Bool.eq_false_iff.2 can)
      (fun n checking => ?_) (fun u => ?_) (phase ▸ .idle)
    · cases phase.symm.trans checking
    · exact iff_of_false (Stream.not_willWake quiet (by simp [phase]) (by simp [phase]) u) (by simp [quiet])

theorem turn_checkOpen {notifyRead : Bool} (quiet : s.waking = none)
    (phase : s.connection.worker = .checkingOpen notifyRead) :
    Turn net s k (s.checkOpen net k notifyRead) := by
  unfold Stream.checkOpen
  by_cases closing : (!net.isOpen k && !s.connection.shared.readClosed) = true
  · simp only [closing, Bool.or_true, if_true]
    obtain ⟨shut, unset⟩ := Bool.and_eq_true_iff.1 closing
    exact .closed quiet phase (by simpa using shut) (by simpa using unset)
  · simp only [closing, Bool.or_false, Bool.false_eq_true, if_false]
    refine .passes quiet (fun receiving => ?_) (fun n _ => ?_) (fun u => ?_)
      (phase ▸ .opened notifyRead)
    · cases phase.symm.trans receiving
    · by_cases opened : net.isOpen k = true
      · exact .inl opened
      · exact .inr (by simpa [opened] using closing)
    · cases u <;> cases notifyRead <;> simp [Stream.WillWake, quiet, phase]

theorem turn_sent {notifyWrite : Bool} (quiet : s.waking = none)
    (phase : s.connection.worker = .sending notifyWrite) :
    Turn net s k (s.sent notifyWrite) := by
  refine .passes quiet (fun receiving => ?_) (fun n checking => ?_) (fun u => ?_)
    (phase ▸ .sent notifyWrite)
  · cases phase.symm.trans receiving
  · cases phase.symm.trans checking
  · cases u <;> cases notifyWrite <;> simp [Stream.WillWake, quiet, phase]

theorem turn_send {notifyWrite : Bool} (quiet : s.waking = none)
    (phase : s.connection.worker = .sending notifyWrite) :
    Turn net s k (s.send net k notifyWrite) := by
  have leave : Turn net s k (s.sent notifyWrite) := turn_sent quiet phase
  unfold Stream.send
  split_ifs with sendable
  · split
    · exact leave
    · rename_i room offered
      split_ifs with zero
      · exact leave
      · unfold Connection.send
        rw [if_pos sendable]
        simp only [offered, zero, if_false]
        exact .enqueued quiet phase offered
  · exact leave

/-- The phases of `prune_sockets` and the start of a round. -/
theorem turn_other (quiet : s.waking = none) (there : s.connection.socket = some k)
    (recv : ∀ n, s.connection.worker ≠ .checkingOpen n)
    (send : ∀ n, s.connection.worker ≠ .sending n) {c : Connection σ}
    (h : NetstackTcp.workerStep net s.connection .turn = some c) :
    Turn net s k { s with connection := c } := by
  have passes : s.connection.worker ≠ .receiving → ∀ phase : Worker,
      Follows s.connection.worker phase →
        Turn net s k { s with connection := { s.connection with worker := phase } } := by
    intro elsewhere phase next
    refine .passes (w := s.waking) quiet (fun receiving => absurd receiving elsewhere)
      (fun n checking => absurd checking (recv n)) (fun u => ?_) next
    exact iff_of_false (Stream.not_willWake quiet recv send u) (by simp [quiet])
  simp only [NetstackTcp.workerStep, there] at h
  split at h <;> obtain rfl := Option.some.inj h
  · rename_i phase
    have next : Follows s.connection.worker
        (if s.connection.shared.socketDropped then .pruning else .receiving) := by
      rw [phase]
      split_ifs
      · exact .dropped
      · exact .taken
    simpa only [there] using passes (by simp [phase]) _ next
  · rename_i phase
    exact turn_receive quiet phase
  · rename_i n phase
    exact absurd phase (recv n)
  · rename_i n phase
    exact absurd phase (send n)
  · rename_i phase
    unfold Connection.prune
    split_ifs
    · exact .removed quiet (.inl phase)
    · exact passes (by simp [phase]) _ (phase ▸ .kept)
  · rename_i phase
    unfold Connection.closeWritten
    split_ifs with finished
    · obtain ⟨written, empty⟩ := Bool.and_eq_true_iff.1 finished
      exact .closes quiet phase written empty
    · exact passes (by simp [phase]) _ (phase ▸ .unclosed)
  · rename_i phase
    unfold Connection.checkActive
    split_ifs
    · exact passes (by simp [phase]) _ (phase ▸ .active)
    · exact .removed quiet (.inr phase)

theorem workerStep_turn (h : s.workerStep net = some v) :
    ∃ k, s.connection.socket = some k ∧ Turn net s k v := by
  unfold Stream.workerStep at h
  split at h
  · cases h
  · rename_i k there
    refine ⟨k, there, ?_⟩
    split at h
    · rename_i w waking
      obtain rfl := Option.some.inj h
      exact .wakes waking
    · rename_i quiet
      split at h
      · rename_i n phase
        obtain rfl := Option.some.inj h
        exact turn_checkOpen quiet phase
      · rename_i n phase
        obtain rfl := Option.some.inj h
        exact turn_send quiet phase
      · rename_i recv send
        obtain ⟨c, turned, rfl⟩ := Option.map_eq_some_iff.1 h
        exact turn_other quiet there recv send turned

end Worker

/-! ## The accesses of a call -/

section Calls
variable {σ : Type}

/-- What the first access of a call finds, and where the call goes on. -/
inductive Begun (s : Stream σ) : Stream σ → Prop
  | loads {len : ℕ} (empty : s.connection.recvBuffer.isEmpty = true) :
      Begun s (s.setPoint (.readLoad len))
  | pops {len : ℕ} (readable : s.Readable) : Begun s (s.setPoint (.readPop len))
  | refused : Begun s (s.writeAnswer false)
  | writes {buf : Bytes} (opened : s.connection.shared.writeClosed = false) :
      Begun s (s.setPoint (.writeCheck buf))
  | flushed (shutdown : Bool) (empty : s.connection.sendBuffer.isEmpty = true) :
      Begun s (s.flushed shutdown)
  | registers {shutdown : Bool} : Begun s (s.setPoint (.flushRegister shutdown))
  | drops : Begun s { s with connection := s.connection.drop, task := .gone }

inductive Accessed (s : Stream σ) : Point → Stream σ → Prop
  | ends {len : ℕ} : Accessed s (.readLoad len) (s.readAnswer false)
  | goesOn {len : ℕ} (opened : s.connection.shared.readClosed = false) :
      Accessed s (.readLoad len) (s.setPoint (.readRegister len))
  | registersRead {len : ℕ} :
      Accessed s (.readRegister len) (s.registerRecv.setPoint (.readRecheck len))
  | readWaits {len : ℕ} (empty : s.connection.recvBuffer.isEmpty = true) :
      Accessed s (.readRecheck len) (s.readAnswer true)
  | readFinds {len : ℕ} (readable : s.Readable) :
      Accessed s (.readRecheck len) (s.setPoint (.readPop len))
  | pops {len : ℕ} : Accessed s (.readPop len) ((s.pop len).readAnswer false)
  | full {buf : Bytes} : Accessed s (.writeCheck buf) (s.setPoint (.writeRegister buf))
  | writeFinds {buf : Bytes} : Accessed s (.writeCheck buf) (s.setPoint (.writePush buf))
  | registersWrite {buf : Bytes} :
      Accessed s (.writeRegister buf) (s.registerSend.setPoint (.writeRecheck buf))
  | writeWaits {buf : Bytes} : Accessed s (.writeRecheck buf) (s.writeAnswer true)
  | writeRefinds {buf : Bytes} : Accessed s (.writeRecheck buf) (s.setPoint (.writePush buf))
  | pushes {buf : Bytes} : Accessed s (.writePush buf) ((s.push buf).writeAnswer false)
  | registersFlush {shutdown : Bool} :
      Accessed s (.flushRegister shutdown) (s.registerSend.setPoint (.flushRecheck shutdown))
  | flushed {shutdown : Bool} (empty : s.connection.sendBuffer.isEmpty = true) :
      Accessed s (.flushRecheck shutdown) (s.flushed shutdown)
  | flushWaits {shutdown : Bool} : Accessed s (.flushRecheck shutdown) (s.flushAnswer true)
  | closes : Accessed s .storeWriteClosed (s.closeWrite.flushAnswer false)

theorem begin_begun (s : Stream σ) (e : StreamEvent) : Begun s (s.begin e) := by
  cases e with
  | pollRead len =>
    simp only [Stream.begin]
    split_ifs with empty
    · exact .loads empty
    · exact .pops (Bool.eq_false_iff.2 empty)
  | pollWrite buf =>
    simp only [Stream.begin]
    split_ifs with closing
    · exact .refused
    · rw [Bool.or_eq_true, not_or, Bool.not_eq_true, Bool.not_eq_true] at closing
      exact .writes closing.2
  | pollFlush =>
    simp only [Stream.begin]
    split_ifs with empty
    · exact .flushed false empty
    · exact .registers
  | pollShutdown =>
    simp only [Stream.begin]
    split_ifs with empty
    · exact .flushed true empty
    · exact .registers
  | drop => exact .drops

theorem advance_accessed (s : Stream σ) (p : Point) : Accessed s p (s.advance p) := by
  cases p with
  | readLoad len =>
    simp only [Stream.advance]
    split_ifs with closed
    · exact .ends
    · exact .goesOn (Bool.eq_false_iff.2 closed)
  | readRegister len => exact .registersRead
  | readRecheck len =>
    simp only [Stream.advance]
    split_ifs with empty
    · exact .readWaits empty
    · exact .readFinds (Bool.eq_false_iff.2 empty)
  | readPop len => exact .pops
  | writeCheck buf =>
    simp only [Stream.advance]
    split_ifs
    · exact .full
    · exact .writeFinds
  | writeRegister buf => exact .registersWrite
  | writeRecheck buf =>
    simp only [Stream.advance]
    split_ifs
    · exact .writeWaits
    · exact .writeRefinds
  | writePush buf => exact .pushes
  | flushRegister shutdown => exact .registersFlush
  | flushRecheck shutdown =>
    simp only [Stream.advance]
    split_ifs with empty
    · exact .flushed empty
    · exact .flushWaits
  | storeWriteClosed => exact .closes

end Calls

/-! ## Every step of the stream -/

inductive Moved {σ : Type} (net : Smoltcp σ) (s : Stream σ) : Event σ → Stream σ → Prop
  | polled {k k' : σ} (there : s.connection.socket = some k)
      (polling : s.connection.worker = .polling) :
      Moved net s (.network k') { s with connection := { s.connection with socket := some k' } }
  | turned {k : σ} {v : Stream σ} (there : s.connection.socket = some k) (turn : Turn net s k v) :
      Moved net s .worker v
  | called {e : StreamEvent} {v : Stream σ} (running : s.task = .running)
      (begun : Begun { s with late := s.connection.socket.isNone } v) : Moved net s (.call e) v
  | advanced {p : Point} {v : Stream σ} (calling : s.task = .calling p)
      (accessed : Accessed s p v) : Moved net s .task v
  | parked (running : s.task = .running) : Moved net s .park { s with task := .parked }
  | resumed (parked : s.task = .parked) (woken : s.connection.woken = true) :
      Moved net s .resume { s with
        connection := { s.connection with woken := false }
        task := .running
        waiting := ⟨false, false, false⟩ }
  | spurious : Moved net s .spurious { s with connection := { s.connection with woken := true } }

theorem step_moved {σ : Type} {net : Smoltcp σ} {s v : Stream σ} {e : Event σ}
    (h : s.step net e = some v) : Moved net s e v := by
  cases e with
  | network socket =>
    obtain ⟨c, polled, rfl⟩ := Option.map_eq_some_iff.1 h
    simp only [NetstackTcp.workerStep] at polled
    split at polled
    · rename_i there polling
      obtain rfl := Option.some.inj polled
      exact .polled there polling
    · cases polled
  | worker =>
    obtain ⟨k, there, turn⟩ := workerStep_turn h
    exact .turned there turn
  | call e =>
    simp only [Stream.step] at h
    split at h
    · rename_i running
      obtain rfl := Option.some.inj h
      exact .called running (begin_begun _ e)
    · cases h
  | task =>
    simp only [Stream.step] at h
    split at h
    · rename_i calling
      obtain rfl := Option.some.inj h
      exact .advanced calling (advance_accessed s _)
    · cases h
  | park =>
    simp only [Stream.step] at h
    split at h
    · rename_i running
      split_ifs at h
      obtain rfl := Option.some.inj h
      exact .parked running
    · cases h
  | resume =>
    simp only [Stream.step] at h
    split at h
    · rename_i parked
      split_ifs at h with woken
      obtain rfl := Option.some.inj h
      exact .resumed parked woken
    · cases h
  | spurious =>
    obtain rfl := Option.some.inj h
    exact .spurious

/-! ## Flags are only ever set -/

section Flags
variable {σ : Type} {net : Smoltcp σ} {s v : Stream σ} {k : σ}

theorem Turn.task (turn : Turn net s k v) : v.task = s.task := by
  cases turn with
  | wakes waking => cases ‹Waker› <;> rfl
  | received | failed | closed | enqueued | closes | removed | passes => rfl

/-- Only the reader empties the receive buffer. -/
theorem Turn.readable (turn : Turn net s k v) (readable : s.Readable) : v.Readable := by
  cases turn with
  | wakes waking => cases ‹Waker› <;> exact readable
  | received => exact RingBuf.pushSlice_nonempty readable _
  | failed | closed | enqueued | closes | removed | passes => exact readable

theorem Turn.readClosed (turn : Turn net s k v) (closed : s.connection.shared.readClosed = true) :
    v.connection.shared.readClosed = true := by
  cases turn with
  | wakes waking => cases ‹Waker› <;> exact closed
  | failed | closed => rfl
  | received | enqueued | closes | removed | passes => exact closed

theorem Turn.writeClosed (turn : Turn net s k v) :
    v.connection.shared.writeClosed = s.connection.shared.writeClosed := by
  cases turn with
  | wakes waking => cases ‹Waker› <;> rfl
  | received | failed | closed | enqueued | closes | removed | passes => rfl

/-- A step that is not the worker's: it sets `write_closed` at most. -/
structure Apart (s v : Stream σ) : Prop where
  socket : v.connection.socket = s.connection.socket
  worker : v.connection.worker = s.connection.worker
  readClosed : v.connection.shared.readClosed = s.connection.shared.readClosed
  writeClosed : s.connection.shared.writeClosed = true → v.connection.shared.writeClosed = true

theorem flushed_apart (s : Stream σ) (shutdown : Bool) : Apart s (s.flushed shutdown) := by
  cases shutdown with
  | false => exact ⟨rfl, rfl, rfl, id⟩
  | true => exact ⟨rfl, rfl, rfl, id⟩

theorem Begun.apart (begun : Begun s v) : Apart s v := by
  cases begun with
  | flushed shutdown empty => exact flushed_apart s shutdown
  | loads | pops | refused | writes | registers | drops => exact ⟨rfl, rfl, rfl, id⟩

theorem Accessed.apart {p : Point} (accessed : Accessed s p v) : Apart s v := by
  cases accessed with
  | flushed empty => exact flushed_apart s _
  | closes => exact ⟨rfl, rfl, rfl, fun _ => rfl⟩
  | ends | goesOn | registersRead | readWaits | readFinds | pops | full | writeFinds
  | registersWrite | writeWaits | writeRefinds | pushes | registersFlush | flushWaits =>
    exact ⟨rfl, rfl, rfl, id⟩

/-- A turn of the worker, a poll of smoltcp between two rounds, or a step apart from both. -/
theorem step_apart {e : Event σ} (h : s.step net e = some v) :
    (∃ k, s.connection.socket = some k ∧ Turn net s k v) ∨
      (s.connection.worker = .polling ∧
        ∃ k, v = { s with connection := { s.connection with socket := some k } }) ∨
      Apart s v := by
  cases step_moved h with
  | turned there turn => exact .inl ⟨_, there, turn⟩
  | polled there polling => exact .inr (.inl ⟨polling, _, rfl⟩)
  | called running begun =>
    obtain ⟨socket, worker, read, write⟩ := begun.apart
    exact .inr (.inr ⟨socket, worker, read, write⟩)
  | advanced calling accessed => exact .inr (.inr accessed.apart)
  | parked | resumed | spurious => exact .inr (.inr ⟨rfl, rfl, rfl, id⟩)

theorem step_flags {e : Event σ} (h : s.step net e = some v) :
    (s.connection.shared.readClosed = true → v.connection.shared.readClosed = true) ∧
      (s.connection.shared.writeClosed = true → v.connection.shared.writeClosed = true) := by
  rcases step_apart h with ⟨k, _, turn⟩ | ⟨_, k, rfl⟩ | apart
  · exact ⟨turn.readClosed, fun written => turn.writeClosed.trans written⟩
  · exact ⟨id, id⟩
  · exact ⟨fun closed => apart.readClosed.trans closed, apart.writeClosed⟩

end Flags

end Ombrac.NetstackTurns
