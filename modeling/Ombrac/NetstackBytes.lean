import Ombrac.NetstackWaiters

set_option autoImplicit false

/-!
# The bytes of a netstack stream

A step of `NetstackWaiters` takes bytes out of a ring buffer, puts bytes into one, or leaves both
alone. smoltcp keeps two buffers of its own, of which it documents that `recv` dequeues and `send`
enqueues as many bytes as the closure says.
-/
namespace Ombrac.NetstackBytes
open LabelledSystem NetstackTcp NetstackWaiters ProtocolPacket RingBuffer

/-- The two ring buffers and the histories on either side of each. -/
structure Ledger where
  recvBuffer : RingBuf UInt8
  sendBuffer : RingBuf UInt8
  accepted : Bytes
  enqueued : Bytes
  received : Bytes
  returned : Bytes

def ledger {σ : Type} (c : Connection σ) : Ledger :=
  ⟨c.recvBuffer, c.sendBuffer, c.accepted, c.enqueued, c.received, c.returned⟩

inductive Transfer {σ : Type} (net : Smoltcp σ) (polled : σ → σ → Prop) (c d : Connection σ) : Prop
  | stay (socket : d.socket = c.socket) (same : ledger d = ledger c)
  | removed (socket : d.socket = none) (same : ledger d = ledger c)
  | closed (k : σ) (there : c.socket = some k) (socket : d.socket = some (net.close k))
      (same : ledger d = ledger c)
  | polled (k k' : σ) (there : c.socket = some k) (allowed : polled k k')
      (socket : d.socket = some k') (same : ledger d = ledger c)
  | received (k : σ) (slice : Bytes) (there : c.socket = some k)
      (offered : net.recvSlice k = some slice)
      (socket : d.socket = some (net.recvTake k (c.recvBuffer.accepts slice).length))
      (moved : ledger d = { ledger c with
        recvBuffer := c.recvBuffer.pushSlice slice
        received := c.received ++ c.recvBuffer.accepts slice })
  | enqueued (k : σ) (room : ℕ) (there : c.socket = some k)
      (offered : net.sendSlice k = some room)
      (socket : d.socket = some (net.sendPut k (c.sendBuffer.popSlice room).1))
      (moved : ledger d = { ledger c with
        sendBuffer := (c.sendBuffer.popSlice room).2
        enqueued := c.enqueued ++ (c.sendBuffer.popSlice room).1 })
  | returned (len : ℕ) (socket : d.socket = c.socket)
      (moved : ledger d = { ledger c with
        recvBuffer := (c.recvBuffer.popSlice len).2
        returned := c.returned ++ (c.recvBuffer.popSlice len).1 })
  | accepted (buf : Bytes) (socket : d.socket = c.socket)
      (moved : ledger d = { ledger c with
        sendBuffer := c.sendBuffer.pushSlice buf
        accepted := c.accepted ++ c.sendBuffer.accepts buf })

section Steps
variable {σ : Type} {net : Smoltcp σ} {polled : σ → σ → Prop} {s v : Stream σ}

theorem receive_transfer {c : Connection σ} {k : σ} (there : c.socket = some k) :
    Transfer net polled c (c.receive net k) := by
  unfold Connection.receive
  split_ifs
  · split
    · exact .stay rfl rfl
    · rename_i slice offered
      exact .received k slice there offered rfl rfl
  · exact .stay rfl rfl

theorem sent_transfer (notifyWrite : Bool) :
    Transfer net polled s.connection (s.sent notifyWrite).connection := .stay rfl rfl

theorem send_transfer {k : σ} (there : s.connection.socket = some k) (notifyWrite : Bool) :
    Transfer net polled s.connection (s.send net k notifyWrite).connection := by
  unfold Stream.send
  split_ifs with sendable
  · split
    · exact sent_transfer notifyWrite
    · rename_i room offered
      split_ifs with zero
      · exact sent_transfer notifyWrite
      · refine .enqueued k room there offered ?_ ?_
        · simp only [Connection.send, sendable, if_true, offered, zero, if_false]
        · simp only [ledger, Connection.send, sendable, if_true, offered, zero, if_false]
  · exact sent_transfer notifyWrite

theorem checkOpen_transfer (k : σ) (notifyRead : Bool) :
    Transfer net polled s.connection (s.checkOpen net k notifyRead).connection := by
  unfold Stream.checkOpen
  dsimp only
  split_ifs <;> exact .stay rfl rfl

theorem workerStep_transfer (step : s.workerStep net = some v) :
    Transfer net polled s.connection v.connection := by
  unfold Stream.workerStep at step
  split at step
  · cases step
  · rename_i k there
    split at step
    · rename_i waker _
      obtain rfl := Option.some.inj step
      cases waker <;> exact .stay rfl rfl
    · split at step
      · obtain rfl := Option.some.inj step
        exact checkOpen_transfer k _
      · obtain rfl := Option.some.inj step
        exact send_transfer there _
      · rename_i not_checking not_sending
        obtain ⟨c, turned, rfl⟩ := Option.map_eq_some_iff.1 step
        simp only [NetstackTcp.workerStep, there] at turned
        split at turned <;> obtain rfl := Option.some.inj turned
        · exact .stay there.symm rfl
        · exact receive_transfer there
        · rename_i notifyRead phase
          exact absurd phase (not_checking notifyRead)
        · rename_i notifyWrite phase
          exact absurd phase (not_sending notifyWrite)
        · change Transfer net polled s.connection s.connection.prune
          unfold Connection.prune
          split_ifs
          · exact .removed rfl rfl
          · exact .stay rfl rfl
        · change Transfer net polled s.connection (s.connection.closeWritten net k)
          unfold Connection.closeWritten
          split_ifs
          · exact .closed k there rfl rfl
          · exact .stay rfl rfl
        · change Transfer net polled s.connection (s.connection.checkActive net k)
          unfold Connection.checkActive
          split_ifs
          · exact .stay rfl rfl
          · exact .removed rfl rfl

theorem flushed_transfer (shutdown : Bool) :
    Transfer net polled s.connection (s.flushed shutdown).connection := by
  cases shutdown <;> exact .stay rfl rfl

theorem begin_transfer (e : StreamEvent) :
    Transfer net polled s.connection (s.begin e).connection := by
  cases e with
  | pollRead len =>
    unfold Stream.begin
    dsimp only
    split_ifs <;> exact .stay rfl rfl
  | pollWrite buf =>
    unfold Stream.begin
    dsimp only
    split_ifs <;> exact .stay rfl rfl
  | pollFlush =>
    unfold Stream.begin
    dsimp only
    split_ifs
    · exact flushed_transfer false
    · exact .stay rfl rfl
  | pollShutdown =>
    unfold Stream.begin
    dsimp only
    split_ifs
    · exact flushed_transfer true
    · exact .stay rfl rfl
  | drop => exact .stay rfl rfl

theorem advance_transfer (p : Point) :
    Transfer net polled s.connection (s.advance p).connection := by
  cases p with
  | readPop len => exact .returned len rfl rfl
  | writePush buf => exact .accepted buf rfl rfl
  | readRegister len | writeRegister buf | flushRegister shutdown | storeWriteClosed =>
    exact .stay rfl rfl
  | flushRecheck shutdown =>
    unfold Stream.advance
    dsimp only
    split_ifs
    · exact flushed_transfer shutdown
    · exact .stay rfl rfl
  | _ =>
    unfold Stream.advance
    dsimp only
    split_ifs <;> exact .stay rfl rfl

/-- Every step moves the bytes in one of the eight ways. -/
theorem step_transfer {e : Event σ}
    (allowed : ∀ k k', e = .network k' → s.connection.socket = some k → polled k k')
    (step : s.step net e = some v) : Transfer net polled s.connection v.connection := by
  cases e with
  | network k' =>
    obtain ⟨c, taken, rfl⟩ := Option.map_eq_some_iff.1 step
    simp only [NetstackTcp.workerStep] at taken
    split at taken
    · rename_i k there _
      obtain rfl := Option.some.inj taken
      exact .polled k k' there (allowed k k' rfl there) rfl rfl
    · cases taken
  | worker => exact workerStep_transfer step
  | call e =>
    simp only [Stream.step] at step
    split at step
    · obtain rfl := Option.some.inj step
      exact begin_transfer (s := { s with late := s.connection.socket.isNone }) e
    · cases step
  | task =>
    simp only [Stream.step] at step
    split at step
    · obtain rfl := Option.some.inj step
      exact advance_transfer _
    · cases step
  | park =>
    simp only [Stream.step] at step
    split at step
    · split_ifs at step
      obtain rfl := Option.some.inj step
      exact .stay rfl rfl
    · cases step
  | resume =>
    simp only [Stream.step] at step
    split at step
    · split_ifs at step
      obtain rfl := Option.some.inj step
      exact .stay rfl rfl
    · cases step
  | spurious =>
    obtain rfl := Option.some.inj step
    exact .stay rfl rfl

end Steps

/-! ## What the buffers hold -/

section Contents
variable {σ : Type}

/-- Each ring buffer holds what has come in and not gone out, and is as large as configured. -/
structure Exact (recvBufferSize sendBufferSize : ℕ) (l : Ledger) : Prop where
  received : l.received = l.returned ++ l.recvBuffer.contents
  accepted : l.accepted = l.enqueued ++ l.sendBuffer.contents
  recvCapacity : l.recvBuffer.capacity = recvBufferSize
  sendCapacity : l.sendBuffer.capacity = sendBufferSize

variable {net : Smoltcp σ} {polled : σ → σ → Prop} {c d : Connection σ}
  {recvBufferSize sendBufferSize : ℕ}

theorem Exact.transfer (exact : Exact recvBufferSize sendBufferSize (ledger c))
    (moves : Transfer net polled c d) : Exact recvBufferSize sendBufferSize (ledger d) := by
  obtain ⟨received, accepted, recvCapacity, sendCapacity⟩ := exact
  cases moves with
  | stay _ same | removed _ same | closed _ _ _ same | polled _ _ _ _ _ same =>
    rw [same]
    exact ⟨received, accepted, recvCapacity, sendCapacity⟩
  | received k slice _ _ _ moved =>
    rw [moved]
    refine ⟨?_, accepted, recvCapacity, sendCapacity⟩
    change c.received ++ c.recvBuffer.accepts slice =
      c.returned ++ (c.recvBuffer.contents ++ c.recvBuffer.accepts slice)
    rw [← List.append_assoc]
    exact congrArg (· ++ _) received
  | enqueued k room _ _ _ moved =>
    rw [moved]
    refine ⟨received, ?_, recvCapacity, sendCapacity⟩
    change c.accepted = (c.enqueued ++ (c.sendBuffer.popSlice room).1) ++
      (c.sendBuffer.popSlice room).2.contents
    rw [List.append_assoc, RingBuf.popSlice_append]
    exact accepted
  | returned len _ moved =>
    rw [moved]
    refine ⟨?_, accepted, recvCapacity, sendCapacity⟩
    change c.received = (c.returned ++ (c.recvBuffer.popSlice len).1) ++
      (c.recvBuffer.popSlice len).2.contents
    rw [List.append_assoc, RingBuf.popSlice_append]
    exact received
  | accepted buf _ moved =>
    rw [moved]
    refine ⟨received, ?_, recvCapacity, sendCapacity⟩
    change c.accepted ++ c.sendBuffer.accepts buf =
      c.enqueued ++ (c.sendBuffer.contents ++ c.sendBuffer.accepts buf)
    rw [← List.append_assoc]
    exact congrArg (· ++ _) accepted

/-- smoltcp's own two buffers: what has arrived in order on a socket, what of it `recv` has not
dequeued, and what `send` has enqueued. A slice may end where the buffer wraps. -/
structure SocketBuffers (net : Smoltcp σ) where
  arrived : σ → Bytes
  unread : σ → Bytes
  queued : σ → Bytes
  offered : ∀ {k slice}, net.recvSlice k = some slice → slice <+: unread k
  recv : ∀ {k slice n}, net.recvSlice k = some slice → n ≤ slice.length →
    unread (net.recvTake k n) = (unread k).drop n ∧
      arrived (net.recvTake k n) = arrived k ∧ queued (net.recvTake k n) = queued k
  send : ∀ {k room bytes}, net.sendSlice k = some room → bytes.length ≤ room →
    queued (net.sendPut k bytes) = queued k ++ bytes ∧
      arrived (net.sendPut k bytes) = arrived k ∧ unread (net.sendPut k bytes) = unread k
  close : ∀ k, arrived (net.close k) = arrived k ∧ unread (net.close k) = unread k ∧
    queued (net.close k) = queued k

namespace SocketBuffers

structure Fresh (b : SocketBuffers net) (k : σ) : Prop where
  arrived : b.arrived k = []
  unread : b.unread k = []
  queued : b.queued k = []

def Polled (b : SocketBuffers net) (k k' : σ) : Prop :=
  ∃ more, b.arrived k' = b.arrived k ++ more ∧ b.unread k' = b.unread k ++ more ∧
    b.queued k' = b.queued k

structure Agrees (b : SocketBuffers net) (c : Connection σ) : Prop where
  arrived : ∀ k, c.socket = some k → b.arrived k = c.received ++ b.unread k
  queued : ∀ k, c.socket = some k → b.queued k = c.enqueued

variable {b : SocketBuffers net}

/-- A step that leaves smoltcp's buffers and the two histories at the socket alone. -/
theorem Agrees.of_same (agrees : b.Agrees c) {k k' : σ} (there : c.socket = some k)
    (socket : d.socket = some k') (same : ledger d = ledger c)
    (kept : b.arrived k' = b.arrived k ∧ b.unread k' = b.unread k ∧ b.queued k' = b.queued k) :
    b.Agrees d := by
  obtain ⟨_, _, _, enqueued, received, _⟩ := Ledger.mk.inj same
  obtain ⟨arrived, unread, queued⟩ := kept
  constructor
  · intro x now
    obtain rfl := Option.some.inj (socket.symm.trans now)
    rw [arrived, unread, received]
    exact agrees.arrived k there
  · intro x now
    obtain rfl := Option.some.inj (socket.symm.trans now)
    rw [queued, enqueued]
    exact agrees.queued k there

theorem accepts_prefix (r : RingBuf UInt8) (slice : Bytes) : r.accepts slice <+: slice :=
  List.take_prefix _ _

/-- `recv` dequeues from smoltcp what the ring buffer has taken of the slice. -/
theorem Agrees.received (agrees : b.Agrees c) {k : σ} {slice : Bytes} (there : c.socket = some k)
    (offered : net.recvSlice k = some slice)
    (socket : d.socket = some (net.recvTake k (c.recvBuffer.accepts slice).length))
    (enqueued : d.enqueued = c.enqueued)
    (received : d.received = c.received ++ c.recvBuffer.accepts slice) : b.Agrees d := by
  have fits := accepts_prefix c.recvBuffer slice
  obtain ⟨unread, arrived, queued⟩ := b.recv offered fits.length_le
  constructor
  · intro x now
    obtain rfl := Option.some.inj (socket.symm.trans now)
    obtain ⟨rest, front⟩ := fits.trans (b.offered offered)
    rw [arrived, received, agrees.arrived k there, unread, ← front, List.drop_left,
      List.append_assoc]
  · intro x now
    obtain rfl := Option.some.inj (socket.symm.trans now)
    rw [queued, enqueued]
    exact agrees.queued k there

/-- `send` enqueues in smoltcp what has left the ring buffer. -/
theorem Agrees.enqueued (agrees : b.Agrees c) {k : σ} {room : ℕ} (there : c.socket = some k)
    (offered : net.sendSlice k = some room)
    (socket : d.socket = some (net.sendPut k (c.sendBuffer.popSlice room).1))
    (enqueued : d.enqueued = c.enqueued ++ (c.sendBuffer.popSlice room).1)
    (received : d.received = c.received) : b.Agrees d := by
  obtain ⟨queued, arrived, unread⟩ :=
    b.send offered (List.length_take_le room c.sendBuffer.contents)
  constructor
  · intro x now
    obtain rfl := Option.some.inj (socket.symm.trans now)
    refine arrived.trans ((agrees.arrived k there).trans ?_)
    rw [received]
    exact congrArg _ unread.symm
  · intro x now
    obtain rfl := Option.some.inj (socket.symm.trans now)
    rw [enqueued, ← agrees.queued k there]
    exact queued

theorem Agrees.transfer (agrees : b.Agrees c) (moves : Transfer net b.Polled c d) :
    b.Agrees d := by
  cases moves with
  | stay socket same =>
    obtain ⟨_, _, _, enqueued, received, _⟩ := Ledger.mk.inj same
    constructor
    · intro k now
      rw [received]
      exact agrees.arrived k (socket ▸ now)
    · intro k now
      rw [enqueued]
      exact agrees.queued k (socket ▸ now)
  | removed socket _ =>
    constructor
    · intro k now
      cases socket.symm.trans now
    · intro k now
      cases socket.symm.trans now
  | closed k there socket same => exact agrees.of_same there socket same (b.close k)
  | polled k k' there allowed socket same =>
    obtain ⟨_, _, _, enqueued, received, _⟩ := Ledger.mk.inj same
    obtain ⟨more, arrived, unread, queued⟩ := allowed
    constructor
    · intro x now
      obtain rfl := Option.some.inj (socket.symm.trans now)
      rw [arrived, unread, received, agrees.arrived k there, List.append_assoc]
    · intro x now
      obtain rfl := Option.some.inj (socket.symm.trans now)
      rw [queued, enqueued]
      exact agrees.queued k there
  | received k slice there offered socket moved =>
    obtain ⟨_, _, _, enqueued, received, _⟩ := Ledger.mk.inj moved
    exact agrees.received there offered socket enqueued received
  | enqueued k room there offered socket moved =>
    obtain ⟨_, _, _, enqueued, received, _⟩ := Ledger.mk.inj moved
    exact agrees.enqueued there offered socket enqueued received
  | returned len socket moved =>
    obtain ⟨_, _, _, enqueued, received, _⟩ := Ledger.mk.inj moved
    constructor
    · intro k now
      rw [received]
      exact agrees.arrived k (socket ▸ now)
    · intro k now
      rw [enqueued]
      exact agrees.queued k (socket ▸ now)
  | accepted buf socket moved =>
    obtain ⟨_, _, _, enqueued, received, _⟩ := Ledger.mk.inj moved
    constructor
    · intro k now
      rw [received]
      exact agrees.arrived k (socket ▸ now)
    · intro k now
      rw [enqueued]
      exact agrees.queued k (socket ▸ now)

end SocketBuffers
end Contents

/-! ## Every run -/

section Runs
variable {σ : Type} {net : Smoltcp σ} {socket : σ} {recvBufferSize sendBufferSize : ℕ+}
  {es : List (Event σ)} {s : Stream σ}

theorem runs_exact (run : Runs (stack net socket recvBufferSize sendBufferSize) es s) :
    Exact recvBufferSize sendBufferSize (ledger s.connection) := by
  refine run.invariant (I := fun s : Stream σ =>
    Exact recvBufferSize sendBufferSize (ledger s.connection)) ⟨rfl, rfl, rfl, rfl⟩ ?_
  intro u e v exact step
  have moves : Transfer net (fun _ _ => True) u.connection v.connection :=
    step_transfer (fun _ _ _ _ => trivial) step
  exact exact.transfer moves

def PolledAlong (b : SocketBuffers net) (recvBufferSize sendBufferSize : ℕ+) (socket : σ)
    (es : List (Event σ)) : Prop :=
  ∀ u k k' v, Takes (stack net socket recvBufferSize sendBufferSize) es u (.network k') v →
    u.connection.socket = some k → b.Polled k k'

theorem runs_agrees {b : SocketBuffers net} (fresh : b.Fresh socket)
    (polled : PolledAlong b recvBufferSize sendBufferSize socket es)
    (run : Runs (stack net socket recvBufferSize sendBufferSize) es s) :
    b.Agrees s.connection := by
  refine guarded_invariant (I := fun s : Stream σ => b.Agrees s.connection)
    (C := fun u e => ∀ k k', e = .network k' → u.connection.socket = some k → b.Polled k k')
    ?_ ?_ ?_ run.visits
  · constructor
    · intro k there
      obtain rfl := Option.some.inj there
      rw [fresh.arrived, fresh.unread]
      rfl
    · intro k there
      obtain rfl := Option.some.inj there
      exact fresh.queued
  · intro u e v agrees allowed step
    exact agrees.transfer (step_transfer allowed step)
  · rintro u _ v take k k' rfl there
    exact polled u k k' v take there

/-- At every moment each history on the far side of a ring buffer is a prefix of the one on its
near side, and the ring buffer holds the difference. As far as smoltcp keeps to its documentation,
the histories at the socket are its own. -/
theorem stream_bytes_exact (run : Runs (stack net socket recvBufferSize sendBufferSize) es s) :
    (s.connection.returned <+: s.connection.received ∧
      s.connection.enqueued <+: s.connection.accepted) ∧
    (s.connection.received = s.connection.returned ++ s.connection.recvBuffer.contents ∧
      s.connection.accepted = s.connection.enqueued ++ s.connection.sendBuffer.contents) ∧
    (s.connection.recvBuffer.contents.length ≤ recvBufferSize ∧
      s.connection.sendBuffer.contents.length ≤ sendBufferSize) ∧
    ∀ b : SocketBuffers net, b.Fresh socket →
      PolledAlong b recvBufferSize sendBufferSize socket es →
      ∀ k, s.connection.socket = some k →
        b.arrived k = s.connection.returned ++ s.connection.recvBuffer.contents ++ b.unread k ∧
        s.connection.accepted = b.queued k ++ s.connection.sendBuffer.contents := by
  obtain ⟨received, accepted, recvCapacity, sendCapacity⟩ := runs_exact run
  refine ⟨⟨?_, ?_⟩, ⟨received, accepted⟩, ⟨?_, ?_⟩, fun b fresh polled k there => ?_⟩
  · exact ⟨_, received.symm⟩
  · exact ⟨_, accepted.symm⟩
  · exact recvCapacity ▸ s.connection.recvBuffer.fits
  · exact sendCapacity ▸ s.connection.sendBuffer.fits
  · have agrees := runs_agrees fresh polled run
    constructor
    · rw [agrees.arrived k there]
      exact congrArg (· ++ b.unread k) received
    · rw [agrees.queued k there]
      exact accepted

end Runs

section Wrapped

structure WrappedSocket where
  arrived : Bytes
  unread : Bytes
  queued : Bytes

/-- An open socket whose buffers wrap after two bytes. -/
def wrapping : Smoltcp WrappedSocket where
  canRecv k := !k.unread.isEmpty
  canSend _ := true
  isOpen _ := true
  isActive _ := true
  established _ := true
  recvSlice k := some (k.unread.take 2)
  recvTake k n := { k with unread := k.unread.drop n }
  sendSlice _ := some 2
  sendPut k bytes := { k with queued := k.queued ++ bytes }
  close k := k
  active_of_established _ h := h

def wrappedBuffers : SocketBuffers wrapping where
  arrived k := k.arrived
  unread k := k.unread
  queued k := k.queued
  offered := by
    rintro k slice offered
    obtain rfl := Option.some.inj offered
    exact List.take_prefix 2 k.unread
  recv _ _ := ⟨rfl, rfl, rfl⟩
  send _ _ := ⟨rfl, rfl, rfl⟩
  close _ := ⟨rfl, rfl, rfl⟩

def fourArrived : WrappedSocket := ⟨[1, 2, 3, 4], [1, 2, 3, 4], []⟩

def afterArrival : List (Event WrappedSocket) :=
  [.call (.pollWrite [7, 8, 9, 10]), .task, .task, .worker, .worker, .worker, .worker, .worker,
    .call (.pollRead 1), .task]

theorem stream_bytes_exact_wrapped :
    ∃ s k, Runs (stack wrapping ⟨[], [], []⟩ 3 3) (.network fourArrived :: afterArrival) s ∧
      s.connection.socket = some k ∧ s.connection.returned = [1] ∧
      wrappedBuffers.arrived k =
        s.connection.returned ++ s.connection.recvBuffer.contents ++ wrappedBuffers.unread k ∧
      s.connection.accepted = wrappedBuffers.queued k ++ s.connection.sendBuffer.contents := by
  have ran : ∃ s k, exec (stack wrapping ⟨[], [], []⟩ 3 3) (.network fourArrived :: afterArrival) =
      some s ∧ s.connection.socket = some k ∧ s.connection.returned = [1] :=
    ⟨_, _, rfl, rfl, rfl⟩
  obtain ⟨s, k, ran, there, returned⟩ := ran
  have exact := stream_bytes_exact (runs_of_exec ran)
  refine ⟨s, k, runs_of_exec ran, there, returned,
    exact.2.2.2 wrappedBuffers ⟨rfl, rfl, rfl⟩ ?_ k there⟩
  intro u k k' v take there
  obtain ⟨n, here, reached⟩ := take.exec_take
  cases n with
  | zero =>
    obtain rfl := Option.some.inj reached
    obtain rfl := Option.some.inj there
    obtain rfl := Event.network.inj (Option.some.inj here)
    exact ⟨[1, 2, 3, 4], rfl, rfl, rfl⟩
  | succ n =>
    have later : Event.network k' ∈ afterArrival := List.mem_of_getElem? here
    simp [afterArrival] at later

end Wrapped
end Ombrac.NetstackBytes
