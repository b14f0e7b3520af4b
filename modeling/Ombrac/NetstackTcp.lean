import Ombrac.LabelledSystem
import Ombrac.ProtocolPacket
import Ombrac.RingBuffer
import Ombrac.StackSink

set_option autoImplicit false

/-!
# One TCP connection of the netstack

The application's `TcpStream` and the worker's `SocketIOHandle` share two ring buffers and a few
flags. A step of the worker is one access to them; a call of the stream is one step, which is
enough for the bytes, since the worker can only make a full buffer emptier and an empty one fuller
while the call runs. `NetstackWaiters` takes the calls apart.
-/
namespace Ombrac.NetstackTcp
open LabelledSystem ProtocolPacket RingBuffer StackSink

/-- The TCP socket of smoltcp. `recvSlice` and `sendSlice` are the contiguous slice and the room
that `recv` and `send` offer their closures, `none` where they fail; the closures return the length
of what they were offered. -/
structure Smoltcp (σ : Type) where
  canRecv : σ → Bool
  canSend : σ → Bool
  isOpen : σ → Bool
  isActive : σ → Bool
  established : σ → Bool
  recvSlice : σ → Option Bytes
  recvTake : σ → ℕ → σ
  sendSlice : σ → Option ℕ
  sendPut : σ → Bytes → σ
  close : σ → σ
  active_of_established : ∀ k, established k = true → isActive k = true

/-- A waker is only known to be registered or not. -/
structure SharedState where
  recvWaker : Bool
  sendWaker : Bool
  readClosed : Bool
  writeClosed : Bool
  socketDropped : Bool
  deriving DecidableEq

/-- The worker's place in its round, as far as this socket goes: before `handle_socket_io`, in
it, and in `prune_sockets` before each of its three tests. The flags are `notify_read` and
`notify_write`. -/
inductive Worker where
  | polling
  | receiving
  | checkingOpen (notifyRead : Bool)
  | sending (notifyWrite : Bool)
  | pruning
  | closing
  | checkingActive
  deriving DecidableEq

/-- `socket` is what the worker's socket set holds. The byte strings are histories: what
`poll_write` accepted, `send` enqueued, `recv` delivered and `poll_read` returned. -/
structure Connection (σ : Type) where
  socket : Option σ
  recvBuffer : RingBuf UInt8
  sendBuffer : RingBuf UInt8
  shared : SharedState
  worker : Worker
  notified : Bool
  woken : Bool
  accepted : Bytes
  enqueued : Bytes
  received : Bytes
  returned : Bytes
  closeCalled : Bool
  aborted : Bool

namespace Connection
variable {σ : Type}

def new (socket : σ) (recvBufferSize sendBufferSize : ℕ) : Connection σ where
  socket := some socket
  recvBuffer := .new recvBufferSize
  sendBuffer := .new sendBufferSize
  shared := ⟨false, false, false, false, false⟩
  worker := .polling
  notified := false
  woken := false
  accepted := []
  enqueued := []
  received := []
  returned := []
  closeCalled := false
  aborted := false

/-! ## Calls of the stream -/

/-- An empty result is the end of the stream. -/
def pollRead (c : Connection σ) (len : ℕ) : Connection σ × Poll Bytes :=
  if c.recvBuffer.isEmpty then
    if c.shared.readClosed then (c, .ready [])
    else ({ c with shared := { c.shared with recvWaker := true } }, .pending)
  else
    let (bytes, recvBuffer) := c.recvBuffer.popSlice len
    ({ c with
      recvBuffer := recvBuffer
      returned := c.returned ++ bytes
      notified := c.notified || !bytes.isEmpty }, .ready bytes)

def socketClosing : IoError := ⟨.brokenPipe, "Socket is closing"⟩

def pollWrite (c : Connection σ) (buf : Bytes) : Connection σ × Poll (Except IoError ℕ) :=
  if c.shared.socketDropped || c.shared.writeClosed then (c, .ready (.error socketClosing))
  else if c.sendBuffer.isFull then
    ({ c with shared := { c.shared with sendWaker := true } }, .pending)
  else
    let bytes := c.sendBuffer.accepts buf
    ({ c with
      sendBuffer := c.sendBuffer.pushSlice buf
      accepted := c.accepted ++ bytes
      notified := c.notified || !bytes.isEmpty }, .ready (.ok bytes.length))

def pollFlush (c : Connection σ) : Connection σ × Poll Unit :=
  if c.sendBuffer.isEmpty then (c, .ready ())
  else ({ c with shared := { c.shared with sendWaker := true } }, .pending)

def pollShutdown (c : Connection σ) : Connection σ × Poll Unit :=
  match c.pollFlush with
  | (c, .pending) => (c, .pending)
  | (c, .ready ()) =>
    ({ c with shared := { c.shared with writeClosed := true }, notified := true }, .ready ())

def drop (c : Connection σ) : Connection σ :=
  { c with shared := { c.shared with socketDropped := true }, notified := true }

/-! ## Steps of the worker -/

def wakeRecv (c : Connection σ) : Connection σ :=
  { c with shared := { c.shared with recvWaker := false }, woken := c.woken || c.shared.recvWaker }

def wakeSend (c : Connection σ) : Connection σ :=
  { c with shared := { c.shared with sendWaker := false }, woken := c.woken || c.shared.sendWaker }

def setReadClosed (c : Connection σ) : Connection σ :=
  { c with shared := { c.shared with readClosed := true } }

variable (net : Smoltcp σ)

def receive (c : Connection σ) (socket : σ) : Connection σ :=
  if net.canRecv socket then
    match net.recvSlice socket with
    | none => { c.setReadClosed with worker := .checkingOpen true }
    | some slice =>
      let bytes := c.recvBuffer.accepts slice
      { c with
        socket := some (net.recvTake socket bytes.length)
        recvBuffer := c.recvBuffer.pushSlice slice
        received := c.received ++ bytes
        worker := .checkingOpen (!slice.isEmpty) }
  else { c with worker := .checkingOpen false }

def checkOpen (c : Connection σ) (socket : σ) (notifyRead : Bool) : Connection σ :=
  let closing := !net.isOpen socket && !c.shared.readClosed
  let c := if closing then c.setReadClosed else c
  let c := if notifyRead || closing then c.wakeRecv else c
  { c with worker := .sending false }

def sent (c : Connection σ) (notifyWrite : Bool) : Connection σ :=
  { (if notifyWrite then c.wakeSend else c) with worker := .pruning }

def send (c : Connection σ) (socket : σ) (notifyWrite : Bool) : Connection σ :=
  if net.canSend socket && !c.sendBuffer.isEmpty then
    match net.sendSlice socket with
    | none => c.sent notifyWrite
    | some room =>
      let (bytes, sendBuffer) := c.sendBuffer.popSlice room
      if room = 0 then c.sent notifyWrite
      else { c with
        socket := some (net.sendPut socket bytes)
        sendBuffer := sendBuffer
        enqueued := c.enqueued ++ bytes
        worker := .sending true }
  else c.sent notifyWrite

/-- The socket of a dropped stream is aborted and removed. -/
def prune (c : Connection σ) : Connection σ :=
  if c.shared.socketDropped then { c with socket := none, aborted := true, worker := .polling }
  else { c with worker := .closing }

def closeWritten (c : Connection σ) (socket : σ) : Connection σ :=
  if c.shared.writeClosed && c.sendBuffer.isEmpty then
    { c with socket := some (net.close socket), closeCalled := true, worker := .checkingActive }
  else { c with worker := .checkingActive }

def checkActive (c : Connection σ) (socket : σ) : Connection σ :=
  if net.isActive socket then { c with worker := .polling }
  else { c with socket := none, worker := .polling }

end Connection

/-- A turn of the worker; `network` is a poll of smoltcp, which may do anything to the socket. -/
inductive WorkerEvent (σ : Type) where
  | network (socket : σ)
  | turn

inductive StreamEvent where
  | pollRead (len : ℕ)
  | pollWrite (buf : Bytes)
  | pollFlush
  | pollShutdown
  | drop

section Steps
variable {σ : Type} (net : Smoltcp σ)

def workerStep (c : Connection σ) : WorkerEvent σ → Option (Connection σ)
  | .network socket =>
    match c.socket, c.worker with
    | some _, .polling => some { c with socket := some socket }
    | _, _ => none
  | .turn =>
    match c.socket with
    | none => none
    | some socket =>
      match c.worker with
      | .polling =>
        some { c with worker := if c.shared.socketDropped then .pruning else .receiving }
      | .receiving => some (c.receive net socket)
      | .checkingOpen notifyRead => some (c.checkOpen net socket notifyRead)
      | .sending notifyWrite => some (c.send net socket notifyWrite)
      | .pruning => some c.prune
      | .closing => some (c.closeWritten net socket)
      | .checkingActive => some (c.checkActive net socket)

/-- A dropped stream makes no more calls. -/
def streamStep (c : Connection σ) (e : StreamEvent) : Option (Connection σ) :=
  if c.shared.socketDropped then none
  else
    match e with
    | .pollRead len => some (c.pollRead len).1
    | .pollWrite buf => some (c.pollWrite buf).1
    | .pollFlush => some c.pollFlush.1
    | .pollShutdown => some c.pollShutdown.1
    | .drop => some c.drop

end Steps

/-! ## Bytes are kept in order, and the socket is closed only after a shutdown -/

structure Connection.Invariant {σ : Type} (c : Connection σ) : Prop where
  sends : c.enqueued ++ c.sendBuffer.contents = c.accepted
  receives : c.returned ++ c.recvBuffer.contents = c.received
  closes : c.closeCalled = true → c.shared.writeClosed = true

section Steps
variable {σ : Type} {net : Smoltcp σ} {c d : Connection σ}

/-- A step that leaves the bytes where they are. -/
theorem Connection.Invariant.of_same (inv : c.Invariant) (send : d.sendBuffer = c.sendBuffer)
    (recv : d.recvBuffer = c.recvBuffer) (accepted : d.accepted = c.accepted)
    (enqueued : d.enqueued = c.enqueued) (received : d.received = c.received)
    (returned : d.returned = c.returned)
    (closes : d.closeCalled = true → d.shared.writeClosed = true) : d.Invariant := by
  refine ⟨?_, ?_, closes⟩
  · rw [enqueued, send, accepted]
    exact inv.sends
  · rw [returned, recv, received]
    exact inv.receives

theorem pollRead_invariant (inv : c.Invariant) (len : ℕ) : (c.pollRead len).1.Invariant := by
  unfold Connection.pollRead
  split_ifs
  · exact inv
  · exact inv.of_same rfl rfl rfl rfl rfl rfl inv.closes
  · refine ⟨inv.sends, ?_, inv.closes⟩
    change (c.returned ++ (c.recvBuffer.popSlice len).1) ++ (c.recvBuffer.popSlice len).2.contents =
      c.received
    rw [List.append_assoc, RingBuf.popSlice_append]
    exact inv.receives

theorem pollWrite_invariant (inv : c.Invariant) (buf : Bytes) : (c.pollWrite buf).1.Invariant := by
  unfold Connection.pollWrite
  split_ifs
  · exact inv
  · exact inv.of_same rfl rfl rfl rfl rfl rfl inv.closes
  · refine ⟨?_, inv.receives, inv.closes⟩
    change c.enqueued ++ (c.sendBuffer.contents ++ c.sendBuffer.accepts buf) =
      c.accepted ++ c.sendBuffer.accepts buf
    rw [← List.append_assoc, inv.sends]

theorem pollShutdown_invariant (inv : c.Invariant) : c.pollShutdown.1.Invariant := by
  unfold Connection.pollShutdown Connection.pollFlush
  by_cases empty : c.sendBuffer.isEmpty = true
  · rw [if_pos empty]
    exact inv.of_same rfl rfl rfl rfl rfl rfl fun _ => rfl
  · rw [if_neg empty]
    exact inv.of_same rfl rfl rfl rfl rfl rfl inv.closes

theorem streamStep_invariant (inv : c.Invariant) {e : StreamEvent}
    (h : streamStep c e = some d) : d.Invariant := by
  unfold streamStep at h
  split_ifs at h
  cases e with
  | pollRead len =>
    obtain rfl := Option.some.inj h
    exact pollRead_invariant inv len
  | pollWrite buf =>
    obtain rfl := Option.some.inj h
    exact pollWrite_invariant inv buf
  | pollFlush =>
    obtain rfl := Option.some.inj h
    unfold Connection.pollFlush
    split_ifs
    · exact inv
    · exact inv.of_same rfl rfl rfl rfl rfl rfl inv.closes
  | pollShutdown =>
    obtain rfl := Option.some.inj h
    exact pollShutdown_invariant inv
  | drop =>
    obtain rfl := Option.some.inj h
    exact inv.of_same rfl rfl rfl rfl rfl rfl inv.closes

theorem receive_invariant (inv : c.Invariant) (socket : σ) : (c.receive net socket).Invariant := by
  unfold Connection.receive
  split_ifs
  · split
    · exact inv.of_same rfl rfl rfl rfl rfl rfl inv.closes
    · rename_i slice _
      refine ⟨inv.sends, ?_, inv.closes⟩
      change c.returned ++ (c.recvBuffer.contents ++ c.recvBuffer.accepts slice) =
        c.received ++ c.recvBuffer.accepts slice
      rw [← List.append_assoc, inv.receives]
  · exact inv.of_same rfl rfl rfl rfl rfl rfl inv.closes

theorem sent_invariant (inv : c.Invariant) (notifyWrite : Bool) :
    (c.sent notifyWrite).Invariant := by
  cases notifyWrite with
  | false => exact inv.of_same rfl rfl rfl rfl rfl rfl inv.closes
  | true => exact inv.of_same rfl rfl rfl rfl rfl rfl inv.closes

theorem send_invariant (inv : c.Invariant) (socket : σ) (notifyWrite : Bool) :
    (c.send net socket notifyWrite).Invariant := by
  unfold Connection.send
  split_ifs
  · split
    · exact sent_invariant inv notifyWrite
    · rename_i room _
      dsimp only
      split_ifs
      · exact sent_invariant inv notifyWrite
      · refine ⟨?_, inv.receives, inv.closes⟩
        change (c.enqueued ++ (c.sendBuffer.popSlice room).1) ++
          (c.sendBuffer.popSlice room).2.contents = c.accepted
        rw [List.append_assoc, RingBuf.popSlice_append]
        exact inv.sends
  · exact sent_invariant inv notifyWrite

theorem checkOpen_invariant (inv : c.Invariant) (socket : σ) (notifyRead : Bool) :
    (c.checkOpen net socket notifyRead).Invariant := by
  unfold Connection.checkOpen
  dsimp only
  split_ifs <;> exact inv.of_same rfl rfl rfl rfl rfl rfl inv.closes

theorem workerStep_invariant (inv : c.Invariant) {e : WorkerEvent σ}
    (h : workerStep net c e = some d) : d.Invariant := by
  cases e with
  | network socket =>
    simp only [workerStep] at h
    split at h
    · obtain rfl := Option.some.inj h
      exact inv.of_same rfl rfl rfl rfl rfl rfl inv.closes
    · cases h
  | turn =>
    simp only [workerStep] at h
    split at h
    · cases h
    · rename_i socket _
      split at h <;> obtain rfl := Option.some.inj h
      · exact inv.of_same rfl rfl rfl rfl rfl rfl inv.closes
      · exact receive_invariant inv socket
      · exact checkOpen_invariant inv socket _
      · exact send_invariant inv socket _
      · unfold Connection.prune
        split_ifs <;> exact inv.of_same rfl rfl rfl rfl rfl rfl inv.closes
      · unfold Connection.closeWritten
        split_ifs with finished
        · refine inv.of_same rfl rfl rfl rfl rfl rfl fun _ => ?_
          exact (Bool.and_eq_true_iff.1 finished).1
        · exact inv.of_same rfl rfl rfl rfl rfl rfl inv.closes
      · unfold Connection.checkActive
        split_ifs <;> exact inv.of_same rfl rfl rfl rfl rfl rfl inv.closes

/-! ## Flags that only the stream sets -/

/-- What a step of the worker cannot touch. -/
theorem workerStep_flags {e : WorkerEvent σ} (h : workerStep net c e = some d) :
    d.shared.writeClosed = c.shared.writeClosed ∧
      d.shared.socketDropped = c.shared.socketDropped ∧ d.accepted = c.accepted := by
  cases e with
  | network socket =>
    simp only [workerStep] at h
    split at h
    · obtain rfl := Option.some.inj h
      exact ⟨rfl, rfl, rfl⟩
    · cases h
  | turn =>
    simp only [workerStep] at h
    split at h
    · cases h
    · rename_i socket _
      split at h <;> obtain rfl := Option.some.inj h
      · exact ⟨rfl, rfl, rfl⟩
      · unfold Connection.receive
        split_ifs
        · split <;> exact ⟨rfl, rfl, rfl⟩
        · exact ⟨rfl, rfl, rfl⟩
      · unfold Connection.checkOpen
        dsimp only
        split_ifs <;> exact ⟨rfl, rfl, rfl⟩
      · rename_i notifyWrite _
        have ends : (c.sent notifyWrite).shared.writeClosed = c.shared.writeClosed ∧
            (c.sent notifyWrite).shared.socketDropped = c.shared.socketDropped ∧
            (c.sent notifyWrite).accepted = c.accepted := by
          cases notifyWrite <;> exact ⟨rfl, rfl, rfl⟩
        unfold Connection.send
        split_ifs
        · split
          · exact ends
          · dsimp only
            split_ifs
            · exact ends
            · exact ⟨rfl, rfl, rfl⟩
        · exact ends
      · unfold Connection.prune
        split_ifs <;> exact ⟨rfl, rfl, rfl⟩
      · unfold Connection.closeWritten
        split_ifs <;> exact ⟨rfl, rfl, rfl⟩
      · unfold Connection.checkActive
        split_ifs <;> exact ⟨rfl, rfl, rfl⟩

end Steps
end Ombrac.NetstackTcp
