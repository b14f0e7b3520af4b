import Mathlib.Data.PNat.Basic
import Ombrac.NetstackTcp

set_option autoImplicit false

/-!
# Who wakes the task of a netstack stream

`NetstackTcp` takes a call of the stream in one step. Here every access to the buffers, the flags
and the wakers is a step of its own, so that the worker may act between the two halves of a
registration and the task between a flag's store and the wake-up that follows it.
-/
namespace Ombrac.NetstackWaiters
open LabelledSystem NetstackTcp ProtocolPacket RingBuffer

inductive Waker where
  | recv
  | send
  deriving DecidableEq

/-- What a call does next. `flush*` with `true` is the flush of a shutdown. -/
inductive Point where
  | readLoad (len : ℕ)
  | readRegister (len : ℕ)
  | readRecheck (len : ℕ)
  | readPop (len : ℕ)
  | writeCheck (buf : Bytes)
  | writeRegister (buf : Bytes)
  | writeRecheck (buf : Bytes)
  | writePush (buf : Bytes)
  | flushRegister (shutdown : Bool)
  | flushRecheck (shutdown : Bool)
  | storeWriteClosed
  deriving DecidableEq

inductive Task where
  | running
  | calling (point : Point)
  | parked
  | gone
  deriving DecidableEq

/-- A reader that has seen the read side open and not yet registered. -/
def Task.readRegistering : Task → Bool
  | .calling (.readRegister _) => true
  | _ => false

structure Waiting where
  read : Bool
  write : Bool
  flush : Bool
  deriving DecidableEq

def Waiting.any (w : Waiting) : Bool := w.read || w.write || w.flush

/-- `waking` is the wake-up the worker is about to make. `late` says of the call under way that it
began after the socket was removed, `latePending` that some such call has answered `Pending`. -/
structure Stream (σ : Type) where
  connection : Connection σ
  waking : Option Waker
  task : Task
  waiting : Waiting
  late : Bool
  latePending : Bool

inductive Event (σ : Type) where
  | network (socket : σ)
  | worker
  | call (e : StreamEvent)
  | task
  | park
  | resume
  | spurious

namespace Stream
variable {σ : Type}

def new (socket : σ) (recvBufferSize sendBufferSize : ℕ) : Stream σ where
  connection := .new socket recvBufferSize sendBufferSize
  waking := none
  task := .running
  waiting := ⟨false, false, false⟩
  late := false
  latePending := false

/-! ## The worker -/

def checkOpen (net : Smoltcp σ) (s : Stream σ) (socket : σ) (notifyRead : Bool) : Stream σ :=
  let closing := !net.isOpen socket && !s.connection.shared.readClosed
  let c := if closing then s.connection.setReadClosed else s.connection
  { s with
    connection := { c with worker := .sending false }
    waking := if notifyRead || closing then some .recv else none }

def sent (s : Stream σ) (notifyWrite : Bool) : Stream σ :=
  { s with
    connection := { s.connection with worker := .pruning }
    waking := if notifyWrite then some .send else none }

def send (net : Smoltcp σ) (s : Stream σ) (socket : σ) (notifyWrite : Bool) : Stream σ :=
  if net.canSend socket && !s.connection.sendBuffer.isEmpty then
    match net.sendSlice socket with
    | none => s.sent notifyWrite
    | some room =>
      if room = 0 then s.sent notifyWrite
      else { s with connection := s.connection.send net socket notifyWrite }
  else s.sent notifyWrite

def wake (s : Stream σ) : Waker → Stream σ
  | .recv => { s with connection := s.connection.wakeRecv, waking := none }
  | .send => { s with connection := s.connection.wakeSend, waking := none }

def workerStep (net : Smoltcp σ) (s : Stream σ) : Option (Stream σ) :=
  match s.connection.socket with
  | none => none
  | some socket =>
    match s.waking with
    | some waker => some (s.wake waker)
    | none =>
      match s.connection.worker with
      | .checkingOpen notifyRead => some (s.checkOpen net socket notifyRead)
      | .sending notifyWrite => some (s.send net socket notifyWrite)
      | _ => (NetstackTcp.workerStep net s.connection .turn).map fun c => { s with connection := c }

/-! ## The task -/

def setPoint (s : Stream σ) (point : Point) : Stream σ := { s with task := .calling point }

def answer (s : Stream σ) (waiting : Waiting) (pending : Bool) : Stream σ :=
  { s with
    task := .running
    waiting := waiting
    latePending := s.latePending || (s.late && pending) }

def readAnswer (s : Stream σ) (pending : Bool) : Stream σ :=
  s.answer { s.waiting with read := pending } pending

def writeAnswer (s : Stream σ) (pending : Bool) : Stream σ :=
  s.answer { s.waiting with write := pending } pending

def flushAnswer (s : Stream σ) (pending : Bool) : Stream σ :=
  s.answer { s.waiting with flush := pending } pending

def flushed (s : Stream σ) (shutdown : Bool) : Stream σ :=
  if shutdown then s.setPoint .storeWriteClosed else s.flushAnswer false

def begin (s : Stream σ) : StreamEvent → Stream σ
  | .pollRead len =>
    if s.connection.recvBuffer.isEmpty then s.setPoint (.readLoad len) else s.setPoint (.readPop len)
  | .pollWrite buf =>
    if s.connection.shared.socketDropped || s.connection.shared.writeClosed then
      s.writeAnswer false
    else s.setPoint (.writeCheck buf)
  | .pollFlush =>
    if s.connection.sendBuffer.isEmpty then s.flushed false else s.setPoint (.flushRegister false)
  | .pollShutdown =>
    if s.connection.sendBuffer.isEmpty then s.flushed true else s.setPoint (.flushRegister true)
  | .drop => { s with connection := s.connection.drop, task := .gone }

def registerRecv (s : Stream σ) : Stream σ :=
  { s with
    connection := { s.connection with shared := { s.connection.shared with recvWaker := true } } }

def registerSend (s : Stream σ) : Stream σ :=
  { s with
    connection := { s.connection with shared := { s.connection.shared with sendWaker := true } } }

def pop (s : Stream σ) (len : ℕ) : Stream σ :=
  let (bytes, recvBuffer) := s.connection.recvBuffer.popSlice len
  { s with
    connection := { s.connection with
      recvBuffer := recvBuffer
      returned := s.connection.returned ++ bytes
      notified := s.connection.notified || !bytes.isEmpty } }

def push (s : Stream σ) (buf : Bytes) : Stream σ :=
  let bytes := s.connection.sendBuffer.accepts buf
  { s with
    connection := { s.connection with
      sendBuffer := s.connection.sendBuffer.pushSlice buf
      accepted := s.connection.accepted ++ bytes
      notified := s.connection.notified || !bytes.isEmpty } }

def closeWrite (s : Stream σ) : Stream σ :=
  { s with
    connection := { s.connection with
      shared := { s.connection.shared with writeClosed := true }
      notified := true } }

def advance (s : Stream σ) : Point → Stream σ
  | .readLoad len =>
    if s.connection.shared.readClosed then s.readAnswer false else s.setPoint (.readRegister len)
  | .readRegister len => s.registerRecv.setPoint (.readRecheck len)
  | .readRecheck len =>
    if s.connection.recvBuffer.isEmpty then s.readAnswer true else s.setPoint (.readPop len)
  | .readPop len => (s.pop len).readAnswer false
  | .writeCheck buf =>
    if s.connection.sendBuffer.isFull then s.setPoint (.writeRegister buf) else s.setPoint (.writePush buf)
  | .writeRegister buf => s.registerSend.setPoint (.writeRecheck buf)
  | .writeRecheck buf =>
    if s.connection.sendBuffer.isFull then s.writeAnswer true else s.setPoint (.writePush buf)
  | .writePush buf => (s.push buf).writeAnswer false
  | .flushRegister shutdown => s.registerSend.setPoint (.flushRecheck shutdown)
  | .flushRecheck shutdown =>
    if s.connection.sendBuffer.isEmpty then s.flushed shutdown else s.flushAnswer true
  | .storeWriteClosed => s.closeWrite.flushAnswer false

/-- A task parks on the stream once a call has answered `Pending`, and runs again when a wake-up
has reached it. -/
def step (net : Smoltcp σ) (s : Stream σ) : Event σ → Option (Stream σ)
  | .network socket =>
    (NetstackTcp.workerStep net s.connection (.network socket)).map fun c =>
      { s with connection := c }
  | .worker => s.workerStep net
  | .call e =>
    match s.task with
    | .running => some ({ s with late := s.connection.socket.isNone }.begin e)
    | _ => none
  | .task =>
    match s.task with
    | .calling point => some (s.advance point)
    | _ => none
  | .park =>
    match s.task with
    | .running => if s.waiting.any then some { s with task := .parked } else none
    | _ => none
  | .resume =>
    match s.task with
    | .parked =>
      if s.connection.woken then
        some { s with
          connection := { s.connection with woken := false }
          task := .running
          waiting := ⟨false, false, false⟩ }
      else none
    | _ => none
  | .spurious => some { s with connection := { s.connection with woken := true } }

end Stream

/-- `HeapRb::new` panics on a capacity of zero. -/
def stack {σ : Type} (net : Smoltcp σ) (socket : σ) (recvBufferSize sendBufferSize : ℕ+) :
    System (Stream σ) (Event σ) where
  initial := .new socket recvBufferSize sendBufferSize
  step := Stream.step net

/-! ## The steps of `NetstackTcp` are the calls and the turns that nobody interrupts -/

section Coarse
variable {σ : Type} {net : Smoltcp σ} {socket : σ} {recvBufferSize sendBufferSize : ℕ+}
  {s : Stream σ} {c : Connection σ}

theorem exec_call (running : s.task = .running) (e : StreamEvent) (es : List (Event σ)) :
    execFrom (stack net socket recvBufferSize sendBufferSize) s (.call e :: es) =
      execFrom (stack net socket recvBufferSize sendBufferSize)
        ({ s with late := s.connection.socket.isNone }.begin e) es := by
  simp [execFrom, stack, Stream.step, running]

theorem exec_task {p : Point} (calling : s.task = .calling p) (es : List (Event σ)) :
    execFrom (stack net socket recvBufferSize sendBufferSize) s (.task :: es) =
      execFrom (stack net socket recvBufferSize sendBufferSize) (s.advance p) es := by
  simp [execFrom, stack, Stream.step, calling]

theorem exec_worker {v : Stream σ} (h : s.workerStep net = some v) (es : List (Event σ)) :
    execFrom (stack net socket recvBufferSize sendBufferSize) s (.worker :: es) =
      execFrom (stack net socket recvBufferSize sendBufferSize) v es :=
  execFrom_step h es

theorem pollFlush_uninterrupted (running : s.task = .running) :
    ∃ n v, execFrom (stack net socket recvBufferSize sendBufferSize) s
      (.call .pollFlush :: List.replicate n .task) = some v ∧
        v.connection = s.connection.pollFlush.1 := by
  unfold Connection.pollFlush
  split_ifs with empty
  · refine ⟨0, ?_⟩
    rw [exec_call running]
    simp [execFrom, Stream.begin, Stream.flushed, Stream.flushAnswer, Stream.answer, empty]
  · refine ⟨2, ?_⟩
    rw [exec_call running]
    simp only [Stream.begin, empty, List.replicate]
    rw [exec_task rfl, exec_task rfl]
    simp [execFrom, Stream.advance, Stream.setPoint, Stream.registerSend, Stream.flushAnswer,
      Stream.answer, empty]

theorem pollShutdown_uninterrupted (running : s.task = .running) :
    ∃ n v, execFrom (stack net socket recvBufferSize sendBufferSize) s
      (.call .pollShutdown :: List.replicate n .task) = some v ∧
        v.connection = s.connection.pollShutdown.1 := by
  unfold Connection.pollShutdown Connection.pollFlush
  split_ifs with empty
  · refine ⟨1, ?_⟩
    rw [exec_call running]
    simp only [Stream.begin, Stream.flushed, empty, if_true, List.replicate]
    rw [exec_task rfl]
    simp [execFrom, Stream.advance, Stream.setPoint, Stream.closeWrite, Stream.flushAnswer,
      Stream.answer]
  · refine ⟨2, ?_⟩
    rw [exec_call running]
    simp only [Stream.begin, empty, List.replicate]
    rw [exec_task rfl, exec_task rfl]
    simp [execFrom, Stream.advance, Stream.setPoint, Stream.registerSend, Stream.flushAnswer,
      Stream.answer, empty]

theorem pollRead_uninterrupted (running : s.task = .running) (len : ℕ) :
    ∃ n v, execFrom (stack net socket recvBufferSize sendBufferSize) s
      (.call (.pollRead len) :: List.replicate n .task) = some v ∧
        v.connection = (s.connection.pollRead len).1 := by
  unfold Connection.pollRead
  split_ifs with empty closed
  · refine ⟨1, ?_⟩
    rw [exec_call running]
    simp only [Stream.begin, empty, if_true, List.replicate]
    rw [exec_task rfl]
    simp [execFrom, Stream.advance, Stream.setPoint, Stream.readAnswer, Stream.answer, closed]
  · refine ⟨3, ?_⟩
    rw [exec_call running]
    simp only [Stream.begin, empty, if_true, List.replicate]
    rw [exec_task rfl]
    simp only [Stream.advance, Stream.setPoint, closed, Bool.false_eq_true, if_false]
    rw [exec_task rfl, exec_task rfl]
    simp [execFrom, Stream.advance, Stream.setPoint, Stream.registerRecv, Stream.readAnswer,
      Stream.answer, empty, closed]
  · refine ⟨1, ?_⟩
    rw [exec_call running]
    simp only [Stream.begin, empty, List.replicate]
    rw [exec_task rfl]
    simp [execFrom, Stream.advance, Stream.setPoint, Stream.pop, Stream.readAnswer, Stream.answer]

theorem pollWrite_uninterrupted (running : s.task = .running) (buf : Bytes) :
    ∃ n v, execFrom (stack net socket recvBufferSize sendBufferSize) s
      (.call (.pollWrite buf) :: List.replicate n .task) = some v ∧
        v.connection = (s.connection.pollWrite buf).1 := by
  unfold Connection.pollWrite
  split_ifs with closing full
  · refine ⟨0, ?_⟩
    rw [exec_call running]
    simp only [Stream.begin, closing, if_true]
    simp [execFrom, Stream.writeAnswer, Stream.answer]
  · refine ⟨3, ?_⟩
    rw [exec_call running]
    simp only [Stream.begin, closing, Bool.false_eq_true, if_false, List.replicate]
    rw [exec_task rfl]
    simp only [Stream.advance, Stream.setPoint, full, if_true]
    rw [exec_task rfl, exec_task rfl]
    simp [execFrom, Stream.advance, Stream.setPoint, Stream.registerSend, Stream.writeAnswer,
      Stream.answer, full]
  · refine ⟨2, ?_⟩
    rw [exec_call running]
    simp only [Stream.begin, closing, Bool.false_eq_true, if_false, List.replicate]
    rw [exec_task rfl]
    simp only [Stream.advance, Stream.setPoint, full, Bool.false_eq_true, if_false]
    rw [exec_task rfl]
    simp [execFrom, Stream.advance, Stream.push, Stream.writeAnswer, Stream.answer]

theorem streamStep_uninterrupted (running : s.task = .running) {e : StreamEvent}
    (h : NetstackTcp.streamStep s.connection e = some c) :
    ∃ n v, execFrom (stack net socket recvBufferSize sendBufferSize) s
      (.call e :: List.replicate n .task) = some v ∧ v.connection = c := by
  unfold NetstackTcp.streamStep at h
  split_ifs at h
  cases e with
  | pollRead len =>
    obtain rfl := Option.some.inj h
    exact pollRead_uninterrupted running len
  | pollWrite buf =>
    obtain rfl := Option.some.inj h
    exact pollWrite_uninterrupted running buf
  | pollFlush =>
    obtain rfl := Option.some.inj h
    exact pollFlush_uninterrupted running
  | pollShutdown =>
    obtain rfl := Option.some.inj h
    exact pollShutdown_uninterrupted running
  | drop =>
    obtain rfl := Option.some.inj h
    exact ⟨0, _, exec_call running .drop [], rfl⟩

theorem sent_uninterrupted {notifyWrite : Bool} (present : s.connection.socket ≠ none)
    (h : s.workerStep net = some (s.sent notifyWrite)) :
    ∃ n v, execFrom (stack net socket recvBufferSize sendBufferSize) s
      (List.replicate n .worker) = some v ∧ v.waking = none ∧
        v.connection = s.connection.sent notifyWrite := by
  obtain ⟨k, present⟩ := Option.ne_none_iff_exists'.1 present
  cases notifyWrite with
  | false => exact ⟨1, s.sent false, exec_worker h [], rfl, rfl⟩
  | true =>
    have woken : (s.sent true).workerStep net = some ((s.sent true).wake .send) := by
      simp [Stream.workerStep, Stream.sent, present]
    exact ⟨2, _, (exec_worker h [.worker]).trans (exec_worker woken []), rfl, rfl⟩

theorem send_uninterrupted {notifyWrite : Bool} {k : σ} (quiet : s.waking = none)
    (phase : s.connection.worker = .sending notifyWrite)
    (present : s.connection.socket = some k) :
    ∃ n v, execFrom (stack net socket recvBufferSize sendBufferSize) s
      (List.replicate n .worker) = some v ∧ v.waking = none ∧
        v.connection = s.connection.send net k notifyWrite := by
  have one : s.workerStep net = some (s.send net k notifyWrite) := by
    simp [Stream.workerStep, present, quiet, phase]
  have stays : s.connection.socket ≠ none := by simp [present]
  by_cases sendable : (net.canSend k && !s.connection.sendBuffer.isEmpty) = true
  · cases offered : net.sendSlice k with
    | none =>
      have left : s.send net k notifyWrite = s.sent notifyWrite := by
        simp only [Stream.send, sendable, if_true, offered]
      have same : s.connection.send net k notifyWrite = s.connection.sent notifyWrite := by
        simp only [Connection.send, sendable, if_true, offered]
      rw [same]
      exact sent_uninterrupted stays (left ▸ one)
    | some room =>
      by_cases zero : room = 0
      · have left : s.send net k notifyWrite = s.sent notifyWrite := by
          simp only [Stream.send, sendable, if_true, offered, zero]
        have same : s.connection.send net k notifyWrite = s.connection.sent notifyWrite := by
          simp only [Connection.send, sendable, if_true, offered, zero]
        rw [same]
        exact sent_uninterrupted stays (left ▸ one)
      · have popped : s.send net k notifyWrite =
            { s with connection := s.connection.send net k notifyWrite } := by
          simp only [Stream.send, sendable, if_true, offered, zero, if_false]
        exact ⟨1, _, exec_worker (one.trans (congrArg some popped)) [], quiet, rfl⟩
  · have left : s.send net k notifyWrite = s.sent notifyWrite := if_neg sendable
    have same : s.connection.send net k notifyWrite = s.connection.sent notifyWrite :=
      if_neg sendable
    rw [same]
    exact sent_uninterrupted stays (left ▸ one)

theorem checkOpen_uninterrupted {notifyRead : Bool} {k : σ} (quiet : s.waking = none)
    (phase : s.connection.worker = .checkingOpen notifyRead)
    (present : s.connection.socket = some k) :
    ∃ n v, execFrom (stack net socket recvBufferSize sendBufferSize) s
      (List.replicate n .worker) = some v ∧ v.waking = none ∧
        v.connection = s.connection.checkOpen net k notifyRead := by
  have one : s.workerStep net = some (s.checkOpen net k notifyRead) := by
    simp [Stream.workerStep, present, quiet, phase]
  by_cases notify :
      (notifyRead || (!net.isOpen k && !s.connection.shared.readClosed)) = true
  · have woken : (s.checkOpen net k notifyRead).workerStep net =
        some ((s.checkOpen net k notifyRead).wake .recv) := by
      have still : (s.checkOpen net k notifyRead).connection.socket = some k := by
        unfold Stream.checkOpen
        dsimp only
        split_ifs <;> exact present
      simp only [Stream.workerStep, still]
      simp only [Stream.checkOpen, notify, if_true]
    refine ⟨2, _, (exec_worker one [.worker]).trans (exec_worker woken []), rfl, ?_⟩
    simp only [Stream.wake, Stream.checkOpen, Connection.checkOpen, notify, if_true]
    rfl
  · refine ⟨1, _, exec_worker one [], ?_, ?_⟩
    · simp only [Stream.checkOpen, notify]
      rfl
    · simp only [Stream.checkOpen, Connection.checkOpen, notify]
      rfl

theorem workerStep_uninterrupted (quiet : s.waking = none)
    (h : NetstackTcp.workerStep net s.connection .turn = some c) :
    ∃ n v, execFrom (stack net socket recvBufferSize sendBufferSize) s
      (List.replicate n .worker) = some v ∧ v.waking = none ∧ v.connection = c := by
  cases present : s.connection.socket with
  | none =>
    rw [NetstackTcp.workerStep, present] at h
    cases h
  | some k =>
    cases phase : s.connection.worker with
    | checkingOpen notifyRead =>
      simp only [NetstackTcp.workerStep, present, phase] at h
      obtain rfl := Option.some.inj h
      exact checkOpen_uninterrupted quiet phase present
    | sending notifyWrite =>
      simp only [NetstackTcp.workerStep, present, phase] at h
      obtain rfl := Option.some.inj h
      exact send_uninterrupted quiet phase present
    | polling | receiving | pruning | closing | checkingActive =>
      have one : s.workerStep net = some { s with connection := c } := by
        simp [Stream.workerStep, present, quiet, phase, h]
      exact ⟨1, _, exec_worker one [], quiet, rfl⟩

end Coarse

/-! ## Who will wake the task -/

namespace Stream
variable {σ : Type}

/-- No task waits for a removed socket without a wake-up, and no call that began after the removal
has answered `Pending`. -/
def Released (s : Stream σ) : Prop :=
  s.latePending = false ∧
    (s.connection.socket = none → s.task = .parked → s.connection.woken = true)

/-- The worker has still to make this wake-up in its round. -/
def WillWake (s : Stream σ) : Waker → Prop
  | .recv => s.waking = some .recv ∨ s.connection.worker = .checkingOpen true
  | .send => s.waking = some .send ∨ s.connection.worker = .sending true

def Readable (s : Stream σ) : Prop := s.connection.recvBuffer.isEmpty = false

def Unsent (s : Stream σ) : Prop := s.connection.sendBuffer.isEmpty = false

/-- A wake-up has come, or comes once the worker closes the read side. -/
def ReadCovered (s : Stream σ) : Prop :=
  s.connection.woken = true ∨
    (s.connection.shared.recvWaker = true ∧
      (s.connection.shared.readClosed = true → s.WillWake .recv))

def SendCovered (s : Stream σ) : Prop :=
  s.connection.woken = true ∨
    (s.connection.shared.sendWaker = true ∧ (s.Unsent ∨ s.WillWake .send))

/-- The close of the read side has not passed a registering reader by. -/
def CloseNoticed (s : Stream σ) : Prop :=
  s.connection.shared.readClosed = true →
    s.connection.woken = true ∨ s.WillWake .recv ∨ s.Readable

def At (s : Stream σ) : Point → Prop
  | .readRegister _ => s.late = false ∧ s.CloseNoticed
  | .readRecheck _ => s.late = false ∧ (s.ReadCovered ∨ s.Readable)
  | .writeCheck _ | .writeRegister _ | .writePush _ =>
    s.late = false ∧ s.connection.shared.writeClosed = false
  | .writeRecheck _ =>
    s.late = false ∧ s.connection.shared.writeClosed = false ∧
      (s.connection.woken = true ∨ s.connection.shared.sendWaker = true)
  | .flushRegister _ => s.late = false
  | .flushRecheck _ =>
    s.late = false ∧ (s.connection.woken = true ∨ s.connection.shared.sendWaker = true)
  | .storeWriteClosed => s.connection.sendBuffer.isEmpty = true
  | .readLoad _ | .readPop _ => True

def BothClosed (s : Stream σ) : Prop :=
  s.connection.shared.readClosed = true ∧ s.connection.shared.writeClosed = true

structure Invariant (s : Stream σ) : Prop where
  gone : s.connection.shared.socketDropped = true ↔ s.task = .gone
  capacity : 0 < s.connection.sendBuffer.capacity
  removed : s.connection.socket = none →
    s.connection.worker = .polling ∧ s.waking = none ∧ (s.task = .gone ∨ s.BothClosed)
  written : s.connection.shared.writeClosed = true → s.connection.sendBuffer.isEmpty = true
  reads : s.waiting.read = true → s.ReadCovered
  sends : (s.waiting.write || s.waiting.flush) = true → s.SendCovered
  point : ∀ p, s.task = .calling p → s.At p
  parked : s.task = .parked → s.waiting.any = true
  late : s.late = true → s.connection.socket = none
  answered : s.latePending = false

theorem Invariant.released {s : Stream σ} (inv : s.Invariant) : s.Released := by
  refine ⟨inv.answered, fun removed parked => ?_⟩
  obtain ⟨polling, quiet, gone | ⟨readClosed, writeClosed⟩⟩ := inv.removed removed
  · cases gone.symm.trans parked
  have asleep : ∀ w, ¬s.WillWake w := by
    intro w about
    cases w with
    | recv => rcases about with about | about <;> simp [quiet, polling] at about
    | send => rcases about with about | about <;> simp [quiet, polling] at about
  have waits := inv.parked parked
  by_cases read : s.waiting.read = true
  · obtain woken | ⟨_, comes⟩ := inv.reads read
    · exact woken
    · exact absurd (comes readClosed) (asleep _)
  · have sends : (s.waiting.write || s.waiting.flush) = true := by
      simpa [Waiting.any, read] using waits
    obtain woken | ⟨_, unsent | about⟩ := inv.sends sends
    · exact woken
    · cases (inv.written writeClosed).symm.trans unsent
    · exact absurd about (asleep _)

theorem Invariant.initial (socket : σ) (recvBufferSize : ℕ) (sendBufferSize : ℕ+) :
    (new socket recvBufferSize sendBufferSize).Invariant where
  gone := by simp [new, Connection.new]
  capacity := sendBufferSize.pos
  removed := nofun
  written := nofun
  reads := nofun
  sends := nofun
  point := nofun
  parked := nofun
  late := nofun
  answered := rfl

/-! ## A step of the worker -/

structure Moves (s v : Stream σ) : Prop where
  task : v.task = s.task
  waiting : v.waiting = s.waiting
  late : v.late = s.late
  latePending : v.latePending = s.latePending
  writeClosed : v.connection.shared.writeClosed = s.connection.shared.writeClosed
  socketDropped : v.connection.shared.socketDropped = s.connection.shared.socketDropped
  capacity : v.connection.sendBuffer.capacity = s.connection.sendBuffer.capacity
  empties : s.connection.sendBuffer.isEmpty = true → v.connection.sendBuffer.isEmpty = true
  readable : s.Readable → v.Readable
  woken : s.connection.woken = true → v.connection.woken = true
  sendWaker : s.connection.shared.sendWaker = true →
    v.connection.woken = true ∨ v.connection.shared.sendWaker = true
  reads : s.ReadCovered → v.ReadCovered
  sends : s.SendCovered → v.SendCovered
  noticed : s.task.readRegistering = true → s.CloseNoticed → v.CloseNoticed
  removed : v.connection.socket = none →
    (s.connection.socket = none ∧ v.connection.worker = s.connection.worker ∧
      v.waking = s.waking ∧ v.connection.shared.readClosed = s.connection.shared.readClosed) ∨
    (v.connection.worker = .polling ∧ v.waking = none ∧
      (s.connection.shared.socketDropped = true ∨ v.BothClosed))
  absent : s.connection.socket = none → v.connection.socket = none

theorem Moves.keeps {s v : Stream σ} (moves : Moves s v) (inv : s.Invariant) : v.Invariant where
  gone := by
    rw [moves.socketDropped, moves.task]
    exact inv.gone
  capacity := by
    rw [moves.capacity]
    exact inv.capacity
  removed := by
    intro h
    rw [moves.task]
    obtain ⟨before, worker, waking, readClosed⟩ | ⟨worker, waking, allowed⟩ := moves.removed h
    · obtain ⟨polling, quiet, allowed⟩ := inv.removed before
      refine ⟨worker.trans polling, waking.trans quiet, allowed.imp_right fun both => ?_⟩
      exact ⟨readClosed.trans both.1, moves.writeClosed.trans both.2⟩
    · exact ⟨worker, waking, allowed.imp_left inv.gone.1⟩
  written := by
    intro closed
    rw [moves.writeClosed] at closed
    exact moves.empties (inv.written closed)
  reads := by
    intro h
    rw [moves.waiting] at h
    exact moves.reads (inv.reads h)
  sends := by
    intro h
    rw [moves.waiting] at h
    exact moves.sends (inv.sends h)
  point := by
    intro p calling
    rw [moves.task] at calling
    have here := inv.point p calling
    have registered : s.connection.woken = true ∨ s.connection.shared.sendWaker = true →
        v.connection.woken = true ∨ v.connection.shared.sendWaker = true :=
      fun h => h.elim (fun woken => .inl (moves.woken woken)) moves.sendWaker
    cases p with
    | readLoad len => trivial
    | readRegister len =>
      exact ⟨moves.late.trans here.1, moves.noticed (by rw [calling]; rfl) here.2⟩
    | readRecheck len =>
      exact ⟨moves.late.trans here.1, here.2.imp moves.reads moves.readable⟩
    | readPop len => trivial
    | writeCheck buf => exact ⟨moves.late.trans here.1, moves.writeClosed.trans here.2⟩
    | writeRegister buf => exact ⟨moves.late.trans here.1, moves.writeClosed.trans here.2⟩
    | writeRecheck buf =>
      exact ⟨moves.late.trans here.1, moves.writeClosed.trans here.2.1, registered here.2.2⟩
    | writePush buf => exact ⟨moves.late.trans here.1, moves.writeClosed.trans here.2⟩
    | flushRegister shutdown => exact moves.late.trans here
    | flushRecheck shutdown => exact ⟨moves.late.trans here.1, registered here.2⟩
    | storeWriteClosed => exact moves.empties here
  parked := by
    rw [moves.task, moves.waiting]
    exact inv.parked
  late := by
    rw [moves.late]
    exact fun h => moves.absent (inv.late h)
  answered := moves.latePending.trans inv.answered

/-- When the worker announces the close, no reader has loaded the flag and not yet registered,
unless it is to be woken anyway or will find bytes. -/
def InTime (s : Stream σ) : Event σ → Prop
  | .worker =>
    s.waking = some .recv → s.task.readRegistering = true → s.connection.shared.readClosed = true →
      s.connection.woken = true ∨ s.connection.shared.recvWaker = true ∨ s.Readable
  | _ => True

/-- What the step needs of the state before it: a live stream loses its socket only with both
sides closed, and the wake-up for the closed read side comes in time. -/
def Guarded (net : Smoltcp σ) (s : Stream σ) : Event σ → Prop
  | .worker =>
    (∀ socket ∈ s.connection.socket, s.waking = none →
      s.connection.worker = .checkingActive → net.isActive socket = false →
        s.connection.shared.socketDropped = true ∨ s.BothClosed) ∧ s.InTime .worker
  | _ => True

instance (s : Stream σ) : Decidable s.Readable := inferInstanceAs (Decidable (_ = false))

instance (s : Stream σ) : Decidable s.BothClosed := inferInstanceAs (Decidable (_ ∧ _))

instance (s : Stream σ) (e : Event σ) : Decidable (s.InTime e) :=
  match e with
  | .worker => inferInstanceAs (Decidable (_ → _ → _ → _ ∨ _ ∨ _))
  | .network _ | .call _ | .task | .park | .resume | .spurious => isTrue trivial

instance (net : Smoltcp σ) (s : Stream σ) (e : Event σ) : Decidable (s.Guarded net e) :=
  match e with
  | .worker => inferInstanceAs (Decidable (_ ∧ _))
  | .network _ | .call _ | .task | .park | .resume | .spurious => isTrue trivial

section Worker
variable {net : Smoltcp σ} {s v : Stream σ}

/-- A step that leaves the flags, the wakers and the send buffer alone. -/
theorem Moves.of_kept {c : Connection σ} {w : Option Waker}
    (shared : c.shared = s.connection.shared) (woken : c.woken = s.connection.woken)
    (buffer : c.sendBuffer = s.connection.sendBuffer)
    (readable : s.Readable → c.recvBuffer.isEmpty = false)
    (wakes : ∀ u, s.WillWake u → { s with connection := c, waking := w }.WillWake u)
    (stays : s.connection.socket ≠ none)
    (removed : c.socket = none → c.worker = .polling ∧ w = none ∧
      (s.connection.shared.socketDropped = true ∨ s.BothClosed)) :
    Moves s { s with connection := c, waking := w } where
  task := rfl
  waiting := rfl
  late := rfl
  latePending := rfl
  writeClosed := congrArg SharedState.writeClosed shared
  socketDropped := congrArg SharedState.socketDropped shared
  capacity := congrArg RingBuf.capacity buffer
  empties := by
    intro h
    change c.sendBuffer.isEmpty = true
    rw [buffer]
    exact h
  readable := readable
  woken := woken.trans
  sendWaker := fun h => .inr ((congrArg SharedState.sendWaker shared).trans h)
  reads := by
    refine Or.imp woken.trans ?_
    change _ → c.shared.recvWaker = true ∧ (c.shared.readClosed = true → _)
    rw [shared]
    exact And.imp_right fun comes closed => wakes .recv (comes closed)
  sends := by
    refine Or.imp woken.trans ?_
    change _ → c.shared.sendWaker = true ∧ (c.sendBuffer.isEmpty = false ∨ _)
    rw [shared, buffer]
    exact And.imp_right (Or.imp_right (wakes .send))
  noticed := by
    intro _ noticed closed
    change c.shared.readClosed = true at closed
    rw [shared] at closed
    exact (noticed closed).imp woken.trans (Or.imp (wakes .recv) readable)
  removed := by
    intro h
    obtain ⟨worker, waking, allowed⟩ := removed h
    refine .inr ⟨worker, waking, allowed.imp_right ?_⟩
    change _ → c.shared.readClosed = true ∧ c.shared.writeClosed = true
    rw [shared]
    exact id
  absent := fun h => absurd h stays

theorem wake_recv_moves (guard : s.Guarded net .worker) (waking : s.waking = some .recv)
    (stays : s.connection.socket ≠ none) : Moves s (s.wake .recv) where
  task := rfl
  waiting := rfl
  late := rfl
  latePending := rfl
  writeClosed := rfl
  socketDropped := rfl
  capacity := rfl
  empties := id
  readable := id
  woken := fun woken => Bool.or_eq_true_iff.2 (.inl woken)
  sendWaker := .inr
  reads := by
    rintro (woken | ⟨registered, _⟩)
    · exact .inl (Bool.or_eq_true_iff.2 (.inl woken))
    · exact .inl (Bool.or_eq_true_iff.2 (.inr registered))
  sends := by
    rintro (woken | ⟨registered, unsent | about⟩)
    · exact .inl (Bool.or_eq_true_iff.2 (.inl woken))
    · exact .inr ⟨registered, .inl unsent⟩
    · refine .inr ⟨registered, .inr (.inr ?_)⟩
      rcases about with about | about
      · cases waking.symm.trans about
      · exact about
  noticed := by
    intro registering _ closed
    obtain woken | registered | readable := guard.2 waking registering closed
    · exact .inl (Bool.or_eq_true_iff.2 (.inl woken))
    · exact .inl (Bool.or_eq_true_iff.2 (.inr registered))
    · exact .inr (.inr readable)
  removed := fun h => absurd h stays
  absent := id

theorem wake_send_moves (waking : s.waking = some .send)
    (stays : s.connection.socket ≠ none) : Moves s (s.wake .send) where
  task := rfl
  waiting := rfl
  late := rfl
  latePending := rfl
  writeClosed := rfl
  socketDropped := rfl
  capacity := rfl
  empties := id
  readable := id
  woken := fun woken => Bool.or_eq_true_iff.2 (.inl woken)
  sendWaker := fun registered => .inl (Bool.or_eq_true_iff.2 (.inr registered))
  reads := by
    rintro (woken | ⟨registered, comes⟩)
    · exact .inl (Bool.or_eq_true_iff.2 (.inl woken))
    · refine .inr ⟨registered, fun closed => .inr ?_⟩
      rcases comes closed with about | about
      · cases waking.symm.trans about
      · exact about
  sends := by
    rintro (woken | ⟨registered, _⟩)
    · exact .inl (Bool.or_eq_true_iff.2 (.inl woken))
    · exact .inl (Bool.or_eq_true_iff.2 (.inr registered))
  noticed := by
    intro _ noticed closed
    obtain woken | (about | about) | readable := noticed closed
    · exact .inl (Bool.or_eq_true_iff.2 (.inl woken))
    · cases waking.symm.trans about
    · exact .inr (.inl (.inr about))
    · exact .inr (.inr readable)
  removed := fun h => absurd h stays
  absent := id

/-- The read side is closed and the wake-up is still to come. -/
theorem close_moves {worker : Worker} {w : Option Waker} (quiet : s.waking = none)
    (about : w = some .recv ∨ worker = .checkingOpen true)
    (sending : s.connection.worker ≠ .sending true) (stays : s.connection.socket ≠ none) :
    Moves s { s with
      connection := { s.connection.setReadClosed with worker := worker }
      waking := w } where
  task := rfl
  waiting := rfl
  late := rfl
  latePending := rfl
  writeClosed := rfl
  socketDropped := rfl
  capacity := rfl
  empties := id
  readable := id
  woken := id
  sendWaker := .inr
  reads := Or.imp_right fun covered => ⟨covered.1, fun _ => about⟩
  sends := by
    rintro (woken | ⟨registered, unsent | about⟩)
    · exact .inl woken
    · exact .inr ⟨registered, .inl unsent⟩
    · rcases about with about | about
      · cases quiet.symm.trans about
      · exact absurd about sending
  noticed := fun _ _ _ => .inr (.inl about)
  removed := fun h => absurd h stays
  absent := id

theorem checkOpen_moves {notifyRead : Bool} (quiet : s.waking = none)
    (phase : s.connection.worker = .checkingOpen notifyRead) {socket : σ}
    (stays : s.connection.socket ≠ none) : Moves s (s.checkOpen net socket notifyRead) := by
  unfold checkOpen
  by_cases closing : (!net.isOpen socket && !s.connection.shared.readClosed) = true
  · simp only [closing, Bool.or_true, if_true]
    exact close_moves quiet (.inl rfl) (by simp [phase]) stays
  · simp only [closing, Bool.or_false, Bool.false_eq_true, if_false]
    refine .of_kept rfl rfl rfl id ?_ stays (fun h => absurd h stays)
    rintro (_ | _) (about | about)
    · cases quiet.symm.trans about
    · cases phase.symm.trans about
      exact .inl rfl
    · cases quiet.symm.trans about
    · cases phase.symm.trans about

/-- Outside the two phases that remember a wake-up, none is owed. -/
theorem not_willWake (quiet : s.waking = none) (recv : ∀ n, s.connection.worker ≠ .checkingOpen n)
    (send : ∀ n, s.connection.worker ≠ .sending n) (u : Waker) : ¬s.WillWake u := by
  intro about
  cases u with
  | recv =>
    rcases about with about | about
    · cases quiet.symm.trans about
    · exact recv true about
  | send =>
    rcases about with about | about
    · cases quiet.symm.trans about
    · exact send true about

theorem receive_moves (quiet : s.waking = none) (phase : s.connection.worker = .receiving)
    {socket : σ} (stays : s.connection.socket ≠ none) :
    Moves s { s with connection := s.connection.receive net socket } := by
  have asleep : ∀ w, ¬s.WillWake w := not_willWake quiet (by simp [phase]) (by simp [phase])
  unfold Connection.receive
  split_ifs
  · split
    · exact close_moves (w := s.waking) quiet (.inr rfl) (by simp [phase]) stays
    · rename_i slice _
      refine .of_kept (w := s.waking) rfl rfl rfl ?_ (fun w about => absurd about (asleep w))
        stays (fun h => by cases h)
      exact fun readable => RingBuf.pushSlice_nonempty readable slice
  · exact .of_kept (w := s.waking) rfl rfl rfl id (fun w about => absurd about (asleep w))
      stays (fun h => absurd h stays)

theorem sent_moves {notifyWrite : Bool} (quiet : s.waking = none)
    (phase : s.connection.worker = .sending notifyWrite)
    (stays : s.connection.socket ≠ none) : Moves s (s.sent notifyWrite) := by
  refine .of_kept rfl rfl rfl id ?_ stays (fun h => absurd h stays)
  rintro (_ | _) (about | about)
  · cases quiet.symm.trans about
  · cases phase.symm.trans about
  · cases quiet.symm.trans about
  · cases phase.symm.trans about
    exact .inl rfl

/-- The worker has taken bytes out of the send buffer and wakes its writer when the loop ends. -/
theorem drain_moves {socket : σ} {buffer : RingBuf UInt8} {enqueued : Bytes}
    {notifyWrite : Bool} (quiet : s.waking = none)
    (phase : s.connection.worker = .sending notifyWrite) (stays : s.connection.socket ≠ none)
    (capacity : buffer.capacity = s.connection.sendBuffer.capacity)
    (empties : s.connection.sendBuffer.isEmpty = true → buffer.isEmpty = true) :
    Moves s { s with connection := { s.connection with
      socket := some socket
      sendBuffer := buffer
      enqueued := enqueued
      worker := .sending true } } where
  task := rfl
  waiting := rfl
  late := rfl
  latePending := rfl
  writeClosed := rfl
  socketDropped := rfl
  capacity := capacity
  empties := empties
  readable := id
  woken := id
  sendWaker := .inr
  reads := by
    refine Or.imp_right (And.imp_right fun comes closed => ?_)
    rcases comes closed with about | about
    · cases quiet.symm.trans about
    · cases phase.symm.trans about
  sends := Or.imp_right fun covered => ⟨covered.1, .inr (.inr rfl)⟩
  noticed := by
    intro _ noticed closed
    obtain woken | (about | about) | readable := noticed closed
    · exact .inl woken
    · cases quiet.symm.trans about
    · cases phase.symm.trans about
    · exact .inr (.inr readable)
  removed := by
    intro h
    cases h
  absent := fun h => absurd h stays

theorem send_moves {notifyWrite : Bool} (quiet : s.waking = none)
    (phase : s.connection.worker = .sending notifyWrite) {socket : σ}
    (stays : s.connection.socket ≠ none) : Moves s (s.send net socket notifyWrite) := by
  have leave := sent_moves quiet phase stays
  unfold send
  split_ifs with sendable
  · split
    · exact leave
    · rename_i room offered
      split_ifs with none_left
      · exact leave
      · unfold Connection.send
        rw [if_pos sendable]
        simp only [offered, none_left, if_false]
        exact drain_moves quiet phase stays rfl fun h => RingBuf.popSlice_empty h room
  · exact leave

theorem other_moves (guard : s.Guarded net .worker) (quiet : s.waking = none) {socket : σ}
    (present : s.connection.socket = some socket)
    (recv : ∀ n, s.connection.worker ≠ .checkingOpen n)
    (send : ∀ n, s.connection.worker ≠ .sending n) {c : Connection σ}
    (h : NetstackTcp.workerStep net s.connection .turn = some c) :
    Moves s { s with connection := c } := by
  have stays : s.connection.socket ≠ none := by simp [present]
  have asleep : ∀ w, ¬s.WillWake w := not_willWake quiet recv send
  have wakes : ∀ d : Connection σ, ∀ w, s.WillWake w → { s with connection := d }.WillWake w :=
    fun d w about => absurd about (asleep w)
  simp only [NetstackTcp.workerStep, present] at h
  split at h <;> obtain rfl := Option.some.inj h
  · exact .of_kept (w := s.waking) rfl rfl rfl id (wakes _) stays (fun h => by cases h)
  · rename_i phase
    exact receive_moves quiet phase stays
  · rename_i n phase
    exact absurd phase (recv n)
  · rename_i n phase
    exact absurd phase (send n)
  · unfold Connection.prune
    split_ifs with dropped
    · exact .of_kept (w := s.waking) rfl rfl rfl id (wakes _) stays
        fun _ => ⟨rfl, quiet, .inl dropped⟩
    · exact .of_kept (w := s.waking) rfl rfl rfl id (wakes _) stays (fun h => absurd h stays)
  · unfold Connection.closeWritten
    split_ifs
    · exact .of_kept (w := s.waking) rfl rfl rfl id (wakes _) stays (fun h => by cases h)
    · exact .of_kept (w := s.waking) rfl rfl rfl id (wakes _) stays (fun h => absurd h stays)
  · rename_i phase
    unfold Connection.checkActive
    split_ifs with active
    · exact .of_kept (w := s.waking) rfl rfl rfl id (wakes _) stays (fun h => absurd h stays)
    · exact .of_kept (w := s.waking) rfl rfl rfl id (wakes _) stays fun _ =>
        ⟨rfl, quiet, guard.1 socket present quiet phase (by simpa using active)⟩

theorem workerStep_moves (guard : s.Guarded net .worker) (h : s.workerStep net = some v) :
    Moves s v := by
  unfold Stream.workerStep at h
  split at h
  · cases h
  · rename_i socket present
    have stays : s.connection.socket ≠ none := by simp [present]
    split at h
    · rename_i waker waking
      obtain rfl := Option.some.inj h
      cases waker with
      | recv => exact wake_recv_moves guard waking stays
      | send => exact wake_send_moves waking stays
    · rename_i quiet
      split at h
      · rename_i phase
        obtain rfl := Option.some.inj h
        exact checkOpen_moves quiet phase stays
      · rename_i phase
        obtain rfl := Option.some.inj h
        exact send_moves quiet phase stays
      · rename_i recv send
        obtain ⟨c, turned, rfl⟩ := Option.map_eq_some_iff.1 h
        exact other_moves guard quiet present recv send turned

theorem network_moves {socket : σ} {c : Connection σ}
    (h : NetstackTcp.workerStep net s.connection (.network socket) = some c) :
    Moves s { s with connection := c } := by
  simp only [NetstackTcp.workerStep] at h
  split at h
  · rename_i before _ present _
    obtain rfl := Option.some.inj h
    have stays : s.connection.socket ≠ none := by simp [present]
    exact .of_kept (w := s.waking) rfl rfl rfl id (fun _ => id) stays (fun h => by cases h)
  · cases h

theorem spurious_moves : Moves s { s with connection := { s.connection with woken := true } } where
  task := rfl
  waiting := rfl
  late := rfl
  latePending := rfl
  writeClosed := rfl
  socketDropped := rfl
  capacity := rfl
  empties := id
  readable := id
  woken := fun _ => rfl
  sendWaker := .inr
  reads := fun _ => .inl rfl
  sends := fun _ => .inl rfl
  noticed := fun _ _ _ => .inl rfl
  removed := fun h => .inl ⟨h, rfl, rfl, rfl⟩
  absent := id

end Worker

/-! ## A step of the task -/

section Task
variable {s : Stream σ}

theorem Invariant.bothClosed (inv : s.Invariant) (lives : s.task ≠ .gone)
    (removed : s.connection.socket = none) : s.BothClosed :=
  (inv.removed removed).2.2.resolve_left lives

theorem Invariant.setPoint (inv : s.Invariant) (lives : s.task ≠ .gone) {p : Point}
    (here : s.At p) : (s.setPoint p).Invariant where
  gone := iff_of_false (fun dropped => lives (inv.gone.1 dropped)) nofun
  capacity := inv.capacity
  removed := by
    intro removed
    obtain ⟨polling, quiet, _⟩ := inv.removed removed
    exact ⟨polling, quiet, .inr (inv.bothClosed lives removed)⟩
  written := inv.written
  reads := inv.reads
  sends := inv.sends
  point := by
    intro q calling
    cases calling
    exact here
  parked := by
    intro parked
    cases parked
  late := inv.late
  answered := inv.answered

theorem Invariant.answer (inv : s.Invariant) (lives : s.task ≠ .gone) {w : Waiting}
    {pending : Bool} (reads : w.read = true → s.ReadCovered)
    (sends : (w.write || w.flush) = true → s.SendCovered)
    (early : pending = true → s.late = false) : (s.answer w pending).Invariant where
  gone := iff_of_false (fun dropped => lives (inv.gone.1 dropped)) nofun
  capacity := inv.capacity
  removed := by
    intro removed
    obtain ⟨polling, quiet, _⟩ := inv.removed removed
    exact ⟨polling, quiet, .inr (inv.bothClosed lives removed)⟩
  written := inv.written
  reads := reads
  sends := sends
  point := by
    intro q calling
    cases calling
  parked := by
    intro parked
    cases parked
  late := inv.late
  answered := by
    change (s.latePending || (s.late && pending)) = false
    rw [inv.answered]
    cases pending with
    | false => simp
    | true => simp [early rfl]

theorem Invariant.readAnswer (inv : s.Invariant) (lives : s.task ≠ .gone) {pending : Bool}
    (h : pending = true → s.ReadCovered ∧ s.late = false) : (s.readAnswer pending).Invariant :=
  inv.answer lives (fun waits => (h waits).1) inv.sends (fun waits => (h waits).2)

theorem Invariant.writeAnswer (inv : s.Invariant) (lives : s.task ≠ .gone) {pending : Bool}
    (h : pending = true → s.SendCovered ∧ s.late = false) : (s.writeAnswer pending).Invariant := by
  refine inv.answer lives inv.reads (fun waits => ?_) (fun waits => (h waits).2)
  obtain write | flush := Bool.or_eq_true_iff.1 waits
  · exact (h write).1
  · exact inv.sends (Bool.or_eq_true_iff.2 (.inr flush))

theorem Invariant.flushAnswer (inv : s.Invariant) (lives : s.task ≠ .gone) {pending : Bool}
    (h : pending = true → s.SendCovered ∧ s.late = false) : (s.flushAnswer pending).Invariant := by
  refine inv.answer lives inv.reads (fun waits => ?_) (fun waits => (h waits).2)
  obtain write | flush := Bool.or_eq_true_iff.1 waits
  · exact inv.sends (Bool.or_eq_true_iff.2 (.inl write))
  · exact (h flush).1

theorem Invariant.flushed (inv : s.Invariant) (lives : s.task ≠ .gone)
    (empty : s.connection.sendBuffer.isEmpty = true) (shutdown : Bool) :
    (s.flushed shutdown).Invariant := by
  cases shutdown with
  | false => exact inv.flushAnswer lives nofun
  | true => exact inv.setPoint lives empty

theorem Invariant.begin (inv : s.Invariant) (lives : s.task = .running) (e : StreamEvent) :
    ({ s with late := s.connection.socket.isNone }.begin e).Invariant := by
  have alive : s.task ≠ .gone := by simp [lives]
  set u : Stream σ := { s with late := s.connection.socket.isNone }
  have inv : u.Invariant :=
    { inv with
      late := Option.isNone_iff_eq_none.1
      point := by
        intro p calling
        cases lives.symm.trans calling }
  -- A call that begins after the removal finds both sides closed.
  have late : (u.connection.shared.writeClosed = false ∨ u.Unsent) → u.late = false := by
    intro h
    rw [← Bool.not_eq_true]
    intro late
    have closed := (inv.bothClosed alive (inv.late late)).2
    obtain opened | unsent := h
    · cases closed.symm.trans opened
    · cases (inv.written closed).symm.trans unsent
  cases e with
  | pollRead len =>
    simp only [Stream.begin]
    split_ifs
    · exact inv.setPoint alive trivial
    · exact inv.setPoint alive trivial
  | pollWrite buf =>
    simp only [Stream.begin]
    split_ifs with closed
    · exact inv.writeAnswer alive nofun
    · have opened : u.connection.shared.writeClosed = false := by
        rw [← Bool.not_eq_true]
        exact fun written => closed (Bool.or_eq_true_iff.2 (.inr written))
      exact inv.setPoint alive (p := .writeCheck buf) ⟨late (.inl opened), opened⟩
  | pollFlush =>
    simp only [Stream.begin]
    split_ifs with empty
    · exact inv.flushed alive empty false
    · exact inv.setPoint alive (late (.inr (by simpa [Unsent] using empty)))
  | pollShutdown =>
    simp only [Stream.begin]
    split_ifs with empty
    · exact inv.flushed alive empty true
    · exact inv.setPoint alive (late (.inr (by simpa [Unsent] using empty)))
  | drop =>
    exact
      { inv with
        gone := iff_of_true rfl rfl
        removed := by
          intro removed
          obtain ⟨polling, quiet, _⟩ := inv.removed removed
          exact ⟨polling, quiet, .inl rfl⟩
        point := by
          intro p calling
          cases calling
        parked := by
          intro parked
          cases parked }

/-- The registration of the reader meets every close that its load has missed. -/
theorem Invariant.registerRecv (inv : s.Invariant) {len : ℕ}
    (calling : s.task = .calling (.readRegister len)) : s.registerRecv.Invariant :=
  { inv with
    reads := fun waits => (inv.reads waits).imp_right fun covered => ⟨rfl, covered.2⟩
    point := by
      intro p here
      cases calling.symm.trans here
      exact inv.point _ calling }

theorem registerRecv_covered (noticed : s.CloseNoticed) :
    s.registerRecv.ReadCovered ∨ s.registerRecv.Readable := by
  by_cases closed : s.connection.shared.readClosed = true
  · obtain woken | about | readable := noticed closed
    · exact .inl (.inl woken)
    · exact .inl (.inr ⟨rfl, fun _ => about⟩)
    · exact .inr readable
  · exact .inl (.inr ⟨rfl, fun h => absurd h closed⟩)

theorem Invariant.registerSend (inv : s.Invariant) : s.registerSend.Invariant :=
  { inv with
    sends := fun waits => (inv.sends waits).imp_right fun covered => ⟨rfl, covered.2⟩
    point := by
      intro p calling
      have here := inv.point p calling
      cases p with
      | writeRecheck buf => exact ⟨here.1, here.2.1, .inr rfl⟩
      | flushRecheck shutdown => exact ⟨here.1, .inr rfl⟩
      | readLoad | readRegister | readRecheck | readPop | writeCheck | writeRegister | writePush
      | flushRegister | storeWriteClosed => exact here }

theorem Invariant.pop (inv : s.Invariant) {len : ℕ} (calling : s.task = .calling (.readPop len)) :
    (s.pop len).Invariant :=
  { inv with
    point := by
      intro p here
      cases calling.symm.trans here
      trivial }

theorem Invariant.push (inv : s.Invariant) {buf : Bytes}
    (calling : s.task = .calling (.writePush buf)) : (s.push buf).Invariant := by
  have here := inv.point _ calling
  exact
    { inv with
      written := by
        intro closed
        cases closed.symm.trans here.2
      sends := fun waits => (inv.sends waits).imp_right fun covered =>
        ⟨covered.1, covered.2.imp_left fun unsent => RingBuf.pushSlice_nonempty unsent buf⟩
      point := by
        intro p now
        cases calling.symm.trans now
        exact here }

theorem Invariant.closeWrite (inv : s.Invariant) (calling : s.task = .calling .storeWriteClosed) :
    s.closeWrite.Invariant := by
  have empty : s.connection.sendBuffer.isEmpty = true := inv.point _ calling
  exact
    { inv with
      removed := by
        intro removed
        obtain ⟨polling, quiet, gone | both⟩ := inv.removed removed
        · exact ⟨polling, quiet, .inl gone⟩
        · exact ⟨polling, quiet, .inr ⟨both.1, rfl⟩⟩
      written := fun _ => empty
      point := by
        intro p now
        cases calling.symm.trans now
        exact empty }

theorem pending_covered (unsent : s.Unsent) (late : s.late = false)
    (registered : s.connection.woken = true ∨ s.connection.shared.sendWaker = true) :
    s.SendCovered ∧ s.late = false :=
  ⟨registered.imp_right fun waker => ⟨waker, .inl unsent⟩, late⟩

theorem Invariant.advance (inv : s.Invariant) {p : Point} (calling : s.task = .calling p) :
    (s.advance p).Invariant := by
  have alive : s.task ≠ .gone := by simp [calling]
  have here := inv.point p calling
  cases p with
  | readLoad len =>
    simp only [Stream.advance]
    split_ifs with closed
    · exact inv.readAnswer alive nofun
    · refine inv.setPoint alive (p := .readRegister len) ⟨?_, fun h => absurd h closed⟩
      rw [← Bool.not_eq_true]
      exact fun late => closed (inv.bothClosed alive (inv.late late)).1
  | readRegister len =>
    exact (inv.registerRecv calling).setPoint alive (p := .readRecheck len)
      ⟨here.1, registerRecv_covered here.2⟩
  | readRecheck len =>
    simp only [Stream.advance]
    split_ifs with empty
    · refine inv.readAnswer alive fun _ => ⟨here.2.resolve_right fun readable => ?_, here.1⟩
      cases empty.symm.trans readable
    · exact inv.setPoint alive trivial
  | readPop len => exact (inv.pop calling).readAnswer alive nofun
  | writeCheck buf =>
    simp only [Stream.advance]
    split_ifs
    · exact inv.setPoint alive (p := .writeRegister buf) here
    · exact inv.setPoint alive (p := .writePush buf) here
  | writeRegister buf =>
    exact inv.registerSend.setPoint alive (p := .writeRecheck buf) ⟨here.1, here.2, .inr rfl⟩
  | writeRecheck buf =>
    simp only [Stream.advance]
    split_ifs with full
    · have unsent : s.Unsent := RingBuf.nonempty_of_isFull inv.capacity full
      exact inv.writeAnswer alive fun _ => pending_covered unsent here.1 here.2.2
    · exact inv.setPoint alive (p := .writePush buf) ⟨here.1, here.2.1⟩
  | writePush buf => exact (inv.push calling).writeAnswer alive nofun
  | flushRegister shutdown =>
    exact inv.registerSend.setPoint alive (p := .flushRecheck shutdown) ⟨here, .inr rfl⟩
  | flushRecheck shutdown =>
    simp only [Stream.advance]
    split_ifs with empty
    · exact inv.flushed alive empty shutdown
    · have unsent : s.Unsent := by simpa [Unsent] using empty
      exact inv.flushAnswer alive fun _ => pending_covered unsent here.1 here.2
  | storeWriteClosed => exact (inv.closeWrite calling).flushAnswer alive nofun

theorem Invariant.park (inv : s.Invariant) (running : s.task = .running)
    (waits : s.waiting.any = true) : { s with task := .parked }.Invariant :=
  { inv with
    gone := by
      rw [inv.gone, running]
      exact iff_of_false nofun nofun
    removed := by
      intro removed
      obtain ⟨polling, quiet, _⟩ := inv.removed removed
      exact ⟨polling, quiet, .inr (inv.bothClosed (by simp [running]) removed)⟩
    point := nofun
    parked := fun _ => waits }

theorem Invariant.resume (inv : s.Invariant) (parked : s.task = .parked) :
    { s with
      connection := { s.connection with woken := false }
      task := .running
      waiting := ⟨false, false, false⟩ }.Invariant :=
  { inv with
    gone := by
      refine iff_of_false (fun dropped => ?_) nofun
      cases parked.symm.trans (inv.gone.1 dropped)
    removed := by
      intro removed
      obtain ⟨polling, quiet, _⟩ := inv.removed removed
      exact ⟨polling, quiet, .inr (inv.bothClosed (by simp [parked]) removed)⟩
    reads := nofun
    sends := nofun
    point := nofun
    parked := nofun }

end Task
theorem Invariant.step {net : Smoltcp σ} {s v : Stream σ} {e : Event σ} (inv : s.Invariant)
    (guard : s.Guarded net e) (h : s.step net e = some v) : v.Invariant := by
  cases e with
  | network socket =>
    obtain ⟨c, polled, rfl⟩ := Option.map_eq_some_iff.1 h
    exact (network_moves polled).keeps inv
  | worker => exact (workerStep_moves guard h).keeps inv
  | call e =>
    simp only [Stream.step] at h
    split at h
    · rename_i running
      obtain rfl := Option.some.inj h
      exact inv.begin running e
    · cases h
  | task =>
    simp only [Stream.step] at h
    split at h
    · rename_i calling
      obtain rfl := Option.some.inj h
      exact inv.advance calling
    · cases h
  | park =>
    simp only [Stream.step] at h
    split at h
    · rename_i running
      split_ifs at h with waits
      obtain rfl := Option.some.inj h
      exact inv.park running waits
    · cases h
  | resume =>
    simp only [Stream.step] at h
    split at h
    · rename_i parked
      split_ifs at h
      obtain rfl := Option.some.inj h
      exact inv.resume parked
    · cases h
  | spurious =>
    obtain rfl := Option.some.inj h
    exact spurious_moves.keeps inv

end Stream

/-! ## No orphaned waiter -/

section Released
variable {σ : Type} {net : Smoltcp σ} {socket : σ} {recvBufferSize sendBufferSize : ℕ+}

/-- If live streams only lose their socket with both sides closed, and no wake-up for a closed
read side falls between a reader's load and its registration, then no task is left waiting on a
removed socket and every call that begins after the removal is ready. -/
theorem waiters_released {es : List (Event σ)}
    (guarded : ∀ s e v, Takes (stack net socket recvBufferSize sendBufferSize) es s e v →
      s.Guarded net e) {s : Stream σ}
    (visit : Visits (stack net socket recvBufferSize sendBufferSize) es s) : s.Released := by
  have inv : s.Invariant :=
    guarded_invariant (.initial socket recvBufferSize sendBufferSize)
      (fun _ _ _ inv guard h => inv.step guard h) guarded visit
  exact inv.released

end Released

inductive TcpState where
  | closed
  | listen
  | synSent
  | synReceived
  | established
  | finWait1
  | finWait2
  | closeWait
  | closing
  | lastAck
  | timeWait
  deriving DecidableEq

/-- What the two tests of the worker say about the state of the socket. -/
structure Lawful {σ : Type} (net : Smoltcp σ) (state : σ → TcpState) : Prop where
  isActive : ∀ k, net.isActive k = false ↔
    state k = .closed ∨ state k = .timeWait ∨ state k = .listen
  isOpen : ∀ k, net.isOpen k = false ↔ state k = .closed ∨ state k = .timeWait

def dataless : Smoltcp TcpState where
  canRecv _ := false
  canSend _ := false
  isOpen k := !(k = .closed || k = .timeWait)
  isActive k := !(k = .closed || k = .timeWait || k = .listen)
  established k := k = .established
  recvSlice _ := none
  recvTake k _ := k
  sendSlice _ := none
  sendPut k _ := k
  close
    | .closed | .listen | .synSent => .closed
    | .synReceived | .established => .finWait1
    | .closeWait => .lastAck
    | k => k
  active_of_established := by
    intro k h
    obtain rfl : k = .established := of_decide_eq_true h
    rfl

theorem dataless_lawful : Lawful dataless id where
  isActive := by
    intro k
    cases k <;> decide
  isOpen := by
    intro k
    cases k <;> decide

def resetRun : List (Event TcpState) :=
  [.call .pollShutdown, .task, .call (.pollRead 1), .task, .task, .task, .park, .network .closed] ++
    List.replicate 8 .worker

theorem waiters_released_reset : ∃ s, Visits (stack dataless .listen 4096 4096) resetRun s ∧
    s.connection.socket = none ∧ s.task = .parked ∧ s.Released := by
  have ran : ∃ s, exec (stack dataless .listen 4096 4096) resetRun = some s ∧
      s.connection.socket = none ∧ s.task = .parked := ⟨_, rfl, rfl, rfl⟩
  obtain ⟨s, ran, removed, parked⟩ := ran
  have visit := (runs_of_exec ran).visits
  refine ⟨s, visit, removed, parked, waiters_released ?_ visit⟩
  intro u e v take
  obtain ⟨n, here, reached⟩ := take.exec_take
  have all : ∀ n < resetRun.length, ((exec (stack dataless .listen 4096 4096) (resetRun.take n)).all
      fun u => (resetRun[n]?).all fun e => decide (u.Guarded dataless e)) = true := by
    decide
  have guarded := all n (List.getElem?_eq_some_iff.1 here).1
  rw [reached, here] at guarded
  exact of_decide_eq_true guarded

/-- The SYN never reached the socket, which is still listening when the worker prunes it. -/
def lostSyn : List (Event TcpState) :=
  [.call (.pollRead 1), .task, .task, .task, .park] ++ List.replicate 7 .worker

theorem not_waiters_released : Lawful dataless id ∧
    ¬∀ es s, Runs (stack dataless .listen 4096 4096) es s → s.Released := by
  refine ⟨dataless_lawful, fun released => ?_⟩
  have bad : ∃ s, exec (stack dataless .listen 4096 4096) lostSyn = some s ∧
      s.connection.socket = none ∧ s.task = .parked ∧ s.connection.woken = false :=
    ⟨_, rfl, rfl, rfl, rfl⟩
  obtain ⟨s, ran, removed, parked, asleep⟩ := bad
  cases asleep.symm.trans ((released _ s (runs_of_exec ran)).2 removed parked)

end Ombrac.NetstackWaiters
