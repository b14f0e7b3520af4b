import Mathlib.Tactic.IntervalCases
import Ombrac.StackSinkWakeup

set_option autoImplicit false

/-!
# The loop that forwards device packets into the stack

`SinkExt::send` is a poll of the sink's readiness, `start_send`, and a flush. A flush that finds a
full channel parks the task, which polls again once it is woken. The branch that sends is not
cancelled.
-/
namespace Ombrac.TunToStack
open LabelledSystem ProtocolPacket StackPacket BoundedChannel StackSink
open StackSinkWakeup (Control SinkTask datagram)

inductive Stop where
  | cancelled
  | deviceError
  | endOfStream
  | sink (err : IoError)
  deriving DecidableEq

inductive Task where
  | selecting
  | feeding (packet : Bytes)
  | flushing
  | stopped (why : Stop)
  deriving DecidableEq

/-- `read` is every packet of the device so far, `refused` one that met a closed channel. -/
structure Forwarder where
  stackSink : SinkTask
  task : Task
  cancelled : Bool
  read : List Bytes
  refused : Option (Bytes × IpProtocol)

inductive Next where
  | packet (packet : Bytes)
  | error
  | closed

/-- In `returnPending` the flush drops its `reserve()` future and the task parks. -/
inductive Event where
  | cancel
  | observeCancel
  | next (result : Next)
  | poll
  | returnPending
  | wake
  | resume
  | recv (c : Inbound)
  | close (c : Inbound)

namespace Forwarder

abbrev sink (s : Forwarder) : StackSplitSink := s.stackSink.sink

def new (channelSize : ℕ) : Forwarder := ⟨.new channelSize, .selecting, false, [], none⟩

def stop (s : Forwarder) (why : Stop) : Forwarder := { s with task := .stopped why }

def setInbound (s : Forwarder) (c : Inbound) (channel : Channel Bytes) : Forwarder :=
  { s with stackSink := { s.stackSink with sink := s.sink.setInbound c channel }.notified c }

def flush (s : Forwarder) : Forwarder :=
  let flushed := { s with stackSink := s.stackSink.called s.sink.pollFlush }
  match s.sink.pollFlush.2 with
  | .pending => { flushed with task := .flushing }
  | .ready (.ok _) => { flushed with task := .selecting }
  | .ready (.error e) =>
    { flushed with task := .stopped (.sink e), refused := s.sink.packetContainer }

def feed (wire : Wire) (s : Forwarder) (packet : Bytes) : Forwarder :=
  let polled := { s with stackSink := s.stackSink.called s.sink.pollReady }
  match s.sink.pollReady.2 with
  | .pending => polled
  | .ready (.error e) => polled.stop (.sink e)
  | .ready (.ok _) =>
    let (sink, result) := polled.sink.startSend wire packet
    let started := { polled with stackSink := { polled.stackSink with sink := sink } }
    match result with
    | .error e => started.stop (.sink e)
    | .ok _ => started.flush

end Forwarder

/-- The select is biased: the device is read only while the token is not cancelled. -/
def forwardStep (wire : Wire) (s : Forwarder) : Event → Option Forwarder
  | .cancel => some { s with cancelled := true }
  | .observeCancel =>
    if s.task = .selecting ∧ s.cancelled = true then some (s.stop .cancelled) else none
  | .next result =>
    if s.task = .selecting ∧ s.cancelled = false then
      match result with
      -- the wake-ups that led here are used up
      | .packet packet => some { s with
          stackSink := { s.stackSink with woken := false }
          task := .feeding packet
          read := s.read ++ [packet] }
      | .error => some (s.stop .deviceError)
      | .closed => some (s.stop .endOfStream)
    else none
  | .poll =>
    if s.stackSink.control = .running then
      match s.task with
      | .feeding packet => some (s.feed wire packet)
      | .flushing => some s.flush
      | _ => none
    else none
  | .returnPending =>
    match s.stackSink.control with
    | .dropping c => some { s with stackSink := { s.stackSink with
        registered := Function.update s.stackSink.registered c false
        control := .parked c } }
    | _ => none
  | .wake => some { s with stackSink := { s.stackSink with woken := true } }
  | .resume =>
    match s.stackSink.control with
    | .parked _ =>
      if s.stackSink.woken then
        some { s with stackSink := { s.stackSink with control := .running, woken := false } }
      else none
    | _ => none
  | .recv c =>
    if (s.sink.inbound c).queue = [] then none else some (s.setInbound c (s.sink.inbound c).pop)
  | .close c => some (s.setInbound c (s.sink.inbound c).close)

def forwardSystem (wire : Wire) (channelSize : ℕ) : System Forwarder Event :=
  ⟨.new channelSize, forwardStep wire⟩

/-! ## What the loop owes -/

/-- Cancellation, the end or an error of the device, or a closed channel of the stack. -/
def Allowed (s : Forwarder) : Stop → Prop
  | .cancelled => s.cancelled = true
  | .deviceError | .endOfStream => True
  | .sink err => ∃ proto c, inboundOf proto = some c ∧ err = channelClosed proto ∧
      (s.sink.inbound c).closed = true

def StopsAllowed : Forwarder → Prop := StopsFor Forwarder.task Task.stopped Allowed

def routed (wire : Wire) (c : Inbound) (packets : List Bytes) : List Bytes :=
  packets.filter fun packet => Destined wire c packet

def storedFor (c : Inbound) : Option (Bytes × IpProtocol) → List Bytes
  | some (packet, proto) => if inboundOf proto = some c then [packet] else []
  | none => []

/-- What was read for `c` and is not in its channel. -/
def waiting (wire : Wire) (s : Forwarder) (c : Inbound) : List Bytes :=
  match s.task with
  | .selecting => []
  | .feeding packet => routed wire c [packet]
  | .flushing => storedFor c s.sink.packetContainer
  | .stopped _ => storedFor c s.refused

/-- Each channel was given the packets for it, once and in the order they were read. -/
def Delivered (wire : Wire) (s : Forwarder) : Prop :=
  ∀ c, (s.sink.inbound c).accepted ++ waiting wire s c = routed wire c s.read

/-- The packet in hand gets into the channel of `c`, and the loop goes on, without a wake-up from
outside and without the device. -/
def Leaves (wire : Wire) (channelSize : ℕ) (s : Forwarder) (c : Inbound) : Prop :=
  ∃ own u, (∀ e ∈ own, e = .poll ∨ e = .returnPending ∨ e = .resume) ∧
    execFrom (forwardSystem wire channelSize) s own = some u ∧ u.task = .selecting ∧
    (u.sink.inbound c).accepted = (s.sink.inbound c).accepted ++ waiting wire s c

/-- Whatever the receivers do, a packet in hand leaves once its open channel has room. -/
def Flows (wire : Wire) (channelSize : ℕ) (s : Forwarder) : Prop :=
  ∀ acts t, (∀ e ∈ acts, ∃ c, e = .recv c ∨ e = .close c) →
    execFrom (forwardSystem wire channelSize) s acts = some t → (∀ why, t.task ≠ .stopped why) →
      ∀ c, waiting wire t c ≠ [] → (t.sink.inbound c).closed = false →
        ¬ (t.sink.inbound c).Full → Leaves wire channelSize t c

/-- `start_send` is not called with a packet it rejects, and the task parks only if it has been
woken since the poll that found the channel full. -/
def Guarded (wire : Wire) (s : Forwarder) : Event → Prop
  | .poll => ∀ packet, s.task = .feeding packet → ¬ Rejected wire packet
  | .returnPending => s.stackSink.woken = true
  | _ => True

/-- What the sink holds while the task is where it is. -/
def Consistent (s : Forwarder) : Prop :=
  match s.task with
  | .selecting | .feeding _ => s.sink.packetContainer = none ∧ s.refused = none ∧
      s.stackSink.control = .running
  | .flushing => (∃ packet proto c, s.sink.packetContainer = some (packet, proto) ∧
      inboundOf proto = some c) ∧ s.refused = none
  | .stopped _ => s.stackSink.control = .running

structure Invariant (wire : Wire) (s : Forwarder) : Prop where
  consistent : Consistent s
  delivered : Delivered wire s

/-- A task that is not running is woken, or its waker is registered with the full channel of the
packet in hand. -/
def Waking (s : Forwarder) : Prop :=
  match s.stackSink.control with
  | .running => True
  | .dropping c => s.sink.waitsFor = some c ∧ (s.stackSink.woken = true ∨
      s.stackSink.registered c = true ∧ (s.sink.inbound c).closed = false ∧
        (s.sink.inbound c).Full)
  | .pending _ => False
  | .parked _ => s.stackSink.woken = true

/-- A channel that has slots holds no more than it has room for. -/
def Fits (channel : Channel Bytes) : Prop :=
  0 < channel.capacity ∧ channel.queue.length ≤ channel.capacity

def Bounded (s : Forwarder) : Prop := ∀ c, Fits (s.sink.inbound c)

section Step
variable {wire : Wire} {s u : Forwarder}

theorem storedFor_self {packet : Bytes} {proto : IpProtocol} {c : Inbound}
    (h : inboundOf proto = some c) (d : Inbound) :
    storedFor d (some (packet, proto)) = if d = c then [packet] else [] := by
  simp [storedFor, h, eq_comm]

theorem routed_self {packet : Bytes} {c : Inbound} (h : destination wire packet = some c)
    (d : Inbound) : routed wire d [packet] = if d = c then [packet] else [] := by
  by_cases same : d = c
  · simp [routed, ← destination_iff, h, same]
  · simp [routed, ← destination_iff, h, same, Ne.symm same]

theorem routed_append (c : Inbound) (before after : List Bytes) :
    routed wire c (before ++ after) = routed wire c before ++ routed wire c after :=
  List.filter_append ..

theorem routed_nil {packet : Bytes} (h : destination wire packet = none) (d : Inbound) :
    routed wire d [packet] = [] := by
  simp [routed, ← destination_iff, h]

/-- A flush of a packet for `c` finds the channel full, open with room, or closed. -/
inductive Flushed (s : Forwarder) (packet : Bytes) (proto : IpProtocol) (c : Inbound) :
    Forwarder → Prop where
  | pending (opened : (s.sink.inbound c).closed = false) (full : (s.sink.inbound c).Full) :
      Flushed s packet proto c { s with
        stackSink := { s.stackSink with
          registered := Function.update s.stackSink.registered c true
          control := .dropping c
          freed := false }
        task := .flushing }
  | given (opened : (s.sink.inbound c).closed = false) (room : ¬ (s.sink.inbound c).Full) :
      Flushed s packet proto c { s with
        stackSink := { s.stackSink with
          sink := { s.sink with packetContainer := none }.setInbound c
            ((s.sink.inbound c).push packet)
          control := .running }
        task := .selecting }
  | refused (closed : (s.sink.inbound c).closed = true) :
      Flushed s packet proto c { s with
        stackSink := { s.stackSink with
          sink := { s.sink with packetContainer := none }
          control := .running }
        task := .stopped (.sink (channelClosed proto))
        refused := some (packet, proto) }

theorem flush_flushed {packet : Bytes} {proto : IpProtocol} {c : Inbound}
    (container : s.sink.packetContainer = some (packet, proto)) (h : inboundOf proto = some c) :
    Flushed s packet proto c s.flush := by
  have waits : s.sink.waitsFor = some c := by
    simp [StackSplitSink.waitsFor, container, h]
  rcases pollFlush_cases s.sink with ⟨none_waits, _⟩ | ⟨stored, proto', c', same, routed, ends⟩
  · cases none_waits.symm.trans waits
  · obtain ⟨rfl, rfl⟩ := Prod.mk.inj (Option.some.inj (container.symm.trans same))
    obtain rfl : c = c' := Option.some.inj (h.symm.trans routed)
    unfold Forwarder.flush SinkTask.called
    rcases ends with ⟨closed, flushed⟩ | ⟨opened, full, flushed⟩ | ⟨opened, room, flushed⟩
    · rw [flushed, container]
      exact .refused closed
    · rw [flushed]
      simp only [waits]
      exact .pending opened full
    · rw [flushed]
      exact .given opened room

theorem feed_rejected {packet : Bytes} (empty : s.sink.packetContainer = none)
    (running : s.stackSink.control = .running) (h : Rejected wire packet) :
    s.feed wire packet = s.stop (.sink ⟨.invalidData, wire.malformed⟩) := by
  simp only [Forwarder.feed, SinkTask.called, pollReady_empty empty, startSend_rejected h,
    ← running]

theorem feed_ignored {packet : Bytes} (empty : s.sink.packetContainer = none)
    (running : s.stackSink.control = .running) (accepted : ¬ Rejected wire packet)
    (h : destination wire packet = none) :
    s.feed wire packet = { s with task := .selecting } := by
  have nothing : s.sink.pollFlush = (s.sink, .ready (.ok ())) := by
    simp [StackSplitSink.pollFlush, empty]
  simp only [Forwarder.feed, SinkTask.called, pollReady_empty empty,
    startSend_ignored accepted h, Forwarder.flush, nothing, ← running]

def Forwarder.store (s : Forwarder) (packet : Bytes) (proto : IpProtocol) : Forwarder :=
  { s with stackSink := { s.stackSink with
    sink := { s.sink with packetContainer := some (packet, proto) } } }

theorem feed_stored {packet : Bytes} {c : Inbound} (empty : s.sink.packetContainer = none)
    (running : s.stackSink.control = .running) (h : destination wire packet = some c) :
    ∃ proto, inboundOf proto = some c ∧ s.feed wire packet = (s.store packet proto).flush := by
  obtain ⟨proto, known, stored⟩ := startSend_stored (s := s.sink) h
  refine ⟨proto, known, ?_⟩
  simp only [Forwarder.feed, Forwarder.store, SinkTask.called, pollReady_empty empty, stored,
    ← running]

theorem Invariant.feeding (inv : Invariant wire s) {packet : Bytes}
    (feeding : s.task = .feeding packet) : s.sink.packetContainer = none ∧ s.refused = none ∧
      s.stackSink.control = .running ∧
      ∀ d, (s.sink.inbound d).accepted ++ routed wire d [packet] = routed wire d s.read := by
  obtain ⟨consistent, delivered⟩ := inv
  simp only [Consistent, feeding] at consistent
  refine ⟨consistent.1, consistent.2.1, consistent.2.2, fun d => ?_⟩
  simpa only [waiting, feeding] using delivered d

/-- The sink holds a packet for one of the channels while it is flushed. -/
theorem Invariant.flushing (inv : Invariant wire s) (flushing : s.task = .flushing) :
    s.refused = none ∧ ∃ packet proto c, s.sink.packetContainer = some (packet, proto) ∧
      inboundOf proto = some c ∧ ∀ d, waiting wire s d = if d = c then [packet] else [] := by
  have consistent := inv.consistent
  simp only [Consistent, flushing] at consistent
  obtain ⟨⟨packet, proto, c, container, known⟩, unrefused⟩ := consistent
  refine ⟨unrefused, packet, proto, c, container, known, fun d => ?_⟩
  simp only [waiting, flushing, container]
  exact storedFor_self known d

/-- What a step does, and what enables it. -/
inductive Stepped (wire : Wire) (s : Forwarder) : Event → Forwarder → Prop where
  | cancelled : Stepped wire s .cancel { s with cancelled := true }
  | observed (selecting : s.task = .selecting) (cancelled : s.cancelled = true) :
      Stepped wire s .observeCancel (s.stop .cancelled)
  | read (packet : Bytes) (selecting : s.task = .selecting) :
      Stepped wire s (.next (.packet packet)) { s with
        stackSink := { s.stackSink with woken := false }
        task := .feeding packet
        read := s.read ++ [packet] }
  | failed (selecting : s.task = .selecting) : Stepped wire s (.next .error) (s.stop .deviceError)
  | ended (selecting : s.task = .selecting) : Stepped wire s (.next .closed) (s.stop .endOfStream)
  | rejected {packet : Bytes} (feeding : s.task = .feeding packet)
      (rejected : Rejected wire packet) :
      Stepped wire s .poll (s.stop (.sink ⟨.invalidData, wire.malformed⟩))
  | ignored {packet : Bytes} (feeding : s.task = .feeding packet)
      (accepted : ¬ Rejected wire packet) (unrouted : destination wire packet = none) :
      Stepped wire s .poll { s with task := .selecting }
  | sent {packet : Bytes} {proto : IpProtocol} {c : Inbound} {u : Forwarder}
      (feeding : s.task = .feeding packet) (routed : destination wire packet = some c)
      (known : inboundOf proto = some c) (flushed : Flushed (s.store packet proto) packet proto c u) :
      Stepped wire s .poll u
  | flushed {packet : Bytes} {proto : IpProtocol} {c : Inbound} {u : Forwarder}
      (flushing : s.task = .flushing) (container : s.sink.packetContainer = some (packet, proto))
      (known : inboundOf proto = some c) (flushed : Flushed s packet proto c u) :
      Stepped wire s .poll u
  | parked {c : Inbound} (dropping : s.stackSink.control = .dropping c) :
      Stepped wire s .returnPending { s with stackSink := { s.stackSink with
        registered := Function.update s.stackSink.registered c false
        control := .parked c } }
  | woken : Stepped wire s .wake { s with stackSink := { s.stackSink with woken := true } }
  | resumed {c : Inbound} (parked : s.stackSink.control = .parked c)
      (woken : s.stackSink.woken = true) :
      Stepped wire s .resume
        { s with stackSink := { s.stackSink with control := .running, woken := false } }
  | received (c : Inbound) (queued : (s.sink.inbound c).queue ≠ []) :
      Stepped wire s (.recv c) (s.setInbound c (s.sink.inbound c).pop)
  | closed (c : Inbound) : Stepped wire s (.close c) (s.setInbound c (s.sink.inbound c).close)

theorem stepped_of_poll (inv : Invariant wire s) (h : forwardStep wire s .poll = some u) :
    Stepped wire s .poll u := by
  simp only [forwardStep] at h
  split_ifs at h with running
  split at h
  · rename_i packet feeding
    obtain rfl := Option.some.inj h
    obtain ⟨empty, _⟩ := inv.feeding feeding
    by_cases rejected : Rejected wire packet
    · rw [feed_rejected empty running rejected]
      exact .rejected feeding rejected
    · cases routed : destination wire packet with
      | none =>
        rw [feed_ignored empty running rejected routed]
        exact .ignored feeding rejected routed
      | some c =>
        obtain ⟨proto, known, fed⟩ := feed_stored empty running routed
        rw [fed]
        exact .sent feeding routed known (flush_flushed rfl known)
  · rename_i flushing
    obtain rfl := Option.some.inj h
    obtain ⟨_, packet, proto, c, container, known, _⟩ := inv.flushing flushing
    exact .flushed flushing container known (flush_flushed container known)
  · cases h

theorem stepped_of_step (inv : Invariant wire s) {e : Event} (h : forwardStep wire s e = some u) :
    Stepped wire s e u := by
  cases e with
  | cancel =>
    obtain rfl := Option.some.inj h
    exact .cancelled
  | observeCancel =>
    simp only [forwardStep] at h
    split_ifs at h with enabled
    obtain rfl := Option.some.inj h
    exact .observed enabled.1 enabled.2
  | next result =>
    simp only [forwardStep] at h
    split_ifs at h with enabled
    cases result <;> obtain rfl := Option.some.inj h
    case packet packet => exact .read packet enabled.1
    case error => exact .failed enabled.1
    case closed => exact .ended enabled.1
  | poll => exact stepped_of_poll inv h
  | returnPending =>
    simp only [forwardStep] at h
    split at h
    · rename_i dropping
      obtain rfl := Option.some.inj h
      exact .parked dropping
    · cases h
  | wake =>
    obtain rfl := Option.some.inj h
    exact .woken
  | resume =>
    simp only [forwardStep] at h
    split at h
    · rename_i parked
      split_ifs at h with woken
      obtain rfl := Option.some.inj h
      exact .resumed parked woken
    · cases h
  | recv c =>
    simp only [forwardStep] at h
    split_ifs at h with queued
    obtain rfl := Option.some.inj h
    exact .received c queued
  | close c =>
    obtain rfl := Option.some.inj h
    exact .closed c

/-! ## Packets -/

theorem flushed_invariant {packet : Bytes} {proto : IpProtocol} {c : Inbound}
    (container : s.sink.packetContainer = some (packet, proto)) (h : inboundOf proto = some c)
    (unrefused : s.refused = none)
    (owes : ∀ d, (s.sink.inbound d).accepted ++ (if d = c then [packet] else []) =
      routed wire d s.read) (flushed : Flushed s packet proto c u) : Invariant wire u := by
  cases flushed with
  | pending =>
    refine ⟨⟨⟨packet, proto, c, container, h⟩, unrefused⟩, fun d => ?_⟩
    change (s.sink.inbound d).accepted ++ storedFor d s.sink.packetContainer = _
    rw [container, storedFor_self h]
    exact owes d
  | given =>
    refine ⟨⟨rfl, unrefused, rfl⟩, fun d => ?_⟩
    change (Function.update s.sink.inbound c _ d).accepted ++ [] = routed wire d s.read
    have given := owes d
    by_cases same : d = c
    · subst same
      simpa using given
    · simpa [same] using given
  | refused =>
    refine ⟨rfl, fun d => ?_⟩
    change (s.sink.inbound d).accepted ++ storedFor d (some (packet, proto)) = _
    rw [storedFor_self h]
    exact owes d

theorem stop_invariant (inv : Invariant wire s) (selecting : s.task = .selecting) (why : Stop) :
    Invariant wire (s.stop why) := by
  obtain ⟨consistent, delivered⟩ := inv
  obtain ⟨_, unrefused, running⟩ : s.sink.packetContainer = none ∧ s.refused = none ∧
      s.stackSink.control = .running := by
    simpa only [Consistent, selecting] using consistent
  refine ⟨running, fun d => ?_⟩
  have given := delivered d
  simpa [waiting, selecting, Forwarder.stop, unrefused, storedFor] using given

/-- A receiver takes nothing back that was accepted. -/
theorem Invariant.setInbound (inv : Invariant wire s) (c : Inbound) (channel : Channel Bytes)
    (same_accepted : channel.accepted = (s.sink.inbound c).accepted) :
    Invariant wire (s.setInbound c channel) := by
  refine ⟨inv.consistent, fun d => ?_⟩
  have given := inv.delivered d
  change (Function.update s.sink.inbound c channel d).accepted ++ waiting wire s d =
    routed wire d s.read
  by_cases same : d = c
  · subst same
    simpa [same_accepted] using given
  · simpa [same] using given

/-- The task of a flush that found its channel full parks, is woken or resumes. -/
theorem Invariant.setControl (inv : Invariant wire s) (stackSink : SinkTask)
    (sink : stackSink.sink = s.sink) (away : s.stackSink.control ≠ .running) :
    Invariant wire { s with stackSink := stackSink } := by
  obtain ⟨consistent, delivered⟩ := inv
  refine ⟨?_, fun d => ?_⟩
  · unfold Consistent at consistent ⊢
    dsimp only [Forwarder.sink]
    rw [sink]
    cases task : s.task <;> simp only [task] at consistent ⊢
    · exact absurd consistent.2.2 away
    · exact absurd consistent.2.2 away
    · exact consistent
    · exact absurd consistent away
  · have given := delivered d
    unfold waiting at given ⊢
    dsimp only [Forwarder.sink]
    rw [sink]
    exact given

theorem forwardStep_invariant (inv : Invariant wire s) {e : Event}
    (h : forwardStep wire s e = some u) : Invariant wire u := by
  cases stepped_of_step inv h with
  | cancelled => exact ⟨inv.consistent, inv.delivered⟩
  | observed selecting => exact stop_invariant inv selecting _
  | read packet selecting =>
    obtain ⟨consistent, delivered⟩ := inv
    refine ⟨by simpa only [Consistent, selecting] using consistent, fun d => ?_⟩
    have given : (s.sink.inbound d).accepted ++ [] = routed wire d s.read := by
      simpa only [waiting, selecting] using delivered d
    change (s.sink.inbound d).accepted ++ routed wire d [packet] =
      routed wire d (s.read ++ [packet])
    rw [routed_append, ← given, List.append_nil]
  | failed selecting => exact stop_invariant inv selecting _
  | ended selecting => exact stop_invariant inv selecting _
  | rejected feeding rejected =>
    obtain ⟨_, unrefused, running, owes⟩ := inv.feeding feeding
    refine ⟨running, fun d => ?_⟩
    have given := owes d
    rw [routed_nil (destination_of_rejected rejected)] at given
    simpa [Forwarder.stop, waiting, unrefused, storedFor] using given
  | ignored feeding _ unrouted =>
    obtain ⟨empty, unrefused, running, owes⟩ := inv.feeding feeding
    refine ⟨⟨empty, unrefused, running⟩, fun d => ?_⟩
    have given := owes d
    rw [routed_nil unrouted] at given
    exact given
  | sent feeding routed known flushed =>
    obtain ⟨_, unrefused, _, owes⟩ := inv.feeding feeding
    refine flushed_invariant (s := s.store _ _) rfl known unrefused (fun d => ?_) flushed
    rw [← routed_self routed]
    exact owes d
  | flushed flushing container known flushed =>
    obtain ⟨unrefused, packet, proto, c, container', known', held⟩ := inv.flushing flushing
    obtain ⟨rfl, rfl⟩ := Prod.mk.inj (Option.some.inj (container.symm.trans container'))
    obtain rfl := Option.some.inj (known.symm.trans known')
    refine flushed_invariant container known unrefused (fun d => ?_) flushed
    rw [← held]
    exact inv.delivered d
  | parked dropping => exact inv.setControl _ rfl (by simp [dropping])
  | woken => exact ⟨inv.consistent, inv.delivered⟩
  | resumed parked => exact inv.setControl _ rfl (by simp [parked])
  | received c _ => exact inv.setInbound c _ rfl
  | closed c => exact inv.setInbound c _ rfl

/-! ## Which stops are allowed -/

theorem flushed_stopsAllowed {packet : Bytes} {proto : IpProtocol} {c : Inbound}
    (h : inboundOf proto = some c) (flushed : Flushed s packet proto c u) : StopsAllowed u := by
  cases flushed with
  | pending => exact .of_running fun why => by simp
  | given => exact .of_running fun why => by simp
  | refused closed =>
    intro why stopped
    obtain rfl := Task.stopped.inj stopped
    exact ⟨proto, c, h, rfl, closed⟩

/-- A channel that was closed stays closed, so an allowed stop stays allowed. -/
theorem StopsAllowed.mono (h : StopsAllowed s) (task : u.task = s.task)
    (cancelled : s.cancelled = true → u.cancelled = true)
    (closed : ∀ c, (s.sink.inbound c).closed = true → (u.sink.inbound c).closed = true) :
    StopsAllowed u := by
  refine StopsFor.of_same h task fun why allowed => ?_
  cases why with
  | cancelled => exact cancelled allowed
  | deviceError => trivial
  | endOfStream => trivial
  | sink err =>
    obtain ⟨proto, c, known, same, was⟩ := allowed
    exact ⟨proto, c, known, same, closed c was⟩

theorem StopsAllowed.setInbound (h : StopsAllowed s) (c : Inbound) {channel : Channel Bytes}
    (closed : (s.sink.inbound c).closed = true → channel.closed = true) :
    StopsAllowed (s.setInbound c channel) := by
  refine h.mono rfl id fun d was => ?_
  change (Function.update s.sink.inbound c channel d).closed = true
  by_cases same : d = c
  · subst same
    simpa using closed was
  · simpa [same] using was

theorem stop_allowed {why : Stop} (reason : Allowed s why) : StopsAllowed (s.stop why) := by
  intro why' stopped
  obtain rfl := Task.stopped.inj stopped
  cases why <;> exact reason

/-- Only a rejected packet ends the loop against the rules. -/
theorem forwardStep_stopsAllowed (inv : Invariant wire s) (allowed : StopsAllowed s) {e : Event}
    (h : forwardStep wire s e = some u) : StopsAllowed u ↔
      (e = .poll → ∀ packet, s.task = .feeding packet → ¬ Rejected wire packet) := by
  cases stepped_of_step inv h with
  | cancelled =>
    exact iff_of_true (allowed.mono rfl (fun _ => rfl) fun _ => id) fun other => by cases other
  | observed _ cancelled =>
    exact iff_of_true (stop_allowed cancelled) fun other => by cases other
  | read => exact iff_of_true (.of_running fun why => by simp) fun other => by cases other
  | failed => exact iff_of_true (stop_allowed trivial) fun other => by cases other
  | ended => exact iff_of_true (stop_allowed trivial) fun other => by cases other
  | rejected feeding rejected =>
    refine iff_of_false (fun allowed => ?_) fun accepted => accepted rfl _ feeding rejected
    obtain ⟨proto, _, _, same, _⟩ := allowed (.sink _) rfl
    cases congrArg IoError.kind same
  | ignored feeding accepted =>
    exact iff_of_true (.of_running fun why => by simp) (by simp [feeding, accepted])
  | sent feeding routed known flushed =>
    refine iff_of_true (flushed_stopsAllowed known flushed) fun _ packet same rejected => ?_
    obtain rfl := Task.feeding.inj (feeding.symm.trans same)
    cases routed.symm.trans (destination_of_rejected rejected)
  | flushed flushing _ known flushed =>
    exact iff_of_true (flushed_stopsAllowed known flushed) (by simp [flushing])
  | parked => exact iff_of_true (allowed.mono rfl id fun _ => id) fun other => by cases other
  | woken => exact iff_of_true (allowed.mono rfl id fun _ => id) fun other => by cases other
  | resumed => exact iff_of_true (allowed.mono rfl id fun _ => id) fun other => by cases other
  | received c _ => exact iff_of_true (allowed.setInbound c id) fun other => by cases other
  | closed c => exact iff_of_true (allowed.setInbound c fun _ => rfl) fun other => by cases other

/-! ## Wake-ups -/

/-- Only a full channel keeps a packet, and then the waker is registered with it. -/
theorem flushed_waking {packet : Bytes} {proto : IpProtocol} {c : Inbound}
    (container : s.sink.packetContainer = some (packet, proto)) (h : inboundOf proto = some c)
    (bounded : Bounded s) (flushed : Flushed s packet proto c u) : Bounded u ∧ Waking u := by
  cases flushed with
  | pending opened full =>
    refine ⟨bounded, ?_, .inr ⟨Function.update_self .., opened, full⟩⟩
    change s.sink.waitsFor = some c
    simp [StackSplitSink.waitsFor, container, h]
  | given _ room =>
    refine ⟨fun d => ?_, trivial⟩
    obtain ⟨positive, fits⟩ := bounded d
    change Fits (Function.update s.sink.inbound c _ d)
    by_cases same : d = c
    · subst same
      rw [Function.update_self]
      refine ⟨positive, ?_⟩
      unfold Channel.Full at room
      simp only [Channel.push, List.length_append, List.length_singleton]
      omega
    · rw [Function.update_of_ne same]
      exact ⟨positive, fits⟩
  | refused => exact ⟨bounded, trivial⟩

theorem waking_running (running : s.stackSink.control = .running) : Waking s := by
  simp only [Waking, running]

theorem Bounded.setInbound (bounded : Bounded s) (c : Inbound) {channel : Channel Bytes}
    (capacity : channel.capacity = (s.sink.inbound c).capacity)
    (fewer : channel.queue.length ≤ (s.sink.inbound c).queue.length) :
    Bounded (s.setInbound c channel) := by
  intro d
  obtain ⟨positive, fits⟩ := bounded d
  change Fits (Function.update s.sink.inbound c channel d)
  by_cases same : d = c
  · subst same
    rw [Function.update_self]
    exact ⟨capacity ▸ positive, capacity ▸ fewer.trans fits⟩
  · rw [Function.update_of_ne same]
    exact ⟨positive, fits⟩

/-- The receiver that acts on the channel of a registered waker wakes the task. -/
theorem Waking.setInbound (waking : Waking s) (c : Inbound) (channel : Channel Bytes) :
    Waking (s.setInbound c channel) := by
  have same_control : (s.setInbound c channel).stackSink.control = s.stackSink.control := rfl
  unfold Waking at waking ⊢
  rw [same_control]
  cases control : s.stackSink.control with
  | running => trivial
  | dropping d =>
    simp only [control] at waking
    obtain ⟨waits, woken | ⟨registered, opened, full⟩⟩ := waking
    · exact ⟨waits, .inl (by simp [Forwarder.setInbound, SinkTask.notified, woken])⟩
    · by_cases same : d = c
      · subst same
        exact ⟨waits, .inl (by simp [Forwarder.setInbound, SinkTask.notified, registered])⟩
      · refine ⟨waits, .inr ⟨?_, ?_⟩⟩
        · simpa [Forwarder.setInbound, SinkTask.notified, same] using registered
        · simpa [Forwarder.setInbound, SinkTask.notified, StackSplitSink.setInbound, same]
            using And.intro opened full
  | pending d => simp only [control] at waking
  | parked d =>
    simp only [control] at waking
    simp [Forwarder.setInbound, SinkTask.notified, waking]

theorem forwardStep_waking (inv : Invariant wire s) (bounded : Bounded s) (waking : Waking s)
    {e : Event} (guard : e = .returnPending → s.stackSink.woken = true)
    (h : forwardStep wire s e = some u) : Bounded u ∧ Waking u := by
  cases stepped_of_step inv h with
  | cancelled => exact ⟨bounded, waking⟩
  | observed => exact ⟨bounded, waking⟩
  | read _ selecting =>
    have consistent := inv.consistent
    simp only [Consistent, selecting] at consistent
    exact ⟨bounded, waking_running consistent.2.2⟩
  | failed => exact ⟨bounded, waking⟩
  | ended => exact ⟨bounded, waking⟩
  | rejected => exact ⟨bounded, waking⟩
  | ignored => exact ⟨bounded, waking⟩
  | sent _ _ known flushed => exact flushed_waking (s := s.store _ _) rfl known bounded flushed
  | flushed _ container known flushed => exact flushed_waking container known bounded flushed
  | parked => exact ⟨bounded, guard rfl⟩
  | woken =>
    refine ⟨bounded, ?_⟩
    unfold Waking at waking ⊢
    dsimp only
    cases control : s.stackSink.control <;> simp only [control] at waking ⊢
    exact ⟨waking.1, .inl trivial⟩
  | resumed => exact ⟨bounded, trivial⟩
  | received c _ =>
    refine ⟨bounded.setInbound c rfl ?_, waking.setInbound c _⟩
    simp [Channel.pop]
  | closed c => exact ⟨bounded.setInbound c rfl (Nat.zero_le _), waking.setInbound c _⟩

/-! ## Packets in hand -/

theorem flushed_leaves {packet : Bytes} {proto : IpProtocol} {c : Inbound}
    (opened : (s.sink.inbound c).closed = false) (room : ¬ (s.sink.inbound c).Full)
    (flushed : Flushed s packet proto c u) : u.task = .selecting ∧
      (u.sink.inbound c).accepted = (s.sink.inbound c).accepted ++ [packet] := by
  cases flushed with
  | pending _ full => exact absurd full room
  | given =>
    refine ⟨rfl, ?_⟩
    change (Function.update s.sink.inbound c _ c).accepted = _
    rw [Function.update_self, Channel.push_accepted]
  | refused closed => cases opened.symm.trans closed

theorem Invariant.flushing_of_away (inv : Invariant wire s)
    (away : s.stackSink.control ≠ .running) : s.task = .flushing := by
  have consistent := inv.consistent
  cases task : s.task <;> simp only [Consistent, task] at consistent
  · exact absurd consistent.2.2 away
  · exact absurd consistent.2.2 away
  · rfl
  · exact absurd consistent away

section Hand
variable {c : Inbound} {channelSize : ℕ}

/-- One poll of a running task is enough. -/
theorem poll_leaves (inv : Invariant wire s) (running : s.stackSink.control = .running)
    (busy : ∀ why, s.task ≠ .stopped why) (held : waiting wire s c ≠ [])
    (opened : (s.sink.inbound c).closed = false) (room : ¬ (s.sink.inbound c).Full) :
    Leaves wire channelSize s c := by
  have polled : ∀ u, forwardStep wire s .poll = some u → u.task = .selecting ∧
      (u.sink.inbound c).accepted = (s.sink.inbound c).accepted ++ waiting wire s c →
        Leaves wire channelSize s c :=
    fun u step gone => ⟨[.poll], u, by simp, execFrom_step step [], gone⟩
  cases task : s.task with
  | selecting => simp [waiting, task] at held
  | stopped why => exact absurd task (busy why)
  | feeding packet =>
    obtain ⟨empty, _⟩ := inv.feeding task
    have destined : destination wire packet = some c := by
      by_contra other
      rw [destination_iff] at other
      simp [waiting, task, routed, other] at held
    obtain ⟨proto, known, fed⟩ := feed_stored empty running destined
    refine polled (s.feed wire packet) (by simp only [forwardStep, running, if_true, task]) ?_
    have own : waiting wire s c = [packet] := by
      simp [waiting, task, routed_self destined]
    rw [fed, own]
    exact flushed_leaves (s := s.store packet proto) opened room (flush_flushed rfl known)
  | flushing =>
    obtain ⟨_, packet, proto, d, container, known, held'⟩ := inv.flushing task
    rw [held'] at held
    obtain rfl : c = d := by
      by_contra other
      rw [if_neg other] at held
      exact held rfl
    refine polled s.flush (by simp only [forwardStep, running, if_true, task]) ?_
    rw [held', if_pos rfl]
    exact flushed_leaves opened room (flush_flushed container known)

/-- A parked task that is woken resumes first. -/
theorem parked_leaves (inv : Invariant wire s) {d : Inbound}
    (parked : s.stackSink.control = .parked d) (woken : s.stackSink.woken = true)
    (held : waiting wire s c ≠ []) (opened : (s.sink.inbound c).closed = false)
    (room : ¬ (s.sink.inbound c).Full) : Leaves wire channelSize s c := by
  have flushing := inv.flushing_of_away (by simp [parked])
  have resumed : forwardStep wire s .resume = some { s with
      stackSink := { s.stackSink with control := .running, woken := false } } := by
    simp only [forwardStep, parked, woken, if_true]
  obtain ⟨own, u, all, run, gone⟩ : Leaves wire channelSize _ c :=
    poll_leaves (forwardStep_invariant inv resumed) rfl (by simp [flushing]) held opened room
  refine ⟨.resume :: own, u, ?_, (execFrom_step resumed own).trans run, gone⟩
  exact List.forall_mem_cons.2 ⟨.inr (.inr rfl), all⟩

/-- A task that is about to park has been woken since its channel was full. -/
theorem leaves_of_waking (inv : Invariant wire s) (waking : Waking s)
    (busy : ∀ why, s.task ≠ .stopped why) (held : waiting wire s c ≠ [])
    (opened : (s.sink.inbound c).closed = false) (room : ¬ (s.sink.inbound c).Full) :
    Leaves wire channelSize s c := by
  unfold Waking at waking
  cases control : s.stackSink.control with
  | running => exact poll_leaves inv control busy held opened room
  | pending d => simp only [control] at waking
  | parked d =>
    simp only [control] at waking
    exact parked_leaves inv control waking held opened room
  | dropping d =>
    simp only [control] at waking
    obtain ⟨waits, awake⟩ := waking
    obtain ⟨_, packet, proto, d', container, known, held'⟩ :=
      inv.flushing (inv.flushing_of_away (by simp [control]))
    have own : d' = d := by simpa [StackSplitSink.waitsFor, container, known] using waits
    have woken : s.stackSink.woken = true := by
      refine awake.resolve_right fun blocked => ?_
      by_cases same : c = d'
      · rw [same, own] at room
        exact room blocked.2.2
      · rw [held', if_neg same] at held
        exact held rfl
    have returned : forwardStep wire s .returnPending = some { s with
        stackSink := { s.stackSink with
          registered := Function.update s.stackSink.registered d false
          control := .parked d } } := by
      simp only [forwardStep, control]
    obtain ⟨own, u, all, run, gone⟩ : Leaves wire channelSize _ c :=
      parked_leaves (forwardStep_invariant inv returned) rfl woken held opened room
    refine ⟨.returnPending :: own, u, ?_, (execFrom_step returned own).trans run, gone⟩
    exact List.forall_mem_cons.2 ⟨.inr (.inl rfl), all⟩

theorem flows_of_waking (inv : Invariant wire s) (bounded : Bounded s) (waking : Waking s) :
    Flows wire channelSize s := by
  intro acts t receivers run busy c held opened room
  have kept : Invariant wire t ∧ Bounded t ∧ Waking t := by
    refine execFrom_invariant_of (I := fun t => Invariant wire t ∧ Bounded t ∧ Waking t)
      (fun u e v => ?_) ⟨inv, bounded, waking⟩ receivers run
    rintro ⟨inv, bounded, waking⟩ ⟨c, act⟩ step
    refine ⟨forwardStep_invariant inv step, forwardStep_waking inv bounded waking ?_ step⟩
    rintro rfl
    rcases act with other | other <;> cases other
  exact leaves_of_waking kept.1 kept.2.2 busy held opened room

/-- A task that parks without having been woken stays parked when its channel gets room. -/
theorem flows_returnPending (inv : Invariant wire s) (bounded : Bounded s) (waking : Waking s)
    (h : forwardStep wire s .returnPending = some u) (flows : Flows wire channelSize u) :
    s.stackSink.woken = true := by
  cases stepped_of_step inv h
  rename_i c dropping
  by_contra asleep
  simp only [Waking, dropping] at waking
  obtain ⟨waits, awake⟩ := waking
  obtain ⟨registered, opened, full⟩ := awake.resolve_left asleep
  have flushing := inv.flushing_of_away (by simp [dropping])
  obtain ⟨_, packet, proto, d, container, known, held⟩ := inv.flushing flushing
  obtain rfl : d = c := by simpa [StackSplitSink.waitsFor, container, known] using waits
  obtain ⟨positive, fits⟩ := bounded d
  have queued : (s.sink.inbound d).queue ≠ [] := by
    intro empty
    unfold Channel.Full at full
    rw [empty, List.length_nil] at full
    omega
  -- the receiver takes one packet, and nobody is told
  let parked : Forwarder := { s with stackSink := { s.stackSink with
    registered := Function.update s.stackSink.registered d false
    control := .parked d } }
  have taken : forwardStep wire parked (.recv d) =
      some (parked.setInbound d (s.sink.inbound d).pop) := if_neg queued
  obtain ⟨own, v, all, run, gone, _⟩ := flows [.recv d] _ (by simp) (execFrom_step taken [])
    (by simp [parked, Forwarder.setInbound, flushing]) d
    (by
      change waiting wire s d ≠ []
      simp [held])
    (by simpa [parked, Forwarder.setInbound, SinkTask.notified, StackSplitSink.setInbound]
      using opened)
    (by simpa [parked, Forwarder.setInbound, SinkTask.notified, StackSplitSink.setInbound]
      using Channel.pop_not_full fits queued)
  cases own with
  | nil =>
    obtain rfl := Option.some.inj run
    cases flushing.symm.trans gone
  | cons e own =>
    obtain ⟨w, step, _⟩ := Option.bind_eq_some_iff.1 run
    change forwardStep wire (parked.setInbound d (s.sink.inbound d).pop) e = some w at step
    have unwoken : s.stackSink.woken = false := Bool.eq_false_of_not_eq_true asleep
    rcases all e (List.mem_cons_self ..) with rfl | rfl | rfl
    · simp [forwardStep, parked, Forwarder.setInbound, SinkTask.notified] at step
    · simp [forwardStep, parked, Forwarder.setInbound, SinkTask.notified] at step
    · simp [forwardStep, parked, Forwarder.setInbound, SinkTask.notified, unwoken] at step

end Hand
end Step

/-- Along any run, the loop stops for an allowed reason only, both channels have been given
exactly their packets in order, and a packet in hand leaves once its channel has room, if and only
if no packet it sends is rejected and it never parks with its wake-up dropped. -/
theorem forward_packets_iff (wire : Wire) {channelSize : ℕ} (positive : 0 < channelSize)
    (es : List Event) :
    (∀ s, Visits (forwardSystem wire channelSize) es s →
      StopsAllowed s ∧ Delivered wire s ∧ Flows wire channelSize s) ↔
      ∀ s e u, Takes (forwardSystem wire channelSize) es s e u → Guarded wire s e := by
  have start : Invariant wire (forwardSystem wire channelSize).initial :=
    ⟨⟨rfl, rfl, rfl⟩, fun _ => rfl⟩
  have bounded : Bounded (forwardSystem wire channelSize).initial :=
    fun _ => ⟨positive, Nat.zero_le _⟩
  have awake : Waking (forwardSystem wire channelSize).initial := waking_running rfl
  have guards : ∀ {s : Forwarder} {e : Event}, Guarded wire s e ↔
      (e = .poll → ∀ packet, s.task = .feeding packet → ¬ Rejected wire packet) ∧
        (e = .returnPending → s.stackSink.woken = true) := by
    intro s e
    cases e <;> simp [Guarded]
  apply safe_iff_guarded (I := fun s => Invariant wire s ∧ Bounded s ∧ Waking s)
    ⟨start, bounded, awake⟩
  · exact ⟨.of_running fun why => by cases why <;> nofun, start.delivered,
      flows_of_waking start bounded awake⟩
  · rintro s e u ⟨inv, bounded, waking⟩ guard step
    exact ⟨forwardStep_invariant inv step,
      forwardStep_waking inv bounded waking (guards.1 guard).2 step⟩
  · rintro s e u ⟨inv, bounded, waking⟩ good step
    have inv' := forwardStep_invariant inv step
    rw [guards, forwardStep_stopsAllowed inv good.1 step]
    refine and_congr_right fun _ => ⟨?_, fun guard => ?_⟩
    · rintro ⟨_, flows⟩ rfl
      exact flows_returnPending inv bounded waking step flows
    · obtain ⟨bounded', waking'⟩ := forwardStep_waking inv bounded waking guard step
      exact ⟨inv'.delivered, flows_of_waking inv' bounded' waking'⟩

def overtaken : List Event :=
  [.next (.packet datagram), .poll, .next (.packet datagram), .poll, .recv .udp, .returnPending,
    .resume, .poll]

theorem forward_packets_iff_overtaken : ∃ s, Runs (forwardSystem headerWire 1) overtaken s ∧
    StopsAllowed s ∧ Delivered headerWire s ∧ Flows headerWire 1 s := by
  have ran : ∃ s, exec (forwardSystem headerWire 1) overtaken = some s := ⟨_, rfl⟩
  obtain ⟨s, ran⟩ := ran
  have run := runs_of_exec ran
  refine ⟨s, run, (forward_packets_iff headerWire Nat.one_pos overtaken).2 ?_ s run.visits⟩
  intro s e u take
  obtain ⟨n, here, reached⟩ := take.exec_take
  have accepted : ¬ Rejected headerWire datagram := by
    rintro ⟨_, malformed⟩
    cases malformed
  have bound : n < 8 := (List.getElem?_eq_some_iff.1 here).1
  interval_cases n
  all_goals
    obtain rfl := Option.some.inj here
    obtain rfl := Option.some.inj reached
  case «1» | «3» =>
    intro packet feeding
    obtain rfl := Task.feeding.inj feeding
    exact accepted
  case «7» =>
    intro packet feeding
    cases feeding
  case «5» => rfl
  all_goals trivial

/-- One byte that is neither version 4 nor 6 ends the loop. -/
theorem rejected_packet_stops :
    ∃ s, Runs (forwardSystem headerWire 4096) [.next (.packet [0]), .poll] s ∧
      ¬ StopsAllowed s := by
  refine ⟨_, runs_of_exec (show exec (forwardSystem headerWire 4096) _ = some _ from rfl), ?_⟩
  intro allowed
  obtain ⟨proto, _, _, same, _⟩ := allowed (.sink ⟨.invalidData, "wire::Error"⟩) rfl
  cases congrArg IoError.kind same

end Ombrac.TunToStack
