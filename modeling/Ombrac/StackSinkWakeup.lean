import Ombrac.LabelledSystem
import Ombrac.StackSink

set_option autoImplicit false

/-!
# Wake-ups of the task that feeds the packet sink

One task calls the sink while receivers drain or close the two channels. A pending `reserve()`
puts the task's waker in its channel's wait queue, a freed slot wakes a queued waiter, and
dropping the future removes its entry; `poll_flush` drops it on return, and the receiver may act
in between. No other sender competes for a slot.
-/
namespace Ombrac.StackSinkWakeup
open LabelledSystem ProtocolPacket StackPacket BoundedChannel StackSink

/-- In `dropping` the call has polled `reserve()` and is about to drop it; in `pending` it has
returned `Pending`, and the task may then park. -/
inductive Control where
  | running
  | dropping (c : Inbound)
  | pending (c : Inbound)
  | parked (c : Inbound)
  deriving DecidableEq

namespace Control

def mayCall : Control → Bool
  | .running | .pending _ => true
  | _ => false

/-- The channel whose future was polled last, until the next call. -/
def polled : Control → Option Inbound
  | .running => none
  | .dropping c | .pending c | .parked c => some c

def awaits : Control → Option Inbound
  | .pending c | .parked c => some c
  | _ => none

end Control

/-- `registered` are the wait queues. Since the last poll of `reserve()`, `freed` says whether a
slot of its channel was freed or the channel closed. -/
structure SinkTask where
  sink : StackSplitSink
  registered : Inbound → Bool
  control : Control
  woken : Bool
  freed : Bool

namespace SinkTask

def new (channelSize : ℕ) : SinkTask :=
  ⟨.new channelSize, fun _ => false, .running, false, false⟩

def called (s : SinkTask) (result : StackSplitSink × Poll (Except IoError Unit)) : SinkTask :=
  match result.2, result.1.waitsFor with
  | .pending, some c =>
    { s with
      sink := result.1
      registered := Function.update s.registered c true
      control := .dropping c
      freed := false }
  | _, _ => { s with sink := result.1, control := .running }

def notified (s : SinkTask) (c : Inbound) : SinkTask :=
  { s with
    registered := Function.update s.registered c false
    woken := s.woken || s.registered c
    freed := s.freed || decide (s.control.polled = some c) }

end SinkTask

inductive Event where
  | pollReady
  | startSend (item : Bytes)
  | pollFlush
  | returnPending
  | park
  | wake
  | resume
  | recv (c : Inbound)
  | close (c : Inbound)

def sinkStep (wire : Wire) (s : SinkTask) : Event → Option SinkTask
  | .pollReady => if s.control.mayCall then some (s.called s.sink.pollReady) else none
  | .startSend item =>
    if s.control.mayCall then
      some { s with sink := (s.sink.startSend wire item).1, control := .running }
    else none
  | .pollFlush => if s.control.mayCall then some (s.called s.sink.pollFlush) else none
  | .returnPending =>
    match s.control with
    | .dropping c => some { s with
        registered := Function.update s.registered c false
        control := .pending c }
    | _ => none
  | .park =>
    match s.control with
    | .pending c => some { s with control := .parked c }
    | _ => none
  | .wake => some { s with woken := true }
  | .resume =>
    match s.control with
    | .parked _ => if s.woken then some { s with control := .running, woken := false } else none
    | _ => none
  | .recv c =>
    if (s.sink.inbound c).queue = [] then none
    else some ({ s with sink := s.sink.setInbound c (s.sink.inbound c).pop }.notified c)
  | .close c =>
    some ({ s with sink := s.sink.setInbound c (s.sink.inbound c).close }.notified c)

def sinkSystem (wire : Wire) (channelSize : ℕ) : System SinkTask Event :=
  ⟨.new channelSize, sinkStep wire⟩

/-! ## No lost wake-up -/

def KeepsWaker (s : SinkTask) : Prop :=
  ∀ c, s.control.awaits = some c → s.registered c = true ∨ s.freed = true

/-- A packet is stored, its channel has room, and the parked task has no wake-up coming. -/
def Hung (s : SinkTask) : Prop :=
  (∃ c, s.control = .parked c) ∧ s.woken = false ∧
    ∃ c, s.sink.waitsFor = some c ∧ ¬ (s.sink.inbound c).Full

/-- A call returns `Pending` only if the receiver acted before the future was dropped. -/
def Guarded (s : SinkTask) : Event → Prop
  | .returnPending => s.freed = true
  | _ => True

structure Invariant (s : SinkTask) : Prop where
  dropping : ∀ c, s.control = .dropping c →
    s.registered c = true ∧ s.freed = false ∨ s.freed = true ∧ s.woken = true
  awaiting : ∀ c, s.control.awaits = some c → s.freed = true ∧ s.woken = true

section Step
variable {wire : Wire} {s u : SinkTask}

theorem Invariant.safe (inv : Invariant s) : KeepsWaker s ∧ ¬ Hung s := by
  constructor
  · intro c awaits
    exact .inr (inv.awaiting c awaits).1
  · rintro ⟨⟨c, parked⟩, asleep, _⟩
    have awake := (inv.awaiting c (by simp [parked, Control.awaits])).2
    cases asleep.symm.trans awake

theorem invariant_running (h : s.control = .running) : Invariant s := by
  constructor
  · intro c dropping
    cases h.symm.trans dropping
  · intro c awaits
    simp [h, Control.awaits] at awaits

theorem invariant_called (result : StackSplitSink × Poll (Except IoError Unit)) :
    Invariant (s.called result) := by
  unfold SinkTask.called
  split
  · constructor
    · intro c dropping
      obtain rfl := Control.dropping.inj dropping
      exact .inl ⟨Function.update_self .., rfl⟩
    · intro c awaits
      cases awaits
  · exact invariant_running rfl

/-- The receiver wakes the task in every state in which the task's entry is queued. -/
theorem invariant_notified (inv : Invariant s) (sink : StackSplitSink) (c : Inbound) :
    Invariant ({ s with sink := sink }.notified c) := by
  constructor
  · intro d dropping
    have dropping : s.control = .dropping d := dropping
    simp only [SinkTask.notified, dropping, Control.polled, Option.some.injEq]
    rcases inv.dropping d dropping with ⟨queued, unfreed⟩ | ⟨freed, woken⟩
    · by_cases same : d = c
      · subst same
        simp [queued]
      · simp [same, queued, unfreed]
    · simp [freed, woken]
  · intro d awaits
    obtain ⟨freed, woken⟩ := inv.awaiting d awaits
    simp [SinkTask.notified, freed, woken]

theorem sinkStep_invariant (inv : Invariant s) {e : Event} (guard : Guarded s e)
    (h : sinkStep wire s e = some u) : Invariant u := by
  cases e with
  | pollReady =>
    simp only [sinkStep] at h
    split_ifs at h
    obtain rfl := Option.some.inj h
    exact invariant_called _
  | startSend item =>
    simp only [sinkStep] at h
    split_ifs at h
    obtain rfl := Option.some.inj h
    exact invariant_running rfl
  | pollFlush =>
    simp only [sinkStep] at h
    split_ifs at h
    obtain rfl := Option.some.inj h
    exact invariant_called _
  | returnPending =>
    simp only [sinkStep] at h
    split at h
    · rename_i c dropping
      obtain rfl := Option.some.inj h
      have freed : s.freed = true := guard
      have woken : s.woken = true := by
        rcases inv.dropping c dropping with ⟨_, unfreed⟩ | ⟨_, woken⟩
        · cases unfreed.symm.trans freed
        · exact woken
      constructor
      · intro d impossible
        cases impossible
      · intro d _
        exact ⟨freed, woken⟩
    · cases h
  | park =>
    simp only [sinkStep] at h
    split at h
    · rename_i c pending
      obtain rfl := Option.some.inj h
      constructor
      · intro d impossible
        cases impossible
      · intro d awaits
        exact inv.awaiting d (by simpa [pending, Control.awaits] using awaits)
    · cases h
  | wake =>
    obtain rfl := Option.some.inj h
    constructor
    · intro d dropping
      exact (inv.dropping d dropping).imp_right fun acted => ⟨acted.1, rfl⟩
    · intro d awaits
      exact ⟨(inv.awaiting d awaits).1, rfl⟩
  | resume =>
    simp only [sinkStep] at h
    split at h
    · split_ifs at h
      obtain rfl := Option.some.inj h
      exact invariant_running rfl
    · cases h
  | recv c =>
    simp only [sinkStep] at h
    split_ifs at h
    obtain rfl := Option.some.inj h
    exact invariant_notified inv _ c
  | close c =>
    obtain rfl := Option.some.inj h
    exact invariant_notified inv _ c

/-- From a good state exactly an unguarded return loses the wake-up. -/
theorem sinkStep_safe (inv : Invariant s) {e : Event} (h : sinkStep wire s e = some u) :
    KeepsWaker u ∧ ¬ Hung u ↔ Guarded s e := by
  constructor
  · rintro ⟨keeps, _⟩
    cases e with
    | returnPending =>
      simp only [sinkStep] at h
      split at h
      · rename_i c _
        obtain rfl := Option.some.inj h
        rcases keeps c rfl with queued | freed
        · simp at queued
        · exact freed
      · cases h
    | _ => trivial
  · intro guard
    exact (sinkStep_invariant inv guard h).safe

end Step

/-- Along any run, no wake-up is lost exactly when each call that returns `Pending` is overtaken
by the receiver inside the call: the waker never stays registered after the return. -/
theorem sink_wakeup_iff (wire : Wire) (channelSize : ℕ) (es : List Event) :
    (∀ s, Visits (sinkSystem wire channelSize) es s → KeepsWaker s ∧ ¬ Hung s) ↔
      ∀ s e u, Takes (sinkSystem wire channelSize) es s e u → Guarded s e := by
  have start : Invariant (sinkSystem wire channelSize).initial := invariant_running rfl
  apply safe_iff_guarded (I := Invariant) start start.safe
  · exact fun _ _ _ inv guard step => sinkStep_invariant inv guard step
  · exact fun _ _ _ inv _ step => sinkStep_safe inv step

section Overload

/-- An empty UDP datagram from 10.0.0.1:1000 to 10.0.0.2:2000. -/
def datagram : Bytes :=
  [69, 0, 0, 28, 0, 0, 0, 0, 64, 17, 0, 0, 10, 0, 0, 1, 10, 0, 0, 2, 3, 232, 7, 208, 0, 8, 0, 0]

structure Loaded (channelSize k : ℕ) (s : SinkTask) : Prop where
  running : s.control = .running
  asleep : s.woken = false
  empty : s.sink.packetContainer = none
  opened : (s.sink.inbound .udp).closed = false
  capacity : (s.sink.inbound .udp).capacity = channelSize
  length : (s.sink.inbound .udp).queue.length = k

def stored (s : SinkTask) : SinkTask :=
  { s with sink := { s.sink with packetContainer := some (datagram, .udp) } }

theorem Loaded.store {channelSize k : ℕ} {s : SinkTask} (h : Loaded channelSize k s) :
    sinkStep headerWire s (.startSend datagram) = some (stored s) := by
  have accepted : s.sink.startSend headerWire datagram =
    ({ s.sink with packetContainer := some (datagram, .udp) }, .ok ()) := rfl
  simp only [sinkStep, h.running, Control.mayCall, if_true, accepted]
  simp only [stored, ← h.running]

theorem Loaded.flushed {channelSize k : ℕ} {s : SinkTask} (h : Loaded channelSize k s)
    (room : k < channelSize) :
    ∃ u, execFrom (sinkSystem headerWire channelSize) s [.startSend datagram, .pollFlush] =
      some u ∧ Loaded channelSize (k + 1) u := by
  have not_full : ¬ (s.sink.inbound .udp).Full := by
    unfold Channel.Full
    rw [h.capacity, h.length]
    omega
  have flush : (stored s).sink.pollFlush =
      ({ s.sink with packetContainer := none }.setInbound .udp
        ((s.sink.inbound .udp).push datagram), .ready (.ok ())) := by
    simp [stored, StackSplitSink.pollFlush, inboundOf, h.opened, not_full]
  have polled : sinkStep headerWire (stored s) .pollFlush =
      some { stored s with
        sink := { s.sink with packetContainer := none }.setInbound .udp
          ((s.sink.inbound .udp).push datagram)
        control := .running } := by
    have running : (stored s).control = .running := h.running
    simp only [sinkStep, running, Control.mayCall, if_true, flush, SinkTask.called]
  refine ⟨_, by simp only [execFrom, sinkSystem, h.store, polled, Option.bind_some]; rfl, ?_⟩
  constructor
  · rfl
  · exact h.asleep
  · rfl
  · simpa [StackSplitSink.setInbound] using h.opened
  · simpa [StackSplitSink.setInbound] using h.capacity
  · simp [StackSplitSink.setInbound, Channel.push, h.length]

def load (k : ℕ) : List Event := (List.replicate k [.startSend datagram, .pollFlush]).flatten

theorem load_loaded {channelSize k : ℕ} (room : k ≤ channelSize) :
    ∃ s, Runs (sinkSystem headerWire channelSize) (load k) s ∧ Loaded channelSize k s := by
  induction k with
  | zero =>
    refine ⟨_, .initial, ?_⟩
    constructor <;> rfl
  | succ k ih =>
    obtain ⟨s, run, loaded⟩ := ih (by omega)
    obtain ⟨u, flushed, next⟩ := loaded.flushed (by omega)
    have events : load (k + 1) = load k ++ [.startSend datagram, .pollFlush] := by
      simp [load, List.replicate_succ']
    exact ⟨u, events ▸ run.exec_from flushed, next⟩

/-- The task stored a datagram for the full channel, `poll_flush` returned `Pending`, the task
parked, and then the receiver took a datagram. -/
def afterRecv (s : SinkTask) : SinkTask :=
  let full := stored s
  { full with
    sink := full.sink.setInbound .udp (full.sink.inbound .udp).pop
    registered := Function.update (Function.update
      (Function.update s.registered .udp true) .udp false) .udp false
    control := .parked .udp
    freed := true }

def overloaded : List Event := [.startSend datagram, .pollFlush, .returnPending, .park, .recv .udp]

theorem Loaded.overload {channelSize : ℕ} {s : SinkTask} (h : Loaded channelSize channelSize s)
    (positive : 0 < channelSize) :
    execFrom (sinkSystem headerWire channelSize) s overloaded = some (afterRecv s) := by
  have full : (s.sink.inbound .udp).Full := by
    unfold Channel.Full
    rw [h.capacity, h.length]
  have nonempty : (s.sink.inbound .udp).queue ≠ [] := by
    apply List.ne_nil_of_length_pos
    rw [h.length]
    exact positive
  have flush : (stored s).sink.pollFlush = ((stored s).sink, .pending) := by
    simp [stored, StackSplitSink.pollFlush, inboundOf, h.opened, full]
  have polled : sinkStep headerWire (stored s) .pollFlush =
      some { stored s with
        registered := Function.update s.registered .udp true
        control := .dropping .udp
        freed := false } := by
    have running : (stored s).control = .running := h.running
    have waits : (stored s).sink.waitsFor = some .udp := rfl
    simp only [sinkStep, running, Control.mayCall, if_true, flush, SinkTask.called, waits]
    rfl
  rw [overloaded, execFrom_step h.store, execFrom_step polled]
  simp [execFrom, sinkSystem, sinkStep, nonempty, SinkTask.notified, afterRecv, Control.polled,
    h.asleep, stored]

/-- With channels of the default size: 4096 unread datagrams, one more that waits for a slot, and
the task sleeps on although the receiver frees one. -/
theorem full_channel_hangs :
    ∃ s, Runs (sinkSystem headerWire 4096) (load 4096 ++ overloaded) s ∧ Hung s := by
  obtain ⟨s, run, loaded⟩ := load_loaded (le_refl 4096)
  have respects : (s.sink.inbound .udp).queue.length ≤ (s.sink.inbound .udp).capacity := by
    rw [loaded.capacity, loaded.length]
  have nonempty : (s.sink.inbound .udp).queue ≠ [] := by
    apply List.ne_nil_of_length_pos
    rw [loaded.length]
    omega
  refine ⟨afterRecv s, run.exec_from (loaded.overload (by omega)), ⟨.udp, rfl⟩, loaded.asleep,
    .udp, rfl, ?_⟩
  simpa [afterRecv, stored, StackSplitSink.setInbound] using
    Channel.pop_not_full respects nonempty

end Overload
end Ombrac.StackSinkWakeup
