import Mathlib.Logic.Function.Basic
import Ombrac.BoundedChannel
import Ombrac.LabelledSystem
import Ombrac.ProtocolPacket

set_option autoImplicit false

/-!
# The client's UDP dispatcher and its sessions

Sessions are numbered in the order they are opened; a session's id is its number plus one, in 64
bits. A shard's read lock is held while a reference into it lives; a write section (`insert`,
`remove`) is one step, enabled while the shard has no reader, and its caller is blocked until
then. The dispatcher task is the only one that keeps a reference across a wait.
-/
namespace Ombrac.ClientDispatcher
open LabelledSystem ProtocolPacket BoundedChannel

def udpSessionChannelBufferSize : ℕ := 128

abbrev Message := Bytes × Address

/-- Where a session is: `registering` and `dropping` are blocked on the write lock of its shard;
after `unregister_session` the receiver field is still to be dropped. -/
inductive Phase where
  | unopened | registering | live | dropping | unregistered | closed
  deriving DecidableEq, Repr

/-- Where the dispatcher task is: reading a datagram, or in `dispatch` with a reference to the
entry of `sessionId`, sending on it or removing it after a failed send. -/
inductive Task where
  | reading
  | sending (sessionId : UInt64) (session : ℕ) (message : Message)
  | removing (sessionId : UInt64)

structure Dispatcher where
  opened : ℕ
  dispatchMap : UInt64 → Option ℕ
  readers : ℕ → ℕ
  phase : ℕ → Phase
  channel : ℕ → Channel Message
  task : Task

def sessionId (n : ℕ) : UInt64 := (n + 1).toUInt64

namespace Dispatcher

def new : Dispatcher where
  opened := 0
  dispatchMap := fun _ => none
  readers := fun _ => 0
  phase := fun _ => .unopened
  channel := fun _ => .new udpSessionChannelBufferSize
  task := .reading

def setPhase (s : Dispatcher) (n : ℕ) (phase : Phase) : Dispatcher :=
  { s with phase := Function.update s.phase n phase }

def setChannel (s : Dispatcher) (n : ℕ) (channel : Channel Message) : Dispatcher :=
  { s with channel := Function.update s.channel n channel }

def setEntry (s : Dispatcher) (id : UInt64) (entry : Option ℕ) : Dispatcher :=
  { s with dispatchMap := Function.update s.dispatchMap id entry }

def acquireRead (s : Dispatcher) (shard : ℕ) : Dispatcher :=
  { s with readers := Function.update s.readers shard (s.readers shard + 1) }

def releaseRead (s : Dispatcher) (shard : ℕ) : Dispatcher :=
  { s with readers := Function.update s.readers shard (s.readers shard - 1) }

section Fields
variable (s : Dispatcher) (n : ℕ) (phase : Phase) (channel : Channel Message) (id : UInt64)
  (entry : Option ℕ)

@[simp] theorem setPhase_phase :
    (s.setPhase n phase).phase = Function.update s.phase n phase := rfl
@[simp] theorem setPhase_channel : (s.setPhase n phase).channel = s.channel := rfl
@[simp] theorem setPhase_dispatchMap : (s.setPhase n phase).dispatchMap = s.dispatchMap := rfl
@[simp] theorem setPhase_task : (s.setPhase n phase).task = s.task := rfl
@[simp] theorem setChannel_phase : (s.setChannel n channel).phase = s.phase := rfl
@[simp] theorem setChannel_channel :
    (s.setChannel n channel).channel = Function.update s.channel n channel := rfl
@[simp] theorem setChannel_dispatchMap :
    (s.setChannel n channel).dispatchMap = s.dispatchMap := rfl
@[simp] theorem setChannel_task : (s.setChannel n channel).task = s.task := rfl
@[simp] theorem setEntry_phase : (s.setEntry id entry).phase = s.phase := rfl
@[simp] theorem setEntry_channel : (s.setEntry id entry).channel = s.channel := rfl
@[simp] theorem setEntry_dispatchMap :
    (s.setEntry id entry).dispatchMap = Function.update s.dispatchMap id entry := rfl
@[simp] theorem setEntry_task : (s.setEntry id entry).task = s.task := rfl

end Fields
end Dispatcher

inductive Event where
  | openAssociate
  | insert (n : ℕ)
  | recvFrom (n : ℕ)
  | drop (n : ℕ)
  | remove (n : ℕ)
  | dropReceiver (n : ℕ)
  | get (sessionId : UInt64) (message : Message)
  | send
  | removeEntry

/-- `shard` is the map's choice of a shard for a key. -/
def dispatcherStep (shard : UInt64 → ℕ) (s : Dispatcher) : Event → Option Dispatcher
  | .openAssociate => some { s.setPhase s.opened .registering with opened := s.opened + 1 }
  | .insert n =>
    if s.phase n = .registering ∧ s.readers (shard (sessionId n)) = 0 then
      some (((s.setEntry (sessionId n) (some n)).setChannel n
        (.new udpSessionChannelBufferSize)).setPhase n .live)
    else none
  | .recvFrom n =>
    if s.phase n = .live ∧ (s.channel n).queue ≠ [] then
      some (s.setChannel n (s.channel n).pop)
    else none
  | .drop n => if s.phase n = .live then some (s.setPhase n .dropping) else none
  | .remove n =>
    if s.phase n = .dropping ∧ s.readers (shard (sessionId n)) = 0 then
      some ((s.setEntry (sessionId n) none).setPhase n .unregistered)
    else none
  | .dropReceiver n =>
    if s.phase n = .unregistered then
      some ((s.setChannel n (s.channel n).close).setPhase n .closed)
    else none
  | .get id message =>
    match s.task with
    | .reading =>
      match s.dispatchMap id with
      | some n => some { s.acquireRead (shard id) with task := .sending id n message }
      | none => some s
    | _ => none
  | .send =>
    match s.task with
    | .sending id n message =>
      if (s.channel n).closed then some { s with task := .removing id }
      else if (s.channel n).Full then none
      else some { (s.setChannel n ((s.channel n).push message)).releaseRead (shard id) with
        task := .reading }
    | _ => none
  | .removeEntry =>
    match s.task with
    | .removing id =>
      if s.readers (shard id) = 0 then
        some { (s.setEntry id none).releaseRead (shard id) with task := .reading }
      else none
    | _ => none

def dispatcherSystem (shard : UInt64 → ℕ) : System Dispatcher Event :=
  ⟨.new, dispatcherStep shard⟩

/-! ## Deadlock -/

def WaitsForCapacity (s : Dispatcher) (n : ℕ) : Prop :=
  (∃ id message, s.task = .sending id n message) ∧ (s.channel n).closed = false ∧
    (s.channel n).Full

def WaitsForLock (shard : UInt64 → ℕ) (s : Dispatcher) (n : ℕ) : Prop :=
  s.phase n = .dropping ∧ s.readers (shard (sessionId n)) ≠ 0

def Deadlock (shard : UInt64 → ℕ) (s : Dispatcher) : Prop :=
  ∃ n, WaitsForCapacity s n ∧ WaitsForLock shard s n

/-- No session is dropped while `dispatch` waits for its capacity, and `dispatch` takes no
reference to a full session that is already being dropped. -/
def Guarded (s : Dispatcher) : Event → Prop
  | .drop n => ¬ WaitsForCapacity s n
  | .get id _ => ∀ n, s.dispatchMap id = some n → s.phase n = .dropping → ¬ (s.channel n).Full
  | _ => True

def Held (s : Dispatcher) (n : ℕ) : Prop := s.phase n = .live ∨ s.phase n = .dropping

structure Invariant (shard : UInt64 → ℕ) (s : Dispatcher) : Prop where
  fresh : ∀ n, s.opened ≤ n → s.phase n = .unopened
  entry : ∀ id n, s.dispatchMap id = some n → id = sessionId n ∧ Held s n
  receiver : ∀ n, Held s n → (s.channel n).closed = false
  sending : ∀ id n message, s.task = .sending id n message →
    id = sessionId n ∧ Held s n ∧ s.readers (shard id) ≠ 0
  removing : ∀ id, s.task ≠ .removing id

/-! ## The invariant -/

section Step
variable {shard : UInt64 → ℕ} {s u : Dispatcher}

inductive Stepped (shard : UInt64 → ℕ) (s : Dispatcher) : Event → Dispatcher → Prop
  | opened : Stepped shard s .openAssociate
      { s.setPhase s.opened .registering with opened := s.opened + 1 }
  | inserted {n : ℕ} (registering : s.phase n = .registering)
      (free : s.readers (shard (sessionId n)) = 0) :
      Stepped shard s (.insert n) (((s.setEntry (sessionId n) (some n)).setChannel n
        (.new udpSessionChannelBufferSize)).setPhase n .live)
  | received {n : ℕ} (live : s.phase n = .live) (nonempty : (s.channel n).queue ≠ []) :
      Stepped shard s (.recvFrom n) (s.setChannel n (s.channel n).pop)
  | dropped {n : ℕ} (live : s.phase n = .live) :
      Stepped shard s (.drop n) (s.setPhase n .dropping)
  | removed {n : ℕ} (dropping : s.phase n = .dropping)
      (free : s.readers (shard (sessionId n)) = 0) :
      Stepped shard s (.remove n) ((s.setEntry (sessionId n) none).setPhase n .unregistered)
  | closed {n : ℕ} (unregistered : s.phase n = .unregistered) :
      Stepped shard s (.dropReceiver n) ((s.setChannel n (s.channel n).close).setPhase n .closed)
  | found {id : UInt64} {n : ℕ} {message : Message} (reading : s.task = .reading)
      (entry : s.dispatchMap id = some n) :
      Stepped shard s (.get id message)
        { s.acquireRead (shard id) with task := .sending id n message }
  | missing {id : UInt64} {message : Message} (reading : s.task = .reading)
      (entry : s.dispatchMap id = none) : Stepped shard s (.get id message) s
  | failed {id : UInt64} {n : ℕ} {message : Message} (sending : s.task = .sending id n message)
      (closed : (s.channel n).closed = true) :
      Stepped shard s .send { s with task := .removing id }
  | sent {id : UInt64} {n : ℕ} {message : Message} (sending : s.task = .sending id n message)
      (room : ¬ (s.channel n).Full) (opened : (s.channel n).closed = false) :
      Stepped shard s .send { (s.setChannel n ((s.channel n).push message)).releaseRead
        (shard id) with task := .reading }
  | forgotten {id : UInt64} (removing : s.task = .removing id)
      (free : s.readers (shard id) = 0) :
      Stepped shard s .removeEntry
        { (s.setEntry id none).releaseRead (shard id) with task := .reading }

theorem dispatcherStep_stepped {e : Event} (h : dispatcherStep shard s e = some u) :
    Stepped shard s e u := by
  cases e with
  | openAssociate =>
    obtain rfl := Option.some.inj h
    exact .opened
  | insert n =>
    simp only [dispatcherStep] at h
    split_ifs at h with enabled
    obtain rfl := Option.some.inj h
    exact .inserted enabled.1 enabled.2
  | recvFrom n =>
    simp only [dispatcherStep] at h
    split_ifs at h with enabled
    obtain rfl := Option.some.inj h
    exact .received enabled.1 enabled.2
  | drop n =>
    simp only [dispatcherStep] at h
    split_ifs at h with live
    obtain rfl := Option.some.inj h
    exact .dropped live
  | remove n =>
    simp only [dispatcherStep] at h
    split_ifs at h with enabled
    obtain rfl := Option.some.inj h
    exact .removed enabled.1 enabled.2
  | dropReceiver n =>
    simp only [dispatcherStep] at h
    split_ifs at h with unregistered
    obtain rfl := Option.some.inj h
    exact .closed unregistered
  | get id message =>
    simp only [dispatcherStep] at h
    split at h
    · rename_i reading
      split at h
      · rename_i n entry
        obtain rfl := Option.some.inj h
        exact .found reading entry
      · rename_i entry
        obtain rfl := Option.some.inj h
        exact .missing reading entry
    · cases h
  | send =>
    simp only [dispatcherStep] at h
    split at h
    · rename_i id n message sending
      split_ifs at h with closed full
      · obtain rfl := Option.some.inj h
        exact .failed sending closed
      · obtain rfl := Option.some.inj h
        exact .sent sending full (Bool.eq_false_iff.2 closed)
    · cases h
  | removeEntry =>
    simp only [dispatcherStep] at h
    split at h
    · rename_i id removing
      split_ifs at h with free
      obtain rfl := Option.some.inj h
      exact .forgotten removing free
    · cases h

theorem not_held_of_unopened {n : ℕ} (h : s.phase n = .unopened) : ¬ Held s n := by
  rintro (live | dropping)
  · cases h.symm.trans live
  · cases h.symm.trans dropping

/-- A step that changes the phase of `n` alone keeps the other sessions' receivers. -/
theorem held_setPhase_other {n m : ℕ} {phase : Phase} (other : m ≠ n) :
    Held (s.setPhase n phase) m ↔ Held s m := by
  simp [Held, other]

/-- Sessions that are not opened yet stay so when the phase of an opened one changes. -/
theorem Invariant.fresh_setPhase (inv : Invariant shard s) {n : ℕ}
    (opened : s.phase n ≠ .unopened) (phase : Phase) :
    ∀ m, s.opened ≤ m → (s.setPhase n phase).phase m = .unopened := by
  intro m later
  have unopened := inv.fresh m later
  have distinct : m ≠ n := by
    rintro rfl
    exact opened unopened
  simpa [distinct] using unopened

theorem invariant_new : Invariant shard .new := by
  constructor
  · intro n _
    rfl
  · intro id n found
    cases found
  · intro n held
    exact absurd held (not_held_of_unopened rfl)
  · intro id n message task
    cases task
  · intro id task
    cases task

theorem invariant_openAssociate (inv : Invariant shard s) :
    Invariant shard { s.setPhase s.opened .registering with opened := s.opened + 1 } := by
  have unopened := inv.fresh s.opened le_rfl
  have other : ∀ n, Held s n → n ≠ s.opened := by
    rintro n held rfl
    exact not_held_of_unopened unopened held
  have back : ∀ n, Held (s.setPhase s.opened .registering) n → Held s n := by
    intro n held
    by_cases same : n = s.opened
    · subst same
      simp [Held] at held
    · exact (held_setPhase_other same).1 held
  constructor
  · intro n later
    have later : s.opened + 1 ≤ n := later
    have distinct : n ≠ s.opened := by omega
    simpa [distinct] using inv.fresh n (by omega)
  · intro id n found
    obtain ⟨own, held⟩ := inv.entry id n found
    exact ⟨own, (held_setPhase_other (other n held)).2 held⟩
  · intro n held
    exact inv.receiver n (back n held)
  · intro id n message task
    obtain ⟨own, held, locked⟩ := inv.sending id n message task
    exact ⟨own, (held_setPhase_other (other n held)).2 held, locked⟩
  · exact inv.removing

theorem invariant_insert (inv : Invariant shard s) {n : ℕ}
    (registering : s.phase n = .registering) :
    Invariant shard (((s.setEntry (sessionId n) (some n)).setChannel n
      (.new udpSessionChannelBufferSize)).setPhase n .live) := by
  have keep : ∀ m, Held s m → m ≠ n := by
    rintro m (live | dropping) rfl
    · cases registering.symm.trans live
    · cases registering.symm.trans dropping
  constructor
  · exact inv.fresh_setPhase (by simp [registering]) _
  · intro id m found
    by_cases same : id = sessionId n
    · subst same
      obtain rfl : n = m := by simpa using found
      exact ⟨rfl, .inl (by simp)⟩
    · obtain ⟨own, held⟩ := inv.entry id m (by simpa [same] using found)
      exact ⟨own, (held_setPhase_other (keep m held)).2 held⟩
  · intro m held
    by_cases same : m = n
    · subst same
      simp [Channel.new]
    · have before := inv.receiver m ((held_setPhase_other same).1 held)
      simpa [same] using before
  · intro id m message task
    obtain ⟨own, held, locked⟩ := inv.sending id m message task
    exact ⟨own, (held_setPhase_other (keep m held)).2 held, locked⟩
  · exact inv.removing

/-- Replacing a channel by one that is as open as before. -/
theorem Invariant.setChannel (inv : Invariant shard s) (n : ℕ) (channel : Channel Message)
    (same_closed : channel.closed = (s.channel n).closed) :
    Invariant shard (s.setChannel n channel) := by
  refine ⟨inv.fresh, inv.entry, ?_, inv.sending, inv.removing⟩
  intro m held
  by_cases same : m = n
  · subst same
    simpa [same_closed] using inv.receiver m held
  · simpa [same] using inv.receiver m held

theorem invariant_drop (inv : Invariant shard s) {n : ℕ} (live : s.phase n = .live) :
    Invariant shard (s.setPhase n .dropping) := by
  have held_iff : ∀ m, Held (s.setPhase n .dropping) m ↔ Held s m := by
    intro m
    by_cases same : m = n
    · subst same
      simp [Held, live]
    · exact held_setPhase_other same
  constructor
  · exact inv.fresh_setPhase (by simp [live]) _
  · intro id m found
    obtain ⟨own, held⟩ := inv.entry id m found
    exact ⟨own, (held_iff m).2 held⟩
  · intro m held
    exact inv.receiver m ((held_iff m).1 held)
  · intro id m message task
    obtain ⟨own, held, locked⟩ := inv.sending id m message task
    exact ⟨own, (held_iff m).2 held, locked⟩
  · exact inv.removing

/-- The write lock excludes a reference of the dispatcher, so nothing is being sent to `n`. -/
theorem invariant_remove (inv : Invariant shard s) {n : ℕ} (dropping : s.phase n = .dropping)
    (unlocked : s.readers (shard (sessionId n)) = 0) :
    Invariant shard ((s.setEntry (sessionId n) none).setPhase n .unregistered) := by
  constructor
  · exact inv.fresh_setPhase (by simp [dropping]) _
  · intro id m found
    have other : id ≠ sessionId n := by
      rintro rfl
      simp at found
    obtain ⟨own, held⟩ := inv.entry id m (by simpa [other] using found)
    have distinct : m ≠ n := by
      rintro rfl
      exact other own
    exact ⟨own, (held_setPhase_other distinct).2 held⟩
  · intro m held
    have distinct : m ≠ n := by
      rintro rfl
      simp [Held] at held
    exact inv.receiver m ((held_setPhase_other distinct).1 held)
  · intro id m message task
    obtain ⟨own, held, locked⟩ := inv.sending id m message task
    have distinct : m ≠ n := by
      rintro rfl
      exact locked (own ▸ unlocked)
    exact ⟨own, (held_setPhase_other distinct).2 held, locked⟩
  · exact inv.removing

theorem invariant_dropReceiver (inv : Invariant shard s) {n : ℕ}
    (unregistered : s.phase n = .unregistered) :
    Invariant shard ((s.setChannel n (s.channel n).close).setPhase n .closed) := by
  have keep : ∀ m, Held s m → m ≠ n := by
    rintro m (live | dropping) rfl
    · cases unregistered.symm.trans live
    · cases unregistered.symm.trans dropping
  constructor
  · exact inv.fresh_setPhase (by simp [unregistered]) _
  · intro id m found
    obtain ⟨own, held⟩ := inv.entry id m found
    exact ⟨own, (held_setPhase_other (keep m held)).2 held⟩
  · intro m held
    have distinct : m ≠ n := by
      rintro rfl
      simp [Held] at held
    have before := inv.receiver m ((held_setPhase_other distinct).1 held)
    simpa [distinct] using before
  · intro id m message task
    obtain ⟨own, held, locked⟩ := inv.sending id m message task
    exact ⟨own, (held_setPhase_other (keep m held)).2 held, locked⟩
  · exact inv.removing

theorem invariant_get (inv : Invariant shard s) {id : UInt64} {n : ℕ}
    (found : s.dispatchMap id = some n) (message : Message) :
    Invariant shard { s.acquireRead (shard id) with task := .sending id n message } := by
  refine ⟨inv.fresh, inv.entry, inv.receiver, ?_, ?_⟩
  · intro id' m message' task
    obtain ⟨rfl, rfl, rfl⟩ := Task.sending.inj task
    obtain ⟨own, held⟩ := inv.entry id n found
    exact ⟨own, held, by simp [Dispatcher.acquireRead]⟩
  · intro id' task
    cases task

theorem invariant_sent (inv : Invariant shard s) (n r : ℕ) (message : Message) :
    Invariant shard { (s.setChannel n ((s.channel n).push message)).releaseRead r with
      task := .reading } := by
  have pushed := inv.setChannel n ((s.channel n).push message) rfl
  refine ⟨pushed.fresh, pushed.entry, pushed.receiver, ?_, ?_⟩
  · intro id m message' task
    cases task
  · intro id task
    cases task

/-- No send fails: a session is unregistered before its receiver is dropped. -/
theorem Invariant.sending_open (inv : Invariant shard s) {id : UInt64} {n : ℕ} {message : Message}
    (sending : s.task = .sending id n message) : (s.channel n).closed ≠ true := by
  obtain ⟨_, held, _⟩ := inv.sending id n message sending
  exact Bool.eq_false_iff.1 (inv.receiver n held)

theorem dispatcherStep_invariant (inv : Invariant shard s) {e : Event}
    (h : dispatcherStep shard s e = some u) : Invariant shard u := by
  cases dispatcherStep_stepped h with
  | opened => exact invariant_openAssociate inv
  | inserted registering _ => exact invariant_insert inv registering
  | received => exact inv.setChannel _ _ rfl
  | dropped live => exact invariant_drop inv live
  | removed dropping free => exact invariant_remove inv dropping free
  | closed unregistered => exact invariant_dropReceiver inv unregistered
  | found _ entry => exact invariant_get inv entry _
  | missing => exact inv
  | failed sending closed => exact absurd closed (inv.sending_open sending)
  | @sent id n message => exact invariant_sent inv n (shard id) message
  | forgotten removing _ => exact absurd removing (inv.removing _)

/-! ## Which step deadlocks -/

theorem deadlock_of_dropping (inv : Invariant shard s) {n : ℕ} (waits : WaitsForCapacity s n)
    (dropping : s.phase n = .dropping) : Deadlock shard s := by
  obtain ⟨id, message, task⟩ := waits.1
  obtain ⟨own, _, locked⟩ := inv.sending id n message task
  exact ⟨n, waits, dropping, own ▸ locked⟩

/-- A step by which no session starts to wait on the dispatcher, or the dispatcher on it. -/
theorem not_deadlock_of_pull (inv : Invariant shard s) (free : ¬ Deadlock shard s)
    (pull : ∀ n, WaitsForCapacity u n → u.phase n = .dropping →
      WaitsForCapacity s n ∧ s.phase n = .dropping) : ¬ Deadlock shard u := by
  rintro ⟨n, waits, dropping, _⟩
  obtain ⟨before, was⟩ := pull n waits dropping
  exact free (deadlock_of_dropping inv before was)

theorem not_waits_of_reading {n : ℕ} (h : s.task = .reading) : ¬ WaitsForCapacity s n := by
  rintro ⟨⟨id, message, task⟩, _⟩
  cases h.symm.trans task

theorem drop_not_deadlock (inv : Invariant shard s) (free : ¬ Deadlock shard s) {n : ℕ}
    (live : s.phase n = .live) :
    ¬ Deadlock shard (s.setPhase n .dropping) ↔ ¬ WaitsForCapacity s n := by
  refine not_congr ⟨?_, ?_⟩
  · rintro ⟨m, waits, dropping, locked⟩
    by_cases same : m = n
    · exact same ▸ waits
    · refine absurd (deadlock_of_dropping inv waits ?_) free
      simpa [same] using dropping
  · intro waits
    exact deadlock_of_dropping (invariant_drop inv live) waits (by simp)

theorem get_not_deadlock (inv : Invariant shard s) {id : UInt64} {n : ℕ} {message : Message}
    (found : s.dispatchMap id = some n) :
    ¬ Deadlock shard { s.acquireRead (shard id) with task := .sending id n message } ↔
      (s.phase n = .dropping → ¬ (s.channel n).Full) := by
  have next := invariant_get inv found message
  have opened := inv.receiver n (inv.entry id n found).2
  constructor
  · intro free dropping full
    exact free (deadlock_of_dropping next ⟨⟨id, message, rfl⟩, opened, full⟩ dropping)
  · rintro room ⟨m, ⟨⟨id', message', task⟩, _, full⟩, dropping, _⟩
    obtain ⟨_, rfl, _⟩ := Task.sending.inj task
    exact room dropping full

/-- Out of a state without a deadlock, exactly the unguarded steps deadlock. -/
theorem dispatcherStep_deadlock (inv : Invariant shard s) (free : ¬ Deadlock shard s) {e : Event}
    (h : dispatcherStep shard s e = some u) : ¬ Deadlock shard u ↔ Guarded s e := by
  cases dispatcherStep_stepped h with
  | opened =>
    refine iff_of_true (not_deadlock_of_pull inv free ?_) trivial
    intro n waits dropping
    have distinct : n ≠ s.opened := by
      rintro rfl
      simp at dropping
    exact ⟨waits, by simpa [distinct] using dropping⟩
  | @received n live _ =>
    refine iff_of_true (not_deadlock_of_pull inv free ?_) trivial
    intro m waits dropping
    have distinct : m ≠ n := by
      rintro rfl
      cases live.symm.trans dropping
    exact ⟨by simpa [WaitsForCapacity, distinct] using waits, dropping⟩
  | dropped live => exact drop_not_deadlock inv free live
  | @removed n =>
    refine iff_of_true (not_deadlock_of_pull inv free ?_) trivial
    intro m waits dropping
    have distinct : m ≠ n := by
      rintro rfl
      simp at dropping
    exact ⟨waits, by simpa [distinct] using dropping⟩
  | @inserted n | @closed n =>
    refine iff_of_true (not_deadlock_of_pull inv free ?_) trivial
    intro m waits dropping
    have distinct : m ≠ n := by
      rintro rfl
      simp at dropping
    exact ⟨by simpa [WaitsForCapacity, distinct] using waits, by simpa [distinct] using dropping⟩
  | found _ entry => simpa [Guarded, entry] using get_not_deadlock inv entry
  | missing _ entry => exact iff_of_true free (by simp [Guarded, entry])
  | failed sending closed => exact absurd closed (inv.sending_open sending)
  | sent =>
    refine iff_of_true ?_ trivial
    rintro ⟨m, waits, _⟩
    exact not_waits_of_reading rfl waits
  | forgotten removing _ => exact absurd removing (inv.removing _)

/-- Nobody leaves a deadlock: the dispatcher and the session wait for each other for ever. -/
theorem deadlock_stuck {n : ℕ} (waits : WaitsForCapacity s n) (lock : WaitsForLock shard s n)
    {e : Event} (h : dispatcherStep shard s e = some u) (inv : Invariant shard s) :
    WaitsForCapacity u n ∧ WaitsForLock shard u n := by
  obtain ⟨⟨id, message, task⟩, opened, full⟩ := waits
  obtain ⟨dropping, locked⟩ := lock
  have distinct : ∀ m, s.phase m ≠ .dropping → n ≠ m := by
    rintro m other rfl
    exact other dropping
  cases dispatcherStep_stepped h with
  | opened =>
    have other := distinct s.opened (by simp [inv.fresh s.opened le_rfl])
    exact ⟨⟨⟨id, message, task⟩, opened, full⟩, by simpa [other] using dropping, locked⟩
  | @inserted m registering _ =>
    have other := distinct m (by simp [registering])
    exact ⟨⟨⟨id, message, task⟩, by simpa [other] using opened, by simpa [other] using full⟩,
      by simpa [other] using dropping, locked⟩
  | @received m live _ =>
    have other := distinct m (by simp [live])
    exact ⟨⟨⟨id, message, task⟩, by simpa [other] using opened,
      by simpa [other] using full⟩, dropping, locked⟩
  | @dropped m live =>
    have other := distinct m (by simp [live])
    exact ⟨⟨⟨id, message, task⟩, opened, full⟩, by simpa [other] using dropping, locked⟩
  | @removed m _ free =>
    have other : n ≠ m := by
      rintro rfl
      exact locked free
    exact ⟨⟨⟨id, message, task⟩, opened, full⟩, by simpa [other] using dropping, locked⟩
  | @closed m unregistered =>
    have other := distinct m (by simp [unregistered])
    exact ⟨⟨⟨id, message, task⟩, by simpa [other] using opened, by simpa [other] using full⟩,
      by simpa [other] using dropping, locked⟩
  | found reading _ | missing reading _ => cases reading.symm.trans task
  | failed sending closed => exact absurd closed (inv.sending_open sending)
  | sent sending room _ =>
    obtain ⟨_, rfl, _⟩ := Task.sending.inj (sending.symm.trans task)
    exact absurd full room
  | forgotten removing _ => cases removing.symm.trans task

end Step

/-- No run deadlocks exactly when every step it takes is guarded: no session is dropped while
the dispatcher waits for its capacity, and the dispatcher looks up no session that is full and
already being dropped. -/
theorem dispatcher_deadlock_free_iff (shard : UInt64 → ℕ) (es : List Event) :
    (∀ s, Visits (dispatcherSystem shard) es s → ¬ Deadlock shard s) ↔
      ∀ s e u, Takes (dispatcherSystem shard) es s e u → Guarded s e := by
  apply safe_iff_guarded (I := Invariant shard) invariant_new
  · rintro ⟨n, waits, _⟩
    exact not_waits_of_reading rfl waits
  · exact fun _ _ _ inv _ step => dispatcherStep_invariant inv step
  · exact fun _ _ _ inv free step => dispatcherStep_deadlock inv free step

section Overrun

/-- Session 0 is live, nobody has read its `k` datagrams and the dispatcher is idle. -/
structure Filled (k : ℕ) (s : Dispatcher) : Prop where
  reading : s.task = .reading
  live : s.phase 0 = .live
  entry : s.dispatchMap 1 = some 0
  opened : (s.channel 0).closed = false
  capacity : (s.channel 0).capacity = udpSessionChannelBufferSize
  length : (s.channel 0).queue.length = k

def ping : Message := ([7], .domain [100] 53)

def unread (k : ℕ) : List Event :=
  [.openAssociate, .insert 0] ++ (List.replicate k [.get 1 ping, .send]).flatten

def afterGet (s : Dispatcher) (shard : ℕ) : Dispatcher :=
  { s.acquireRead shard with task := .sending 1 0 ping }

theorem Filled.got {k : ℕ} {s : Dispatcher} (h : Filled k s) (shard : UInt64 → ℕ) :
    dispatcherStep shard s (.get 1 ping) = some (afterGet s (shard 1)) := by
  simp [dispatcherStep, h.reading, h.entry, afterGet]

/-- The dispatcher sends a datagram without waiting while the channel has room. -/
theorem Filled.dispatched {k : ℕ} {s : Dispatcher} (h : Filled k s) (shard : UInt64 → ℕ)
    (room : k < udpSessionChannelBufferSize) :
    ∃ u, execFrom (dispatcherSystem shard) s [.get 1 ping, .send] = some u ∧
      Filled (k + 1) u := by
  have not_full : ¬ (s.channel 0).Full := by
    unfold Channel.Full
    rw [h.capacity, h.length]
    omega
  have sent : dispatcherStep shard (afterGet s (shard 1)) .send =
      some { ((afterGet s (shard 1)).setChannel 0 ((s.channel 0).push ping)).releaseRead
        (shard 1) with task := .reading } := by
    simp only [dispatcherStep, afterGet, Dispatcher.acquireRead, h.opened, not_full,
      Bool.false_eq_true, if_false]
  refine ⟨_, by simp only [execFrom, dispatcherSystem, h.got, sent, Option.bind_some]; rfl, ?_⟩
  constructor
  · rfl
  · exact h.live
  · exact h.entry
  · change (Function.update s.channel 0 ((s.channel 0).push ping) 0).closed = false
    simpa using h.opened
  · change (Function.update s.channel 0 ((s.channel 0).push ping) 0).capacity = _
    simpa using h.capacity
  · change (Function.update s.channel 0 ((s.channel 0).push ping) 0).queue.length = _
    simp [Channel.push, h.length]

theorem unread_filled (shard : UInt64 → ℕ) {k : ℕ} (room : k ≤ udpSessionChannelBufferSize) :
    ∃ s, Runs (dispatcherSystem shard) (unread k) s ∧ Filled k s := by
  induction k with
  | zero =>
    have start : exec (dispatcherSystem shard) (unread 0) = some _ := rfl
    refine ⟨_, runs_of_exec start, ?_⟩
    constructor <;> rfl
  | succ k ih =>
    obtain ⟨s, run, filled⟩ := ih (by omega)
    obtain ⟨u, sent, next⟩ := filled.dispatched shard (by omega)
    have events : unread (k + 1) = unread k ++ [.get 1 ping, .send] := by
      simp [unread, List.replicate_succ']
    exact ⟨u, events ▸ run.exec_from sent, next⟩

/-- A session whose 128 slots are unread is dropped while a 129th datagram waits for a slot. -/
theorem dropped_full_session_deadlocks :
    ∃ s, Runs (dispatcherSystem fun _ => 0)
      (unread udpSessionChannelBufferSize ++ [.get 1 ping, .drop 0]) s ∧
        Deadlock (fun _ => 0) s := by
  obtain ⟨s, run, filled⟩ := unread_filled (fun _ => 0) (le_refl udpSessionChannelBufferSize)
  have full : (s.channel 0).Full := by
    unfold Channel.Full
    rw [filled.capacity, filled.length]
  have dropped : dispatcherStep (fun _ => 0) (afterGet s 0) (.drop 0) =
      some ((afterGet s 0).setPhase 0 .dropping) := if_pos filled.live
  have steps : execFrom (dispatcherSystem fun _ => 0) s [.get 1 ping, .drop 0] =
      some ((afterGet s 0).setPhase 0 .dropping) := by
    simp only [execFrom, dispatcherSystem, filled.got, dropped, Option.bind_some]
  refine ⟨_, run.exec_from steps, 0, ⟨⟨1, ping, rfl⟩, filled.opened, full⟩, ?_, ?_⟩
  · simp
  · simp [Dispatcher.setPhase, afterGet, Dispatcher.acquireRead]

end Overrun
end Ombrac.ClientDispatcher
