import Ombrac.ListUpdates
import Ombrac.TunUdpLoop

set_option autoImplicit false

/-!
# The session table of the TUN's UDP flows

The packet loop keeps the entry of a flow, and with it the lock of the entry's shard, while it
waits for room in the flow's channel; the flow needs that lock to remove its entry when it ends.
-/
namespace Ombrac.TunUdpDeadlock
open LabelledSystem ListUpdates BoundedChannel StackPacket StackSink TunAddress TunUdpLoop
open ProtocolPacket hiding UdpPacket

/-- The loop waits for room in the channel of flow `i`. -/
def WaitsForCapacity (t : TunUdp) (i : ℕ) : Prop :=
  ∃ packet message flow, t.task = .sending packet i message ∧ t.flows[i]? = some flow ∧
    flow.receiver.closed = false ∧ flow.receiver.Full

def WaitsForLock (shard : SocketAddr → ℕ) (t : TunUdp) (i : ℕ) : Prop :=
  ∃ flow, t.flows[i]? = some flow ∧ flow.phase = .ending ∧ t.locked shard flow.localAddr

def Deadlock (shard : SocketAddr → ℕ) (t : TunUdp) : Prop :=
  ∃ i, WaitsForCapacity t i ∧ WaitsForLock shard t i

def sendTarget (config : TunConfig) (cached : Option Bytes) (packet : UdpPacket) :
    Option Address :=
  match actionFor config packet with
  | .dnsQuery | .skip443 => none
  | .data => (targetAddr config cached packet.dstAddr).filter fun target =>
      ¬ shouldSkipAddress target

/-- No flow leaves its loop while the packet loop waits for room in its channel, and the packet
loop takes up no packet for a flow that has left its loop with a full channel. -/
def Guarded (config : TunConfig) (t : TunUdp) : Event → Prop
  | .idle i => ¬ WaitsForCapacity t i
  | .response i _ _ written => ∀ flow, t.flows[i]? = some flow →
      (sameFamily flow.fakeRemoteAddr flow.localAddr && written) = false → ¬ WaitsForCapacity t i
  | .handle cached => ∀ packet i flow, t.task = .handling packet →
      (sendTarget config cached packet).isSome = true → t.sessions packet.srcAddr = some i →
      t.flows[i]? = some flow → flow.phase = .ending → ¬ flow.receiver.Full
  | _ => True

def Held (flow : Flow) : Prop := flow.phase = .running ∨ flow.phase = .ending

structure Table (t : TunUdp) : Prop where
  entry : ∀ a i, t.sessions a = some i →
    ∃ flow, t.flows[i]? = some flow ∧ flow.localAddr = a ∧ Held flow
  held : ∀ (i : ℕ) (flow : Flow), t.flows[i]? = some flow → Held flow →
    t.sessions flow.localAddr = some i ∧ flow.receiver.closed = false
  sending : ∀ packet i message, t.task = .sending packet i message →
    t.sessions packet.srcAddr = some i

section Flows
variable {t : TunUdp} {i : ℕ} {flow flow' : Flow}

theorem setFlow_self (found : t.flows[i]? = some flow) :
    (t.setFlow i flow').flows[i]? = some flow' := by
  obtain ⟨bound, _⟩ := List.getElem?_eq_some_iff.1 found
  change (t.flows.set i flow')[i]? = some flow'
  rw [List.getElem?_set_self bound]

theorem setFlow_other {j : ℕ} (other : j ≠ i) :
    (t.setFlow i flow').flows[j]? = t.flows[j]? := by
  change (t.flows.set i flow')[j]? = t.flows[j]?
  rw [List.getElem?_set_ne other.symm]

end Flows

/-! ## The table along a run -/

section Step
variable {wire : Wire} {config : TunConfig} {shard : SocketAddr → ℕ} {t u : TunUdp}

theorem table_new (channelSize : ℕ) : Table (.new channelSize) where
  entry a i h := by cases h
  held i flow h := by cases h
  sending packet i message h := by cases h

/-- A step that changes neither the table nor the flows. -/
theorem Table.same (inv : Table t) (sessions : u.sessions = t.sessions) (flows : u.flows = t.flows)
    (sending : ∀ packet i message, u.task = .sending packet i message →
      t.task = .sending packet i message ∨ t.sessions packet.srcAddr = some i) : Table u where
  entry a i h := by
    rw [flows]
    exact inv.entry a i (sessions ▸ h)
  held i flow found kept := by
    rw [sessions]
    exact inv.held i flow (flows ▸ found) kept
  sending packet i message task := by
    rw [sessions]
    rcases sending packet i message task with before | entry
    · exact inv.sending packet i message before
    · exact entry

/-- A flow that keeps its entry. -/
theorem Table.setFlow (inv : Table t) {i : ℕ} {flow : Flow} (found : t.flows[i]? = some flow)
    (flow' : Flow) (held : Held flow) (held' : Held flow')
    (localAddr : flow'.localAddr = flow.localAddr)
    (closed : flow'.receiver.closed = flow.receiver.closed) : Table (t.setFlow i flow') where
  entry a j h := by
    by_cases same : j = i
    · subst same
      obtain ⟨other, found', own, _⟩ := inv.entry a j h
      obtain rfl : flow = other := Option.some.inj (found.symm.trans found')
      exact ⟨flow', setFlow_self found, localAddr.trans own, held'⟩
    · rw [setFlow_other same]
      exact inv.entry a j h
  held j other found' kept := by
    by_cases same : j = i
    · subst same
      obtain rfl : flow' = other := Option.some.inj ((setFlow_self found).symm.trans found')
      obtain ⟨entry, opened⟩ := inv.held j flow found held
      exact ⟨localAddr ▸ entry, closed.trans opened⟩
    · exact inv.held j other ((setFlow_other same).symm.trans found') kept
  sending := inv.sending

theorem Table.spawn (inv : Table t) {packet : UdpPacket} (vacant : t.sessions packet.srcAddr = none)
    (idle : ∀ p i message, t.task ≠ .sending p i message) (target : Address) :
    Table (t.spawnFlow config packet target) where
  entry a i h := by
    change Function.update t.sessions packet.srcAddr (some t.flows.length) a = some i at h
    obtain ⟨rfl, rfl⟩ | ⟨_, before⟩ := update_some_eq_some h
    · exact ⟨_, List.getElem?_concat_length, rfl, .inl rfl⟩
    · obtain ⟨flow, found, same, kept⟩ := inv.entry a i before
      obtain ⟨bound, _⟩ := List.getElem?_eq_some_iff.1 found
      exact ⟨flow, (List.getElem?_append_left bound).trans found, same, kept⟩
  held i flow found kept := by
    change Function.update t.sessions packet.srcAddr (some t.flows.length) flow.localAddr = some i ∧ _
    rcases getElem?_concat_eq_some found with old | ⟨rfl, rfl⟩
    · obtain ⟨entry, opened⟩ := inv.held i flow old kept
      have other : flow.localAddr ≠ packet.srcAddr := by
        intro same
        rw [same, vacant] at entry
        cases entry
      exact ⟨(Function.update_of_ne other ..).trans entry, opened⟩
    · exact ⟨Function.update_self .., rfl⟩
  sending p i message task := absurd task (idle p i message)

theorem Table.remove (inv : Table t) {i : ℕ} {flow : Flow} (found : t.flows[i]? = some flow)
    (ending : flow.phase = .ending) (free : ¬ t.locked shard flow.localAddr) :
    Table ({ t with sessions := Function.update t.sessions flow.localAddr none }.setFlow i
      { flow with phase := .removed }) where
  entry a j h := by
    change Function.update t.sessions flow.localAddr none a = some j at h
    obtain ⟨own, before⟩ := update_none_eq_some h
    obtain ⟨other, there, same, kept⟩ := inv.entry a j before
    have ne : j ≠ i := by
      rintro rfl
      obtain rfl : flow = other := Option.some.inj (found.symm.trans there)
      exact own same.symm
    exact ⟨other, (setFlow_other ne).trans there, same, kept⟩
  held j other there kept := by
    rcases getElem?_set_eq_some there with ⟨rfl, rfl⟩ | ⟨ne, before⟩
    · rcases kept with h | h <;> cases h
    · obtain ⟨entry, opened⟩ := inv.held j other before kept
      refine ⟨?_, opened⟩
      change Function.update t.sessions flow.localAddr none other.localAddr = some j
      rw [Function.update_of_ne, entry]
      intro same
      rw [same, (inv.held i flow found (.inr ending)).1] at entry
      exact ne (Option.some.inj entry).symm
  sending packet j message task := by
    have entry := inv.sending packet j message task
    change Function.update t.sessions flow.localAddr none packet.srcAddr = some j
    rw [Function.update_of_ne, entry]
    intro same
    refine free ?_
    change t.task = _ at task
    rw [TunUdp.locked, task, ← same]

theorem Table.finish (inv : Table t) {i : ℕ} {flow : Flow} (found : t.flows[i]? = some flow)
    (removed : flow.phase = .removed) :
    Table (t.setFlow i { flow with phase := .closed, receiver := flow.receiver.close }) where
  entry a j h := by
    obtain ⟨other, there, own, kept⟩ := inv.entry a j h
    have ne : j ≠ i := by
      rintro rfl
      obtain rfl : flow = other := Option.some.inj (found.symm.trans there)
      rcases kept with h | h <;> cases removed.symm.trans h
    exact ⟨other, (setFlow_other ne).trans there, own, kept⟩
  held j other there kept := by
    rcases getElem?_set_eq_some there with ⟨rfl, rfl⟩ | ⟨_, before⟩
    · rcases kept with h | h <;> cases h
    · exact inv.held j other before kept
  sending := inv.sending

/-- The loop is done with the packet, has spawned a flow for it, or waits with the entry of the
packet's flow. -/
theorem data_cases (t : TunUdp) (cached : Option Bytes) {packet : UdpPacket}
    (data : actionFor config packet = .data) :
    let u := (t.ask config packet).handleUdpDataPacket config cached packet
    (u.sessions = t.sessions ∧ u.flows = t.flows ∧ u.task = .selecting ∧
        ((sendTarget config cached packet).isSome = true → t.sessions packet.srcAddr = none)) ∨
      (∃ target, t.sessions packet.srcAddr = none ∧
        u = ((t.ask config packet).spawnFlow config packet target).done packet) ∨
      ∃ i message, t.sessions packet.srcAddr = some i ∧
        (sendTarget config cached packet).isSome = true ∧ u.sessions = t.sessions ∧
        u.flows = t.flows ∧ u.task = .sending packet i message := by
  obtain ⟨sessions, flows, _⟩ := ask_same config t packet
  unfold TunUdp.handleUdpDataPacket
  split
  · rename_i none'
    exact .inl ⟨sessions, flows, rfl, by simp [sendTarget, data, none']⟩
  · rename_i target some'
    split_ifs with skip
    · exact .inl ⟨sessions, flows, rfl, by simp [sendTarget, data, some', skip]⟩
    · have sent : (sendTarget config cached packet).isSome = true := by
        simp [sendTarget, data, some', skip]
      split
      · rename_i i entry
        rw [sessions] at entry
        exact .inr (.inr ⟨i, _, entry, sent, sessions, flows, rfl⟩)
      · rename_i vacant
        rw [sessions] at vacant
        exact .inr (.inl ⟨target, vacant, rfl⟩)

theorem data_table (inv : Table t) {cached : Option Bytes} {packet : UdpPacket}
    (handling : t.task = .handling packet) (data : actionFor config packet = .data) :
    Table ((t.ask config packet).handleUdpDataPacket config cached packet) := by
  rcases data_cases t cached data with ⟨sessions, flows, task, _⟩ |
    ⟨target, vacant, spawned⟩ | ⟨i, message, entry, _, sessions, flows, task⟩
  · exact inv.same sessions flows fun _ _ _ sending => by cases task.symm.trans sending
  · rw [spawned]
    obtain ⟨sessions, flows, task⟩ := ask_same config t packet
    have asked : Table (t.ask config packet) :=
      inv.same sessions flows fun _ _ _ sending => .inl (task ▸ sending)
    have spawned : Table ((t.ask config packet).spawnFlow config packet target) :=
      asked.spawn (by rw [sessions]; exact vacant)
        (fun _ _ _ sending => by cases (task ▸ handling).symm.trans sending) target
    exact spawned.same rfl rfl fun _ _ _ sending => by cases sending
  · refine inv.same sessions flows fun p j m sending => .inr ?_
    obtain ⟨rfl, rfl, rfl⟩ := Task.sending.inj (task.symm.trans sending)
    exact entry

theorem flowStepped_table (inv : Table t) {e : Event} (step : FlowStepped shard t e u) :
    Table u := by
  cases step with
  | received found running =>
    exact inv.setFlow found _ (.inl running) (.inl running) rfl rfl
  | injected => exact inv.same rfl rfl fun _ _ _ task => .inl task
  | refused found running | idled found running =>
    exact inv.setFlow found _ (.inl running) (.inr rfl) rfl rfl
  | removed found ending free => exact inv.remove found ending free
  | finished found removed => exact inv.finish found removed

theorem tunUdpStep_table (inv : Table t) {e : Event}
    (h : tunUdpStep wire config shard t e = some u) : Table u := by
  cases tunUdpStep_stepped h with
  | flow step => exact flowStepped_table inv step
  | pushed | sendersClosed | cancelled => exact inv.same rfl rfl fun _ _ _ task => .inl task
  | observed | drained | rejected | took =>
    exact inv.same rfl rfl fun _ _ _ task => by cases task
  | @skipped packet =>
    obtain ⟨sessions, flows, _⟩ := ask_same config t packet
    exact inv.same sessions flows fun _ _ _ task => by cases task
  | data handling data => exact data_table inv handling data
  | @expired packet i message flow sending found closed =>
    obtain ⟨other, there, _, kept⟩ := inv.entry _ _ (inv.sending packet i message sending)
    obtain rfl : flow = other := Option.some.inj (found.symm.trans there)
    cases (inv.held i flow found kept).2.symm.trans closed
  | @delivered packet i message flow sending found room =>
    obtain ⟨other, there, _, kept⟩ := inv.entry _ _ (inv.sending packet i message sending)
    obtain rfl : flow = other := Option.some.inj (found.symm.trans there)
    have pushed := inv.setFlow found { flow with receiver := flow.receiver.push message } kept
      kept rfl rfl
    exact pushed.same rfl rfl fun _ _ _ task => by cases task

/-! ## Which step deadlocks -/

def Ending (t : TunUdp) (i : ℕ) : Prop := ∃ flow, t.flows[i]? = some flow ∧ flow.phase = .ending

theorem deadlock_of_ending (inv : Table t) {i : ℕ} (waits : WaitsForCapacity t i)
    (ending : Ending t i) : Deadlock shard t := by
  obtain ⟨flow, found, phase⟩ := ending
  refine ⟨i, waits, flow, found, phase, ?_⟩
  obtain ⟨packet, message, _, task, _⟩ := waits
  obtain ⟨other, there, own, _⟩ := inv.entry _ _ (inv.sending packet i message task)
  obtain rfl : flow = other := Option.some.inj (found.symm.trans there)
  rw [TunUdp.locked, task, own]

theorem Deadlock.ending (dead : Deadlock shard t) : ∃ i, WaitsForCapacity t i ∧ Ending t i := by
  obtain ⟨i, waits, flow, found, phase, _⟩ := dead
  exact ⟨i, waits, flow, found, phase⟩

/-- A step by which no flow starts to wait on the loop, or the loop on it. -/
theorem not_deadlock_of_pull (inv : Table t) (free : ¬ Deadlock shard t)
    (pull : ∀ i, WaitsForCapacity u i → Ending u i → WaitsForCapacity t i ∧ Ending t i) :
    ¬ Deadlock shard u := by
  intro dead
  obtain ⟨i, waits, ending⟩ := dead.ending
  obtain ⟨before, was⟩ := pull i waits ending
  exact free (deadlock_of_ending inv before was)

theorem not_deadlock_of_idle (idle : ∀ packet i message, u.task ≠ .sending packet i message) :
    ¬ Deadlock shard u := by
  rintro ⟨i, ⟨packet, message, _, task, _⟩, _⟩
  exact idle packet i message task

theorem waits_setFlow_other {i j : ℕ} {flow : Flow} (other : j ≠ i) :
    WaitsForCapacity (t.setFlow i flow) j ↔ WaitsForCapacity t j := by
  simp only [WaitsForCapacity, setFlow_other other]
  rfl

theorem waits_setFlow_self {i : ℕ} {flow flow' : Flow} (found : t.flows[i]? = some flow)
    (receiver : flow'.receiver = flow.receiver) :
    WaitsForCapacity (t.setFlow i flow') i ↔ WaitsForCapacity t i := by
  constructor
  · rintro ⟨packet, message, other, task, there, opened, full⟩
    obtain rfl := Option.some.inj ((setFlow_self found).symm.trans there)
    rw [receiver] at opened full
    exact ⟨packet, message, flow, task, found, opened, full⟩
  · rintro ⟨packet, message, other, task, there, opened, full⟩
    obtain rfl := Option.some.inj (found.symm.trans there)
    rw [← receiver] at opened full
    exact ⟨packet, message, flow', task, setFlow_self found, opened, full⟩

theorem ending_setFlow_other {i j : ℕ} {flow : Flow} (other : j ≠ i) :
    Ending (t.setFlow i flow) j ↔ Ending t j := by
  simp only [Ending, setFlow_other other]

/-- A flow that changes and has not left its loop, or is past its entry. -/
theorem setFlow_not_deadlock (inv : Table t) (free : ¬ Deadlock shard t) {i : ℕ}
    {flow flow' : Flow} (found : t.flows[i]? = some flow) (phase : flow'.phase ≠ .ending) :
    ¬ Deadlock shard (t.setFlow i flow') := by
  refine not_deadlock_of_pull inv free fun j waits ending => ?_
  have other : j ≠ i := by
    rintro rfl
    obtain ⟨last, there, ends⟩ := ending
    obtain rfl := Option.some.inj ((setFlow_self found).symm.trans there)
    exact phase ends
  exact ⟨(waits_setFlow_other other).1 waits, (ending_setFlow_other other).1 ending⟩

/-- A flow leaves its loop. -/
theorem leave_not_deadlock (inv : Table t) (free : ¬ Deadlock shard t) {i : ℕ} {flow : Flow}
    (found : t.flows[i]? = some flow) (running : flow.phase = .running) :
    ¬ Deadlock shard (t.setFlow i { flow with phase := .ending }) ↔ ¬ WaitsForCapacity t i := by
  have next : Table (t.setFlow i { flow with phase := .ending }) :=
    inv.setFlow found _ (.inl running) (.inr rfl) rfl rfl
  have same_waits : WaitsForCapacity (t.setFlow i { flow with phase := .ending }) i ↔
      WaitsForCapacity t i := waits_setFlow_self found rfl
  constructor
  · intro free' waits
    exact free' (deadlock_of_ending next (same_waits.2 waits) ⟨_, setFlow_self found, rfl⟩)
  · intro idle
    refine not_deadlock_of_pull inv free fun j waits ending => ?_
    by_cases same : j = i
    · subst same
      exact absurd (same_waits.1 waits) idle
    · exact ⟨(waits_setFlow_other same).1 waits, (ending_setFlow_other same).1 ending⟩

/-- The loop takes up a packet for the flow with the entry `i`. -/
theorem take_not_deadlock (inv : Table t) (next : Table u) {packet : UdpPacket} {i : ℕ}
    {message : Bytes × Address} (entry : t.sessions packet.srcAddr = some i)
    (flows : u.flows = t.flows) (task : u.task = .sending packet i message) :
    ¬ Deadlock shard u ↔ ∀ flow, t.flows[i]? = some flow → flow.phase = .ending →
      ¬ flow.receiver.Full := by
  obtain ⟨own, there, _, kept⟩ := inv.entry _ _ entry
  have opened := (inv.held i own there kept).2
  constructor
  · intro free flow found ending full
    obtain rfl : own = flow := Option.some.inj (there.symm.trans found)
    exact free (deadlock_of_ending next
      ⟨packet, message, own, task, flows ▸ there, opened, full⟩ ⟨own, flows ▸ there, ending⟩)
  · intro room dead
    obtain ⟨j, ⟨_, _, flow, task', found, _, full⟩, ⟨flow', found', ending⟩⟩ := dead.ending
    obtain ⟨_, rfl, _⟩ := Task.sending.inj (task.symm.trans task')
    obtain rfl := Option.some.inj (found.symm.trans found')
    exact room flow (flows ▸ found) ending full

theorem data_deadlock (inv : Table t) {cached : Option Bytes} {packet : UdpPacket}
    (handling : t.task = .handling packet) (data : actionFor config packet = .data) :
    ¬ Deadlock shard ((t.ask config packet).handleUdpDataPacket config cached packet) ↔
      Guarded config t (.handle cached) := by
  have next : Table ((t.ask config packet).handleUdpDataPacket config cached packet) :=
    data_table inv handling data
  rcases data_cases t cached data with ⟨_, _, task, unsent⟩ |
    ⟨target, vacant, spawned⟩ | ⟨i, message, entry, sent, sessions, flows, task⟩
  · refine iff_of_true (not_deadlock_of_idle fun _ _ _ sending => ?_) ?_
    · cases task.symm.trans sending
    · intro other i flow handling' sends entry
      obtain rfl := Task.handling.inj (handling.symm.trans handling')
      cases (unsent sends).symm.trans entry
  · rw [spawned]
    refine iff_of_true (not_deadlock_of_idle fun _ _ _ sending => by cases sending) ?_
    intro other i flow handling' _ entry
    obtain rfl := Task.handling.inj (handling.symm.trans handling')
    cases vacant.symm.trans entry
  · rw [take_not_deadlock inv next entry flows task]
    constructor
    · intro room other j flow handling' _ entry' found
      obtain rfl := Task.handling.inj (handling.symm.trans handling')
      obtain rfl := Option.some.inj (entry.symm.trans entry')
      exact room flow found
    · intro guard flow found
      exact guard packet i flow handling sent entry found

theorem flowStepped_deadlock (inv : Table t) (free : ¬ Deadlock shard t) {e : Event}
    (step : FlowStepped shard t e u) : ¬ Deadlock shard u ↔ Guarded config t e := by
  cases step with
  | received found running =>
    exact iff_of_true (setFlow_not_deadlock inv free found (by simp [running])) trivial
  | @injected i flow data source written found running accepted =>
    refine iff_of_true (not_deadlock_of_pull inv free fun _ waits ending => ⟨waits, ending⟩) ?_
    intro other there failed
    obtain rfl := Option.some.inj (found.symm.trans there)
    cases accepted.symm.trans failed
  | @refused i flow data source written found running refused =>
    rw [leave_not_deadlock inv free found running]
    exact ⟨fun idle _ _ _ => idle, fun guard => guard flow found refused⟩
  | idled found running => exact leave_not_deadlock inv free found running
  | @removed i flow found ending unlocked =>
    refine iff_of_true (not_deadlock_of_pull inv free fun j waits ending => ?_) trivial
    have other : j ≠ i := by
      rintro rfl
      obtain ⟨last, there, ends⟩ := ending
      obtain rfl := Option.some.inj ((setFlow_self found).symm.trans there)
      cases ends
    exact ⟨(waits_setFlow_other other).1 waits, (ending_setFlow_other other).1 ending⟩
  | finished found removed =>
    exact iff_of_true (setFlow_not_deadlock inv free found (by simp)) trivial

/-- Out of a state without a deadlock, exactly the unguarded steps deadlock. -/
theorem tunUdpStep_deadlock (inv : Table t) (free : ¬ Deadlock shard t) {e : Event}
    (h : tunUdpStep wire config shard t e = some u) : ¬ Deadlock shard u ↔ Guarded config t e := by
  cases tunUdpStep_stepped h with
  | flow step => exact flowStepped_deadlock inv free step
  | pushed | sendersClosed | cancelled =>
    exact iff_of_true (not_deadlock_of_pull inv free fun _ waits ending => ⟨waits, ending⟩) trivial
  | observed | drained | rejected | took | expired | delivered =>
    exact iff_of_true (not_deadlock_of_idle fun _ _ _ task => by cases task) trivial
  | @skipped packet cached handling skip =>
    refine iff_of_true (not_deadlock_of_idle fun _ _ _ task => by cases task) ?_
    intro other i flow handling' sends
    obtain rfl := Task.handling.inj (handling.symm.trans handling')
    rcases skip with query | quic
    · simp [sendTarget, query] at sends
    · simp [sendTarget, quic] at sends
  | data handling data => exact data_deadlock inv handling data

/-- The loop and the flow wait for each other for ever. -/
theorem deadlock_stuck {i : ℕ} (waits : WaitsForCapacity t i) (lock : WaitsForLock shard t i)
    {e : Event} (h : tunUdpStep wire config shard t e = some u) :
    WaitsForCapacity u i ∧ WaitsForLock shard u i := by
  obtain ⟨packet, message, flow, task, found, opened, full⟩ := waits
  obtain ⟨flow', found', ending, locked⟩ := lock
  obtain rfl : flow = flow' := Option.some.inj (found.symm.trans found')
  have kept : u.task = t.task → u.flows[i]? = t.flows[i]? →
      WaitsForCapacity u i ∧ WaitsForLock shard u i := by
    intro same_task same_flow
    refine ⟨⟨packet, message, flow, same_task.trans task, same_flow.trans found, opened, full⟩,
      flow, same_flow.trans found, ending, ?_⟩
    rw [TunUdp.locked, task] at locked
    rw [TunUdp.locked, same_task, task]
    exact locked
  have other : ∀ {j : ℕ} {flow' : Flow}, t.flows[j]? = some flow' → flow'.phase ≠ .ending →
      i ≠ j := by
    rintro j flow' there running rfl
    obtain rfl : flow = flow' := Option.some.inj (found.symm.trans there)
    exact running ending
  cases tunUdpStep_stepped h with
  | flow step =>
    cases step with
    | received there running => exact kept rfl (setFlow_other (other there (by simp [running])))
    | refused there running => exact kept rfl (setFlow_other (other there (by simp [running])))
    | idled there running => exact kept rfl (setFlow_other (other there (by simp [running])))
    | finished there removed => exact kept rfl (setFlow_other (other there (by simp [removed])))
    | injected => exact kept rfl rfl
    | @removed j flow' there ends free =>
      refine kept rfl (setFlow_other ?_)
      rintro rfl
      obtain rfl : flow = flow' := Option.some.inj (found.symm.trans there)
      exact free locked
  | pushed | sendersClosed | cancelled => exact kept rfl rfl
  | observed selecting | drained selecting | rejected selecting | took selecting =>
    cases task.symm.trans selecting
  | skipped handling | data handling => cases task.symm.trans handling
  | expired sending there closed =>
    obtain ⟨rfl, rfl, rfl⟩ := Task.sending.inj (task.symm.trans sending)
    obtain rfl := Option.some.inj (found.symm.trans there)
    cases opened.symm.trans closed
  | delivered sending there room =>
    obtain ⟨rfl, rfl, rfl⟩ := Task.sending.inj (task.symm.trans sending)
    obtain rfl := Option.some.inj (found.symm.trans there)
    exact absurd full room

end Step

/-- No run deadlocks exactly when every step it takes is guarded. -/
theorem session_table_deadlock_free_iff (wire : Wire) (config : TunConfig)
    (shard : SocketAddr → ℕ) (channelSize : ℕ) (es : List Event) :
    (∀ t, Visits (tunUdpSystem wire config shard channelSize) es t → ¬ Deadlock shard t) ↔
      ∀ t e u, Takes (tunUdpSystem wire config shard channelSize) es t e u →
        Guarded config t e := by
  apply safe_iff_guarded (I := Table) (table_new channelSize)
  · exact not_deadlock_of_idle fun _ _ _ task => by cases task
  · exact fun _ _ _ inv _ step => tunUdpStep_table inv step
  · exact fun _ _ _ inv free step => tunUdpStep_deadlock inv free step

def toRemote : Bytes :=
  [69, 0, 0, 29, 0, 0, 0, 0, 64, 17, 0, 0, 10, 0, 0, 1, 8, 8, 8, 8, 3, 232, 7, 208, 0, 9, 0, 0, 1]

def idleWhileSending : List Event :=
  [.push toRemote, .recv, .handle none, .push toRemote, .recv, .handle none, .idle 0]

theorem idle_flow_deadlocks : ∃ t,
    Runs (tunUdpSystem headerWire ⟨defaultFakednsCidr, 1, false⟩ (fun _ => 0) 4096)
      idleWhileSending t ∧ Deadlock (fun _ => 0) t := by
  have run : exec (tunUdpSystem headerWire ⟨defaultFakednsCidr, 1, false⟩ (fun _ => 0) 4096)
    idleWhileSending = some _ := rfl
  refine ⟨_, runs_of_exec run, 0, ?_, ?_⟩
  · exact ⟨_, _, _, rfl, rfl, rfl, by decide⟩
  · exact ⟨_, rfl, rfl, rfl⟩

end Ombrac.TunUdpDeadlock
