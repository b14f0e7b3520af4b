import Ombrac.TunUdpDeadlock

set_option autoImplicit false

/-!
# One UDP flow for each local address

The entry of a local address goes away in two places: a flow that ends removes whatever stands
under its address, and the packet loop removes an entry whose receiver is gone. A flow drops its
receiver after its remove.
-/
namespace Ombrac.TunUdpSingleFlow
open LabelledSystem StackPacket TunAddress TunUdpLoop TunUdpDeadlock
open ProtocolPacket hiding UdpPacket

def BeforeRemove (flow : Flow) : Prop := flow.phase ≠ .removed ∧ flow.phase ≠ .closed

/-- The flows of one local address that have not removed its entry are one flow, and the entry is
that of such a flow. -/
structure OneFlow (t : TunUdp) : Prop where
  single : ∀ (i j : ℕ) (flow flow' : Flow), t.flows[i]? = some flow → t.flows[j]? = some flow' →
    BeforeRemove flow → BeforeRemove flow' → flow.localAddr = flow'.localAddr → i = j
  entry : ∀ localAddr i, t.sessions localAddr = some i →
    ∃ flow, t.flows[i]? = some flow ∧ flow.localAddr = localAddr ∧ BeforeRemove flow

theorem held_iff {flow : Flow} : Held flow ↔ BeforeRemove flow := by
  unfold Held BeforeRemove
  cases flow.phase <;> decide

section Step
variable {wire : Wire} {config : TunConfig} {shard : SocketAddr → ℕ} {t u : TunUdp}

theorem oneFlow_of_table (inv : Table t) : OneFlow t where
  single i j flow flow' found found' before before' same := by
    have entry := (inv.held i flow found (held_iff.2 before)).1
    have entry' := (inv.held j flow' found' (held_iff.2 before')).1
    rw [same, entry'] at entry
    exact (Option.some.inj entry).symm
  entry localAddr i entry := by
    obtain ⟨flow, found, own, held⟩ := inv.entry localAddr i entry
    exact ⟨flow, found, own, held_iff.1 held⟩

def KeepsEntry (u : TunUdp) (e : Event) (localAddr : SocketAddr) (i : ℕ) : Prop :=
  u.sessions localAddr = some i ∨ u.sessions localAddr = none ∧ e = .remove i

theorem flowStepped_keepsEntry (inv : Table t) {e : Event} (step : FlowStepped shard t e u)
    {localAddr : SocketAddr} {i : ℕ} (entry : t.sessions localAddr = some i) :
    KeepsEntry u e localAddr i := by
  cases step with
  | received | injected | refused | idled | finished => exact .inl entry
  | @removed j flow found ending free =>
    by_cases own : localAddr = flow.localAddr
    · subst own
      have entry' := (inv.held j flow found (.inr ending)).1
      obtain rfl := Option.some.inj (entry'.symm.trans entry)
      exact .inr ⟨Function.update_self .., rfl⟩
    · exact .inl ((Function.update_of_ne own ..).trans entry)

theorem data_keepsEntry {cached : Option Bytes} {packet : UdpPacket}
    (data : actionFor config packet = .data) {localAddr : SocketAddr} {i : ℕ}
    (entry : t.sessions localAddr = some i) :
    ((t.ask config packet).handleUdpDataPacket config cached packet).sessions localAddr =
      some i := by
  rcases data_cases t cached data with ⟨sessions, _⟩ | ⟨target, vacant, spawned⟩ |
    ⟨_, _, _, _, sessions, _⟩
  · rw [sessions, entry]
  · rw [spawned]
    have other : localAddr ≠ packet.srcAddr := by
      rintro rfl
      cases vacant.symm.trans entry
    have same := congrFun (ask_same config t packet).1 localAddr
    exact (Function.update_of_ne other ..).trans (same.trans entry)
  · rw [sessions, entry]

/-- The packet loop finds no receiver gone: a flow that has dropped its receiver has no entry. -/
theorem step_keepsEntry (inv : Table t) {e : Event}
    (h : tunUdpStep wire config shard t e = some u) {localAddr : SocketAddr} {i : ℕ}
    (entry : t.sessions localAddr = some i) : KeepsEntry u e localAddr i := by
  cases tunUdpStep_stepped h with
  | flow step => exact flowStepped_keepsEntry inv step entry
  | pushed | sendersClosed | cancelled | observed | drained | rejected | took | delivered =>
    exact .inl entry
  | @skipped packet =>
    have same := congrFun (ask_same config t packet).1 localAddr
    exact .inl (same.trans entry)
  | data handling data => exact .inl (data_keepsEntry data entry)
  | @expired packet j message flow sending found closed =>
    obtain ⟨other, there, _, held⟩ := inv.entry _ _ (inv.sending packet j message sending)
    obtain rfl : flow = other := Option.some.inj (found.symm.trans there)
    cases (inv.held j flow found held).2.symm.trans closed

end Step

/-- In every state of every run there is at most one flow for a local address that has not removed
its entry, the entry is that flow's, and it goes away by the remove of that flow only. -/
theorem one_flow_per_address (wire : Wire) (config : TunConfig) (shard : SocketAddr → ℕ)
    (channelSize : ℕ) (es : List Event) :
    (∀ t, Visits (tunUdpSystem wire config shard channelSize) es t → OneFlow t) ∧
      ∀ t e u, Takes (tunUdpSystem wire config shard channelSize) es t e u →
        ∀ localAddr i, t.sessions localAddr = some i → KeepsEntry u e localAddr i := by
  have table : ∀ t, Visits (tunUdpSystem wire config shard channelSize) es t → Table t := by
    rintro t ⟨_, _, run⟩
    exact run.invariant (table_new channelSize) fun _ _ _ inv step => tunUdpStep_table inv step
  refine ⟨fun t visit => oneFlow_of_table (table t visit), fun t e u take localAddr i entry => ?_⟩
  have inv := table t take.visits_source
  obtain ⟨_, _, _, step⟩ := take
  exact step_keepsEntry inv step entry

def successor : List Event :=
  [.push toRemote, .recv, .handle none, .idle 0, .remove 0, .push toRemote, .recv, .handle none,
    .finish 0]

example :
    (exec (tunUdpSystem headerWire ⟨defaultFakednsCidr, 1, false⟩ (fun _ => 0) 4096)
      successor).map (fun t => (t.flows.map Flow.phase, t.sessions (.v4 ⟨⟨0x0a000001⟩, 1000⟩))) =
      some ([.closed, .running], some 1) := by rfl

end Ombrac.TunUdpSingleFlow
