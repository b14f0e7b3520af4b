import Ombrac.TunUdpLoop

set_option autoImplicit false

/-! # The source addresses of the responses that a flow injects -/
namespace Ombrac.TunUdpReplies
open LabelledSystem StackPacket StackSink TunUdpLoop
open ProtocolPacket hiding UdpPacket

/-- A response that the tunnel reports from `r`, where the application has sent to `r` from the
flow's local address, is injected with source `r` and destination the local address. -/
def Answers (t : TunUdp) (e : Event) (u : TunUdp) : Prop :=
  ∀ i data source, e = .response i data source true →
    ∀ flow, t.flows[i]? = some flow → ∀ r ∈ t.askedFrom flow.localAddr,
      source = .ofSocketAddr r → u.injected = t.injected ++ [⟨data, r, flow.localAddr⟩]

/-- The reported source, if the application has sent to it, is the flow's first destination. -/
def Guarded (t : TunUdp) : Event → Prop
  | .response i _ source true => ∀ flow, t.flows[i]? = some flow →
      ∀ r ∈ t.askedFrom flow.localAddr, source = .ofSocketAddr r → r = flow.fakeRemoteAddr
  | _ => True

/-- The two addresses of a packet or a flow have the same family. -/
structure Invariant (t : TunUdp) : Prop where
  flows : ∀ flow ∈ t.flows, sameFamily flow.fakeRemoteAddr flow.localAddr = true
  handling : ∀ packet, t.task = .handling packet → sameFamily packet.dstAddr packet.srcAddr = true

section Step
variable {wire : Wire} {config : TunConfig} {shard : SocketAddr → ℕ} {t u : TunUdp}

theorem splitRead_sameFamily {original : Bytes} {packet : UdpPacket}
    (h : splitRead wire original = some packet) :
    sameFamily packet.dstAddr packet.srcAddr = true := by
  unfold splitRead at h
  split at h
  · cases h
  · rename_i parsed _
    dsimp only at h
    split_ifs at h
    obtain rfl := Option.some.inj h
    cases parsed <;> rfl

/-- A flow keeps the addresses it was spawned with. -/
theorem Invariant.setFlow (inv : Invariant t) {i : ℕ} {flow : Flow} (flow' : Flow)
    (found : t.flows[i]? = some flow) (localAddr : flow'.localAddr = flow.localAddr)
    (remote : flow'.fakeRemoteAddr = flow.fakeRemoteAddr) : Invariant (t.setFlow i flow') := by
  refine ⟨fun x member => ?_, inv.handling⟩
  rcases List.mem_or_eq_of_mem_set member with old | rfl
  · exact inv.flows x old
  · rw [localAddr, remote]
    exact inv.flows flow (List.mem_of_getElem? found)

theorem invariant_of_idle (flows : ∀ flow ∈ u.flows,
    sameFamily flow.fakeRemoteAddr flow.localAddr = true)
    (idle : ∀ packet, u.task ≠ .handling packet) : Invariant u :=
  ⟨flows, fun packet task => absurd task (idle packet)⟩

theorem handle_invariant (inv : Invariant t) (cached : Option Bytes) {packet : UdpPacket}
    (same : sameFamily packet.dstAddr packet.srcAddr = true) :
    Invariant (t.handleUdpDataPacket config cached packet) := by
  unfold TunUdp.handleUdpDataPacket
  split
  · exact invariant_of_idle inv.flows (by simp [TunUdp.done])
  · split_ifs
    · exact invariant_of_idle inv.flows (by simp [TunUdp.done])
    · split
      · exact invariant_of_idle inv.flows (by simp)
      · refine invariant_of_idle (fun flow member => ?_) (by simp [TunUdp.done])
        simp only [TunUdp.done, TunUdp.spawnFlow, List.mem_append, List.mem_singleton] at member
        rcases member with old | rfl
        · exact inv.flows flow old
        · exact same

theorem flowStepped_invariant (inv : Invariant t) {e : Event} (step : FlowStepped shard t e u) :
    Invariant u := by
  cases step with
  | received found | refused found | idled found | finished found =>
    exact inv.setFlow _ found rfl rfl
  | injected found => exact ⟨inv.flows, inv.handling⟩
  | @removed i flow found =>
    have without : Invariant
        { t with sessions := Function.update t.sessions flow.localAddr none } :=
      ⟨inv.flows, inv.handling⟩
    exact without.setFlow _ found rfl rfl

theorem tunUdpStep_invariant (inv : Invariant t) {e : Event}
    (h : tunUdpStep wire config shard t e = some u) : Invariant u := by
  cases tunUdpStep_stepped h with
  | flow step => exact flowStepped_invariant inv step
  | pushed | sendersClosed | cancelled => exact ⟨inv.flows, inv.handling⟩
  | observed | drained | rejected => exact invariant_of_idle inv.flows (by simp)
  | took selecting queue parsed =>
    refine ⟨inv.flows, fun packet task => ?_⟩
    obtain rfl := Task.handling.inj task
    exact splitRead_sameFamily parsed
  | @skipped packet =>
    obtain ⟨_, flows, _⟩ := ask_same config t packet
    exact invariant_of_idle (fun flow member => inv.flows flow (flows ▸ member))
      (by simp [TunUdp.done])
  | expired => exact invariant_of_idle inv.flows (by simp [TunUdp.done])
  | @data packet cached handling =>
    obtain ⟨_, flows, task⟩ := ask_same config t packet
    have asked : Invariant (t.ask config packet) :=
      ⟨fun flow member => inv.flows flow (flows ▸ member),
        fun p handles => inv.handling p (task ▸ handles)⟩
    exact handle_invariant asked cached (inv.handling packet handling)
  | @delivered packet i message flow sending found =>
    have pushed := inv.setFlow { flow with receiver := flow.receiver.push message } found rfl rfl
    exact invariant_of_idle pushed.flows (by simp [TunUdp.done])

/-- A response that the stack accepts is injected, from the flow's first destination. -/
theorem response_injected (inv : Invariant t) {i : ℕ} {data : Bytes} {source : Address}
    {flow : Flow} (found : t.flows[i]? = some flow)
    (h : tunUdpStep wire config shard t (.response i data source true) = some u) :
    u.injected = t.injected ++ [⟨data, flow.fakeRemoteAddr, flow.localAddr⟩] := by
  have same := inv.flows flow (List.mem_of_getElem? found)
  simp only [tunUdpStep, found, same, Bool.and_self, if_true] at h
  split_ifs at h
  obtain rfl := Option.some.inj h
  rfl

theorem answers_iff (inv : Invariant t) {e : Event}
    (h : tunUdpStep wire config shard t e = some u) : Answers t e u ↔ Guarded t e := by
  cases e with
  | response i data source written =>
    cases written with
    | false => exact iff_of_true (fun _ _ _ other => by simp at other) trivial
    | true =>
      constructor
      · intro answers flow found r asked reported
        have injected := answers i data source rfl flow found r asked reported
        rw [response_injected inv found h] at injected
        simpa [eq_comm] using injected
      · rintro guard i' data' source' same flow found r asked reported
        obtain ⟨rfl, rfl, rfl, _⟩ := Event.response.inj same
        rw [response_injected inv found h, guard flow found r asked reported]
  | _ => exact iff_of_true (fun _ _ _ other => by cases other) trivial

end Step

/-- Along any run, every response is injected from the address that the tunnel reports, if and
only if that is always the first destination of its flow. -/
theorem udp_response_source_iff (wire : Wire) (config : TunConfig) (shard : SocketAddr → ℕ)
    (channelSize : ℕ) (es : List Event) :
    (∀ t e u, Takes (tunUdpSystem wire config shard channelSize) es t e u → Answers t e u) ↔
      ∀ t e u, Takes (tunUdpSystem wire config shard channelSize) es t e u → Guarded t e := by
  have each : ∀ t e u, Takes (tunUdpSystem wire config shard channelSize) es t e u →
      (Answers t e u ↔ Guarded t e) := by
    rintro t e u ⟨before, _, run, step⟩
    have inv : Invariant t := by
      refine run.invariant ⟨fun flow member => ?_, nofun⟩ ?_
      · cases member
      · exact fun _ _ _ inv step => tunUdpStep_invariant inv step
    exact answers_iff inv step
  constructor
  · exact fun answers t e u take => (each t e u take).1 (answers t e u take)
  · exact fun guard t e u take => (each t e u take).2 (guard t e u take)

def toFirst : Bytes :=
  [69, 0, 0, 29, 0, 0, 0, 0, 64, 17, 0, 0, 10, 0, 0, 1, 8, 8, 8, 8, 3, 232, 7, 208, 0, 9, 0, 0, 1]

def toSecond : Bytes :=
  [69, 0, 0, 29, 0, 0, 0, 0, 64, 17, 0, 0, 10, 0, 0, 1, 9, 9, 9, 9, 3, 232, 11, 184, 0, 9, 0, 0, 2]

def secondAddr : SocketAddr := .v4 ⟨⟨0x09090909⟩, 3000⟩

def twoDestinations : List Event :=
  [.push toFirst, .recv, .handle none, .push toSecond, .recv, .handle none, .send]

/-- The response from 9.9.9.9:3000 is injected as coming from 8.8.8.8:2000. -/
theorem second_destination_misattributed :
    ∃ t u, Takes (tunUdpSystem headerWire defaultConfig (fun _ => 0) 4096)
        (twoDestinations ++ [.response 0 [7] (.ofSocketAddr secondAddr) true]) t
        (.response 0 [7] (.ofSocketAddr secondAddr) true) u ∧
      ¬ Answers t (.response 0 [7] (.ofSocketAddr secondAddr) true) u := by
  have run : exec (tunUdpSystem headerWire defaultConfig (fun _ => 0) 4096) twoDestinations =
    some _ := rfl
  refine ⟨_, _, ⟨twoDestinations, List.prefix_refl _, runs_of_exec run, rfl⟩, fun answers => ?_⟩
  have injected := answers 0 [7] _ rfl _ rfl secondAddr (by decide) rfl
  exact absurd injected (by decide)

end Ombrac.TunUdpReplies
