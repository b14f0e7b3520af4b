import Ombrac.LabelledSystem
import Ombrac.StackSink
import Ombrac.TunAddress

set_option autoImplicit false

/-!
# UDP between the TUN device and the tunnel

The packet loop reads datagrams from the stack's UDP channel and hands them to one flow for each
local address; a flow sends them up the tunnel and injects the responses. The loop is the only
one that keeps an entry of the session table, hence the lock of its shard, across a wait.
-/
namespace Ombrac.TunUdpLoop
open LabelledSystem ProtocolPacket StackPacket BoundedChannel StackSink TunAddress

structure UdpPacket where
  data : Bytes
  srcAddr : SocketAddr
  dstAddr : SocketAddr
  deriving DecidableEq, Repr

def udpHeaderLen : ℕ := 8

def ipv6HeaderLen : ℕ := 40

/-- What `SplitRead::recv` makes of one packet of its channel. -/
def splitRead (wire : Wire) (original : Bytes) : Option UdpPacket :=
  match IpPacket.newChecked wire original with
  | none => none
  | some packet =>
    let ipHeaderLen :=
      match packet with
      | .ipv4 p => wire.ipv4HeaderLen p
      | .ipv6 _ => ipv6HeaderLen
    if original.length < ipHeaderLen + udpHeaderLen then none
    else
      let segment := original.drop ipHeaderLen
      if wire.checkUdp segment then
        let payloadStart := ipHeaderLen + udpHeaderLen
        let payloadEnd := payloadStart + (wire.udpPayload segment).length
        if original.length < payloadEnd then none
        else some {
          data := (original.take payloadEnd).drop payloadStart
          srcAddr := .new (packet.srcAddr wire) (wire.udpSourcePort segment)
          dstAddr := .new (packet.dstAddr wire) (wire.udpDestinationPort segment) }
      else none

/-- `SplitWrite::send` refuses addresses of two families. -/
def sameFamily : SocketAddr → SocketAddr → Bool
  | .v4 _, .v4 _ | .v6 _, .v6 _ => true
  | _, _ => false

structure TunConfig where
  fakednsCidr : Ipv4Net
  udpSessionChannelCapacity : ℕ
  disableUdp443 : Bool

inductive Action where
  | dnsQuery | skip443 | data
  deriving DecidableEq, Repr

def actionFor (config : TunConfig) (packet : UdpPacket) : Action :=
  if packet.dstAddr.port = 53 then .dnsQuery
  else if config.disableUdp443 && packet.dstAddr.port = 443 then .skip443
  else .data

/-- An address of the fake network, which stands for a domain. -/
def inFakeRange (config : TunConfig) : SocketAddr → Bool
  | .v4 addr => config.fakednsCidr.contains addr.ip
  | .v6 _ => false

/-- `cached` is the answer of `get_domain_by_ip`; `none` is a cache miss on a fake address. -/
def targetAddr (config : TunConfig) (cached : Option Bytes) (remote : SocketAddr) :
    Option Address :=
  match cached with
  | some domain => some (.domain domain remote.port)
  | none => if inFakeRange config remote then none else some (.ofSocketAddr remote)

/-! ## The state -/

/-- `ending` has left the select loop, `removed` has removed its entry of the session table. -/
inductive FlowPhase where
  | running | ending | removed | closed
  deriving DecidableEq, Repr

structure Flow where
  localAddr : SocketAddr
  fakeRemoteAddr : SocketAddr
  receiver : Channel (Bytes × Address)
  upstream : List (Bytes × Address)
  phase : FlowPhase

/-- `noPacket` is the loop's reading of `None`. -/
inductive Stop where
  | cancelled | noPacket
  deriving DecidableEq, Repr

/-- In `sending` the entry of flow `i` is held. -/
inductive Task where
  | selecting
  | handling (packet : UdpPacket)
  | sending (packet : UdpPacket) (i : ℕ) (message : Bytes × Address)
  | stopped (why : Stop)

/-- `taken`, `handled`, `asked` and `injected` are histories; `asked` pairs local addresses with
the remote ones, fake addresses left out, that the application sent to from them. -/
structure TunUdp where
  inbound : Channel Bytes
  sendersGone : Bool
  cancelled : Bool
  task : Task
  sessions : SocketAddr → Option ℕ
  flows : List Flow
  taken : List Bytes
  handled : List UdpPacket
  asked : List (SocketAddr × SocketAddr)
  injected : List UdpPacket

namespace TunUdp

def new (channelSize : ℕ) : TunUdp where
  inbound := .new channelSize
  sendersGone := false
  cancelled := false
  task := .selecting
  sessions := fun _ => none
  flows := []
  taken := []
  handled := []
  asked := []
  injected := []

def done (t : TunUdp) (packet : UdpPacket) : TunUdp :=
  { t with task := .selecting, handled := t.handled ++ [packet] }

def setFlow (t : TunUdp) (i : ℕ) (flow : Flow) : TunUdp := { t with flows := t.flows.set i flow }

def askedFrom (t : TunUdp) (localAddr : SocketAddr) : List SocketAddr :=
  (t.asked.filter fun x => x.1 = localAddr).map Prod.snd

def ask (config : TunConfig) (t : TunUdp) (packet : UdpPacket) : TunUdp :=
  if inFakeRange config packet.dstAddr then t
  else { t with asked := t.asked ++ [(packet.srcAddr, packet.dstAddr)] }

def locked (shard : SocketAddr → ℕ) (t : TunUdp) (localAddr : SocketAddr) : Prop :=
  match t.task with
  | .sending packet _ _ => shard packet.srcAddr = shard localAddr
  | _ => False

instance (shard : SocketAddr → ℕ) (t : TunUdp) (localAddr : SocketAddr) :
    Decidable (t.locked shard localAddr) := by
  unfold locked
  cases t.task <;> infer_instance

def spawnFlow (t : TunUdp) (config : TunConfig) (packet : UdpPacket) (target : Address) : TunUdp :=
  let flow : Flow := {
    localAddr := packet.srcAddr
    fakeRemoteAddr := packet.dstAddr
    receiver := (Channel.new config.udpSessionChannelCapacity).push (packet.data, target)
    upstream := []
    phase := .running }
  { t with
    sessions := Function.update t.sessions packet.srcAddr (some t.flows.length)
    flows := t.flows ++ [flow] }

/-- `handle_udp_data_packet` up to its wait for room in the flow's channel. -/
def handleUdpDataPacket (config : TunConfig) (t : TunUdp) (cached : Option Bytes)
    (packet : UdpPacket) : TunUdp :=
  match targetAddr config cached packet.dstAddr with
  | none => t.done packet
  | some target =>
    if shouldSkipAddress target then t.done packet
    else
      match t.sessions packet.srcAddr with
      | some i => { t with task := .sending packet i (packet.data, target) }
      | none => (t.spawnFlow config packet target).done packet

end TunUdp

inductive Event where
  | push (packet : Bytes)
  | closeSenders
  | cancel
  | observeCancel
  | recv
  | handle (cached : Option Bytes)
  | send
  | flowRecv (i : ℕ)
  | response (i : ℕ) (data : Bytes) (source : Address) (written : Bool)
  | idle (i : ℕ)
  | remove (i : ℕ)
  | finish (i : ℕ)

/-- The response that a flow writes to the stack, whatever source the tunnel reported. -/
def responsePacket (flow : Flow) (data : Bytes) : UdpPacket :=
  ⟨data, flow.fakeRemoteAddr, flow.localAddr⟩

def tunUdpStep (wire : Wire) (config : TunConfig) (shard : SocketAddr → ℕ) (t : TunUdp) :
    Event → Option TunUdp
  | .push packet =>
    if destination wire packet = some .udp ∧ t.sendersGone = false ∧ ¬ t.inbound.Full then
      some { t with inbound := t.inbound.push packet }
    else none
  | .closeSenders => some { t with sendersGone := true }
  | .cancel => some { t with cancelled := true }
  | .observeCancel =>
    match t.task with
    | .selecting =>
      if t.cancelled then some { t with task := .stopped .cancelled } else none
    | _ => none
  | .recv =>
    match t.task with
    | .selecting =>
      if t.cancelled then none
      else
        match t.inbound.queue with
        | [] => if t.sendersGone then some { t with task := .stopped .noPacket } else none
        | original :: _ =>
          let taken := { t with inbound := t.inbound.pop, taken := t.taken ++ [original] }
          match splitRead wire original with
          | none => some { taken with task := .stopped .noPacket }
          | some packet => some { taken with task := .handling packet }
    | _ => none
  | .handle cached =>
    match t.task with
    | .handling packet =>
      match actionFor config packet with
      | .dnsQuery | .skip443 => some ((t.ask config packet).done packet)
      | .data => some ((t.ask config packet).handleUdpDataPacket config cached packet)
    | _ => none
  | .send =>
    match t.task with
    | .sending packet i message =>
      match t.flows[i]? with
      | none => none
      | some flow =>
        if flow.receiver.closed then
          some ({ t with sessions := Function.update t.sessions packet.srcAddr none }.done packet)
        else if flow.receiver.Full then none
        else some ((t.setFlow i { flow with receiver := flow.receiver.push message }).done packet)
    | _ => none
  | .flowRecv i =>
    match t.flows[i]? with
    | none => none
    | some flow =>
      match flow.phase, flow.receiver.queue with
      | .running, message :: _ => some (t.setFlow i { flow with
          receiver := flow.receiver.pop
          upstream := flow.upstream ++ [message] })
      | _, _ => none
  | .response i data _ written =>
    match t.flows[i]? with
    | none => none
    | some flow =>
      if flow.phase = .running then
        if sameFamily flow.fakeRemoteAddr flow.localAddr && written then
          some { t with injected := t.injected ++ [responsePacket flow data] }
        else some (t.setFlow i { flow with phase := .ending })
      else none
  | .idle i =>
    match t.flows[i]? with
    | none => none
    | some flow =>
      if flow.phase = .running then some (t.setFlow i { flow with phase := .ending }) else none
  | .remove i =>
    match t.flows[i]? with
    | none => none
    | some flow =>
      if flow.phase = .ending ∧ ¬ t.locked shard flow.localAddr then
        some ({ t with sessions := Function.update t.sessions flow.localAddr none }.setFlow i
          { flow with phase := .removed })
      else none
  | .finish i =>
    match t.flows[i]? with
    | none => none
    | some flow =>
      if flow.phase = .removed then
        some (t.setFlow i { flow with phase := .closed, receiver := flow.receiver.close })
      else none

def tunUdpSystem (wire : Wire) (config : TunConfig) (shard : SocketAddr → ℕ) (channelSize : ℕ) :
    System TunUdp Event :=
  ⟨.new channelSize, tunUdpStep wire config shard⟩

/-! ## What the loop owes -/

def Allowed (t : TunUdp) : Stop → Prop
  | .cancelled => t.cancelled = true
  | .noPacket => t.sendersGone = true ∧ t.inbound.queue = []

def StopsAllowed : TunUdp → Prop := StopsFor TunUdp.task Task.stopped Allowed

def current (t : TunUdp) : List UdpPacket :=
  match t.task with
  | .handling packet | .sending packet _ _ => [packet]
  | _ => []

/-- Every packet of the channel is still queued or was taken, and every well-formed one that was
taken is handled, once and in order. -/
def HandlesAll (wire : Wire) (t : TunUdp) : Prop :=
  t.inbound.accepted = t.taken ++ t.inbound.queue ∧
    t.handled ++ current t = t.taken.filterMap (splitRead wire)

/-- A packet that the loop takes is well formed, or nothing can come after it. -/
def Guarded (wire : Wire) (t : TunUdp) : Event → Prop
  | .recv => ∀ original rest, t.inbound.queue = original :: rest →
      splitRead wire original = none → t.sendersGone = true ∧ rest = []
  | _ => True

structure SameLoop (t u : TunUdp) : Prop where
  inbound : u.inbound = t.inbound
  sendersGone : u.sendersGone = t.sendersGone
  cancelled : u.cancelled = t.cancelled
  task : u.task = t.task
  taken : u.taken = t.taken
  handled : u.handled = t.handled

section Step
variable {wire : Wire} {config : TunConfig} {shard : SocketAddr → ℕ} {t u : TunUdp}

theorem sameLoop_setFlow (i : ℕ) (flow : Flow) : SameLoop t (t.setFlow i flow) :=
  ⟨rfl, rfl, rfl, rfl, rfl, rfl⟩

theorem ask_sameLoop (config : TunConfig) (t : TunUdp) (packet : UdpPacket) :
    SameLoop t (t.ask config packet) := by
  unfold TunUdp.ask
  split
  · exact ⟨rfl, rfl, rfl, rfl, rfl, rfl⟩
  · exact ⟨rfl, rfl, rfl, rfl, rfl, rfl⟩

theorem ask_same (config : TunConfig) (t : TunUdp) (packet : UdpPacket) :
    (t.ask config packet).sessions = t.sessions ∧ (t.ask config packet).flows = t.flows ∧
      (t.ask config packet).task = t.task := by
  unfold TunUdp.ask
  split <;> exact ⟨rfl, rfl, rfl⟩

/-! ## What a step finds and leaves -/

inductive FlowStepped (shard : SocketAddr → ℕ) (t : TunUdp) : Event → TunUdp → Prop
  | received {i : ℕ} {flow : Flow} {message : Bytes × Address} {rest : List (Bytes × Address)}
      (found : t.flows[i]? = some flow) (running : flow.phase = .running)
      (queue : flow.receiver.queue = message :: rest) :
      FlowStepped shard t (.flowRecv i) (t.setFlow i { flow with
        receiver := flow.receiver.pop
        upstream := flow.upstream ++ [message] })
  | injected {i : ℕ} {flow : Flow} {data : Bytes} {source : Address} {written : Bool}
      (found : t.flows[i]? = some flow) (running : flow.phase = .running)
      (accepted : (sameFamily flow.fakeRemoteAddr flow.localAddr && written) = true) :
      FlowStepped shard t (.response i data source written)
        { t with injected := t.injected ++ [responsePacket flow data] }
  | refused {i : ℕ} {flow : Flow} {data : Bytes} {source : Address} {written : Bool}
      (found : t.flows[i]? = some flow) (running : flow.phase = .running)
      (refused : (sameFamily flow.fakeRemoteAddr flow.localAddr && written) = false) :
      FlowStepped shard t (.response i data source written)
        (t.setFlow i { flow with phase := .ending })
  | idled {i : ℕ} {flow : Flow} (found : t.flows[i]? = some flow)
      (running : flow.phase = .running) :
      FlowStepped shard t (.idle i) (t.setFlow i { flow with phase := .ending })
  | removed {i : ℕ} {flow : Flow} (found : t.flows[i]? = some flow)
      (ending : flow.phase = .ending) (free : ¬ t.locked shard flow.localAddr) :
      FlowStepped shard t (.remove i)
        ({ t with sessions := Function.update t.sessions flow.localAddr none }.setFlow i
          { flow with phase := .removed })
  | finished {i : ℕ} {flow : Flow} (found : t.flows[i]? = some flow)
      (removed : flow.phase = .removed) :
      FlowStepped shard t (.finish i)
        (t.setFlow i { flow with phase := .closed, receiver := flow.receiver.close })

inductive Stepped (wire : Wire) (config : TunConfig) (shard : SocketAddr → ℕ) (t : TunUdp) :
    Event → TunUdp → Prop
  | flow {e : Event} {u : TunUdp} (step : FlowStepped shard t e u) :
      Stepped wire config shard t e u
  | pushed {packet : Bytes} (opened : t.sendersGone = false) :
      Stepped wire config shard t (.push packet) { t with inbound := t.inbound.push packet }
  | sendersClosed : Stepped wire config shard t .closeSenders { t with sendersGone := true }
  | cancelled : Stepped wire config shard t .cancel { t with cancelled := true }
  | observed (selecting : t.task = .selecting) (cancelled : t.cancelled = true) :
      Stepped wire config shard t .observeCancel { t with task := .stopped .cancelled }
  | drained (selecting : t.task = .selecting) (queue : t.inbound.queue = [])
      (gone : t.sendersGone = true) :
      Stepped wire config shard t .recv { t with task := .stopped .noPacket }
  | rejected {original : Bytes} {rest : List Bytes} (selecting : t.task = .selecting)
      (queue : t.inbound.queue = original :: rest) (malformed : splitRead wire original = none) :
      Stepped wire config shard t .recv { t with
        inbound := t.inbound.pop
        taken := t.taken ++ [original]
        task := .stopped .noPacket }
  | took {original : Bytes} {rest : List Bytes} {packet : UdpPacket}
      (selecting : t.task = .selecting) (queue : t.inbound.queue = original :: rest)
      (parsed : splitRead wire original = some packet) :
      Stepped wire config shard t .recv { t with
        inbound := t.inbound.pop
        taken := t.taken ++ [original]
        task := .handling packet }
  | skipped {packet : UdpPacket} {cached : Option Bytes} (handling : t.task = .handling packet)
      (skip : actionFor config packet = .dnsQuery ∨ actionFor config packet = .skip443) :
      Stepped wire config shard t (.handle cached) ((t.ask config packet).done packet)
  | data {packet : UdpPacket} {cached : Option Bytes} (handling : t.task = .handling packet)
      (data : actionFor config packet = .data) :
      Stepped wire config shard t (.handle cached)
        ((t.ask config packet).handleUdpDataPacket config cached packet)
  | expired {packet : UdpPacket} {i : ℕ} {message : Bytes × Address} {flow : Flow}
      (sending : t.task = .sending packet i message) (found : t.flows[i]? = some flow)
      (closed : flow.receiver.closed = true) :
      Stepped wire config shard t .send
        ({ t with sessions := Function.update t.sessions packet.srcAddr none }.done packet)
  | delivered {packet : UdpPacket} {i : ℕ} {message : Bytes × Address} {flow : Flow}
      (sending : t.task = .sending packet i message) (found : t.flows[i]? = some flow)
      (room : ¬ flow.receiver.Full) :
      Stepped wire config shard t .send
        ((t.setFlow i { flow with receiver := flow.receiver.push message }).done packet)

section Arms

-- The equations are made once for all the arms.
attribute [local simp] tunUdpStep

theorem recv_stepped (h : tunUdpStep wire config shard t .recv = some u) :
    Stepped wire config shard t .recv u := by
  simp only [tunUdpStep] at h
  split at h
  · rename_i selecting
    split at h
    · cases h
    · split at h
      · rename_i queue
        split_ifs at h with gone
        obtain rfl := Option.some.inj h
        exact .drained selecting queue gone
      · rename_i original rest queue
        split at h
        · rename_i malformed
          obtain rfl := Option.some.inj h
          exact .rejected selecting queue malformed
        · rename_i packet parsed
          obtain rfl := Option.some.inj h
          exact .took selecting queue parsed
  · cases h

theorem send_stepped (h : tunUdpStep wire config shard t .send = some u) :
    Stepped wire config shard t .send u := by
  simp only [tunUdpStep] at h
  split at h
  · rename_i packet i message sending
    split at h
    · cases h
    · rename_i flow found
      split_ifs at h with closed full
      · obtain rfl := Option.some.inj h
        exact .expired sending found closed
      · obtain rfl := Option.some.inj h
        exact .delivered sending found full
  · cases h

theorem handle_stepped {cached : Option Bytes}
    (h : tunUdpStep wire config shard t (.handle cached) = some u) :
    Stepped wire config shard t (.handle cached) u := by
  simp only [tunUdpStep] at h
  split at h
  · rename_i packet handling
    split at h
    · rename_i query
      obtain rfl := Option.some.inj h
      exact .skipped handling (.inl query)
    · rename_i skip
      obtain rfl := Option.some.inj h
      exact .skipped handling (.inr skip)
    · rename_i data
      obtain rfl := Option.some.inj h
      exact .data handling data
  · cases h

theorem flowRecv_stepped {i : ℕ} (h : tunUdpStep wire config shard t (.flowRecv i) = some u) :
    FlowStepped shard t (.flowRecv i) u := by
  simp only [tunUdpStep] at h
  split at h
  · cases h
  · rename_i flow found
    split at h
    · rename_i message rest running queue
      obtain rfl := Option.some.inj h
      exact .received found running queue
    · cases h

theorem response_stepped {i : ℕ} {data : Bytes} {source : Address} {written : Bool}
    (h : tunUdpStep wire config shard t (.response i data source written) = some u) :
    FlowStepped shard t (.response i data source written) u := by
  simp only [tunUdpStep] at h
  split at h
  · cases h
  · rename_i flow found
    split_ifs at h with running accepted
    · obtain rfl := Option.some.inj h
      exact .injected found running accepted
    · obtain rfl := Option.some.inj h
      exact .refused found running (Bool.eq_false_iff.2 accepted)

end Arms

theorem tunUdpStep_stepped {e : Event} (h : tunUdpStep wire config shard t e = some u) :
    Stepped wire config shard t e u := by
  cases e with
  | push packet =>
    simp only [tunUdpStep] at h
    split_ifs at h with open_room
    obtain rfl := Option.some.inj h
    exact .pushed open_room.2.1
  | closeSenders =>
    obtain rfl := Option.some.inj h
    exact .sendersClosed
  | cancel =>
    obtain rfl := Option.some.inj h
    exact .cancelled
  | observeCancel =>
    simp only [tunUdpStep] at h
    split at h
    · rename_i selecting
      split_ifs at h with cancelled
      obtain rfl := Option.some.inj h
      exact .observed selecting cancelled
    · cases h
  | recv => exact recv_stepped h
  | handle cached => exact handle_stepped h
  | send => exact send_stepped h
  | flowRecv i => exact .flow (flowRecv_stepped h)
  | response i data source written => exact .flow (response_stepped h)
  | idle i =>
    simp only [tunUdpStep] at h
    split at h
    · cases h
    · rename_i flow found
      split_ifs at h with running
      obtain rfl := Option.some.inj h
      exact .flow (.idled found running)
  | remove i =>
    simp only [tunUdpStep] at h
    split at h
    · cases h
    · rename_i flow found
      split_ifs at h with enabled
      obtain rfl := Option.some.inj h
      exact .flow (.removed found enabled.1 enabled.2)
  | finish i =>
    simp only [tunUdpStep] at h
    split at h
    · cases h
    · rename_i flow found
      split_ifs at h with removed
      obtain rfl := Option.some.inj h
      exact .flow (.finished found removed)

theorem FlowStepped.sameLoop {e : Event} (step : FlowStepped shard t e u) : SameLoop t u := by
  cases step with
  | received | refused | idled | finished => exact sameLoop_setFlow ..
  | injected | removed => exact ⟨rfl, rfl, rfl, rfl, rfl, rfl⟩

/-! ## The packets of the channel -/

/-- Handling a data packet either ends the loop's turn or leaves the packet in its hands. -/
theorem handleUdpDataPacket_loop (config : TunConfig) (t : TunUdp) (cached : Option Bytes)
    (packet : UdpPacket) :
    let u := t.handleUdpDataPacket config cached packet
    u.inbound = t.inbound ∧ u.sendersGone = t.sendersGone ∧ u.taken = t.taken ∧
      ((u.task = .selecting ∧ u.handled = t.handled ++ [packet]) ∨
        ((∃ i message, u.task = .sending packet i message) ∧ u.handled = t.handled)) := by
  unfold TunUdp.handleUdpDataPacket
  split
  · exact ⟨rfl, rfl, rfl, .inl ⟨rfl, rfl⟩⟩
  · split_ifs
    · exact ⟨rfl, rfl, rfl, .inl ⟨rfl, rfl⟩⟩
    · split
      · exact ⟨rfl, rfl, rfl, .inr ⟨⟨_, _, rfl⟩, rfl⟩⟩
      · exact ⟨rfl, rfl, rfl, .inl ⟨rfl, rfl⟩⟩

theorem handlesAll_of_finished {packet : UdpPacket} (all : HandlesAll wire t)
    (holds : current t = [packet]) (inbound : u.inbound = t.inbound) (taken : u.taken = t.taken)
    (task : u.task = .selecting) (handled : u.handled = t.handled ++ [packet]) :
    HandlesAll wire u := by
  obtain ⟨queued, processed⟩ := all
  rw [holds] at processed
  constructor
  · rw [inbound, taken]
    exact queued
  · simp only [current, task, handled, List.append_nil, taken]
    exact processed

theorem SameLoop.handlesAll (same : SameLoop t u) (all : HandlesAll wire t) :
    HandlesAll wire u := by
  obtain ⟨queued, processed⟩ := all
  constructor
  · rw [same.inbound, same.taken]
    exact queued
  · rw [same.handled, same.taken, ← processed]
    simp only [current, same.task]

theorem handle_handlesAll (all : HandlesAll wire t) {packet : UdpPacket}
    (handling : t.task = .handling packet) (cached : Option Bytes) :
    HandlesAll wire ((t.ask config packet).handleUdpDataPacket config cached packet) := by
  have same := ask_sameLoop config t packet
  have before := same.handlesAll all
  have holds : current (t.ask config packet) = [packet] := by
    simp only [current, same.task, handling]
  obtain ⟨inbound, _, taken, ⟨task, handled⟩ | ⟨⟨i, message, task⟩, handled⟩⟩ :=
    handleUdpDataPacket_loop config (t.ask config packet) cached packet
  · exact handlesAll_of_finished before holds inbound taken task handled
  · obtain ⟨queued, processed⟩ := before
    constructor
    · rw [inbound, taken]
      exact queued
    · rw [handled, taken, ← processed, holds]
      simp only [current, task]

theorem recv_handlesAll (all : HandlesAll wire t) (selecting : t.task = .selecting)
    {original : Bytes} {rest : List Bytes} (queue : t.inbound.queue = original :: rest)
    (task : Task) (taken : current { t with task := task } = (splitRead wire original).toList) :
    HandlesAll wire { t with
      inbound := t.inbound.pop
      taken := t.taken ++ [original]
      task := task } := by
  obtain ⟨queued, processed⟩ := all
  have idle : current t = [] := by simp only [current, selecting]
  rw [idle, List.append_nil] at processed
  constructor
  · change t.inbound.accepted = (t.taken ++ [original]) ++ t.inbound.queue.tail
    rw [queued, queue]
    simp
  · change t.handled ++ current { t with task := task } =
      (t.taken ++ [original]).filterMap (splitRead wire)
    rw [taken, processed, List.filterMap_append]
    cases parsed : splitRead wire original <;> simp [parsed]

theorem tunUdpStep_handlesAll (all : HandlesAll wire t) {e : Event}
    (h : tunUdpStep wire config shard t e = some u) : HandlesAll wire u := by
  obtain ⟨queued, processed⟩ := all
  cases tunUdpStep_stepped h with
  | flow step => exact step.sameLoop.handlesAll ⟨queued, processed⟩
  | @pushed packet =>
    refine ⟨?_, processed⟩
    change t.inbound.accepted ++ [packet] = t.taken ++ (t.inbound.queue ++ [packet])
    rw [queued, List.append_assoc]
  | sendersClosed | cancelled => exact ⟨queued, processed⟩
  | observed selecting | drained selecting =>
    exact ⟨queued, by simpa only [current, selecting] using processed⟩
  | rejected selecting queue malformed =>
    exact recv_handlesAll ⟨queued, processed⟩ selecting queue _ (by simp [current, malformed])
  | took selecting queue parsed =>
    exact recv_handlesAll ⟨queued, processed⟩ selecting queue _ (by simp [current, parsed])
  | @skipped packet _ handling =>
    have same := ask_sameLoop config t packet
    have holds : current (t.ask config packet) = [packet] := by
      simp only [current, same.task, handling]
    exact handlesAll_of_finished (same.handlesAll ⟨queued, processed⟩) holds rfl rfl rfl rfl
  | data handling => exact handle_handlesAll ⟨queued, processed⟩ handling _
  | @expired packet _ _ _ sending =>
    have holds : current t = [packet] := by simp only [current, sending]
    exact handlesAll_of_finished ⟨queued, processed⟩ holds rfl rfl rfl rfl
  | @delivered packet _ _ _ sending =>
    have holds : current t = [packet] := by simp only [current, sending]
    exact handlesAll_of_finished ⟨queued, processed⟩ holds rfl rfl rfl rfl

/-! ## Which stops are allowed -/

theorem StopsAllowed.mono (h : StopsAllowed t) (task : u.task = t.task)
    (cancelled : t.cancelled = true → u.cancelled = true)
    (closed : t.sendersGone = true ∧ t.inbound.queue = [] →
      u.sendersGone = true ∧ u.inbound.queue = []) : StopsAllowed u := by
  refine StopsFor.of_same h task fun why allowed => ?_
  cases why with
  | cancelled => exact cancelled allowed
  | noPacket => exact closed allowed

theorem SameLoop.stopsAllowed (same : SameLoop t u) (h : StopsAllowed t) : StopsAllowed u := by
  apply h.mono same.task
  · rw [same.cancelled]
    exact id
  · rw [same.sendersGone, same.inbound]
    exact id

theorem handle_stopsAllowed (t : TunUdp) (cached : Option Bytes) (packet : UdpPacket) :
    StopsAllowed (t.handleUdpDataPacket config cached packet) := by
  apply StopsFor.of_running
  obtain ⟨_, _, _, ⟨task, _⟩ | ⟨⟨i, message, task⟩, _⟩⟩ :=
    handleUdpDataPacket_loop config t cached packet
  · simp [task]
  · simp [task]

/-- A malformed packet ends the loop, rightly if nothing can come after it. -/
theorem rejected_stopsAllowed {original : Bytes} {rest : List Bytes}
    (queue : t.inbound.queue = original :: rest) (malformed : splitRead wire original = none) :
    StopsAllowed { t with
      inbound := t.inbound.pop
      taken := t.taken ++ [original]
      task := .stopped .noPacket } ↔ Guarded wire t .recv := by
  constructor
  · intro allowed original' rest' queue' _
    obtain ⟨rfl, rfl⟩ := List.cons.inj (queue.symm.trans queue')
    obtain ⟨gone, last⟩ := allowed .noPacket rfl
    exact ⟨gone, by simpa [Channel.pop, queue] using last⟩
  · intro guard why stopped
    obtain rfl := Task.stopped.inj stopped
    obtain ⟨gone, last⟩ := guard original rest queue malformed
    exact ⟨gone, by simp [Channel.pop, queue, last]⟩

theorem FlowStepped.guarded {e : Event} (step : FlowStepped shard t e u) : Guarded wire t e := by
  cases step <;> trivial

theorem tunUdpStep_stopsAllowed (allowed : StopsAllowed t) {e : Event}
    (h : tunUdpStep wire config shard t e = some u) : StopsAllowed u ↔ Guarded wire t e := by
  cases tunUdpStep_stepped h with
  | flow step => exact iff_of_true (step.sameLoop.stopsAllowed allowed) step.guarded
  | pushed opened =>
    refine iff_of_true (allowed.mono rfl id fun closed => ?_) trivial
    cases opened.symm.trans closed.1
  | sendersClosed => exact iff_of_true (allowed.mono rfl id fun closed => ⟨rfl, closed.2⟩) trivial
  | cancelled => exact iff_of_true (allowed.mono rfl (fun _ => rfl) id) trivial
  | observed selecting cancelled =>
    refine iff_of_true (fun why stopped => ?_) trivial
    obtain rfl := Task.stopped.inj stopped
    exact cancelled
  | drained selecting queue gone =>
    refine iff_of_true (fun why stopped => ?_) (by simp [Guarded, queue])
    obtain rfl := Task.stopped.inj stopped
    exact ⟨gone, queue⟩
  | rejected selecting queue malformed => exact rejected_stopsAllowed queue malformed
  | took selecting queue parsed =>
    exact iff_of_true (StopsFor.of_running (by simp)) (by simp [Guarded, queue, parsed])
  | data => exact iff_of_true (handle_stopsAllowed _ _ _) trivial
  | skipped | expired | delivered =>
    exact iff_of_true (StopsFor.of_running (by simp [TunUdp.done])) trivial

end Step

/-- Along any run, the loop ends only on cancellation or a closed channel, and every well-formed
datagram it took is handled, if and only if it takes no malformed one while more could come. -/
theorem process_incoming_udp_iff (wire : Wire) (config : TunConfig) (shard : SocketAddr → ℕ)
    (channelSize : ℕ) (es : List Event) :
    (∀ t, Visits (tunUdpSystem wire config shard channelSize) es t →
      StopsAllowed t ∧ HandlesAll wire t) ↔
      ∀ t e u, Takes (tunUdpSystem wire config shard channelSize) es t e u →
        Guarded wire t e := by
  have start : HandlesAll wire (tunUdpSystem wire config shard channelSize).initial := ⟨rfl, rfl⟩
  apply safe_iff_guarded (I := HandlesAll wire) start
  · exact ⟨StopsFor.of_running fun why => nofun, start⟩
  · exact fun _ _ _ all _ step => tunUdpStep_handlesAll all step
  · intro t e u all good step
    rw [and_iff_left (tunUdpStep_handlesAll all step)]
    exact tunUdpStep_stopsAllowed good.1 step

def defaultConfig : TunConfig := ⟨defaultFakednsCidr, 2048, false⟩

/-- An IPv4 packet of protocol UDP that ends with its IP header. -/
def headerOnly : Bytes :=
  [69, 0, 0, 20, 0, 0, 0, 0, 64, 17, 0, 0, 10, 0, 0, 1, 8, 8, 8, 8]

/-- The packet is routed to the UDP channel, and the loop ends with the channel open. -/
theorem headerOnly_stops_loop :
    ∃ t, Runs (tunUdpSystem headerWire defaultConfig (fun _ => 0) 4096)
      [.push headerOnly, .recv] t ∧ ¬ StopsAllowed t := by
  have run : exec (tunUdpSystem headerWire defaultConfig (fun _ => 0) 4096)
    [.push headerOnly, .recv] = some _ := rfl
  refine ⟨_, runs_of_exec run, fun allowed => ?_⟩
  exact absurd (allowed .noPacket rfl).1 (by decide)

end Ombrac.TunUdpLoop
