import Ombrac.LabelledSystem
import Ombrac.ListUpdates
import Ombrac.StackSink

set_option autoImplicit false

/-!
# The end of the TUN endpoint

`accept_loop` spawns four tasks, and after the shutdown signal it cancels their token and awaits
them in turn. A task looks at the token only between two packets, so each must first get past its
own wait: for the device, for room in a channel, for a flow. Here a task is the place where it
waits, a channel is the number of its packets, and a `select!` is polled in one step.
-/
namespace Ombrac.TunShutdown
open LabelledSystem ListUpdates ProtocolPacket StackSink

/-- `mpsc::channel` panics on a capacity of zero. -/
structure Setup where
  channelSize : ℕ
  sessionCapacity : ℕ
  numWorkers : ℕ
  channel_pos : 0 < channelSize
  session_pos : 0 < sessionCapacity

inductive Outward where
  | selecting
  | sending
  | ended
  deriving DecidableEq

/-- `forward_packets_from_tun_to_stack`. In `dropping` the sink has found the channel full and is
about to drop its reservation; `woken` says that the channel has moved since. A task that is
`parked` has no waker left. -/
inductive Inward where
  | selecting
  | sending (c : Inbound)
  | dropping (c : Inbound) (woken : Bool)
  | parked (c : Inbound)
  | ended
  deriving DecidableEq

/-- `process_incoming_udp_packets`; `replying` injects a DNS response, and `sending` holds the
entry of a flow while it waits for room in the flow's channel. -/
inductive PacketLoop where
  | selecting
  | replying
  | sending (flow : ℕ)
  | ended
  deriving DecidableEq

/-- `relay_udp_flow`; `ending` has left the loop and wants its entry removed. -/
inductive FlowPhase where
  | selecting
  | sendingUp
  | writing
  | ending
  | removed
  | closed
  deriving DecidableEq

structure Flow where
  localAddr : SocketAddr
  queue : ℕ
  phase : FlowPhase

inductive Dispatcher where
  | selecting
  | sending (worker : ℕ)
  | stopped
  deriving DecidableEq

structure Worker where
  queue : ℕ
  running : Bool

/-- `accepting` is the task of the TCP connections, which owns the `TcpConnection`; `joined` counts
the tasks that `accept_loop` has awaited. -/
structure Endpoint where
  signalled : Bool
  joined : ℕ
  outward : Outward
  inward : Inward
  accepting : Bool
  packetLoop : PacketLoop
  flows : List Flow
  dispatcher : Dispatcher
  workers : List Worker
  outbound : ℕ
  inbound : Inbound → ℕ

/-- What a packet of the device is for the sink. -/
inductive TunRead where
  | packet (c : Inbound)
  | ignored
  | failed

/-- What a packet of the UDP channel is for the packet loop: `dropped` goes to port 443, to a fake
address without a domain or to a reserved address. -/
inductive Datagram where
  | invalid
  | query (answered : Bool)
  | dropped
  | data (localAddr : SocketAddr)

inductive OutwardEvent where
  | recv
  | wrote (succeeded : Bool)
  | stop

inductive InwardEvent where
  | read (packet : TunRead)
  | poll
  | drop
  | stop

inductive PacketLoopEvent where
  | recv (datagram : Datagram)
  | reply
  | replyFails
  | send
  | stop

inductive FlowEvent where
  | recv
  | sent
  | response
  | write
  | writeFails
  | idle
  | remove
  | finish

inductive DispatcherEvent where
  | recv (worker : ℕ)
  | send
  | stop

inductive WorkerEvent where
  | recv
  | emit
  | exit

inductive Event where
  | signal
  | join
  | outward (e : OutwardEvent)
  | inward (e : InwardEvent)
  | acceptorStops
  | packetLoop (e : PacketLoopEvent)
  | flow (i : ℕ) (e : FlowEvent)
  | dispatcher (e : DispatcherEvent)
  | worker (i : ℕ) (e : WorkerEvent)

/-- A slot of the channel was freed, or the channel closed. -/
def Inward.notified (c : Inbound) : Inward → Inward
  | .dropping d woken => .dropping d (woken || d = c)
  | other => other

def Flow.hasEntry (flow : Flow) : Bool :=
  match flow.phase with
  | .removed | .closed => false
  | _ => true

namespace Endpoint

def new (setup : Setup) : Endpoint where
  signalled := false
  joined := 0
  outward := .selecting
  inward := .selecting
  accepting := true
  packetLoop := .selecting
  flows := []
  dispatcher := .selecting
  workers := List.replicate setup.numWorkers ⟨0, true⟩
  outbound := 0
  inbound := fun _ => 0

def gone (s : Endpoint) : Inbound → Bool
  | .udp => s.packetLoop = .ended
  | .tcp => s.dispatcher = .stopped

def finished (s : Endpoint) : List Bool :=
  [s.outward = .ended, s.inward = .ended, !s.accepting, s.packetLoop = .ended]

def returned (s : Endpoint) : Bool := s.joined = s.finished.length

def writersGone (s : Endpoint) : Bool :=
  s.packetLoop = .ended && (s.flows.all fun flow => flow.phase = .closed) &&
    s.workers.all fun worker => !worker.running

theorem finished_length (s : Endpoint) : s.finished.length = 4 := rfl

def take (s : Endpoint) (c : Inbound) : Endpoint :=
  { s with
    inbound := Function.update s.inbound c (s.inbound c - 1)
    inward := s.inward.notified c }

def endPacketLoop (s : Endpoint) : Endpoint :=
  { s with packetLoop := .ended, inward := s.inward.notified .udp }

def stopDispatcher (s : Endpoint) : Endpoint :=
  { s with dispatcher := .stopped, inward := s.inward.notified .tcp }

def setFlow (s : Endpoint) (i : ℕ) (flow : Flow) : Endpoint :=
  { s with flows := s.flows.set i flow }

def setWorker (s : Endpoint) (i : ℕ) (worker : Worker) : Endpoint :=
  { s with workers := s.workers.set i worker }

def entryOf (s : Endpoint) (localAddr : SocketAddr) : Option ℕ :=
  s.flows.findIdx? fun flow => flow.hasEntry && flow.localAddr = localAddr

def locked (shard : SocketAddr → ℕ) (s : Endpoint) (localAddr : SocketAddr) : Bool :=
  match s.packetLoop with
  | .sending i => s.flows[i]?.any fun flow => shard flow.localAddr = shard localAddr
  | _ => false

/-- A packet of a new local address is the first in the channel of a new flow. -/
def handle (s : Endpoint) : Datagram → Endpoint
  | .invalid => s.endPacketLoop
  | .query answered => { s with packetLoop := if answered = true then .replying else .selecting }
  | .dropped => s
  | .data localAddr =>
    match s.entryOf localAddr with
    | some i => { s with packetLoop := .sending i }
    | none => { s with flows := s.flows ++ [⟨localAddr, 1, .selecting⟩] }

end Endpoint

def TunRead.place : TunRead → Inward
  | .packet c => .sending c
  | .ignored => .selecting
  | .failed => .ended

def outwardStep (s : Endpoint) : OutwardEvent → Option Endpoint
  | .recv =>
    if s.outward = .selecting ∧ s.signalled = false ∧ 0 < s.outbound then
      some { s with outward := .sending, outbound := s.outbound - 1 }
    else none
  | .wrote succeeded =>
    if s.outward = .sending then
      some { s with outward := if succeeded = true then .selecting else .ended }
    else none
  | .stop =>
    if s.outward = .selecting ∧
        (s.signalled = true ∨ s.outbound = 0 ∧ s.writersGone = true) then
      some { s with outward := .ended }
    else none

def inwardStep (setup : Setup) (s : Endpoint) : InwardEvent → Option Endpoint
  | .read packet =>
    if s.inward = .selecting ∧ s.signalled = false then some { s with inward := packet.place }
    else none
  | .poll =>
    match s.inward with
    | .sending c =>
      if s.gone c = true then some { s with inward := .ended }
      else if s.inbound c < setup.channelSize then
        some { s with
          inward := .selecting, inbound := Function.update s.inbound c (s.inbound c + 1) }
      else some { s with inward := .dropping c false }
    | _ => none
  | .drop =>
    match s.inward with
    | .dropping c woken =>
      some { s with inward := if woken = true then .sending c else .parked c }
    | _ => none
  | .stop =>
    if s.inward = .selecting ∧ s.signalled = true then some { s with inward := .ended } else none

def packetLoopStep (setup : Setup) (s : Endpoint) : PacketLoopEvent → Option Endpoint
  | .recv datagram =>
    if s.packetLoop = .selecting ∧ s.signalled = false ∧ 0 < s.inbound .udp then
      some ((s.take .udp).handle datagram)
    else none
  | .reply =>
    if s.packetLoop = .replying then
      if s.outward = .ended then some { s with packetLoop := .selecting }
      else if s.outbound < setup.channelSize then
        some { s with packetLoop := .selecting, outbound := s.outbound + 1 }
      else none
    else none
  | .replyFails =>
    if s.packetLoop = .replying then some { s with packetLoop := .selecting } else none
  | .send =>
    match s.packetLoop with
    | .sending i => s.flows[i]?.bind fun flow =>
      -- a flow with an entry has its receiver, so the send does not fail
      if flow.queue < setup.sessionCapacity then
        some { s.setFlow i { flow with queue := flow.queue + 1 } with packetLoop := .selecting }
      else none
    | _ => none
  | .stop =>
    if s.packetLoop = .selecting ∧
        (s.signalled = true ∨ s.inward = .ended ∧ s.inbound .udp = 0) then
      some s.endPacketLoop
    else none

def flowStep (setup : Setup) (shard : SocketAddr → ℕ) (s : Endpoint) (i : ℕ) (flow : Flow) :
    FlowEvent → Option Endpoint
  | .recv =>
    if flow.phase = .selecting ∧ 0 < flow.queue then
      some (s.setFlow i { flow with queue := flow.queue - 1, phase := .sendingUp })
    else none
  | .sent =>
    if flow.phase = .sendingUp then some (s.setFlow i { flow with phase := .selecting })
    else none
  | .response =>
    if flow.phase = .selecting then some (s.setFlow i { flow with phase := .writing }) else none
  | .write =>
    if flow.phase = .writing then
      if s.outward = .ended then some (s.setFlow i { flow with phase := .ending })
      else if s.outbound < setup.channelSize then
        some { s.setFlow i { flow with phase := .selecting } with outbound := s.outbound + 1 }
      else none
    else none
  | .writeFails =>
    if flow.phase = .writing then some (s.setFlow i { flow with phase := .ending }) else none
  | .idle =>
    if flow.phase = .selecting then some (s.setFlow i { flow with phase := .ending }) else none
  | .remove =>
    if flow.phase = .ending ∧ s.locked shard flow.localAddr = false then
      some (s.setFlow i { flow with phase := .removed })
    else none
  | .finish =>
    if flow.phase = .removed then some (s.setFlow i { flow with phase := .closed }) else none

/-- Without workers the index is a remainder by zero or out of bounds, and the task panics. -/
def dispatcherStep (setup : Setup) (s : Endpoint) : DispatcherEvent → Option Endpoint
  | .recv i =>
    if s.dispatcher = .selecting ∧ 0 < s.inbound .tcp then
      if s.workers = [] then some (s.take .tcp).stopDispatcher
      else if i < s.workers.length then some { s.take .tcp with dispatcher := .sending i }
      else none
    else none
  | .send =>
    match s.dispatcher with
    | .sending i => s.workers[i]?.bind fun worker =>
      if worker.running = false then some s.stopDispatcher
      else if worker.queue < setup.channelSize then
        some { s.setWorker i { worker with queue := worker.queue + 1 } with
          dispatcher := .selecting }
      else none
    | _ => none
  | .stop =>
    if s.dispatcher = .selecting ∧
        (s.accepting = false ∨ s.inward = .ended ∧ s.inbound .tcp = 0) then
      some s.stopDispatcher
    else none

def workerStep (setup : Setup) (s : Endpoint) (i : ℕ) (worker : Worker) :
    WorkerEvent → Option Endpoint
  | .recv =>
    if worker.running = true ∧ 0 < worker.queue then
      some (s.setWorker i { worker with queue := worker.queue - 1 })
    else none
  | .emit =>
    if worker.running = true ∧ s.outward ≠ .ended ∧ s.outbound < setup.channelSize then
      some { s with outbound := s.outbound + 1 }
    else none
  | .exit =>
    if worker.running = true ∧
        (s.accepting = false ∨ s.dispatcher = .stopped ∧ worker.queue = 0) then
      some (s.setWorker i { worker with running := false })
    else none

def endpointStep (setup : Setup) (shard : SocketAddr → ℕ) (s : Endpoint) :
    Event → Option Endpoint
  | .signal => if s.signalled = false then some { s with signalled := true } else none
  | .join =>
    if s.signalled = true ∧ s.finished[s.joined]? = some true then
      some { s with joined := s.joined + 1 }
    else none
  | .outward e => outwardStep s e
  | .inward e => inwardStep setup s e
  | .acceptorStops =>
    if s.accepting = true ∧
        (s.signalled = true ∨ ∀ worker ∈ s.workers, worker.running = false) then
      some { s with accepting := false }
    else none
  | .packetLoop e => packetLoopStep setup s e
  | .flow i e => s.flows[i]?.bind fun flow => flowStep setup shard s i flow e
  | .dispatcher e => dispatcherStep setup s e
  | .worker i e => s.workers[i]?.bind fun worker => workerStep setup s i worker e

def endpointSystem (setup : Setup) (shard : SocketAddr → ℕ) : System Endpoint Event :=
  ⟨.new setup, endpointStep setup shard⟩

/-! ## What a step can do -/

section Steps
variable {setup : Setup} {shard : SocketAddr → ℕ} {s u : Endpoint} {i : ℕ} {flow : Flow}
  {worker : Worker}

/-- The stack can still be given a packet for the device. -/
def HasRoom (setup : Setup) (s : Endpoint) : Prop :=
  s.outward ≠ .ended ∧ s.outbound < setup.channelSize

@[simp] theorem notified_parked (c d : Inbound) :
    (Inward.parked d).notified c = .parked d := rfl

theorem notified_asleep {place : Inward} {c d : Inbound}
    (asleep : place.notified c = .dropping d false) : place = .dropping d false ∧ d ≠ c := by
  cases place with
  | dropping e woken =>
    simp only [Inward.notified, Inward.dropping.injEq, Bool.or_eq_false_iff,
      decide_eq_false_iff_not] at asleep
    obtain ⟨rfl, rfl, other⟩ := asleep
    exact ⟨rfl, other⟩
  | selecting | sending | parked | ended => cases asleep

theorem notified_twice (place : Inward) (c : Inbound) :
    (place.notified c).notified c = place.notified c := by
  cases place <;> simp [Inward.notified]

theorem notified_ended {place : Inward} {c : Inbound} (ended : place = .ended) :
    place.notified c = .ended := by
  rw [ended]
  rfl

theorem outwardStep_cases {e : OutwardEvent} (h : outwardStep s e = some u) :
    ∃ place n, u = { s with outward := place, outbound := n } ∧ s.outward ≠ .ended ∧
      (s.signalled = true → n = s.outbound) := by
  cases e with
  | recv =>
    obtain ⟨⟨here, calm, _⟩, ⟨⟩⟩ := Option.ite_none_right_eq_some.1 h
    exact ⟨_, _, rfl, by simp [here], by simp [calm]⟩
  | wrote succeeded =>
    obtain ⟨here, ⟨⟩⟩ := Option.ite_none_right_eq_some.1 h
    exact ⟨_, _, rfl, by simp [here], fun _ => rfl⟩
  | stop =>
    obtain ⟨⟨here, _⟩, ⟨⟩⟩ := Option.ite_none_right_eq_some.1 h
    exact ⟨_, _, rfl, by simp [here], fun _ => rfl⟩

theorem inwardStep_cases {e : InwardEvent} (h : inwardStep setup s e = some u) :
    ∃ place counts, u = { s with inward := place, inbound := counts } ∧ s.inward ≠ .ended ∧
      (∀ c, s.inward ≠ .parked c) ∧ ∀ c, place = .dropping c false → s.gone c = false := by
  cases e with
  | read packet =>
    obtain ⟨⟨here, _⟩, ⟨⟩⟩ := Option.ite_none_right_eq_some.1 h
    refine ⟨_, _, rfl, by simp [here], by simp [here], fun c asleep => ?_⟩
    cases packet <;> cases asleep
  | poll =>
    simp only [inwardStep] at h
    split at h
    · rename_i c here
      split_ifs at h with gone room
      · obtain rfl := Option.some.inj h
        exact ⟨_, _, rfl, by simp [here], by simp [here], nofun⟩
      · obtain rfl := Option.some.inj h
        exact ⟨_, _, rfl, by simp [here], by simp [here], nofun⟩
      · obtain rfl := Option.some.inj h
        refine ⟨_, _, rfl, by simp [here], by simp [here], ?_⟩
        rintro d ⟨⟩
        simpa using gone
    · cases h
  | drop =>
    simp only [inwardStep] at h
    split at h
    · rename_i c woken here
      obtain rfl := Option.some.inj h
      refine ⟨_, _, rfl, by simp [here], by simp [here], fun d asleep => ?_⟩
      cases woken <;> cases asleep
    · cases h
  | stop =>
    obtain ⟨⟨here, _⟩, ⟨⟩⟩ := Option.ite_none_right_eq_some.1 h
    exact ⟨_, _, rfl, by simp [here], by simp [here], nofun⟩

inductive LoopMoved (setup : Setup) (s : Endpoint) : Endpoint → Prop where
  | took (place : PacketLoop) (here : s.packetLoop = .selecting) (going : place ≠ .ended)
      (entry : ∀ i, place = .sending i →
        ∃ flow, s.flows[i]? = some flow ∧ flow.hasEntry = true) :
      LoopMoved setup s { s.take .udp with packetLoop := place }
  | spawned (flow : Flow) (here : s.packetLoop = .selecting) :
      LoopMoved setup s { s.take .udp with flows := s.flows ++ [flow] }
  | replied (n : ℕ) (here : s.packetLoop = .replying)
      (written : n = s.outbound ∨ HasRoom setup s ∧ n = s.outbound + 1) :
      LoopMoved setup s { s with packetLoop := .selecting, outbound := n }
  | sent (i : ℕ) (flow : Flow) (here : s.packetLoop = .sending i) (found : s.flows[i]? = some flow)
      (room : flow.queue < setup.sessionCapacity) :
      LoopMoved setup s
        { s.setFlow i { flow with queue := flow.queue + 1 } with packetLoop := .selecting }
  | invalid (here : s.packetLoop = .selecting) : LoopMoved setup s (s.take .udp).endPacketLoop
  | stopped (here : s.packetLoop = .selecting) : LoopMoved setup s s.endPacketLoop

theorem entryOf_eq_some {localAddr : SocketAddr} (h : s.entryOf localAddr = some i) :
    ∃ flow, s.flows[i]? = some flow ∧ flow.hasEntry = true := by
  obtain ⟨bound, own, _⟩ := List.findIdx?_eq_some_iff_getElem.1 h
  rw [Bool.and_eq_true] at own
  exact ⟨_, List.getElem?_eq_getElem bound, own.1⟩

theorem handle_moved (here : s.packetLoop = .selecting) (datagram : Datagram) :
    LoopMoved setup s ((s.take .udp).handle datagram) := by
  cases datagram with
  | invalid => exact .invalid here
  | query answered =>
    refine .took _ here ?_ ?_
    · cases answered <;> simp
    · cases answered <;> simp
  | dropped =>
    have same : (s.take .udp).handle .dropped = { s.take .udp with packetLoop := .selecting } := by
      rw [← here]
      rfl
    rw [same]
    exact .took _ here nofun nofun
  | data localAddr =>
    simp only [Endpoint.handle]
    split
    · rename_i i found
      refine .took _ here nofun ?_
      rintro j ⟨⟩
      exact entryOf_eq_some (s := s) found
    · exact .spawned _ here

theorem packetLoopStep_moved {e : PacketLoopEvent} (h : packetLoopStep setup s e = some u) :
    LoopMoved setup s u := by
  cases e with
  | recv datagram =>
    obtain ⟨⟨here, _⟩, ⟨⟩⟩ := Option.ite_none_right_eq_some.1 h
    exact handle_moved here datagram
  | reply =>
    obtain ⟨here, h⟩ := Option.ite_none_right_eq_some.1 h
    split_ifs at h with ended room
    · obtain rfl := Option.some.inj h
      exact .replied _ here (.inl rfl)
    · obtain rfl := Option.some.inj h
      exact .replied _ here (.inr ⟨⟨ended, room⟩, rfl⟩)
  | replyFails =>
    obtain ⟨here, ⟨⟩⟩ := Option.ite_none_right_eq_some.1 h
    exact .replied _ here (.inl rfl)
  | send =>
    simp only [packetLoopStep] at h
    split at h
    · rename_i i here
      obtain ⟨flow, found, h⟩ := Option.bind_eq_some_iff.1 h
      obtain ⟨room, ⟨⟩⟩ := Option.ite_none_right_eq_some.1 h
      exact .sent i flow here found room
    · cases h
  | stop =>
    obtain ⟨⟨here, _⟩, ⟨⟩⟩ := Option.ite_none_right_eq_some.1 h
    exact .stopped here

/-- A flow loses its entry only when the lock is free, and one that cannot write is no nearer to
its loop after a step. -/
structure FlowMoved (setup : Setup) (shard : SocketAddr → ℕ) (s : Endpoint) (flow flow' : Flow)
    (n : ℕ) : Prop where
  written : n = s.outbound ∨ HasRoom setup s ∧ n = s.outbound + 1
  entry : flow.hasEntry = true → s.locked shard flow.localAddr = true → flow'.hasEntry = true
  ending : flow.phase = .ending → s.locked shard flow.localAddr = false
  writing : flow.phase = .writing → ¬ HasRoom setup s →
    flow'.phase = .ending ∧ flow'.queue = flow.queue

theorem flowStep_cases {e : FlowEvent} (h : flowStep setup shard s i flow e = some u) :
    ∃ flow' n, u = { s with flows := s.flows.set i flow', outbound := n } ∧
      FlowMoved setup shard s flow flow' n := by
  cases e with
  | recv =>
    obtain ⟨⟨here, _⟩, ⟨⟩⟩ := Option.ite_none_right_eq_some.1 h
    exact ⟨_, _, rfl, .inl rfl, fun _ _ => rfl, by simp [here], by simp [here]⟩
  | sent | response | idle =>
    obtain ⟨here, ⟨⟩⟩ := Option.ite_none_right_eq_some.1 h
    exact ⟨_, _, rfl, .inl rfl, fun _ _ => rfl, by simp [here], by simp [here]⟩
  | write =>
    obtain ⟨here, h⟩ := Option.ite_none_right_eq_some.1 h
    split_ifs at h with ended room
    · obtain rfl := Option.some.inj h
      exact ⟨_, _, rfl, .inl rfl, fun _ _ => rfl, by simp [here], fun _ _ => ⟨rfl, rfl⟩⟩
    · obtain rfl := Option.some.inj h
      exact ⟨_, _, rfl, .inr ⟨⟨ended, room⟩, rfl⟩, fun _ _ => rfl, by simp [here],
        fun _ none_left => absurd ⟨ended, room⟩ none_left⟩
  | writeFails =>
    obtain ⟨here, ⟨⟩⟩ := Option.ite_none_right_eq_some.1 h
    exact ⟨_, _, rfl, .inl rfl, fun _ _ => rfl, by simp [here], fun _ _ => ⟨rfl, rfl⟩⟩
  | remove =>
    obtain ⟨⟨here, free⟩, ⟨⟩⟩ := Option.ite_none_right_eq_some.1 h
    exact ⟨_, _, rfl, .inl rfl, fun _ locked => absurd (free.symm.trans locked) nofun,
      fun _ => free, by simp [here]⟩
  | finish =>
    obtain ⟨here, ⟨⟩⟩ := Option.ite_none_right_eq_some.1 h
    exact ⟨_, _, rfl, .inl rfl, by simp [Flow.hasEntry, here], by simp [here], by simp [here]⟩

/-- The forwarding task hears of a step that frees a slot or closes the channel. -/
theorem dispatcherStep_cases {e : DispatcherEvent} (h : dispatcherStep setup s e = some u) :
    ∃ place workers counts woken, u = { s with
        dispatcher := place, workers := workers, inbound := counts, inward := woken } ∧
      s.dispatcher ≠ .stopped ∧
      (woken = s.inward ∧ place ≠ .stopped ∨ woken = s.inward.notified .tcp) ∧
      workers.length = s.workers.length ∧ ∀ i, place = .sending i → i < s.workers.length := by
  cases e with
  | recv i =>
    obtain ⟨⟨here, _⟩, h⟩ := Option.ite_none_right_eq_some.1 h
    split_ifs at h with _ bound
    · obtain rfl := Option.some.inj h
      exact ⟨.stopped, s.workers, _, _, rfl, by simp [here], .inr (notified_twice ..), rfl, nofun⟩
    · obtain rfl := Option.some.inj h
      refine ⟨_, _, _, _, rfl, by simp [here], .inr rfl, rfl, ?_⟩
      rintro j ⟨⟩
      exact bound
  | send =>
    simp only [dispatcherStep] at h
    split at h
    · rename_i i here
      obtain ⟨worker, _, h⟩ := Option.bind_eq_some_iff.1 h
      split_ifs at h
      · obtain rfl := Option.some.inj h
        exact ⟨_, _, _, _, rfl, by simp [here], .inr rfl, rfl, nofun⟩
      · obtain rfl := Option.some.inj h
        exact ⟨_, _, _, _, rfl, by simp [here], .inl ⟨rfl, nofun⟩, List.length_set, nofun⟩
    · cases h
  | stop =>
    obtain ⟨⟨here, _⟩, ⟨⟩⟩ := Option.ite_none_right_eq_some.1 h
    exact ⟨_, _, _, _, rfl, by simp [here], .inr rfl, rfl, nofun⟩

theorem workerStep_cases {e : WorkerEvent} (h : workerStep setup s i worker e = some u) :
    ∃ workers n, u = { s with workers := workers, outbound := n } ∧
      (n = s.outbound ∨ HasRoom setup s ∧ n = s.outbound + 1) ∧
      workers.length = s.workers.length := by
  cases e with
  | recv | exit =>
    obtain ⟨_, ⟨⟩⟩ := Option.ite_none_right_eq_some.1 h
    exact ⟨_, _, rfl, .inl rfl, List.length_set⟩
  | emit =>
    obtain ⟨⟨_, room⟩, ⟨⟩⟩ := Option.ite_none_right_eq_some.1 h
    exact ⟨_, _, rfl, .inr ⟨room, rfl⟩, rfl⟩

end Steps

/-! ## What holds all along -/

section Invariant
variable {setup : Setup} {shard : SocketAddr → ℕ} {s u : Endpoint} {e : Event}

/-- The packet loop waits for a flow that still has its entry and the dispatcher for a worker, a
channel that closes wakes the forwarding task, and `accept_loop` has awaited tasks that are over. -/
structure Sound (s : Endpoint) : Prop where
  entry : ∀ i, s.packetLoop = .sending i → ∃ flow, s.flows[i]? = some flow ∧ flow.hasEntry = true
  worker : ∀ i, s.dispatcher = .sending i → i < s.workers.length
  asleep : ∀ c, s.inward = .dropping c false → s.gone c = false
  joins : ∀ n < s.joined, s.finished[n]? = some true

theorem sound_new (setup : Setup) : Sound (.new setup) where
  entry i h := by cases h
  worker i h := by cases h
  asleep c h := by cases h
  joins n h := absurd h (Nat.not_lt_zero n)

/-- A task that is over stays over. -/
theorem joins_mono (joins : ∀ n < s.joined, s.finished[n]? = some true) (same : u.joined = s.joined)
    (outward : s.outward = .ended → u.outward = .ended)
    (inward : s.inward = .ended → u.inward = .ended)
    (accepting : s.accepting = false → u.accepting = false)
    (packetLoop : s.packetLoop = .ended → u.packetLoop = .ended) :
    ∀ n < u.joined, u.finished[n]? = some true := by
  intro n below
  have before := joins n (same ▸ below)
  match n with
  | 0 => simpa [Endpoint.finished] using outward (by simpa [Endpoint.finished] using before)
  | 1 => simpa [Endpoint.finished] using inward (by simpa [Endpoint.finished] using before)
  | 2 => simpa [Endpoint.finished] using accepting (by simpa [Endpoint.finished] using before)
  | 3 => simpa [Endpoint.finished] using packetLoop (by simpa [Endpoint.finished] using before)
  | n + 4 => simp [Endpoint.finished] at before

/-- The packet loop has taken a packet, or has dropped its receiver. -/
theorem asleep_udp (inv : Sound s) (same : u.dispatcher = s.dispatcher)
    (woken : u.inward = s.inward.notified .udp) (c : Inbound) (asleep : u.inward = .dropping c false) :
    u.gone c = false := by
  rw [woken] at asleep
  obtain ⟨before, other⟩ := notified_asleep asleep
  cases c with
  | udp => exact absurd rfl other
  | tcp => simpa [Endpoint.gone, same] using inv.asleep .tcp before

theorem packetLoop_sound (inv : Sound s) (moved : LoopMoved setup s u) : Sound u := by
  cases moved with
  | took place here going entry =>
    have before : s.packetLoop ≠ .ended := by simp [here]
    exact { inv with
      entry := entry
      asleep := asleep_udp inv rfl rfl
      joins := joins_mono inv.joins rfl id notified_ended id (absurd · before) }
  | spawned flow here =>
    have before : s.packetLoop ≠ .ended := by simp [here]
    refine { inv with entry := fun i waits => ?_, asleep := asleep_udp inv rfl rfl, joins := ?_ }
    · cases here.symm.trans waits
    · exact joins_mono inv.joins rfl id notified_ended id (absurd · before)
  | replied n here written =>
    have before : s.packetLoop ≠ .ended := by simp [here]
    refine { inv with entry := nofun, asleep := fun c asleep => ?_, joins := ?_ }
    · cases c with
      | udp => rfl
      | tcp => exact inv.asleep .tcp asleep
    · exact joins_mono inv.joins rfl id id id (absurd · before)
  | sent i flow here found room =>
    have before : s.packetLoop ≠ .ended := by simp [here]
    refine { inv with entry := nofun, asleep := fun c asleep => ?_, joins := ?_ }
    · cases c with
      | udp => rfl
      | tcp => exact inv.asleep .tcp asleep
    · exact joins_mono inv.joins rfl id id id (absurd · before)
  | invalid here =>
    exact { inv with
      entry := nofun
      asleep := asleep_udp inv rfl (notified_twice ..)
      joins := joins_mono inv.joins rfl id (notified_ended <| notified_ended ·) id fun _ => rfl }
  | stopped here =>
    exact { inv with
      entry := nofun
      asleep := asleep_udp inv rfl rfl
      joins := joins_mono inv.joins rfl id notified_ended id fun _ => rfl }

theorem flow_locked {i : ℕ} {flow : Flow} (here : s.packetLoop = .sending i)
    (found : s.flows[i]? = some flow) : s.locked shard flow.localAddr = true := by
  simp [Endpoint.locked, here, found]

theorem flow_sound (inv : Sound s) {i : ℕ} {flow flow' : Flow} {n : ℕ}
    (found : s.flows[i]? = some flow) (moved : FlowMoved setup shard s flow flow' n) :
    Sound { s with flows := s.flows.set i flow', outbound := n } where
  worker := inv.worker
  entry j here := by
    obtain ⟨other, there, own⟩ := inv.entry j here
    by_cases same : j = i
    · subst same
      obtain rfl : flow = other := Option.some.inj (found.symm.trans there)
      exact ⟨flow', getElem?_set_of_some found, moved.entry own (flow_locked here found)⟩
    · exact ⟨other, (List.getElem?_set_ne (Ne.symm same)).trans there, own⟩
  asleep := inv.asleep
  joins := inv.joins

theorem endpointStep_sound (inv : Sound s) (h : endpointStep setup shard s e = some u) :
    Sound u := by
  cases e with
  | signal =>
    obtain ⟨_, ⟨⟩⟩ := Option.ite_none_right_eq_some.1 h
    exact { inv with }
  | join =>
    obtain ⟨⟨_, last⟩, ⟨⟩⟩ := Option.ite_none_right_eq_some.1 h
    refine { inv with joins := fun n below => ?_ }
    rcases Nat.lt_succ_iff_lt_or_eq.1 below with earlier | rfl
    · exact inv.joins n earlier
    · exact last
  | outward e =>
    obtain ⟨place, n, rfl, going, _⟩ := outwardStep_cases h
    exact { inv with joins := joins_mono inv.joins rfl (absurd · going) id id id }
  | inward e =>
    obtain ⟨place, counts, rfl, going, _, asleep⟩ := inwardStep_cases h
    exact { inv with
      asleep := asleep
      joins := joins_mono inv.joins rfl id (absurd · going) id id }
  | acceptorStops =>
    obtain ⟨_, ⟨⟩⟩ := Option.ite_none_right_eq_some.1 h
    exact { inv with joins := joins_mono inv.joins rfl id id (fun _ => rfl) id }
  | packetLoop e => exact packetLoop_sound inv (packetLoopStep_moved h)
  | flow i e =>
    obtain ⟨flow, found, h⟩ := Option.bind_eq_some_iff.1 h
    obtain ⟨flow', n, rfl, moved⟩ := flowStep_cases h
    exact flow_sound inv found moved
  | dispatcher e =>
    obtain ⟨place, workers, counts, woken, rfl, _, heard, length, bound⟩ := dispatcherStep_cases h
    refine { inv with
      worker := fun i sending => length ▸ bound i sending
      asleep := fun c asleep => ?_
      joins := ?_ }
    · rcases heard with ⟨rfl, running⟩ | rfl
      · cases c with
        | udp => exact inv.asleep .udp asleep
        | tcp => simp [Endpoint.gone, running]
      · obtain ⟨before, other⟩ := notified_asleep asleep
        cases c with
        | udp => exact inv.asleep .udp before
        | tcp => exact absurd rfl other
    · refine joins_mono inv.joins rfl id (fun ended => ?_) id id
      rcases heard with ⟨rfl, _⟩ | rfl
      · exact ended
      · exact notified_ended ended
  | worker i e =>
    obtain ⟨worker, _, h⟩ := Option.bind_eq_some_iff.1 h
    obtain ⟨workers, n, rfl, _, length⟩ := workerStep_cases h
    exact { inv with worker := fun i sending => length ▸ inv.worker i sending }

end Invariant

/-! ## Where the shutdown hangs -/

section Hanging
variable {setup : Setup} {shard : SocketAddr → ℕ} {s u : Endpoint} {e : Event}

/-- The packet loop waits for room in the channel of a flow that waits for the packet loop's lock,
or will do so since it can write no more. -/
def Caught (setup : Setup) (s : Endpoint) : Prop :=
  ∃ i flow, s.packetLoop = .sending i ∧ s.flows[i]? = some flow ∧
    setup.sessionCapacity ≤ flow.queue ∧
    (flow.phase = .ending ∨ flow.phase = .writing ∧ ¬ HasRoom setup s)

/-- The forwarding task has no waker, or the packet loop is caught. -/
def Stuck (setup : Setup) (s : Endpoint) : Prop :=
  (∃ c, s.inward = .parked c) ∨ Caught setup s

theorem signalled_step (signalled : s.signalled = true)
    (h : endpointStep setup shard s e = some u) : u.signalled = true := by
  cases e with
  | signal | join | acceptorStops =>
    obtain ⟨_, ⟨⟩⟩ := Option.ite_none_right_eq_some.1 h
    first
    | rfl
    | exact signalled
  | outward e =>
    obtain ⟨_, _, rfl, _⟩ := outwardStep_cases h
    exact signalled
  | inward e =>
    obtain ⟨_, _, rfl, _⟩ := inwardStep_cases h
    exact signalled
  | packetLoop e => cases packetLoopStep_moved h <;> exact signalled
  | flow i e =>
    obtain ⟨_, _, h⟩ := Option.bind_eq_some_iff.1 h
    obtain ⟨_, _, rfl, _⟩ := flowStep_cases h
    exact signalled
  | dispatcher e =>
    obtain ⟨_, _, _, _, rfl, _⟩ := dispatcherStep_cases h
    exact signalled
  | worker i e =>
    obtain ⟨_, _, h⟩ := Option.bind_eq_some_iff.1 h
    obtain ⟨_, _, rfl, _⟩ := workerStep_cases h
    exact signalled

theorem hasRoom_grown {n : ℕ} (written : n = s.outbound ∨ HasRoom setup s ∧ n = s.outbound + 1)
    (room : s.outward ≠ .ended ∧ n < setup.channelSize) : HasRoom setup s := by
  rcases written with rfl | ⟨before, _⟩
  · exact room
  · exact before

/-- After the signal nothing is taken out of the outbound channel. -/
theorem hasRoom_step (signalled : s.signalled = true)
    (h : endpointStep setup shard s e = some u) (room : HasRoom setup u) : HasRoom setup s := by
  cases e with
  | signal | join | acceptorStops =>
    obtain ⟨_, ⟨⟩⟩ := Option.ite_none_right_eq_some.1 h
    exact room
  | outward e =>
    obtain ⟨_, _, rfl, going, kept⟩ := outwardStep_cases h
    exact ⟨going, kept signalled ▸ room.2⟩
  | inward e =>
    obtain ⟨_, _, rfl, _⟩ := inwardStep_cases h
    exact room
  | packetLoop e =>
    cases packetLoopStep_moved h with
    | replied n here written => exact hasRoom_grown written room
    | took | spawned | sent | invalid | stopped => exact room
  | flow i e =>
    obtain ⟨_, _, h⟩ := Option.bind_eq_some_iff.1 h
    obtain ⟨_, _, rfl, moved⟩ := flowStep_cases h
    exact hasRoom_grown moved.written room
  | dispatcher e =>
    obtain ⟨_, _, _, _, rfl, _⟩ := dispatcherStep_cases h
    exact room
  | worker i e =>
    obtain ⟨_, _, h⟩ := Option.bind_eq_some_iff.1 h
    obtain ⟨_, _, rfl, written, _⟩ := workerStep_cases h
    exact hasRoom_grown written room

theorem parked_step {c : Inbound} (parked : s.inward = .parked c)
    (h : endpointStep setup shard s e = some u) : u.inward = .parked c := by
  have asleep : ∀ d, s.inward.notified d = .parked c := fun d => by rw [parked, notified_parked]
  cases e with
  | signal | join | acceptorStops =>
    obtain ⟨_, ⟨⟩⟩ := Option.ite_none_right_eq_some.1 h
    exact parked
  | outward e =>
    obtain ⟨_, _, rfl, _⟩ := outwardStep_cases h
    exact parked
  | inward e =>
    obtain ⟨_, _, rfl, _, awake, _⟩ := inwardStep_cases h
    exact absurd parked (awake c)
  | packetLoop e =>
    cases packetLoopStep_moved h with
    | took | spawned | stopped => exact asleep .udp
    | replied | sent => exact parked
    | invalid => exact (notified_twice ..).trans (asleep .udp)
  | flow i e =>
    obtain ⟨_, _, h⟩ := Option.bind_eq_some_iff.1 h
    obtain ⟨_, _, rfl, _⟩ := flowStep_cases h
    exact parked
  | dispatcher e =>
    obtain ⟨_, _, _, woken, rfl, _, heard, _⟩ := dispatcherStep_cases h
    rcases heard with ⟨rfl, _⟩ | rfl
    · exact parked
    · exact asleep .tcp
  | worker i e =>
    obtain ⟨_, _, h⟩ := Option.bind_eq_some_iff.1 h
    obtain ⟨_, _, rfl, _⟩ := workerStep_cases h
    exact parked

/-- Nothing that leaves the packet loop and the flows alone sets it free. -/
theorem Caught.same (caught : Caught setup s) (packetLoop : u.packetLoop = s.packetLoop)
    (flows : u.flows = s.flows) (room : HasRoom setup u → HasRoom setup s) : Caught setup u := by
  obtain ⟨i, flow, here, found, full, waits⟩ := caught
  refine ⟨i, flow, packetLoop.trans here, flows ▸ found, full, ?_⟩
  exact waits.imp_right fun ⟨writing, none_left⟩ => ⟨writing, none_left ∘ room⟩

theorem caught_flow (caught : Caught setup s) {i : ℕ} {flow flow' : Flow} {n : ℕ}
    (found : s.flows[i]? = some flow) (moved : FlowMoved setup shard s flow flow' n) :
    Caught setup { s with flows := s.flows.set i flow', outbound := n } := by
  obtain ⟨j, other, here, there, full, waits⟩ := caught
  by_cases same : j = i
  · subst same
    obtain rfl : flow = other := Option.some.inj (found.symm.trans there)
    have locked : s.locked shard flow.localAddr = true := flow_locked here found
    rcases waits with ending | ⟨writing, none_left⟩
    · cases (moved.ending ending).symm.trans locked
    · obtain ⟨ending, queue⟩ := moved.writing writing none_left
      exact ⟨j, flow', here, getElem?_set_of_some found, queue ▸ full, .inl ending⟩
  · refine ⟨j, other, here, (List.getElem?_set_ne (Ne.symm same)).trans there, full, ?_⟩
    exact waits.imp_right fun ⟨writing, none_left⟩ =>
      ⟨writing, fun room => none_left (hasRoom_grown moved.written room)⟩

theorem caught_step (signalled : s.signalled = true) (caught : Caught setup s)
    (h : endpointStep setup shard s e = some u) : Caught setup u := by
  have room := hasRoom_step signalled h
  cases e with
  | signal | join | acceptorStops =>
    obtain ⟨_, ⟨⟩⟩ := Option.ite_none_right_eq_some.1 h
    exact caught.same rfl rfl room
  | outward e =>
    obtain ⟨_, _, rfl, _⟩ := outwardStep_cases h
    exact caught.same rfl rfl room
  | inward e =>
    obtain ⟨_, _, rfl, _⟩ := inwardStep_cases h
    exact caught.same rfl rfl room
  | packetLoop e =>
    obtain ⟨i, flow, sending, found, full, _⟩ := caught
    cases packetLoopStep_moved h with
    | took _ here | spawned _ here | replied _ here | invalid here | stopped here =>
      cases sending.symm.trans here
    | sent j other here there some_room =>
      obtain rfl : i = j := PacketLoop.sending.inj (sending.symm.trans here)
      obtain rfl : flow = other := Option.some.inj (found.symm.trans there)
      exact absurd some_room (Nat.not_lt.2 full)
  | flow i e =>
    obtain ⟨_, found, h⟩ := Option.bind_eq_some_iff.1 h
    obtain ⟨_, _, rfl, moved⟩ := flowStep_cases h
    exact caught_flow caught found moved
  | dispatcher e =>
    obtain ⟨_, _, _, _, rfl, _⟩ := dispatcherStep_cases h
    exact caught.same rfl rfl room
  | worker i e =>
    obtain ⟨_, _, h⟩ := Option.bind_eq_some_iff.1 h
    obtain ⟨_, _, rfl, _⟩ := workerStep_cases h
    exact caught.same rfl rfl room

theorem stuck_step (signalled : s.signalled = true) (stuck : Stuck setup s)
    (h : endpointStep setup shard s e = some u) : Stuck setup u :=
  stuck.imp (fun ⟨c, parked⟩ => ⟨c, parked_step parked h⟩) fun caught =>
    caught_step signalled caught h

/-- `accept_loop` has awaited all four tasks, and one of them waits for good. -/
theorem not_returned (inv : Sound s) (stuck : Stuck setup s) : s.returned = false := by
  by_contra unreturned
  have all : s.joined = 4 := by simpa [Endpoint.returned, Endpoint.finished] using unreturned
  rcases stuck with ⟨c, parked⟩ | ⟨i, flow, sending, _⟩
  · have inward := inv.joins 1 (by omega)
    simp [Endpoint.finished, parked] at inward
  · have packetLoop := inv.joins 3 (by omega)
    simp [Endpoint.finished, sending] at packetLoop

end Hanging

/-! ## The way to the end -/

section Winding
variable {setup : Setup} {shard : SocketAddr → ℕ} {s u : Endpoint} {i : ℕ} {flow flow' : Flow}

/-- What happens without a packet or a response from outside, and without a failure or a
time-out. -/
def Winds : Event → Prop
  | .signal | .inward (.read _) | .outward (.wrote false) | .packetLoop .replyFails |
    .flow _ .response | .flow _ .writeFails | .flow _ .idle => False
  | _ => True

def Outward.rank : Outward → ℕ
  | .sending => 2
  | .selecting => 1
  | .ended => 0

def Inward.rank : Inward → ℕ
  | .dropping .. => 3
  | .sending _ => 2
  | .selecting => 1
  | .parked _ | .ended => 0

def Dispatcher.rank : Dispatcher → ℕ
  | .sending _ => 2
  | .selecting => 1
  | .stopped => 0

def FlowPhase.rank : FlowPhase → ℕ
  | .writing | .sendingUp => 2
  | .selecting => 1
  | .ending | .removed | .closed => 0

def Flow.rank (setup : Setup) (flow : Flow) : ℕ :=
  3 * (flow.queue + 1 - setup.sessionCapacity) + flow.phase.rank

def loopRank (setup : Setup) (s : Endpoint) : ℕ :=
  match s.packetLoop with
  | .sending i => 2 + ((s.flows[i]?.map (Flow.rank setup)).getD 0)
  | .replying => 2
  | .selecting => 1
  | .ended => 0

def remaining (setup : Setup) (s : Endpoint) : ℕ :=
  s.outward.rank + s.inward.rank + s.accepting.toNat + loopRank setup s + s.dispatcher.rank +
    (s.workers.countP Worker.running) + (s.finished.length - s.joined)

theorem notified_rank (place : Inward) (c : Inbound) : (place.notified c).rank = place.rank := by
  cases place <;> rfl

def Progresses (setup : Setup) (shard : SocketAddr → ℕ) (s : Endpoint) : Prop :=
  ∃ e u, Winds e ∧ endpointStep setup shard s e = some u ∧ ¬ Stuck setup u ∧
    remaining setup u < remaining setup s

def Awake (s : Endpoint) : Prop := ∀ c, s.inward ≠ .parked c

theorem not_stuck_of (awake : Awake s) (free : ∀ i, s.packetLoop ≠ .sending i) :
    ¬ Stuck setup s := by
  rintro (⟨c, parked⟩ | ⟨i, _, sending, _⟩)
  · exact awake c parked
  · exact free i sending

theorem notified_awake (awake : Awake s) (c d : Inbound) : s.inward.notified c ≠ .parked d := by
  intro parked
  cases place : s.inward with
  | parked e => exact awake e place
  | selecting | sending | dropping | ended => simp [place, Inward.notified] at parked

/-- A flow on its way to room in the channel that the packet loop waits for. -/
theorem flow_progresses (awake : Awake s) (here : s.packetLoop = .sending i)
    (found : s.flows[i]? = some flow) {e : FlowEvent} {n : ℕ} (winds : Winds (.flow i e))
    (step : flowStep setup shard s i flow e =
      some { s with flows := s.flows.set i flow', outbound := n })
    (going : flow'.phase = .selecting ∨ flow'.phase = .sendingUp)
    (less : flow'.rank setup < flow.rank setup) : Progresses setup shard s := by
  have set_self : (s.flows.set i flow')[i]? = some flow' := getElem?_set_of_some found
  refine ⟨.flow i e, { s with flows := s.flows.set i flow', outbound := n }, winds, ?_, ?_, ?_⟩
  · simp only [endpointStep, found, Option.bind_some, step]
  · rintro (⟨c, parked⟩ | ⟨j, other, sending, there, _, waits⟩)
    · exact awake c parked
    · obtain rfl : i = j := PacketLoop.sending.inj (here.symm.trans sending)
      obtain rfl : flow' = other := Option.some.inj (set_self.symm.trans there)
      rcases going with phase | phase <;> simp [phase] at waits
  · simp only [remaining, loopRank, here, set_self, found, Option.map_some, Option.getD_some,
      Endpoint.finished_length]
    omega

/-- The packet loop gets its packet into the flow's channel, or the flow comes nearer to taking
one. -/
theorem sending_progresses (inv : Sound s) (free : ¬ Stuck setup s)
    (here : s.packetLoop = .sending i) : Progresses setup shard s := by
  have awake : Awake s := fun c parked => free (.inl ⟨c, parked⟩)
  obtain ⟨flow, found, entry⟩ := inv.entry i here
  by_cases room : flow.queue < setup.sessionCapacity
  · refine ⟨.packetLoop .send, { s.setFlow i { flow with queue := flow.queue + 1 } with
      packetLoop := .selecting }, trivial, ?_, not_stuck_of awake nofun, ?_⟩
    · simp only [endpointStep, packetLoopStep, here, found, Option.bind_some, if_pos room]
    · simp only [remaining, loopRank, here, Endpoint.setFlow, Endpoint.finished_length]
      omega
  · have full : setup.sessionCapacity ≤ flow.queue := Nat.le_of_not_lt room
    have positive : 0 < flow.queue := setup.session_pos.trans_le full
    cases phase : flow.phase with
    | selecting =>
      refine flow_progresses awake here found (e := .recv) (n := s.outbound) trivial
        (if_pos ⟨phase, positive⟩) (.inr rfl) ?_
      simp only [Flow.rank, phase, FlowPhase.rank]
      omega
    | sendingUp =>
      refine flow_progresses awake here found (e := .sent) (n := s.outbound) trivial
        (if_pos phase) (.inl rfl) ?_
      simp only [Flow.rank, phase, FlowPhase.rank]
      omega
    | writing =>
      obtain ⟨outward, some_room⟩ : HasRoom setup s := by
        by_contra none_left
        exact free (.inr ⟨i, flow, here, found, full, .inr ⟨phase, none_left⟩⟩)
      refine flow_progresses awake here found (e := .write) (n := s.outbound + 1) trivial
        ((if_pos phase).trans ((if_neg outward).trans (if_pos some_room))) (.inl rfl) ?_
      simp only [Flow.rank, phase, FlowPhase.rank]
      omega
    | ending => exact absurd (.inr ⟨i, flow, here, found, full, .inl phase⟩) free
    | removed | closed => simp [Flow.hasEntry, phase] at entry

/-- A DNS response goes to the stack, or waits for a channel that will close. -/
theorem replying_progresses (signalled : s.signalled = true) (awake : Awake s)
    (here : s.packetLoop = .replying) : Progresses setup shard s := by
  have free : ∀ i, s.packetLoop ≠ .sending i := by simp [here]
  cases outward : s.outward with
  | ended =>
    refine ⟨.packetLoop .reply, { s with packetLoop := .selecting }, trivial, ?_,
      not_stuck_of awake nofun, ?_⟩
    · simp only [endpointStep, packetLoopStep, here, outward, if_true]
    · simp only [remaining, loopRank, here, Endpoint.finished_length]
      omega
  | selecting =>
    refine ⟨.outward .stop, { s with outward := .ended }, trivial,
      if_pos ⟨outward, .inl signalled⟩, not_stuck_of awake free, ?_⟩
    simp only [remaining, loopRank, here, outward, Outward.rank, Endpoint.finished_length]
    omega
  | sending =>
    refine ⟨.outward (.wrote true), { s with outward := .selecting }, trivial, if_pos outward,
      not_stuck_of awake free, ?_⟩
    simp only [remaining, loopRank, here, outward, Outward.rank, Endpoint.finished_length]
    omega

/-- Without the `TcpConnection` the dispatcher stops, if need be once its worker has. -/
theorem dispatcher_progresses (inv : Sound s) (awake : Awake s) (here : s.packetLoop = .ended)
    (accepting : s.accepting = false) (going : s.dispatcher ≠ .stopped) :
    Progresses setup shard s := by
  have free : ∀ i, s.packetLoop ≠ .sending i := by simp [here]
  cases dispatcher : s.dispatcher with
  | selecting =>
    refine ⟨.dispatcher .stop, s.stopDispatcher, trivial, if_pos ⟨dispatcher, .inl accepting⟩,
      not_stuck_of (notified_awake awake .tcp) free, ?_⟩
    simp only [remaining, loopRank, here, Endpoint.stopDispatcher, dispatcher, Dispatcher.rank,
      Endpoint.finished_length, notified_rank]
    omega
  | sending i =>
    have bound := inv.worker i dispatcher
    have found : s.workers[i]? = some s.workers[i] := List.getElem?_eq_getElem bound
    by_cases running : s.workers[i].running = true
    · refine ⟨.worker i .exit, s.setWorker i { s.workers[i] with running := false }, trivial, ?_,
        not_stuck_of awake free, ?_⟩
      · simp only [endpointStep, found, Option.bind_some]
        exact if_pos ⟨running, .inl accepting⟩
      · have counted := countP_set Worker.running found { s.workers[i] with running := false }
        simp only [running, Bool.toNat_true, Bool.toNat_false] at counted
        simp only [remaining, loopRank, here, Endpoint.setWorker, Endpoint.finished_length]
        omega
    · rw [Bool.not_eq_true] at running
      refine ⟨.dispatcher .send, s.stopDispatcher, trivial, ?_,
        not_stuck_of (notified_awake awake .tcp) free, ?_⟩
      · simp only [endpointStep, dispatcherStep, dispatcher, found, Option.bind_some, running,
          if_true]
      · simp only [remaining, loopRank, here, Endpoint.stopDispatcher, dispatcher, Dispatcher.rank,
          Endpoint.finished_length, notified_rank]
        omega
  | stopped => exact absurd dispatcher going

/-- With both receivers gone a packet for either channel fails. -/
theorem inward_progresses (inv : Sound s) (signalled : s.signalled = true) (awake : Awake s)
    (here : s.packetLoop = .ended) (dispatcher : s.dispatcher = .stopped)
    (going : s.inward ≠ .ended) : Progresses setup shard s := by
  have free : ∀ i, s.packetLoop ≠ .sending i := by simp [here]
  have gone : ∀ c, s.gone c = true := by
    intro c
    cases c <;> simp [Endpoint.gone, here, dispatcher]
  cases inward : s.inward with
  | selecting =>
    refine ⟨.inward .stop, { s with inward := .ended }, trivial, if_pos ⟨inward, signalled⟩,
      not_stuck_of nofun free, ?_⟩
    simp only [remaining, loopRank, here, inward, Inward.rank, Endpoint.finished_length]
    omega
  | sending c =>
    refine ⟨.inward .poll, { s with inward := .ended }, trivial, ?_, not_stuck_of nofun free, ?_⟩
    · simp only [endpointStep, inwardStep, inward, if_pos (gone c)]
    · simp only [remaining, loopRank, here, inward, Inward.rank, Endpoint.finished_length]
      omega
  | dropping c woken =>
    cases woken with
    | false => cases (inv.asleep c inward).symm.trans (gone c)
    | true =>
      refine ⟨.inward .drop, { s with inward := .sending c }, trivial, ?_,
        not_stuck_of nofun free, ?_⟩
      · simp only [endpointStep, inwardStep, inward, if_true]
      · simp only [remaining, loopRank, here, inward, Inward.rank, Endpoint.finished_length]
        omega
  | parked c => exact absurd inward (awake c)
  | ended => exact absurd inward going

theorem join_progresses (inv : Sound s) (signalled : s.signalled = true) (awake : Awake s)
    (here : s.packetLoop = .ended) (all : s.finished = [true, true, true, true])
    (left : s.returned = false) : Progresses setup shard s := by
  have free : ∀ i, s.packetLoop ≠ .sending i := by simp [here]
  have few : s.joined < 4 := by
    by_contra many
    have apart : s.joined ≠ 4 := of_decide_eq_false left
    have beyond := inv.joins 4 (by omega)
    rw [all] at beyond
    cases beyond
  have next : s.finished[s.joined]? = some true := by
    rw [all]
    match s.joined, few with
    | 0, _ | 1, _ | 2, _ | 3, _ => rfl
  refine ⟨.join, { s with joined := s.joined + 1 }, trivial, if_pos ⟨signalled, next⟩,
    not_stuck_of awake free, ?_⟩
  simp only [remaining, loopRank, here, Endpoint.finished_length]
  omega

/-- Without the packet loop every other task comes to its end in turn. -/
theorem ended_progresses (inv : Sound s) (signalled : s.signalled = true) (awake : Awake s)
    (here : s.packetLoop = .ended) (left : s.returned = false) : Progresses setup shard s := by
  have free : ∀ i, s.packetLoop ≠ .sending i := by simp [here]
  cases outward : s.outward with
  | selecting =>
    refine ⟨.outward .stop, { s with outward := .ended }, trivial,
      if_pos ⟨outward, .inl signalled⟩, not_stuck_of awake free, ?_⟩
    simp only [remaining, loopRank, here, outward, Outward.rank, Endpoint.finished_length]
    omega
  | sending =>
    refine ⟨.outward (.wrote true), { s with outward := .selecting }, trivial, if_pos outward,
      not_stuck_of awake free, ?_⟩
    simp only [remaining, loopRank, here, outward, Outward.rank, Endpoint.finished_length]
    omega
  | ended =>
    by_cases accepting : s.accepting = true
    · refine ⟨.acceptorStops, { s with accepting := false }, trivial,
        if_pos ⟨accepting, .inl signalled⟩, not_stuck_of awake free, ?_⟩
      simp only [remaining, loopRank, here, accepting, Endpoint.finished_length, Bool.toNat_true,
        Bool.toNat_false]
      omega
    rw [Bool.not_eq_true] at accepting
    by_cases dispatcher : s.dispatcher = .stopped
    swap
    · exact dispatcher_progresses inv awake here accepting dispatcher
    by_cases inward : s.inward = .ended
    · exact join_progresses inv signalled awake here
        (by simp [Endpoint.finished, outward, inward, accepting, here]) left
    · exact inward_progresses inv signalled awake here dispatcher inward

/-- Short of a state in which it hangs, the shutdown goes on. -/
theorem progresses (inv : Sound s) (signalled : s.signalled = true) (free : ¬ Stuck setup s)
    (left : s.returned = false) : Progresses setup shard s := by
  have awake : Awake s := fun c parked => free (.inl ⟨c, parked⟩)
  cases here : s.packetLoop with
  | sending i => exact sending_progresses inv free here
  | replying => exact replying_progresses signalled awake here
  | selecting =>
    refine ⟨.packetLoop .stop, s.endPacketLoop, trivial, if_pos ⟨here, .inl signalled⟩,
      not_stuck_of (notified_awake awake .udp) nofun, ?_⟩
    simp only [remaining, loopRank, here, Endpoint.endPacketLoop, Endpoint.finished_length, notified_rank]
    omega
  | ended => exact ended_progresses inv signalled awake here left

def smallest : Setup := ⟨1, 1, 1, Nat.one_pos, Nat.one_pos⟩

def localAddr : SocketAddr := .v4 ⟨⟨0x0A000002⟩, 4000⟩

def udpPacket : List Event :=
  [.inward (.read (.packet .udp)), .inward .poll, .packetLoop (.recv (.data localAddr))]

def writing : List Event :=
  udpPacket ++ [.flow 0 .recv, .flow 0 .sent] ++ udpPacket ++ [.packetLoop .send] ++ udpPacket ++
    [.flow 0 .response, .signal]

end Winding
end Ombrac.TunShutdown
