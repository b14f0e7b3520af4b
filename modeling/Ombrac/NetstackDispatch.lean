import Mathlib.Data.Prod.Lex
import Ombrac.ListUpdates
import Ombrac.NetstackAccept
import Ombrac.TunToStack

set_option autoImplicit false

/-!
# From the TUN device to the TCP workers

`distribute_packets` hands each packet of the TCP channel to a worker, by a hash of the segment's
two addresses in order. It waits for room in the worker's channel outside its `select!`. The loop
that fills the TCP channel runs beside it.
-/
namespace Ombrac.NetstackDispatch
open LabelledSystem ProtocolPacket StackPacket BoundedChannel StackSink TunToStack
open NetstackAccept (TcpWire)

/-! ## The worker of a packet -/

/-- The derived order of `SocketAddr`. -/
def rank : SocketAddr → ℕ ×ₗ ℕ ×ₗ ℕ ×ₗ ℕ ×ₗ ℕ
  | .v4 addr => toLex (0, toLex (addr.ip.bits.toNat, toLex (addr.port.toNat, toLex (0, 0))))
  | .v6 addr => toLex (1, toLex (addr.ip.bits.toNat, toLex (addr.port.toNat,
      toLex (addr.flowinfo.toNat, addr.scopeId.toNat))))

def ordered (addr1 addr2 : SocketAddr) : SocketAddr × SocketAddr :=
  if rank addr2 < rank addr1 then (addr2, addr1) else (addr1, addr2)

section Index
variable (wire : Wire) (tcp : TcpWire) (hash : SocketAddr → SocketAddr → UInt64)

def addresses (packet : Bytes) : Option (SocketAddr × SocketAddr) :=
  match IpPacket.newChecked wire packet with
  | none => none
  | some ipPacket =>
    let tcpPacket := tcp.payload ipPacket
    if ipPacket.protocol wire = .tcp ∧ tcp.check tcpPacket = true then
      some (.new (ipPacket.srcAddr wire) (tcp.srcPort tcpPacket),
        .new (ipPacket.dstAddr wire) (tcp.dstPort tcpPacket))
    else none

/-- `hash` is `XxHash64` with seed 0, fed with both addresses; `none` is a remainder by zero. -/
def workerIndex (numWorkers : ℕ) (packet : Bytes) : Option ℕ :=
  match addresses wire tcp packet with
  | none => some 0
  | some (src, dst) =>
    let pair := ordered src dst
    if numWorkers = 0 then none else some ((hash pair.1 pair.2).toNat % numWorkers)

end Index

/-! ## The dispatcher -/

/-- `lost` is a packet whose worker was gone, with its index. -/
inductive Dispatcher where
  | selecting
  | sending (workerIndex : ℕ) (packet : Bytes)
  | stopped (lost : Option (ℕ × Bytes))
  | panicked
  deriving DecidableEq

/-- `dropped` says that the `TcpConnection` is gone and the shutdown was broadcast; `dispatched` is
every packet the dispatcher has received. -/
structure Ingress where
  forwarder : Forwarder
  workers : List (Channel Bytes)
  dispatcher : Dispatcher
  dropped : Bool
  dispatched : List Bytes

inductive Event where
  | forwarder (e : TunToStack.Event)
  | dropConnection
  | shutdown
  | recv
  | send
  | workerRecv (i : ℕ)
  | workerExit (i : ℕ)

def isStopped : Task → Bool
  | .stopped _ => true
  | _ => false

namespace Ingress

def new (channelSize numWorkers : ℕ) : Ingress :=
  ⟨.new channelSize, List.replicate numWorkers (.new channelSize), .selecting, false, []⟩

def inbound (s : Ingress) : Channel Bytes := s.forwarder.sink.inbound .tcp

def setInbound (s : Ingress) (channel : Channel Bytes) : Ingress :=
  { s with forwarder := s.forwarder.setInbound .tcp channel }

/-- The task is over, and its receiver goes with it. -/
def finish (s : Ingress) (dispatcher : Dispatcher) : Ingress :=
  { s.setInbound s.inbound.close with dispatcher := dispatcher }

def setWorker (s : Ingress) (i : ℕ) (channel : Channel Bytes) : Ingress :=
  { s with workers := s.workers.set i channel }

end Ingress

section System
variable (wire : Wire) (tcp : TcpWire) (hash : SocketAddr → SocketAddr → UInt64)

namespace Ingress

/-- The index is out of bounds if there are no workers. -/
def dispatch (s : Ingress) (packet : Bytes) : Ingress :=
  match workerIndex wire tcp hash s.workers.length packet with
  | none => s.finish .panicked
  | some i =>
    if i < s.workers.length then { s with dispatcher := .sending i packet }
    else s.finish .panicked

/-- `inbound.recv()`; the sender is gone when the forwarding loop is. -/
def recv (s : Ingress) : Option Ingress :=
  match s.inbound.queue with
  | [] => if isStopped s.forwarder.task then some (s.finish (.stopped none)) else none
  | packet :: _ =>
    let s := s.setInbound s.inbound.pop
    some ({ s with dispatched := s.dispatched ++ [packet] }.dispatch wire tcp hash packet)

def send (s : Ingress) (i : ℕ) (packet : Bytes) : Option Ingress :=
  match s.workers[i]? with
  | none => none
  | some c =>
    if c.closed then some (s.finish (.stopped (some (i, packet))))
    else if c.Full then none
    else some { s.setWorker i (c.push packet) with dispatcher := .selecting }

end Ingress

def ingressStep (s : Ingress) : Event → Option Ingress
  | .forwarder (.recv .tcp) | .forwarder (.close .tcp) => none
  | .forwarder e =>
    (forwardStep wire s.forwarder e).map fun forwarder => { s with forwarder := forwarder }
  | .dropConnection => some { s with dropped := true }
  | .shutdown =>
    if s.dispatcher = .selecting ∧ s.dropped = true then some (s.finish (.stopped none)) else none
  | .recv => if s.dispatcher = .selecting then s.recv wire tcp hash else none
  | .send =>
    match s.dispatcher with
    | .sending i packet => s.send i packet
    | _ => none
  | .workerRecv i =>
    match s.workers[i]? with
    | none => none
    | some c => if c.queue = [] then none else some (s.setWorker i c.pop)
  | .workerExit i => (s.workers[i]?).map fun c => s.setWorker i c.close

def ingressSystem (channelSize numWorkers : ℕ) : System Ingress Event :=
  ⟨.new channelSize numWorkers, ingressStep wire tcp hash⟩

end System

/-! ## The order of two addresses -/

theorem rank_injective : Function.Injective rank := by
  intro a b same
  cases a with
  | v4 a =>
    cases b with
    | v4 b =>
      simp only [rank, EmbeddingLike.apply_eq_iff_eq, Prod.mk.injEq] at same
      obtain ⟨_, ip, port, _⟩ := same
      obtain ⟨⟨a⟩, _⟩ := a
      obtain ⟨⟨b⟩, _⟩ := b
      obtain rfl : a = b := UInt32.toNat_inj.1 ip
      rw [SocketAddr.v4.injEq, SocketAddrV4.mk.injEq]
      exact ⟨rfl, UInt16.toNat_inj.1 port⟩
    | v6 b => simp [rank] at same
  | v6 a =>
    cases b with
    | v4 b => simp [rank] at same
    | v6 b =>
      simp only [rank, EmbeddingLike.apply_eq_iff_eq, Prod.mk.injEq] at same
      obtain ⟨_, ip, port, flowinfo, scopeId⟩ := same
      obtain ⟨⟨a⟩, _⟩ := a
      obtain ⟨⟨b⟩, _⟩ := b
      obtain rfl : a = b := BitVec.eq_of_toNat_eq ip
      rw [SocketAddr.v6.injEq, SocketAddrV6.mk.injEq]
      exact ⟨rfl, UInt16.toNat_inj.1 port, UInt32.toNat_inj.1 flowinfo, UInt32.toNat_inj.1 scopeId⟩

theorem ordered_comm (a b : SocketAddr) : ordered a b = ordered b a := by
  unfold ordered
  rcases lt_trichotomy (rank a) (rank b) with before | same | after
  · rw [if_neg before.not_gt, if_pos before]
  · rw [rank_injective same]
  · rw [if_pos after, if_neg after.not_gt]

/-! ## What the dispatcher keeps -/

namespace Ingress

/-- The packet in hand, or lost, if it is for worker `i`. -/
def inHand (s : Ingress) (i : ℕ) : List Bytes :=
  match s.dispatcher with
  | .sending j packet | .stopped (some (j, packet)) => if j = i then [packet] else []
  | _ => []

end Ingress

def Running : Dispatcher → Prop
  | .selecting | .sending _ _ => True
  | _ => False

section Invariant
variable {wire : Wire} {tcp : TcpWire} {hash : SocketAddr → SocketAddr → UInt64}
  {s u : Ingress}

/-- Each worker has been given its packets among the dispatched, once and in order. -/
structure Invariant (wire : Wire) (tcp : TcpWire) (hash : SocketAddr → SocketAddr → UInt64)
    (s : Ingress) : Prop where
  forwarder : TunToStack.Invariant wire s.forwarder
  dispatched : s.dispatched <+: s.inbound.accepted
  queued : Running s.dispatcher → s.dispatched ++ s.inbound.queue = s.inbound.accepted
  workers : ∀ (i : ℕ) (c : Channel Bytes), s.workers[i]? = some c →
    c.accepted ++ s.inHand i =
      s.dispatched.filter fun packet => workerIndex wire tcp hash s.workers.length packet = some i
  known : ∀ i packet, s.dispatcher = .sending i packet → i < s.workers.length

/-- The forwarding loop can only add to the TCP channel. -/
theorem forwardStep_inbound {f g : Forwarder} {e : TunToStack.Event}
    (inv : TunToStack.Invariant wire f) (recv : e ≠ .recv .tcp) (close : e ≠ .close .tcp)
    (h : forwardStep wire f e = some g) :
    g.sink.inbound .tcp = f.sink.inbound .tcp ∨
      ∃ packet, g.sink.inbound .tcp = (f.sink.inbound .tcp).push packet := by
  have flushed : ∀ {f g : Forwarder} {packet : Bytes} {proto : IpProtocol} {c : Inbound},
      Flushed f packet proto c g → g.sink.inbound .tcp = f.sink.inbound .tcp ∨
        ∃ packet, g.sink.inbound .tcp = (f.sink.inbound .tcp).push packet := by
    intro f g packet proto c flushed
    cases flushed with
    | pending => exact .inl rfl
    | given =>
      cases c with
      | udp => exact .inl rfl
      | tcp => exact .inr ⟨packet, rfl⟩
    | refused => exact .inl rfl
  cases stepped_of_step inv h with
  | cancelled => exact .inl rfl
  | observed => exact .inl rfl
  | read => exact .inl rfl
  | failed => exact .inl rfl
  | ended => exact .inl rfl
  | rejected => exact .inl rfl
  | ignored => exact .inl rfl
  | sent _ _ _ sent => exact flushed (f := f.store _ _) sent
  | flushed _ _ _ sent => exact flushed sent
  | parked => exact .inl rfl
  | woken => exact .inl rfl
  | resumed => exact .inl rfl
  | received c _ =>
    cases c with
    | udp => exact .inl rfl
    | tcp => exact absurd rfl recv
  | closed c =>
    cases c with
    | udp => exact .inl rfl
    | tcp => exact absurd rfl close

theorem invariant_new (channelSize numWorkers : ℕ) :
    Invariant wire tcp hash (.new channelSize numWorkers) where
  forwarder := ⟨⟨rfl, rfl, rfl⟩, fun _ => rfl⟩
  dispatched := List.prefix_refl _
  queued _ := rfl
  workers i c there := by
    obtain ⟨_, rfl⟩ := List.getElem?_eq_some_iff.1 there
    simp [Ingress.new, Ingress.inHand, Channel.new]
  known _ _ h := by cases h

/-- A step of the forwarding loop. -/
theorem Invariant.forwarded (inv : Invariant wire tcp hash s) {forwarder : Forwarder}
    (kept : TunToStack.Invariant wire forwarder)
    (more : forwarder.sink.inbound .tcp = s.inbound ∨
      ∃ packet, forwarder.sink.inbound .tcp = s.inbound.push packet) :
    Invariant wire tcp hash { s with forwarder := forwarder } := by
  refine ⟨kept, ?_, fun running => ?_, inv.workers, inv.known⟩
  · change _ <+: (forwarder.sink.inbound .tcp).accepted
    rcases more with same | ⟨packet, pushed⟩
    · exact same ▸ inv.dispatched
    · rw [pushed, Channel.push_accepted]
      exact inv.dispatched.trans (List.prefix_append _ _)
  · change _ ++ (forwarder.sink.inbound .tcp).queue = (forwarder.sink.inbound .tcp).accepted
    rcases more with same | ⟨packet, pushed⟩
    · exact same ▸ inv.queued running
    · rw [pushed, Channel.push_accepted, ← inv.queued running, List.append_assoc]
      rfl

/-- The task ends with what it holds for the workers. -/
theorem Invariant.finish (inv : Invariant wire tcp hash s) {dispatcher : Dispatcher}
    (ended : ¬ Running dispatcher) (hand : ∀ i, (s.finish dispatcher).inHand i = s.inHand i) :
    Invariant wire tcp hash (s.finish dispatcher) := by
  refine ⟨inv.forwarder.setInbound .tcp _ rfl, ?_, fun running => absurd running ended, ?_, ?_⟩
  · change s.dispatched <+: s.inbound.close.accepted
    exact inv.dispatched
  · intro i c there
    rw [hand]
    exact inv.workers i c there
  · rintro i packet rfl
    exact absurd trivial ended

/-- The channel of one worker changes, and what is in hand with it. -/
theorem Invariant.setWorker (inv : Invariant wire tcp hash s) {i : ℕ} {c d : Channel Bytes}
    (there : s.workers[i]? = some c) {dispatcher : Dispatcher}
    (running : Running dispatcher → Running s.dispatcher)
    (known : ∀ j packet, dispatcher = .sending j packet → s.dispatcher = .sending j packet)
    (own : d.accepted ++ ({ s with dispatcher := dispatcher } : Ingress).inHand i =
      c.accepted ++ s.inHand i)
    (others : ∀ j, j ≠ i → ({ s with dispatcher := dispatcher } : Ingress).inHand j = s.inHand j) :
    Invariant wire tcp hash { s.setWorker i d with dispatcher := dispatcher } := by
  have length : (s.workers.set i d).length = s.workers.length := List.length_set
  refine ⟨inv.forwarder, inv.dispatched, fun h => inv.queued (running h), ?_, ?_⟩
  · intro j e here
    change _ = s.dispatched.filter fun packet =>
      workerIndex wire tcp hash (s.workers.set i d).length packet = some j
    rw [length]
    rcases ListUpdates.getElem?_set_eq_some here with ⟨rfl, rfl⟩ | ⟨different, before⟩
    · rw [← inv.workers j c there]
      exact own
    · rw [← inv.workers j e before]
      exact congrArg (e.accepted ++ ·) (others j different)
  · intro j packet sending
    change j < (s.workers.set i d).length
    rw [length]
    exact inv.known j packet (known j packet sending)

/-- The next packet of the TCP channel goes to the worker of its index. -/
theorem dispatch_invariant (inv : Invariant wire tcp hash s) (selecting : s.dispatcher = .selecting)
    {packet : Bytes} {rest : List Bytes} (queue : s.inbound.queue = packet :: rest) :
    Invariant wire tcp hash
      ({ s.setInbound s.inbound.pop with dispatched := s.dispatched ++ [packet] }.dispatch
        wire tcp hash packet) := by
  have running : Running s.dispatcher := by rw [selecting]; trivial
  have taken : s.dispatched ++ [packet] ++ rest = s.inbound.accepted := by
    rw [← inv.queued running, queue, List.append_assoc]
    rfl
  have popped := inv.forwarder.setInbound .tcp s.inbound.pop rfl
  have idle : ∀ i, s.inHand i = [] := fun i => by simp [Ingress.inHand, selecting]
  -- what the workers have, and what the packet adds to it
  have given : ∀ (i : ℕ) (c : Channel Bytes), s.workers[i]? = some c →
      (s.dispatched ++ [packet]).filter
        (fun packet => workerIndex wire tcp hash s.workers.length packet = some i) =
      c.accepted ++ if workerIndex wire tcp hash s.workers.length packet = some i then [packet]
        else [] := by
    intro i c there
    have before := inv.workers i c there
    rw [idle, List.append_nil] at before
    rw [List.filter_append, ← before, List.filter_singleton]
    simp
  have outside : ∀ (i : ℕ) (c : Channel Bytes), s.workers[i]? = some c →
      i < s.workers.length := fun i c there => (List.getElem?_eq_some_iff.1 there).1
  have panicked : (∀ i, workerIndex wire tcp hash s.workers.length packet = some i →
      s.workers.length ≤ i) → Invariant wire tcp hash
        ({ s.setInbound s.inbound.pop with
          dispatched := s.dispatched ++ [packet] }.finish .panicked) := by
    intro beyond
    refine ⟨popped.setInbound .tcp _ rfl, ⟨rest, taken⟩, fun h => h.elim, ?_, ?_⟩
    · intro i c there
      refine Eq.trans ?_ (given i c there).symm
      rw [if_neg fun same => absurd (outside i c there) (Nat.not_lt.2 (beyond i same))]
      rfl
    · exact fun _ _ h => by cases h
  unfold Ingress.dispatch
  change Invariant wire tcp hash (match workerIndex wire tcp hash s.workers.length packet with
    | none => _ | some i => if i < s.workers.length then _ else _)
  cases index : workerIndex wire tcp hash s.workers.length packet with
  | none => exact panicked fun i same => by cases index.symm.trans same
  | some i =>
    dsimp only
    by_cases bound : i < s.workers.length
    · rw [if_pos bound]
      refine ⟨popped, ⟨rest, taken⟩, fun _ => ?_, ?_, ?_⟩
      · change s.dispatched ++ [packet] ++ s.inbound.queue.tail = s.inbound.accepted
        rw [queue]
        exact taken
      · intro j c there
        refine Eq.trans ?_ (given j c there).symm
        simp only [index, Option.some_inj]
        rfl
      · intro j p sending
        obtain ⟨rfl, rfl⟩ := Dispatcher.sending.inj sending
        exact bound
    · rw [if_neg bound]
      refine panicked fun j same => ?_
      obtain rfl := Option.some.inj (index.symm.trans same)
      exact Nat.not_lt.1 bound

theorem send_invariant (inv : Invariant wire tcp hash s) {i : ℕ} {packet : Bytes}
    (sending : s.dispatcher = .sending i packet) (h : s.send i packet = some u) :
    Invariant wire tcp hash u := by
  unfold Ingress.send at h
  split at h
  · cases h
  · rename_i c there
    split_ifs at h with closed full
    · obtain rfl := Option.some.inj h
      exact inv.finish id fun j => by simp [Ingress.inHand, Ingress.finish, sending]
    · obtain rfl := Option.some.inj h
      refine inv.setWorker there (fun _ => by rw [sending]; trivial) (fun _ _ h => by cases h) ?_ ?_
      · simp [Ingress.inHand, sending]
      · intro j different
        simp [Ingress.inHand, sending, different.symm]

theorem step_forwarder {e : TunToStack.Event}
    (h : ingressStep wire tcp hash s (.forwarder e) = some u) :
    e ≠ .recv .tcp ∧ e ≠ .close .tcp ∧ ∃ forwarder, forwardStep wire s.forwarder e = some forwarder ∧
      u = { s with forwarder := forwarder } := by
  unfold ingressStep at h
  split at h
  · cases h
  · cases h
  · rename_i e' recv close same
    obtain rfl := Event.forwarder.inj same
    obtain ⟨forwarder, step, rfl⟩ := Option.map_eq_some_iff.1 h
    exact ⟨recv, close, forwarder, step, rfl⟩
  all_goals rename_i other; cases other

theorem ingressStep_invariant (inv : Invariant wire tcp hash s) {e : Event}
    (h : ingressStep wire tcp hash s e = some u) : Invariant wire tcp hash u := by
  cases e with
  | forwarder e =>
    obtain ⟨recv, close, forwarder, step, rfl⟩ := step_forwarder h
    exact inv.forwarded (forwardStep_invariant inv.forwarder step)
      (forwardStep_inbound inv.forwarder recv close step)
  | dropConnection =>
    obtain rfl := Option.some.inj h
    exact ⟨inv.forwarder, inv.dispatched, inv.queued, inv.workers, inv.known⟩
  | shutdown =>
    simp only [ingressStep] at h
    split_ifs at h with enabled
    obtain rfl := Option.some.inj h
    exact inv.finish id fun i => by simp [Ingress.inHand, Ingress.finish, enabled.1]
  | recv =>
    simp only [ingressStep] at h
    split_ifs at h with selecting
    unfold Ingress.recv at h
    split at h
    · split_ifs at h
      obtain rfl := Option.some.inj h
      exact inv.finish id fun i => by simp [Ingress.inHand, Ingress.finish, selecting]
    · rename_i packet rest queue
      obtain rfl := Option.some.inj h
      exact dispatch_invariant inv selecting queue
  | send =>
    simp only [ingressStep] at h
    split at h
    · rename_i i packet sending
      exact send_invariant inv sending h
    · cases h
  | workerRecv i =>
    simp only [ingressStep] at h
    split at h
    · cases h
    · rename_i c there
      split_ifs at h
      obtain rfl := Option.some.inj h
      exact inv.setWorker there id (fun _ _ => id) rfl fun _ _ => rfl
  | workerExit i =>
    obtain ⟨c, there, rfl⟩ := Option.map_eq_some_iff.1 h
    exact inv.setWorker there id (fun _ _ => id) rfl fun _ _ => rfl

theorem ingress_invariant {channelSize numWorkers : ℕ} {es : List Event}
    (run : Runs (ingressSystem wire tcp hash channelSize numWorkers) es s) :
    Invariant wire tcp hash s :=
  run.invariant (invariant_new channelSize numWorkers) fun _ _ _ inv step =>
    ingressStep_invariant inv step

end Invariant

/-! ## The order of a connection -/

section Connection
variable (wire : Wire) (tcp : TcpWire) (hash : SocketAddr → SocketAddr → UInt64)

/-- A segment for the TCP channel between the two addresses, in either direction. -/
def ofConnection (a b : SocketAddr) (packet : Bytes) : Bool :=
  Destined wire .tcp packet ∧
    (addresses wire tcp packet = some (a, b) ∨ addresses wire tcp packet = some (b, a))

def Settled (s : Ingress) : Prop :=
  s.forwarder.task = .selecting ∧ s.dispatcher = .selecting ∧ s.inbound.queue = []

def workerOf (numWorkers : ℕ) (a b : SocketAddr) : ℕ :=
  (hash (ordered a b).1 (ordered a b).2).toNat % numWorkers

variable {wire tcp hash} {s u : Ingress} {a b : SocketAddr}

theorem workerIndex_ofConnection {numWorkers : ℕ} (some_worker : 0 < numWorkers) {packet : Bytes}
    (h : ofConnection wire tcp a b packet = true) :
    workerIndex wire tcp hash numWorkers packet = some (workerOf hash numWorkers a b) := by
  obtain ⟨_, parsed | parsed⟩ := of_decide_eq_true h
  · simp [workerIndex, parsed, some_worker.ne', workerOf]
  · simp [workerIndex, parsed, some_worker.ne', workerOf, ordered_comm b a]

theorem workers_length_step {e : Event} (h : ingressStep wire tcp hash s e = some u) :
    u.workers.length = s.workers.length := by
  have dispatched : ∀ (s : Ingress) (packet : Bytes),
      (s.dispatch wire tcp hash packet).workers.length = s.workers.length := by
    intro s packet
    unfold Ingress.dispatch
    split
    · rfl
    · split_ifs <;> rfl
  cases e with
  | forwarder e =>
    obtain ⟨_, _, _, _, rfl⟩ := step_forwarder h
    rfl
  | dropConnection =>
    obtain rfl := Option.some.inj h
    rfl
  | shutdown =>
    simp only [ingressStep] at h
    split_ifs at h
    obtain rfl := Option.some.inj h
    rfl
  | recv =>
    simp only [ingressStep] at h
    split_ifs at h
    unfold Ingress.recv at h
    split at h
    · split_ifs at h
      obtain rfl := Option.some.inj h
      rfl
    · obtain rfl := Option.some.inj h
      exact dispatched _ _
  | send =>
    simp only [ingressStep] at h
    split at h
    · unfold Ingress.send at h
      split at h
      · cases h
      · split_ifs at h
        · obtain rfl := Option.some.inj h
          rfl
        · obtain rfl := Option.some.inj h
          exact List.length_set
    · cases h
  | workerRecv i =>
    simp only [ingressStep] at h
    split at h
    · cases h
    · split_ifs at h
      obtain rfl := Option.some.inj h
      exact List.length_set
  | workerExit i =>
    obtain ⟨_, _, rfl⟩ := Option.map_eq_some_iff.1 h
    exact List.length_set

theorem workers_length {channelSize numWorkers : ℕ} {es : List Event}
    (run : Runs (ingressSystem wire tcp hash channelSize numWorkers) es s) :
    s.workers.length = numWorkers :=
  run.invariant (I := fun s => s.workers.length = numWorkers) List.length_replicate
    fun _ _ _ same step => (workers_length_step step).trans same

/-- A connection's packets, of those with its worker's index, are all of its packets. -/
theorem filter_ofConnection {numWorkers : ℕ} (some_worker : 0 < numWorkers) (i : ℕ)
    (packets : List Bytes) :
    (packets.filter fun packet => workerIndex wire tcp hash numWorkers packet = some i).filter
      (ofConnection wire tcp a b) =
        if i = workerOf hash numWorkers a b then packets.filter (ofConnection wire tcp a b)
        else [] := by
  rw [List.filter_filter]
  split_ifs with own
  · refine List.filter_congr fun packet _ => ?_
    cases h : ofConnection wire tcp a b packet with
    | false => rfl
    | true => simp [workerIndex_ofConnection some_worker h, own]
  · rw [List.filter_eq_nil_iff]
    rintro packet _ both
    simp only [Bool.and_eq_true, decide_eq_true_eq] at both
    rw [workerIndex_ofConnection some_worker both.1, Option.some_inj] at both
    exact own both.2.symm

theorem filter_routed (packets : List Bytes) :
    (routed wire .tcp packets).filter (ofConnection wire tcp a b) =
      packets.filter (ofConnection wire tcp a b) := by
  rw [routed, List.filter_filter]
  refine List.filter_congr fun packet _ => ?_
  cases h : ofConnection wire tcp a b packet with
  | false => rfl
  | true => simp [(of_decide_eq_true h).1]

/-- Both directions of a connection meet one worker, which is given the segments that were read
of it from the device in their order and each once, but for those still on their way or lost with
a task that has ended. -/
theorem connection_in_order (wire : Wire) (tcp : TcpWire)
    (hash : SocketAddr → SocketAddr → UInt64) (channelSize numWorkers : ℕ) (a b : SocketAddr) :
    ∃ w, ∀ es s, Runs (ingressSystem wire tcp hash channelSize numWorkers) es s →
      ∀ (i : ℕ) (c : Channel Bytes), s.workers[i]? = some c →
        (i ≠ w → c.accepted.filter (ofConnection wire tcp a b) = []) ∧
        (i = w → c.accepted.filter (ofConnection wire tcp a b) <+:
            s.forwarder.read.filter (ofConnection wire tcp a b) ∧
          (Settled s → c.accepted.filter (ofConnection wire tcp a b) =
            s.forwarder.read.filter (ofConnection wire tcp a b))) := by
  refine ⟨workerOf hash numWorkers a b, fun es s run i c there => ?_⟩
  have inv := ingress_invariant run
  have length := workers_length run
  have some_worker : 0 < numWorkers := by
    have bound := (List.getElem?_eq_some_iff.1 there).1
    omega
  have own := congrArg (List.filter (ofConnection wire tcp a b)) (inv.workers i c there)
  rw [length, filter_ofConnection some_worker, List.filter_append] at own
  have delivered := inv.forwarder.delivered .tcp
  constructor
  · intro other
    rw [if_neg other] at own
    exact (List.append_eq_nil_iff.1 own).1
  · intro same
    rw [if_pos same] at own
    constructor
    · calc c.accepted.filter (ofConnection wire tcp a b)
        _ <+: s.dispatched.filter (ofConnection wire tcp a b) := own ▸ List.prefix_append _ _
        _ <+: s.inbound.accepted.filter (ofConnection wire tcp a b) := inv.dispatched.filter _
        _ <+: (routed wire .tcp s.forwarder.read).filter (ofConnection wire tcp a b) :=
          (List.IsPrefix.filter _ (delivered ▸ List.prefix_append _ _))
        _ = s.forwarder.read.filter (ofConnection wire tcp a b) := filter_routed _
    · rintro ⟨selecting, idle, empty⟩
      have all := inv.queued (by rw [idle]; trivial)
      simp only [Ingress.inHand, idle, List.filter_nil, List.append_nil] at own
      rw [empty, List.append_nil] at all
      simp only [waiting, selecting, List.append_nil] at delivered
      rw [own, all, ← filter_routed s.forwarder.read, ← delivered]
      rfl

end Connection

/-! ## Waiting for a worker -/

section Waiting
variable {wire : Wire} {tcp : TcpWire} {hash : SocketAddr → SocketAddr → UInt64}
  {channelSize numWorkers : ℕ} {s u : Ingress} {i : ℕ} {packet : Bytes} {c : Channel Bytes}

def Blocked (s : Ingress) (i : ℕ) (packet : Bytes) (c : Channel Bytes) : Prop :=
  s.dispatcher = .sending i packet ∧ s.workers[i]? = some c ∧ c.closed = false ∧ c.Full

def SameGiven (s u : Ingress) : Prop :=
  u.dispatched = s.dispatched ∧
    u.workers.map Channel.accepted = s.workers.map Channel.accepted

theorem sameGiven_setWorker {j : ℕ} {d d' : Channel Bytes} (there : s.workers[j]? = some d)
    (same : d'.accepted = d.accepted) : SameGiven s (s.setWorker j d') := by
  refine ⟨rfl, ?_⟩
  obtain ⟨bound, rfl⟩ := List.getElem?_eq_some_iff.1 there
  change (s.workers.set j d').map Channel.accepted = _
  rw [List.map_set, same, ← List.getElem_map Channel.accepted (h := by simpa using bound),
    List.set_getElem_self]

theorem blocked_step {e : Event} (blocked : Blocked s i packet c) (recv : e ≠ .workerRecv i)
    (exit : e ≠ .workerExit i) (h : ingressStep wire tcp hash s e = some u) :
    Blocked u i packet c ∧ SameGiven s u := by
  obtain ⟨sending, there, opened, full⟩ := blocked
  have other : ∀ {j : ℕ} {d d' : Channel Bytes}, j ≠ i → s.workers[j]? = some d →
      d'.accepted = d.accepted →
      Blocked (s.setWorker j d') i packet c ∧ SameGiven s (s.setWorker j d') := by
    intro j d d' different here same
    refine ⟨⟨sending, ?_, opened, full⟩, sameGiven_setWorker here same⟩
    exact (List.getElem?_set_ne different).trans there
  cases e with
  | forwarder e =>
    obtain ⟨_, _, forwarder, _, rfl⟩ := step_forwarder h
    exact ⟨⟨sending, there, opened, full⟩, rfl, rfl⟩
  | dropConnection =>
    obtain rfl := Option.some.inj h
    exact ⟨⟨sending, there, opened, full⟩, rfl, rfl⟩
  | shutdown | recv => simp [ingressStep, sending] at h
  | send => simp [ingressStep, sending, Ingress.send, there, opened, full] at h
  | workerRecv j =>
    have different : j ≠ i := fun same => recv (congrArg _ same)
    simp only [ingressStep] at h
    split at h
    · cases h
    · rename_i d here
      split_ifs at h
      obtain rfl := Option.some.inj h
      exact other different here rfl
  | workerExit j =>
    have different : j ≠ i := fun same => exit (congrArg _ same)
    obtain ⟨d, here, rfl⟩ := Option.map_eq_some_iff.1 h
    exact other different here rfl

/-- A full worker stalls every other one, and keeps a shutdown from being seen, until it takes a
packet or exits. -/
theorem full_worker_stalls {more : List Event} (blocked : Blocked s i packet c)
    (quiet : ∀ e ∈ more, e ≠ .workerRecv i ∧ e ≠ .workerExit i)
    (h : execFrom (ingressSystem wire tcp hash channelSize numWorkers) s more = some u) :
    u.dispatcher = .sending i packet ∧ SameGiven s u := by
  induction more generalizing s with
  | nil =>
    obtain rfl := Option.some.inj h
    exact ⟨blocked.1, rfl, rfl⟩
  | cons e more ih =>
    obtain ⟨v, step, rest⟩ := Option.bind_eq_some_iff.1 h
    obtain ⟨now, later⟩ := List.forall_mem_cons.1 quiet
    obtain ⟨still, first⟩ := blocked_step blocked now.1 now.2 step
    obtain ⟨sending, second⟩ := ih still later rest
    exact ⟨sending, second.1.trans first.1, second.2.trans first.2⟩

def ping : Bytes := [0x45, 0, 0, 20, 0, 0, 0, 0, 64, 1, 0, 0, 10, 0, 0, 1, 10, 0, 0, 2]

def noTcp : TcpWire := ⟨fun _ => [], fun _ => false, fun _ => false, fun _ => false, fun _ => 0,
  fun _ => 0⟩

/-- The first of two workers has one packet queued when the next is for it; the other exits. -/
theorem full_worker_stalls_ping : ∃ s u,
    Runs (ingressSystem headerWire noTcp (fun _ _ => 0) 1 2)
      [.forwarder (.next (.packet ping)), .forwarder .poll, .recv, .send,
        .forwarder (.next (.packet ping)), .forwarder .poll, .recv] s ∧
      u.dispatcher = .sending 0 ping ∧ SameGiven s u := by
  have reached : ∃ s u, exec (ingressSystem headerWire noTcp (fun _ _ => 0) 1 2)
      [.forwarder (.next (.packet ping)), .forwarder .poll, .recv, .send,
        .forwarder (.next (.packet ping)), .forwarder .poll, .recv] = some s ∧
      Blocked s 0 ping ⟨1, [ping], [ping], false⟩ ∧
      execFrom (ingressSystem headerWire noTcp (fun _ _ => 0) 1 2) s
        [.dropConnection, .workerExit 1] = some u :=
    ⟨_, _, rfl, ⟨rfl, rfl, rfl, le_refl 1⟩, rfl⟩
  obtain ⟨s, u, reached, blocked, more⟩ := reached
  exact ⟨s, u, runs_of_exec reached, full_worker_stalls blocked (by simp) more⟩

/-- Once the `TcpConnection` is gone, the workers' exits let the dispatcher end as well. -/
theorem dropped_dispatcher_ends {es : List Event}
    (run : Runs (ingressSystem wire tcp hash channelSize numWorkers) es s)
    (dropped : s.dropped = true) : ∃ more u,
      (∀ e ∈ more, e = .shutdown ∨ e = .send ∨ ∃ i, e = .workerExit i) ∧
      execFrom (ingressSystem wire tcp hash channelSize numWorkers) s more = some u ∧
      ¬ Running u.dispatcher := by
  cases task : s.dispatcher with
  | selecting =>
    refine ⟨[.shutdown], s.finish (.stopped none), by simp, ?_, id⟩
    simp [execFrom, ingressSystem, ingressStep, task, dropped]
  | sending i packet =>
    have bound := (ingress_invariant run).known i packet task
    refine ⟨[.workerExit i, .send], (s.setWorker i s.workers[i].close).finish
      (.stopped (some (i, packet))), by simp, ?_, id⟩
    simp [execFrom, ingressSystem, ingressStep, Ingress.setWorker, Ingress.send, task, bound]
  | stopped lost => exact ⟨[], s, by simp, rfl, by rw [task]; exact id⟩
  | panicked => exact ⟨[], s, by simp, rfl, by rw [task]; exact id⟩

end Waiting
end Ombrac.NetstackDispatch
