import Ombrac.BoundedChannel
import Ombrac.LabelledSystem
import Ombrac.ProtocolPacket

set_option autoImplicit false

/-!
# The device between a worker and smoltcp

Frames for smoltcp wait in a queue of the device; what smoltcp sends goes to a channel that other
senders fill as well. A received frame comes with a permit to answer it.
-/
namespace Ombrac.NetstackDevice
open LabelledSystem ProtocolPacket BoundedChannel

/-- The channel of outgoing packets. `permits` are places that are reserved and not yet used. -/
structure Outbound where
  capacity : ℕ
  queue : List Bytes
  permits : ℕ
  closed : Bool
  deriving DecidableEq

namespace Outbound

def new (capacity : ℕ) : Outbound := ⟨capacity, [], 0, false⟩

def Free (o : Outbound) : Prop := o.closed = false ∧ o.queue.length + o.permits < o.capacity

instance (o : Outbound) : Decidable o.Free := inferInstanceAs (Decidable (_ ∧ _))

def tryReserve (o : Outbound) : Option Outbound :=
  if o.Free then some { o with permits := o.permits + 1 } else none

/-- `Permit::send`. -/
def sendPermit (o : Outbound) (packet : Bytes) : Outbound :=
  { o with queue := o.queue ++ [packet], permits := o.permits - 1 }

end Outbound

structure Device where
  rxQueue : Channel Bytes
  outbound : Outbound
  deriving DecidableEq

namespace Device

def new (channelSize outboundSize : ℕ) : Device := ⟨.new channelSize, .new outboundSize⟩

/-- The frame of the receive token; the transmit token is the permit. -/
def receive (d : Device) : Option Bytes × Device :=
  match d.rxQueue.queue with
  | [] => (none, d)
  | packet :: _ =>
    let d := { d with rxQueue := d.rxQueue.pop }
    match d.outbound.tryReserve with
    | none => (none, d)
    | some outbound => (some packet, { d with outbound := outbound })

/-- Whether there is a transmit token. -/
def transmit (d : Device) : Bool × Device :=
  match d.outbound.tryReserve with
  | none => (false, d)
  | some outbound => (true, { d with outbound := outbound })

def consume (d : Device) (packet : Bytes) : Device :=
  { d with outbound := d.outbound.sendPermit packet }

/-- `process_inbound_frame`; `accepted` is the result of `accept_new_connection` where the frame
opens a connection. -/
def processInboundFrame (d : Device) (accepted : Except IoError Unit) (frame : Bytes) :
    Except IoError Unit × Device :=
  match accepted with
  | .error e => (.error e, d)
  | .ok () =>
    if d.rxQueue.Full then (.error ⟨.other, "no available capacity"⟩, d)
    else (.ok (), { d with rxQueue := d.rxQueue.push frame })

def ReceiveKeeps (d : Device) : Prop :=
  (∃ packet rest, d.rxQueue.queue = packet :: rest ∧ d.receive.1 = some packet ∧
      d.receive.2.rxQueue.queue = rest) ∨
    d.receive.1 = none ∧ d.receive.2.rxQueue.queue = d.rxQueue.queue

def CanReceive (d : Device) : Prop := d.rxQueue.queue = [] ∨ d.outbound.Free

end Device

/-- `handed` is what smoltcp was given, in order. -/
structure Netstack where
  device : Device
  handed : List Bytes
  deriving DecidableEq

/-- `release` drops a transmit token; `send`, `take` and `close` are of the channel's other senders
and of its receiver. -/
inductive Event where
  | inbound (accepted : Except IoError Unit) (frame : Bytes)
  | receive
  | transmit
  | consume (packet : Bytes)
  | release
  | send (packet : Bytes)
  | take
  | close

def netstackStep (n : Netstack) : Event → Option Netstack
  | .inbound accepted frame =>
    some { n with device := (n.device.processInboundFrame accepted frame).2 }
  | .receive =>
    some ⟨n.device.receive.2, n.handed ++ n.device.receive.1.toList⟩
  | .transmit => some { n with device := n.device.transmit.2 }
  | .consume packet =>
    if 0 < n.device.outbound.permits then some { n with device := n.device.consume packet }
    else none
  | .release =>
    let outbound := n.device.outbound
    if 0 < outbound.permits then
      some { n with device.outbound := { outbound with permits := outbound.permits - 1 } }
    else none
  | .send packet =>
    let outbound := n.device.outbound
    if outbound.Free then
      some { n with device.outbound := { outbound with queue := outbound.queue ++ [packet] } }
    else none
  | .take =>
    let outbound := n.device.outbound
    if outbound.queue = [] then none
    else some { n with device.outbound := { outbound with queue := outbound.queue.tail } }
  | .close => some { n with device.outbound.closed := true }

def netstackSystem (channelSize outboundSize : ℕ) : System Netstack Event where
  initial := ⟨.new channelSize outboundSize, []⟩
  step := netstackStep

/-- Each frame that the queue took was handed to smoltcp, in order and once, or is still queued. -/
def Kept (n : Netstack) : Prop :=
  n.device.rxQueue.accepted = n.handed ++ n.device.rxQueue.queue

def Permitted (n : Netstack) : Event → Prop
  | .receive => n.device.CanReceive
  | _ => True

section Receive
variable {d : Device}

theorem receive_empty (empty : d.rxQueue.queue = []) : d.receive = (none, d) := by
  unfold Device.receive
  rw [empty]

theorem receive_free {packet : Bytes} {rest : List Bytes} (queue : d.rxQueue.queue = packet :: rest)
    (free : d.outbound.Free) :
    d.receive = (some packet,
      ⟨d.rxQueue.pop, { d.outbound with permits := d.outbound.permits + 1 }⟩) := by
  unfold Device.receive Outbound.tryReserve
  rw [queue]
  dsimp only
  rw [if_pos free]

/-- Without a permit the frame is gone. -/
theorem receive_blocked {packet : Bytes} {rest : List Bytes}
    (queue : d.rxQueue.queue = packet :: rest) (blocked : ¬ d.outbound.Free) :
    d.receive = (none, { d with rxQueue := d.rxQueue.pop }) := by
  unfold Device.receive Outbound.tryReserve
  rw [queue]
  dsimp only
  rw [if_neg blocked]

theorem pop_queue {packet : Bytes} {rest : List Bytes} (queue : d.rxQueue.queue = packet :: rest) :
    d.rxQueue.pop.queue = rest := congrArg List.tail queue

theorem receiveKeeps_iff : d.ReceiveKeeps ↔ d.CanReceive := by
  unfold Device.ReceiveKeeps Device.CanReceive
  cases queue : d.rxQueue.queue with
  | nil =>
    rw [receive_empty queue]
    exact iff_of_true (.inr ⟨rfl, queue⟩) (.inl rfl)
  | cons packet rest =>
    by_cases free : d.outbound.Free
    · rw [receive_free queue free]
      exact iff_of_true (.inl ⟨packet, rest, rfl, rfl, pop_queue queue⟩) (.inr free)
    · rw [receive_blocked queue free]
      refine iff_of_false ?_ ?_
      · rintro (⟨_, _, _, given, _⟩ | ⟨_, same⟩)
        · cases given
        · rw [pop_queue queue] at same
          exact List.cons_ne_self packet rest same.symm
      · rintro (empty | free')
        · cases empty
        · exact free free'

end Receive

section Step
variable {u v : Netstack} {e : Event}

theorem processInboundFrame_kept (kept : Kept u) (accepted : Except IoError Unit) (frame : Bytes) :
    Kept { u with device := (u.device.processInboundFrame accepted frame).2 } := by
  unfold Device.processInboundFrame
  split
  · exact kept
  · split_ifs
    · exact kept
    · change u.device.rxQueue.accepted ++ [frame] = u.handed ++ (u.device.rxQueue.queue ++ [frame])
      rw [kept, List.append_assoc]

theorem transmit_rxQueue (d : Device) : d.transmit.2.rxQueue = d.rxQueue := by
  unfold Device.transmit
  split <;> rfl

theorem receive_kept_iff (kept : Kept u) :
    Kept ⟨u.device.receive.2, u.handed ++ u.device.receive.1.toList⟩ ↔ u.device.CanReceive := by
  unfold Kept Device.CanReceive at *
  cases queue : u.device.rxQueue.queue with
  | nil =>
    rw [receive_empty queue]
    refine iff_of_true ?_ (.inl rfl)
    change _ = u.handed ++ [] ++ u.device.rxQueue.queue
    rw [List.append_nil, kept]
  | cons packet rest =>
    rw [queue] at kept
    by_cases free : u.device.outbound.Free
    · rw [receive_free queue free]
      refine iff_of_true ?_ (.inr free)
      dsimp only
      rw [Channel.pop_accepted, pop_queue queue, kept, Option.toList_some, List.append_assoc,
        List.singleton_append]
    · rw [receive_blocked queue free]
      refine iff_of_false (fun same => ?_) ?_
      · dsimp only at same
        rw [Channel.pop_accepted, pop_queue queue, kept, Option.toList_none,
          List.append_nil] at same
        exact List.cons_ne_self packet rest (List.append_cancel_left same)
      · rintro (empty | free')
        · cases empty
        · exact free free'

/-- A step keeps every frame exactly if it is permitted. -/
theorem step_kept_iff (kept : Kept u) (h : netstackStep u e = some v) : Kept v ↔ Permitted u e := by
  cases e with
  | inbound accepted frame =>
    obtain rfl := Option.some.inj h
    exact iff_of_true (processInboundFrame_kept kept accepted frame) trivial
  | receive =>
    obtain rfl := Option.some.inj h
    exact receive_kept_iff kept
  | transmit =>
    obtain rfl := Option.some.inj h
    refine iff_of_true ?_ trivial
    unfold Kept
    dsimp only
    rw [transmit_rxQueue]
    exact kept
  | consume _ | release | send _ | take =>
    unfold netstackStep at h
    dsimp only at h
    split_ifs at h
    obtain rfl := Option.some.inj h
    exact iff_of_true kept trivial
  | close =>
    obtain rfl := Option.some.inj h
    exact iff_of_true kept trivial

end Step

/-- A call keeps the queue or hands out its head exactly if it finds the queue empty or a permit,
and along a run no frame is lost exactly if every call does. -/
theorem frames_kept_iff (channelSize outboundSize : ℕ) (es : List Event) :
    (∀ d : Device, d.ReceiveKeeps ↔ d.CanReceive) ∧
      ((∀ u, Visits (netstackSystem channelSize outboundSize) es u → Kept u) ↔
        ∀ u e v, Takes (netstackSystem channelSize outboundSize) es u e v → Permitted u e) := by
  refine ⟨fun _ => receiveKeeps_iff, ?_⟩
  refine safe_iff_guarded (I := fun _ => True) trivial rfl (fun _ _ _ _ _ _ => trivial) ?_
  exact fun u e v _ kept h => step_kept_iff kept h

/-- Another sender has filled the channel; the call takes the frame and loses it. -/
theorem frame_lost :
    ¬ ∀ channelSize outboundSize es u,
      Visits (netstackSystem channelSize outboundSize) es u → Kept u := by
  intro kept
  have run : Runs (netstackSystem 1 1) [.send [0], .inbound (.ok ()) [7], .receive]
      ⟨⟨⟨1, [], [[7]], false⟩, ⟨1, [[0]], 0, false⟩⟩, []⟩ := runs_of_exec rfl
  have same := kept 1 1 _ _ run.visits
  cases same

end Ombrac.NetstackDevice
