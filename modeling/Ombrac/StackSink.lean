import Mathlib.Logic.Function.Basic
import Ombrac.BoundedChannel
import Ombrac.StackPacket

set_option autoImplicit false

/-! # The netstack's packet sink -/
namespace Ombrac.StackSink
open ProtocolPacket StackPacket BoundedChannel

inductive Poll (α : Type) where
  | ready (a : α)
  | pending
  deriving DecidableEq

/-- The channels of the stack: `udp_inbound` and `tcp_inbound`. -/
inductive Inbound where
  | udp | tcp
  deriving DecidableEq, Repr

structure StackSplitSink where
  inbound : Inbound → Channel Bytes
  packetContainer : Option (Bytes × IpProtocol)

def supported : IpProtocol → Bool
  | .tcp | .udp | .icmp | .icmpv6 => true
  | _ => false

def inboundOf : IpProtocol → Option Inbound
  | .udp => some .udp
  | .tcp | .icmp | .icmpv6 => some .tcp
  | _ => none

/-- The name a protocol is printed with; only a supported one reaches a message. -/
def protocolText : IpProtocol → String
  | .tcp => "Tcp"
  | .udp => "Udp"
  | .icmp => "Icmp"
  | .icmpv6 => "Icmpv6"
  | _ => ""

def channelClosed (proto : IpProtocol) : IoError :=
  ⟨.brokenPipe, "Failed to send packet: channel closed for protocol " ++ protocolText proto⟩

namespace StackSplitSink

def new (channelSize : ℕ) : StackSplitSink := ⟨fun _ => .new channelSize, none⟩

def setInbound (s : StackSplitSink) (c : Inbound) (channel : Channel Bytes) : StackSplitSink :=
  { s with inbound := Function.update s.inbound c channel }

/-- The packet is taken from the container and put back only if its channel is full. -/
def pollFlush (s : StackSplitSink) : StackSplitSink × Poll (Except IoError Unit) :=
  match s.packetContainer with
  | none => (s, .ready (.ok ()))
  | some (item, proto) =>
    let taken := { s with packetContainer := none }
    match inboundOf proto with
    | none => (taken, .ready (.ok ()))
    | some c =>
      if (s.inbound c).closed then (taken, .ready (.error (channelClosed proto)))
      else if (s.inbound c).Full then (s, .pending)
      else (taken.setInbound c ((s.inbound c).push item), .ready (.ok ()))

def pollReady (s : StackSplitSink) : StackSplitSink × Poll (Except IoError Unit) :=
  if s.packetContainer.isSome then s.pollFlush else (s, .ready (.ok ()))

def startSend (wire : Wire) (s : StackSplitSink) (item : Bytes) :
    StackSplitSink × Except IoError Unit :=
  if item = [] then (s, .ok ())
  else
    match IpPacket.newChecked wire item with
    | none => (s, .error ⟨.invalidData, wire.malformed⟩)
    | some packet =>
      if supported (packet.protocol wire) then
        ({ s with packetContainer := some (item, packet.protocol wire) }, .ok ())
      else (s, .ok ())

def waitsFor (s : StackSplitSink) : Option Inbound :=
  s.packetContainer.bind fun stored => inboundOf stored.2

end StackSplitSink

theorem supported_iff (proto : IpProtocol) :
    supported proto = true ↔ ∃ c, inboundOf proto = some c := by
  cases proto <;> simp [supported, inboundOf]

/-! ## What the calls do -/

section Calls
variable {wire : Wire} {s : StackSplitSink} {item : Bytes}

def Rejected (wire : Wire) (item : Bytes) : Prop :=
  item ≠ [] ∧ IpPacket.newChecked wire item = none

def destination (wire : Wire) (item : Bytes) : Option Inbound :=
  if item = [] then none
  else (IpPacket.newChecked wire item).bind fun packet => inboundOf (packet.protocol wire)

/-- Which protocols a channel is for. -/
inductive Serves : Inbound → IpProtocol → Prop where
  | udp : Serves .udp .udp
  | tcp : Serves .tcp .tcp
  | icmp : Serves .tcp .icmp
  | icmpv6 : Serves .tcp .icmpv6

/-- A packet that passes its version's check, and whose header names a protocol that the channel
is for. -/
inductive Destined (wire : Wire) (c : Inbound) (item : Bytes) : Prop where
  | ipv4 (nonempty : item ≠ []) (version : wire.versionOf item = some .ipv4)
      (checked : wire.checkIpv4 item = true) (serves : Serves c (wire.ipv4NextHeader item))
  | ipv6 (nonempty : item ≠ []) (version : wire.versionOf item = some .ipv6)
      (checked : wire.checkIpv6 item = true) (serves : Serves c (wire.ipv6NextHeader item))

theorem inboundOf_iff {proto : IpProtocol} {c : Inbound} :
    inboundOf proto = some c ↔ Serves c proto := by
  constructor
  · intro h
    cases proto <;> cases h <;> constructor
  · rintro (_ | _ | _ | _) <;> rfl

theorem destination_iff {c : Inbound} : destination wire item = some c ↔ Destined wire c item := by
  constructor
  · intro h
    unfold destination at h
    split_ifs at h with empty
    obtain ⟨packet, parsed, served⟩ := Option.bind_eq_some_iff.1 h
    rw [inboundOf_iff] at served
    unfold IpPacket.newChecked at parsed
    split at parsed
    · cases parsed
    · rename_i version
      split_ifs at parsed with checked
      obtain rfl := Option.some.inj parsed
      exact .ipv4 empty version checked served
    · rename_i version
      split_ifs at parsed with checked
      obtain rfl := Option.some.inj parsed
      exact .ipv6 empty version checked served
  · rintro (⟨nonempty, version, checked, serves⟩ | ⟨nonempty, version, checked, serves⟩) <;>
      simp [destination, nonempty, IpPacket.newChecked, version, checked, IpPacket.protocol,
        inboundOf_iff, serves]

instance (wire : Wire) (c : Inbound) (item : Bytes) : Decidable (Destined wire c item) :=
  decidable_of_iff (destination wire item = some c) destination_iff

theorem destination_of_rejected (h : Rejected wire item) : destination wire item = none := by
  simp [destination, h.1, h.2]

theorem startSend_rejected (h : Rejected wire item) :
    s.startSend wire item = (s, .error ⟨.invalidData, wire.malformed⟩) := by
  simp only [StackSplitSink.startSend, h.1, h.2, if_false]

theorem startSend_ignored (accepted : ¬ Rejected wire item) (h : destination wire item = none) :
    s.startSend wire item = (s, .ok ()) := by
  unfold StackSplitSink.startSend
  split_ifs with empty
  · rfl
  · cases parsed : IpPacket.newChecked wire item with
    | none => exact absurd ⟨empty, parsed⟩ accepted
    | some packet =>
      have unrouted : inboundOf (packet.protocol wire) = none := by
        simpa [destination, empty, parsed] using h
      have ignored : supported (packet.protocol wire) = false := by
        rw [Bool.eq_false_iff, ne_eq, supported_iff]
        rintro ⟨c, routed⟩
        cases unrouted.symm.trans routed
      simp only [ignored, Bool.false_eq_true, if_false]

theorem startSend_stored {c : Inbound} (h : destination wire item = some c) :
    ∃ proto, inboundOf proto = some c ∧
      s.startSend wire item = ({ s with packetContainer := some (item, proto) }, .ok ()) := by
  have nonempty : item ≠ [] := by
    rintro rfl
    cases h
  cases parsed : IpPacket.newChecked wire item with
  | none => simp [destination, nonempty, parsed] at h
  | some packet =>
    have routed : inboundOf (packet.protocol wire) = some c := by
      simpa [destination, nonempty, parsed] using h
    have known := (supported_iff (packet.protocol wire)).2 ⟨c, routed⟩
    refine ⟨packet.protocol wire, routed, ?_⟩
    simp only [StackSplitSink.startSend, nonempty, parsed, known, if_true, if_false]

/-- The four ends of `poll_flush` with a packet for `c` stored, and the one without. -/
theorem pollFlush_cases (s : StackSplitSink) :
    (s.waitsFor = none ∧ s.pollFlush = ({ s with packetContainer := none }, .ready (.ok ()))) ∨
    ∃ stored proto c, s.packetContainer = some (stored, proto) ∧ inboundOf proto = some c ∧
      (((s.inbound c).closed = true ∧ s.pollFlush =
          ({ s with packetContainer := none }, .ready (.error (channelClosed proto)))) ∨
        ((s.inbound c).closed = false ∧ (s.inbound c).Full ∧ s.pollFlush = (s, .pending)) ∨
        ((s.inbound c).closed = false ∧ ¬ (s.inbound c).Full ∧ s.pollFlush =
          ({ s with packetContainer := none }.setInbound c ((s.inbound c).push stored),
            .ready (.ok ())))) := by
  obtain ⟨inbound, container⟩ := s
  cases container with
  | none => exact .inl ⟨rfl, rfl⟩
  | some stored =>
    obtain ⟨item, proto⟩ := stored
    cases routed : inboundOf proto with
    | none => exact .inl ⟨by simp [StackSplitSink.waitsFor, routed],
        by simp [StackSplitSink.pollFlush, routed]⟩
    | some c =>
      refine .inr ⟨item, proto, c, rfl, routed, ?_⟩
      cases closed : (inbound c).closed with
      | true => exact .inl ⟨rfl, by simp [StackSplitSink.pollFlush, routed, closed]⟩
      | false =>
        by_cases full : (inbound c).Full
        · exact .inr (.inl ⟨rfl, full, by
            simp [StackSplitSink.pollFlush, routed, closed, full]⟩)
        · exact .inr (.inr ⟨rfl, full, by
            simp [StackSplitSink.pollFlush, routed, closed, full]⟩)

theorem pollReady_empty (h : s.packetContainer = none) : s.pollReady = (s, .ready (.ok ())) := by
  simp [StackSplitSink.pollReady, h]

end Calls
end Ombrac.StackSink
