import Ombrac.ProtocolPacket

set_option autoImplicit false

/-!
# IP and UDP packets of the netstack

Headers are parsed by `smoltcp::wire`, a parameter; `headerWire` reads the header fields where
the wire formats put them, for packets that tests and counterexamples name.
-/
namespace Ombrac.StackPacket
open ProtocolPacket

inductive IpVersion where
  | ipv4 | ipv6
  deriving DecidableEq, Repr

inductive IpProtocol where
  | hopByHop | icmp | igmp | tcp | udp | ipv6Route | ipv6Frag | ipSecEsp | ipSecAh | icmpv6
  | ipv6NoNxt | ipv6Opts
  | unknown (number : UInt8)
  deriving DecidableEq, Repr

/-- What the netstack calls of `smoltcp::wire`: each `check` is a `new_checked`, and
`malformed` the text of the error they share. -/
structure Wire where
  malformed : String
  versionOf : Bytes → Option IpVersion
  checkIpv4 : Bytes → Bool
  checkIpv6 : Bytes → Bool
  checkUdp : Bytes → Bool
  ipv4HeaderLen : Bytes → ℕ
  ipv4Source : Bytes → Ipv4Addr
  ipv4Destination : Bytes → Ipv4Addr
  ipv4NextHeader : Bytes → IpProtocol
  ipv6Source : Bytes → Ipv6Addr
  ipv6Destination : Bytes → Ipv6Addr
  ipv6NextHeader : Bytes → IpProtocol
  udpSourcePort : Bytes → UInt16
  udpDestinationPort : Bytes → UInt16
  udpPayload : Bytes → Bytes

inductive IpPacket where
  | ipv4 (packet : Bytes)
  | ipv6 (packet : Bytes)
  deriving DecidableEq, Repr

namespace IpPacket
variable (wire : Wire)

def newChecked (packet : Bytes) : Option IpPacket :=
  match wire.versionOf packet with
  | none => none
  | some .ipv4 => if wire.checkIpv4 packet then some (.ipv4 packet) else none
  | some .ipv6 => if wire.checkIpv6 packet then some (.ipv6 packet) else none

def srcAddr : IpPacket → IpAddr
  | .ipv4 packet => .v4 (wire.ipv4Source packet)
  | .ipv6 packet => .v6 (wire.ipv6Source packet)

def dstAddr : IpPacket → IpAddr
  | .ipv4 packet => .v4 (wire.ipv4Destination packet)
  | .ipv6 packet => .v6 (wire.ipv6Destination packet)

def protocol : IpPacket → IpProtocol
  | .ipv4 packet => wire.ipv4NextHeader packet
  | .ipv6 packet => wire.ipv6NextHeader packet

end IpPacket

/-! ## The header fields -/

def IpProtocol.ofNumber : UInt8 → IpProtocol
  | 0 => .hopByHop
  | 1 => .icmp
  | 2 => .igmp
  | 6 => .tcp
  | 17 => .udp
  | 43 => .ipv6Route
  | 44 => .ipv6Frag
  | 50 => .ipSecEsp
  | 51 => .ipSecAh
  | 58 => .icmpv6
  | 59 => .ipv6NoNxt
  | 60 => .ipv6Opts
  | n => .unknown n

def byteAt (b : Bytes) (i : ℕ) : ℕ := (b.getD i 0).toNat

def bigEndian (b : Bytes) (i n : ℕ) : ℕ :=
  ((b.drop i).take n).foldl (fun acc byte => acc * 256 + byte.toNat) 0

def headerWire : Wire where
  malformed := "wire::Error"
  versionOf := fun b =>
    if byteAt b 0 / 16 = 4 then some .ipv4
    else if byteAt b 0 / 16 = 6 then some .ipv6
    else none
  checkIpv4 := fun b =>
    let headerLen := byteAt b 0 % 16 * 4
    let totalLen := bigEndian b 2 2
    decide (20 ≤ b.length ∧ 20 ≤ headerLen ∧ headerLen ≤ b.length ∧ headerLen ≤ totalLen ∧
      totalLen ≤ b.length)
  checkIpv6 := fun b => decide (40 ≤ b.length ∧ 40 + bigEndian b 4 2 ≤ b.length)
  checkUdp := fun b =>
    let len := bigEndian b 4 2
    decide (8 ≤ b.length ∧ len ≤ b.length ∧ 8 ≤ len)
  ipv4HeaderLen := fun b => byteAt b 0 % 16 * 4
  ipv4Source := fun b => ⟨(bigEndian b 12 4).toUInt32⟩
  ipv4Destination := fun b => ⟨(bigEndian b 16 4).toUInt32⟩
  ipv4NextHeader := fun b => .ofNumber (b.getD 9 0)
  ipv6Source := fun b => ⟨.ofNat 128 (bigEndian b 8 16)⟩
  ipv6Destination := fun b => ⟨.ofNat 128 (bigEndian b 24 16)⟩
  ipv6NextHeader := fun b => .ofNumber (b.getD 6 0)
  udpSourcePort := fun b => (bigEndian b 0 2).toUInt16
  udpDestinationPort := fun b => (bigEndian b 2 2).toUInt16
  udpPayload := fun b => (b.take (bigEndian b 4 2)).drop 8

end Ombrac.StackPacket
