import Ombrac.ProtocolPacket

set_option autoImplicit false

/-! # Addresses that the TUN endpoint treats specially -/
namespace Ombrac.TunAddress
open ProtocolPacket

/-- An IPv4 network; `prefixLen` is at most 32. -/
structure Ipv4Net where
  addr : Ipv4Addr
  prefixLen : Fin 33
  deriving DecidableEq, Repr

namespace Ipv4Net

def size (net : Ipv4Net) : ℕ := 2 ^ (32 - net.prefixLen.val)

def network (net : Ipv4Net) : ℕ := net.addr.bits.toNat / net.size * net.size

def contains (net : Ipv4Net) (ip : Ipv4Addr) : Bool :=
  ip.bits.toNat / net.size = net.addr.bits.toNat / net.size

end Ipv4Net

/-- 198.18.0.0/16. -/
def defaultFakednsCidr : Ipv4Net := ⟨⟨0xC6120000⟩, 16⟩

namespace V4
variable (ip : Ipv4Addr)

def octet (i : ℕ) : ℕ := ip.bits.toNat / 256 ^ (3 - i) % 256

def isPrivate : Bool :=
  octet ip 0 = 10 ∨ octet ip 0 = 172 ∧ 16 ≤ octet ip 1 ∧ octet ip 1 ≤ 31 ∨
    octet ip 0 = 192 ∧ octet ip 1 = 168

def isLoopback : Bool := octet ip 0 = 127

def isLinkLocal : Bool := octet ip 0 = 169 ∧ octet ip 1 = 254

def isMulticast : Bool := 224 ≤ octet ip 0 ∧ octet ip 0 ≤ 239

def isBroadcast : Bool := ip.bits = 0xFFFFFFFF

def isDocumentation : Bool :=
  octet ip 0 = 192 ∧ octet ip 1 = 0 ∧ octet ip 2 = 2 ∨
    octet ip 0 = 198 ∧ octet ip 1 = 51 ∧ octet ip 2 = 100 ∨
    octet ip 0 = 203 ∧ octet ip 1 = 0 ∧ octet ip 2 = 113

def matchesOctets : Bool :=
  octet ip 0 = 0 ∨ octet ip 0 = 100 ∧ 64 ≤ octet ip 1 ∧ octet ip 1 ≤ 127 ∨
    octet ip 0 = 192 ∧ octet ip 1 = 0 ∧ octet ip 2 = 0 ∨
    octet ip 0 = 198 ∧ (octet ip 1 = 18 ∨ octet ip 1 = 19) ∨ octet ip 0 = 240

end V4

namespace V6
variable (ip : Ipv6Addr)

def segment (i : ℕ) : ℕ := ip.bits.toNat / 65536 ^ (7 - i) % 65536

def isLoopback : Bool := ip.bits = 1

def isUnspecified : Bool := ip.bits = 0

def isMulticast : Bool := segment ip 0 &&& 0xff00 = 0xff00

end V6

def isPrivateOrReserved : IpAddr → Bool
  | .v4 v4 =>
    V4.isPrivate v4 || V4.isLoopback v4 || V4.isLinkLocal v4 || V4.isMulticast v4 ||
      V4.isBroadcast v4 || V4.isDocumentation v4 || V4.matchesOctets v4
  | .v6 v6 =>
    V6.isLoopback v6 || V6.isUnspecified v6 || V6.isMulticast v6 ||
      V6.segment v6 0 &&& 0xfe00 = 0xfc00 || V6.segment v6 0 &&& 0xffc0 = 0xfe80 ||
      V6.segment v6 0 = 0x2001 && V6.segment v6 1 = 0xdb8 || V6.segment v6 0 = 0x100

def shouldSkipAddress : Address → Bool
  | .socketV4 sock => isPrivateOrReserved (.v4 sock.ip)
  | .socketV6 sock => isPrivateOrReserved (.v6 sock.ip)
  | .domain _ _ => false

end Ombrac.TunAddress
