import Mathlib.Algebra.Order.Ring.Nat
import Ombrac.TunAddress

set_option autoImplicit false

/-! # Reserved addresses, by prefix and by octets -/
namespace Ombrac.ReservedAddress
open ProtocolPacket TunAddress

def net (a b c : UInt8) (prefixLen : ℕ) : Ipv4Net :=
  ⟨⟨(a.toUInt32 * 256 + b.toUInt32) * 65536 + c.toUInt32 * 256⟩,
    ⟨min prefixLen 32, Nat.lt_succ_of_le (Nat.min_le_right ..)⟩⟩

def lowNets : List Ipv4Net :=
  [net 0 0 0 8, net 10 0 0 8, net 100 64 0 10, net 127 0 0 8, net 169 254 0 16, net 172 16 0 12,
    net 192 0 0 24, net 192 0 2 24, net 192 168 0 16, net 198 18 0 15, net 198 51 100 24,
    net 203 0 113 24, net 224 0 0 4]

def Within (nets : List Ipv4Net) (ip : Ipv4Addr) : Prop := ∃ net ∈ nets, net.contains ip = true

def InReserved (ip : Ipv4Addr) : Prop := Within (lowNets ++ [net 240 0 0 4]) ip

/-- 241.0.0.0 to 255.255.255.254. -/
def InGap (ip : Ipv4Addr) : Prop := 0xF1000000 ≤ ip.bits.toNat ∧ ip.bits.toNat < 0xFFFFFFFF

def toIpv6Mapped (ip : Ipv4Addr) : Ipv6Addr := ⟨.ofNat 128 (0xFFFF * 2 ^ 32 + ip.bits.toNat)⟩

def Exact (ip : Ipv4Addr) : Prop := isPrivateOrReserved (.v4 ip) = true ↔ InReserved ip

def Alike (ip : Ipv4Addr) : Prop :=
  isPrivateOrReserved (.v6 (toIpv6Mapped ip)) = isPrivateOrReserved (.v4 ip)

/-! ## Networks as intervals -/

/-- A network is the interval of its size from its network address on. -/
theorem contains_iff_between (net : Ipv4Net) (ip : Ipv4Addr) : net.contains ip = true ↔
    net.network ≤ ip.bits.toNat ∧ ip.bits.toNat < net.network + net.size := by
  have positive : 0 < net.size := Nat.two_pow_pos _
  unfold Ipv4Net.contains Ipv4Net.network
  rw [decide_eq_true_eq, ← Nat.succ_mul, ← Nat.le_div_iff_mul_le positive,
    ← Nat.div_lt_iff_lt_mul positive]
  omega

section Octets
variable {ip : Ipv4Addr}

theorem contains_net (a b c : UInt8) (prefixLen first last : ℕ)
    (ends : (net a b c prefixLen).network = first ∧
      first + (net a b c prefixLen).size = last + 1) :
    (net a b c prefixLen).contains ip = true ↔
      first ≤ ip.bits.toNat ∧ ip.bits.toNat ≤ last := by
  obtain ⟨rfl, size⟩ := ends
  rw [contains_iff_between, size, Nat.lt_succ_iff]

theorem isPrivate_iff : V4.isPrivate ip = true ↔ (net 10 0 0 8).contains ip = true ∨
    (net 172 16 0 12).contains ip = true ∨ (net 192 168 0 16).contains ip = true := by
  have small := ip.bits.toNat_lt
  rw [contains_net 10 0 0 8 0x0A000000 0x0AFFFFFF (by decide),
    contains_net 172 16 0 12 0xAC100000 0xAC1FFFFF (by decide),
    contains_net 192 168 0 16 0xC0A80000 0xC0A8FFFF (by decide)]
  unfold V4.isPrivate V4.octet
  rw [decide_eq_true_eq]
  omega

theorem isLoopback_iff : V4.isLoopback ip = true ↔ (net 127 0 0 8).contains ip = true := by
  have small := ip.bits.toNat_lt
  rw [contains_net 127 0 0 8 0x7F000000 0x7FFFFFFF (by decide)]
  unfold V4.isLoopback V4.octet
  rw [decide_eq_true_eq]
  omega

theorem isLinkLocal_iff : V4.isLinkLocal ip = true ↔ (net 169 254 0 16).contains ip = true := by
  have small := ip.bits.toNat_lt
  rw [contains_net 169 254 0 16 0xA9FE0000 0xA9FEFFFF (by decide)]
  unfold V4.isLinkLocal V4.octet
  rw [decide_eq_true_eq]
  omega

theorem isMulticast_iff : V4.isMulticast ip = true ↔ (net 224 0 0 4).contains ip = true := by
  have small := ip.bits.toNat_lt
  rw [contains_net 224 0 0 4 0xE0000000 0xEFFFFFFF (by decide)]
  unfold V4.isMulticast V4.octet
  rw [decide_eq_true_eq]
  omega

theorem isBroadcast_iff : V4.isBroadcast ip = true ↔ ip.bits.toNat = 0xFFFFFFFF := by
  unfold V4.isBroadcast
  rw [decide_eq_true_eq, ← UInt32.toNat_inj]
  rfl

theorem isDocumentation_iff : V4.isDocumentation ip = true ↔
    (net 192 0 2 24).contains ip = true ∨ (net 198 51 100 24).contains ip = true ∨
      (net 203 0 113 24).contains ip = true := by
  have small := ip.bits.toNat_lt
  rw [contains_net 192 0 2 24 0xC0000200 0xC00002FF (by decide),
    contains_net 198 51 100 24 0xC6336400 0xC63364FF (by decide),
    contains_net 203 0 113 24 0xCB007100 0xCB0071FF (by decide)]
  unfold V4.isDocumentation V4.octet
  rw [decide_eq_true_eq]
  omega

/-- The last pattern matches one octet, 240.0.0.0/8. -/
theorem matchesOctets_iff : V4.matchesOctets ip = true ↔ (net 0 0 0 8).contains ip = true ∨
    (net 100 64 0 10).contains ip = true ∨ (net 192 0 0 24).contains ip = true ∨
      (net 198 18 0 15).contains ip = true ∨ (net 240 0 0 8).contains ip = true := by
  have small := ip.bits.toNat_lt
  rw [contains_net 0 0 0 8 0 0x00FFFFFF (by decide),
    contains_net 100 64 0 10 0x64400000 0x647FFFFF (by decide),
    contains_net 192 0 0 24 0xC0000000 0xC00000FF (by decide),
    contains_net 198 18 0 15 0xC6120000 0xC613FFFF (by decide),
    contains_net 240 0 0 8 0xF0000000 0xF0FFFFFF (by decide)]
  unfold V4.matchesOctets V4.octet
  rw [decide_eq_true_eq]
  omega

/-! ## What the patterns leave out -/

theorem low_lt (low : Within lowNets ip) : ip.bits.toNat < 0xF0000000 := by
  have ends : ∀ net ∈ lowNets, net.network + net.size ≤ 0xF0000000 := by decide
  obtain ⟨net, member, inside⟩ := low
  exact ((contains_iff_between net ip).1 inside).2.trans_le (ends net member)

theorem caught_iff : isPrivateOrReserved (.v4 ip) = true ↔
    Within lowNets ip ∨ (net 240 0 0 8).contains ip = true ∨ ip.bits.toNat = 0xFFFFFFFF := by
  simp only [isPrivateOrReserved, Bool.or_eq_true, isPrivate_iff, isLoopback_iff, isLinkLocal_iff,
    isMulticast_iff, isBroadcast_iff, isDocumentation_iff, matchesOctets_iff]
  simp only [Within, lowNets, List.mem_cons, List.not_mem_nil, or_false, exists_eq_or_imp,
    exists_eq_left]
  grind

/-- 240.0.0.0/4 is its first sixteenth, the gap, and the broadcast address. -/
theorem classE_iff : (net 240 0 0 4).contains ip = true ↔
    (net 240 0 0 8).contains ip = true ∨ ip.bits.toNat = 0xFFFFFFFF ∨ InGap ip := by
  have small := ip.bits.toNat_lt
  rw [contains_net 240 0 0 4 0xF0000000 0xFFFFFFFF (by decide),
    contains_net 240 0 0 8 0xF0000000 0xF0FFFFFF (by decide)]
  unfold InGap
  omega

theorem inReserved_iff : InReserved ip ↔ Within lowNets ip ∨ (net 240 0 0 8).contains ip = true ∨
    ip.bits.toNat = 0xFFFFFFFF ∨ InGap ip := by
  rw [← classE_iff]
  simp only [InReserved, Within, List.mem_append, List.mem_singleton, or_and_right, exists_or,
    exists_eq_left]

theorem caught_iff_reserved :
    isPrivateOrReserved (.v4 ip) = true ↔ InReserved ip ∧ ¬ InGap ip := by
  rw [caught_iff, inReserved_iff]
  constructor
  · intro caught
    refine ⟨?_, fun gap => ?_⟩
    · obtain low | first | last := caught
      · exact .inl low
      · exact .inr (.inl first)
      · exact .inr (.inr (.inl last))
    · unfold InGap at gap
      obtain low | first | last := caught
      · have below := low_lt low
        omega
      · rw [contains_net 240 0 0 8 0xF0000000 0xF0FFFFFF (by decide)] at first
        omega
      · omega
  · rintro ⟨low | first | last | gap, outside⟩
    · exact .inl low
    · exact .inr (.inl first)
    · exact .inr (.inr last)
    · exact absurd gap outside

theorem inReserved_of_gap (gap : InGap ip) : InReserved ip :=
  inReserved_iff.2 (.inr (.inr (.inr gap)))

theorem mapped_bits (ip : Ipv4Addr) :
    (toIpv6Mapped ip).bits.toNat = 0xFFFF * 2 ^ 32 + ip.bits.toNat := by
  have small := ip.bits.toNat_lt
  unfold toIpv6Mapped
  rw [BitVec.toNat_ofNat]
  omega

theorem mapped_ne (ip : Ipv4Addr) {bits : BitVec 128} (low : bits.toNat < 2 ^ 32) :
    (toIpv6Mapped ip).bits ≠ bits := by
  rintro rfl
  rw [mapped_bits] at low
  omega

/-- No mapped address is caught: the first segment is zero, and it is neither `::` nor `::1`. -/
theorem mapped_not_caught (ip : Ipv4Addr) :
    isPrivateOrReserved (.v6 (toIpv6Mapped ip)) = false := by
  have small := ip.bits.toNat_lt
  have first : V6.segment (toIpv6Mapped ip) 0 = 0 := by
    unfold V6.segment
    rw [mapped_bits]
    omega
  have loopback : V6.isLoopback (toIpv6Mapped ip) = false :=
    decide_eq_false (mapped_ne ip (by decide))
  have unspecified : V6.isUnspecified (toIpv6Mapped ip) = false :=
    decide_eq_false (mapped_ne ip (by decide))
  simp [isPrivateOrReserved, V6.isMulticast, first, loopback, unspecified]

theorem exact_iff : Exact ip ↔ ¬ InGap ip := by
  unfold Exact
  rw [caught_iff_reserved]
  constructor
  · intro same gap
    exact (same.2 (inReserved_of_gap gap)).2 gap
  · intro outside
    exact and_iff_left outside

theorem alike_iff : Alike ip ↔ ¬ InReserved ip ∨ InGap ip := by
  unfold Alike
  rw [mapped_not_caught, eq_comm, ← Bool.not_eq_true, caught_iff_reserved, not_and_or, not_not]

end Octets

/-- An IPv4 address is classified by the fourteen networks exactly if it is not in the gap, and
its mapped form alike exactly if it is not caught; so both hold exactly of the addresses that are
in none of the networks. -/
theorem reserved_classification_iff (ip : Ipv4Addr) :
    (Exact ip ↔ ¬ InGap ip) ∧ (Alike ip ↔ ¬ InReserved ip ∨ InGap ip) ∧
      (Exact ip ∧ Alike ip ↔ ¬ InReserved ip) := by
  refine ⟨exact_iff, alike_iff, ?_⟩
  rw [exact_iff, alike_iff]
  constructor
  · rintro ⟨outside, clear | gap⟩
    · exact clear
    · exact absurd gap outside
  · intro clear
    exact ⟨fun gap => clear (inReserved_of_gap gap), .inl clear⟩

/-- 241.0.0.1 is not caught, and 10.0.0.1 is caught but not as `::ffff:10.0.0.1`. -/
theorem reserved_addresses_pass : ¬ Exact ⟨0xF1000001⟩ ∧ ¬ Alike ⟨0x0A000001⟩ := by
  unfold Exact Alike InReserved Within
  decide

end Ombrac.ReservedAddress
