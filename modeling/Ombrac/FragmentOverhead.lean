import Ombrac.AddressText
import Ombrac.ProtocolCodec

set_option autoImplicit false

/-!
# What a fragment adds to its data

`fragmented_overhead` adds up fixed widths; the encoder writes every integer in as many bytes as
its value needs, a tag before the address and a length before the data.
-/
namespace Ombrac.FragmentOverhead
open ProtocolPacket BinaryFormat Format ProtocolCodec AddressText

def fragmentedOverhead : ℕ :=
  let fixedOverhead := 1 + 8 + 4 + 2 + 2
  let maxAddressOverhead := 1 + 2 + maxDomainLength + 2
  fixedOverhead + maxAddressOverhead

def addressSize : Address → ℕ
  | .socketV4 addr => 4 + varintLength addr.port.toNat
  | .socketV6 addr => 16 + varintLength addr.port.toNat
  | .domain name port => varintLength name.length + name.length + varintLength port.toNat

theorem address_writes {addr : Address} (short : ∀ name port, addr = .domain name port →
    name.length < 256 ^ 8) : address.Writes addr (1 + addressSize addr) := by
  change ∃ bytes, Variant.encodeFrom addr 0 _ = .ok bytes ∧ _
  cases addr with
  | socketV4 addr =>
    have written : socketAddrV4.Writes addr (4 + varintLength addr.port.toNat) :=
      (writes_octets _).pair (writes_uint16 addr.port)
    exact Variant.writes_here rfl (by decide) written
  | socketV6 addr =>
    have written : socketAddrV6.Writes addr (16 + varintLength addr.port.toNat) :=
      (writes_octets _).pair (writes_uint16 addr.port)
    rw [Variant.encodeFrom_skip (by rfl)]
    exact Variant.writes_here rfl (by decide) written
  | domain name port =>
    have written : (byteString.pair uint16).Writes (name, port)
        (varintLength name.length + name.length + varintLength port.toNat) :=
      (writes_byteString (short name port rfl)).pair (writes_uint16 port)
    rw [Variant.encodeFrom_skip (by rfl), Variant.encodeFrom_skip (by rfl)]
    exact Variant.writes_here rfl (by decide) written

def optionalSize : Option Address → ℕ
  | none => 1
  | some addr => 1 + (1 + addressSize addr)

section Fragment
variable {sessionId : UInt64} {fragmentId : UInt32} {fragmentIndex fragmentCount : UInt16}
variable {addr : Option Address} {data : Bytes}

theorem optional_writes (short : ∀ name port, addr = some (.domain name port) →
    name.length < 256 ^ 8) : (optional address).Writes addr (optionalSize addr) := by
  cases addr with
  | none => exact writes_optional_none
  | some addr =>
    exact (address_writes fun name port same => short name port (congrArg _ same)).optional_some

theorem fragment_writes (short : ∀ name port, addr = some (.domain name port) →
    name.length < 256 ^ 8) (small : data.length < 256 ^ 8) :
    udpPacket.Writes (.fragmented sessionId fragmentId fragmentIndex fragmentCount addr data)
      (1 + (varintLength sessionId.toNat + varintLength fragmentId.toNat +
        varintLength fragmentIndex.toNat + varintLength fragmentCount.toNat + optionalSize addr +
        (varintLength data.length + data.length))) := by
  change ∃ bytes, Variant.encodeFrom _ 0 _ = .ok bytes ∧ _
  rw [Variant.encodeFrom_skip (by rfl)]
  refine Variant.writes_here rfl (by decide) ?_
  exact (((((writes_uint64 sessionId).pair (writes_uint32 fragmentId)).pair
    (writes_uint16 fragmentIndex)).pair (writes_uint16 fragmentCount)).pair
    (optional_writes short)).pair (writes_byteString small)

/-- The integers of a fragment and its domain, as they are written, leave the overhead its
discriminant, its tag and the variant of its address. -/
def Roomy (sessionId : UInt64) (fragmentId : UInt32) (fragmentIndex fragmentCount : UInt16)
    (addr : Option Address) (data : Bytes) : Prop :=
  ∀ name port, addr = some (.domain name port) →
    varintLength sessionId.toNat + varintLength fragmentId.toNat +
      varintLength fragmentIndex.toNat + varintLength fragmentCount.toNat +
      (varintLength name.length + name.length + varintLength port.toNat) +
      varintLength data.length + 3 ≤ fragmentedOverhead

theorem uint16_width (n : UInt16) : varintLength n.toNat ≤ 3 :=
  varintLength_le (w := .short) n.toNat_lt

theorem overhead_iff_roomy (small : data.length ≤ 65535) :
    1 + (varintLength sessionId.toNat + varintLength fragmentId.toNat +
        varintLength fragmentIndex.toNat + varintLength fragmentCount.toNat + optionalSize addr +
        (varintLength data.length + data.length)) ≤ data.length + fragmentedOverhead ↔
      Roomy sessionId fragmentId fragmentIndex fragmentCount addr data := by
  have session : varintLength sessionId.toNat ≤ 9 := varintLength_le (w := .long) sessionId.toNat_lt
  have fragment : varintLength fragmentId.toNat ≤ 5 :=
    varintLength_le (w := .word) fragmentId.toNat_lt
  have index := uint16_width fragmentIndex
  have count := uint16_width fragmentCount
  have length : varintLength data.length ≤ 3 :=
    varintLength_le (w := .short) (Nat.lt_succ_of_le small)
  have whole : fragmentedOverhead = 277 := rfl
  rcases addr with _ | ⟨addr⟩ | ⟨addr⟩ | ⟨name, port⟩
  · refine iff_of_true ?_ (fun _ _ h => by cases h)
    simp only [optionalSize]
    omega
  · have port := uint16_width addr.port
    refine iff_of_true ?_ (fun _ _ h => by cases h)
    simp only [optionalSize, addressSize]
    omega
  · have port := uint16_width addr.port
    refine iff_of_true ?_ (fun _ _ h => by cases h)
    simp only [optionalSize, addressSize]
    omega
  · constructor
    · rintro fits _ _ ⟨⟩
      simp only [optionalSize, addressSize] at fits
      omega
    · intro roomy
      have room := roomy name port rfl
      simp only [optionalSize, addressSize]
      omega

/-- A fragment stays within the overhead, and fits a datagram, exactly when it is roomy; one without
a domain always is. -/
theorem fragmented_overhead_iff (display : Fault → String) (small : data.length ≤ 65535)
    (limited : ∀ name port, addr = some (.domain name port) → name.length ≤ maxDomainLength) :
    ∃ bytes, encode display
        (UdpPacket.fragmented sessionId fragmentId fragmentIndex fragmentCount addr data) =
        .ok bytes ∧
      (bytes.length ≤ data.length + fragmentedOverhead ↔
        Roomy sessionId fragmentId fragmentIndex fragmentCount addr data) ∧
      ((∀ maxDatagramSize, fragmentedOverhead ≤ maxDatagramSize →
        data.length ≤ maxDatagramSize - fragmentedOverhead → bytes.length ≤ maxDatagramSize) ↔
        Roomy sessionId fragmentId fragmentIndex fragmentCount addr data) := by
  have written : udpPacket.Writes
      (.fragmented sessionId fragmentId fragmentIndex fragmentCount addr data) _ :=
    fragment_writes (fun name port same => (limited name port same).trans_lt (by decide))
      (small.trans_lt (by decide))
  obtain ⟨bytes, encoded, size⟩ := written
  have bound : bytes.length ≤ data.length + fragmentedOverhead ↔
      Roomy sessionId fragmentId fragmentIndex fragmentCount addr data := by
    rw [size]
    exact overhead_iff_roomy small
  refine ⟨bytes, encode_ok.2 encoded, bound, ?_⟩
  rw [← bound]
  constructor
  · intro fits
    have enough : data.length ≤ data.length + fragmentedOverhead - fragmentedOverhead := by omega
    exact fits _ (Nat.le_add_left _ _) enough
  · intro within maxDatagramSize positive short
    omega

end Fragment

/-- The second of two fragments, without an address. -/
theorem fragmented_overhead_second : ∃ bytes, encode (fun _ => "")
      (UdpPacket.fragmented 7 1 1 2 none [0, 1, 2]) = .ok bytes ∧
    (bytes.length ≤ 3 + fragmentedOverhead ↔ Roomy 7 1 1 2 none [0, 1, 2]) ∧
    ((∀ maxDatagramSize, fragmentedOverhead ≤ maxDatagramSize →
      3 ≤ maxDatagramSize - fragmentedOverhead → bytes.length ≤ maxDatagramSize) ↔
      Roomy 7 1 1 2 none [0, 1, 2]) :=
  fragmented_overhead_iff (fun _ => "") (by decide) (fun _ _ h => by cases h)

/-- A session and a fragment past 65535, the longest domain and a datagram cut at 1400 bytes. -/
def longFragment : UdpPacket :=
  .fragmented 65536 65536 0 2 (some (.domain (List.replicate 255 97) 443)) (List.replicate 1400 0)

theorem longFragment_exceeds : ∃ bytes, encode (fun _ => "") longFragment = .ok bytes ∧
    1400 + fragmentedOverhead < bytes.length := by
  have short : ∀ name port,
      some (Address.domain (List.replicate 255 97) 443) = some (.domain name port) →
        name.length < 256 ^ 8 := by
    rintro _ _ ⟨⟩
    rw [List.length_replicate]
    decide
  have written : udpPacket.Writes longFragment _ :=
    fragment_writes short (by rw [List.length_replicate]; decide)
  obtain ⟨bytes, encoded, size⟩ := written
  refine ⟨bytes, encode_ok.2 encoded, ?_⟩
  rw [size]
  simp only [optionalSize, addressSize, List.length_replicate]
  decide

end Ombrac.FragmentOverhead
