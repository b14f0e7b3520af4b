import Ombrac.SocksProtocol

set_option autoImplicit false

/-!
# The SOCKS5 address as a codec

A buffer is read as an address exactly if it begins with the encoding of that address, which is one
that has an encoding.
-/
namespace Ombrac.SocksCodec
open ProtocolPacket BinaryFormat SocksProtocol

/-- The addresses with an encoding: IPv6 addresses without flow information and scope, and domains
whose length a byte can tell. -/
def Encodable : SocksAddress → Prop
  | .ipv4 _ => True
  | .ipv6 addr => addr.flowinfo = 0 ∧ addr.scopeId = 0
  | .domain name _ => 1 ≤ name.length ∧ name.length ≤ 255

/-! ## The bodies behind the address type -/

def ipv4Of (body : Bytes) : SocksAddress :=
  .ipv4 ⟨⟨UInt32.ofNat (bigEndianValue (body.take 4))⟩, portOf (body.drop 4)⟩

def ipv6Of (body : Bytes) : SocksAddress :=
  .ipv6 ⟨⟨BitVec.ofNat 128 (bigEndianValue (body.take 16))⟩, portOf (body.drop 16), 0, 0⟩

def domainOf (len : ℕ) (body : Bytes) : SocksAddress :=
  .domain (body.take len) (portOf (body.drop len))

/-- The buffer holds an address and then the rest. -/
inductive Parses : Bytes → SocksAddress → Bytes → Prop where
  | ipv4 {body : Bytes} (size : body.length = 6) (rest : Bytes) :
      Parses (atypIpv4 :: (body ++ rest)) (ipv4Of body) rest
  | ipv6 {body : Bytes} (size : body.length = 18) (rest : Bytes) :
      Parses (atypIpv6 :: (body ++ rest)) (ipv6Of body) rest
  | domain {len : UInt8} {body : Bytes} (nonempty : len.toNat ≠ 0)
      (size : body.length = len.toNat + 2) (rest : Bytes) :
      Parses (atypDomain :: len :: (body ++ rest)) (domainOf len.toNat body) rest

section Parses
variable {buf rest : Bytes} {addr : SocksAddress}

theorem bigEndianValue_bigEndian {width n : ℕ} (small : n < 256 ^ width) :
    bigEndianValue (bigEndian width n).val = n := ofBigEndian_bigEndian small

theorem portOf_bigEndian (port : UInt16) : portOf (bigEndian 2 port.toNat).val = port := by
  rw [portOf, List.take_of_length_le (bigEndian 2 _).property.le,
    bigEndianValue_bigEndian port.toNat_lt, UInt16.ofNat_toNat]

theorem ipv4Of_encode {body : Bytes} (size : body.length = 6) :
    (ipv4Of body).encode = atypIpv4 :: body := encode_ipv4 size

theorem ipv6Of_encode {body : Bytes} (size : body.length = 18) :
    (ipv6Of body).encode = atypIpv6 :: body := encode_ipv6 size

theorem domainOf_encode {len : UInt8} {body : Bytes} (size : body.length = len.toNat + 2) :
    (domainOf len.toNat body).encode = atypDomain :: len :: body := encode_domain size

theorem exists_ipv4Of (addr : SocketAddrV4) :
    ∃ body, body.length = 6 ∧ ipv4Of body = .ipv4 addr := by
  obtain ⟨⟨bits⟩, port⟩ := addr
  have ip : (bigEndian 4 bits.toNat).val.length = 4 := (bigEndian 4 _).property
  refine ⟨(bigEndian 4 bits.toNat).val ++ (bigEndian 2 port.toNat).val, ?_, ?_⟩
  · rw [List.length_append, ip, (bigEndian 2 _).property]
  · rw [ipv4Of, List.take_left' ip, List.drop_left' ip, bigEndianValue_bigEndian bits.toNat_lt,
      portOf_bigEndian, UInt32.ofNat_toNat]

theorem exists_ipv6Of {addr : SocketAddrV6} (plain : addr.flowinfo = 0 ∧ addr.scopeId = 0) :
    ∃ body, body.length = 18 ∧ ipv6Of body = .ipv6 addr := by
  obtain ⟨⟨bits⟩, port, flowinfo, scopeId⟩ := addr
  obtain ⟨rfl, rfl⟩ : flowinfo = 0 ∧ scopeId = 0 := plain
  have ip : (bigEndian 16 bits.toNat).val.length = 16 := (bigEndian 16 _).property
  refine ⟨(bigEndian 16 bits.toNat).val ++ (bigEndian 2 port.toNat).val, ?_, ?_⟩
  · rw [List.length_append, ip, (bigEndian 2 _).property]
  · rw [ipv6Of, List.take_left' ip, List.drop_left' ip, bigEndianValue_bigEndian bits.isLt,
      portOf_bigEndian, BitVec.ofNat_toNat, BitVec.setWidth_eq]

theorem exists_domainOf {name : Bytes} (nonempty : 1 ≤ name.length) (short : name.length ≤ 255)
    (port : UInt16) : ∃ (len : UInt8) (body : Bytes), len.toNat ≠ 0 ∧
      body.length = len.toNat + 2 ∧ domainOf len.toNat body = .domain name port := by
  have len : name.length.toUInt8.toNat = name.length := Nat.mod_eq_of_lt (by omega)
  refine ⟨name.length.toUInt8, name ++ (bigEndian 2 port.toNat).val, ?_, ?_, ?_⟩
  · omega
  · rw [List.length_append, (bigEndian 2 _).property, len]
  · rw [domainOf, len, List.take_left, List.drop_left, portOf_bigEndian]

/-- What is read was encoded so. -/
theorem Parses.encode (parses : Parses buf addr rest) :
    Encodable addr ∧ buf = addr.encode ++ rest := by
  cases parses with
  | ipv4 size =>
    rw [ipv4Of_encode size]
    exact ⟨trivial, rfl⟩
  | ipv6 size =>
    rw [ipv6Of_encode size]
    exact ⟨⟨rfl, rfl⟩, rfl⟩
  | @domain len body nonempty size =>
    have small := len.toNat_lt
    have name : (body.take len.toNat).length = len.toNat := by
      rw [List.length_take]
      omega
    rw [domainOf_encode size]
    refine ⟨⟨?_, ?_⟩, rfl⟩
    · omega
    · omega

/-- What is encoded is read so. -/
theorem Parses.of_encode (encodable : Encodable addr) (rest : Bytes) :
    Parses (addr.encode ++ rest) addr rest := by
  cases addr with
  | ipv4 addr =>
    obtain ⟨body, size, same⟩ := exists_ipv4Of addr
    rw [← same, ipv4Of_encode size]
    exact .ipv4 size rest
  | ipv6 addr =>
    obtain ⟨body, size, same⟩ := exists_ipv6Of encodable
    rw [← same, ipv6Of_encode size]
    exact .ipv6 size rest
  | domain name port =>
    obtain ⟨len, body, nonempty, size, same⟩ := exists_domainOf encodable.1 encodable.2 port
    rw [← same, domainOf_encode size]
    exact .domain nonempty size rest

theorem parses_iff : Parses buf addr rest ↔ Encodable addr ∧ buf = addr.encode ++ rest := by
  constructor
  · exact Parses.encode
  · rintro ⟨encodable, rfl⟩
    exact Parses.of_encode encodable rest

/-! ## Reading a buffer -/

theorem exists_body {n : ℕ} (enough : ¬ buf.length < n) :
    ∃ body behind, body.length = n ∧ buf = body ++ behind :=
  ⟨buf.take n, buf.drop n, List.length_take_of_le (Nat.le_of_not_lt enough),
    (List.take_append_drop n buf).symm⟩

theorem portOf_append {front : Bytes} (enough : 2 ≤ front.length) (back : Bytes) :
    portOf (front ++ back) = portOf front := by
  rw [portOf, portOf, List.take_append_of_le_length enough]

section Body
variable {body : Bytes}

theorem length_append_not_lt {n : ℕ} (size : body.length = n) (rest : Bytes) :
    ¬ (body ++ rest).length < n := by
  rw [List.length_append, size]
  exact Nat.not_lt_of_le (Nat.le_add_right n rest.length)

theorem fromIpv4_append (size : body.length = 6) (rest : Bytes) :
    fromIpv4 (body ++ rest) = .ok (ipv4Of body, rest) := by
  have port : 2 ≤ (body.drop 4).length := by
    rw [List.length_drop]
    omega
  unfold fromIpv4 ipv4Of
  rw [if_neg (length_append_not_lt size rest), List.take_append_of_le_length (by omega),
    List.drop_append_of_le_length (by omega), portOf_append port, List.drop_left' size]

theorem fromIpv6_append (size : body.length = 18) (rest : Bytes) :
    fromIpv6 (body ++ rest) = .ok (ipv6Of body, rest) := by
  have port : 2 ≤ (body.drop 16).length := by
    rw [List.length_drop]
    omega
  unfold fromIpv6 ipv6Of
  rw [if_neg (length_append_not_lt size rest), List.take_append_of_le_length (by omega),
    List.drop_append_of_le_length (by omega), portOf_append port, List.drop_left' size]

theorem fromDomain_append {len : UInt8} (nonempty : len.toNat ≠ 0)
    (size : body.length = len.toNat + 2) (rest : Bytes) :
    fromDomain (len :: (body ++ rest)) = .ok (domainOf len.toNat body, rest) := by
  have port : 2 ≤ (body.drop len.toNat).length := by
    rw [List.length_drop]
    omega
  unfold fromDomain domainOf
  dsimp only
  rw [if_neg nonempty, if_neg (length_append_not_lt size rest),
    List.take_append_of_le_length (by omega), List.drop_append_of_le_length (by omega),
    portOf_append port, List.drop_left' size]

end Body

theorem Parses.addressFromBuf (parses : Parses buf addr rest) :
    addressFromBuf buf = .ok (addr, rest) := by
  cases parses with
  | ipv4 size => exact fromIpv4_append size rest
  | ipv6 size => exact fromIpv6_append size rest
  | domain nonempty size => exact fromDomain_append nonempty size rest

theorem parses_of_addressFromBuf (read : addressFromBuf buf = .ok (addr, rest)) :
    Parses buf addr rest := by
  cases buf with
  | nil => cases read
  | cons atyp buf =>
    unfold SocksProtocol.addressFromBuf at read
    dsimp only at read
    split_ifs at read with ipv4 ipv6 domain
    · obtain rfl := ipv4
      by_cases short : buf.length < 6
      · rw [fromIpv4, if_pos short] at read
        cases read
      · obtain ⟨body, behind, size, rfl⟩ := exists_body short
        rw [fromIpv4_append size] at read
        cases read
        exact .ipv4 size _
    · obtain rfl := ipv6
      by_cases short : buf.length < 18
      · rw [fromIpv6, if_pos short] at read
        cases read
      · obtain ⟨body, behind, size, rfl⟩ := exists_body short
        rw [fromIpv6_append size] at read
        cases read
        exact .ipv6 size _
    · obtain rfl := domain
      cases buf with
      | nil => cases read
      | cons len buf =>
        rw [fromDomain] at read
        by_cases empty : len.toNat = 0
        · rw [if_pos empty] at read
          cases read
        · by_cases short : buf.length < len.toNat + 2
          · rw [if_neg empty, if_pos short] at read
            cases read
          · obtain ⟨body, behind, size, rfl⟩ := exists_body short
            rw [← fromDomain, fromDomain_append empty size] at read
            cases read
            exact .domain empty size _

/-- A buffer is read as an address and a rest exactly if it is the address's encoding and that
rest. -/
theorem addressFromBuf_ok_iff :
    addressFromBuf buf = .ok (addr, rest) ↔ Encodable addr ∧ buf = addr.encode ++ rest := by
  rw [← parses_iff]
  exact ⟨parses_of_addressFromBuf, Parses.addressFromBuf⟩

theorem fromBuf_encodeUnfragmented (encodable : Encodable addr) (data : Bytes) :
    SocksUdpPacket.fromBuf (SocksUdpPacket.encodeUnfragmented addr data) = .ok ⟨0, addr, data⟩ := by
  have read := (Parses.of_encode encodable data).addressFromBuf
  change (addressFromBuf (addr.encode ++ data) >>= _) = _
  rw [read]
  rfl

end Parses

/-- Addresses with an encoding and their encodings belong to each other, whatever stands behind, and
the header of an unfragmented datagram gives back its address and data. -/
theorem codec_bijection :
    (∀ addr, Encodable addr → addr.encode.length = addr.encodedLen ∧
      (∀ rest, addressFromBuf (addr.encode ++ rest) = .ok (addr, rest)) ∧
      ∀ data, SocksUdpPacket.fromBuf (SocksUdpPacket.encodeUnfragmented addr data) =
        .ok ⟨0, addr, data⟩) ∧
      ∀ buf addr rest, addressFromBuf buf = .ok (addr, rest) →
        Encodable addr ∧ buf = addr.encode ++ rest := by
  constructor
  · intro addr encodable
    refine ⟨encode_length addr, fun rest => ?_, fromBuf_encodeUnfragmented encodable⟩
    exact addressFromBuf_ok_iff.2 ⟨encodable, rfl⟩
  · exact fun buf addr rest read => addressFromBuf_ok_iff.1 read

/-- A domain of one byte, both ways. -/
theorem codec_bijection_domain :
    addressFromBuf ((SocksAddress.domain [100] 53).encode ++ [7]) = .ok (.domain [100] 53, [7]) ∧
      [0x03, 1, 100, 0, 53, 7] = (SocksAddress.domain [100] 53).encode ++ [7] :=
  ⟨(codec_bijection.1 (.domain [100] 53) ⟨by decide, by decide⟩).2.1 [7],
    (codec_bijection.2 [0x03, 1, 100, 0, 53, 7] (.domain [100] 53) [7] rfl).2⟩

end Ombrac.SocksCodec
