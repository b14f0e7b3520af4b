import Ombrac.BinaryFormat
import Ombrac.ProtocolPacket

set_option autoImplicit false

/-!
# The SOCKS5 wire protocol

Addresses and the header of a UDP datagram. An address is read from a buffer that holds a whole
datagram; numbers are sent with the most significant byte first.
-/
namespace Ombrac.SocksProtocol
open ProtocolPacket BinaryFormat

def atypIpv4 : UInt8 := 0x01

def atypDomain : UInt8 := 0x03

def atypIpv6 : UInt8 := 0x04

def invalidData (message : String) : IoError := ⟨.invalidData, message⟩

/-- The protocol's own address; a domain is any byte string. -/
inductive SocksAddress where
  | ipv4 (addr : SocketAddrV4)
  | ipv6 (addr : SocketAddrV6)
  | domain (name : Bytes) (port : UInt16)
  deriving DecidableEq, Repr

def bigEndianValue (bytes : Bytes) : ℕ := ofLittleEndian bytes.reverse

def portOf (buf : Bytes) : UInt16 := UInt16.ofNat (bigEndianValue (buf.take 2))

def fromIpv4 (buf : Bytes) : Except IoError (SocksAddress × Bytes) :=
  if buf.length < 6 then .error (invalidData "insufficient data for IPv4 address")
  else
    let ip : Ipv4Addr := ⟨UInt32.ofNat (bigEndianValue (buf.take 4))⟩
    .ok (.ipv4 ⟨ip, portOf (buf.drop 4)⟩, buf.drop 6)

def fromIpv6 (buf : Bytes) : Except IoError (SocksAddress × Bytes) :=
  if buf.length < 18 then .error (invalidData "insufficient data for IPv6 address")
  else
    let ip : Ipv6Addr := ⟨BitVec.ofNat 128 (bigEndianValue (buf.take 16))⟩
    .ok (.ipv6 ⟨ip, portOf (buf.drop 16), 0, 0⟩, buf.drop 18)

def fromDomain : Bytes → Except IoError (SocksAddress × Bytes)
  | [] => .error (invalidData "insufficient data for domain length")
  | size :: buf =>
    let len := size.toNat
    if len = 0 then .error (invalidData "empty domain")
    else if buf.length < len + 2 then .error (invalidData "insufficient data for domain name")
    else .ok (.domain (buf.take len) (portOf (buf.drop len)), buf.drop (len + 2))

/-- `Address::from_buf`, with what is left of the buffer. -/
def addressFromBuf : Bytes → Except IoError (SocksAddress × Bytes)
  | [] => .error (invalidData "insufficient data for address type")
  | atyp :: buf =>
    if atyp = atypIpv4 then fromIpv4 buf
    else if atyp = atypIpv6 then fromIpv6 buf
    else if atyp = atypDomain then fromDomain buf
    else .error ⟨.invalidData, "invalid address type: " ++ toString atyp.toNat⟩

/-- What `read_exact` says of a stream that ends; `read_u8` has a text of its own. -/
def earlyEof : IoError := ⟨.unexpectedEof, "early eof"⟩

def unexpectedEof : IoError := ⟨.unexpectedEof, "unexpected end of file"⟩

/-- A `read_exact` of a stream that ends with these bytes. -/
def readExact (n : ℕ) (stream : Bytes) : Except IoError (Bytes × Bytes) :=
  if n ≤ stream.length then .ok (stream.take n, stream.drop n) else .error earlyEof

/-- `Address::read`, with what is left of the stream. -/
def addressRead : Bytes → Except IoError (SocksAddress × Bytes)
  | [] => .error unexpectedEof
  | atyp :: stream =>
    if atyp = atypIpv4 then do
      let (buf, stream) ← readExact 6 stream
      let ip : Ipv4Addr := ⟨UInt32.ofNat (bigEndianValue (buf.take 4))⟩
      return (.ipv4 ⟨ip, portOf (buf.drop 4)⟩, stream)
    else if atyp = atypIpv6 then do
      let (buf, stream) ← readExact 18 stream
      let ip : Ipv6Addr := ⟨BitVec.ofNat 128 (bigEndianValue (buf.take 16))⟩
      return (.ipv6 ⟨ip, portOf (buf.drop 16), 0, 0⟩, stream)
    else if atyp = atypDomain then
      match stream with
      | [] => .error unexpectedEof
      | size :: stream =>
        let len := size.toNat
        if len = 0 then .error (invalidData "empty domain")
        else do
          let (buf, stream) ← readExact (len + 2) stream
          return (.domain (buf.take len) (portOf (buf.drop len)), stream)
    else .error ⟨.invalidData, "invalid address type: " ++ toString atyp.toNat⟩

def SocksAddress.encode : SocksAddress → Bytes
  | .ipv4 addr =>
    atypIpv4 :: (bigEndian 4 addr.ip.bits.toNat).val ++ (bigEndian 2 addr.port.toNat).val
  | .ipv6 addr =>
    atypIpv6 :: (bigEndian 16 addr.ip.bits.toNat).val ++ (bigEndian 2 addr.port.toNat).val
  | .domain name port =>
    atypDomain :: name.length.toUInt8 :: name ++ (bigEndian 2 port.toNat).val

def SocksAddress.encodedLen : SocksAddress → ℕ
  | .ipv4 _ => 1 + 4 + 2
  | .ipv6 _ => 1 + 16 + 2
  | .domain name _ => 1 + 1 + name.length + 2

theorem encode_length (addr : SocksAddress) : addr.encode.length = addr.encodedLen := by
  cases addr with
  | ipv4 addr => simp [SocksAddress.encode, SocksAddress.encodedLen, (bigEndian 4 _).property,
      (bigEndian 2 _).property]
  | ipv6 addr => simp [SocksAddress.encode, SocksAddress.encodedLen, (bigEndian 16 _).property,
      (bigEndian 2 _).property]
  | domain name port =>
    simp [SocksAddress.encode, SocksAddress.encodedLen, (bigEndian 2 _).property]
    omega

/-! ## What is read, encoded again -/

theorem bigEndian_value {width : ℕ} {bytes : Bytes} (size : bytes.length = width) :
    (bigEndian width (bigEndianValue bytes)).val = bytes := by
  have back := littleEndian_ofLittleEndian bytes.reverse
  rw [List.length_reverse, size] at back
  change (littleEndian width (ofLittleEndian bytes.reverse)).reverse = bytes
  rw [back, List.reverse_reverse]

theorem bigEndianValue_lt {width : ℕ} {bytes : Bytes} (size : bytes.length = width) :
    bigEndianValue bytes < 256 ^ width := by
  have bound := ofLittleEndian_lt bytes.reverse
  rwa [List.length_reverse, size] at bound

theorem portOf_encode {bytes : Bytes} (size : bytes.length = 2) :
    (bigEndian 2 (portOf bytes).toNat).val = bytes := by
  have small : bigEndianValue bytes < 2 ^ 16 := bigEndianValue_lt size
  rw [portOf, List.take_of_length_le size.le, UInt16.toNat_ofNat_of_lt' small]
  exact bigEndian_value size

theorem encode_ipv4 {buf : Bytes} (size : buf.length = 6) :
    (SocksAddress.ipv4 ⟨⟨UInt32.ofNat (bigEndianValue (buf.take 4))⟩, portOf (buf.drop 4)⟩).encode =
      atypIpv4 :: buf := by
  have four : (buf.take 4).length = 4 := by
    rw [List.length_take]
    omega
  have small : bigEndianValue (buf.take 4) < 2 ^ 32 := bigEndianValue_lt four
  simp only [SocksAddress.encode]
  rw [UInt32.toNat_ofNat_of_lt' small, bigEndian_value four,
    portOf_encode (by rw [List.length_drop]; omega), List.cons_append, List.take_append_drop]

theorem encode_ipv6 {buf : Bytes} (size : buf.length = 18) :
    (SocksAddress.ipv6 ⟨⟨BitVec.ofNat 128 (bigEndianValue (buf.take 16))⟩, portOf (buf.drop 16),
      0, 0⟩).encode = atypIpv6 :: buf := by
  have sixteen : (buf.take 16).length = 16 := by
    rw [List.length_take]
    omega
  have small : bigEndianValue (buf.take 16) < 2 ^ 128 := bigEndianValue_lt sixteen
  simp only [SocksAddress.encode]
  rw [BitVec.toNat_ofNat, Nat.mod_eq_of_lt small, bigEndian_value sixteen,
    portOf_encode (by rw [List.length_drop]; omega), List.cons_append, List.take_append_drop]

theorem encode_domain {buf : Bytes} {len : UInt8} (size : buf.length = len.toNat + 2) :
    (SocksAddress.domain (buf.take len.toNat) (portOf (buf.drop len.toNat))).encode =
      atypDomain :: len :: buf := by
  have name : (buf.take len.toNat).length = len.toNat := by
    rw [List.length_take]
    omega
  simp only [SocksAddress.encode]
  rw [name, portOf_encode (by rw [List.length_drop]; omega), List.cons_append, List.cons_append,
    List.take_append_drop]
  simp

/-! ## The tunnel's addresses -/

def SocksAddress.toAddress : SocksAddress → Address
  | .ipv4 addr => .socketV4 addr
  | .ipv6 addr => .socketV6 addr
  | .domain name port => .domain name port

def SocksAddress.ofAddress : Address → Except IoError SocksAddress
  | .socketV4 addr => .ok (.ipv4 addr)
  | .socketV6 addr => .ok (.ipv6 addr)
  | .domain name port =>
    if 255 < name.length then .error (invalidData "domain exceeds maximum length")
    else .ok (.domain name port)

def Nameable : Address → Prop
  | .domain name _ => name.length ≤ 255
  | _ => True

theorem ofAddress_ok_iff (addr : Address) :
    (∃ socks, SocksAddress.ofAddress addr = .ok socks) ↔ Nameable addr := by
  cases addr with
  | socketV4 addr => exact ⟨fun _ => trivial, fun _ => ⟨_, rfl⟩⟩
  | socketV6 addr => exact ⟨fun _ => trivial, fun _ => ⟨_, rfl⟩⟩
  | domain name port =>
    constructor
    · rintro ⟨socks, h⟩
      simp only [SocksAddress.ofAddress] at h
      split_ifs at h with long
      exact Nat.le_of_not_lt long
    · intro short
      exact ⟨_, if_neg (Nat.not_lt.2 short)⟩

structure SocksUdpPacket where
  frag : UInt8
  address : SocksAddress
  data : Bytes
  deriving DecidableEq, Repr

namespace SocksUdpPacket

def fromBuf : Bytes → Except IoError SocksUdpPacket
  | _ :: _ :: frag :: buf => do
    let (address, data) ← addressFromBuf buf
    return ⟨frag, address, data⟩
  | _ => .error (invalidData "insufficient data for UDP header")

def encodeUnfragmented (address : SocksAddress) (data : Bytes) : Bytes :=
  0x00 :: 0x00 :: 0x00 :: address.encode ++ data

end SocksUdpPacket
end Ombrac.SocksProtocol
