import Ombrac.BinaryFormat
import Ombrac.ProtocolMessage

set_option autoImplicit false

/-!
# The messages on the wire

The serialised form of each message, as its derived implementation walks through it, and what
`encode` and `decode` make of a message and of what follows it.
-/
namespace Ombrac.ProtocolCodec
open ProtocolPacket ProtocolMessage BinaryFormat

/-! ## The formats of the types -/

def ipv4 : Format Ipv4Addr :=
  (octets 4).convert (fun ip => bigEndian 4 ip.bits.toNat) fun bytes =>
    ⟨UInt32.ofNat (ofBigEndian bytes)⟩

def ipv6 : Format Ipv6Addr :=
  (octets 16).convert (fun ip => bigEndian 16 ip.bits.toNat) fun bytes =>
    ⟨BitVec.ofNat 128 (ofBigEndian bytes)⟩

def socketAddrV4 : Format SocketAddrV4 :=
  (ipv4.pair uint16).convert (fun addr => (addr.ip, addr.port)) fun p => ⟨p.1, p.2⟩

/-- The flow information and the scope are not sent and are read back as zero. -/
def socketAddrV6 : Format SocketAddrV6 :=
  (ipv6.pair uint16).convert (fun addr => (addr.ip, addr.port)) fun p => ⟨p.1, p.2, 0, 0⟩

def address : Format Address :=
  enumeration
    [{ Payload := SocketAddrV4
       format := socketAddrV4
       build := .socketV4
       payload := fun | .socketV4 addr => some addr | _ => none
       build_payload := by rintro (_ | _ | _) p h <;> cases h; rfl },
     { Payload := SocketAddrV6
       format := socketAddrV6
       build := .socketV6
       payload := fun | .socketV6 addr => some addr | _ => none
       build_payload := by rintro (_ | _ | _) p h <;> cases h; rfl },
     { Payload := Bytes × UInt16
       format := byteString.pair uint16
       build := fun p => .domain p.1 p.2
       payload := fun | .domain name port => some (name, port) | _ => none
       build_payload := by rintro (_ | _ | _) p h <;> cases h; rfl }]
    none

def clientHello : Format ClientHello :=
  ((uint8.pair (octets 32)).pair byteString).convert
    (fun hello => ((hello.version, hello.secret), hello.options))
    fun p => ⟨p.1.1, p.1.2, p.2⟩

def clientConnect : Format ClientConnect := address.convert ClientConnect.address .mk

def clientMessage : Format ClientMessage :=
  enumeration
    [{ Payload := ClientHello
       format := clientHello
       build := .hello
       payload := fun | .hello hello => some hello | _ => none
       build_payload := by rintro (_ | _) p h <;> cases h; rfl },
     { Payload := ClientConnect
       format := clientConnect
       build := .connect
       payload := fun | .connect connect => some connect | _ => none
       build_payload := by rintro (_ | _) p h <;> cases h; rfl }]
    none

def unitVariant {α : Type} [DecidableEq α] (a : α) : Variant α where
  Payload := Unit
  format := .unit
  build _ := a
  payload b := if b = a then some () else none
  build_payload b _ h := by
    split_ifs at h with same
    exact same.symm

def serverAuthResponse : Format ServerAuthResponse :=
  enumeration [unitVariant .ok, unitVariant .err] none

/-- An index that is not known is read as `Other`. -/
def connectErrorKind : Format ConnectErrorKind :=
  enumeration
    [unitVariant .connectionRefused, unitVariant .networkUnreachable, unitVariant .hostUnreachable,
     unitVariant .timedOut, unitVariant .other]
    (some .other)

def serverConnectResponse : Format ServerConnectResponse :=
  enumeration
    [unitVariant .ok,
     { Payload := ConnectErrorKind × String
       format := connectErrorKind.pair string
       build := fun p => .err p.1 p.2
       payload := fun | .err kind message => some (kind, message) | _ => none
       build_payload := by rintro (_ | _) p h <;> cases h; rfl }]
    none

def serverMessage : Format ServerMessage :=
  enumeration
    [{ Payload := ServerConnectResponse
       format := serverConnectResponse
       build := .connectResponse
       payload := fun | .connectResponse response => some response
       build_payload := by rintro ⟨_⟩ p h; cases h; rfl }]
    none

def udpPacket : Format UdpPacket :=
  enumeration
    [{ Payload := (UInt64 × Address) × Bytes
       format := (uint64.pair address).pair byteString
       build := fun p => .unfragmented p.1.1 p.1.2 p.2
       payload := fun
         | .unfragmented sessionId addr data => some ((sessionId, addr), data)
         | _ => none
       build_payload := by rintro (_ | _) p h <;> cases h; rfl },
     { Payload := ((((UInt64 × UInt32) × UInt16) × UInt16) × Option Address) × Bytes
       format :=
         ((((uint64.pair uint32).pair uint16).pair uint16).pair (optional address)).pair byteString
       build := fun p =>
         .fragmented p.1.1.1.1.1 p.1.1.1.1.2 p.1.1.1.2 p.1.1.2 p.1.2 p.2
       payload := fun
         | .fragmented sessionId fragmentId fragmentIndex fragmentCount addr data =>
           some (((((sessionId, fragmentId), fragmentIndex), fragmentCount), addr), data)
         | _ => none
       build_payload := by rintro (_ | _) p h <;> cases h; rfl }]
    none

/-! ## Encoding and decoding -/

class Serde (α : Type) where
  format : Format α

instance : Serde ClientMessage := ⟨clientMessage⟩
instance : Serde ServerMessage := ⟨serverMessage⟩
instance : Serde ServerAuthResponse := ⟨serverAuthResponse⟩
instance : Serde UdpPacket := ⟨udpPacket⟩

section Messages
variable {α : Type} [Serde α] (display : Fault → String)

def encode (message : α) : Except IoError Bytes :=
  match Serde.format.encode message with
  | .ok bytes => .ok bytes
  | .error e => .error ⟨.invalidInput, "encode error: " ++ display e⟩

/-- What is left behind the message is ignored. -/
def decode (bytes : Bytes) : Except IoError α :=
  match Serde.format.decode bytes with
  | .ok (message, _) => .ok message
  | .error e => .error ⟨.invalidData, "decode error: " ++ display e⟩

variable {display}

theorem encode_ok {message : α} {bytes : Bytes} :
    encode display message = .ok bytes ↔ Serde.format.encode message = .ok bytes := by
  unfold encode
  cases Serde.format.encode message <;> simp

theorem decode_of_reads {message : α} {bytes : Bytes}
    (reads : Reads Serde.format.decode bytes message) (rest : Bytes) :
    decode display (bytes ++ rest) = .ok message := by
  rw [decode, reads rest]

theorem decode_of_encode {message : α} (fits : Serde.format.Fits message) {bytes : Bytes}
    (h : encode display message = .ok bytes) : decode display bytes = .ok message := by
  have reads := Format.reads_of_encode fits (encode_ok.1 h)
  have back : decode display (bytes ++ []) = .ok message := decode_of_reads reads []
  rw [List.append_nil] at back
  exact back

end Messages

/-- No byte string in memory is longer. -/
def InMemory (bytes : Bytes) : Prop := bytes.length < 2 ^ 63

/-- What the wire form can carry: an IPv6 address has neither flow information nor a scope. -/
def Address.Plain : Address → Prop
  | .socketV4 _ => True
  | .socketV6 addr => addr.flowinfo = 0 ∧ addr.scopeId = 0
  | .domain name _ => InMemory name

def ClientMessage.Plain : ClientMessage → Prop
  | .hello hello => InMemory hello.options
  | .connect connect => Address.Plain connect.address

def ServerMessage.Plain : ServerMessage → Prop
  | .connectResponse .ok => True
  | .connectResponse (.err _ message) => InMemory (utf8Bytes message)

def UdpPacket.Plain : UdpPacket → Prop
  | .unfragmented _ addr data => Address.Plain addr ∧ InMemory data
  | .fragmented _ _ _ _ addr data => (∀ a ∈ addr, Address.Plain a) ∧ InMemory data

theorem byteString_fits {bytes : Bytes} (h : InMemory bytes) : byteString.Fits bytes := by
  unfold InMemory at h
  change bytes.length < 256 ^ 8
  omega

theorem string_fits {s : String} (h : InMemory (utf8Bytes s)) : string.Fits s := by
  unfold InMemory at h
  change (utf8Bytes s).length < 256 ^ 8
  omega

theorem discriminant_fits {i : ℕ} (small : i < 5) : Variant.discriminant.Fits i := by
  change i < 256 ^ 4
  omega

theorem ipv4_fits (ip : Ipv4Addr) : ipv4.Fits ip := by
  refine ⟨trivial, ?_⟩
  dsimp only
  rw [ofBigEndian_bigEndian ip.bits.toNat_lt, UInt32.ofNat_toNat]

theorem ipv6_fits (ip : Ipv6Addr) : ipv6.Fits ip := by
  refine ⟨trivial, ?_⟩
  dsimp only
  rw [ofBigEndian_bigEndian ip.bits.isLt, BitVec.ofNat_toNat, BitVec.setWidth_eq]

theorem address_fits {addr : Address} (plain : Address.Plain addr) : address.Fits addr := by
  cases addr with
  | socketV4 addr =>
    exact ⟨discriminant_fits (by omega), ⟨ipv4_fits _, uint16_fits _⟩, rfl⟩
  | socketV6 addr =>
    obtain ⟨ip, port, flowinfo, scopeId⟩ := addr
    obtain ⟨rfl, rfl⟩ := plain
    exact ⟨discriminant_fits (by omega), ⟨ipv6_fits _, uint16_fits _⟩, rfl⟩
  | domain name port =>
    exact ⟨discriminant_fits (by omega), byteString_fits plain, uint16_fits _⟩

theorem clientMessage_fits {message : ClientMessage} (plain : ClientMessage.Plain message) :
    clientMessage.Fits message := by
  cases message with
  | hello hello =>
    exact ⟨discriminant_fits (by omega), ⟨⟨trivial, trivial⟩, byteString_fits plain⟩, rfl⟩
  | connect connect => exact ⟨discriminant_fits (by omega), address_fits plain, rfl⟩

theorem connectErrorKind_fits (kind : ConnectErrorKind) : connectErrorKind.Fits kind := by
  cases kind <;> exact ⟨discriminant_fits (by omega), trivial⟩

theorem serverMessage_fits {message : ServerMessage} (plain : ServerMessage.Plain message) :
    serverMessage.Fits message := by
  obtain ⟨response⟩ := message
  refine ⟨discriminant_fits (by omega), ?_⟩
  cases response with
  | ok => exact ⟨discriminant_fits (by omega), trivial⟩
  | err kind message =>
    exact ⟨discriminant_fits (by omega), connectErrorKind_fits kind, string_fits plain⟩

theorem serverMessage_strict : serverMessage.Strict := by
  have plain : ∀ {α : Type} [DecidableEq α] (a : α), (unitVariant a).format.Strict :=
    fun _ => Format.strict_unit
  have kind : connectErrorKind.Strict := by
    refine Format.strict_enumeration fun v mem => ?_
    simp only [List.mem_cons, List.not_mem_nil, or_false] at mem
    rcases mem with rfl | rfl | rfl | rfl | rfl <;> exact plain _
  have response : serverConnectResponse.Strict := by
    refine Format.strict_enumeration fun v mem => ?_
    simp only [List.mem_cons, List.not_mem_nil, or_false] at mem
    rcases mem with rfl | rfl
    · exact plain _
    · exact kind.pair Format.strict_string
  refine Format.strict_enumeration fun v mem => ?_
  rw [List.mem_singleton.1 mem]
  exact response

theorem serverAuthResponse_fits (response : ServerAuthResponse) :
    serverAuthResponse.Fits response := by
  cases response <;> exact ⟨discriminant_fits (by omega), trivial⟩

theorem udpPacket_fits {packet : UdpPacket} (plain : UdpPacket.Plain packet) :
    udpPacket.Fits packet := by
  cases packet with
  | unfragmented sessionId addr data =>
    exact ⟨discriminant_fits (by omega), ⟨uint64_fits _, address_fits plain.1⟩,
      byteString_fits plain.2⟩
  | fragmented sessionId fragmentId fragmentIndex fragmentCount addr data =>
    refine ⟨discriminant_fits (by omega), ⟨⟨⟨⟨?_, ?_⟩, ?_⟩, ?_⟩, ?_⟩, byteString_fits plain.2⟩
    · exact uint64_fits _
    · exact uint32_fits _
    · exact uint16_fits _
    · exact uint16_fits _
    · exact fun a here => address_fits (plain.1 a here)

/-- Whatever response was encoded is read back. -/
theorem decode_serverMessage {display : Fault → String} {message : ServerMessage} {bytes : Bytes}
    (h : encode display message = .ok bytes) : decode display bytes = .ok message :=
  decode_of_encode (serverMessage_strict message bytes (encode_ok.1 h)) h

def Address.carried : Address → Address
  | .socketV6 addr => .socketV6 { addr with flowinfo := 0, scopeId := 0 }
  | addr => addr

theorem carried_fits {addr : Address} {bytes : Bytes} (h : address.encode addr = .ok bytes) :
    address.Fits (Address.carried addr) := by
  cases addr with
  | socketV4 addr => exact address_fits trivial
  | socketV6 addr => exact address_fits ⟨rfl, rfl⟩
  | domain name port =>
    obtain ⟨_, _, rest⟩ := bind_ok h
    obtain ⟨_, written, _⟩ := bind_ok rest
    obtain ⟨_, named, _⟩ := bind_ok written
    exact ⟨discriminant_fits (by omega), Format.strict_byteString name _ named, uint16_fits _⟩

theorem decode_connect {display : Fault → String} {destAddr : Address} {bytes : Bytes}
    (h : encode display (ClientMessage.connect ⟨destAddr⟩) = .ok bytes) :
    decode display bytes = .ok (ClientMessage.connect ⟨Address.carried destAddr⟩) := by
  have encoded : clientMessage.encode (.connect ⟨destAddr⟩) = .ok bytes := encode_ok.1 h
  obtain ⟨_, _, rest⟩ := bind_ok encoded
  obtain ⟨_, written, _⟩ := bind_ok rest
  have fits : clientMessage.Fits (.connect ⟨Address.carried destAddr⟩) :=
    ⟨discriminant_fits (by omega), carried_fits written, rfl⟩
  refine decode_of_encode fits ?_
  cases destAddr <;> exact h

theorem decode_unfragmented {display : Fault → String} {sessionId : UInt64} {addr : Address}
    {data bytes : Bytes}
    (h : encode display (UdpPacket.unfragmented sessionId addr data) = .ok bytes) :
    decode display bytes = .ok (UdpPacket.unfragmented sessionId (Address.carried addr) data) := by
  have encoded : udpPacket.encode (.unfragmented sessionId addr data) = .ok bytes := encode_ok.1 h
  obtain ⟨_, _, rest⟩ := bind_ok encoded
  obtain ⟨_, written, _⟩ := bind_ok rest
  obtain ⟨_, front, rest⟩ := bind_ok written
  obtain ⟨_, tail, _⟩ := bind_ok rest
  obtain ⟨_, _, rest⟩ := bind_ok front
  obtain ⟨_, addressed, _⟩ := bind_ok rest
  have fits : udpPacket.Fits (.unfragmented sessionId (Address.carried addr) data) :=
    ⟨discriminant_fits (by omega), ⟨uint64_fits _, carried_fits addressed⟩,
      Format.strict_byteString data _ tail⟩
  refine decode_of_encode fits ?_
  cases addr <;> exact h

/-- Every plain message is encoded and read back whatever follows it; different messages have
different encodings, and none starts another. -/
structure WireFormat (display : Fault → String) (α : Type) [Serde α] (Plain : α → Prop) :
    Prop where
  round_trip : ∀ message, Plain message → ∃ bytes, encode display message = .ok bytes ∧
    ∀ t, decode display (bytes ++ t) = .ok message
  injective : ∀ a b bytes, Plain a → Plain b →
    encode display a = .ok bytes → encode display b = .ok bytes → a = b
  prefix_free : ∀ a b x y, Plain a → Plain b →
    encode display a = .ok x → encode display b = .ok y → x <+: y → x = y

theorem wireFormat_of_fits (display : Fault → String) {α : Type} [Serde α] {Plain : α → Prop}
    (fits : ∀ message, Plain message → Serde.format.Fits message) :
    WireFormat display α Plain where
  round_trip message plain := by
    obtain ⟨bytes, encoded, reads⟩ := Serde.format.round_trip message (fits message plain)
    exact ⟨bytes, encode_ok.2 encoded, decode_of_reads reads⟩
  injective a b bytes plain_a plain_b ha hb :=
    Format.encode_injective (fits a plain_a) (fits b plain_b) (encode_ok.1 ha) (encode_ok.1 hb)
  prefix_free a b x y plain_a plain_b ha hb pre :=
    (Format.prefix_free (fits a plain_a) (fits b plain_b) (encode_ok.1 ha) (encode_ok.1 hb) pre).2

theorem messages_round_trip (display : Fault → String) :
    WireFormat display ClientMessage ClientMessage.Plain ∧
    WireFormat display ServerMessage ServerMessage.Plain ∧
    WireFormat display ServerAuthResponse (fun _ => True) ∧
    WireFormat display UdpPacket UdpPacket.Plain :=
  ⟨wireFormat_of_fits display fun _ => clientMessage_fits,
    wireFormat_of_fits display fun _ => serverMessage_fits,
    wireFormat_of_fits display fun response _ => serverAuthResponse_fits response,
    wireFormat_of_fits display fun _ => udpPacket_fits⟩

example (display : Fault → String) :
    encode display (UdpPacket.fragmented 300 70000 0 2 (some (.domain [97] 443)) [7]) =
      .ok [1, 251, 44, 1, 252, 112, 17, 1, 0, 0, 2, 1, 2, 1, 97, 251, 187, 1, 1, 7] := rfl

end Ombrac.ProtocolCodec
