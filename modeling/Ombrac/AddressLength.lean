import Ombrac.AddressText
import Ombrac.ProtocolCodec
import Ombrac.SocksProtocol

set_option autoImplicit false

/-!
# The lengths of domains

Every way to get an address from outside: a text, a name with a port, a SOCKS request or datagram,
and a message or packet from the peer. On the wire a domain stands behind its length.
-/
namespace Ombrac.AddressLength
open ProtocolPacket ProtocolMessage BinaryFormat ProtocolCodec SocksProtocol AddressText

def InLimits (length : ℕ) : Prop := 1 ≤ length ∧ length ≤ maxDomainLength

def domainLength : Address → Option ℕ
  | .domain name _ => some name.length
  | _ => none

/-! ## The length field of a domain on the wire -/

def addressField : Reader (Option ℕ) :=
  Variant.discriminant.decode.andThen fun variant =>
    if variant = 0 then socketAddrV4.decode.map fun _ => none
    else if variant = 1 then socketAddrV6.decode.map fun _ => none
    else if variant = 2 then
      length.decode.andThen fun n =>
        (readMany readByte n).andThen fun _ => uint16.decode.map fun _ => some n
    else .fail .unexpectedVariant

def clientMessageField : Reader (Option ℕ) :=
  Variant.discriminant.decode.andThen fun variant =>
    if variant = 0 then clientHello.decode.map fun _ => none
    else if variant = 1 then addressField
    else .fail .unexpectedVariant

def optionalField : Reader (Option ℕ) :=
  Reader.andThen readByte fun tag =>
    if tag = 0 then .done none else if tag = 1 then addressField else .fail .unexpectedVariant

def udpPacketField : Reader (Option ℕ) :=
  Variant.discriminant.decode.andThen fun variant =>
    if variant = 0 then
      uint64.decode.andThen fun _ => addressField.andThen fun n =>
        byteString.decode.map fun _ => n
    else if variant = 1 then
      uint64.decode.andThen fun _ => uint32.decode.andThen fun _ => uint16.decode.andThen fun _ =>
        uint16.decode.andThen fun _ => optionalField.andThen fun n =>
          byteString.decode.map fun _ => n
    else .fail .unexpectedVariant

def fieldOf (field : Reader (Option ℕ)) (bytes : Bytes) : Option ℕ :=
  match field bytes with
  | .ok (n, _) => n
  | .error _ => none

/-! ## The sources -/

def connectAddress : ClientMessage → Option Address
  | .connect connect => some connect.address
  | .hello _ => none

def packetAddress : UdpPacket → Option Address
  | .unfragmented _ addr _ => some addr
  | .fragmented _ _ _ _ addr _ => addr

inductive Source where
  | str (value : String)
  | string (value : String)
  | stringPort (name : String) (port : UInt16)
  | strPort (name : String) (port : UInt16)
  | socksStream (stream : Bytes)
  | socksBuf (buf : Bytes)
  | clientMessage (bytes : Bytes)
  | udpPacket (bytes : Bytes)

def addressOf (display : Fault → String) : Source → Option Address
  | .str value => (tryFromStr value).toOption
  | .string value => (tryFromString value).toOption
  | .stringPort name port => some (fromStringPort name port)
  | .strPort name port => some (fromStrPort name port)
  | .socksStream stream => (addressRead stream).toOption.map fun p => p.1.toAddress
  | .socksBuf buf => (addressFromBuf buf).toOption.map fun p => p.1.toAddress
  | .clientMessage bytes =>
    (decode display bytes : Except IoError ClientMessage).toOption.bind connectAddress
  | .udpPacket bytes => (decode display bytes : Except IoError UdpPacket).toOption.bind packetAddress

/-- The names that come without a check are within the limits: one that is given with a port, and
the one behind the length field of a message or a packet. -/
def Meets : Source → Prop
  | .stringPort name _ | .strPort name _ => InLimits (utf8Bytes name).length
  | .clientMessage bytes => ∀ n, fieldOf clientMessageField bytes = some n → InLimits n
  | .udpPacket bytes => ∀ n, fieldOf udpPacketField bytes = some n → InLimits n
  | .str _ | .string _ | .socksStream _ | .socksBuf _ => True

/-! ## The fields are the lengths of what is decoded -/

theorem map_map {α β γ : Type} (read : Reader α) (g : α → β) (h : β → γ) :
    (read.map g).map h = read.map fun a => h (g a) := by
  simp only [Reader.map, Reader.andThen_assoc, Reader.done_andThen]

theorem map_andThen {α β γ : Type} (read : Reader α) (next : α → Reader β) (g : β → γ) :
    (read.andThen next).map g = read.andThen fun a => (next a).map g :=
  Reader.andThen_assoc ..

theorem pair_decode {α β : Type} (f : Format α) (g : Format β) :
    (f.pair g).decode = f.decode.andThen fun a => g.decode.map fun b => (a, b) := rfl

theorem byteString_decode : byteString.decode = length.decode.andThen (readMany readByte) := rfl

theorem optional_decode {α : Type} (f : Format α) :
    (optional f).decode = Reader.andThen readByte fun tag =>
      if tag = 0 then .done none else if tag = 1 then f.decode.map some
      else .fail .unexpectedVariant := rfl

theorem address_field : address.decode.map domainLength = addressField := by
  refine (map_andThen ..).trans (congrArg _ (funext fun variant => ?_))
  rcases variant with _ | _ | _ | n
  · exact map_map ..
  · exact map_map ..
  · rw [if_neg (by decide), if_neg (by decide), if_pos rfl]
    refine (map_map ..).trans ?_
    rw [pair_decode, map_andThen, byteString_decode, Reader.andThen_assoc]
    refine congrArg _ (funext fun n => Reader.andThen_congr fun bytes name rest h => ?_)
    refine (map_map ..).trans (congrArg _ (funext fun port => ?_))
    rw [← readMany_length h]
    rfl
  · rfl

theorem optional_field :
    (optional address).decode.map (fun addr => addr.bind domainLength) = optionalField := by
  rw [optional_decode]
  refine (map_andThen ..).trans (congrArg _ (funext fun tag => ?_))
  split_ifs
  · rfl
  · rw [← address_field]
    exact map_map ..
  · rfl

theorem clientMessage_field :
    clientMessage.decode.map (fun message => (connectAddress message).bind domainLength) =
      clientMessageField := by
  refine (map_andThen ..).trans (congrArg _ (funext fun variant => ?_))
  rcases variant with _ | _ | n
  · exact map_map ..
  · rw [if_neg (by decide), if_pos rfl, ← address_field]
    refine (map_map ..).trans ?_
    exact map_map ..
  · rfl

theorem udpPacket_field :
    udpPacket.decode.map (fun packet => (packetAddress packet).bind domainLength) =
      udpPacketField := by
  refine (map_andThen ..).trans (congrArg _ (funext fun variant => ?_))
  rcases variant with _ | _ | n
  · rw [if_pos rfl, ← address_field]
    refine (map_map ..).trans ?_
    simp only [pair_decode, Reader.andThen_assoc, Reader.done_andThen, Reader.map]
    rfl
  · rw [if_neg (by decide), if_pos rfl, ← optional_field]
    refine (map_map ..).trans ?_
    simp only [pair_decode, Reader.andThen_assoc, Reader.done_andThen, Reader.map]
    rfl
  · rfl

/-- The field of what is decoded is what the bytes carry. -/
theorem fieldOf_map {α : Type} [Serde α] {display : Fault → String} {g : α → Option ℕ}
    {field : Reader (Option ℕ)} (same : Serde.format.decode.map g = field) (bytes : Bytes) :
    (decode display bytes : Except IoError α).toOption.bind g = fieldOf field bytes := by
  rw [← same]
  unfold decode fieldOf Reader.map Reader.andThen
  cases (Serde.format.decode : Reader α) bytes <;> rfl

/-! ## Which sources keep to the limits -/

section Socks
variable {stream rest : Bytes} {addr : SocksAddress} {name : Bytes} {port : UInt16}

theorem readExact_length {n : ℕ} {buf : Bytes} (h : readExact n stream = .ok (buf, rest)) :
    buf.length = n := by
  unfold readExact at h
  split_ifs at h with enough
  cases h
  rw [List.length_take, Nat.min_eq_left enough]

theorem inLimits_take {len : UInt8} {buf : Bytes} (some' : len.toNat ≠ 0)
    (enough : len.toNat ≤ buf.length) : InLimits (buf.take len.toNat).length := by
  rw [List.length_take, Nat.min_eq_left enough]
  exact ⟨Nat.pos_of_ne_zero some', Nat.le_of_lt_succ len.toNat_lt⟩

theorem addressRead_domain (h : addressRead stream = .ok (addr, rest))
    (domain : addr.toAddress = .domain name port) : InLimits name.length := by
  unfold addressRead at h
  split at h
  · cases h
  · split_ifs at h
    · obtain ⟨_, _, last⟩ := bind_ok h
      cases last
      cases domain
    · obtain ⟨_, _, last⟩ := bind_ok h
      cases last
      cases domain
    · split at h
      · cases h
      · dsimp only at h
        split_ifs at h with empty
        obtain ⟨⟨buf, left⟩, read, last⟩ := bind_ok h
        cases last
        cases domain
        exact inLimits_take empty (by rw [readExact_length read]; omega)

theorem addressFromBuf_domain (h : addressFromBuf stream = .ok (addr, rest))
    (domain : addr.toAddress = .domain name port) : InLimits name.length := by
  unfold addressFromBuf at h
  split at h
  · cases h
  · split_ifs at h
    · unfold fromIpv4 at h
      split_ifs at h
      cases h
      cases domain
    · unfold fromIpv6 at h
      split_ifs at h
      cases h
      cases domain
    · unfold fromDomain at h
      split at h
      · cases h
      · dsimp only at h
        split_ifs at h with empty short
        cases h
        cases domain
        exact inLimits_take empty (by omega)

end Socks

theorem toOption_ok {ε α : Type} {x : Except ε α} {a : α} (h : x.toOption = some a) : x = .ok a := by
  cases x with
  | error e => cases h
  | ok b => exact congrArg _ (Option.some.inj h)

/-- An address that is read off the wire has the length in front of it. -/
theorem wire_inLimits {found : Option Address} {field : Option ℕ}
    (same : found.bind domainLength = field) :
    (∀ name port, found = some (.domain name port) → InLimits name.length) ↔
      ∀ n, field = some n → InLimits n := by
  subst same
  constructor
  · intro short n h
    obtain ⟨addr, rfl, length⟩ := Option.bind_eq_some_iff.1 h
    cases addr with
    | socketV4 addr => cases length
    | socketV6 addr => cases length
    | domain name port =>
      obtain rfl := Option.some.inj length
      exact short name port rfl
  · rintro short name port rfl
    exact short name.length rfl

/-- The domains from a source are within the limits exactly when those that come without a check
are given so. -/
theorem domain_length_iff (display : Fault → String) (source : Source) :
    (∀ name port, addressOf display source = some (.domain name port) →
      1 ≤ name.length ∧ name.length ≤ maxDomainLength) ↔ Meets source := by
  cases source with
  | str value =>
    exact iff_of_true (fun name port h => tryFromStr_domain (toOption_ok h)) trivial
  | string value =>
    exact iff_of_true (fun name port h => tryFromStr_domain (toOption_ok h)) trivial
  | stringPort name port =>
    constructor
    · exact fun short => short _ port rfl
    · rintro limits _ _ ⟨⟩
      exact limits
  | strPort name port =>
    constructor
    · exact fun short => short _ port rfl
    · rintro limits _ _ ⟨⟩
      exact limits
  | socksStream stream =>
    refine iff_of_true (fun name port h => ?_) trivial
    obtain ⟨⟨addr, rest⟩, read, domain⟩ := Option.map_eq_some_iff.1 h
    exact addressRead_domain (toOption_ok read) domain
  | socksBuf buf =>
    refine iff_of_true (fun name port h => ?_) trivial
    obtain ⟨⟨addr, rest⟩, read, domain⟩ := Option.map_eq_some_iff.1 h
    exact addressFromBuf_domain (toOption_ok read) domain
  | clientMessage bytes =>
    refine wire_inLimits ?_
    rw [addressOf, Option.bind_assoc]
    exact fieldOf_map clientMessage_field bytes
  | udpPacket bytes =>
    refine wire_inLimits ?_
    rw [addressOf, Option.bind_assoc]
    exact fieldOf_map udpPacket_field bytes

/-- A `Connect` whose domain has length zero, port 80. -/
theorem empty_domain_decoded : ∃ source name port,
    addressOf (fun _ => "") source = some (.domain name port) ∧
      ¬(1 ≤ name.length ∧ name.length ≤ maxDomainLength) := by
  refine ⟨.clientMessage [1, 2, 0, 80], [], 80, rfl, ?_⟩
  decide

end Ombrac.AddressLength
