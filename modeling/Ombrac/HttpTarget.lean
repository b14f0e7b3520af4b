import Ombrac.AddressDisplay
import Ombrac.SocketAddrPort

set_option autoImplicit false

/-!
# The target of an HTTP request

The HTTP endpoint prints the host and the port of a request's URI into one text and reads an address
back from it. The parts of the URI are those that the `http` crate hands out.
-/
namespace Ombrac.HttpTarget
open ProtocolPacket BinaryFormat AddressText SocketAddrText SocketAddrPort AddressDisplay
open DelimitedParser

/-- What the handler asks of a URI: `host()`, `port_u16()` and `scheme_str()`. -/
structure Uri where
  host : Option String
  port : Option UInt16
  scheme : Option String

structure Request where
  uri : Uri
  isConnect : Bool

inductive StatusCode where
  | badRequest
  | serviceUnavailable
  deriving DecidableEq

/-- The tunnel is handed to an upgrade of the client's connection, or to one HTTP request. -/
inductive Outcome where
  | response (status : StatusCode)
  | connect (target : Address)
  | http (target : Address)

def Uri.portOrDefault (uri : Uri) : UInt16 :=
  uri.port.getD (if uri.scheme = some "https" then 443 else 80)

def addrStr (host : String) (port : UInt16) : String :=
  host ++ ":" ++ asciiString (numberText 10 port.toNat)

def extractTargetAddress (uri : Uri) : Except StatusCode Address :=
  match uri.host with
  | none => .error .badRequest
  | some host =>
    match tryFromString (addrStr host uri.portOrDefault) with
    | .ok addr => .ok addr
    | .error _ => .error .badRequest

/-- `openBidirectional` is the client's, and the list is what it was asked for. -/
def proxyHandler (openBidirectional : Address → Except IoError Unit) (request : Request) :
    List Address × Outcome :=
  match extractTargetAddress request.uri with
  | .error status => ([], .response status)
  | .ok target =>
    match openBidirectional target with
    | .error _ => ([target], .response .serviceUnavailable)
    | .ok () => ([target], if request.isConnect = true then .connect target else .http target)

/-! ## What a host names -/

/-- An IPv4 address that is the whole host. -/
def ipv4Literal (host : Bytes) : Option Ipv4Addr :=
  match readIpv4Addr host with
  | some (ip, []) => some ip
  | _ => none

def readIpv6Literal : Parser (Ipv6Addr × UInt32) :=
  andThen readBracketed fun literal => andThen (readGivenChar ']') fun _ p => some (literal, p)

/-- An IPv6 address in brackets that is the whole host, with its scope. -/
def ipv6Literal (host : Bytes) : Option (Ipv6Addr × UInt32) :=
  match readIpv6Literal host with
  | some (literal, []) => some literal
  | _ => none

/-- The host alone decides the kind of the address, and the port stays what it is. -/
def hostAddress (host : Bytes) (port : UInt16) : Option Address :=
  match ipv4Literal host with
  | some ip => some (.socketV4 ⟨ip, port⟩)
  | none =>
    match ipv6Literal host with
    | some (ip, scopeId) => some (.socketV6 ⟨ip, port, 0, scopeId⟩)
    | none =>
      if 1 ≤ host.length ∧ host.length ≤ maxDomainLength then some (.domain host port) else none

def wanted (uri : Uri) : Option Address :=
  uri.host.bind fun host => hostAddress (utf8Bytes host) uri.portOrDefault

/-! ## Reading the text back -/

section Reading
variable {host digits : Bytes} {port : UInt16}

def whole {α : Type} : Option (α × Bytes) → Option α
  | some (a, []) => some a
  | _ => none

theorem whole_map {α β : Type} (read : Option (α × Bytes)) (f : α → β) :
    whole (read.map fun (a, rest) => (f a, rest)) = (whole read).map f := by
  obtain _ | ⟨a, _ | ⟨b, rest⟩⟩ := read <;> rfl

theorem whole_before {α : Type} (read : Option (α × Bytes)) (d : UInt8) (behind : Bytes) :
    whole (read.map fun (a, rest) => (a, rest ++ d :: behind)) = none := by
  obtain _ | ⟨a, _ | ⟨b, rest⟩⟩ := read <;> rfl

/-- A port is not read over the colon of another. -/
theorem readPort_behind (b : UInt8) (rest : Bytes) :
    whole (readPort (b :: rest ++ colon :: digits)) = none := by
  by_cases same : b = colon
  · obtain rfl := same
    have stops : Stops colon (andThen (readNumber (2 ^ 16) 10 none true) fun port p =>
        some (UInt16.ofNat port, p)) :=
      (stops_number (by decide)).andThen fun port => .done (UInt16.ofNat port)
    change whole (andThen (readNumber (2 ^ 16) 10 none true) (fun port p =>
      some (UInt16.ofNat port, p)) (rest ++ colon :: digits)) = none
    rw [stops.stop]
    exact whole_before ..
  · have refused : readPort (b :: (rest ++ colon :: digits)) = none := by
      unfold readPort
      rw [readGivenChar_other same]
      rfl
    rw [List.cons_append, refused]
    rfl

theorem readPort_number (number : digitsText digits = some port.toNat) :
    readPort (colon :: digits) = some (port, []) := by
  rw [readPort_digits number, if_pos port.toNat_lt, UInt16.ofNat_toNat]

/-- What comes behind the host is its port. -/
theorem whole_readPort (number : digitsText digits = some port.toNat) (rest : Bytes) :
    whole (readPort (rest ++ colon :: digits)) = if rest = [] then some port else none := by
  cases rest with
  | nil => rw [List.nil_append, readPort_number number, if_pos rfl, whole]
  | cons b rest => rw [readPort_behind, if_neg (List.cons_ne_nil b rest)]

theorem readBracketed_other {b : UInt8} (other : b ≠ '['.toUInt8) (rest : Bytes) :
    readBracketed (b :: rest) = none := by
  unfold readBracketed andThen
  rw [readGivenChar_other other]
  rfl

theorem readIpv4Addr_bracket (rest : Bytes) : readIpv4Addr ('['.toUInt8 :: rest) = none :=
  readIpv4Addr_noDigit (noDigit_cons (by decide))

theorem readSocketAddrV6_literal : readSocketAddrV6 = andThen readIpv6Literal fun literal =>
    andThen readPort fun port p => some (⟨literal.1, port, 0, literal.2⟩, p) := by
  rw [readSocketAddrV6_eq]
  funext p
  simp only [readIpv6Literal, andThen, Option.bind_assoc, Option.bind_some]

theorem readIpv6Literal_closed {inner : Bytes} (absent : ']'.toUInt8 ∉ inner) (behind : Bytes) :
    readIpv6Literal (inner ++ ']'.toUInt8 :: behind) =
      (whole (readBracketed inner)).map fun literal => (literal, behind) := by
  unfold readIpv6Literal andThen
  rw [stops_bracketed.stop]
  cases read : readBracketed inner with
  | none => rfl
  | some value =>
    obtain ⟨literal, rest⟩ := value
    cases rest with
    | nil => simp only [Option.map_some, Option.bind_some, List.nil_append, readGivenChar_self, whole]
    | cons b rest =>
      have absent' := stops_bracketed.not_mem absent read
      have other := (List.ne_and_not_mem_of_not_mem_cons absent').1.symm
      simp only [Option.map_some, Option.bind_some, List.cons_append, readGivenChar_other other,
        Option.bind_none, whole, Option.map_none]

theorem readIpv6Literal_open {text : Bytes} (absent : ']'.toUInt8 ∉ text) :
    readIpv6Literal text = none := by
  unfold readIpv6Literal andThen
  cases read : readBracketed text with
  | none => rfl
  | some value =>
    obtain ⟨literal, rest⟩ := value
    have absent' := stops_bracketed.not_mem absent read
    cases rest with
    | nil => rfl
    | cons b rest =>
      have other := (List.ne_and_not_mem_of_not_mem_cons absent').1.symm
      simp only [Option.bind_some, readGivenChar_other other, Option.bind_none]

/-- A host that starts with an IPv4 address has no bracket in front. -/
theorem readIpv6Literal_ipv4 {ip : Ipv4Addr} {rest : Bytes}
    (read : readIpv4Addr host = some (ip, rest)) (behind : Bytes) :
    readIpv6Literal (host ++ behind) = none := by
  have refused : readBracketed (host ++ behind) = none := by
    cases host with
    | nil => cases (readIpv4Addr_noDigit noDigit_nil).symm.trans read
    | cons b host =>
      refine readBracketed_other ?_ _
      rintro rfl
      cases (readIpv4Addr_bracket host).symm.trans read
  unfold readIpv6Literal andThen
  rw [refused]
  rfl

theorem ipv6Literal_eq (host : Bytes) : ipv6Literal host = whole (readIpv6Literal host) := by
  unfold ipv6Literal
  obtain _ | ⟨literal, _ | ⟨b, rest⟩⟩ := readIpv6Literal host <;> rfl

theorem whole_readSocketAddrV6 (number : digitsText digits = some port.toNat) (host : Bytes) :
    whole (readSocketAddrV6 (host ++ colon :: digits)) =
      (ipv6Literal host).map fun literal => ⟨literal.1, port, 0, literal.2⟩ := by
  rw [readSocketAddrV6_literal, ipv6Literal_eq]
  unfold andThen
  by_cases closed : ']'.toUInt8 ∈ host
  · obtain ⟨inner, outer, rfl, absent⟩ := List.eq_append_cons_of_mem closed
    rw [List.append_assoc, List.cons_append, readIpv6Literal_closed absent,
      readIpv6Literal_closed absent]
    cases whole (readBracketed inner) with
    | none => rfl
    | some literal =>
      have read := whole_readPort number outer
      have mapped := whole_map (readPort (outer ++ colon :: digits)) fun port =>
        SocketAddrV6.mk literal.1 port 0 literal.2
      rw [Option.map_eq_bind, read] at mapped
      refine mapped.trans ?_
      cases outer with
      | nil => rfl
      | cons b outer => rfl
  · have absent : ']'.toUInt8 ∉ host ++ colon :: digits := by
      rw [List.mem_append, List.mem_cons, not_or, not_or]
      exact ⟨closed, by decide, digitsText_not_mem number (by decide)⟩
    rw [readIpv6Literal_open closed, readIpv6Literal_open absent]
    rfl

/-- A host and its port are a socket address if the host is an address literal. -/
theorem parseSocketAddr_host (number : digitsText digits = some port.toNat) (host : Bytes) :
    parseSocketAddr (host ++ colon :: digits) =
      ((ipv4Literal host).map fun ip => SocketAddr.v4 ⟨ip, port⟩).or
        ((ipv6Literal host).map fun literal => .v6 ⟨literal.1, port, 0, literal.2⟩) := by
  have parsed : parseSocketAddr (host ++ colon :: digits) =
      whole (readSocketAddr (host ++ colon :: digits)) := by
    unfold parseSocketAddr
    obtain _ | ⟨addr, _ | ⟨b, rest⟩⟩ := readSocketAddr (host ++ colon :: digits) <;> rfl
  have stops : Stops colon readIpv4Addr := stops_ipv4Addr (by decide) (by decide)
  rw [parsed]
  unfold readSocketAddr readSocketAddrV4
  rw [stops.stop]
  cases read : readIpv4Addr host with
  | none =>
    have none_read : ipv4Literal host = none := by
      unfold ipv4Literal
      rw [read]
    rw [none_read]
    have mapped := whole_map (readSocketAddrV6 (host ++ colon :: digits)) SocketAddr.v6
    rw [whole_readSocketAddrV6 number, Option.map_map] at mapped
    exact mapped
  | some value =>
    obtain ⟨ip, rest⟩ := value
    simp only [Option.map_some, Option.bind_eq_bind, Option.bind_some]
    cases rest with
    | nil =>
      have literal : ipv4Literal host = some ip := by
        unfold ipv4Literal
        rw [read]
      rw [List.nil_append, readPort_number number, literal]
      rfl
    | cons b rest =>
      have no_v4 : ipv4Literal host = none := by
        unfold ipv4Literal
        rw [read]
      have no_v6 : ipv6Literal host = none := by
        have refused := readIpv6Literal_ipv4 read []
        rw [List.append_nil] at refused
        rw [ipv6Literal_eq, refused]
        rfl
      rw [no_v4, no_v6]
      have before : whole (readPort (b :: rest ++ colon :: digits)) = none :=
        readPort_behind b rest
      cases port_read : readPort (b :: rest ++ colon :: digits) with
      | none =>
        rw [readSocketAddrV6_literal]
        unfold andThen
        rw [readIpv6Literal_ipv4 read]
        rfl
      | some value =>
        obtain ⟨other, _ | ⟨c, behind⟩⟩ := value
        · rw [port_read] at before
          cases before
        · rfl

theorem utf8Bytes_addrStr (host : String) (port : UInt16) :
    utf8Bytes (addrStr host port) = utf8Bytes host ++ colon :: numberText 10 port.toNat := by
  have separator : utf8Bytes ":" = [colon] := by decide
  unfold addrStr
  rw [utf8Bytes_append, utf8Bytes_append, separator,
    utf8Bytes_asciiString (numberText_ascii (by decide) (by decide) _), List.append_assoc]
  rfl

/-- Printing the host with the port and reading that back is reading the host. -/
theorem tryFromString_addrStr (host : String) (port : UInt16) :
    (tryFromString (addrStr host port)).toOption = hostAddress (utf8Bytes host) port := by
  have printed := utf8Bytes_addrStr host port
  have number : digitsText (numberText 10 port.toNat) = some port.toNat := digitsText_number _
  have parsed := parseSocketAddr_host number (utf8Bytes host)
  rw [← printed] at parsed
  unfold tryFromString hostAddress
  cases v4 : ipv4Literal (utf8Bytes host) with
  | some ip =>
    rw [v4] at parsed
    rw [tryFromStr_socketAddr parsed]
    rfl
  | none =>
    rw [v4] at parsed
    cases v6 : ipv6Literal (utf8Bytes host) with
    | some literal =>
      rw [v6] at parsed
      rw [tryFromStr_socketAddr parsed]
      rfl
    | none =>
      rw [v6] at parsed
      have absent : colon ∉ numberText 10 port.toNat := digitsText_not_mem number (by decide)
      have split : rsplitOnce ':' (utf8Bytes (addrStr host port)) =
          some (utf8Bytes host, numberText 10 port.toNat) := by
        rw [printed, rsplitOnce_last absent]
      have found : domainPort (utf8Bytes (addrStr host port)) = some (utf8Bytes host, port) := by
        unfold domainPort
        rw [split]
        exact congrArg (Option.bind · _) (parseU16_digits number)
      unfold tryFromStr
      rw [parsed, found]
      dsimp only [Option.map_none, Option.or_none]
      by_cases empty : utf8Bytes host = []
      · simp [empty, Except.toOption]
      · have positive : 1 ≤ (utf8Bytes host).length := List.length_pos_of_ne_nil empty
        by_cases long : maxDomainLength < (utf8Bytes host).length
        · rw [if_neg empty, if_pos long, if_neg fun short => Nat.not_le_of_lt long short.2]
          rfl
        · rw [if_neg empty, if_neg long, if_pos ⟨positive, Nat.le_of_not_lt long⟩]
          rfl

theorem extractTargetAddress_eq (uri : Uri) :
    extractTargetAddress uri = (wanted uri).elim (.error .badRequest) .ok := by
  unfold extractTargetAddress wanted
  cases uri.host with
  | none => rfl
  | some host =>
    have read := tryFromString_addrStr host uri.portOrDefault
    simp only [Option.bind_some, ← read]
    cases tryFromString (addrStr host uri.portOrDefault) <;> rfl

/-- An HTTP request asks the tunnel for the address that its host and its port name and for nothing
else, and is refused before if there is none. -/
theorem proxy_handler_target (openBidirectional : Address → Except IoError Unit)
    (request : Request) :
    proxyHandler openBidirectional request =
      (wanted request.uri).elim ([], .response .badRequest) fun target =>
        ([target], if (openBidirectional target).toBool = true then
            (if request.isConnect = true then .connect target else .http target)
          else .response .serviceUnavailable) := by
  unfold proxyHandler
  rw [extractTargetAddress_eq]
  cases wanted request.uri with
  | none => rfl
  | some target =>
    dsimp only [Option.elim]
    cases openBidirectional target <;> rfl

/-- Without a port a CONNECT request goes to port 80. -/
example : wanted ⟨some "[::1]", none, none⟩ = some (.socketV6 ⟨⟨1⟩, 80, 0, 0⟩) := by decide

end Reading

/-! ## Every address has a name -/

/-- A socket address whose text has neither flow label nor scope, or a domain that is no address
literal. -/
def Nameable : Address → Prop
  | .socketV4 _ => True
  | .socketV6 addr => addr.flowinfo = 0 ∧ addr.scopeId = 0
  | .domain name _ => (∃ host, utf8Bytes host = name) ∧ ipv4Literal name = none ∧
      ipv6Literal name = none ∧ 1 ≤ name.length ∧ name.length ≤ maxDomainLength

def portOf : Address → UInt16
  | .socketV4 addr => addr.port
  | .socketV6 addr => addr.port
  | .domain _ port => port

theorem wanted_of_printed {uri : Uri} {host : String} {addr : Address} {a : SocketAddr}
    (named : uri.host = some host)
    (parsed : parseSocketAddr (utf8Bytes (addrStr host uri.portOrDefault)) = some a)
    (same : .ofSocketAddr a = addr) : wanted uri = some addr := by
  unfold wanted
  rw [named, Option.bind_some, ← tryFromString_addrStr]
  unfold tryFromString
  rw [tryFromStr_socketAddr parsed, same]
  rfl

end Ombrac.HttpTarget
