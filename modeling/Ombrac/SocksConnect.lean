import Mathlib.Data.List.Forall2
import Ombrac.CopyBidirectional
import Ombrac.LabelledSystem
import Ombrac.SocksProtocol

set_option autoImplicit false

/-!
# A SOCKS5 session

`handle_connection` from the greeting to the end of the relay, read by read. The client's bytes
come in any pieces; a read takes no more than it asks for, so what it leaves is there for the next
one. `datagram` is the feature that serves `UDP ASSOCIATE`.
-/
namespace Ombrac.SocksConnect
open ProtocolPacket SocksProtocol BinaryFormat NetstackTcp TunTcpRelay CopyBidirectional
open LabelledSystem

def version : UInt8 := 0x05

def cmdConnect : UInt8 := 0x01

def cmdBind : UInt8 := 0x02

def cmdAssociate : UInt8 := 0x03

def noAuthentication : UInt8 := 0x00

def noAcceptableMethod : UInt8 := 0xFF

def unspecified : SocksAddress := .ipv4 ⟨⟨0⟩, 0⟩

inductive Reply where
  | succeeded | generalFailure | connectionNotAllowed | networkUnreachable | hostUnreachable
  | connectionRefused | ttlExpired | commandNotSupported
  deriving DecidableEq, Repr

def Reply.asU8 : Reply → UInt8
  | .succeeded => 0x00
  | .generalFailure => 0x01
  | .connectionNotAllowed => 0x02
  | .networkUnreachable => 0x03
  | .hostUnreachable => 0x04
  | .connectionRefused => 0x05
  | .ttlExpired => 0x06
  | .commandNotSupported => 0x07

def Reply.fromConnectError (err : IoError) : Reply :=
  match err.kind with
  | .connectionRefused => .connectionRefused
  | .timedOut => .ttlExpired
  | .hostUnreachable => .hostUnreachable
  | .networkUnreachable => .networkUnreachable
  | .permissionDenied => .connectionNotAllowed
  | _ => .generalFailure

def encodeReply (reply : Reply) (address : SocksAddress) : Bytes :=
  version :: reply.asU8 :: 0x00 :: address.encode

/-- What the proxy writes to its client before the relay. -/
inductive Message where
  | method (selected : UInt8)
  | reply (reply : Reply) (address : SocksAddress)
  deriving DecidableEq, Repr

def Message.encode : Message → Bytes
  | .method selected => [version, selected]
  | .reply code address => encodeReply code address

inductive Wanted where
  | header
  | methods (n : UInt8)
  | requestHeader
  | addressType (command : UInt8)
  | ipv4 (command : UInt8)
  | ipv6 (command : UInt8)
  | domainLength (command : UInt8)
  | domain (command len : UInt8)
  deriving DecidableEq, Repr

def Wanted.size : Wanted → ℕ
  | .header => 2
  | .methods n => n.toNat
  | .requestHeader => 3
  | .addressType _ | .domainLength _ => 1
  | .ipv4 _ => 6
  | .ipv6 _ => 18
  | .domain _ len => len.toNat + 2

/-- The end of the stream, where the type and the length of a domain are read by `read_u8`. -/
def Wanted.atEnd : Wanted → IoError
  | .addressType _ | .domainLength _ => unexpectedEof
  | _ => earlyEof

/-- What follows a write: the request, a relay or the end of the session. -/
inductive After where
  | request
  | relay
  | relayUdp
  | done (result : Except IoError Unit)

inductive Phase where
  | reading (wanted : Wanted) (got : Bytes)
  | writing (message : Message) (after : After)
  | opening (address : SocksAddress)
  | associating
  | relaying
  | relayingUdp
  | finished (result : Except IoError Unit)

def After.phase : After → Phase
  | .request => .reading .requestHeader []
  | .relay => .relaying
  | .relayUdp => .relayingUdp
  | .done result => .finished result

def selectMethod (methods : Bytes) : Phase :=
  if noAuthentication ∈ methods then .writing (.method noAuthentication) .request
  else .writing (.method noAcceptableMethod)
    (.done (.error ⟨.permissionDenied, "no acceptable authentication method"⟩))

/-- The greeting's methods; a `read_exact` of nothing does not read. -/
def readMethods (n : UInt8) : Phase :=
  if n = 0 then selectMethod [] else .reading (.methods n) []

def unsupported : Phase :=
  .writing (.reply .commandNotSupported unspecified) (.done (.ok ()))

def dispatch (datagram : Bool) (command : UInt8) (address : SocksAddress) : Phase :=
  if command = cmdConnect then .opening address
  else if command = cmdBind then unsupported
  else if command = cmdAssociate then if datagram then .associating else unsupported
  else .finished (.error ⟨.invalidData, "invalid request command: " ++ toString command.toNat⟩)

def readAddress (command atyp : UInt8) : Phase :=
  if atyp = atypIpv4 then .reading (.ipv4 command) []
  else if atyp = atypIpv6 then .reading (.ipv6 command) []
  else if atyp = atypDomain then .reading (.domainLength command) []
  else .finished (.error ⟨.invalidData, "invalid address type: " ++ toString atyp.toNat⟩)

def filled (datagram : Bool) (buf : Bytes) : Wanted → Phase
  | .header =>
    if buf.getD 0 0 ≠ version then .finished (.error (invalidData "unsupported SOCKS version"))
    else readMethods (buf.getD 1 0)
  | .methods _ => selectMethod buf
  | .requestHeader =>
    if buf.getD 0 0 ≠ version then .finished (.error (invalidData "unsupported SOCKS version"))
    else .reading (.addressType (buf.getD 1 0)) []
  | .addressType command => readAddress command (buf.getD 0 0)
  | .ipv4 command =>
    dispatch datagram command
      (.ipv4 ⟨⟨UInt32.ofNat (bigEndianValue (buf.take 4))⟩, portOf (buf.drop 4)⟩)
  | .ipv6 command =>
    dispatch datagram command
      (.ipv6 ⟨⟨BitVec.ofNat 128 (bigEndianValue (buf.take 16))⟩, portOf (buf.drop 16), 0, 0⟩)
  | .domainLength command =>
    if buf.getD 0 0 = 0 then .finished (.error (invalidData "empty domain"))
    else .reading (.domain command (buf.getD 0 0)) []
  | .domain command len =>
    dispatch datagram command (.domain (buf.take len.toNat) (portOf (buf.drop len.toNat)))

/-- What the proxy has done, in order; the messages are those that were written whole. -/
inductive Action where
  | opened (address : Address) (result : Except IoError Unit)
  | associated (relay : SocksAddress)
  | wrote (message : Message)

def Action.bytes : Action → Bytes
  | .opened _ _ | .associated _ => []
  | .wrote message => message.encode

/-- `unread` is the rest of the client's stream, `received` what has been taken from it, and `sent`
what the client has been sent before a relay. -/
structure Session where
  unread : Bytes
  received : Bytes
  log : List Action
  sent : Bytes
  copying : Copying
  phase : Phase

inductive Event where
  | read (result : Except IoError Bytes)
  | wrote (result : Except IoError Unit)
  | opened (result : Except IoError Unit)
  | associated (result : Except IoError SocksAddress)
  | copied (e : CopyEvent)
  | returned
  | ended (result : Except IoError Unit)

namespace Session

def new (stream : Bytes) : Session := ⟨stream, [], [], [], .new, .reading .header []⟩

def goTo (s : Session) (phase : Phase) : Session := { s with phase := phase }

def act (s : Session) (action : Action) : Session :=
  { s with log := s.log ++ [action], sent := s.sent ++ action.bytes }

def take (s : Session) (bytes : Bytes) : Session :=
  { s with unread := s.unread.drop bytes.length, received := s.received ++ bytes }

/-- One turn of a `read_exact` that has `got` some bytes of what it wants. -/
def readSome (datagram : Bool) (s : Session) (wanted : Wanted) (got : Bytes) :
    Except IoError Bytes → Option Session
  | .error e => some (s.goTo (.finished (.error e)))
  | .ok [] => some (s.goTo (.finished (.error wanted.atEnd)))
  | .ok bytes =>
    if bytes <+: s.unread ∧ (got ++ bytes).length ≤ wanted.size then
      some ((s.take bytes).goTo
        (if (got ++ bytes).length = wanted.size then filled datagram (got ++ bytes) wanted
          else .reading wanted (got ++ bytes)))
    else none

/-- The control connection of a UDP association: its bytes are ignored, its end is the end. -/
def readControl (s : Session) : Except IoError Bytes → Option Session
  | .error _ | .ok [] => some (s.goTo (.finished (.ok ())))
  | .ok [b] => if [b] <+: s.unread then some (s.take [b]) else none
  | .ok _ => none

def afterOpen (s : Session) (address : SocksAddress) (result : Except IoError Unit) : Session :=
  (s.act (.opened address.toAddress result)).goTo
    (match result with
    | .ok _ => .writing (.reply .succeeded unspecified) .relay
    | .error e => .writing (.reply (.fromConnectError e) unspecified) (.done (.error e)))

def afterAssociate (s : Session) : Except IoError SocksAddress → Session
  | .ok relay => (s.act (.associated relay)).goTo (.writing (.reply .succeeded relay) .relayUdp)
  | .error e => s.goTo (.finished (.error e))

def afterWrite (s : Session) (message : Message) (after : After) : Except IoError Unit → Session
  | .ok _ => (s.act (.wrote message)).goTo after.phase
  | .error e => s.goTo (.finished (.error e))

def copy (s : Session) (e : CopyEvent) : Option Session :=
  if e.input .aToB <+: s.unread then
    (s.copying.step e).map fun c => { s.take (e.input .aToB) with copying := c }
  else none

def step (datagram : Bool) (s : Session) : Event → Option Session
  | .read result =>
    match s.phase with
    | .reading wanted got => s.readSome datagram wanted got result
    | .relayingUdp => s.readControl result
    | _ => none
  | .wrote result =>
    match s.phase with
    | .writing message after => some (s.afterWrite message after result)
    | _ => none
  | .opened result =>
    match s.phase with
    | .opening address => some (s.afterOpen address result)
    | _ => none
  | .associated result =>
    match s.phase with
    | .associating => some (s.afterAssociate result)
    | _ => none
  | .copied e =>
    match s.phase with
    | .relaying => s.copy e
    | _ => none
  | .returned =>
    match s.phase with
    | .relaying => s.copying.result.map fun result => s.goTo (.finished result)
    | _ => none
  | .ended result =>
    match s.phase with
    | .relayingUdp => some (s.goTo (.finished result))
    | _ => none

end Session

def session (datagram : Bool) (stream : Bytes) : System Session Event :=
  ⟨.new stream, Session.step datagram⟩

/-! ## The handshake of a CONNECT -/

def greeting (methods : Bytes) : Bytes := version :: methods.length.toUInt8 :: methods

def Greets (bytes : Bytes) : Prop :=
  ∃ methods, methods.length ≤ 255 ∧ noAuthentication ∈ methods ∧ bytes = greeting methods

def WellFormed : SocksAddress → Prop
  | .ipv4 _ => True
  | .ipv6 addr => addr.flowinfo = 0 ∧ addr.scopeId = 0
  | .domain name _ => 1 ≤ name.length ∧ name.length ≤ 255

/-- `VER CMD RSV ATYP ADDR PORT`, whatever the reserved byte. -/
def request (command reserved : UInt8) (address : SocksAddress) : Bytes :=
  [version, command, reserved] ++ address.encode

def IsHandshake (address : SocksAddress) (bytes : Bytes) : Prop :=
  ∃ greets reserved, Greets greets ∧ WellFormed address ∧
    bytes = greets ++ request cmdConnect reserved address

/-- `ATYP ADDR PORT` of a request, and the address that it names. -/
inductive Names : Address → Bytes → Prop
  | ipv4 (ip : Ipv4Addr) (port : UInt16) : Names (.socketV4 ⟨ip, port⟩)
      (0x01 :: (bigEndian 4 ip.bits.toNat).val ++ (bigEndian 2 port.toNat).val)
  | ipv6 (ip : Ipv6Addr) (port : UInt16) : Names (.socketV6 ⟨ip, port, 0, 0⟩)
      (0x04 :: (bigEndian 16 ip.bits.toNat).val ++ (bigEndian 2 port.toNat).val)
  | domain {name : Bytes} (port : UInt16) (present : 1 ≤ name.length)
      (short : name.length ≤ 255) : Names (.domain name port)
      (0x03 :: name.length.toUInt8 :: name ++ (bigEndian 2 port.toNat).val)

/-- `VER NMETHODS METHODS` with no authentication among them, and then `VER CMD RSV` of a CONNECT
with this address. -/
def Asks (address : Address) (bytes : Bytes) : Prop :=
  ∃ methods reserved named, methods.length ≤ 255 ∧ 0x00 ∈ methods ∧ Names address named ∧
    bytes = 0x05 :: methods.length.toUInt8 :: methods ++ [0x05, 0x01, reserved] ++ named

theorem names_encode {socks : SocksAddress} (fits : WellFormed socks) :
    Names socks.toAddress socks.encode := by
  cases socks with
  | ipv4 addr => exact .ipv4 addr.ip addr.port
  | ipv6 addr =>
    obtain ⟨ip, port, flowinfo, scopeId⟩ := addr
    obtain ⟨rfl, rfl⟩ := fits
    exact .ipv6 ip port
  | domain name port => exact .domain port fits.1 fits.2

theorem IsHandshake.asks {socks : SocksAddress} {bytes : Bytes} (asked : IsHandshake socks bytes) :
    Asks socks.toAddress bytes := by
  obtain ⟨greets, reserved, ⟨methods, short, offers, rfl⟩, fits, rfl⟩ := asked
  refine ⟨methods, reserved, socks.encode, short, offers, names_encode fits, ?_⟩
  simp [request, greeting, version, cmdConnect]

def AtAddress (command : UInt8) (bytes : Bytes) : Prop :=
  ∃ greets reserved, Greets greets ∧ bytes = greets ++ [version, command, reserved]

def Before : Wanted → Bytes → Prop
  | .header, head => head = []
  | .methods n, head => head = [version, n]
  | .requestHeader, head => Greets head
  | .addressType command, head => AtAddress command head
  | .ipv4 command, head => ∃ at', AtAddress command at' ∧ head = at' ++ [atypIpv4]
  | .ipv6 command, head => ∃ at', AtAddress command at' ∧ head = at' ++ [atypIpv6]
  | .domainLength command, head => ∃ at', AtAddress command at' ∧ head = at' ++ [atypDomain]
  | .domain command len, head =>
    len ≠ 0 ∧ ∃ at', AtAddress command at' ∧ head = at' ++ [atypDomain, len]

/-! ## What the log and the reads are in each phase -/

def isOpened : Action → Bool
  | .opened _ _ => true
  | _ => false

def isSucceeded : Action → Bool
  | .wrote (.reply .succeeded _) => true
  | _ => false

theorem failure_not_succeeded (e : IoError) :
    isSucceeded (.wrote (.reply (.fromConnectError e) unspecified)) = false := by
  unfold Reply.fromConnectError
  split <;> rfl

def Quiet (log : List Action) : Prop := ∀ a ∈ log, isOpened a = false ∧ isSucceeded a = false

def Unopened (log : List Action) : Prop := ∀ a ∈ log, isOpened a = false

/-- What allows the reply `Succeeded`: a tunnel is open, or the session is an association. -/
def Allowed (log : List Action) : Prop :=
  (∃ address, .opened address (.ok ()) ∈ log) ∨ ∃ relay, .associated relay ∈ log

def Confirmed (log : List Action) : Prop :=
  ∀ before a after, log = before ++ a :: after → isSucceeded a = true → Allowed before

def Aside (log : List Action) : Phase → Prop
  | .writing message (.done _) => isSucceeded (.wrote message) = false
  | .writing _ .relayUdp => ∃ relay, .associated relay ∈ log
  | .associating | .relayingUdp | .finished _ => True
  | _ => False

/-- `failed` says that a write to the client has failed. -/
inductive Shape (failed : Prop) : Phase → Bytes → List Action → Copying → Prop where
  | reading {wanted head got log} (before : Before wanted head) (short : got.length < wanted.size)
      (quiet : Quiet log) : Shape failed (.reading wanted got) (head ++ got) log .new
  | greeted {received log} (greets : Greets received) (quiet : Quiet log) :
      Shape failed (.writing (.method noAuthentication) .request) received log .new
  | opening {address received log} (asked : IsHandshake address received) (quiet : Quiet log) :
      Shape failed (.opening address) received log .new
  | confirming {address received log} (asked : IsHandshake address received) (quiet : Quiet log) :
      Shape failed (.writing (.reply .succeeded unspecified) .relay) received
        (log ++ [.opened address.toAddress (.ok ())]) .new
  | copying {address handshake log copying phase} (asked : IsHandshake address handshake)
      (quiet : Quiet log) (faithful : copying.Faithful)
      (place : phase = .relaying ∨ ∃ result, phase = .finished result) :
      Shape failed phase (handshake ++ copying.read .aToB)
        (log ++ [.opened address.toAddress (.ok ()), .wrote (.reply .succeeded unspecified)]) copying
  | refusing {address received log e} (asked : IsHandshake address received) (quiet : Quiet log) :
      Shape failed (.writing (.reply (.fromConnectError e) unspecified) (.done (.error e))) received
        (log ++ [.opened address.toAddress (.error e)]) .new
  | refused {address received log e} (asked : IsHandshake address received) (quiet : Quiet log) :
      Shape failed (.finished (.error e)) received
        (log ++ [.opened address.toAddress (.error e),
          .wrote (.reply (.fromConnectError e) unspecified)]) .new
  | cut {address received log result e} (asked : IsHandshake address received)
      (quiet : Quiet log) (lost : failed) :
      Shape failed (.finished (.error e)) received (log ++ [.opened address.toAddress result]) .new
  | aside {phase received log} (way : Aside log phase) (unopened : Unopened log)
      (confirmed : Confirmed log) : Shape failed phase received log .new

section Logs
variable {log : List Action}

theorem Quiet.unopened (quiet : Quiet log) : Unopened log := fun a mem => (quiet a mem).1

theorem Quiet.confirmed (quiet : Quiet log) : Confirmed log := by
  rintro before a after rfl succeeded
  have silent := (quiet a (by simp)).2
  rw [succeeded] at silent
  cases silent

theorem Quiet.append (quiet : Quiet log) {a : Action}
    (silent : isOpened a = false ∧ isSucceeded a = false) : Quiet (log ++ [a]) := by
  intro b mem
  rcases List.mem_append.1 mem with old | new
  · exact quiet b old
  · rwa [List.mem_singleton.1 new]

theorem Unopened.append (unopened : Unopened log) {a : Action} (closed : isOpened a = false) :
    Unopened (log ++ [a]) := by
  intro b mem
  rcases List.mem_append.1 mem with old | new
  · exact unopened b old
  · rwa [List.mem_singleton.1 new]

theorem Confirmed.append (confirmed : Confirmed log) {a : Action}
    (allowed : isSucceeded a = true → Allowed log) : Confirmed (log ++ [a]) := by
  intro before b after split succeeded
  rcases List.eq_nil_or_concat after with rfl | ⟨after, last, rfl⟩
  · obtain ⟨rfl, same⟩ := List.append_inj' split rfl
    obtain rfl : a = b := List.singleton_inj.1 same
    exact allowed succeeded
  · have shorter : log = before ++ b :: after := by
      have := List.append_inj' (split.trans (by simp : before ++ b :: after.concat last =
        before ++ b :: after ++ [last])) rfl
      exact this.1
    exact confirmed before b after shorter succeeded

theorem Allowed.of_opened (before : List Action) (address : Address) :
    Allowed (before ++ [.opened address (.ok ())]) := .inl ⟨address, by simp⟩

end Logs

/-! ## Reading the handshake -/

section Filled
variable {failed : Prop} {log : List Action} {head buf : Bytes} {datagram : Bool}

/-- A way aside adds nothing to what the log says. -/
theorem Shape.of_quiet {phase : Phase} {received : Bytes} (quiet : Quiet log)
    (way : Aside log phase) : Shape failed phase received log .new :=
  .aside way quiet.unopened quiet.confirmed

theorem dispatch_shape {command : UInt8} {address : SocksAddress} {at' : Bytes} (quiet : Quiet log)
    (asked : AtAddress command at') (fits : WellFormed address) :
    Shape failed (dispatch datagram command address) (at' ++ address.encode) log .new := by
  unfold dispatch unsupported
  split_ifs with connect
  · obtain ⟨greets, reserved, offers, rfl⟩ := asked
    refine .opening ⟨greets, reserved, offers, fits, ?_⟩ quiet
    rw [connect, List.append_assoc, request]
  · exact .of_quiet quiet rfl
  · exact .of_quiet quiet trivial
  · exact .of_quiet quiet rfl
  · exact .of_quiet quiet trivial

theorem selectMethod_shape (quiet : Quiet log) {n : UInt8} (size : buf.length = n.toNat) :
    Shape failed (selectMethod buf) ([version, n] ++ buf) log .new := by
  unfold selectMethod
  split_ifs with offered
  · refine .greeted ⟨buf, ?_, offered, ?_⟩ quiet
    · rw [size]
      exact Nat.le_of_lt_succ n.toNat_lt
    · rw [greeting, size]
      simp
  · exact .of_quiet quiet rfl

/-- A read that begins. -/
theorem Shape.next {wanted : Wanted} {received : Bytes} (quiet : Quiet log)
    (before : Before wanted received) (some' : 0 < wanted.size) :
    Shape failed (.reading wanted []) received log .new := by
  have shape : Shape failed (.reading wanted []) (received ++ []) log .new :=
    .reading before some' quiet
  rwa [List.append_nil] at shape

theorem readMethods_shape (quiet : Quiet log) (n : UInt8) :
    Shape failed (readMethods n) [version, n] log .new := by
  unfold readMethods
  split_ifs with none'
  · have shape : Shape failed (selectMethod []) ([version, n] ++ []) log .new :=
      selectMethod_shape quiet (by simp [none'])
    rwa [List.append_nil] at shape
  · exact .next quiet rfl (Nat.pos_of_ne_zero fun zero => none' (UInt8.toNat_inj.1 zero))

theorem readAddress_shape {command : UInt8} (quiet : Quiet log) (asked : AtAddress command head)
    (atyp : UInt8) : Shape failed (readAddress command atyp) (head ++ [atyp]) log .new := by
  unfold readAddress
  split_ifs with ipv4 ipv6 domain
  · exact .next quiet ⟨head, asked, by rw [ipv4]⟩ (Nat.succ_pos _)
  · exact .next quiet ⟨head, asked, by rw [ipv6]⟩ (Nat.succ_pos _)
  · exact .next quiet ⟨head, asked, by rw [domain]⟩ (Nat.succ_pos _)
  · exact .of_quiet quiet trivial

/-- Every full buffer leads on to the next part of the handshake. -/
theorem filled_shape {wanted : Wanted} (quiet : Quiet log) (before : Before wanted head)
    (size : buf.length = wanted.size) :
    Shape failed (filled datagram buf wanted) (head ++ buf) log .new := by
  cases wanted with
  | header =>
    obtain ⟨first, n, rfl⟩ := List.length_eq_two.1 size
    obtain rfl : head = [] := before
    simp only [filled, List.getD_cons_zero, List.getD_cons_succ, List.nil_append]
    split_ifs with other
    · exact .of_quiet quiet trivial
    · rw [not_not.1 other]
      exact readMethods_shape quiet n
  | methods n =>
    obtain rfl : head = [version, n] := before
    exact selectMethod_shape quiet size
  | requestHeader =>
    obtain ⟨first, command, reserved, rfl⟩ := List.length_eq_three.1 size
    simp only [filled, List.getD_cons_zero, List.getD_cons_succ]
    split_ifs with other
    · exact .of_quiet quiet trivial
    · rw [not_not.1 other]
      exact .next quiet ⟨head, reserved, before, rfl⟩ Nat.one_pos
  | addressType command =>
    obtain ⟨atyp, rfl⟩ := List.length_eq_one_iff.1 size
    exact readAddress_shape quiet before atyp
  | ipv4 command =>
    obtain ⟨at', asked, rfl⟩ := before
    have shape : Shape failed (filled datagram buf (.ipv4 command)) _ log .new :=
      dispatch_shape quiet asked trivial
    rwa [encode_ipv4 size, List.append_cons] at shape
  | ipv6 command =>
    obtain ⟨at', asked, rfl⟩ := before
    have shape : Shape failed (filled datagram buf (.ipv6 command)) _ log .new :=
      dispatch_shape quiet asked ⟨rfl, rfl⟩
    rwa [encode_ipv6 size, List.append_cons] at shape
  | domainLength command =>
    obtain ⟨len, rfl⟩ := List.length_eq_one_iff.1 size
    obtain ⟨at', asked, rfl⟩ := before
    simp only [filled, List.getD_cons_zero]
    split_ifs with empty
    · exact .of_quiet quiet trivial
    · refine .next quiet ⟨empty, at', asked, ?_⟩ (Nat.succ_pos _)
      rw [List.append_assoc, List.singleton_append]
  | domain command len =>
    obtain ⟨some', at', asked, rfl⟩ := before
    have name : (buf.take len.toNat).length = len.toNat := by
      rw [List.length_take]
      change buf.length = len.toNat + 2 at size
      omega
    have fits : WellFormed (.domain (buf.take len.toNat) (portOf (buf.drop len.toNat))) := by
      refine ⟨?_, ?_⟩
      · rw [name]
        exact Nat.pos_of_ne_zero fun zero => some' (UInt8.toNat_inj.1 zero)
      · rw [name]
        exact Nat.le_of_lt_succ len.toNat_lt
    have shape : Shape failed (filled datagram buf (.domain command len)) _ log .new :=
      dispatch_shape quiet asked fits
    rwa [encode_domain size, List.append_cons, List.append_cons, List.append_assoc at'] at shape

end Filled

/-! ## Every step keeps the shape -/

section Steps
variable {failed failed' : Prop} {datagram : Bool}

theorem Shape.mono (imp : failed → failed') {phase : Phase} {received : Bytes} {log : List Action}
    {copying : Copying} (shape : Shape failed phase received log copying) :
    Shape failed' phase received log copying := by
  cases shape with
  | reading before short quiet => exact .reading before short quiet
  | greeted greets quiet => exact .greeted greets quiet
  | opening asked quiet => exact .opening asked quiet
  | confirming asked quiet => exact .confirming asked quiet
  | copying asked quiet faithful place => exact .copying asked quiet faithful place
  | refusing asked quiet => exact .refusing asked quiet
  | refused asked quiet => exact .refused asked quiet
  | cut asked quiet lost => exact .cut asked quiet (imp lost)
  | aside way unopened confirmed => exact .aside way unopened confirmed

def Session.Shaped (failed : Prop) (s : Session) : Prop :=
  Shape failed s.phase s.received s.log s.copying

variable {s v : Session}

/-- What a read returned is what comes next in the stream. -/
theorem take_whole {bytes : Bytes} (comes : bytes <+: s.unread) :
    (s.take bytes).received ++ (s.take bytes).unread = s.received ++ s.unread := by
  obtain ⟨rest, split⟩ := comes
  simp only [Session.take, ← split, List.drop_left, List.append_assoc]

theorem readSome_shaped {wanted : Wanted} {got : Bytes} {result : Except IoError Bytes}
    (shaped : s.Shaped failed) (here : s.phase = .reading wanted got)
    (h : s.readSome datagram wanted got result = some v) :
    v.Shaped failed ∧ v.received ++ v.unread = s.received ++ s.unread := by
  obtain ⟨head, same, before, short, quiet, fresh⟩ : ∃ head, s.received = head ++ got ∧
      Before wanted head ∧ got.length < wanted.size ∧ Quiet s.log ∧ s.copying = .new := by
    unfold Session.Shaped at shaped
    rw [here] at shaped
    generalize s.received = received at shaped
    generalize s.log = log at shaped
    generalize s.copying = copying at shaped
    cases shaped with
    | reading before short quiet => exact ⟨_, rfl, before, short, quiet, rfl⟩
    | copying _ _ _ place => rcases place with h | ⟨_, h⟩ <;> cases h
    | aside way => exact way.elim
  have ended : ∀ e, (s.goTo (.finished (.error e))).Shaped failed := by
    intro e
    change Shape failed _ _ s.log s.copying
    rw [fresh]
    exact .of_quiet quiet trivial
  unfold Session.readSome at h
  split at h
  · obtain rfl := Option.some.inj h
    exact ⟨ended _, rfl⟩
  · obtain rfl := Option.some.inj h
    exact ⟨ended _, rfl⟩
  · rename_i bytes _
    split_ifs at h with comes full
    · obtain rfl := Option.some.inj h
      refine ⟨?_, take_whole comes.1⟩
      change Shape failed (filled _ _ _) (s.received ++ bytes) s.log s.copying
      rw [same, fresh, List.append_assoc]
      exact filled_shape quiet before full
    · obtain rfl := Option.some.inj h
      refine ⟨?_, take_whole comes.1⟩
      change Shape failed (.reading wanted (got ++ bytes)) (s.received ++ bytes) s.log s.copying
      rw [same, fresh, List.append_assoc]
      exact .reading before (lt_of_le_of_ne comes.2 full) quiet

theorem afterWrite_shaped {message : Message} {after : After} {result : Except IoError Unit}
    (shaped : s.Shaped failed) (here : s.phase = .writing message after)
    (lost : ∀ e, result = .error e → failed') :
    (s.afterWrite message after result).Shaped failed' := by
  obtain ⟨unread, received, log, sent, copying, phase⟩ := s
  obtain rfl : phase = .writing message after := here
  change Shape failed (.writing message after) received log copying at shaped
  cases shaped with
  | greeted greets quiet =>
    cases result with
    | ok value => exact .next (quiet.append ⟨rfl, rfl⟩) greets (Nat.succ_pos _)
    | error e => exact .of_quiet quiet trivial
  | confirming asked quiet =>
    cases result with
    | ok value =>
      have shape : Shape failed' .relaying (received ++ Copying.new.read .aToB) _ .new :=
        .copying asked quiet Copying.faithful_new (.inl rfl)
      rw [List.append_cons] at shape
      change Shape failed' .relaying (received ++ []) _ .new at shape
      rwa [List.append_nil] at shape
    | error e => exact .cut asked quiet (lost e rfl)
  | copying _ _ _ place => rcases place with h | ⟨_, h⟩ <;> cases h
  | refusing asked quiet =>
    cases result with
    | ok value =>
      rename_i e
      have shape : Shape failed' (.finished (.error e)) received _ .new := .refused asked quiet
      rwa [List.append_cons] at shape
    | error e => exact .cut asked quiet (lost e rfl)
  | aside way unopened confirmed =>
    cases result with
    | error e => exact .aside trivial unopened confirmed
    | ok value =>
      cases after with
      | request => exact way.elim
      | relay => exact way.elim
      | relayUdp => exact .aside trivial (unopened.append rfl) (confirmed.append fun _ => .inr way)
      | done result =>
        refine .aside trivial (unopened.append rfl) (confirmed.append fun succeeded => ?_)
        cases succeeded.symm.trans way

theorem afterOpen_shaped {address : SocksAddress} {result : Except IoError Unit}
    (shaped : s.Shaped failed) (here : s.phase = .opening address) :
    (s.afterOpen address result).Shaped failed := by
  obtain ⟨unread, received, log, sent, copying, phase⟩ := s
  obtain rfl : phase = .opening address := here
  change Shape failed (.opening address) received log copying at shaped
  cases shaped with
  | opening asked quiet =>
    cases result with
    | ok value => exact .confirming asked quiet
    | error e => exact .refusing asked quiet
  | copying _ _ _ place => rcases place with h | ⟨_, h⟩ <;> cases h
  | aside way => exact way.elim

theorem afterAssociate_shaped {result : Except IoError SocksAddress}
    (shaped : s.Shaped failed) (here : s.phase = .associating) :
    (s.afterAssociate result).Shaped failed := by
  obtain ⟨unread, received, log, sent, copying, phase⟩ := s
  obtain rfl : phase = .associating := here
  change Shape failed .associating received log copying at shaped
  cases shaped with
  | copying _ _ _ place => rcases place with h | ⟨_, h⟩ <;> cases h
  | aside way unopened confirmed =>
    cases result with
    | ok relay =>
      refine .aside ⟨relay, List.mem_append_right _ List.mem_cons_self⟩ (unopened.append rfl)
        (confirmed.append fun h => ?_)
      cases h
    | error e => exact .aside trivial unopened confirmed

theorem udp_shaped (shaped : s.Shaped failed) (here : s.phase = .relayingUdp) :
    s.copying = .new ∧ Unopened s.log ∧ Confirmed s.log := by
  obtain ⟨unread, received, log, sent, copying, phase⟩ := s
  obtain rfl : phase = .relayingUdp := here
  change Shape failed .relayingUdp received log copying at shaped
  cases shaped with
  | copying _ _ _ place => rcases place with h | ⟨_, h⟩ <;> cases h
  | aside _ unopened confirmed => exact ⟨rfl, unopened, confirmed⟩

theorem readControl_shaped {result : Except IoError Bytes} (shaped : s.Shaped failed)
    (here : s.phase = .relayingUdp) (h : s.readControl result = some v) :
    v.Shaped failed ∧ v.received ++ v.unread = s.received ++ s.unread := by
  obtain ⟨fresh, unopened, confirmed⟩ := udp_shaped shaped here
  have stays : ∀ phase received, Aside s.log phase →
      Shape failed phase received s.log s.copying := by
    intro phase received way
    rw [fresh]
    exact .aside way unopened confirmed
  unfold Session.readControl at h
  split at h
  · obtain rfl := Option.some.inj h
    exact ⟨stays _ _ trivial, rfl⟩
  · obtain rfl := Option.some.inj h
    exact ⟨stays _ _ trivial, rfl⟩
  · split_ifs at h with comes
    obtain rfl := Option.some.inj h
    refine ⟨stays _ _ ?_, take_whole comes⟩
    change Aside s.log s.phase
    rw [here]
    trivial
  · cases h

theorem relaying_shaped (shaped : s.Shaped failed) (here : s.phase = .relaying) :
    ∃ address handshake log, IsHandshake address handshake ∧ Quiet log ∧ s.copying.Faithful ∧
      s.received = handshake ++ s.copying.read .aToB ∧
      s.log = log ++ [.opened address.toAddress (.ok ()),
        .wrote (.reply .succeeded unspecified)] := by
  obtain ⟨unread, received, log, sent, copying, phase⟩ := s
  obtain rfl : phase = .relaying := here
  change Shape failed .relaying received log copying at shaped
  cases shaped with
  | copying asked quiet faithful _ => exact ⟨_, _, _, asked, quiet, faithful, rfl, rfl⟩
  | aside way => exact way.elim

theorem copy_shaped {e : CopyEvent} (shaped : s.Shaped failed) (here : s.phase = .relaying)
    (h : s.copy e = some v) :
    v.Shaped failed ∧ v.received ++ v.unread = s.received ++ s.unread := by
  obtain ⟨address, handshake, log, asked, quiet, faithful, received, logged⟩ :=
    relaying_shaped shaped here
  unfold Session.copy at h
  split_ifs at h with comes
  obtain ⟨c, moved, rfl⟩ := Option.map_eq_some_iff.1 h
  refine ⟨?_, take_whole comes⟩
  change Shape failed s.phase (s.received ++ e.input .aToB) s.log c
  rw [received, logged, List.append_assoc, ← Copying.step_read moved]
  exact .copying asked quiet (faithful.step moved) (.inl here)

/-- The bytes taken and the bytes left are the stream, whatever the step. -/
theorem step_shaped {e : Event} (shaped : s.Shaped failed) (imp : failed → failed')
    (lost : ∀ error, e = .wrote (.error error) → failed') (h : s.step datagram e = some v) :
    v.Shaped failed' ∧ v.received ++ v.unread = s.received ++ s.unread := by
  cases e with
  | read result =>
    simp only [Session.step] at h
    split at h
    · rename_i here
      obtain ⟨shape, whole⟩ := readSome_shaped shaped here h
      exact ⟨shape.mono imp, whole⟩
    · rename_i here
      obtain ⟨shape, whole⟩ := readControl_shaped shaped here h
      exact ⟨shape.mono imp, whole⟩
    · cases h
  | wrote result =>
    simp only [Session.step] at h
    split at h
    · rename_i here
      obtain rfl := Option.some.inj h
      refine ⟨afterWrite_shaped shaped here fun e failure => lost e (by rw [failure]), ?_⟩
      cases result <;> rfl
    · cases h
  | opened result =>
    simp only [Session.step] at h
    split at h
    · rename_i here
      obtain rfl := Option.some.inj h
      exact ⟨(afterOpen_shaped shaped here).mono imp, rfl⟩
    · cases h
  | associated result =>
    simp only [Session.step] at h
    split at h
    · rename_i here
      obtain rfl := Option.some.inj h
      refine ⟨(afterAssociate_shaped shaped here).mono imp, ?_⟩
      cases result <;> rfl
    · cases h
  | copied e =>
    simp only [Session.step] at h
    split at h
    · rename_i here
      obtain ⟨shape, whole⟩ := copy_shaped shaped here h
      exact ⟨shape.mono imp, whole⟩
    · cases h
  | returned =>
    simp only [Session.step] at h
    split at h
    · rename_i here
      obtain ⟨result, _, rfl⟩ := Option.map_eq_some_iff.1 h
      obtain ⟨address, handshake, log, asked, quiet, faithful, received, logged⟩ :=
        relaying_shaped shaped here
      refine ⟨?_, rfl⟩
      change Shape failed' (.finished result) s.received s.log s.copying
      rw [received, logged]
      exact .copying asked quiet faithful (.inr ⟨result, rfl⟩)
    · cases h
  | ended result =>
    simp only [Session.step] at h
    split at h
    · rename_i here
      obtain rfl := Option.some.inj h
      obtain ⟨fresh, unopened, confirmed⟩ := udp_shaped shaped here
      refine ⟨?_, rfl⟩
      change Shape failed' (.finished result) s.received s.log s.copying
      rw [fresh]
      exact .aside trivial unopened confirmed
    · cases h

end Steps

def WriteFailed (es : List Event) : Prop := ∃ e, .wrote (.error e) ∈ es

theorem session_shaped {datagram : Bool} {stream : Bytes} {es : List Event} {s : Session}
    (run : Runs (session datagram stream) es s) :
    s.Shaped (WriteFailed es) ∧ s.received ++ s.unread = stream := by
  induction run with
  | initial => exact ⟨.next (fun _ mem => by cases mem) rfl (Nat.succ_pos _), rfl⟩
  | next run h ih =>
    rename_i es e u v
    have imp : WriteFailed es → WriteFailed (es ++ [e]) := by
      rintro ⟨error, mem⟩
      exact ⟨error, List.mem_append_left _ mem⟩
    have lost : ∀ error, e = .wrote (.error error) → WriteFailed (es ++ [e]) := by
      rintro error rfl
      exact ⟨error, by simp⟩
    obtain ⟨shaped, whole⟩ := step_shaped ih.1 imp lost h
    exact ⟨shaped, whole.trans ih.2⟩

/-- A step either leaves the log and what is on the wire, or does one more action. -/
theorem step_acts {datagram : Bool} {s v : Session} {e : Event} (h : s.step datagram e = some v) :
    (v.log = s.log ∧ v.sent = s.sent) ∨
      ∃ action, v.log = s.log ++ [action] ∧ v.sent = s.sent ++ action.bytes := by
  cases e with
  | read result =>
    simp only [Session.step] at h
    split at h
    · unfold Session.readSome at h
      split at h
      · obtain rfl := Option.some.inj h
        exact .inl ⟨rfl, rfl⟩
      · obtain rfl := Option.some.inj h
        exact .inl ⟨rfl, rfl⟩
      · obtain ⟨_, ⟨⟩⟩ := Option.ite_none_right_eq_some.1 h
        exact .inl ⟨rfl, rfl⟩
    · unfold Session.readControl at h
      split at h
      · obtain rfl := Option.some.inj h
        exact .inl ⟨rfl, rfl⟩
      · obtain rfl := Option.some.inj h
        exact .inl ⟨rfl, rfl⟩
      · obtain ⟨_, ⟨⟩⟩ := Option.ite_none_right_eq_some.1 h
        exact .inl ⟨rfl, rfl⟩
      · cases h
    · cases h
  | wrote result =>
    simp only [Session.step] at h
    split at h
    · obtain rfl := Option.some.inj h
      cases result with
      | ok value => exact .inr ⟨_, rfl, rfl⟩
      | error e => exact .inl ⟨rfl, rfl⟩
    · cases h
  | opened result =>
    simp only [Session.step] at h
    split at h
    · obtain rfl := Option.some.inj h
      exact .inr ⟨_, rfl, rfl⟩
    · cases h
  | associated result =>
    simp only [Session.step] at h
    split at h
    · obtain rfl := Option.some.inj h
      cases result with
      | ok relay => exact .inr ⟨_, rfl, rfl⟩
      | error e => exact .inl ⟨rfl, rfl⟩
    · cases h
  | copied e =>
    simp only [Session.step] at h
    split at h
    · unfold Session.copy at h
      obtain ⟨_, moved⟩ := Option.ite_none_right_eq_some.1 h
      obtain ⟨c, _, rfl⟩ := Option.map_eq_some_iff.1 moved
      exact .inl ⟨rfl, rfl⟩
    · cases h
  | returned =>
    simp only [Session.step] at h
    split at h
    · obtain ⟨result, _, rfl⟩ := Option.map_eq_some_iff.1 h
      exact .inl ⟨rfl, rfl⟩
    · cases h
  | ended result =>
    simp only [Session.step] at h
    split at h
    · obtain rfl := Option.some.inj h
      exact .inl ⟨rfl, rfl⟩
    · cases h

/-- What an action puts on the wire to the client. The code 0 of `VER REP RSV ATYP ADDR PORT` is
that of success alone. -/
inductive OnWire : Action → Bytes → Prop where
  | opened (address : Address) (result : Except IoError Unit) : OnWire (.opened address result) []
  | associated (relay : SocksAddress) : OnWire (.associated relay) []
  | method (selected : UInt8) : OnWire (.wrote (.method selected)) [0x05, selected]
  | reply {reply : Reply} {code : UInt8} (bound : SocksAddress)
      (success : code = 0x00 ↔ reply = .succeeded) :
      OnWire (.wrote (.reply reply bound)) (0x05 :: code :: 0x00 :: bound.encode)

theorem onWire_bytes (action : Action) : OnWire action action.bytes := by
  cases action with
  | opened address result => exact .opened address result
  | associated relay => exact .associated relay
  | wrote message =>
    cases message with
    | method selected => exact .method selected
    | reply reply bound => exact .reply bound (by cases reply <;> decide)

/-- What the client has been sent are the messages of the log, whole and in order. -/
def Sends (log : List Action) (sent : Bytes) : Prop :=
  ∃ pieces, List.Forall₂ OnWire log pieces ∧ sent = pieces.flatten

theorem Sends.act {log : List Action} {sent : Bytes} (sends : Sends log sent) (action : Action) :
    Sends (log ++ [action]) (sent ++ action.bytes) := by
  obtain ⟨pieces, each, rfl⟩ := sends
  refine ⟨pieces ++ [action.bytes], ?_, by simp⟩
  exact List.rel_append each (.cons (onWire_bytes action) .nil)

theorem session_sends {datagram : Bool} {stream : Bytes} {es : List Event} {s : Session}
    (run : Runs (session datagram stream) es s) : Sends s.log s.sent := by
  refine run.invariant (I := fun s => Sends s.log s.sent) ⟨[], .nil, rfl⟩ ?_
  intro u e v sends h
  rcases step_acts h with ⟨log, sent⟩ | ⟨action, log, sent⟩
  · rw [log, sent]
    exact sends
  · rw [log, sent]
    exact sends.act action

/-! ## What a session has done -/

/-- The tunnel of a session: the log up to its opening and from there. -/
structure Tunnel (failed : Prop) (phase : Phase) (received : Bytes) (log : List Action)
    (copying : Copying) (address : SocksAddress) (handshake : Bytes)
    (result : Except IoError Unit) (before after : List Action) : Prop where
  asked : IsHandshake address handshake
  received : received = handshake ++ copying.read .aToB
  faithful : copying.Faithful
  log : log = before ++ .opened address.toAddress result :: after
  quiet : Quiet before
  ok : ∀ value, result = .ok value → after <+: [.wrote (.reply .succeeded unspecified)]
  error : ∀ e, result = .error e → copying = .new ∧
    after <+: [.wrote (.reply (.fromConnectError e) unspecified)] ∧
    ∀ last, phase = .finished last → ¬failed →
      after = [.wrote (.reply (.fromConnectError e) unspecified)] ∧ last = .error e

theorem Shape.summary {failed : Prop} {phase : Phase} {received : Bytes} {log : List Action}
    {copying : Copying} (shape : Shape failed phase received log copying) :
    (Unopened log ∧ Confirmed log ∧ copying = .new) ∨
      ∃ address handshake result before after,
        Tunnel failed phase received log copying address handshake result before after := by
  have none_read : ∀ bytes : Bytes, bytes = bytes ++ Copying.new.read .aToB :=
    fun bytes => (List.append_nil bytes).symm
  cases shape with
  | reading _ _ quiet => exact .inl ⟨quiet.unopened, quiet.confirmed, rfl⟩
  | greeted _ quiet => exact .inl ⟨quiet.unopened, quiet.confirmed, rfl⟩
  | opening _ quiet => exact .inl ⟨quiet.unopened, quiet.confirmed, rfl⟩
  | confirming asked quiet =>
    refine .inr ⟨_, received, .ok (), _, [], asked, none_read _, Copying.faithful_new, rfl, quiet,
      fun _ _ => List.nil_prefix, fun _ h => by cases h⟩
  | copying asked quiet faithful _ =>
    exact .inr ⟨_, _, .ok (), _, _, asked, rfl, faithful, rfl, quiet,
      fun _ _ => List.prefix_refl _, fun _ h => by cases h⟩
  | refusing asked quiet =>
    rename_i e
    refine .inr ⟨_, received, .error e, _, [], asked, none_read _, Copying.faithful_new, rfl, quiet,
      (fun _ h => by cases h), fun _ _ => ⟨rfl, List.nil_prefix, fun _ h => by cases h⟩⟩
  | refused asked quiet =>
    rename_i e
    refine .inr ⟨_, received, .error e, _, _, asked, none_read _, Copying.faithful_new, rfl, quiet,
      (fun _ h => by cases h), ?_⟩
    intro e' same
    cases same
    refine ⟨rfl, List.prefix_refl _, ?_⟩
    intro last here _
    cases here
    exact ⟨rfl, rfl⟩
  | cut asked quiet lost =>
    refine .inr ⟨_, received, _, _, [], asked, none_read _, Copying.faithful_new, rfl, quiet,
      fun _ _ => List.nil_prefix, fun _ _ => ⟨rfl, List.nil_prefix, fun _ _ kept => ?_⟩⟩
    exact absurd lost kept
  | aside _ unopened confirmed => exact .inl ⟨unopened, confirmed, rfl⟩

section Summary
variable {failed : Prop} {phase : Phase} {received : Bytes} {log : List Action} {copying : Copying}
variable {address : SocksAddress} {handshake : Bytes} {result : Except IoError Unit}
variable {before after : List Action}

theorem Tunnel.after_unopened
    (t : Tunnel failed phase received log copying address handshake result before after) :
    Unopened after := by
  have only : ∀ message, after <+: [.wrote message] → Unopened after := by
    intro message pre a mem
    rw [List.mem_singleton.1 (pre.subset mem)]
    rfl
  cases result with
  | ok value => exact only _ (t.ok value rfl)
  | error e => exact only _ (t.error e rfl).2.1

theorem filter_unopened (unopened : Unopened log) : log.filter isOpened = [] :=
  List.filter_eq_nil_iff.2 fun a mem => by simp [unopened a mem]

theorem Tunnel.filter
    (t : Tunnel failed phase received log copying address handshake result before after) :
    log.filter isOpened = [.opened address.toAddress result] := by
  rw [t.log, List.filter_append, filter_unopened t.quiet.unopened,
    List.filter_cons_of_pos (by rfl), filter_unopened t.after_unopened, List.nil_append]

/-- There is no other opening in the log. -/
theorem Tunnel.opened_eq
    (t : Tunnel failed phase received log copying address handshake result before after)
    {other : Address} {outcome : Except IoError Unit} (mem : .opened other outcome ∈ log) :
    other = address.toAddress ∧ outcome = result := by
  have kept : Action.opened other outcome ∈ log.filter isOpened := List.mem_filter.2 ⟨mem, rfl⟩
  rw [t.filter, List.mem_singleton] at kept
  cases kept
  exact ⟨rfl, rfl⟩

/-- Nor is there another way to split the log at its opening. -/
theorem Tunnel.split
    (t : Tunnel failed phase received log copying address handshake result before after)
    {first rest : List Action} {other : Address} {outcome : Except IoError Unit}
    (split : log = first ++ .opened other outcome :: rest) : rest = after := by
  rw [t.log] at split
  rcases List.append_eq_append_iff.1 split with ⟨gap, _, tail⟩ | ⟨gap, whole, tail⟩
  · cases gap with
    | nil => exact (List.cons.inj tail).2.symm
    | cons a gap =>
      have mem : Action.opened other outcome ∈ after := by
        rw [(List.cons.inj tail).2]
        simp
      cases t.after_unopened _ mem
  · cases gap with
    | nil => exact (List.cons.inj tail).2
    | cons a gap =>
      have mem : a ∈ before := by
        rw [whole]
        simp
      have here : a = .opened other outcome := (List.cons.inj tail).1.symm
      have silent := (t.quiet a mem).1
      rw [here] at silent
      cases silent

theorem Tunnel.confirmed
    (t : Tunnel failed phase received log copying address handshake result before after) :
    Confirmed log := by
  have opened : Confirmed (before ++ [.opened address.toAddress result]) :=
    t.quiet.confirmed.append fun h => by cases h
  rw [t.log, List.append_cons]
  have one : ∀ message, after <+: [.wrote message] →
      (isSucceeded (.wrote message) = true → result = .ok ()) →
      Confirmed (before ++ [.opened address.toAddress result] ++ after) := by
    intro message pre allowed
    rcases after with _ | ⟨a, _ | ⟨b, after⟩⟩
    · rwa [List.append_nil]
    · obtain rfl : a = .wrote message := List.mem_singleton.1 (pre.subset (by simp))
      refine opened.append fun succeeded => ?_
      rw [allowed succeeded]
      exact .of_opened _ _
    · have := pre.length_le
      simp at this
  cases result with
  | ok value => exact one _ (t.ok value rfl) fun _ => rfl
  | error e =>
    refine one _ (t.error e rfl).2.1 fun succeeded => ?_
    cases succeeded.symm.trans (failure_not_succeeded e)

end Summary

/-- A session opens one tunnel at most, to the address that a handshake asked for; it reports
success only once the tunnel is open, if it is not an association; it reports a tunnel that did
not open once; and it relays what the client sent after the handshake. -/
theorem connect_session {datagram : Bool} {stream : Bytes} {es : List Event} {s : Session}
    (run : Runs (session datagram stream) es s) :
    (s.log.filter isOpened).length ≤ 1 ∧
    (∀ address result, .opened address result ∈ s.log →
      ∃ handshake, Asks address handshake ∧ handshake <+: stream) ∧
    (∀ before bound after, s.log = before ++ .wrote (.reply .succeeded bound) :: after →
      (∃ address, .opened address (.ok ()) ∈ before) ∨ ∃ relay, .associated relay ∈ before) ∧
    (∀ before address e after, s.log = before ++ .opened address (.error e) :: after →
      after <+: [.wrote (.reply (.fromConnectError e) unspecified)] ∧
      ∀ result, s.phase = .finished result → ¬WriteFailed es →
        after = [.wrote (.reply (.fromConnectError e) unspecified)] ∧ result = .error e) ∧
    (∀ address, .opened address (.ok ()) ∈ s.log → ∃ handshake rest,
      Asks address handshake ∧ stream = handshake ++ rest ∧
      s.received = handshake ++ s.copying.read .aToB ∧ s.copying.written .aToB <+: rest) ∧
    ((∀ address, .opened address (.ok ()) ∉ s.log) → s.copying.written .aToB = []) ∧
    Sends s.log s.sent := by
  obtain ⟨shaped, whole⟩ := session_shaped run
  have sent := session_sends run
  rcases shaped.summary with ⟨unopened, confirmed, fresh⟩ |
    ⟨socks, handshake, outcome, first, last, tunnel⟩
  · refine ⟨?_, ?_, fun before bound after split => confirmed before _ after split rfl, ?_, ?_, ?_,
      sent⟩
    · rw [filter_unopened unopened]
      exact Nat.zero_le 1
    · intro address result mem
      cases unopened _ mem
    · intro before address e after split
      cases unopened (.opened address (.error e)) (by rw [split]; simp)
    · intro address mem
      cases unopened _ mem
    · intro _
      rw [fresh]
      rfl
  · have rest : ∃ rest, stream = handshake ++ s.copying.read .aToB ++ rest := by
      rw [← whole, tunnel.received]
      exact ⟨_, rfl⟩
    obtain ⟨rest, rfl⟩ := rest
    refine ⟨?_, ?_, fun before bound after split => tunnel.confirmed before _ after split rfl, ?_, ?_,
      ?_, sent⟩
    · rw [tunnel.filter]
      exact le_refl 1
    · intro address result mem
      refine ⟨handshake, (tunnel.opened_eq mem).1 ▸ tunnel.asked.asks, ?_⟩
      rw [List.append_assoc]
      exact List.prefix_append _ _
    · intro before address e after split
      have mem : Action.opened address (.error e) ∈ s.log := by
        rw [split]
        simp
      obtain ⟨_, reported, all⟩ := tunnel.error e (tunnel.opened_eq mem).2.symm
      rw [tunnel.split split]
      exact ⟨reported, all⟩
    · intro address mem
      refine ⟨handshake, s.copying.read .aToB ++ rest,
        (tunnel.opened_eq mem).1 ▸ tunnel.asked.asks, List.append_assoc _ _ _, tunnel.received, ?_⟩
      exact (tunnel.faithful .aToB).written_prefix_read.trans (List.prefix_append _ _)
    · intro none'
      cases outcome with
      | ok value => exact absurd (by rw [tunnel.log]; simp) (none' socks.toAddress)
      | error e =>
        rw [(tunnel.error e rfl).1]
        rfl

/-- The request comes in the segment of the greeting, with two bytes for the tunnel behind it. -/
def pipelined : Bytes := [5, 1, 0, 5, 1, 0, 1, 127, 0, 0, 1, 0, 80, 104, 105]

def pipelinedSession : List Event :=
  [.read (.ok [5]), .read (.ok [1]), .read (.ok [0]), .wrote (.ok ()), .read (.ok [5, 1, 0]),
    .read (.ok [1]), .read (.ok [127, 0, 0, 1]), .read (.ok [0, 80]), .opened (.ok ()),
    .wrote (.ok ()), .copied (.start .aToB), .copied (.read .aToB (.ok [104, 105])),
    .copied (.wrote .aToB (.ok 2))]

theorem connect_session_pipelined : ∃ s : Session, s.copying.written .aToB = [104, 105] ∧
    s.sent = [5, 0, 5, 0, 0, 1, 0, 0, 0, 0, 0, 0] ∧
    ∃ handshake rest, Asks (.socketV4 ⟨⟨0x7F000001⟩, 80⟩) handshake ∧
      pipelined = handshake ++ rest ∧ s.copying.written .aToB <+: rest := by
  obtain ⟨s, reached, logged, written, sent⟩ :
      ∃ s, exec (session false pipelined) pipelinedSession = some s ∧
        s.log = [.wrote (.method 0), .opened (.socketV4 ⟨⟨0x7F000001⟩, 80⟩) (.ok ()),
          .wrote (.reply .succeeded unspecified)] ∧ s.copying.written .aToB = [104, 105] ∧
        s.sent = [5, 0, 5, 0, 0, 1, 0, 0, 0, 0, 0, 0] :=
    ⟨_, rfl, rfl, rfl, rfl⟩
  obtain ⟨handshake, rest, asked, split, _, relayed⟩ :=
    (connect_session (runs_of_exec reached)).2.2.2.2.1 (.socketV4 ⟨⟨0x7F000001⟩, 80⟩)
      (by rw [logged]; simp)
  exact ⟨s, written, sent, handshake, rest, asked, split, relayed⟩

end Ombrac.SocksConnect
