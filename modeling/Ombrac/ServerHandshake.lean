import Ombrac.LabelledSystem
import Ombrac.LengthDelimited
import Ombrac.ProtocolMessage

set_option autoImplicit false

/-!
# The server's handling of one connection

`handle` accepts the control stream, reads the hello, verifies it, answers, and only then runs the
tunnel loops; `process_connection` counts the connections that it fails. The peer may do anything
in between: open streams, send on them, finish them, send datagrams. The transport hands streams
over in the order in which they were opened, and each stream's bytes in order, cut anywhere.
-/
namespace Ombrac.ServerHandshake
open LabelledSystem ProtocolPacket ProtocolMessage LengthDelimited

inductive ConnectionAuthError where
  | incompatibleVersion
  | invalidSecret
  | serverError
  | other (message : String)
  deriving DecidableEq, Repr

def ConnectionAuthError.toIoError : ConnectionAuthError → IoError
  | .incompatibleVersion => ⟨.unsupported, "incompatible protocol version"⟩
  | .invalidSecret => ⟨.permissionDenied, "invalid authentication secret"⟩
  | .serverError => ⟨.connectionAborted, "internal server error during auth"⟩
  | .other message => ⟨.other, message⟩

structure Authenticator (α : Type) where
  verify : ClientHello → Except ConnectionAuthError α

def secretAuthenticator (secret : Secret) : Authenticator Unit where
  verify := fun hello => if hello.secret = secret then .ok () else .error .invalidSecret

/-- The message codec, the frame codec, the `datagram` feature and the configuration. -/
structure Server where
  decode : Bytes → Except IoError ClientMessage
  encode : ServerAuthResponse → Except IoError Bytes
  decoder : FrameDecoder maxControlFrameLength
  datagram : Bool
  authTimeoutSecs : ℕ

structure PeerStream where
  sent : Bytes
  finished : Bool
  deriving DecidableEq, Repr

/-- Where `handle` is: it rejects with the error that it will return, and `sendingOk` has `rest` of
the frame still to write. -/
inductive Stage (server : Server) (α : Type) where
  | accepting
  | readingHello (control : ℕ) (framed : Framed server.decoder)
  | rejecting (error : IoError)
  | shuttingDown (error : IoError)
  | verifying (hello : ClientHello)
  | sendingOk (context : α) (rest : Bytes)
  | notifying (context : α)
  | tunnel
  | ended (result : Except IoError Unit)

/-- What the server does on the control stream, beside reading. -/
inductive Action where
  | wrote (bytes : Bytes)
  | slept (delayMs : ℕ)
  | shutDown
  deriving DecidableEq, Repr

def Action.bytes : Action → Bytes
  | .wrote bytes => bytes
  | .slept _ | .shutDown => []

/-- A task of `run_tunnel_loops`. -/
inductive Tunnel where
  | notSpawned | running | finished
  deriving DecidableEq, Repr

/-- `streams` are those of the peer in the order of opening, the first `accepted` of them handed
over; `received` counts the bytes read from the control stream. -/
structure Connection (server : Server) (α : Type) where
  streams : List PeerStream
  datagrams : List Bytes
  accepted : ℕ
  received : ℕ
  stage : Stage server α
  actions : List Action
  streamTunnel : Tunnel
  datagramTunnel : Tunnel
  shutdown : Bool
  forwardedStreams : List ℕ
  forwardedDatagrams : List Bytes
  connectionsAuthFailed : ℕ

inductive PeerEvent where
  | openStream
  | send (i : ℕ) (bytes : Bytes)
  | finish (i : ℕ)
  | sendDatagram (data : Bytes)

inductive HandleEvent where
  | accept (result : Except IoError Unit)
  | read (n : ℕ)
  | readEnd
  | readFail (error : IoError)
  | timeOut
  | verify
  | write (n : ℕ)
  | flush
  | writeFail (error : IoError)
  | sleep (delayMs : ℕ)
  | shutDown
  | accepted
  | join

inductive TunnelEvent where
  | forwardStream
  | forwardDatagram
  | streamsEnd
  | datagramsEnd

inductive Event where
  | peer (e : PeerEvent)
  | handle (e : HandleEvent)
  | tunnel (e : TunnelEvent)

namespace Connection
variable {server : Server} {α : Type}

def new : Connection server α where
  streams := []
  datagrams := []
  accepted := 0
  received := 0
  stage := .accepting
  actions := []
  streamTunnel := .notSpawned
  datagramTunnel := .notSpawned
  shutdown := false
  forwardedStreams := []
  forwardedDatagrams := []
  connectionsAuthFailed := 0

def goto (c : Connection server α) (stage : Stage server α) : Connection server α :=
  { c with stage := stage }

def act (c : Connection server α) (action : Action) : Connection server α :=
  { c with actions := c.actions ++ [action] }

/-- `handle` returns to `process_connection`. -/
def finish (c : Connection server α) (result : Except IoError Unit) : Connection server α :=
  { c with
    stage := .ended result
    connectionsAuthFailed := match result with
      | .ok _ => c.connectionsAuthFailed
      | .error _ => c.connectionsAuthFailed + 1 }

def fail (c : Connection server α) (kind : ErrorKind) (message : String) : Connection server α :=
  c.finish (.error ⟨kind, message⟩)

/-- The bytes of stream `i` that are still to be read. -/
def unread (c : Connection server α) (i : ℕ) : Bytes :=
  match c.streams[i]? with
  | some stream => stream.sent.drop c.received
  | none => []

/-- The checks on a payload before the authenticator's. -/
def greet (c : Connection server α) (payload : Bytes) : Connection server α :=
  match server.decode payload with
  | .error e => c.fail .invalidData ("failed to decode client message: " ++ e.message)
  | .ok (.connect _) => c.goto (.rejecting
      ⟨.invalidData, "authentication failed: invalid message type (expected Hello)"⟩)
  | .ok (.hello hello) =>
    if hello.version ≠ protocolVersion then
      c.goto (.rejecting ⟨.permissionDenied, "incompatible version"⟩)
    else c.goto (.verifying hello)

def readHello (c : Connection server α) (control : ℕ) (framed : Framed server.decoder) (n : ℕ) :
    Connection server α :=
  let c' := { c with received := c.received + n }
  match framed.receive ((c.unread control).take n) with
  | .more state rest => c'.goto (.readingHello control ⟨state, rest⟩)
  | .frame payload _ => c'.greet payload
  | .oversized => c'.fail .invalidData "frame size too big"

def endHello (c : Connection server α) (framed : Framed server.decoder) : Connection server α :=
  if framed.buffer = [] then c.fail .unexpectedEof "stream closed before hello"
  else c.fail .other "bytes remaining on stream"

def verifyHello (authenticator : Authenticator α) (c : Connection server α) (hello : ClientHello) :
    Connection server α :=
  match authenticator.verify hello with
  | .error e => c.finish (.error e.toIoError)
  | .ok context =>
    match server.encode .ok with
    | .error e => c.finish (.error e)
    | .ok payload =>
      if payload.length ≤ maxControlFrameLength then
        c.goto (.sendingOk context (encodeFrame payload))
      else c.fail .invalidInput "frame size too big"

def runTunnelLoops (c : Connection server α) : Connection server α :=
  { c with
    stage := .tunnel
    streamTunnel := .running
    datagramTunnel := if server.datagram then .running else .notSpawned }

end Connection

section System
variable {server : Server} {α : Type}

def peerStep (c : Connection server α) : PeerEvent → Option (Connection server α)
  | .openStream => some { c with streams := c.streams ++ [⟨[], false⟩] }
  | .send i bytes =>
    match c.streams[i]? with
    | some ⟨sent, false⟩ => some { c with streams := c.streams.set i ⟨sent ++ bytes, false⟩ }
    | _ => none
  | .finish i =>
    match c.streams[i]? with
    | some ⟨sent, false⟩ => some { c with streams := c.streams.set i ⟨sent, true⟩ }
    | _ => none
  | .sendDatagram data => some { c with datagrams := c.datagrams ++ [data] }

def handleStep (authenticator : Authenticator α) (c : Connection server α) :
    HandleEvent → Option (Connection server α)
  | .accept result =>
    match c.stage, result with
    | .accepting, .error e =>
      some (c.fail .other ("failed to accept bidirectional stream: " ++ e.message))
    | .accepting, .ok _ =>
      if c.accepted < c.streams.length then
        some ({ c with accepted := c.accepted + 1 }.goto (.readingHello c.accepted .new))
      else none
    | _, _ => none
  | .read n =>
    match c.stage with
    | .readingHello control framed =>
      if 0 < n ∧ n ≤ (c.unread control).length then some (c.readHello control framed n) else none
    | _ => none
  | .readEnd =>
    match c.stage with
    | .readingHello control framed =>
      if c.unread control = [] ∧ (c.streams[control]?).any PeerStream.finished then
        some (c.endHello framed)
      else none
    | _ => none
  | .readFail error =>
    match c.stage with
    | .readingHello _ _ => some (c.finish (.error error))
    | _ => none
  | .timeOut =>
    match c.stage with
    | .readingHello _ _ => some (c.fail .timedOut
        ("authentication timeout: failed to receive hello message within " ++
          toString server.authTimeoutSecs ++ "s"))
    | .verifying _ => some (c.fail .timedOut "timed out")
    | .sendingOk _ _ => some (c.fail .timedOut
        ("authentication timeout: failed to send response within " ++
          toString server.authTimeoutSecs ++ "s"))
    | _ => none
  | .verify =>
    match c.stage with
    | .verifying hello => some (c.verifyHello authenticator hello)
    | _ => none
  | .write n =>
    match c.stage with
    | .sendingOk context rest =>
      if 0 < n ∧ n ≤ rest.length then
        some ((c.act (.wrote (rest.take n))).goto (.sendingOk context (rest.drop n)))
      else none
    | _ => none
  | .flush =>
    match c.stage with
    | .sendingOk context [] => some (c.goto (.notifying context))
    | _ => none
  | .writeFail error =>
    match c.stage with
    | .sendingOk _ _ => some (c.finish (.error error))
    | _ => none
  | .sleep delayMs =>
    match c.stage with
    | .rejecting error =>
      if 100 ≤ delayMs ∧ delayMs ≤ 500 then
        some ((c.act (.slept delayMs)).goto (.shuttingDown error))
      else none
    | _ => none
  | .shutDown =>
    match c.stage with
    | .shuttingDown error => some ((c.act .shutDown).finish (.error error))
    | _ => none
  | .accepted =>
    match c.stage with
    | .notifying _ => some c.runTunnelLoops
    | _ => none
  | .join =>
    match c.stage with
    | .tunnel =>
      if c.streamTunnel = .finished ∨ c.datagramTunnel = .finished then
        some ({ c with shutdown := true }.finish (.ok ()))
      else none
    | _ => none

/-- The two accept loops, which end on a shutdown or on an error of the connection. -/
def tunnelStep (c : Connection server α) : TunnelEvent → Option (Connection server α)
  | .forwardStream =>
    if c.streamTunnel = .running ∧ c.shutdown = false ∧ c.accepted < c.streams.length then
      some { c with
        accepted := c.accepted + 1
        forwardedStreams := c.forwardedStreams ++ [c.accepted] }
    else none
  | .forwardDatagram =>
    match c.datagramTunnel, c.datagrams with
    | .running, data :: rest => some { c with
        datagrams := rest
        forwardedDatagrams := c.forwardedDatagrams ++ [data] }
    | _, _ => none
  | .streamsEnd =>
    if c.streamTunnel = .running then some { c with streamTunnel := .finished } else none
  | .datagramsEnd =>
    if c.datagramTunnel = .running then some { c with datagramTunnel := .finished } else none

def connectionStep (authenticator : Authenticator α) (c : Connection server α) :
    Event → Option (Connection server α)
  | .peer e => peerStep c e
  | .handle e => handleStep authenticator c e
  | .tunnel e => tunnelStep c e

end System

def connectionSystem {α : Type} (server : Server) (authenticator : Authenticator α) :
    System (Connection server α) Event :=
  ⟨.new, connectionStep authenticator⟩

/-! ## The authentication gate -/

section Gate
variable {server : Server} {α : Type}

def Entered (c : Connection server α) : Prop := c.streamTunnel ≠ .notSpawned

def written (c : Connection server α) : Bytes := c.actions.flatMap Action.bytes

def FirstHello (c : Connection server α) (hello : ClientHello) : Prop :=
  ∃ control payload, c.streams[0]? = some control ∧
    firstFrame maxControlFrameLength control.sent = some payload ∧
    server.decode payload = .ok (.hello hello)

def Greeted (authenticator : Authenticator α) (c : Connection server α) : Prop :=
  ∃ hello, FirstHello c hello ∧ hello.version = protocolVersion ∧
    ∃ context, authenticator.verify hello = .ok context

def AnswersOk (server : Server) (bytes : Bytes) : Prop :=
  ∃ payload, server.encode .ok = .ok payload ∧ bytes <+: encodeFrame payload

/-- What `handle` has established where it is. -/
def Knows (authenticator : Authenticator α) (c : Connection server α) : Stage server α → Prop
  | .accepting => ¬ Entered c ∧ c.accepted = 0 ∧ c.received = 0 ∧ written c = []
  | .readingHello i framed => i = 0 ∧ written c = [] ∧ ∃ control, c.streams[0]? = some control ∧
      c.received ≤ control.sent.length ∧ framed.Holds (control.sent.take c.received)
  | .rejecting _ | .shuttingDown _ | .ended (.error _) => True
  | .verifying hello => written c = [] ∧ FirstHello c hello ∧ hello.version = protocolVersion
  | .sendingOk _ rest => Greeted authenticator c ∧ AnswersOk server (written c ++ rest)
  | .notifying _ | .tunnel => Greeted authenticator c
  | .ended (.ok _) => Entered c

def failures : Stage server α → ℕ
  | .ended (.error _) => 1
  | _ => 0

/-- The tunnel loops and the `Ok` frame are for greeted connections only. -/
structure Gated (authenticator : Authenticator α) (c : Connection server α) : Prop where
  gate : Entered c → Greeted authenticator c
  answer : written c ≠ [] → Greeted authenticator c ∧ AnswersOk server (written c)
  closed : ¬ Entered c → c.datagramTunnel = .notSpawned ∧ c.forwardedStreams = [] ∧
    c.forwardedDatagrams = []

structure Invariant (authenticator : Authenticator α) (c : Connection server α) : Prop where
  gated : Gated authenticator c
  knows : Knows authenticator c c.stage
  counted : c.connectionsAuthFailed = failures c.stage

theorem AnswersOk.of_append {bytes rest : Bytes} (h : AnswersOk server (bytes ++ rest)) :
    AnswersOk server bytes := by
  obtain ⟨payload, encoded, whole⟩ := h
  exact ⟨payload, encoded, (List.prefix_append bytes rest).trans whole⟩

theorem invariant_new (authenticator : Authenticator α) :
    Invariant authenticator (.new : Connection server α) := by
  refine ⟨⟨?_, ?_, ?_⟩, ⟨not_not.2 rfl, rfl, rfl, rfl⟩, rfl⟩
  · intro entered
    exact absurd rfl entered
  · intro wrote
    exact absurd rfl wrote
  · intro _
    exact ⟨rfl, rfl, rfl⟩

variable {authenticator : Authenticator α} {c d : Connection server α}

structure SameHandle (c d : Connection server α) : Prop where
  stage : d.stage = c.stage
  actions : d.actions = c.actions
  received : d.received = c.received

theorem peerStep_frame {e : PeerEvent} (h : peerStep c e = some d) : SameHandle c d := by
  cases e with
  | openStream | sendDatagram =>
    obtain rfl := Option.some.inj h
    exact ⟨rfl, rfl, rfl⟩
  | send | finish =>
    simp only [peerStep] at h
    split at h
    · obtain rfl := Option.some.inj h
      exact ⟨rfl, rfl, rfl⟩
    · cases h

theorem tunnelStep_frame {e : TunnelEvent} (h : tunnelStep c e = some d) :
    SameHandle c d ∧ d.streams = c.streams := by
  cases e with
  | forwardStream | streamsEnd | datagramsEnd =>
    simp only [tunnelStep] at h
    split_ifs at h
    obtain rfl := Option.some.inj h
    exact ⟨⟨rfl, rfl, rfl⟩, rfl⟩
  | forwardDatagram =>
    simp only [tunnelStep] at h
    split at h
    · obtain rfl := Option.some.inj h
      exact ⟨⟨rfl, rfl, rfl⟩, rfl⟩
    · cases h

theorem written_act (c : Connection server α) (action : Action) :
    written (c.act action) = written c ++ action.bytes := by
  simp [written, Connection.act]

/-- `handle` goes on. -/
theorem Gated.goto (gated : Gated authenticator c) (running : c.connectionsAuthFailed = 0)
    (stage : Stage server α) (goes_on : failures stage = 0) (knows : Knows authenticator c stage) :
    Invariant authenticator (c.goto stage) := by
  refine ⟨⟨gated.gate, gated.answer, gated.closed⟩, ?_, running.trans goes_on.symm⟩
  cases stage <;> exact knows

/-- `handle` returns an error. -/
theorem Gated.finish (gated : Gated authenticator c) (running : c.connectionsAuthFailed = 0)
    (e : IoError) : Invariant authenticator (c.finish (.error e)) :=
  ⟨⟨gated.gate, gated.answer, gated.closed⟩, trivial, congrArg (· + 1) running⟩

theorem Gated.act_silent (gated : Gated authenticator c) {action : Action}
    (silent : action.bytes = []) : Gated authenticator (c.act action) := by
  refine ⟨gated.gate, fun wrote => ?_, gated.closed⟩
  rw [written_act, silent, List.append_nil] at wrote ⊢
  exact gated.answer wrote

theorem greet_invariant (gated : Gated authenticator c) (running : c.connectionsAuthFailed = 0)
    (silent : written c = []) {control : PeerStream} {payload : Bytes}
    (first : c.streams[0]? = some control)
    (framed : firstFrame maxControlFrameLength control.sent = some payload) :
    Invariant authenticator (c.greet payload) := by
  unfold Connection.greet
  split
  · exact gated.finish running _
  · exact gated.goto running _ rfl trivial
  · rename_i hello decoded
    split_ifs with version
    · exact gated.goto running _ rfl trivial
    · refine gated.goto running _ rfl ⟨silent, ⟨control, payload, first, framed, decoded⟩, ?_⟩
      exact not_not.1 version

/-- The codec loses nothing of the control stream, so its first frame is the stream's. -/
theorem readHello_invariant (inv : Invariant authenticator c) {i n : ℕ}
    {framed : Framed server.decoder} (reading : c.stage = .readingHello i framed)
    (available : n ≤ (c.unread i).length) : Invariant authenticator (c.readHello i framed n) := by
  have knows := inv.knows
  have running := inv.counted
  rw [reading] at knows running
  obtain ⟨rfl, silent, control, first, within, holds⟩ := knows
  have gated : Gated authenticator { c with received := c.received + n } :=
    ⟨inv.gated.gate, inv.gated.answer, inv.gated.closed⟩
  have unread : c.unread 0 = control.sent.drop c.received := by simp [Connection.unread, first]
  have grown : control.sent.take c.received ++ (control.sent.drop c.received).take n =
      control.sent.take (c.received + n) := List.take_add.symm
  rw [unread, List.length_drop] at available
  unfold Connection.readHello
  rw [unread]
  dsimp only
  split
  · rename_i state rest decoded
    have next := holds.more decoded
    rw [grown] at next
    refine gated.goto running _ rfl ⟨rfl, silent, control, first, ?_, next⟩
    change c.received + n ≤ control.sent.length
    omega
  · rename_i payload rest decoded
    have frame := holds.frame maxControlFrameLength_small decoded
    rw [grown] at frame
    have whole := firstFrame_append maxControlFrameLength_small frame
      (control.sent.drop (c.received + n))
    rw [List.take_append_drop] at whole
    exact greet_invariant gated running silent first whole
  · exact gated.finish running _

theorem verifyHello_invariant (inv : Invariant authenticator c) {hello : ClientHello}
    (verifying : c.stage = .verifying hello) :
    Invariant authenticator (c.verifyHello authenticator hello) := by
  have knows := inv.knows
  have running := inv.counted
  rw [verifying] at knows running
  obtain ⟨silent, first, version⟩ := knows
  unfold Connection.verifyHello
  split
  · exact inv.gated.finish running _
  · rename_i context verified
    split
    · exact inv.gated.finish running _
    · rename_i payload encoded
      split_ifs
      · refine inv.gated.goto running _ rfl ⟨⟨hello, first, version, context, verified⟩, ?_⟩
        rw [silent]
        exact ⟨payload, encoded, List.prefix_rfl⟩
      · exact inv.gated.finish running _

theorem write_invariant (inv : Invariant authenticator c) {context : α} {rest : Bytes} (n : ℕ)
    (sending : c.stage = .sendingOk context rest) :
    Invariant authenticator
      ((c.act (.wrote (rest.take n))).goto (.sendingOk context (rest.drop n))) := by
  have knows := inv.knows
  have running := inv.counted
  rw [sending] at knows running
  obtain ⟨greeted, answers⟩ := knows
  have whole : AnswersOk server (written (c.act (.wrote (rest.take n))) ++ rest.drop n) := by
    rw [written_act, List.append_assoc]
    change AnswersOk server (written c ++ (rest.take n ++ rest.drop n))
    rw [List.take_append_drop]
    exact answers
  have gated : Gated authenticator (c.act (.wrote (rest.take n))) :=
    ⟨inv.gated.gate, fun _ => ⟨greeted, whole.of_append⟩, inv.gated.closed⟩
  exact gated.goto running _ rfl ⟨greeted, whole⟩

/-- The first stream that the peer opens is the control stream. -/
theorem accept_invariant (inv : Invariant authenticator c) (accepting : c.stage = .accepting)
    (opened : c.accepted < c.streams.length) :
    Invariant authenticator
      ({ c with accepted := c.accepted + 1 }.goto (.readingHello c.accepted .new)) := by
  have knows := inv.knows
  have counted := inv.counted
  rw [accepting] at knows counted
  obtain ⟨_, accepted, received, silent⟩ := knows
  have gated : Gated authenticator { c with accepted := c.accepted + 1 } :=
    ⟨inv.gated.gate, inv.gated.answer, inv.gated.closed⟩
  obtain ⟨control, first⟩ : ∃ control, c.streams[0]? = some control :=
    ⟨_, List.getElem?_eq_getElem (accepted ▸ opened)⟩
  refine gated.goto counted _ rfl ⟨accepted, silent, control, first, ?_, ?_⟩
  · change c.received ≤ control.sent.length
    omega
  · change Framed.new.Holds (control.sent.take c.received)
    rw [received, List.take_zero]
    exact Framed.holds_new

inductive Handled (authenticator : Authenticator α) (c : Connection server α) :
    HandleEvent → Connection server α → Prop
  | failed {e : HandleEvent} (goes_on : failures c.stage = 0) (error : IoError) :
      Handled authenticator c e (c.finish (.error error))
  | opened {result : Unit} (accepting : c.stage = .accepting)
      (opened : c.accepted < c.streams.length) :
      Handled authenticator c (.accept (.ok result))
        ({ c with accepted := c.accepted + 1 }.goto (.readingHello c.accepted .new))
  | read {n control : ℕ} {framed : Framed server.decoder}
      (reading : c.stage = .readingHello control framed) (some_bytes : 0 < n)
      (available : n ≤ (c.unread control).length) :
      Handled authenticator c (.read n) (c.readHello control framed n)
  | verified {hello : ClientHello} (verifying : c.stage = .verifying hello) :
      Handled authenticator c .verify (c.verifyHello authenticator hello)
  | wrote {n : ℕ} {context : α} {rest : Bytes} (sending : c.stage = .sendingOk context rest)
      (some_bytes : 0 < n) (available : n ≤ rest.length) :
      Handled authenticator c (.write n)
        ((c.act (.wrote (rest.take n))).goto (.sendingOk context (rest.drop n)))
  | flushed {context : α} (sending : c.stage = .sendingOk context []) :
      Handled authenticator c .flush (c.goto (.notifying context))
  | slept {delayMs : ℕ} {error : IoError} (rejecting : c.stage = .rejecting error)
      (low : 100 ≤ delayMs) (high : delayMs ≤ 500) :
      Handled authenticator c (.sleep delayMs)
        ((c.act (.slept delayMs)).goto (.shuttingDown error))
  | shutDown {error : IoError} (shutting : c.stage = .shuttingDown error) :
      Handled authenticator c .shutDown ((c.act .shutDown).finish (.error error))
  | entered {context : α} (notifying : c.stage = .notifying context) :
      Handled authenticator c .accepted c.runTunnelLoops
  | joined (tunnel : c.stage = .tunnel)
      (finished : c.streamTunnel = .finished ∨ c.datagramTunnel = .finished) :
      Handled authenticator c .join ({ c with shutdown := true }.finish (.ok ()))

/-- A failure at this stage. -/
theorem handled_failed {e : HandleEvent} {stage : Stage server α} (here : c.stage = stage)
    (goes_on : failures stage = 0) {error : IoError}
    (h : some (c.finish (.error error)) = some d) : Handled authenticator c e d := by
  obtain rfl := Option.some.inj h
  subst here
  exact .failed goes_on error

section Arms

-- The equations are made once for all the arms.
attribute [local simp] handleStep

theorem accept_handled {result : Except IoError Unit}
    (h : handleStep authenticator c (.accept result) = some d) :
    Handled authenticator c (.accept result) d := by
  simp only [handleStep] at h
  split at h
  · rename_i accepting
    exact handled_failed accepting rfl h
  · rename_i accepting
    split_ifs at h with opened
    obtain rfl := Option.some.inj h
    exact .opened accepting opened
  · cases h

theorem read_handled {n : ℕ} (h : handleStep authenticator c (.read n) = some d) :
    Handled authenticator c (.read n) d := by
  simp only [handleStep] at h
  split at h
  · rename_i control framed reading
    split_ifs at h with available
    obtain rfl := Option.some.inj h
    exact .read reading available.1 available.2
  · cases h

theorem readEnd_handled (h : handleStep authenticator c .readEnd = some d) :
    Handled authenticator c .readEnd d := by
  simp only [handleStep] at h
  split at h
  · rename_i control framed reading
    split_ifs at h
    unfold Connection.endHello at h
    split_ifs at h
    · exact handled_failed reading rfl h
    · exact handled_failed reading rfl h
  · cases h

theorem timeOut_handled (h : handleStep authenticator c .timeOut = some d) :
    Handled authenticator c .timeOut d := by
  simp only [handleStep] at h
  split at h
  · rename_i reading
    exact handled_failed reading rfl h
  · rename_i verifying
    exact handled_failed verifying rfl h
  · rename_i sending
    exact handled_failed sending rfl h
  · cases h

theorem write_handled {n : ℕ} (h : handleStep authenticator c (.write n) = some d) :
    Handled authenticator c (.write n) d := by
  simp only [handleStep] at h
  split at h
  · rename_i context rest sending
    split_ifs at h with available
    obtain rfl := Option.some.inj h
    exact .wrote sending available.1 available.2
  · cases h

theorem sleep_handled {delayMs : ℕ} (h : handleStep authenticator c (.sleep delayMs) = some d) :
    Handled authenticator c (.sleep delayMs) d := by
  simp only [handleStep] at h
  split at h
  · rename_i error rejecting
    split_ifs at h with range
    obtain rfl := Option.some.inj h
    exact .slept rejecting range.1 range.2
  · cases h

theorem join_handled (h : handleStep authenticator c .join = some d) :
    Handled authenticator c .join d := by
  simp only [handleStep] at h
  split at h
  · rename_i tunnel
    split_ifs at h with finished
    obtain rfl := Option.some.inj h
    exact .joined tunnel finished
  · cases h

theorem handleStep_handled {e : HandleEvent} (h : handleStep authenticator c e = some d) :
    Handled authenticator c e d := by
  cases e with
  | accept result => exact accept_handled h
  | read n => exact read_handled h
  | readEnd => exact readEnd_handled h
  | timeOut => exact timeOut_handled h
  | write n => exact write_handled h
  | sleep delayMs => exact sleep_handled h
  | join => exact join_handled h
  | readFail error | writeFail error =>
    simp only [handleStep] at h
    split at h
    · rename_i here
      exact handled_failed here rfl h
    · cases h
  | verify =>
    simp only [handleStep] at h
    split at h
    · rename_i hello verifying
      obtain rfl := Option.some.inj h
      exact .verified verifying
    · cases h
  | flush =>
    simp only [handleStep] at h
    split at h
    · rename_i context sending
      obtain rfl := Option.some.inj h
      exact .flushed sending
    · cases h
  | shutDown =>
    simp only [handleStep] at h
    split at h
    · rename_i error shutting
      obtain rfl := Option.some.inj h
      exact .shutDown shutting
    · cases h
  | accepted =>
    simp only [handleStep] at h
    split at h
    · rename_i context notifying
      obtain rfl := Option.some.inj h
      exact .entered notifying
    · cases h

end Arms

theorem handleStep_invariant (inv : Invariant authenticator c) {e : HandleEvent}
    (h : handleStep authenticator c e = some d) : Invariant authenticator d := by
  have knows := inv.knows
  have counted := inv.counted
  cases handleStep_handled h with
  | failed goes_on error => exact inv.gated.finish (counted.trans goes_on) error
  | opened accepting opened => exact accept_invariant inv accepting opened
  | read reading _ available => exact readHello_invariant inv reading available
  | verified verifying => exact verifyHello_invariant inv verifying
  | wrote sending _ _ => exact write_invariant inv _ sending
  | flushed sending =>
    rw [sending] at knows counted
    exact inv.gated.goto counted _ rfl knows.1
  | slept rejecting _ _ =>
    rw [rejecting] at counted
    exact (inv.gated.act_silent rfl).goto counted _ rfl trivial
  | shutDown shutting =>
    rw [shutting] at counted
    exact (inv.gated.act_silent rfl).finish counted _
  | entered notifying =>
    rw [notifying] at knows counted
    refine ⟨⟨fun _ => knows, inv.gated.answer, ?_⟩, knows, counted⟩
    intro outside
    exact absurd nofun outside
  | joined tunnel finished =>
    rw [tunnel] at counted
    refine ⟨⟨inv.gated.gate, inv.gated.answer, inv.gated.closed⟩, ?_, counted⟩
    change c.streamTunnel ≠ .notSpawned
    rcases finished with finished | finished
    · rw [finished]
      nofun
    · intro outside
      have none_spawned := (inv.gated.closed (not_not.2 outside)).1
      cases none_spawned.symm.trans finished

/-- The tunnel loops run. -/
theorem Invariant.loop (inv : Invariant authenticator c) (entered : Entered c)
    {streamTunnel : Tunnel} (spawned : streamTunnel ≠ .notSpawned) (datagramTunnel : Tunnel)
    (accepted : ℕ) (datagrams : List Bytes) (forwardedStreams : List ℕ)
    (forwardedDatagrams : List Bytes) : Invariant authenticator { c with
      streamTunnel := streamTunnel
      datagramTunnel := datagramTunnel
      accepted := accepted
      datagrams := datagrams
      forwardedStreams := forwardedStreams
      forwardedDatagrams := forwardedDatagrams } := by
  have knows := inv.knows
  refine ⟨⟨fun _ => inv.gated.gate entered, inv.gated.answer, fun outside => ?_⟩, ?_, inv.counted⟩
  · exact absurd spawned outside
  · change Knows _ _ c.stage
    cases stage : c.stage with
    | accepting =>
      rw [stage] at knows
      exact absurd entered knows.1
    | ended result =>
      cases result with
      | ok _ => exact spawned
      | error _ => trivial
    | _ =>
      rw [stage] at knows
      exact knows

theorem tunnelStep_invariant (inv : Invariant authenticator c) {e : TunnelEvent}
    (h : tunnelStep c e = some d) : Invariant authenticator d := by
  have spawned : c.streamTunnel = .running → Entered c := by
    intro running outside
    cases running.symm.trans outside
  have datagrams : c.datagramTunnel = .running → Entered c := by
    intro running outside
    have closed := (inv.gated.closed (not_not.2 outside)).1
    cases closed.symm.trans running
  cases e with
  | forwardStream =>
    simp only [tunnelStep] at h
    split_ifs at h with enabled
    obtain rfl := Option.some.inj h
    have entered := spawned enabled.1
    exact inv.loop entered entered _ _ _ _ _
  | forwardDatagram =>
    simp only [tunnelStep] at h
    split at h
    · rename_i running _
      obtain rfl := Option.some.inj h
      have entered := datagrams running
      exact inv.loop entered entered _ _ _ _ _
    · cases h
  | streamsEnd =>
    simp only [tunnelStep] at h
    split_ifs at h with running
    obtain rfl := Option.some.inj h
    have ended : Tunnel.finished ≠ .notSpawned := nofun
    exact inv.loop (spawned running) ended _ _ _ _ _
  | datagramsEnd =>
    simp only [tunnelStep] at h
    split_ifs at h with running
    obtain rfl := Option.some.inj h
    have entered := datagrams running
    exact inv.loop entered entered _ _ _ _ _

/-! ## The peer can only add to its streams -/

def Grown (before after : List PeerStream) : Prop :=
  ∀ control, before[0]? = some control →
    ∃ control', after[0]? = some control' ∧ control.sent <+: control'.sent

theorem FirstHello.grow {hello : ClientHello} (h : FirstHello c hello) {streams : List PeerStream}
    (grown : Grown c.streams streams) (datagrams : List Bytes) :
    FirstHello { c with streams := streams, datagrams := datagrams } hello := by
  obtain ⟨control, payload, first, framed, decoded⟩ := h
  obtain ⟨control', first', more, extended⟩ := grown control first
  refine ⟨control', payload, first', ?_, decoded⟩
  rw [← extended]
  exact firstFrame_append maxControlFrameLength_small framed more

theorem Greeted.grow (h : Greeted authenticator c) {streams : List PeerStream}
    (grown : Grown c.streams streams) (datagrams : List Bytes) :
    Greeted authenticator { c with streams := streams, datagrams := datagrams } := by
  obtain ⟨hello, first, verified⟩ := h
  exact ⟨hello, first.grow grown datagrams, verified⟩

theorem Invariant.grow (inv : Invariant authenticator c) {streams : List PeerStream}
    (grown : Grown c.streams streams) (datagrams : List Bytes) :
    Invariant authenticator { c with streams := streams, datagrams := datagrams } := by
  have knows := inv.knows
  refine ⟨⟨fun entered => (inv.gated.gate entered).grow grown datagrams, fun wrote => ?_,
    inv.gated.closed⟩, ?_, inv.counted⟩
  · obtain ⟨greeted, answers⟩ := inv.gated.answer wrote
    exact ⟨greeted.grow grown datagrams, answers⟩
  · change Knows _ _ c.stage
    cases stage : c.stage with
    | readingHello i framed =>
      rw [stage] at knows
      obtain ⟨rfl, silent, control, first, within, holds⟩ := knows
      obtain ⟨control', first', more, extended⟩ := grown control first
      refine ⟨rfl, silent, control', first', ?_, ?_⟩
      · rw [← extended, List.length_append]
        exact within.trans (Nat.le_add_right ..)
      · rw [← extended, List.take_append_of_le_length within]
        exact holds
    | verifying hello =>
      rw [stage] at knows
      exact ⟨knows.1, knows.2.1.grow grown datagrams, knows.2.2⟩
    | sendingOk context rest =>
      rw [stage] at knows
      exact ⟨knows.1.grow grown datagrams, knows.2⟩
    | notifying context =>
      rw [stage] at knows
      exact knows.grow grown datagrams
    | tunnel =>
      rw [stage] at knows
      exact knows.grow grown datagrams
    | ended result =>
      rw [stage] at knows
      cases result <;> exact knows
    | _ =>
      rw [stage] at knows
      exact knows

theorem grown_set {streams : List PeerStream} {i : ℕ} {stream stream' : PeerStream}
    (there : streams[i]? = some stream) (more : stream.sent <+: stream'.sent) :
    Grown streams (streams.set i stream') := by
  intro control first
  rw [List.getElem?_set]
  split_ifs with same bound
  · subst same
    obtain rfl := Option.some.inj (there.symm.trans first)
    exact ⟨stream', rfl, more⟩
  · subst same
    rw [List.getElem?_eq_none (by omega)] at first
    cases first
  · exact ⟨control, first, List.prefix_rfl⟩

theorem peerStep_invariant (inv : Invariant authenticator c) {e : PeerEvent}
    (h : peerStep c e = some d) : Invariant authenticator d := by
  have still : Grown c.streams c.streams := fun control first => ⟨control, first, List.prefix_rfl⟩
  cases e with
  | openStream =>
    obtain rfl := Option.some.inj h
    refine inv.grow ?_ _
    intro control first
    refine ⟨control, ?_, List.prefix_rfl⟩
    rw [List.getElem?_append_left (List.getElem?_eq_some_iff.1 first).1]
    exact first
  | send i bytes =>
    simp only [peerStep] at h
    split at h
    · rename_i sent there
      obtain rfl := Option.some.inj h
      exact inv.grow (grown_set there (List.prefix_append sent bytes)) _
    · cases h
  | finish i =>
    simp only [peerStep] at h
    split at h
    · rename_i sent there
      obtain rfl := Option.some.inj h
      refine inv.grow (grown_set there ?_) _
      exact List.prefix_rfl
    · cases h
  | sendDatagram data =>
    obtain rfl := Option.some.inj h
    exact inv.grow still _

theorem connectionStep_invariant (inv : Invariant authenticator c) {e : Event}
    (h : connectionStep authenticator c e = some d) : Invariant authenticator d := by
  cases e with
  | peer e => exact peerStep_invariant inv h
  | handle e => exact handleStep_invariant inv h
  | tunnel e => exact tunnelStep_invariant inv h

theorem connection_invariant {es : List Event}
    (run : Runs (connectionSystem server authenticator) es c) : Invariant authenticator c :=
  run.invariant (invariant_new authenticator) fun _ _ _ inv step =>
    connectionStep_invariant inv step

end Gate

/-- The first frame of the peer's first stream is a hello of this protocol version with the
server's secret. -/
def Authentic {server : Server} (secret : Secret) (c : Connection server Unit) : Prop :=
  ∃ hello, FirstHello c hello ∧ hello.version = protocolVersion ∧ hello.secret = secret

theorem authentic_of_greeted {server : Server} {secret : Secret} {c : Connection server Unit}
    (greeted : Greeted (secretAuthenticator secret) c) : Authentic secret c := by
  obtain ⟨hello, first, version, context, verified⟩ := greeted
  refine ⟨hello, first, version, ?_⟩
  by_contra other
  simp only [secretAuthenticator, if_neg other] at verified
  cases verified

/-- Whatever the peer does, the tunnel loops run and any byte of the `Ok` frame is written only
after an authentic hello. A connection whose tunnel loops have not been entered forwards nothing,
and if `handle` has returned, then an error, counted once. -/
theorem authentication_gate {server : Server} {secret : Secret} {es : List Event}
    {c : Connection server Unit}
    (run : Runs (connectionSystem server (secretAuthenticator secret)) es c) :
    (Entered c → Authentic secret c) ∧
      (written c ≠ [] → Authentic secret c ∧ AnswersOk server (written c)) ∧
      (¬ Entered c → c.forwardedStreams = [] ∧ c.forwardedDatagrams = [] ∧
        ∀ result, c.stage = .ended result →
          (∃ e, result = .error e) ∧ c.connectionsAuthFailed = 1) := by
  have inv := connection_invariant run
  refine ⟨fun entered => authentic_of_greeted (inv.gated.gate entered), ?_, ?_⟩
  · intro wrote
    obtain ⟨greeted, answers⟩ := inv.gated.answer wrote
    exact ⟨authentic_of_greeted greeted, answers⟩
  · intro outside
    obtain ⟨_, streams, datagrams⟩ := inv.gated.closed outside
    refine ⟨streams, datagrams, fun result ended => ?_⟩
    have knows := inv.knows
    have counted := inv.counted
    rw [ended] at knows counted
    cases result with
    | ok _ => exact absurd knows outside
    | error e => exact ⟨⟨e, rfl⟩, counted⟩

section Admission

def encodeHello (version : UInt8) (secret : Secret) : Bytes := 0 :: version :: secret.val ++ [0]

def decodeHello : Bytes → Except IoError ClientMessage
  | 0 :: version :: body =>
    if h : (body.take 32).length = 32 ∧ body.drop 32 = [0] then
      .ok (.hello ⟨version, ⟨body.take 32, h.1⟩, []⟩)
    else .error ⟨.invalidData, "decode error"⟩
  | _ => .error ⟨.invalidData, "decode error"⟩

def encodeResponse : ServerAuthResponse → Except IoError Bytes
  | .ok => .ok [0]
  | .err => .ok [1]

def helloServer : Server where
  decode := decodeHello
  encode := encodeResponse
  decoder := prefixFirst maxControlFrameLength_small
  datagram := true
  authTimeoutSecs := 10

def sevens : Secret := ⟨List.replicate 32 7, rfl⟩

def admission : List Event :=
  [.peer .openStream, .peer (.send 0 (encodeFrame (encodeHello 1 sevens))),
    .handle (.accept (.ok ())), .handle (.read 3), .handle (.read 36), .handle .verify,
    .handle (.write 5), .handle .flush, .handle .accepted, .peer .openStream,
    .tunnel .forwardStream]

theorem authentication_gate_admission :
    ∃ c, Runs (connectionSystem helloServer (secretAuthenticator sevens)) admission c ∧
      c.forwardedStreams = [1] ∧ written c = encodeFrame [0] ∧ Authentic sevens c := by
  have run : exec (connectionSystem helloServer (secretAuthenticator sevens)) admission =
    some _ := rfl
  exact ⟨_, runs_of_exec run, rfl, rfl, (authentication_gate (runs_of_exec run)).1 nofun⟩

end Admission
end Ombrac.ServerHandshake
