import Ombrac.ProtocolCodec
import Ombrac.ServerHandshake

set_option autoImplicit false

/-!
# Authentication, client against server

`authenticate` runs against the server's `handle` over the control stream. The transport keeps the
bytes of each direction in order and cuts them anywhere; reads and writes may fail and timers may
fire on either side at any moment. Once it is authenticated, the client uses the connection as it
likes.
-/
namespace Ombrac.Authentication
open LabelledSystem ProtocolPacket ProtocolMessage ProtocolCodec BinaryFormat LengthDelimited
  ServerHandshake

/-- The server's configuration, and the client's secret and options. Both sides frame with
`length_codec`. -/
structure Setup where
  display : Fault → String
  decoder : FrameDecoder maxControlFrameLength
  datagram : Bool
  authTimeoutSecs : ℕ
  secret : Secret
  options : Bytes

namespace Setup

def server (setup : Setup) : Server where
  decode := decode setup.display
  encode := encode setup.display
  decoder := setup.decoder
  datagram := setup.datagram
  authTimeoutSecs := setup.authTimeoutSecs

def hello (setup : Setup) : ClientHello := ⟨protocolVersion, setup.secret, setup.options⟩

end Setup

/-- Where `authenticate` is; `sending` has `rest` of the hello's frame still to write. -/
inductive ClientStage (setup : Setup) where
  | connecting
  | opening
  | sending (rest : Bytes)
  | awaiting (framed : Framed setup.decoder)
  | shuttingDown
  | returned (result : Except IoError Unit)

section Client
variable {setup : Setup}

def failed (error : IoError) : ClientStage setup := .returned (.error error)

def hasReturned (stage : ClientStage setup) : Bool :=
  match stage with
  | .returned _ => true
  | _ => false

def sendHello (setup : Setup) : ClientStage setup :=
  match encode setup.display (ClientMessage.hello setup.hello) with
  | .error e => failed e
  | .ok payload =>
    if payload.length ≤ maxControlFrameLength then .sending (encodeFrame payload)
    else failed ⟨.invalidInput, "frame size too big"⟩

def receiveAnswer (setup : Setup) (payload : Bytes) : ClientStage setup :=
  match (decode setup.display payload : Except IoError ServerAuthResponse) with
  | .error e => failed e
  | .ok .ok => .shuttingDown
  | .ok .err => failed ⟨.other, "authentication failed"⟩

def readAnswer (framed : Framed setup.decoder) (bytes : Bytes) : ClientStage setup :=
  match framed.receive bytes with
  | .more state rest => .awaiting ⟨state, rest⟩
  | .frame payload _ => receiveAnswer setup payload
  | .oversized => failed ⟨.invalidData, "frame size too big"⟩

def endError (framed : Framed setup.decoder) : IoError :=
  if framed.buffer = [] then
    ⟨.unexpectedEof, "connection closed by server during authentication"⟩
  else ⟨.other, "bytes remaining on stream"⟩

end Client

/-- `clientRead` counts the bytes of the answer that the client has read. -/
structure Handshake (setup : Setup) (α : Type) where
  client : ClientStage setup
  clientRead : ℕ
  server : Connection setup.server α

inductive Event where
  | connected (result : Except IoError Unit)
  | opened (result : Except IoError Unit)
  | wrote (result : Except IoError ℕ)
  | flushed (result : Except IoError Unit)
  | read (n : ℕ)
  | readEnd
  | readFailed (error : IoError)
  | shutDown (result : Except IoError Unit)
  | timeOut
  | use (e : PeerEvent)
  | handle (e : HandleEvent)
  | tunnel (e : TunnelEvent)

section System
variable {setup : Setup} {α : Type}

/-- `perform_authentication` has returned and dropped the control stream. -/
def hasClosed {server : Server} (c : Connection server α) : Bool :=
  match c.stage with
  | .notifying _ | .tunnel | .ended _ => true
  | .accepting | .readingHello _ _ | .rejecting _ | .shuttingDown _ | .verifying _
  | .sendingOk _ _ => false

namespace Handshake

def new : Handshake setup α := ⟨.connecting, 0, .new⟩

def goto (t : Handshake setup α) (stage : ClientStage setup) : Handshake setup α :=
  { t with client := stage }

def withServer (t : Handshake setup α) (server : Connection setup.server α) : Handshake setup α :=
  { t with server := server }

def unread (t : Handshake setup α) : Bytes := (written t.server).drop t.clientRead

def peer (t : Handshake setup α) (e : PeerEvent) (stage : ClientStage setup) :
    Option (Handshake setup α) :=
  (peerStep t.server e).map fun server => (t.withServer server).goto stage

end Handshake

def handshakeStep (authenticator : Authenticator α) (t : Handshake setup α) :
    Event → Option (Handshake setup α)
  | .connected result =>
    match t.client, result with
    | .connecting, .ok _ => some (t.goto .opening)
    | .connecting, .error e => some (t.goto (failed e))
    | _, _ => none
  | .opened result =>
    match t.client, result with
    | .opening, .ok _ => t.peer .openStream (sendHello setup)
    | .opening, .error e => some (t.goto (failed e))
    | _, _ => none
  | .wrote result =>
    match t.client, result with
    | .sending (_ :: _), .error e => some (t.goto (failed e))
    | .sending (_ :: _), .ok 0 =>
      some (t.goto (failed ⟨.writeZero, "failed to write frame to transport"⟩))
    | .sending rest, .ok (n + 1) =>
      if n < rest.length then
        t.peer (.send 0 (rest.take (n + 1))) (.sending (rest.drop (n + 1)))
      else none
    | _, _ => none
  | .flushed result =>
    match t.client, result with
    | .sending [], .ok _ => some (t.goto (.awaiting .new))
    | .sending [], .error e => some (t.goto (failed e))
    | _, _ => none
  | .read n =>
    match t.client with
    | .awaiting framed =>
      if 0 < n ∧ n ≤ t.unread.length then
        some ({ t with clientRead := t.clientRead + n }.goto (readAnswer framed (t.unread.take n)))
      else none
    | _ => none
  | .readEnd =>
    match t.client with
    | .awaiting framed =>
      if t.unread = [] ∧ hasClosed t.server = true then some (t.goto (failed (endError framed)))
      else none
    | _ => none
  | .readFailed error =>
    match t.client with
    | .awaiting _ => some (t.goto (failed error))
    | _ => none
  | .shutDown result =>
    match t.client, result with
    | .shuttingDown, .ok _ => t.peer (.finish 0) (.returned (.ok ()))
    | .shuttingDown, .error e => some (t.goto (failed e))
    | _, _ => none
  | .timeOut =>
    if hasReturned t.client = true then none
    else some (t.goto (failed ⟨.timedOut, "client authentication timed out after 10s"⟩))
  | .use e =>
    match t.client with
    | .returned (.ok _) => t.peer e t.client
    | _ => none
  | .handle e => (handleStep authenticator t.server e).map t.withServer
  | .tunnel e => (tunnelStep t.server e).map t.withServer

end System

def handshakeSystem {α : Type} (setup : Setup) (authenticator : Authenticator α) :
    System (Handshake setup α) Event :=
  ⟨.new, handshakeStep authenticator⟩

/-- Nothing fails and no timer fires. -/
def Smooth : Event → Prop
  | .connected (.ok _) | .opened (.ok _) | .flushed (.ok _) | .shutDown (.ok _) => True
  | .wrote (.ok n) => 0 < n
  | .read _ | .readEnd => True
  | .handle (.accept (.ok _)) | .handle (.read _) | .handle .verify | .handle (.write _)
  | .handle .flush | .handle (.sleep _) | .handle .shutDown | .handle .accepted => True
  | _ => False

/-! ## Steps -/

section Steps
variable {setup : Setup} {α : Type} {authenticator : Authenticator α} {t u : Handshake setup α}

/-- What a step does; a failure leaves the server to find out. -/
inductive Moved (authenticator : Authenticator α) (t : Handshake setup α) :
    Event → Handshake setup α → Prop
  | failed {e : Event} (waiting : hasReturned t.client = false) (rough : ¬ Smooth e)
      (error : IoError) : Moved authenticator t e (t.goto (failed error))
  | ended {framed : Framed setup.decoder} (awaiting : t.client = .awaiting framed)
      (all : t.unread = []) (closed : hasClosed t.server = true) :
      Moved authenticator t .readEnd (t.goto (failed (endError framed)))
  | connected (connecting : t.client = .connecting) :
      Moved authenticator t (.connected (.ok ())) (t.goto .opening)
  | opened (opening : t.client = .opening) :
      Moved authenticator t (.opened (.ok ()))
        ((t.withServer { t.server with streams := t.server.streams ++ [⟨[], false⟩] }).goto
          (sendHello setup))
  | wrote {n : ℕ} {rest sent : Bytes} (sending : t.client = .sending rest)
      (some_bytes : 0 < n) (within : n ≤ rest.length)
      (there : t.server.streams[0]? = some ⟨sent, false⟩) :
      Moved authenticator t (.wrote (.ok n))
        ((t.withServer { t.server with
            streams := t.server.streams.set 0 ⟨sent ++ rest.take n, false⟩ }).goto
          (.sending (rest.drop n)))
  | flushed (sending : t.client = .sending []) :
      Moved authenticator t (.flushed (.ok ())) (t.goto (.awaiting .new))
  | read {n : ℕ} {framed : Framed setup.decoder} (awaiting : t.client = .awaiting framed)
      (some_bytes : 0 < n) (within : n ≤ t.unread.length) :
      Moved authenticator t (.read n)
        ({ t with clientRead := t.clientRead + n }.goto (readAnswer framed (t.unread.take n)))
  | shutDown {sent : Bytes} (shutting : t.client = .shuttingDown)
      (there : t.server.streams[0]? = some ⟨sent, false⟩) :
      Moved authenticator t (.shutDown (.ok ()))
        ((t.withServer { t.server with streams := t.server.streams.set 0 ⟨sent, true⟩ }).goto
          (.returned (.ok ())))
  | used {e : PeerEvent} {server : Connection setup.server α}
      (authenticated : t.client = .returned (.ok ())) (step : peerStep t.server e = some server) :
      Moved authenticator t (.use e) (t.withServer server)
  | handled {e : HandleEvent} {server : Connection setup.server α}
      (step : handleStep authenticator t.server e = some server) :
      Moved authenticator t (.handle e) (t.withServer server)
  | tunnelled {e : TunnelEvent} {server : Connection setup.server α}
      (step : tunnelStep t.server e = some server) :
      Moved authenticator t (.tunnel e) (t.withServer server)

/-- A failure at this stage. -/
theorem moved_failed {e : Event} {stage : ClientStage setup} (here : t.client = stage)
    (waiting : hasReturned stage = false) (rough : ¬ Smooth e) {error : IoError}
    (h : some (t.goto (failed error)) = some u) : Moved authenticator t e u := by
  obtain rfl := Option.some.inj h
  subst here
  exact .failed waiting rough error

section Arms

-- The equations are made once for all the arms.
attribute [local simp] handshakeStep peerStep

theorem connected_moved {result : Except IoError Unit}
    (h : handshakeStep authenticator t (.connected result) = some u) :
    Moved authenticator t (.connected result) u := by
  simp only [handshakeStep] at h
  split at h
  · rename_i connecting
    obtain rfl := Option.some.inj h
    exact .connected connecting
  · rename_i connecting
    exact moved_failed connecting rfl id h
  · cases h

theorem opened_moved {result : Except IoError Unit}
    (h : handshakeStep authenticator t (.opened result) = some u) :
    Moved authenticator t (.opened result) u := by
  simp only [handshakeStep] at h
  split at h
  · rename_i opening
    obtain rfl := Option.some.inj h
    exact .opened opening
  · rename_i opening
    exact moved_failed opening rfl id h
  · cases h

theorem wrote_moved {result : Except IoError ℕ}
    (h : handshakeStep authenticator t (.wrote result) = some u) :
    Moved authenticator t (.wrote result) u := by
  simp only [handshakeStep] at h
  split at h
  · rename_i sending
    exact moved_failed sending rfl id h
  · rename_i sending
    exact moved_failed sending rfl (lt_irrefl 0) h
  · rename_i rest n sending
    split_ifs at h with within
    obtain ⟨server, step, rfl⟩ := Option.map_eq_some_iff.1 h
    simp only [peerStep] at step
    split at step
    · rename_i sent there
      obtain rfl := Option.some.inj step
      exact .wrote sending (Nat.succ_pos n) within there
    · cases step
  · cases h

theorem flushed_moved {result : Except IoError Unit}
    (h : handshakeStep authenticator t (.flushed result) = some u) :
    Moved authenticator t (.flushed result) u := by
  simp only [handshakeStep] at h
  split at h
  · rename_i sending
    obtain rfl := Option.some.inj h
    exact .flushed sending
  · rename_i sending
    exact moved_failed sending rfl id h
  · cases h

theorem read_moved {n : ℕ} (h : handshakeStep authenticator t (.read n) = some u) :
    Moved authenticator t (.read n) u := by
  simp only [handshakeStep] at h
  split at h
  · rename_i framed awaiting
    split_ifs at h with available
    obtain rfl := Option.some.inj h
    exact .read awaiting available.1 available.2
  · cases h

theorem readEnd_moved (h : handshakeStep authenticator t .readEnd = some u) :
    Moved authenticator t .readEnd u := by
  simp only [handshakeStep] at h
  split at h
  · rename_i framed awaiting
    split_ifs at h with ended
    obtain rfl := Option.some.inj h
    exact .ended awaiting ended.1 ended.2
  · cases h

theorem shutDown_moved {result : Except IoError Unit}
    (h : handshakeStep authenticator t (.shutDown result) = some u) :
    Moved authenticator t (.shutDown result) u := by
  simp only [handshakeStep] at h
  split at h
  · rename_i shutting
    obtain ⟨server, step, rfl⟩ := Option.map_eq_some_iff.1 h
    simp only [peerStep] at step
    split at step
    · rename_i sent there
      obtain rfl := Option.some.inj step
      exact .shutDown shutting there
    · cases step
  · rename_i shutting
    exact moved_failed shutting rfl id h
  · cases h

theorem handshakeStep_moved {e : Event} (h : handshakeStep authenticator t e = some u) :
    Moved authenticator t e u := by
  cases e with
  | connected result => exact connected_moved h
  | opened result => exact opened_moved h
  | wrote result => exact wrote_moved h
  | flushed result => exact flushed_moved h
  | read n => exact read_moved h
  | readEnd => exact readEnd_moved h
  | readFailed error =>
    simp only [handshakeStep] at h
    split at h
    · rename_i awaiting
      exact moved_failed awaiting rfl id h
    · cases h
  | shutDown result => exact shutDown_moved h
  | timeOut =>
    simp only [handshakeStep] at h
    split_ifs at h with waiting
    exact moved_failed rfl (Bool.eq_false_iff.2 waiting) id h
  | use e =>
    simp only [handshakeStep] at h
    split at h
    · rename_i authenticated
      obtain ⟨server, step, rfl⟩ := Option.map_eq_some_iff.1 h
      exact .used authenticated step
    · cases h
  | handle e =>
    obtain ⟨server, step, rfl⟩ := Option.map_eq_some_iff.1 h
    exact .handled step
  | tunnel e =>
    obtain ⟨server, step, rfl⟩ := Option.map_eq_some_iff.1 h
    exact .tunnelled step

end Arms

end Steps

/-- The only answer that the server has. -/
def okFrame : Bytes := encodeFrame [0]

/-! ## The server's part of a step -/

section Server
variable {server : Server} {α : Type} {authenticator : Authenticator α}
  {c d : Connection server α}

/-- `handle` leaves the peer's streams alone and takes back nothing that it has written. -/
theorem handleStep_frame {e : HandleEvent} (h : handleStep authenticator c e = some d) :
    d.streams = c.streams ∧ written c <+: written d := by
  cases handleStep_handled h with
  | failed | opened | flushed | entered | joined => exact ⟨rfl, List.prefix_rfl⟩
  | read =>
    unfold Connection.readHello
    dsimp only
    split
    · exact ⟨rfl, List.prefix_rfl⟩
    · unfold Connection.greet
      split
      · exact ⟨rfl, List.prefix_rfl⟩
      · exact ⟨rfl, List.prefix_rfl⟩
      · split_ifs
        · exact ⟨rfl, List.prefix_rfl⟩
        · exact ⟨rfl, List.prefix_rfl⟩
    · exact ⟨rfl, List.prefix_rfl⟩
  | verified =>
    unfold Connection.verifyHello
    split
    · exact ⟨rfl, List.prefix_rfl⟩
    · split
      · exact ⟨rfl, List.prefix_rfl⟩
      · split_ifs
        · exact ⟨rfl, List.prefix_rfl⟩
        · exact ⟨rfl, List.prefix_rfl⟩
  | wrote | slept | shutDown =>
    refine ⟨rfl, ?_⟩
    change written c <+: written (c.act _)
    rw [written_act]
    exact List.prefix_append _ _

def Waits (c : Connection server α) : Prop :=
  ∀ i framed control, c.stage = .readingHello i framed → c.streams[0]? = some control →
    firstFrame maxControlFrameLength (control.sent.take c.received) = none

def isReading (stage : ServerHandshake.Stage server α) : Bool :=
  match stage with
  | .readingHello _ _ => true
  | _ => false

theorem waits_of_stage {stage : ServerHandshake.Stage server α} (here : c.stage = stage)
    (elsewhere : isReading stage = false) : Waits c := by
  intro i framed control reading _
  obtain rfl := here.symm.trans reading
  cases elsewhere

theorem readHello_waits (inv : ServerHandshake.Invariant authenticator c) {i n : ℕ}
    {framed : Framed server.decoder} (reading : c.stage = .readingHello i framed)
    (available : n ≤ (c.unread i).length) : Waits (c.readHello i framed n) := by
  have knows := inv.knows
  rw [reading] at knows
  obtain ⟨rfl, _, control, first, within, holds⟩ := knows
  have unread : c.unread 0 = control.sent.drop c.received := by simp [Connection.unread, first]
  have grown : control.sent.take c.received ++ (control.sent.drop c.received).take n =
      control.sent.take (c.received + n) := List.take_add.symm
  unfold Connection.readHello
  rw [unread]
  dsimp only
  split
  · rename_i state rest decoded
    have spec := holds.receive_of ((control.sent.drop c.received).take n)
    rw [decoded, grown] at spec
    intro _ _ control' _ first'
    obtain rfl := Option.some.inj (first.symm.trans first')
    exact spec.2
  · unfold Connection.greet
    split
    · exact waits_of_stage rfl rfl
    · exact waits_of_stage rfl rfl
    · split_ifs
      · exact waits_of_stage rfl rfl
      · exact waits_of_stage rfl rfl
  · exact waits_of_stage rfl rfl

theorem handleStep_waits (inv : ServerHandshake.Invariant authenticator c) {e : HandleEvent}
    (h : handleStep authenticator c e = some d) : Waits d := by
  cases handleStep_handled h with
  | failed | flushed | slept | shutDown | entered | joined | wrote => exact waits_of_stage rfl rfl
  | opened accepting =>
    have knows := inv.knows
    rw [accepting] at knows
    intro _ _ control _ _
    change firstFrame _ (control.sent.take c.received) = none
    rw [knows.2.2.1]
    rfl
  | read reading _ available => exact readHello_waits inv reading available
  | verified =>
    unfold Connection.verifyHello
    split
    · exact waits_of_stage rfl rfl
    · split
      · exact waits_of_stage rfl rfl
      · split_ifs
        · exact waits_of_stage rfl rfl
        · exact waits_of_stage rfl rfl

theorem tunnelStep_waits (waits : Waits c) {e : TunnelEvent} (h : tunnelStep c e = some d) :
    Waits d := by
  obtain ⟨same, streams⟩ := tunnelStep_frame h
  intro i framed control reading first
  rw [same.received]
  exact waits i framed control (same.stage ▸ reading) (streams ▸ first)

/-- What the peer adds is behind what the server has read. -/
theorem Waits.grow (waits : Waits c) (inv : ServerHandshake.Invariant authenticator c)
    {streams : List PeerStream} (grown : Grown c.streams streams) :
    Waits { c with streams := streams } := by
  intro i framed control reading first
  have knows := inv.knows
  rw [show c.stage = .readingHello i framed from reading] at knows
  obtain ⟨_, _, before, there, within, _⟩ := knows
  obtain ⟨after, there', more, extended⟩ := grown before there
  obtain rfl := Option.some.inj (there'.symm.trans first)
  change firstFrame _ (after.sent.take c.received) = none
  rw [← extended, List.take_append_of_le_length within]
  exact waits i framed before reading there

end Server

/-! ## What holds along every run -/

section Invariant
variable {setup : Setup} {α : Type} {authenticator : Authenticator α} {t u : Handshake setup α}
  {c : Connection setup.server α}

def IsHello (setup : Setup) (payload : Bytes) : Prop :=
  encode setup.display (ClientMessage.hello setup.hello) = .ok payload ∧
    payload.length ≤ maxControlFrameLength

theorem answersOk_iff {bytes : Bytes} : AnswersOk setup.server bytes ↔ bytes <+: okFrame := by
  have encoded : setup.server.encode .ok = .ok [0] := rfl
  constructor
  · rintro ⟨payload, same, part⟩
    obtain rfl := Except.ok.inj (encoded.symm.trans same)
    exact part
  · exact fun part => ⟨[0], encoded, part⟩

theorem receiveAnswer_ok : receiveAnswer setup [0] = .shuttingDown := rfl

theorem IsHello.decoded {payload : Bytes} (is_hello : IsHello setup payload) :
    setup.server.decode payload = .ok (.hello setup.hello) := by
  have encoded : clientMessage.encode (.hello setup.hello) = .ok payload := encode_ok.1 is_hello.1
  obtain ⟨_, _, rest⟩ := bind_ok encoded
  obtain ⟨_, written, _⟩ := bind_ok rest
  obtain ⟨_, _, rest⟩ := bind_ok written
  obtain ⟨_, named, _⟩ := bind_ok rest
  have fits : clientMessage.Fits (.hello setup.hello) :=
    ⟨discriminant_fits (by omega),
      ⟨⟨trivial, trivial⟩, Format.strict_byteString setup.options _ named⟩, rfl⟩
  exact decode_of_encode fits is_hello.1

/-- The answer goes out as a whole before the authenticator is told. -/
def Answered (c : Connection setup.server α) : Prop :=
  match c.stage with
  | .sendingOk _ rest => written c ++ rest = okFrame
  | .notifying _ | .tunnel => written c = okFrame
  | _ => True

theorem answered_of_stage {stage : ServerHandshake.Stage setup.server α} (here : c.stage = stage)
    (quiet : ∀ context rest, stage ≠ .sendingOk context rest)
    (unanswered : ∀ context, stage ≠ .notifying context) (outside : stage ≠ .tunnel) :
    Answered c := by
  unfold Answered
  rw [here]
  split
  · exact absurd rfl (quiet _ _)
  · exact absurd rfl (unanswered _)
  · exact absurd rfl outside
  · trivial

theorem handleStep_answered {d : Connection setup.server α}
    (inv : ServerHandshake.Invariant authenticator c) (answered : Answered c) {e : HandleEvent}
    (h : handleStep authenticator c e = some d) : Answered d := by
  have knows := inv.knows
  cases handleStep_handled h with
  | failed | opened | slept | shutDown | joined =>
    exact answered_of_stage rfl nofun nofun nofun
  | read =>
    unfold Connection.readHello
    dsimp only
    split
    · exact answered_of_stage rfl nofun nofun nofun
    · unfold Connection.greet
      split
      · exact answered_of_stage rfl nofun nofun nofun
      · exact answered_of_stage rfl nofun nofun nofun
      · split_ifs
        · exact answered_of_stage rfl nofun nofun nofun
        · exact answered_of_stage rfl nofun nofun nofun
    · exact answered_of_stage rfl nofun nofun nofun
  | verified verifying =>
    rw [verifying] at knows
    unfold Connection.verifyHello
    split
    · exact answered_of_stage rfl nofun nofun nofun
    · split
      · exact answered_of_stage rfl nofun nofun nofun
      · rename_i payload encoded
        split_ifs
        · obtain rfl : [0] = payload := Except.ok.inj encoded
          change written c ++ okFrame = okFrame
          rw [knows.1, List.nil_append]
        · exact answered_of_stage rfl nofun nofun nofun
  | wrote sending =>
    unfold Answered at answered
    rw [sending] at answered
    change written (c.act _) ++ _ = okFrame
    rw [written_act, List.append_assoc]
    change written c ++ (List.take _ _ ++ List.drop _ _) = okFrame
    rw [List.take_append_drop]
    exact answered
  | flushed sending =>
    unfold Answered at answered
    rw [sending] at answered
    exact (List.append_nil _).symm.trans answered
  | entered notifying =>
    unfold Answered at answered
    rw [notifying] at answered
    exact answered

def Sends (setup : Setup) (c : Connection setup.server α) : Prop :=
  ∀ control, c.streams[0]? = some control → control.sent ≠ [] →
    ∃ payload, IsHello setup payload ∧ control.sent <+: encodeFrame payload

/-- What `authenticate` has established where it is. -/
def Knows (t : Handshake setup α) : ClientStage setup → Prop
  | .connecting | .opening => t.server.streams = [] ∧ t.clientRead = 0
  | .sending rest => ∃ payload sent, IsHello setup payload ∧
      t.server.streams = [⟨sent, false⟩] ∧ sent ++ rest = encodeFrame payload ∧ t.clientRead = 0
  | .awaiting framed => ∃ payload, IsHello setup payload ∧
      t.server.streams = [⟨encodeFrame payload, false⟩] ∧
      framed.Holds ((written t.server).take t.clientRead) ∧
      firstFrame maxControlFrameLength ((written t.server).take t.clientRead) = none
  | .shuttingDown => ∃ payload, IsHello setup payload ∧
      t.server.streams = [⟨encodeFrame payload, false⟩] ∧ written t.server = okFrame
  | .returned (.ok _) => ∃ payload, IsHello setup payload ∧
      t.server.streams[0]? = some ⟨encodeFrame payload, true⟩ ∧ written t.server = okFrame
  | .returned (.error _) => Sends setup t.server

structure Sound (authenticator : Authenticator α) (t : Handshake setup α) : Prop where
  server : ServerHandshake.Invariant authenticator t.server
  waits : Waits t.server
  answered : Answered t.server
  read : t.clientRead ≤ (written t.server).length
  client : Knows t t.client

theorem Sound.knows (inv : Sound authenticator t) {stage : ClientStage setup}
    (here : t.client = stage) : Knows t stage := here ▸ inv.client

theorem sends_of_whole {payload : Bytes} (is_hello : IsHello setup payload) {stream : PeerStream}
    (there : c.streams[0]? = some stream) (part : stream.sent <+: encodeFrame payload) :
    Sends setup c := by
  intro control first _
  obtain rfl := Option.some.inj (there.symm.trans first)
  exact ⟨payload, is_hello, part⟩

theorem Sound.sends (inv : Sound authenticator t) : Sends setup t.server := by
  have knows := inv.client
  cases stage : t.client with
  | connecting | opening =>
    rw [stage] at knows
    intro control first
    rw [knows.1] at first
    cases first
  | sending rest =>
    rw [stage] at knows
    obtain ⟨payload, sent, is_hello, streams, whole, _⟩ := knows
    exact sends_of_whole is_hello (by rw [streams]; rfl) ⟨rest, whole⟩
  | awaiting framed =>
    rw [stage] at knows
    obtain ⟨payload, is_hello, streams, _⟩ := knows
    exact sends_of_whole is_hello (by rw [streams]; rfl) List.prefix_rfl
  | shuttingDown =>
    rw [stage] at knows
    obtain ⟨payload, is_hello, streams, _⟩ := knows
    exact sends_of_whole is_hello (by rw [streams]; rfl) List.prefix_rfl
  | returned result =>
    rw [stage] at knows
    cases result with
    | error e => exact knows
    | ok _ =>
      obtain ⟨payload, is_hello, first, _⟩ := knows
      exact sends_of_whole is_hello first List.prefix_rfl

/-- The server takes no hello for the client's but the client's. -/
theorem Sound.first_hello (inv : Sound authenticator t) {hello : ClientHello}
    (first : FirstHello t.server hello) : hello = setup.hello := by
  obtain ⟨control, payload, there, framed, decoded⟩ := first
  obtain ⟨small, rest, whole⟩ := firstFrame_eq_some framed
  have some_sent : control.sent ≠ [] := by
    rw [whole]
    exact fun empty => encodeFrame_ne_nil payload (List.append_eq_nil_iff.1 empty).1
  obtain ⟨payload', is_hello, part⟩ := inv.sends control there some_sent
  rw [whole, ← List.append_nil (encodeFrame payload')] at part
  obtain ⟨rfl, _⟩ := encodeFrame_prefix maxControlFrameLength_small small is_hello.2 part
  injection Except.ok.inj (decoded.symm.trans is_hello.decoded)

theorem Sound.verified (inv : Sound authenticator t) (greeted : Greeted authenticator t.server) :
    ∃ context, authenticator.verify setup.hello = .ok context := by
  obtain ⟨hello, first, _, context, verified⟩ := greeted
  obtain rfl := inv.first_hello first
  exact ⟨context, verified⟩

/-! ### Steps of the client -/

/-- All that the client can read is the `Ok` frame. -/
theorem readAnswer_cases (inv : ServerHandshake.Invariant authenticator t.server)
    {framed : Framed setup.decoder}
    (holds : framed.Holds ((written t.server).take t.clientRead)) {n : ℕ} (some_bytes : 0 < n)
    (within : n ≤ t.unread.length) :
    (∃ framed', readAnswer framed (t.unread.take n) = .awaiting framed' ∧
      framed'.Holds ((written t.server).take (t.clientRead + n)) ∧
      firstFrame maxControlFrameLength ((written t.server).take (t.clientRead + n)) = none) ∨
    (readAnswer framed (t.unread.take n) = .shuttingDown ∧ written t.server = okFrame) := by
  have grown : (written t.server).take t.clientRead ++ t.unread.take n =
      (written t.server).take (t.clientRead + n) := List.take_add.symm
  have wrote : written t.server ≠ [] := by
    intro silent
    rw [Handshake.unread, silent, List.drop_nil] at within
    exact absurd (some_bytes.trans_le within) (lt_irrefl 0)
  have part := answersOk_iff.1 (inv.gated.answer wrote).2
  have read : (written t.server).take (t.clientRead + n) <+: okFrame :=
    (List.take_prefix _ _).trans part
  have small : ([0] : Bytes).length ≤ maxControlFrameLength := by decide
  unfold readAnswer
  split
  · rename_i state rest decoded
    have spec := holds.receive_of (t.unread.take n)
    rw [decoded, grown] at spec
    exact .inl ⟨_, rfl, spec⟩
  · rename_i payload rest decoded
    have spec := holds.receive_of (t.unread.take n)
    rw [decoded, grown] at spec
    obtain ⟨whole, fits⟩ := spec
    rw [whole, okFrame, ← List.append_nil (encodeFrame [0])] at read
    obtain ⟨rfl, _⟩ := encodeFrame_prefix maxControlFrameLength_small fits small read
    refine .inr ⟨receiveAnswer_ok, part.eq_of_length_le ?_⟩
    have longer := (List.take_prefix (t.clientRead + n) (written t.server)).length_le
    rw [whole, List.length_append] at longer
    exact (Nat.le_add_right _ _).trans longer
  · rename_i decoded
    have spec := holds.receive_of (t.unread.take n)
    rw [decoded, grown] at spec
    obtain ⟨length, declared, large⟩ := spec
    obtain ⟨more, whole⟩ := read
    have same := declaredLength_append declared more
    rw [whole, okFrame, ← List.append_nil (encodeFrame [0]),
      declaredLength_encodeFrame maxControlFrameLength_small small] at same
    obtain rfl := Option.some.inj same
    exact absurd large (Nat.not_lt.2 small)

/-- The server has gone on: it has perhaps written more. -/
theorem Sound.with_server (inv : Sound authenticator t)
    (invariant : ServerHandshake.Invariant authenticator c) (waits : Waits c)
    (answered : Answered c) (streams : c.streams = t.server.streams)
    (more : written t.server <+: written c) :
    Sound authenticator (t.withServer c) := by
  have read := inv.read
  have same : (written c).take t.clientRead = (written t.server).take t.clientRead := by
    obtain ⟨rest, whole⟩ := more
    rw [← whole, List.take_append_of_le_length read]
  have whole : written t.server = okFrame → written c = okFrame := by
    intro all
    have wrote : written c ≠ [] := by
      intro silent
      rw [silent, all] at more
      exact encodeFrame_ne_nil [0] (List.prefix_nil.1 more)
    have part := answersOk_iff.1 (invariant.gated.answer wrote).2
    exact part.eq_of_length_le (all ▸ more.length_le)
  refine ⟨invariant, waits, answered, read.trans more.length_le, ?_⟩
  have knows := inv.client
  change Knows _ t.client
  cases stage : t.client with
  | connecting | opening =>
    rw [stage] at knows
    exact ⟨streams.trans knows.1, knows.2⟩
  | sending rest =>
    rw [stage] at knows
    obtain ⟨payload, sent, is_hello, before, cut, unread⟩ := knows
    exact ⟨payload, sent, is_hello, streams.trans before, cut, unread⟩
  | awaiting framed =>
    rw [stage] at knows
    obtain ⟨payload, is_hello, before, holds, no_frame⟩ := knows
    refine ⟨payload, is_hello, streams.trans before, ?_, ?_⟩
    · exact same.symm ▸ holds
    · exact same.symm ▸ no_frame
  | shuttingDown =>
    rw [stage] at knows
    obtain ⟨payload, is_hello, before, all⟩ := knows
    exact ⟨payload, is_hello, streams.trans before, whole all⟩
  | returned result =>
    rw [stage] at knows
    cases result with
    | error e =>
      intro control first
      exact knows control (streams ▸ first)
    | ok _ =>
      obtain ⟨payload, is_hello, first, all⟩ := knows
      exact ⟨payload, is_hello, streams ▸ first, whole all⟩

/-- The client's end of the connection has grown. -/
theorem Sound.with_streams (inv : Sound authenticator t) {e : PeerEvent}
    {streams : List PeerStream} {datagrams : List Bytes}
    (step : peerStep t.server e = some { t.server with streams := streams, datagrams := datagrams })
    (grown : Grown t.server.streams streams) {stage : ClientStage setup}
    (knows : Knows (t.withServer { t.server with streams := streams, datagrams := datagrams })
      stage) :
    Sound authenticator ((t.withServer { t.server with
      streams := streams, datagrams := datagrams }).goto stage) where
  server := peerStep_invariant inv.server step
  waits := inv.waits.grow inv.server grown
  answered := inv.answered
  read := inv.read
  client := by
    cases stage with
    | returned result => cases result <;> exact knows
    | _ => exact knows

theorem sound_new : Sound authenticator (.new : Handshake setup α) where
  server := invariant_new authenticator
  waits := waits_of_stage rfl rfl
  answered := trivial
  read := Nat.zero_le _
  client := ⟨rfl, rfl⟩

theorem sendHello_cases (setup : Setup) :
    (∃ payload, IsHello setup payload ∧ sendHello setup = .sending (encodeFrame payload)) ∨
      ∃ error, sendHello setup = failed error := by
  unfold sendHello
  split
  · exact .inr ⟨_, rfl⟩
  · rename_i payload encoded
    split_ifs with small
    · exact .inl ⟨payload, ⟨encoded, small⟩, rfl⟩
    · exact .inr ⟨_, rfl⟩

theorem Sound.failed (inv : Sound authenticator t) (error : IoError) :
    Sound authenticator (t.goto (failed error)) :=
  ⟨inv.server, inv.waits, inv.answered, inv.read, inv.sends⟩

theorem Sound.opened (inv : Sound authenticator t) (opening : t.client = .opening) :
    Sound authenticator
      ((t.withServer { t.server with streams := t.server.streams ++ [⟨[], false⟩] }).goto
        (sendHello setup)) := by
  obtain ⟨none_open, unread⟩ := inv.knows opening
  have streams : t.server.streams ++ [⟨[], false⟩] = [⟨[], false⟩] := by
    rw [none_open]
    rfl
  refine inv.with_streams (e := .openStream) rfl ?_ ?_
  · intro control first
    rw [none_open] at first
    cases first
  · rcases sendHello_cases setup with ⟨payload, is_hello, sending⟩ | ⟨error, refused⟩
    · rw [sending]
      exact ⟨payload, [], is_hello, streams, rfl, unread⟩
    · rw [refused]
      intro control first some_sent
      obtain rfl := Option.some.inj ((congrArg (·[0]?) streams).symm.trans first)
      exact absurd rfl some_sent

theorem Sound.wrote (inv : Sound authenticator t) {n : ℕ} {rest sent : Bytes}
    (sending : t.client = .sending rest) (there : t.server.streams[0]? = some ⟨sent, false⟩) :
    Sound authenticator
      ((t.withServer { t.server with
          streams := t.server.streams.set 0 ⟨sent ++ rest.take n, false⟩ }).goto
        (.sending (rest.drop n))) := by
  obtain ⟨payload, before, is_hello, streams, whole, unread⟩ := inv.knows sending
  have control : t.server.streams[0]? = some ⟨before, false⟩ := by
    rw [streams]
    rfl
  obtain ⟨rfl, _⟩ := PeerStream.mk.inj (Option.some.inj (control.symm.trans there))
  refine inv.with_streams (e := .send 0 (rest.take n)) ?_ ?_ ?_
  · simp only [peerStep, streams]
    rfl
  · exact grown_set control (List.prefix_append _ _)
  · refine ⟨payload, before ++ rest.take n, is_hello, ?_, ?_, unread⟩
    · change t.server.streams.set 0 _ = _
      rw [streams]
      rfl
    · rw [List.append_assoc, List.take_append_drop]
      exact whole

theorem Sound.shutDown (inv : Sound authenticator t) {sent : Bytes}
    (shutting : t.client = .shuttingDown) (there : t.server.streams[0]? = some ⟨sent, false⟩) :
    Sound authenticator
      ((t.withServer { t.server with streams := t.server.streams.set 0 ⟨sent, true⟩ }).goto
        (.returned (.ok ()))) := by
  obtain ⟨payload, is_hello, streams, answered⟩ := inv.knows shutting
  have control : t.server.streams[0]? = some ⟨encodeFrame payload, false⟩ := by
    rw [streams]
    rfl
  obtain ⟨rfl, _⟩ := PeerStream.mk.inj (Option.some.inj (control.symm.trans there))
  refine inv.with_streams (e := .finish 0) ?_ ?_ ?_
  · simp only [peerStep, streams]
    rfl
  · exact grown_set control List.prefix_rfl
  · refine ⟨payload, is_hello, ?_, answered⟩
    change (t.server.streams.set 0 _)[0]? = _
    rw [streams]
    rfl

/-- Nothing is sent on the control stream after its end. -/
theorem Sound.used (inv : Sound authenticator t) {e : PeerEvent}
    {server : Connection setup.server α} (authenticated : t.client = .returned (.ok ()))
    (step : peerStep t.server e = some server) : Sound authenticator (t.withServer server) := by
  obtain ⟨payload, is_hello, first, answered⟩ := inv.knows authenticated
  have same : t.withServer server = (t.withServer server).goto (.returned (.ok ())) := by
    rw [← authenticated]
    rfl
  rw [same]
  have elsewhere : ∀ i sent, t.server.streams[i]? = some ⟨sent, false⟩ → 0 ≠ i := by
    rintro i sent there rfl
    cases first.symm.trans there
  cases e with
  | openStream =>
    obtain rfl := Option.some.inj step
    have front : (t.server.streams ++ [⟨[], false⟩])[0]? = t.server.streams[0]? :=
      List.getElem?_append_left (List.getElem?_eq_some_iff.1 first).1
    refine inv.with_streams (e := .openStream) rfl (fun control there => ?_)
      ⟨payload, is_hello, front.trans first, answered⟩
    exact ⟨control, front.trans there, List.prefix_rfl⟩
  | send i bytes =>
    have step' := step
    simp only [peerStep] at step'
    split at step'
    · rename_i sent there
      obtain rfl := Option.some.inj step'
      have front := List.getElem?_set_ne (l := t.server.streams) (elsewhere i sent there).symm
        (a := ⟨sent ++ bytes, false⟩)
      exact inv.with_streams step (grown_set there (List.prefix_append _ _))
        ⟨payload, is_hello, front.trans first, answered⟩
    · cases step'
  | finish i =>
    have step' := step
    simp only [peerStep] at step'
    split at step'
    · rename_i sent there
      obtain rfl := Option.some.inj step'
      have front := List.getElem?_set_ne (l := t.server.streams) (elsewhere i sent there).symm
        (a := ⟨sent, true⟩)
      exact inv.with_streams step (grown_set there List.prefix_rfl)
        ⟨payload, is_hello, front.trans first, answered⟩
    · cases step'
  | sendDatagram data =>
    obtain rfl := Option.some.inj step
    exact inv.with_streams (e := .sendDatagram data) rfl
      (fun control there => ⟨control, there, List.prefix_rfl⟩)
      ⟨payload, is_hello, first, answered⟩

theorem handshakeStep_sound (inv : Sound authenticator t) {e : Event}
    (h : handshakeStep authenticator t e = some u) : Sound authenticator u := by
  cases handshakeStep_moved h with
  | failed _ _ error => exact inv.failed error
  | ended awaiting => exact inv.failed _
  | connected connecting =>
    exact ⟨inv.server, inv.waits, inv.answered, inv.read, inv.knows connecting⟩
  | opened opening => exact inv.opened opening
  | wrote sending _ _ there => exact inv.wrote sending there
  | flushed sending =>
    obtain ⟨payload, sent, is_hello, streams, whole, unread⟩ := inv.knows sending
    rw [List.append_nil] at whole
    subst whole
    refine ⟨inv.server, inv.waits, inv.answered, inv.read, payload, is_hello, streams, ?_, ?_⟩
    · change Framed.new.Holds ((written t.server).take t.clientRead)
      rw [unread, List.take_zero]
      exact Framed.holds_new
    · change firstFrame _ ((written t.server).take t.clientRead) = none
      rw [unread]
      rfl
  | read awaiting some_bytes within =>
    obtain ⟨payload, is_hello, streams, holds, _⟩ := inv.knows awaiting
    have bound := inv.read
    have available := within
    rw [Handshake.unread, List.length_drop] at available
    refine ⟨inv.server, inv.waits, inv.answered, ?_, ?_⟩
    · change t.clientRead + _ ≤ (written t.server).length
      omega
    · rcases readAnswer_cases inv.server holds some_bytes within with
        ⟨framed', going, holds', no_frame⟩ | ⟨done, answered⟩
      · change Knows _ (readAnswer _ _)
        rw [going]
        exact ⟨payload, is_hello, streams, holds', no_frame⟩
      · change Knows _ (readAnswer _ _)
        rw [done]
        exact ⟨payload, is_hello, streams, answered⟩
  | shutDown shutting there => exact inv.shutDown shutting there
  | used authenticated step => exact inv.used authenticated step
  | handled step =>
    obtain ⟨streams, more⟩ := handleStep_frame step
    exact inv.with_server (handleStep_invariant inv.server step) (handleStep_waits inv.server step)
      (handleStep_answered inv.server inv.answered step) streams more
  | tunnelled step =>
    obtain ⟨same, streams⟩ := tunnelStep_frame step
    have wrote : written _ = written t.server := congrArg (List.flatMap Action.bytes) same.actions
    refine inv.with_server (tunnelStep_invariant inv.server step)
      (tunnelStep_waits inv.waits step) ?_ streams (wrote ▸ List.prefix_rfl)
    have answered := inv.answered
    unfold Answered at answered ⊢
    rw [same.stage, wrote]
    exact answered

theorem sound_runs {es : List Event} (run : Runs (handshakeSystem setup authenticator) es t) :
    Sound authenticator t :=
  run.invariant (I := Sound authenticator) sound_new fun _ _ _ inv step =>
    handshakeStep_sound inv step

def withSecret (secret : Secret) : Setup where
  display := fun _ => ""
  decoder := prefixFirst maxControlFrameLength_small
  datagram := true
  authTimeoutSecs := 10
  secret := secret
  options := []

def greeting : List Event :=
  [.connected (.ok ()), .opened (.ok ()), .handle (.accept (.ok ())), .wrote (.ok 3),
    .handle (.read 2), .wrote (.ok 36), .flushed (.ok ()), .handle (.read 37)]

def answering : List Event :=
  [.handle .verify, .handle (.write 5), .read 1, .handle .flush, .handle .accepted, .read 4,
    .shutDown (.ok ())]

end Invariant

/-! ## What is left to do -/

section Rank
variable {setup : Setup} {α : Type} {authenticator : Authenticator α} {t u : Handshake setup α}
  {c d : Connection setup.server α}

def helloLength (setup : Setup) : ℕ :=
  match encode setup.display (ClientMessage.hello setup.hello) with
  | .ok payload => (encodeFrame payload).length
  | .error _ => 0

def clientRank : ClientStage setup → ℕ
  | .connecting => helloLength setup + 5
  | .opening => helloLength setup + 4
  | .sending rest => rest.length + 3
  | .awaiting _ => 2
  | .shuttingDown => 1
  | .returned _ => 0

/-- Verifying counts for more than writing the answer. -/
def serverRank (c : Connection setup.server α) : ℕ :=
  match c.stage with
  | .accepting => helloLength setup + 12
  | .readingHello _ _ => helloLength setup - c.received + 11
  | .verifying _ => 10
  | .sendingOk _ rest => rest.length + 4
  | .notifying _ => 3
  | .rejecting _ | .tunnel => 2
  | .shuttingDown _ => 1
  | .ended _ => 0

def remaining (t : Handshake setup α) : ℕ :=
  clientRank t.client + (okFrame.length - t.clientRead) + serverRank t.server

/-- The client's use of the connection and the tunnel loops are no part of the authentication. -/
def Authenticates : Event → Prop
  | .use _ | .tunnel _ => False
  | _ => True

theorem Smooth.authenticates {e : Event} (smooth : Smooth e) : Authenticates e := by
  cases e with
  | use | tunnel => exact smooth.elim
  | _ => trivial

theorem IsHello.length {payload : Bytes} (is_hello : IsHello setup payload) :
    (encodeFrame payload).length = helloLength setup := by
  unfold helloLength
  rw [is_hello.1]

theorem clientRank_pos {stage : ClientStage setup} (waiting : hasReturned stage = false) :
    0 < clientRank stage := by
  cases stage with
  | returned result => cases waiting
  | _ => simp [clientRank]

theorem handleStep_running {e : HandleEvent} (h : handleStep authenticator c e = some d)
    (result : Except IoError Unit) : c.stage ≠ .ended result := by
  intro stage
  have disabled : handleStep authenticator c e = none := by
    cases e <;> simp only [handleStep, stage]
  cases disabled.symm.trans h

theorem readHello_rank (inv : Sound authenticator t) {i n : ℕ}
    {framed : Framed setup.server.decoder} (reading : t.server.stage = .readingHello i framed)
    (some_bytes : 0 < n) (available : n ≤ (t.server.unread i).length) :
    serverRank (t.server.readHello i framed n) < serverRank t.server := by
  have knows := inv.server.knows
  rw [reading] at knows
  obtain ⟨rfl, _, control, first, within, _⟩ := knows
  have unread : t.server.unread 0 = control.sent.drop t.server.received := by
    simp [Connection.unread, first]
  rw [unread, List.length_drop] at available
  have some_sent : control.sent ≠ [] := by
    intro empty
    rw [empty, List.length_nil] at available
    omega
  obtain ⟨payload, is_hello, part⟩ := inv.sends control first some_sent
  have bound := part.length_le
  rw [is_hello.length] at bound
  have before : serverRank t.server = helloLength setup - t.server.received + 11 := by
    unfold serverRank
    rw [reading]
  rw [before]
  unfold Connection.readHello
  dsimp only
  split
  · change helloLength setup - (t.server.received + n) + 11 < _
    omega
  · unfold Connection.greet
    split
    · exact Nat.succ_pos _
    · change 2 < _
      omega
    · split_ifs
      · change 2 < _
        omega
      · change 10 < _
        omega
  · exact Nat.succ_pos _

theorem handleStep_rank (inv : Sound authenticator t) {e : HandleEvent}
    (h : handleStep authenticator t.server e = some d) : serverRank d < serverRank t.server := by
  have running := handleStep_running h
  cases handleStep_handled h with
  | failed =>
    change 0 < serverRank t.server
    cases stage : t.server.stage with
    | ended result => exact absurd stage (running result)
    | _ => simp [serverRank, stage]
  | opened accepting =>
    have knows := inv.server.knows
    rw [accepting] at knows
    have before : serverRank t.server = helloLength setup + 12 := by
      unfold serverRank
      rw [accepting]
    rw [before]
    change helloLength setup - t.server.received + 11 < _
    omega
  | read reading some_bytes available => exact readHello_rank inv reading some_bytes available
  | verified verifying =>
    have before : serverRank t.server = 10 := by
      unfold serverRank
      rw [verifying]
    rw [before]
    unfold Connection.verifyHello
    split
    · exact Nat.succ_pos _
    · split
      · exact Nat.succ_pos _
      · rename_i payload encoded
        split_ifs
        · obtain rfl : [0] = payload := Except.ok.inj encoded
          change okFrame.length + 4 < 10
          decide
        · exact Nat.succ_pos _
  | @wrote n context rest sending some_bytes available =>
    have before : serverRank t.server = rest.length + 4 := by
      unfold serverRank
      rw [sending]
    rw [before]
    change (rest.drop n).length + 4 < _
    rw [List.length_drop]
    omega
  | flushed sending =>
    have before : serverRank t.server = 4 := by
      unfold serverRank
      rw [sending]
      rfl
    rw [before]
    exact Nat.lt_succ_self 3
  | slept rejecting =>
    have before : serverRank t.server = 2 := by
      unfold serverRank
      rw [rejecting]
    rw [before]
    exact Nat.lt_succ_self 1
  | shutDown shutting =>
    have before : serverRank t.server = 1 := by
      unfold serverRank
      rw [shutting]
    rw [before]
    exact Nat.lt_succ_self 0
  | entered notifying =>
    have before : serverRank t.server = 3 := by
      unfold serverRank
      rw [notifying]
    rw [before]
    exact Nat.lt_succ_self 2
  | joined tunnel =>
    have before : serverRank t.server = 2 := by
      unfold serverRank
      rw [tunnel]
    rw [before]
    exact Nat.succ_pos 1

/-- The client comes nearer its end with what it has read, and the server stays where it is. -/
theorem remaining_of_client (less : clientRank u.client < clientRank t.client)
    (read : u.clientRead = t.clientRead) (server : serverRank u.server = serverRank t.server) :
    remaining u < remaining t := by
  unfold remaining
  rw [read, server]
  omega

theorem sendHello_rank (setup : Setup) : clientRank (sendHello setup) < helloLength setup + 4 := by
  rcases sendHello_cases setup with ⟨payload, is_hello, sending⟩ | ⟨error, refused⟩
  · rw [sending]
    change (encodeFrame payload).length + 3 < _
    rw [is_hello.length]
    omega
  · rw [refused]
    exact Nat.succ_pos _

/-- The client reads no more than the server's answer. -/
theorem read_remaining (inv : Sound authenticator t) {n : ℕ} {framed : Framed setup.decoder}
    (awaiting : t.client = .awaiting framed) (some_bytes : 0 < n)
    (within : n ≤ t.unread.length) :
    remaining ({ t with clientRead := t.clientRead + n }.goto
      (readAnswer framed (t.unread.take n))) < remaining t := by
  obtain ⟨_, _, _, holds, _⟩ := inv.knows awaiting
  have available := within
  rw [Handshake.unread, List.length_drop] at available
  have wrote : written t.server ≠ [] := by
    intro silent
    rw [silent, List.length_nil] at available
    omega
  have bound := (answersOk_iff.1 (inv.server.gated.answer wrote).2).length_le
  unfold remaining
  rw [awaiting]
  change clientRank (readAnswer framed (t.unread.take n)) +
      (okFrame.length - (t.clientRead + n)) + serverRank t.server <
    2 + (okFrame.length - t.clientRead) + serverRank t.server
  rcases readAnswer_cases inv.server holds some_bytes within with ⟨_, going, _⟩ | ⟨done, _⟩
  · rw [going]
    change 2 + _ + _ < _
    omega
  · rw [done]
    change 1 + _ + _ < _
    omega

/-- Every step of the authentication, a failure or a time-out too, brings its end nearer. -/
theorem step_remaining (inv : Sound authenticator t) {e : Event} (part : Authenticates e)
    (h : handshakeStep authenticator t e = some u) : remaining u < remaining t := by
  have client : ∀ {stage : ClientStage setup}, t.client = stage →
      clientRank u.client < clientRank stage → u.clientRead = t.clientRead →
        serverRank u.server = serverRank t.server → remaining u < remaining t := by
    rintro stage rfl less read server
    exact remaining_of_client less read server
  cases handshakeStep_moved h with
  | failed waiting => exact remaining_of_client (clientRank_pos waiting) rfl rfl
  | ended awaiting => exact client awaiting Nat.two_pos rfl rfl
  | connected connecting => exact client connecting (Nat.lt_succ_self _) rfl rfl
  | opened opening => exact client opening (sendHello_rank setup) rfl rfl
  | @wrote n rest sent sending some_bytes within =>
    refine client sending ?_ rfl rfl
    change (rest.drop n).length + 3 < rest.length + 3
    rw [List.length_drop]
    omega
  | flushed sending => exact client sending (Nat.lt_succ_self 2) rfl rfl
  | read awaiting some_bytes within => exact read_remaining inv awaiting some_bytes within
  | shutDown shutting => exact client shutting Nat.one_pos rfl rfl
  | used => exact part.elim
  | @handled _ server step =>
    have less := handleStep_rank inv step
    unfold remaining
    change clientRank t.client + (okFrame.length - t.clientRead) + serverRank server < _
    omega
  | tunnelled => exact part.elim

end Rank

/-! ## The end of the authentication -/

section Settling
variable {setup : Setup} {α : Type} {authenticator : Authenticator α} {t u : Handshake setup α}

theorem smooth_goes (inv : Sound authenticator t) {e : Event} (smooth : Smooth e)
    (step : ∃ u, handshakeStep authenticator t e = some u) :
    ∃ e u, Smooth e ∧ handshakeStep authenticator t e = some u ∧ u ≠ t := by
  obtain ⟨u, step⟩ := step
  have less := step_remaining inv smooth.authenticates step
  exact ⟨e, u, smooth, step, fun same => less.ne (congrArg remaining same)⟩

/-- Until the tunnel loops or the end, the server has something to do about a whole hello. -/
theorem handle_goes (inv : Sound authenticator t) {payload : Bytes} {finished : Bool}
    (is_hello : IsHello setup payload)
    (first : t.server.streams[0]? = some ⟨encodeFrame payload, finished⟩)
    (outside : t.server.stage ≠ .tunnel) (running : ∀ result, t.server.stage ≠ .ended result) :
    ∃ e u, Smooth e ∧ handshakeStep authenticator t e = some u ∧ u ≠ t := by
  have knows := inv.server.knows
  have goes : ∀ e, Smooth (.handle e) → (∃ d, handleStep authenticator t.server e = some d) →
      ∃ e u, Smooth e ∧ handshakeStep authenticator t e = some u ∧ u ≠ t := by
    rintro e smooth ⟨d, step⟩
    refine smooth_goes inv smooth ⟨t.withServer d, ?_⟩
    rw [handshakeStep, step]
    rfl
  cases stage : t.server.stage with
  | tunnel => exact absurd stage outside
  | ended result => exact absurd stage (running result)
  | accepting =>
    rw [stage] at knows
    refine goes (.accept (.ok ())) trivial ?_
    have opened : t.server.accepted < t.server.streams.length := by
      rw [knows.2.1]
      exact (List.getElem?_eq_some_iff.1 first).1
    simp only [handleStep, stage, if_pos opened]
    exact ⟨_, rfl⟩
  | readingHello i framed =>
    rw [stage] at knows
    obtain ⟨rfl, _, control, there, within, _⟩ := knows
    obtain rfl := Option.some.inj (first.symm.trans there)
    have no_frame := inv.waits 0 framed _ stage first
    have unread : t.server.unread 0 = (encodeFrame payload).drop t.server.received := by
      simp [Connection.unread, first]
    have left : 1 ≤ (t.server.unread 0).length := by
      by_contra none_left
      have all : (encodeFrame payload).length ≤ t.server.received := by
        rw [unread, List.length_drop] at none_left
        omega
      have whole := firstFrame_encodeFrame maxControlFrameLength_small is_hello.2 []
      rw [List.append_nil] at whole
      rw [List.take_of_length_le all, whole] at no_frame
      cases no_frame
    refine goes (.read 1) trivial ?_
    simp only [handleStep, stage, Nat.zero_lt_one, left, and_self, if_true]
    exact ⟨_, rfl⟩
  | rejecting error =>
    refine goes (.sleep 100) trivial ?_
    simp only [handleStep, stage]
    exact ⟨_, if_pos (by decide)⟩
  | shuttingDown error =>
    refine goes .shutDown trivial ?_
    simp only [handleStep, stage]
    exact ⟨_, rfl⟩
  | verifying hello =>
    refine goes .verify trivial ?_
    simp only [handleStep, stage]
    exact ⟨_, rfl⟩
  | notifying context =>
    refine goes .accepted trivial ?_
    simp only [handleStep, stage]
    exact ⟨_, rfl⟩
  | sendingOk context rest =>
    cases rest with
    | nil =>
      refine goes .flush trivial ?_
      simp only [handleStep, stage]
      exact ⟨_, rfl⟩
    | cons b rest =>
      refine goes (.write 1) trivial ?_
      have within : 1 ≤ (b :: rest).length := Nat.le_add_left 1 _
      simp only [handleStep, stage, Nat.zero_lt_one, within, and_self, if_true]
      exact ⟨_, rfl⟩

/-- `authenticate` does not hang: until it has returned, it or the server goes on. -/
theorem authenticate_goes (inv : Sound authenticator t)
    (waiting : ∀ result, t.client ≠ .returned result) :
    ∃ e u, Smooth e ∧ handshakeStep authenticator t e = some u ∧ u ≠ t := by
  cases stage : t.client with
  | returned result => exact absurd stage (waiting result)
  | connecting =>
    refine smooth_goes inv (e := .connected (.ok ())) trivial ?_
    simp only [handshakeStep, stage]
    exact ⟨_, rfl⟩
  | opening =>
    refine smooth_goes inv (e := .opened (.ok ())) trivial ?_
    simp only [handshakeStep, stage]
    exact ⟨_, rfl⟩
  | shuttingDown =>
    obtain ⟨payload, _, streams, _⟩ := inv.knows stage
    refine smooth_goes inv (e := .shutDown (.ok ())) trivial ?_
    simp only [handshakeStep, stage, Handshake.peer, peerStep, streams]
    exact ⟨_, rfl⟩
  | sending rest =>
    obtain ⟨payload, sent, _, streams, _⟩ := inv.knows stage
    cases rest with
    | nil =>
      refine smooth_goes inv (e := .flushed (.ok ())) trivial ?_
      simp only [handshakeStep, stage]
      exact ⟨_, rfl⟩
    | cons b rest =>
      refine smooth_goes inv (e := .wrote (.ok 1)) Nat.one_pos ?_
      simp only [handshakeStep, stage, List.length_cons, Nat.zero_lt_succ, if_true,
        Handshake.peer, peerStep, streams]
      exact ⟨_, rfl⟩
  | awaiting framed =>
    obtain ⟨payload, is_hello, streams, _⟩ := inv.knows stage
    by_cases all : t.unread = []
    · by_cases closed : hasClosed t.server = true
      · refine smooth_goes inv (e := .readEnd) trivial ?_
        simp only [handshakeStep, stage, all, closed, and_self, if_true]
        exact ⟨_, rfl⟩
      · refine handle_goes inv is_hello (by rw [streams]; rfl) ?_ ?_
        · intro tunnel
          exact closed (by simp [hasClosed, tunnel])
        · intro result ended
          exact closed (by simp [hasClosed, ended])
    · refine smooth_goes inv (e := .read 1) trivial ?_
      have some_bytes : 1 ≤ t.unread.length := List.length_pos_of_ne_nil all
      simp only [handshakeStep, stage, Nat.zero_lt_one, some_bytes, and_self, if_true]
      exact ⟨_, rfl⟩

/-! ### A hello that the server does not accept -/

def Refused (t : Handshake setup α) : Prop :=
  (∃ error, t.client = failed error) ∧ written t.server = [] ∧ ¬ Entered t.server

theorem tunnelStep_entered {server : Server} {c d : Connection server α}
    (gated : Gated authenticator c) {e : TunnelEvent} (h : tunnelStep c e = some d) :
    Entered c := by
  intro outside
  have closed := (gated.closed (not_not.2 outside)).1
  cases e with
  | forwardStream | streamsEnd => simp [tunnelStep, outside] at h
  | forwardDatagram | datagramsEnd => simp [tunnelStep, closed] at h

/-- A client whose hello the server's authenticator rejects is refused, whatever fails and whichever
timers fire on either side. -/
theorem refusal_inevitable (error : ConnectionAuthError)
    (rejected : authenticator.verify setup.hello = .error error) (es : List Event)
    (t : Handshake setup α) (run : Runs (handshakeSystem setup authenticator) es t) :
    Inevitable (handshakeSystem setup authenticator) (fun _ => True) Smooth Refused t := by
  have never : ¬ ∃ context, authenticator.verify setup.hello = .ok context := by
    rintro ⟨context, verified⟩
    cases rejected.symm.trans verified
  refine inevitable_of_measure (I := Sound authenticator) remaining ?_ ?_ ?_ t (sound_runs run)
  · exact fun _ _ _ inv _ step => handshakeStep_sound inv step
  · rintro t e u inv _ step _
    have step' : handshakeStep authenticator t e = some u := step
    cases e with
    | use e =>
      simp only [handshakeStep] at step'
      split at step'
      · rename_i authenticated
        obtain ⟨_, _, _, answered⟩ := inv.knows authenticated
        have wrote : written t.server ≠ [] := fun silent =>
          encodeFrame_ne_nil [0] (answered.symm.trans silent)
        exact absurd (inv.verified (inv.server.gated.answer wrote).1) never
      · cases step'
    | tunnel e =>
      obtain ⟨_, loop, _⟩ := Option.map_eq_some_iff.1 step'
      have entered := tunnelStep_entered inv.server.gated loop
      exact absurd (inv.verified (inv.server.gated.gate entered)) never
    | _ => exact step_remaining inv (by trivial) step'
  · intro t inv short
    have silent : written t.server = [] := by
      by_contra wrote
      exact never (inv.verified (inv.server.gated.answer wrote).1)
    have outside : ¬ Entered t.server := fun entered =>
      never (inv.verified (inv.server.gated.gate entered))
    refine authenticate_goes inv fun result returned => ?_
    cases result with
    | error e => exact short ⟨⟨e, returned⟩, silent, outside⟩
    | ok _ =>
      obtain ⟨_, _, _, answered⟩ := inv.knows returned
      exact encodeFrame_ne_nil [0] (answered.symm.trans silent)

def nines : Secret := ⟨List.replicate 32 9, rfl⟩

/-- The client has the wrong secret. -/
theorem refusal_inevitable_greeting :
    ∃ t, exec (handshakeSystem (withSecret nines) (secretAuthenticator sevens)) greeting = some t ∧
      Inevitable (handshakeSystem (withSecret nines) (secretAuthenticator sevens))
        (fun _ => True) Smooth Refused t := by
  have run : exec (handshakeSystem (withSecret nines) (secretAuthenticator sevens)) greeting =
    some _ := rfl
  have rejected : (secretAuthenticator sevens).verify (withSecret nines).hello =
    .error .invalidSecret := rfl
  exact ⟨_, run, refusal_inevitable _ rejected _ _ (runs_of_exec run)⟩

/-! ### A hello that the server accepts -/

def OnTrack {server : Server} (c : Connection server α) : Prop :=
  match c.stage with
  | .rejecting _ | .shuttingDown _ | .ended _ => False
  | _ => True

structure Unhindered (t : Handshake setup α) : Prop where
  client : ∀ error, t.client ≠ failed error
  server : OnTrack t.server

def Admitted (t : Handshake setup α) : Prop :=
  t.client = .returned (.ok ()) ∧ t.server.stage = .tunnel

theorem IsHello.sendHello {payload : Bytes} (is_hello : IsHello setup payload) :
    sendHello setup = .sending (encodeFrame payload) := by
  unfold Authentication.sendHello
  rw [is_hello.1]
  exact if_pos is_hello.2

theorem readHello_onTrack (inv : Sound authenticator t) {i n : ℕ}
    {framed : Framed setup.server.decoder} (reading : t.server.stage = .readingHello i framed)
    (some_bytes : 0 < n) (available : n ≤ (t.server.unread i).length) :
    OnTrack (t.server.readHello i framed n) := by
  have knows := inv.server.knows
  rw [reading] at knows
  obtain ⟨rfl, _, control, first, _, holds⟩ := knows
  have unread : t.server.unread 0 = control.sent.drop t.server.received := by
    simp [Connection.unread, first]
  have grown : control.sent.take t.server.received ++ (control.sent.drop t.server.received).take n =
      control.sent.take (t.server.received + n) := List.take_add.symm
  have some_sent : control.sent ≠ [] := by
    intro empty
    rw [unread, empty, List.drop_nil, List.length_nil] at available
    omega
  obtain ⟨payload, is_hello, part⟩ := inv.sends control first some_sent
  have received : control.sent.take (t.server.received + n) <+: encodeFrame payload :=
    (List.take_prefix _ _).trans part
  unfold Connection.readHello
  rw [unread]
  dsimp only
  split
  · trivial
  · rename_i payload' rest decoded
    have spec := holds.receive_of ((control.sent.drop t.server.received).take n)
    rw [decoded, grown] at spec
    rw [spec.1, ← List.append_nil (encodeFrame payload)] at received
    obtain ⟨rfl, _⟩ := encodeFrame_prefix maxControlFrameLength_small spec.2 is_hello.2 received
    have version : setup.hello.version = protocolVersion := rfl
    unfold Connection.greet
    rw [is_hello.decoded]
    dsimp only
    rw [if_neg (not_not.2 version)]
    trivial
  · rename_i decoded
    have spec := holds.receive_of ((control.sent.drop t.server.received).take n)
    rw [decoded, grown] at spec
    obtain ⟨length, declared, large⟩ := spec
    obtain ⟨more, whole⟩ := received
    have same := declaredLength_append declared more
    rw [whole, ← List.append_nil (encodeFrame payload),
      declaredLength_encodeFrame maxControlFrameLength_small is_hello.2] at same
    obtain rfl := Option.some.inj same
    exact absurd large (Nat.not_lt.2 is_hello.2)

theorem verifyHello_onTrack (inv : Sound authenticator t)
    (accepted : ∃ context, authenticator.verify setup.hello = .ok context) {hello : ClientHello}
    (verifying : t.server.stage = .verifying hello) :
    OnTrack (t.server.verifyHello authenticator hello) := by
  have knows := inv.server.knows
  rw [verifying] at knows
  obtain rfl := inv.first_hello knows.2.1
  obtain ⟨context, verified⟩ := accepted
  have encoded : setup.server.encode .ok = .ok [0] := rfl
  have small : ([0] : Bytes).length ≤ maxControlFrameLength := by decide
  unfold Connection.verifyHello
  rw [verified]
  dsimp only
  rw [encoded]
  dsimp only
  rw [if_pos small]
  trivial

theorem handle_onTrack (inv : Sound authenticator t)
    (accepted : ∃ context, authenticator.verify setup.hello = .ok context)
    (track : OnTrack t.server) {e : HandleEvent} (smooth : Smooth (.handle e))
    {d : Connection setup.server α} (h : handleStep authenticator t.server e = some d) :
    OnTrack d := by
  have off : ∀ error, t.server.stage = .rejecting error ∨ t.server.stage = .shuttingDown error →
      False := by
    rintro error (here | here)
    · simp [OnTrack, here] at track
    · simp [OnTrack, here] at track
  cases e with
  | readEnd | readFail | timeOut | writeFail | join => exact smooth.elim
  | accept result =>
    cases result with
    | error e => exact smooth.elim
    | ok _ =>
      simp only [handleStep] at h
      split at h
      · rename_i impossible
        cases impossible
      · split_ifs at h
        obtain rfl := Option.some.inj h
        trivial
      · cases h
  | read n =>
    simp only [handleStep] at h
    split at h
    · rename_i reading
      split_ifs at h with available
      obtain rfl := Option.some.inj h
      exact readHello_onTrack inv reading available.1 available.2
    · cases h
  | verify =>
    simp only [handleStep] at h
    split at h
    · rename_i verifying
      obtain rfl := Option.some.inj h
      exact verifyHello_onTrack inv accepted verifying
    · cases h
  | write n =>
    simp only [handleStep] at h
    split at h
    · split_ifs at h
      obtain rfl := Option.some.inj h
      trivial
    · cases h
  | flush | accepted =>
    simp only [handleStep] at h
    split at h
    · obtain rfl := Option.some.inj h
      trivial
    · cases h
  | sleep delayMs =>
    simp only [handleStep] at h
    split at h
    · rename_i rejecting
      exact (off _ (.inl rejecting)).elim
    · cases h
  | shutDown =>
    simp only [handleStep] at h
    split at h
    · rename_i shutting
      exact (off _ (.inr shutting)).elim
    · cases h

/-- The client cannot find the control stream at its end before it has read the answer. -/
theorem Sound.not_ended (inv : Sound authenticator t) (track : OnTrack t.server)
    {framed : Framed setup.decoder} (awaiting : t.client = .awaiting framed)
    (all : t.unread = []) : hasClosed t.server = false := by
  obtain ⟨_, _, _, _, no_frame⟩ := inv.knows awaiting
  have answered := inv.answered
  have unanswered : written t.server ≠ okFrame := by
    intro whole
    have read : (written t.server).take t.clientRead = written t.server :=
      List.take_of_length_le (List.drop_eq_nil_iff.1 all)
    have frame : firstFrame maxControlFrameLength okFrame = some [0] := by decide
    rw [read, whole, frame] at no_frame
    cases no_frame
  unfold Answered at answered
  unfold OnTrack at track
  unfold hasClosed
  cases stage : t.server.stage with
  | notifying | tunnel =>
    rw [stage] at answered
    exact absurd answered unanswered
  | ended =>
    rw [stage] at track
    exact track.elim
  | _ => rfl

theorem smooth_unhindered (inv : Sound authenticator t)
    (fits : ∃ payload, IsHello setup payload)
    (accepted : ∃ context, authenticator.verify setup.hello = .ok context)
    (track : Unhindered t) {e : Event} (smooth : Smooth e)
    (h : handshakeStep authenticator t e = some u) : Unhindered u := by
  cases handshakeStep_moved h with
  | failed _ rough => exact absurd smooth rough
  | ended awaiting all closed =>
    exact absurd closed (Bool.eq_false_iff.1 (inv.not_ended track.server awaiting all))
  | connected | flushed | wrote | shutDown => exact ⟨nofun, track.server⟩
  | opened =>
    obtain ⟨payload, is_hello⟩ := fits
    refine ⟨fun error => ?_, track.server⟩
    change sendHello setup ≠ _
    rw [is_hello.sendHello]
    nofun
  | read awaiting some_bytes within =>
    obtain ⟨_, _, _, holds, _⟩ := inv.knows awaiting
    refine ⟨fun error => ?_, track.server⟩
    change readAnswer _ _ ≠ _
    rcases readAnswer_cases inv.server holds some_bytes within with ⟨_, going, _⟩ | ⟨done, _⟩
    · rw [going]
      nofun
    · rw [done]
      nofun
  | used | tunnelled => exact smooth.elim
  | handled step => exact ⟨track.client, handle_onTrack inv accepted track.server smooth step⟩

theorem not_admitted_goes (inv : Sound authenticator t) (track : Unhindered t)
    (short : ¬ Admitted t) :
    ∃ e u, Smooth e ∧ handshakeStep authenticator t e = some u ∧ u ≠ t := by
  by_cases returned : t.client = .returned (.ok ())
  · obtain ⟨payload, is_hello, first, _⟩ := inv.knows returned
    have outside : t.server.stage ≠ .tunnel := fun tunnel => short ⟨returned, tunnel⟩
    refine handle_goes inv is_hello first outside fun result ended => ?_
    have off := track.server
    unfold OnTrack at off
    rw [ended] at off
    exact off
  · refine authenticate_goes inv fun result here => ?_
    cases result with
    | error e => exact track.client e here
    | ok _ => exact returned here

/-- Where nothing fails and no timer fires, client and server come to authenticate each other
exactly when the server's authenticator accepts the client's hello, in whatever order the two sides
go on and however the transport cuts their bytes. -/
theorem admission_iff (fits : ∃ payload, IsHello setup payload) (es : List Event)
    (t : Handshake setup α) (run : Runs (handshakeSystem setup authenticator) es t)
    (smooth : ∀ e ∈ es, Smooth e) :
    Inevitable (handshakeSystem setup authenticator) Smooth Smooth Admitted t ↔
      ∃ context, authenticator.verify setup.hello = .ok context := by
  constructor
  · intro bound
    obtain ⟨more, u, _, rest, admitted⟩ := bound.exists_execFrom fun _ smooth => smooth
    have inv := sound_runs (run.exec_from rest)
    have knows := inv.server.knows
    rw [admitted.2] at knows
    exact inv.verified knows
  · intro accepted
    have start : Sound authenticator t ∧ Unhindered t := by
      refine guarded_invariant (M := handshakeSystem setup authenticator)
        (I := fun t => Sound authenticator t ∧ Unhindered t) (C := fun _ e => Smooth e)
        ⟨sound_new, nofun, trivial⟩ ?_ ?_ run.visits
      · rintro t e u ⟨inv, track⟩ smooth step
        exact ⟨handshakeStep_sound inv step, smooth_unhindered inv fits accepted track smooth step⟩
      · rintro _ e _ ⟨before, pre, _⟩
        exact smooth e (pre.subset (List.mem_append_right _ (List.mem_singleton_self e)))
    refine inevitable_of_measure (I := fun t => Sound authenticator t ∧ Unhindered t) remaining
      ?_ ?_ ?_ t start
    · rintro t e u ⟨inv, track⟩ smooth step
      exact ⟨handshakeStep_sound inv step, smooth_unhindered inv fits accepted track smooth step⟩
    · rintro t e u ⟨inv, _⟩ smooth step _
      exact step_remaining inv smooth.authenticates step
    · rintro t ⟨inv, track⟩ short
      exact not_admitted_goes inv track short

theorem admission_iff_greeting :
    ∃ t, exec (handshakeSystem (withSecret sevens) (secretAuthenticator sevens)) greeting = some t ∧
      Inevitable (handshakeSystem (withSecret sevens) (secretAuthenticator sevens))
        Smooth Smooth Admitted t := by
  have run : exec (handshakeSystem (withSecret sevens) (secretAuthenticator sevens)) greeting =
    some _ := rfl
  have fits : ∃ payload, IsHello (withSecret sevens) payload := ⟨_, rfl, by decide⟩
  have smooth : ∀ e ∈ greeting, Smooth e := by simp [greeting, Smooth]
  have verified : (secretAuthenticator sevens).verify (withSecret sevens).hello = .ok () := rfl
  exact ⟨_, run, (admission_iff fits _ _ (runs_of_exec run) smooth).2 ⟨(), verified⟩⟩

end Settling

end Ombrac.Authentication
