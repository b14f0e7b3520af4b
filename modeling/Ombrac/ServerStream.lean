import Ombrac.CopyBidirectional
import Ombrac.LengthDelimited
import Ombrac.ProtocolCodec

set_option autoImplicit false

/-!
# The server's side of one tunnel stream

`handle_connect` reads the connect message, connects to the destination, answers, and then copies
between the tunnel's stream (side `a`) and the destination (side `b`). The outcome of each read,
write and connection attempt is part of the event that stands for it.
-/
namespace Ombrac.ServerStream
open ProtocolPacket ProtocolMessage ProtocolCodec BinaryFormat LengthDelimited TunTcpRelay
  CopyBidirectional

/-- `flushing` has `rest` of the bytes that came behind the connect message still to write. -/
inductive Stage (decoder : FrameDecoder maxControlFrameLength) where
  | reading (framed : Framed decoder)
  | connecting (destination : Address) (readBuf : Bytes)
  | responding (outcome : Except IoError Unit) (readBuf rest : Bytes)
  | flushing (rest : Bytes)
  | copying
  | returned (result : Except IoError Unit)

/-- `destination`, `initialUpstreamBytes` and `stats` are those of the `StreamGuard`, and `outcome`
is that of `connect_to_destination`. `received` is what was read through the codec, `answered` what
was written through it, and `flushed` what was written to the destination before the copy. -/
structure StreamTunnel (decoder : FrameDecoder maxControlFrameLength) where
  stage : Stage decoder
  destination : Option Address
  initialUpstreamBytes : ℕ
  stats : Option CopyBidirectionalStats
  outcome : Option (Except IoError Unit)
  received : Bytes
  answered : Bytes
  flushed : Bytes
  relay : Copying

inductive Event where
  | read (result : Except IoError Bytes)
  | timeOut
  | connected (outcome : Except IoError Unit)
  | wrote (result : Except IoError ℕ)
  | flush (result : Except IoError Unit)
  | copy (e : CopyEvent)
  | finish
  | shutdown

def Event.fromClient : Event → Bytes
  | .read result => bytesRead result
  | .copy e => e.input .aToB
  | .timeOut | .connected _ | .wrote _ | .flush _ | .finish | .shutdown => []

def Event.fromDestination : Event → Bytes
  | .copy e => e.input .bToA
  | .read _ | .timeOut | .connected _ | .wrote _ | .flush _ | .finish | .shutdown => []

def connectResponse : Except IoError Unit → ServerConnectResponse
  | .ok _ => .ok
  | .error e => .err (.fromIoError e) e.message

namespace StreamTunnel
variable {decoder : FrameDecoder maxControlFrameLength}

def new : StreamTunnel decoder where
  stage := .reading .new
  destination := none
  initialUpstreamBytes := 0
  stats := none
  outcome := none
  received := []
  answered := []
  flushed := []
  relay := .new

def goto (s : StreamTunnel decoder) (stage : Stage decoder) : StreamTunnel decoder :=
  { s with stage := stage }

def fail (s : StreamTunnel decoder) (kind : ErrorKind) (message : String) : StreamTunnel decoder :=
  s.goto (.returned (.error ⟨kind, message⟩))

def toDestination (s : StreamTunnel decoder) : Bytes := s.flushed ++ s.relay.written .aToB

def fromClient (s : StreamTunnel decoder) : Bytes := s.received ++ s.relay.read .aToB

def fromDestination (s : StreamTunnel decoder) : Bytes := s.relay.read .bToA

def toClient (s : StreamTunnel decoder) : Bytes := s.relay.written .bToA

def readConnectMessage (display : Fault → String) (s : StreamTunnel decoder)
    (payload readBuf : Bytes) : StreamTunnel decoder :=
  match (decode display payload : Except IoError ClientMessage) with
  | .error e => s.goto (.returned (.error e))
  | .ok (.hello _) => s.fail .invalidData "expected connect message"
  | .ok (.connect connect) =>
    { s with destination := some connect.address }.goto (.connecting connect.address readBuf)

/-- A read of the codec; an empty one is the end of the stream. -/
def read (display : Fault → String) (s : StreamTunnel decoder) (framed : Framed decoder) :
    Except IoError Bytes → StreamTunnel decoder
  | .error e => s.goto (.returned (.error e))
  | .ok [] =>
    if framed.buffer = [] then s.fail .unexpectedEof "stream closed unexpectedly"
    else s.fail .other "bytes remaining on stream"
  | .ok bytes =>
    let s := { s with received := s.received ++ bytes }
    match framed.receive bytes with
    | .more state rest => s.goto (.reading ⟨state, rest⟩)
    | .frame payload rest => s.readConnectMessage display payload rest
    | .oversized => s.fail .invalidData "frame size too big"

def sendConnectResponse (display : Fault → String) (s : StreamTunnel decoder)
    (outcome : Except IoError Unit) (readBuf : Bytes) : StreamTunnel decoder :=
  match encode display (ServerMessage.connectResponse (connectResponse outcome)) with
  | .error e => s.goto (.returned (.error e))
  | .ok payload =>
    if payload.length ≤ maxControlFrameLength then
      s.goto (.responding outcome readBuf (encodeFrame payload))
    else s.fail .invalidInput "frame size too big"

/-- The response is out; only a stream with a destination goes on. -/
def responded (s : StreamTunnel decoder) (outcome : Except IoError Unit) (readBuf : Bytes) :
    StreamTunnel decoder :=
  match outcome with
  | .error e => s.goto (.returned (.error e))
  | .ok _ =>
    { s with initialUpstreamBytes := readBuf.length }.goto
      (if readBuf = [] then .copying else .flushing readBuf)

def writeResponse (s : StreamTunnel decoder) (outcome : Except IoError Unit)
    (readBuf rest : Bytes) : Except IoError ℕ → StreamTunnel decoder
  | .error e => s.goto (.returned (.error e))
  | .ok 0 => s.fail .writeZero "failed to write frame to transport"
  | .ok n =>
    { s with answered := s.answered ++ rest.take n }.goto
      (.responding outcome readBuf (rest.drop n))

def writeBuffered (s : StreamTunnel decoder) (rest : Bytes) :
    Except IoError ℕ → StreamTunnel decoder
  | .error e => s.goto (.returned (.error e))
  | .ok 0 => s.goto (.returned (.error Copy.writeZero))
  | .ok n =>
    { s with flushed := s.flushed ++ rest.take n }.goto
      (if rest.drop n = [] then .copying else .flushing (rest.drop n))

def step (display : Fault → String) (s : StreamTunnel decoder) :
    Event → Option (StreamTunnel decoder)
  | .read result =>
    match s.stage with
    | .reading framed => some (s.read display framed result)
    | _ => none
  | .timeOut =>
    match s.stage with
    | .reading _ => some (s.fail .timedOut "timeout reading connect message")
    | _ => none
  | .connected outcome =>
    match s.stage with
    | .connecting _ readBuf =>
      some ({ s with outcome := some outcome }.sendConnectResponse display outcome readBuf)
    | _ => none
  | .wrote result =>
    match s.stage with
    | .responding outcome readBuf rest =>
      if rest ≠ [] ∧ fits rest result then some (s.writeResponse outcome readBuf rest result)
      else none
    | .flushing rest => if fits rest result then some (s.writeBuffered rest result) else none
    | _ => none
  | .flush result =>
    match s.stage, result with
    | .responding _ _ [], .error e => some (s.goto (.returned (.error e)))
    | .responding outcome readBuf [], .ok _ => some (s.responded outcome readBuf)
    | _, _ => none
  | .copy e =>
    match s.stage with
    | .copying => (s.relay.step e).map fun relay => { s with relay := relay }
    | _ => none
  | .finish =>
    match s.stage with
    | .copying =>
      s.relay.result.map fun result =>
        { s with stats := some s.relay.stats }.goto (.returned result)
    | _ => none
  | .shutdown =>
    match s.stage with
    | .copying => some (s.fail .interrupted "connection closed due to active closure")
    | _ => none

def hasReturned (s : StreamTunnel decoder) : Bool :=
  match s.stage with
  | .returned _ => true
  | _ => false

/-! ## What `handle_connect` has done where it is -/

def Untouched (s : StreamTunnel decoder) : Prop :=
  s.flushed = [] ∧ s.relay = .new ∧ s.stats = none

def Asked (display : Fault → String) (s : StreamTunnel decoder) (readBuf : Bytes) : Prop :=
  ∃ payload destination, s.received = encodeFrame payload ++ readBuf ∧
    payload.length ≤ maxControlFrameLength ∧
    decode display payload = .ok (ClientMessage.connect ⟨destination⟩) ∧
    s.destination = some destination

def Answers (display : Fault → String) (s : StreamTunnel decoder) (outcome : Except IoError Unit)
    (bytes : Bytes) : Prop :=
  s.outcome = some outcome ∧ ∃ payload,
    encode display (ServerMessage.connectResponse (connectResponse outcome)) = .ok payload ∧
    payload.length ≤ maxControlFrameLength ∧ bytes = encodeFrame payload

def Relayed (s : StreamTunnel decoder) (readBuf : Bytes) : Prop :=
  s.flushed = readBuf ∧ s.initialUpstreamBytes = readBuf.length ∧
    ∀ stats, s.stats = some stats → stats = s.relay.stats

/-- As much of the hand-over as `handle_connect` may have made when it returns. -/
def HandedOver (s : StreamTunnel decoder) (outcome : Except IoError Unit) (readBuf rest : Bytes) :
    Prop :=
  s.Untouched ∨ (outcome = .ok () ∧ rest = [] ∧
    ((s.flushed <+: readBuf ∧ s.relay = .new ∧ s.stats = none) ∨ s.Relayed readBuf))

def Settled (display : Fault → String) (s : StreamTunnel decoder) : Prop :=
  (s.answered = [] ∧ s.Untouched) ∨ ∃ outcome readBuf rest, s.Asked display readBuf ∧
    s.Answers display outcome (s.answered ++ rest) ∧ s.HandedOver outcome readBuf rest

def Knows (display : Fault → String) (s : StreamTunnel decoder) : Stage decoder → Prop
  | .reading framed => (framed.Holds s.received ∧ s.outcome = none) ∧ s.answered = [] ∧ s.Untouched
  | .connecting _ readBuf => (s.Asked display readBuf ∧ s.outcome = none) ∧ s.answered = [] ∧
      s.Untouched
  | .responding outcome readBuf rest => s.Asked display readBuf ∧
      s.Answers display outcome (s.answered ++ rest) ∧ s.Untouched
  | .flushing rest => s.Asked display (s.flushed ++ rest) ∧
      s.Answers display (.ok ()) s.answered ∧
      s.initialUpstreamBytes = (s.flushed ++ rest).length ∧ s.relay = .new ∧ s.stats = none
  | .copying => ∃ readBuf, s.Asked display readBuf ∧ s.Answers display (.ok ()) s.answered ∧
      s.Relayed readBuf ∧ s.stats = none
  | .returned _ => s.Settled display

structure Invariant (display : Fault → String) (s : StreamTunnel decoder) : Prop where
  faithful : s.relay.Faithful
  knows : s.Knows display s.stage

section Steps
variable {display : Fault → String} {s v : StreamTunnel decoder}

theorem Invariant.new : (new : StreamTunnel decoder).Invariant display :=
  ⟨Copying.faithful_new, ⟨Framed.holds_new, rfl⟩, rfl, rfl, rfl, rfl⟩

theorem Invariant.knows_at (inv : s.Invariant display) {stage : Stage decoder}
    (here : s.stage = stage) : s.Knows display stage := here ▸ inv.knows

/-- Whatever the stage, `handle_connect` may return there. -/
theorem Invariant.settled (inv : s.Invariant display) : s.Settled display := by
  have knows := inv.knows
  cases stage : s.stage with
  | reading framed =>
    rw [stage] at knows
    exact .inl knows.2
  | connecting destination readBuf =>
    rw [stage] at knows
    exact .inl knows.2
  | responding outcome readBuf rest =>
    rw [stage] at knows
    exact .inr ⟨outcome, readBuf, rest, knows.1, knows.2.1, .inl knows.2.2⟩
  | flushing rest =>
    rw [stage] at knows
    obtain ⟨asked, answers, _, relay, stats⟩ := knows
    refine .inr ⟨.ok (), _, [], asked, ?_, .inr ⟨rfl, rfl, .inl ⟨?_, relay, stats⟩⟩⟩
    · rw [List.append_nil]
      exact answers
    · exact List.prefix_append _ _
  | copying =>
    rw [stage] at knows
    obtain ⟨readBuf, asked, answers, relayed, _⟩ := knows
    refine .inr ⟨.ok (), readBuf, [], asked, ?_, .inr ⟨rfl, rfl, .inr relayed⟩⟩
    rw [List.append_nil]
    exact answers
  | returned result =>
    rw [stage] at knows
    exact knows

theorem Invariant.unknown (inv : s.Invariant display) {destination : Address} {readBuf : Bytes}
    (connecting : s.stage = .connecting destination readBuf) : s.outcome = none := by
  have knows := inv.knows_at connecting
  exact knows.1.2

theorem Invariant.returned (inv : s.Invariant display) (result : Except IoError Unit) :
    (s.goto (.returned result)).Invariant display :=
  ⟨inv.faithful, inv.settled⟩

theorem Invariant.read (inv : s.Invariant display) {framed : Framed decoder}
    (reading : s.stage = .reading framed) (result : Except IoError Bytes) :
    (s.read display framed result).Invariant display := by
  obtain ⟨⟨holds, unknown⟩, unanswered, untouched⟩ := inv.knows_at reading
  cases result with
  | error e => exact inv.returned _
  | ok bytes =>
    cases bytes with
    | nil =>
      simp only [StreamTunnel.read]
      split_ifs
      · exact inv.returned _
      · exact inv.returned _
    | cons b bytes =>
      have left : ∀ d : Option Address, ∀ result,
          ({ s with received := s.received ++ b :: bytes, destination := d }.goto
            (.returned result)).Invariant display :=
        fun d result => ⟨inv.faithful, .inl ⟨unanswered, untouched⟩⟩
      simp only [StreamTunnel.read]
      cases decoded : framed.receive (b :: bytes) with
      | more state rest =>
        exact ⟨inv.faithful, ⟨holds.more decoded, unknown⟩, unanswered, untouched⟩
      | frame payload rest =>
        have spec := holds.receive_of (b :: bytes)
        rw [decoded] at spec
        simp only [readConnectMessage]
        split
        · exact left s.destination _
        · exact left s.destination _
        · rename_i connect message
          have asked : Asked display { s with
              received := s.received ++ b :: bytes
              destination := some connect.address } rest :=
            ⟨payload, connect.address, spec.1, spec.2, message, rfl⟩
          exact ⟨inv.faithful, ⟨asked, unknown⟩, unanswered, untouched⟩
      | oversized => exact left s.destination _

theorem Invariant.connected (inv : s.Invariant display) {destination : Address} {readBuf : Bytes}
    (connecting : s.stage = .connecting destination readBuf) (outcome : Except IoError Unit) :
    ({ s with outcome := some outcome }.sendConnectResponse display outcome readBuf).Invariant
      display := by
  obtain ⟨⟨asked, _⟩, unanswered, untouched⟩ := inv.knows_at connecting
  simp only [sendConnectResponse]
  split
  · exact ⟨inv.faithful, .inl ⟨unanswered, untouched⟩⟩
  · rename_i payload encoded
    split_ifs with small
    · refine ⟨inv.faithful, asked, ⟨rfl, payload, encoded, small, ?_⟩, untouched⟩
      change s.answered ++ encodeFrame payload = encodeFrame payload
      rw [unanswered, List.nil_append]
    · exact ⟨inv.faithful, .inl ⟨unanswered, untouched⟩⟩

theorem Invariant.writeResponse (inv : s.Invariant display) {outcome : Except IoError Unit}
    {readBuf rest : Bytes} (responding : s.stage = .responding outcome readBuf rest)
    (result : Except IoError ℕ) :
    (s.writeResponse outcome readBuf rest result).Invariant display := by
  obtain ⟨asked, answers, untouched⟩ := inv.knows_at responding
  match result with
  | .error e => exact inv.returned _
  | .ok 0 => exact inv.returned _
  | .ok (n + 1) =>
    refine ⟨inv.faithful, asked, ?_, untouched⟩
    change s.Answers display outcome (s.answered ++ rest.take (n + 1) ++ rest.drop (n + 1))
    rw [List.append_assoc, List.take_append_drop]
    exact answers

theorem Invariant.responded (inv : s.Invariant display) {outcome : Except IoError Unit}
    {readBuf : Bytes} (responding : s.stage = .responding outcome readBuf []) :
    (s.responded outcome readBuf).Invariant display := by
  obtain ⟨asked, answers, flushed, relay, stats⟩ := inv.knows_at responding
  rw [List.append_nil] at answers
  cases outcome with
  | error e => exact inv.returned _
  | ok _ =>
    refine ⟨inv.faithful, ?_⟩
    simp only [StreamTunnel.responded, goto]
    split_ifs with empty
    · refine ⟨readBuf, asked, answers, ⟨flushed.trans empty.symm, rfl, ?_⟩, stats⟩
      intro st counted
      cases stats.symm.trans counted
    · have all : s.flushed ++ readBuf = readBuf := by rw [flushed, List.nil_append]
      refine ⟨all.symm ▸ asked, answers, ?_, relay, stats⟩
      change readBuf.length = (s.flushed ++ readBuf).length
      rw [all]

theorem Invariant.writeBuffered (inv : s.Invariant display) {rest : Bytes}
    (flushing : s.stage = .flushing rest) (result : Except IoError ℕ) :
    (s.writeBuffered rest result).Invariant display := by
  obtain ⟨asked, answers, initial, relay, stats⟩ := inv.knows_at flushing
  match result with
  | .error e => exact inv.returned _
  | .ok 0 => exact inv.returned _
  | .ok (n + 1) =>
    have split : s.flushed ++ rest.take (n + 1) ++ rest.drop (n + 1) = s.flushed ++ rest := by
      rw [List.append_assoc, List.take_append_drop]
    refine ⟨inv.faithful, ?_⟩
    simp only [StreamTunnel.writeBuffered, goto]
    split_ifs with done
    · rw [done, List.append_nil] at split
      refine ⟨_, asked, answers, ⟨split, initial, ?_⟩, stats⟩
      intro st counted
      cases stats.symm.trans counted
    · refine ⟨?_, answers, ?_, relay, stats⟩
      · change s.Asked display (s.flushed ++ rest.take (n + 1) ++ rest.drop (n + 1))
        rw [split]
        exact asked
      · change s.initialUpstreamBytes =
          (s.flushed ++ rest.take (n + 1) ++ rest.drop (n + 1)).length
        rw [split]
        exact initial

theorem Invariant.copy (inv : s.Invariant display) (copying : s.stage = .copying)
    {relay : Copying} {e : CopyEvent} (moved : s.relay.step e = some relay) :
    ({ s with relay := relay }).Invariant display := by
  obtain ⟨readBuf, asked, answers, ⟨flushed, initial, _⟩, stats⟩ := inv.knows_at copying
  refine ⟨inv.faithful.step moved, ?_⟩
  simp only [copying]
  refine ⟨readBuf, asked, answers, ⟨flushed, initial, ?_⟩, stats⟩
  intro st counted
  cases stats.symm.trans counted

theorem Invariant.finish (inv : s.Invariant display) (copying : s.stage = .copying)
    (result : Except IoError Unit) :
    ({ s with stats := some s.relay.stats }.goto (.returned result)).Invariant display := by
  obtain ⟨readBuf, asked, answers, ⟨flushed, initial, _⟩, _⟩ := inv.knows_at copying
  refine ⟨inv.faithful, .inr ⟨.ok (), readBuf, [], asked, ?_, .inr ⟨rfl, rfl, .inr ?_⟩⟩⟩
  · rw [List.append_nil]
    exact answers
  · exact ⟨flushed, initial, fun _ counted => (Option.some.inj counted).symm⟩

inductive Stepped (display : Fault → String) (s : StreamTunnel decoder) :
    Event → StreamTunnel decoder → Prop where
  | read {framed : Framed decoder} (reading : s.stage = .reading framed)
      (result : Except IoError Bytes) :
      Stepped display s (.read result) (s.read display framed result)
  | returned {e : Event} (up : e.fromClient = []) (down : e.fromDestination = [])
      (result : Except IoError Unit) : Stepped display s e (s.goto (.returned result))
  | connected {destination : Address} {readBuf : Bytes}
      (connecting : s.stage = .connecting destination readBuf) (outcome : Except IoError Unit) :
      Stepped display s (.connected outcome)
        ({ s with outcome := some outcome }.sendConnectResponse display outcome readBuf)
  | answered {outcome : Except IoError Unit} {readBuf rest : Bytes}
      (responding : s.stage = .responding outcome readBuf rest) (result : Except IoError ℕ) :
      Stepped display s (.wrote result) (s.writeResponse outcome readBuf rest result)
  | responded {outcome : Except IoError Unit} {readBuf : Bytes}
      (responding : s.stage = .responding outcome readBuf []) (result : Except IoError Unit) :
      Stepped display s (.flush result) (s.responded outcome readBuf)
  | buffered {rest : Bytes} (flushing : s.stage = .flushing rest) (result : Except IoError ℕ) :
      Stepped display s (.wrote result) (s.writeBuffered rest result)
  | copied (copying : s.stage = .copying) {relay : Copying} {e : CopyEvent}
      (moved : s.relay.step e = some relay) :
      Stepped display s (.copy e) { s with relay := relay }
  | finished (copying : s.stage = .copying) (result : Except IoError Unit) :
      Stepped display s .finish ({ s with stats := some s.relay.stats }.goto (.returned result))

theorem stepped_of_step {e : Event} (h : s.step display e = some v) : s.Stepped display e v := by
  cases e with
  | read result =>
    simp only [StreamTunnel.step] at h
    split at h
    · rename_i reading
      obtain rfl := Option.some.inj h
      exact .read reading result
    · cases h
  | timeOut =>
    simp only [StreamTunnel.step] at h
    split at h
    · obtain rfl := Option.some.inj h
      exact .returned rfl rfl _
    · cases h
  | connected outcome =>
    simp only [StreamTunnel.step] at h
    split at h
    · rename_i connecting
      obtain rfl := Option.some.inj h
      exact .connected connecting outcome
    · cases h
  | wrote result =>
    simp only [StreamTunnel.step] at h
    split at h
    · rename_i responding
      split_ifs at h
      obtain rfl := Option.some.inj h
      exact .answered responding result
    · rename_i flushing
      split_ifs at h
      obtain rfl := Option.some.inj h
      exact .buffered flushing result
    · cases h
  | flush result =>
    simp only [StreamTunnel.step] at h
    split at h
    · obtain rfl := Option.some.inj h
      exact .returned rfl rfl _
    · rename_i responding
      obtain rfl := Option.some.inj h
      exact .responded responding _
    · cases h
  | copy e =>
    simp only [StreamTunnel.step] at h
    split at h
    · rename_i copying
      obtain ⟨relay, moved, rfl⟩ := Option.map_eq_some_iff.1 h
      exact .copied copying moved
    · cases h
  | finish =>
    simp only [StreamTunnel.step] at h
    split at h
    · rename_i copying
      obtain ⟨result, _, rfl⟩ := Option.map_eq_some_iff.1 h
      exact .finished copying result
    · cases h
  | shutdown =>
    simp only [StreamTunnel.step] at h
    split at h
    · obtain rfl := Option.some.inj h
      exact .returned rfl rfl _
    · cases h

theorem Invariant.step (inv : s.Invariant display) {e : Event}
    (h : s.step display e = some v) : v.Invariant display := by
  cases stepped_of_step h with
  | read reading result => exact inv.read reading result
  | returned _ _ result => exact inv.returned result
  | connected connecting outcome => exact inv.connected connecting outcome
  | answered responding result => exact inv.writeResponse responding result
  | responded responding _ => exact inv.responded responding
  | buffered flushing result => exact inv.writeBuffered flushing result
  | copied copying moved => exact inv.copy copying moved
  | finished copying result => exact inv.finish copying result

/-- The statistics are those of a copy that the buffered bytes went before as a whole. -/
theorem Invariant.stats_eq (inv : s.Invariant display) {stats : CopyBidirectionalStats}
    (counted : s.stats = some stats) :
    s.flushed.length = s.initialUpstreamBytes ∧ stats = s.relay.stats := by
  have uncounted : ¬s.stats = none := by simp [counted]
  obtain ⟨_, untouched⟩ | ⟨outcome, readBuf, rest, _, _, handed⟩ := inv.settled
  · exact absurd untouched.2.2 uncounted
  · obtain untouched | ⟨_, _, ⟨_, _, none⟩ | ⟨flushed, initial, same⟩⟩ := handed
    · exact absurd untouched.2.2 uncounted
    · exact absurd none uncounted
    · exact ⟨by rw [flushed, initial], same stats counted⟩

/-! ## What a client can see of it -/

/-- What has come behind the connect message and not gone to the destination; once
`handle_connect` has returned or the copy has failed it is lost. -/
def held (s : StreamTunnel decoder) : Option Bytes :=
  match s.stage with
  | .reading _ | .returned _ => none
  | .connecting _ readBuf | .responding _ readBuf _ => some readBuf
  | .flushing rest => some rest
  | .copying => pending (s.relay.copies .aToB)

def Received (display : Fault → String) (s : StreamTunnel decoder) (data : Bytes) : Prop :=
  ∃ payload destination, s.fromClient = encodeFrame payload ++ data ∧
    payload.length ≤ maxControlFrameLength ∧
    decode display payload = .ok (ClientMessage.connect ⟨destination⟩) ∧
    s.destination = some destination

theorem Asked.received {readBuf : Bytes} (asked : s.Asked display readBuf) :
    s.Received display (readBuf ++ s.relay.read .aToB) := by
  obtain ⟨payload, destination, received, rest⟩ := asked
  refine ⟨payload, destination, ?_, rest⟩
  rw [fromClient, received, List.append_assoc]

theorem Untouched.toDestination (untouched : s.Untouched) : s.toDestination = [] := by
  rw [StreamTunnel.toDestination, untouched.1, untouched.2.1]
  rfl

theorem Untouched.toClient (untouched : s.Untouched) : s.toClient = [] := by
  rw [StreamTunnel.toClient, untouched.2.1]
  rfl

theorem Asked.held_untouched {readBuf : Bytes} (asked : s.Asked display readBuf)
    (untouched : s.Untouched) : s.Received display (s.toDestination ++ readBuf) := by
  have received := asked.received
  rw [untouched.2.1] at received
  rw [untouched.toDestination]
  change s.Received display (readBuf ++ []) at received
  rw [List.append_nil] at received
  exact received

/-- While `handle_connect` goes on, what has gone to the destination and what is held are all that
came behind the connect message. -/
theorem Invariant.held (inv : s.Invariant display) {pending : Bytes} (held : s.held = some pending) :
    s.Received display (s.toDestination ++ pending) := by
  have knows := inv.knows
  unfold StreamTunnel.held at held
  split at held
  · cases held
  · cases held
  · rename_i connecting
    rw [connecting] at knows
    obtain rfl := Option.some.inj held
    exact knows.1.1.held_untouched knows.2.2
  · rename_i responding
    rw [responding] at knows
    obtain rfl := Option.some.inj held
    exact knows.1.held_untouched knows.2.2
  · rename_i rest flushing
    rw [flushing] at knows
    obtain rfl := Option.some.inj held
    obtain ⟨asked, _, _, relay, _⟩ := knows
    have received := asked.received
    have out : s.toDestination = s.flushed := by
      rw [toDestination, relay]
      exact List.append_nil _
    rw [relay] at received
    change s.Received display (s.flushed ++ rest ++ []) at received
    rw [List.append_nil] at received
    rw [out]
    exact received
  · rename_i copying
    rw [copying] at knows
    obtain ⟨readBuf, asked, _, ⟨flushed, _, _⟩, _⟩ := knows
    have received := asked.received
    rw [← (inv.faithful .aToB).pending held, ← flushed, ← List.append_assoc] at received
    exact received

theorem Invariant.toDestination_prefix (inv : s.Invariant display) : s.toDestination = [] ∨
    ∃ data, s.Received display data ∧ s.toDestination <+: data := by
  obtain ⟨_, untouched⟩ | ⟨_, readBuf, _, asked, _, untouched | ⟨_, _, handed⟩⟩ := inv.settled
  · exact .inl untouched.toDestination
  · exact .inl untouched.toDestination
  · refine .inr ⟨_, asked.received, ?_⟩
    obtain ⟨flushed, relay, _⟩ | ⟨flushed, _, _⟩ := handed
    · rw [toDestination, relay]
      change s.flushed ++ [] <+: readBuf ++ []
      rw [List.append_nil, List.append_nil]
      exact flushed
    · rw [toDestination, flushed]
      exact (List.prefix_append_right_inj _).2 (inv.faithful .aToB).written_prefix_read

/-- Data goes to the client only once a response is out. -/
theorem Invariant.response (inv : s.Invariant display) (wrote : s.answered ++ s.toClient ≠ []) :
    ∃ outcome rest data, s.Received display data ∧
      s.Answers display outcome (s.answered ++ rest) ∧ (s.toClient ≠ [] → rest = []) := by
  obtain ⟨unanswered, untouched⟩ | ⟨outcome, readBuf, rest, asked, answers, handed⟩ := inv.settled
  · rw [unanswered, untouched.toClient] at wrote
    exact absurd rfl wrote
  · refine ⟨outcome, rest, _, asked.received, answers, fun data => ?_⟩
    obtain untouched | ⟨_, none, _⟩ := handed
    · exact absurd untouched.toClient data
    · exact none

/-! ## What a step reads and writes -/

structure Moves (s : StreamTunnel decoder) (up down : Bytes) (v : StreamTunnel decoder) : Prop where
  fromClient : v.fromClient = s.fromClient ++ up
  fromDestination : v.fromDestination = s.fromDestination ++ down
  answered : s.answered <+: v.answered
  toClient : s.toClient <+: v.toClient
  outcome : ∀ outcome, s.outcome = some outcome → v.outcome = some outcome

theorem Moves.of_kept (received : v.received = s.received) (relay : v.relay = s.relay)
    (answered : s.answered <+: v.answered)
    (outcome : ∀ outcome, s.outcome = some outcome → v.outcome = some outcome) :
    s.Moves [] [] v where
  fromClient := by rw [StreamTunnel.fromClient, received, relay, List.append_nil]; rfl
  fromDestination := by rw [StreamTunnel.fromDestination, relay, List.append_nil]; rfl
  answered := answered
  toClient := by
    rw [StreamTunnel.toClient, StreamTunnel.toClient, relay]
  outcome := outcome

theorem Moves.goto (s : StreamTunnel decoder) (stage : Stage decoder) :
    s.Moves [] [] (s.goto stage) :=
  .of_kept rfl rfl (List.prefix_refl _) fun _ => id

theorem read_moves (unread : s.relay.read .aToB = []) (framed : Framed decoder)
    (result : Except IoError Bytes) :
    s.Moves (bytesRead result) [] (s.read display framed result) := by
  have left : ∀ (bytes : Bytes) (d : Option Address) (stage : Stage decoder), s.Moves bytes []
      ({ s with received := s.received ++ bytes, destination := d }.goto stage) := by
    intro bytes d stage
    refine ⟨?_, (List.append_nil _).symm, List.prefix_refl _, List.prefix_refl _, fun _ => id⟩
    change s.received ++ bytes ++ s.relay.read .aToB = s.received ++ s.relay.read .aToB ++ bytes
    rw [unread, List.append_nil, List.append_nil]
  match result with
  | .error e => exact .goto s _
  | .ok [] =>
    simp only [StreamTunnel.read]
    split_ifs
    · exact .goto s _
    · exact .goto s _
  | .ok (b :: bytes) =>
    simp only [StreamTunnel.read]
    split
    · exact left _ s.destination _
    · simp only [readConnectMessage]
      split
      · exact left _ s.destination _
      · exact left _ s.destination _
      · exact left _ _ _
    · exact left _ s.destination _

/-- The outcome of the connection attempt, and with it the response to send. -/
theorem connected_moves (unknown : s.outcome = none) (outcome : Except IoError Unit)
    (readBuf : Bytes) :
    s.Moves [] [] ({ s with outcome := some outcome }.sendConnectResponse display outcome readBuf) := by
  have left : ∀ stage, s.Moves [] [] ({ s with outcome := some outcome }.goto stage) := by
    intro stage
    refine .of_kept rfl rfl (List.prefix_refl _) fun o known => ?_
    cases unknown.symm.trans known
  simp only [sendConnectResponse]
  split
  · exact left _
  · split_ifs
    · exact left _
    · exact left _

theorem writeResponse_moves (outcome : Except IoError Unit) (readBuf rest : Bytes)
    (result : Except IoError ℕ) : s.Moves [] [] (s.writeResponse outcome readBuf rest result) := by
  match result with
  | .error e => exact .goto s _
  | .ok 0 => exact .goto s _
  | .ok (n + 1) => exact .of_kept rfl rfl (List.prefix_append _ _) fun _ => id

theorem responded_moves (outcome : Except IoError Unit) (readBuf : Bytes) :
    s.Moves [] [] (s.responded outcome readBuf) := by
  cases outcome with
  | error e => exact .goto s _
  | ok _ => exact .of_kept rfl rfl (List.prefix_refl _) fun _ => id

theorem writeBuffered_moves (rest : Bytes) (result : Except IoError ℕ) :
    s.Moves [] [] (s.writeBuffered rest result) := by
  match result with
  | .error e => exact .goto s _
  | .ok 0 => exact .goto s _
  | .ok (n + 1) => exact .of_kept rfl rfl (List.prefix_refl _) fun _ => id

theorem copy_moves {relay : Copying} {e : CopyEvent} (moved : s.relay.step e = some relay) :
    s.Moves (e.input .aToB) (e.input .bToA) { s with relay := relay } where
  fromClient := by
    change s.received ++ relay.read .aToB = s.received ++ s.relay.read .aToB ++ e.input .aToB
    rw [Copying.step_read moved, List.append_assoc]
  fromDestination := Copying.step_read moved .bToA
  answered := List.prefix_refl _
  toClient := Copying.step_written moved .bToA
  outcome := fun _ => id

theorem Invariant.moves (inv : s.Invariant display) {e : Event} (h : s.step display e = some v) :
    s.Moves e.fromClient e.fromDestination v := by
  cases stepped_of_step h with
  | @read framed reading result =>
    obtain ⟨_, _, _, relay, _⟩ := inv.knows_at reading
    exact read_moves (by rw [relay]; rfl) framed result
  | returned up down _ =>
    rw [up, down]
    exact .goto s _
  | connected connecting outcome => exact connected_moves (inv.unknown connecting) outcome _
  | answered _ result => exact writeResponse_moves _ _ _ result
  | responded _ _ => exact responded_moves _ _
  | buffered _ result => exact writeBuffered_moves _ result
  | copied _ moved => exact copy_moves moved
  | finished _ _ => exact .of_kept rfl rfl (List.prefix_refl _) fun _ => id

/-- A response that is out as a whole is not added to. -/
theorem Moves.answered_whole {up down : Bytes} (moves : s.Moves up down v)
    (inv : v.Invariant display) {outcome : Except IoError Unit}
    (answers : s.Answers display outcome s.answered) :
    v.answered = s.answered ∧ v.Answers display outcome v.answered := by
  obtain ⟨known, payload, encoded, small, whole⟩ := answers
  have present : v.answered ≠ [] := by
    intro empty
    have first := moves.answered
    rw [empty, List.prefix_nil, whole] at first
    exact encodeFrame_ne_nil payload first
  obtain ⟨outcome', rest, _, _, ⟨known', payload', encoded', _, whole'⟩, _⟩ :=
    inv.response (List.append_ne_nil_of_left_ne_nil present _)
  obtain rfl := Option.some.inj ((moves.outcome _ known).symm.trans known')
  obtain rfl := Except.ok.inj (encoded.symm.trans encoded')
  have same : v.answered = s.answered := by
    obtain ⟨more, grown⟩ := moves.answered
    rw [← whole, ← grown, List.append_assoc] at whole'
    have nothing := List.append_right_eq_self.1 whole'
    rw [← grown, (List.append_eq_nil_iff.1 nothing).1, List.append_nil]
  exact ⟨same, known', payload, encoded, small, same.trans whole⟩

theorem Invariant.answers_of_toClient (inv : s.Invariant display) (data : s.toClient ≠ []) :
    ∃ outcome, s.Answers display outcome s.answered := by
  obtain ⟨outcome, rest, _, _, answers, whole⟩ :=
    inv.response (List.append_ne_nil_of_right_ne_nil _ data)
  refine ⟨outcome, ?_⟩
  rw [whole data, List.append_nil] at answers
  exact answers

/-- The bytes on the tunnel's stream are only added to. -/
theorem Moves.sent_prefix {up down : Bytes} (moves : s.Moves up down v) (before : s.Invariant display)
    (inv : v.Invariant display) : s.answered ++ s.toClient <+: v.answered ++ v.toClient := by
  by_cases data : s.toClient = []
  · rw [data, List.append_nil]
    exact moves.answered.trans (List.prefix_append _ _)
  · obtain ⟨_, answers⟩ := before.answers_of_toClient data
    rw [(moves.answered_whole inv answers).1]
    exact (List.prefix_append_right_inj _).2 moves.toClient

end Steps
end StreamTunnel
end Ombrac.ServerStream
