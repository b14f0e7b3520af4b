import Ombrac.ClientStream
import Ombrac.LabelledSystem
import Ombrac.ServerStream

set_option autoImplicit false

/-!
# One connection through the tunnel, client against server

The tunnel's stream carries each direction's bytes in order and cuts them anywhere. The client's
side may send data as soon as its request is out. Reads and writes may fail at either end.
-/
namespace Ombrac.ConnectHandshake
open LabelledSystem ProtocolPacket ProtocolMessage ProtocolCodec BinaryFormat LengthDelimited
  TunTcpRelay CopyBidirectional ServerStream ClientStream

/-- `requested` and `upstream` are what the client has written, its request and the data behind
it; `clientRead` counts what it has read, and `delivered` is what its `BufferedStream` gave out.
`failed` says that a read or a write of the client's codec has failed. -/
structure Tunnel (decoder : FrameDecoder maxControlFrameLength) where
  client : ClientStream.Stage decoder
  server : StreamTunnel decoder
  requested : Bytes
  upstream : Bytes
  clientRead : ℕ
  delivered : Bytes
  destinationSent : Bytes
  failed : Bool

inductive Event where
  | clientWrote (result : Except IoError ℕ)
  | clientFlush (result : Except IoError Unit)
  | clientRead (n : ℕ)
  | clientEnd
  | clientFail (error : IoError)
  | clientSend (bytes : Bytes)
  | poll (len n : ℕ)
  | destinationSend (bytes : Bytes)
  | server (e : ServerStream.Event)

namespace Tunnel
variable {decoder : FrameDecoder maxControlFrameLength}

def new (display : Fault → String) (destAddr : Address) : Tunnel decoder where
  client := openBidirectional display destAddr
  server := .new
  requested := []
  upstream := []
  clientRead := 0
  delivered := []
  destinationSent := []
  failed := false

def sent (t : Tunnel decoder) : Bytes := t.server.answered ++ t.server.toClient

def upUnread (t : Tunnel decoder) : Bytes :=
  (t.requested ++ t.upstream).drop t.server.fromClient.length

def destinationUnread (t : Tunnel decoder) : Bytes :=
  t.destinationSent.drop t.server.fromDestination.length

def downUnread (t : Tunnel decoder) : Bytes := t.sent.drop t.clientRead

def isRequested (t : Tunnel decoder) : Bool :=
  match t.client with
  | .awaiting _ | .returned (.ok _) => true
  | .sending _ | .returned (.error _) => false

def writeFails : Except IoError ℕ → Bool
  | .error _ | .ok 0 => true
  | .ok _ => false

def flushFails : Except IoError Unit → Bool
  | .error _ => true
  | .ok _ => false

def step (display : Fault → String) (t : Tunnel decoder) : Event → Option (Tunnel decoder)
  | .clientWrote result =>
    match t.client with
    | .sending rest =>
      if rest ≠ [] ∧ fits rest result then some { t with
        client := writeRequest rest result
        requested := t.requested ++ bytesWritten rest result
        failed := writeFails result }
      else none
    | _ => none
  | .clientFlush result =>
    match t.client with
    | .sending [] => some { t with client := flushRequest result, failed := flushFails result }
    | _ => none
  | .clientRead n =>
    match t.client with
    | .awaiting framed =>
      if 0 < n ∧ n ≤ t.downUnread.length then some { t with
        client := readResponse display framed (.ok (t.downUnread.take n))
        clientRead := t.clientRead + n }
      else none
    | _ => none
  | .clientEnd =>
    match t.client with
    | .awaiting framed =>
      if t.downUnread = [] ∧ t.server.hasReturned then
        some { t with client := readResponse display framed (.ok []) }
      else none
    | _ => none
  | .clientFail error =>
    match t.client with
    | .awaiting framed =>
      some { t with client := readResponse display framed (.error error), failed := true }
    | _ => none
  | .clientSend bytes =>
    if t.isRequested then some { t with upstream := t.upstream ++ bytes } else none
  | .poll len n =>
    match t.client with
    | .returned (.ok stream) =>
      match stream.pollBuffer len with
      | some (stream, bytes) => some { t with
          client := .returned (.ok stream)
          delivered := t.delivered ++ bytes }
      | none =>
        if n ≤ len ∧ n ≤ t.downUnread.length then some { t with
          clientRead := t.clientRead + n
          delivered := t.delivered ++ t.downUnread.take n }
        else none
    | _ => none
  | .destinationSend bytes => some { t with destinationSent := t.destinationSent ++ bytes }
  | .server e =>
    if e.fromClient <+: t.upUnread ∧ e.fromDestination <+: t.destinationUnread then
      (t.server.step display e).map fun server => { t with server := server }
    else none

end Tunnel

def tunnelSystem (display : Fault → String) (decoder : FrameDecoder maxControlFrameLength)
    (destAddr : Address) : System (Tunnel decoder) Event :=
  ⟨.new display destAddr, Tunnel.step display⟩

/-! ## What holds all along -/

namespace Tunnel
variable {decoder : FrameDecoder maxControlFrameLength}

def IsRequest (display : Fault → String) (destAddr : Address) (frame : Bytes) : Prop :=
  ∃ payload, encode display (ClientMessage.connect ⟨destAddr⟩) = .ok payload ∧
    payload.length ≤ maxControlFrameLength ∧ frame = encodeFrame payload

def RequestedInOrder (display : Fault → String) (destAddr : Address) (t : Tunnel decoder) : Prop :=
  (t.requested = [] ∧ t.upstream = []) ∨ ∃ frame, IsRequest display destAddr frame ∧
    t.requested <+: frame ∧ (t.upstream ≠ [] → t.requested = frame)

def refusal (cause : IoError) : IoError := ⟨errorKind (.fromIoError cause), cause.message⟩

def Unanswered (display : Fault → String) (t : Tunnel decoder) : Prop :=
  (t.server.hasReturned = true ∧
    ∀ outcome, ¬t.server.Answers display outcome t.server.answered) ∨
  (t.requested = [] ∧ t.upstream = [])

def Knows (display : Fault → String) (destAddr : Address) (t : Tunnel decoder) :
    ClientStream.Stage decoder → Prop
  | .sending rest => IsRequest display destAddr (t.requested ++ rest) ∧ t.upstream = [] ∧
      t.clientRead = 0 ∧ t.delivered = []
  | .awaiting framed => IsRequest display destAddr t.requested ∧
      framed.Holds (t.sent.take t.clientRead) ∧
      firstFrame maxControlFrameLength (t.sent.take t.clientRead) = none ∧ t.delivered = []
  | .returned (.ok stream) => IsRequest display destAddr t.requested ∧
      t.server.Answers display (.ok ()) t.server.answered ∧
      t.server.answered ++ t.delivered ++ stream.remaining = t.sent.take t.clientRead
  | .returned (.error error) => t.delivered = [] ∧ (t.failed = true ∨
      (∃ cause, t.server.Answers display (.error cause) t.server.answered ∧
        error = refusal cause) ∨ t.Unanswered display)

structure Invariant (display : Fault → String) (destAddr : Address) (t : Tunnel decoder) :
    Prop where
  server : t.server.Invariant display
  request : t.RequestedInOrder display destAddr
  up : t.server.fromClient <+: t.requested ++ t.upstream
  down : t.server.fromDestination <+: t.destinationSent
  read : t.clientRead ≤ t.sent.length
  client : t.Knows display destAddr t.client

section Facts
variable {display : Fault → String} {destAddr : Address} {t : Tunnel decoder}

theorem Invariant.knows (inv : t.Invariant display destAddr) {stage : ClientStream.Stage decoder}
    (here : t.client = stage) : t.Knows display destAddr stage := here ▸ inv.client

/-- What the server has received is the client's request and a part of its data. -/
theorem Invariant.received (inv : t.Invariant display destAddr) {data : Bytes}
    (received : t.server.Received display data) : t.requested ≠ [] ∧
      data ++ t.upUnread = t.upstream ∧
      t.server.destination = some (Address.carried destAddr) := by
  obtain ⟨payload, destination, all, small, message, known⟩ := received
  have up := inv.up
  rw [all] at up
  obtain ⟨nothing, none⟩ | ⟨frame, request, part, whole⟩ := inv.request
  · rw [nothing, none, List.append_nil, List.prefix_nil] at up
    exact absurd (List.append_eq_nil_iff.1 up).1 (encodeFrame_ne_nil payload)
  · obtain ⟨payload', encoded, small', rfl⟩ := request
    have extended : encodeFrame payload ++ data <+: encodeFrame payload' ++ t.upstream := by
      by_cases empty : t.upstream = []
      · rw [empty, List.append_nil] at up ⊢
        exact up.trans part
      · rw [← whole empty]
        exact up
    obtain ⟨rfl, more, rest⟩ := encodeFrame_prefix maxControlFrameLength_small small small' extended
    have requested : t.requested = encodeFrame payload := by
      by_cases empty : t.upstream = []
      · rw [empty, List.append_nil] at up
        have start := (List.prefix_append (encodeFrame payload) data).trans up
        exact part.eq_of_length_le start.length_le
      · exact whole empty
    refine ⟨?_, ?_, ?_⟩
    · rw [requested]
      exact encodeFrame_ne_nil payload
    · rw [upUnread, all, requested, ← rest, ← List.append_assoc, List.drop_left]
    · have same := Except.ok.inj (message.symm.trans (decode_connect encoded))
      injection same with same
      injection same with same
      rw [known, same]

/-- Whatever the client has read is a part of one response and of the data behind it. -/
theorem Invariant.response (inv : t.Invariant display destAddr) (wrote : t.sent ≠ []) :
    ∃ outcome rest payload, t.server.Answers display outcome (t.server.answered ++ rest) ∧
      encode display (ServerMessage.connectResponse (connectResponse outcome)) = .ok payload ∧
      payload.length ≤ maxControlFrameLength ∧
      t.server.answered ++ rest = encodeFrame payload ∧
      t.sent <+: encodeFrame payload ++ t.server.toClient ∧
      (t.server.toClient ≠ [] → rest = []) := by
  obtain ⟨outcome, rest, _, _, answers, whole⟩ := inv.server.response wrote
  obtain ⟨known, payload, encoded, small, frame⟩ := answers
  refine ⟨outcome, rest, payload, ⟨known, payload, encoded, small, frame⟩, encoded, small,
    frame, ?_, whole⟩
  by_cases data : t.server.toClient = []
  · rw [sent, data, List.append_nil, List.append_nil, ← frame]
    exact List.prefix_append _ _
  · rw [sent, ← frame, whole data, List.append_nil]

/-- A frame that the client has read is the server's response, which is out as a whole. -/
theorem Invariant.frame (inv : t.Invariant display destAddr) {payload rest : Bytes}
    (small : payload.length ≤ maxControlFrameLength)
    (read : encodeFrame payload ++ rest <+: t.sent) :
    ∃ outcome, t.server.Answers display outcome t.server.answered ∧
      encode display (ServerMessage.connectResponse (connectResponse outcome)) = .ok payload ∧
      t.server.answered = encodeFrame payload := by
  have wrote : t.sent ≠ [] := by
    intro empty
    rw [empty, List.prefix_nil] at read
    exact encodeFrame_ne_nil payload (List.append_eq_nil_iff.1 read).1
  obtain ⟨outcome, left, payload', answers, encoded, small', frame, pre, out⟩ := inv.response wrote
  obtain ⟨rfl, _⟩ := encodeFrame_prefix maxControlFrameLength_small small small' (read.trans pre)
  have whole : left = [] := by
    by_cases data : t.server.toClient = []
    · rw [sent, data, List.append_nil] at read
      have long := read.length_le
      have length := congrArg List.length frame
      rw [List.length_append] at long length
      exact List.length_eq_zero_iff.1 (by omega)
    · exact out data
  rw [whole, List.append_nil] at answers frame
  exact ⟨outcome, answers, encoded, frame⟩

/-- The server announces no frame that is too long. -/
theorem Invariant.declared (inv : t.Invariant display destAddr) {n m : ℕ}
    (declared : declaredLength (t.sent.take n) = some m) : m ≤ maxControlFrameLength := by
  have wrote : t.sent ≠ [] := by
    intro empty
    rw [empty, List.take_nil] at declared
    cases declared
  obtain ⟨_, _, payload, _, _, small, _, pre, _⟩ := inv.response wrote
  obtain ⟨more, whole⟩ := (List.take_prefix n t.sent).trans pre
  have same := declaredLength_append declared more
  rw [whole, declaredLength_encodeFrame maxControlFrameLength_small small] at same
  obtain rfl := Option.some.inj same
  exact small

theorem Invariant.new : (new display destAddr : Tunnel decoder).Invariant display destAddr where
  server := .new
  request := .inl ⟨rfl, rfl⟩
  up := List.prefix_refl _
  down := List.prefix_refl _
  read := Nat.zero_le _
  client := by
    simp only [Tunnel.new, openBidirectional]
    split
    · exact ⟨rfl, .inr (.inr (.inr ⟨rfl, rfl⟩))⟩
    · rename_i payload encoded
      split_ifs with small
      · exact ⟨⟨payload, encoded, small, rfl⟩, rfl, rfl, rfl⟩
      · exact ⟨rfl, .inr (.inr (.inr ⟨rfl, rfl⟩))⟩

/-! ## Steps of the client -/

/-- More of the request is written, or the write fails. -/
theorem Invariant.clientWrote (inv : t.Invariant display destAddr) {rest : Bytes}
    (sending : t.client = .sending rest) (result : Except IoError ℕ) :
    ({ t with
      client := writeRequest rest result
      requested := t.requested ++ bytesWritten rest result
      failed := writeFails result } : Tunnel decoder).Invariant display destAddr := by
  obtain ⟨request, noData, unread, undelivered⟩ := inv.knows sending
  have part : t.requested ++ bytesWritten rest result <+: t.requested ++ rest := by
    refine (List.prefix_append_right_inj _).2 ?_
    cases result with
    | error e => exact List.nil_prefix
    | ok n => exact List.take_prefix n rest
  refine ⟨inv.server, .inr ⟨_, request, part, fun data => absurd noData data⟩, ?_, inv.down,
    inv.read, ?_⟩
  · have up := inv.up
    rw [noData, List.append_nil] at up
    change t.server.fromClient <+: t.requested ++ bytesWritten rest result ++ t.upstream
    rw [List.append_assoc]
    exact up.trans (List.prefix_append _ _)
  · match result with
    | .error e => exact ⟨undelivered, .inl rfl⟩
    | .ok 0 => exact ⟨undelivered, .inl rfl⟩
    | .ok (n + 1) =>
      refine ⟨?_, noData, unread, undelivered⟩
      change IsRequest display destAddr
        (t.requested ++ rest.take (n + 1) ++ rest.drop (n + 1))
      rw [List.append_assoc, List.take_append_drop]
      exact request

theorem Invariant.clientFlush (inv : t.Invariant display destAddr)
    (sending : t.client = .sending []) (result : Except IoError Unit) :
    ({ t with client := flushRequest result, failed := flushFails result } :
      Tunnel decoder).Invariant display destAddr := by
  obtain ⟨request, noData, unread, undelivered⟩ := inv.knows sending
  refine ⟨inv.server, inv.request, inv.up, inv.down, inv.read, ?_⟩
  cases result with
  | error e => exact ⟨undelivered, .inl rfl⟩
  | ok _ =>
    rw [List.append_nil] at request
    refine ⟨request, ?_, ?_, undelivered⟩
    · change Framed.new.Holds (t.sent.take t.clientRead)
      rw [unread]
      exact Framed.holds_new
    · change firstFrame _ (t.sent.take t.clientRead) = none
      rw [unread]
      rfl

/-- A whole response has come. -/
theorem receiveResponse_knows (inv : t.Invariant display destAddr)
    (request : IsRequest display destAddr t.requested) (undelivered : t.delivered = [])
    {payload rest : Bytes} (small : payload.length ≤ maxControlFrameLength) {n : ℕ}
    (all : t.sent.take n = encodeFrame payload ++ rest) :
    ({ t with clientRead := n } : Tunnel decoder).Knows display destAddr
      (receiveResponse display payload rest) := by
  obtain ⟨outcome, answers, encoded, whole⟩ := inv.frame small (all ▸ List.take_prefix n t.sent)
  unfold receiveResponse
  rw [decode_serverMessage encoded]
  cases outcome with
  | error cause => exact ⟨undelivered, .inr (.inl ⟨cause, answers, rfl⟩)⟩
  | ok _ =>
    refine ⟨request, answers, ?_⟩
    change t.server.answered ++ t.delivered ++ rest = t.sent.take n
    rw [undelivered, List.append_nil, all, whole]

theorem Invariant.clientRead (inv : t.Invariant display destAddr) {framed : Framed decoder}
    (awaiting : t.client = .awaiting framed) {n : ℕ} (more : 0 < n)
    (there : n ≤ t.downUnread.length) :
    ({ t with
      client := readResponse display framed (.ok (t.downUnread.take n))
      clientRead := t.clientRead + n } : Tunnel decoder).Invariant display destAddr := by
  obtain ⟨request, holds, _, undelivered⟩ := inv.knows awaiting
  have read : t.sent.take t.clientRead ++ t.downUnread.take n = t.sent.take (t.clientRead + n) :=
    List.take_add.symm
  have bound : t.clientRead + n ≤ t.sent.length := by
    rw [downUnread, List.length_drop] at there
    omega
  refine ⟨inv.server, inv.request, inv.up, inv.down, bound, ?_⟩
  have spec := holds.receive_of (t.downUnread.take n)
  rw [read] at spec
  have present : t.downUnread.take n ≠ [] := by
    rw [ne_eq, List.take_eq_nil_iff]
    rintro (rfl | nothing)
    · exact Nat.lt_irrefl 0 more
    · rw [nothing] at there
      exact absurd (Nat.lt_of_lt_of_le more there) (Nat.lt_irrefl 0)
  generalize t.downUnread.take n = segment at *
  cases segment with
  | nil => exact absurd rfl present
  | cons b segment =>
    simp only [readResponse]
    cases decoded : framed.receive (b :: segment) with
    | more state rest =>
      rw [decoded] at spec
      have held := holds.more decoded
      rw [read] at held
      exact ⟨request, held, spec.2, undelivered⟩
    | frame payload rest =>
      rw [decoded] at spec
      exact receiveResponse_knows inv request undelivered spec.2 spec.1
    | oversized =>
      rw [decoded] at spec
      obtain ⟨m, declared, large⟩ := spec
      exact absurd (inv.declared declared) (Nat.not_le_of_lt large)

/-- The stream has ended before a whole response. -/
theorem Invariant.clientEnd (inv : t.Invariant display destAddr) {framed : Framed decoder}
    (awaiting : t.client = .awaiting framed) (nothing : t.downUnread = [])
    (returned : t.server.hasReturned = true) :
    ({ t with client := readResponse display framed (.ok []) } :
      Tunnel decoder).Invariant display destAddr := by
  obtain ⟨_, _, unfinished, undelivered⟩ := inv.knows awaiting
  have all : t.sent.take t.clientRead = t.sent :=
    List.take_of_length_le (List.drop_eq_nil_iff.1 nothing)
  have unanswered : ∀ outcome, ¬t.server.Answers display outcome t.server.answered := by
    rintro outcome ⟨_, payload, _, small, whole⟩
    rw [all, sent, whole, firstFrame_encodeFrame maxControlFrameLength_small small] at unfinished
    cases unfinished
  refine ⟨inv.server, inv.request, inv.up, inv.down, inv.read, ?_⟩
  simp only [readResponse]
  split_ifs
  · exact ⟨undelivered, .inr (.inr (.inl ⟨returned, unanswered⟩))⟩
  · exact ⟨undelivered, .inr (.inr (.inl ⟨returned, unanswered⟩))⟩

theorem Invariant.clientFail (inv : t.Invariant display destAddr) {framed : Framed decoder}
    (awaiting : t.client = .awaiting framed) (error : IoError) :
    ({ t with client := readResponse display framed (.error error), failed := true } :
      Tunnel decoder).Invariant display destAddr := by
  obtain ⟨_, _, _, undelivered⟩ := inv.knows awaiting
  exact ⟨inv.server, inv.request, inv.up, inv.down, inv.read, undelivered, .inl rfl⟩

theorem Invariant.clientSend (inv : t.Invariant display destAddr) (whole : t.isRequested = true)
    (bytes : Bytes) :
    ({ t with upstream := t.upstream ++ bytes } : Tunnel decoder).Invariant display destAddr := by
  obtain ⟨request, knows⟩ : IsRequest display destAddr t.requested ∧
      ({ t with upstream := t.upstream ++ bytes } : Tunnel decoder).Knows display destAddr
        t.client := by
    have knows := inv.client
    unfold isRequested at whole
    split at whole
    · rename_i awaiting
      rw [awaiting] at knows ⊢
      exact ⟨knows.1, knows⟩
    · rename_i returned
      rw [returned] at knows ⊢
      exact ⟨knows.1, knows⟩
    · cases whole
    · cases whole
  refine ⟨inv.server, .inr ⟨_, request, List.prefix_refl _, fun _ => rfl⟩, ?_, inv.down, inv.read,
    knows⟩
  change t.server.fromClient <+: t.requested ++ (t.upstream ++ bytes)
  rw [← List.append_assoc]
  exact inv.up.trans (List.prefix_append _ _)

/-- A read of the `BufferedStream`, first of what the codec has left. -/
theorem Invariant.pollBuffered (inv : t.Invariant display destAddr) {stream stream' : BufferedStream}
    (returned : t.client = .returned (.ok stream)) {len : ℕ} {bytes : Bytes}
    (polled : stream.pollBuffer len = some (stream', bytes)) :
    ({ t with client := .returned (.ok stream'), delivered := t.delivered ++ bytes } :
      Tunnel decoder).Invariant display destAddr := by
  obtain ⟨request, answers, all⟩ := inv.knows returned
  refine ⟨inv.server, inv.request, inv.up, inv.down, inv.read, request, answers, ?_⟩
  change t.server.answered ++ (t.delivered ++ bytes) ++ stream'.remaining =
    t.sent.take t.clientRead
  rw [← all, ← (BufferedStream.pollBuffer_remaining polled).1]
  simp only [List.append_assoc]

theorem Invariant.pollStream (inv : t.Invariant display destAddr) {stream : BufferedStream}
    (returned : t.client = .returned (.ok stream)) {len n : ℕ}
    (polled : stream.pollBuffer len = none) (there : n ≤ t.downUnread.length) :
    ({ t with
      clientRead := t.clientRead + n
      delivered := t.delivered ++ t.downUnread.take n } :
      Tunnel decoder).Invariant display destAddr := by
  obtain ⟨request, answers, all⟩ := inv.knows returned
  have bound : t.clientRead + n ≤ t.sent.length := by
    have := inv.read
    rw [downUnread, List.length_drop] at there
    omega
  refine ⟨inv.server, inv.request, inv.up, inv.down, bound, ?_⟩
  rw [returned]
  refine ⟨request, answers, ?_⟩
  change t.server.answered ++ (t.delivered ++ t.downUnread.take n) ++ stream.remaining =
    t.sent.take (t.clientRead + n)
  have empty := BufferedStream.remaining_of_pollBuffer polled
  rw [empty, List.append_nil] at all ⊢
  rw [List.take_add, ← all, downUnread, List.append_assoc]

/-! ## Steps of the server -/

theorem step_hasReturned {s v : StreamTunnel decoder} (returned : s.hasReturned = true)
    {e : ServerStream.Event} : s.step display e ≠ some v := by
  unfold StreamTunnel.hasReturned at returned
  split at returned
  · rename_i stage
    cases e <;> simp [StreamTunnel.step, stage]
  · cases returned

/-- What was read goes on with what is next. -/
theorem prefix_append_drop {read more all : Bytes} (before : read <+: all)
    (next : more <+: all.drop read.length) : read ++ more <+: all := by
  obtain ⟨rest, rfl⟩ := before
  rw [List.drop_left] at next
  exact (List.prefix_append_right_inj _).2 next

theorem Invariant.serverStep (inv : t.Invariant display destAddr) {e : ServerStream.Event}
    (up : e.fromClient <+: t.upUnread) (down : e.fromDestination <+: t.destinationUnread)
    {server : StreamTunnel decoder} (h : t.server.step display e = some server) :
    ({ t with server := server } : Tunnel decoder).Invariant display destAddr := by
  have stepped := inv.server.step h
  have moves := inv.server.moves h
  obtain ⟨more, sent'⟩ := moves.sent_prefix inv.server stepped
  have bound : t.clientRead ≤ t.sent.length := inv.read
  have taken : (server.answered ++ server.toClient).take t.clientRead = t.sent.take t.clientRead := by
    rw [← sent']
    exact List.take_append_of_le_length bound
  refine ⟨stepped, inv.request, ?_, ?_, ?_, ?_⟩
  · change server.fromClient <+: t.requested ++ t.upstream
    rw [moves.fromClient]
    exact prefix_append_drop inv.up up
  · change server.fromDestination <+: t.destinationSent
    rw [moves.fromDestination]
    exact prefix_append_drop inv.down down
  · change t.clientRead ≤ (server.answered ++ server.toClient).length
    rw [← sent', List.length_append]
    exact Nat.le_add_right_of_le bound
  · have knows := inv.client
    change Tunnel.Knows display destAddr _ t.client
    match client : t.client with
    | .sending rest =>
      rw [client] at knows
      exact knows
    | .awaiting framed =>
      rw [client] at knows
      obtain ⟨request, holds, unfinished, undelivered⟩ := knows
      exact ⟨request, taken.symm ▸ holds, taken.symm ▸ unfinished, undelivered⟩
    | .returned (.ok stream) =>
      rw [client] at knows
      obtain ⟨request, answers, all⟩ := knows
      obtain ⟨same, answers'⟩ := moves.answered_whole stepped answers
      refine ⟨request, answers', ?_⟩
      change server.answered ++ t.delivered ++ stream.remaining =
        (server.answered ++ server.toClient).take t.clientRead
      rw [taken, same]
      exact all
    | .returned (.error error) =>
      rw [client] at knows
      obtain ⟨undelivered, failed | ⟨cause, answers, same⟩ | ⟨returned, _⟩ | nothing⟩ := knows
      · exact ⟨undelivered, .inl failed⟩
      · exact ⟨undelivered, .inr (.inl ⟨cause, (moves.answered_whole stepped answers).2, same⟩)⟩
      · exact absurd h (step_hasReturned returned)
      · exact ⟨undelivered, .inr (.inr (.inr nothing))⟩

theorem Invariant.step (inv : t.Invariant display destAddr) {e : Event} {t' : Tunnel decoder}
    (h : t.step display e = some t') : t'.Invariant display destAddr := by
  cases e with
  | clientWrote result =>
    simp only [Tunnel.step] at h
    split at h
    · rename_i sending
      split_ifs at h
      obtain rfl := Option.some.inj h
      exact inv.clientWrote sending result
    · cases h
  | clientFlush result =>
    simp only [Tunnel.step] at h
    split at h
    · rename_i sending
      obtain rfl := Option.some.inj h
      exact inv.clientFlush sending result
    · cases h
  | clientRead n =>
    simp only [Tunnel.step] at h
    split at h
    · rename_i awaiting
      split_ifs at h with there
      obtain rfl := Option.some.inj h
      exact inv.clientRead awaiting there.1 there.2
    · cases h
  | clientEnd =>
    simp only [Tunnel.step] at h
    split at h
    · rename_i awaiting
      split_ifs at h with ended
      obtain rfl := Option.some.inj h
      exact inv.clientEnd awaiting ended.1 ended.2
    · cases h
  | clientFail error =>
    simp only [Tunnel.step] at h
    split at h
    · rename_i awaiting
      obtain rfl := Option.some.inj h
      exact inv.clientFail awaiting error
    · cases h
  | clientSend bytes =>
    simp only [Tunnel.step] at h
    split_ifs at h with whole
    obtain rfl := Option.some.inj h
    exact inv.clientSend whole bytes
  | poll len n =>
    simp only [Tunnel.step] at h
    split at h
    · rename_i returned
      split at h
      · rename_i polled
        obtain rfl := Option.some.inj h
        exact inv.pollBuffered returned polled
      · rename_i polled
        split_ifs at h with there
        obtain rfl := Option.some.inj h
        exact inv.pollStream returned polled there.2
    · cases h
  | destinationSend bytes =>
    obtain rfl := Option.some.inj h
    exact ⟨inv.server, inv.request, inv.up, inv.down.trans (List.prefix_append _ _), inv.read,
      inv.client⟩
  | server e =>
    simp only [Tunnel.step] at h
    split_ifs at h with read
    obtain ⟨server, stepped, rfl⟩ := Option.map_eq_some_iff.1 h
    exact inv.serverStep read.1 read.2 stepped

/-! ## What the two ends agree on -/

/-- The kind of the server's error, that of its response, and that of the client's error. -/
inductive KindsAgree : ErrorKind → ConnectErrorKind → ErrorKind → Prop
  | connectionRefused : KindsAgree .connectionRefused .connectionRefused .connectionRefused
  | networkUnreachable : KindsAgree .networkUnreachable .networkUnreachable .networkUnreachable
  | hostUnreachable : KindsAgree .hostUnreachable .hostUnreachable .hostUnreachable
  | timedOut : KindsAgree .timedOut .timedOut .timedOut
  | other {cause : ErrorKind} (unnamed : cause ≠ .connectionRefused ∧ cause ≠ .networkUnreachable ∧
      cause ≠ .hostUnreachable ∧ cause ≠ .timedOut) : KindsAgree cause .other .other

/-- The response is `Err` with the kind of the server's `cause`, and `error` repeats it. -/
def Repeats (display : Fault → String) (t : Tunnel decoder) (cause error : IoError) : Prop :=
  ∃ kind message payload, t.server.answered = encodeFrame payload ∧
    encode display (ServerMessage.connectResponse (.err kind message)) = .ok payload ∧
    KindsAgree cause.kind kind error.kind ∧ cause.message = message ∧ error.message = message

theorem kindsAgree_refusal (cause : IoError) :
    KindsAgree cause.kind (.fromIoError cause) (refusal cause).kind := by
  obtain ⟨kind, message⟩ := cause
  cases kind with
  | connectionRefused => exact .connectionRefused
  | networkUnreachable => exact .networkUnreachable
  | hostUnreachable => exact .hostUnreachable
  | timedOut => exact .timedOut
  | _ => exact .other (by simp)

theorem repeats_refusal {cause : IoError}
    (answers : t.server.Answers display (.error cause) t.server.answered) :
    t.Repeats display cause (refusal cause) := by
  obtain ⟨_, payload, encoded, _, frame⟩ := answers
  exact ⟨_, _, payload, frame, encoded, kindsAgree_refusal cause, rfl, rfl⟩

/-- `connected`, `accepted` and `refused` are about what `open_bidirectional` has returned, and
`awaited` says that it returns once it has read the whole response. A direction's data arrives in
order, and until `handle_connect` returns or a copy fails all of it is somewhere on the way. -/
structure Agreement (display : Fault → String) (destAddr : Address) (t : Tunnel decoder) :
    Prop where
  connected : ∀ stream, t.client = .returned (.ok stream) → t.server.outcome = some (.ok ()) ∧
    t.server.destination = some (Address.carried destAddr)
  accepted : t.server.Answers display (.ok ()) t.server.answered → t.failed = false →
    ∀ result, t.client = .returned result → ∃ stream, result = .ok stream
  refused : ∀ cause, t.server.Answers display (.error cause) t.server.answered →
    (∀ result, t.client = .returned result → ∃ error, result = .error error ∧
      (t.failed = false → t.Repeats display cause error)) ∧ t.delivered = []
  awaited : ∀ outcome framed, t.server.Answers display outcome t.server.answered →
    t.client = .awaiting framed → t.clientRead < t.server.answered.length
  exposed : t.delivered ≠ [] → ∃ stream, t.client = .returned (.ok stream)
  upstream : t.server.toDestination <+: t.upstream
  downstream : t.delivered <+: t.destinationSent
  upstreamKept : ∀ held, t.server.held = some held →
    t.server.toDestination ++ held ++ t.upUnread = t.upstream
  downstreamKept : ∀ stream, t.client = .returned (.ok stream) →
    t.delivered ++ stream.remaining ++ t.downUnread = t.server.toClient
  destinationKept : ∀ held, pending (t.server.relay.copies .bToA) = some held →
    t.server.toClient ++ held ++ t.destinationUnread = t.destinationSent

theorem Invariant.received_of_answers (inv : t.Invariant display destAddr)
    {outcome : Except IoError Unit} (answers : t.server.Answers display outcome t.server.answered) :
    ∃ data, t.server.Received display data := by
  obtain ⟨_, payload, _, _, whole⟩ := answers
  have wrote : t.server.answered ++ t.server.toClient ≠ [] := by
    rw [whole]
    exact List.append_ne_nil_of_left_ne_nil (encodeFrame_ne_nil payload) _
  obtain ⟨_, _, data, received, _⟩ := inv.server.response wrote
  exact ⟨data, received⟩

theorem Invariant.connected (inv : t.Invariant display destAddr) {stream : BufferedStream}
    (returned : t.client = .returned (.ok stream)) : t.server.outcome = some (.ok ()) ∧
      t.server.destination = some (Address.carried destAddr) := by
  obtain ⟨_, answers, _⟩ := inv.knows returned
  obtain ⟨data, received⟩ := inv.received_of_answers answers
  exact ⟨answers.1, (inv.received received).2.2⟩

theorem Invariant.exposed (inv : t.Invariant display destAddr) (given : t.delivered ≠ []) :
    ∃ stream, t.client = .returned (.ok stream) := by
  have knows := inv.client
  match client : t.client with
  | .sending rest =>
    rw [client] at knows
    exact absurd knows.2.2.2 given
  | .awaiting framed =>
    rw [client] at knows
    exact absurd knows.2.2.2 given
  | .returned (.error error) =>
    rw [client] at knows
    exact absurd knows.1 given
  | .returned (.ok stream) => exact ⟨stream, rfl⟩

/-- An error is the one that the response tells of, unless the client's own reads or writes
fail. -/
theorem Invariant.told (inv : t.Invariant display destAddr) {outcome : Except IoError Unit}
    (answers : t.server.Answers display outcome t.server.answered) {error : IoError}
    (returned : t.client = .returned (.error error)) (unfailed : t.failed = false) :
    ∃ cause, outcome = .error cause ∧ error = refusal cause := by
  obtain ⟨_, failed | ⟨cause, answers', same⟩ | ⟨_, unanswered⟩ | ⟨nothing, _⟩⟩ := inv.knows returned
  · cases failed.symm.trans unfailed
  · exact ⟨cause, Option.some.inj (answers.1.symm.trans answers'.1), same⟩
  · exact absurd answers (unanswered _)
  · obtain ⟨data, received⟩ := inv.received_of_answers answers
    exact absurd nothing (inv.received received).1

theorem Invariant.accepted (inv : t.Invariant display destAddr)
    (answers : t.server.Answers display (.ok ()) t.server.answered)
    {result : Except IoError BufferedStream} (returned : t.client = .returned result)
    (unfailed : t.failed = false) : ∃ stream, result = .ok stream := by
  cases result with
  | ok stream => exact ⟨stream, rfl⟩
  | error error =>
    obtain ⟨cause, other, _⟩ := inv.told answers returned unfailed
    cases other

theorem Invariant.refused (inv : t.Invariant display destAddr) {cause : IoError}
    (answers : t.server.Answers display (.error cause) t.server.answered)
    {result : Except IoError BufferedStream} (returned : t.client = .returned result) :
    ∃ error, result = .error error ∧ (t.failed = false → t.Repeats display cause error) := by
  cases result with
  | ok stream =>
    cases answers.1.symm.trans (inv.connected returned).1
  | error error =>
    refine ⟨error, rfl, fun unfailed => ?_⟩
    obtain ⟨cause', same, rfl⟩ := inv.told answers returned unfailed
    obtain rfl := Except.error.inj same
    exact repeats_refusal answers

/-- The client waits only while a part of the response is still to be read. -/
theorem Invariant.awaited (inv : t.Invariant display destAddr) {outcome : Except IoError Unit}
    (answers : t.server.Answers display outcome t.server.answered) {framed : Framed decoder}
    (awaiting : t.client = .awaiting framed) : t.clientRead < t.server.answered.length := by
  obtain ⟨_, _, unfinished, _⟩ := inv.knows awaiting
  by_contra all
  obtain ⟨_, payload, _, small, whole⟩ := answers
  have read : t.sent.take t.clientRead = encodeFrame payload ++
      t.server.toClient.take (t.clientRead - t.server.answered.length) := by
    rw [sent, List.take_append, List.take_of_length_le (Nat.le_of_not_lt all), whole]
  rw [read, firstFrame_encodeFrame maxControlFrameLength_small small] at unfinished
  cases unfinished

theorem Invariant.upstreamKept (inv : t.Invariant display destAddr) {held : Bytes}
    (kept : t.server.held = some held) :
    t.server.toDestination ++ held ++ t.upUnread = t.upstream :=
  (inv.received (inv.server.held kept)).2.1

theorem Invariant.upstream (inv : t.Invariant display destAddr) :
    t.server.toDestination <+: t.upstream := by
  obtain nothing | ⟨data, received, part⟩ := inv.server.toDestination_prefix
  · rw [nothing]
    exact List.nil_prefix
  · rw [← (inv.received received).2.1]
    exact part.trans (List.prefix_append _ _)

theorem Invariant.downstreamKept (inv : t.Invariant display destAddr) {stream : BufferedStream}
    (returned : t.client = .returned (.ok stream)) :
    t.delivered ++ stream.remaining ++ t.downUnread = t.server.toClient := by
  obtain ⟨_, _, all⟩ := inv.knows returned
  have whole := List.take_append_drop t.clientRead t.sent
  rw [← all, sent] at whole
  rw [List.append_assoc, List.append_assoc] at whole
  rw [List.append_assoc]
  exact List.append_cancel_left whole

theorem Invariant.toClient_prefix (inv : t.Invariant display destAddr) :
    t.server.toClient <+: t.destinationSent :=
  (inv.server.faithful .bToA).written_prefix_read.trans inv.down

theorem Invariant.downstream (inv : t.Invariant display destAddr) :
    t.delivered <+: t.destinationSent := by
  by_cases given : t.delivered = []
  · rw [given]
    exact List.nil_prefix
  · obtain ⟨stream, returned⟩ := inv.exposed given
    have kept := inv.downstreamKept returned
    rw [List.append_assoc] at kept
    exact List.IsPrefix.trans ⟨_, kept⟩ inv.toClient_prefix

theorem Invariant.destinationKept (inv : t.Invariant display destAddr) {held : Bytes}
    (kept : pending (t.server.relay.copies .bToA) = some held) :
    t.server.toClient ++ held ++ t.destinationUnread = t.destinationSent := by
  have read : t.server.toClient ++ held = t.server.fromDestination :=
    (inv.server.faithful .bToA).pending kept
  rw [read]
  exact List.prefix_iff_eq_append.1 inv.down

theorem Invariant.agreement (inv : t.Invariant display destAddr) : t.Agreement display destAddr where
  connected _ := inv.connected
  accepted answers unfailed _ returned := inv.accepted answers returned unfailed
  refused cause answers := by
    refine ⟨fun result => inv.refused answers, ?_⟩
    by_contra given
    obtain ⟨stream, returned⟩ := inv.exposed given
    cases answers.1.symm.trans (inv.connected returned).1
  awaited _ _ answers := inv.awaited answers
  exposed := inv.exposed
  upstream := inv.upstream
  downstream := inv.downstream
  upstreamKept _ := inv.upstreamKept
  downstreamKept _ := inv.downstreamKept
  destinationKept _ := inv.destinationKept

end Facts
end Tunnel

theorem connect_handshake_agrees (display : Fault → String)
    (decoder : FrameDecoder maxControlFrameLength) (destAddr : Address) {es : List Event}
    {t : Tunnel decoder} (run : Runs (tunnelSystem display decoder destAddr) es t) :
    t.Agreement display destAddr := by
  refine Tunnel.Invariant.agreement (run.invariant (I := Tunnel.Invariant display destAddr) .new ?_)
  exact fun _ _ _ inv h => inv.step h

/-- The client sends three bytes before the response is there, and two of them come with the
request. The destination's first byte comes with the response. -/
def pipelined : List Event :=
  [.clientWrote (.ok 11), .clientFlush (.ok ()), .clientSend [7, 8, 9],
    .server (.read (.ok (encodeFrame [1, 0, 1, 2, 3, 4, 80] ++ [7, 8]))),
    .server (.connected (.ok ())), .server (.wrote (.ok 6)), .server (.flush (.ok ())),
    .server (.wrote (.ok 2)), .destinationSend [5, 6], .server (.copy (.start .aToB)),
    .server (.copy (.start .bToA)), .server (.copy (.read .bToA (.ok [5, 6]))),
    .server (.copy (.wrote .bToA (.ok 1))), .clientRead 7, .poll 1 0,
    .server (.copy (.read .aToB (.ok [9])))]

theorem connect_handshake_agrees_pipelined : ∃ t, Runs (tunnelSystem (fun _ => "")
      (prefixFirst maxControlFrameLength_small) (.socketV4 ⟨⟨0x01020304⟩, 80⟩)) pipelined t ∧
    t.server.toDestination = [7, 8] ∧ t.server.held = some [9] ∧ t.delivered = [5] ∧
    t.Agreement (fun _ => "") (.socketV4 ⟨⟨0x01020304⟩, 80⟩) := by
  have ran : ∃ t, exec (tunnelSystem (fun _ => "") (prefixFirst maxControlFrameLength_small)
      (.socketV4 ⟨⟨0x01020304⟩, 80⟩)) pipelined = some t ∧
      t.server.toDestination = [7, 8] ∧ t.server.held = some [9] ∧ t.delivered = [5] :=
    ⟨_, rfl, rfl, rfl, rfl⟩
  obtain ⟨t, ran, out, held, given⟩ := ran
  have run := runs_of_exec ran
  exact ⟨t, run, out, held, given, connect_handshake_agrees _ _ _ run⟩

end Ombrac.ConnectHandshake
