import Ombrac.LengthDelimited
import Ombrac.ProtocolCodec

set_option autoImplicit false

/-!
# The client's side of one tunnel stream

`open_bidirectional` sends the connect message over a stream that the transport has opened, waits
for the response, and hands the stream over as a `BufferedStream`, which first gives out what the
codec had read behind the response.
-/
namespace Ombrac.ClientStream
open ProtocolPacket ProtocolMessage ProtocolCodec BinaryFormat LengthDelimited

structure BufferedStream where
  buffer : Bytes
  bufferPos : ℕ
  deriving DecidableEq

namespace BufferedStream

def new (buffer : Bytes) : BufferedStream := ⟨buffer, 0⟩

def remaining (s : BufferedStream) : Bytes := s.buffer.drop s.bufferPos

/-- A read of at most `len` bytes as far as it comes out of the buffer; without one the stream
below is read. -/
def pollBuffer (s : BufferedStream) (len : ℕ) : Option (BufferedStream × Bytes) :=
  if s.bufferPos < s.buffer.length then
    let toCopy := min s.remaining.length len
    let pos := s.bufferPos + toCopy
    some (if s.buffer.length ≤ pos then ⟨[], 0⟩ else ⟨s.buffer, pos⟩, s.remaining.take toCopy)
  else none

theorem pollBuffer_remaining {s s' : BufferedStream} {len : ℕ} {bytes : Bytes}
    (h : s.pollBuffer len = some (s', bytes)) :
    bytes ++ s'.remaining = s.remaining ∧ bytes.length ≤ len := by
  simp only [pollBuffer] at h
  split_ifs at h with more all
  · obtain ⟨rfl, rfl⟩ := Prod.mk.inj (Option.some.inj h)
    have whole : s.remaining.length ≤ min s.remaining.length len := by
      have length : s.remaining.length = s.buffer.length - s.bufferPos := List.length_drop
      omega
    refine ⟨?_, ?_⟩
    · rw [List.take_of_length_le whole]
      exact List.append_nil _
    · rw [List.length_take]
      omega
  · obtain ⟨rfl, rfl⟩ := Prod.mk.inj (Option.some.inj h)
    refine ⟨?_, ?_⟩
    · change _ ++ s.buffer.drop (s.bufferPos + min s.remaining.length len) = _
      rw [← List.drop_drop]
      exact List.take_append_drop _ s.remaining
    · rw [List.length_take]
      omega

theorem remaining_of_pollBuffer {s : BufferedStream} {len : ℕ} (h : s.pollBuffer len = none) :
    s.remaining = [] := by
  simp only [pollBuffer] at h
  split_ifs at h with more
  exact List.drop_of_length_le (Nat.le_of_not_lt more)

end BufferedStream

def errorKind : ConnectErrorKind → ErrorKind
  | .connectionRefused => .connectionRefused
  | .networkUnreachable => .networkUnreachable
  | .hostUnreachable => .hostUnreachable
  | .timedOut => .timedOut
  | .other => .other

/-- `sending` has `rest` of the request still to write. -/
inductive Stage (decoder : FrameDecoder maxControlFrameLength) where
  | sending (rest : Bytes)
  | awaiting (framed : Framed decoder)
  | returned (result : Except IoError BufferedStream)

section Open
variable {decoder : FrameDecoder maxControlFrameLength}

def fail (kind : ErrorKind) (message : String) : Stage decoder := .returned (.error ⟨kind, message⟩)

def openBidirectional (display : Fault → String) (destAddr : Address) : Stage decoder :=
  match encode display (ClientMessage.connect ⟨destAddr⟩) with
  | .error e => .returned (.error e)
  | .ok payload =>
    if payload.length ≤ maxControlFrameLength then .sending (encodeFrame payload)
    else fail .invalidInput "frame size too big"

def writeRequest (rest : Bytes) : Except IoError ℕ → Stage decoder
  | .error e => .returned (.error e)
  | .ok 0 => fail .writeZero "failed to write frame to transport"
  | .ok n => .sending (rest.drop n)

def flushRequest : Except IoError Unit → Stage decoder
  | .error e => .returned (.error e)
  | .ok _ => .awaiting .new

def readFailed (message : String) : Stage decoder :=
  fail .invalidData ("failed to read server response: " ++ message)

def receiveResponse (display : Fault → String) (payload readBuf : Bytes) : Stage decoder :=
  match (decode display payload : Except IoError ServerMessage) with
  | .error e => .returned (.error e)
  | .ok (.connectResponse .ok) => .returned (.ok (.new readBuf))
  | .ok (.connectResponse (.err kind message)) =>
    fail (errorKind kind) message

/-- A read of the codec; an empty one is the end of the stream. -/
def readResponse (display : Fault → String) (framed : Framed decoder) :
    Except IoError Bytes → Stage decoder
  | .error e => readFailed e.message
  | .ok [] =>
    if framed.buffer = [] then
      fail .unexpectedEof "stream closed before receiving server response"
    else readFailed "bytes remaining on stream"
  | .ok bytes =>
    match framed.receive bytes with
    | .more state rest => .awaiting ⟨state, rest⟩
    | .frame payload rest => receiveResponse display payload rest
    | .oversized => readFailed "frame size too big"

end Open
end Ombrac.ClientStream
