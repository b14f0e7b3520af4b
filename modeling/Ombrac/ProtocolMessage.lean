import Ombrac.ProtocolPacket

set_option autoImplicit false

/-! # The messages of the control plane -/
namespace Ombrac.ProtocolMessage
open ProtocolPacket

abbrev Secret := {bytes : Bytes // bytes.length = 32}

def protocolVersion : UInt8 := 0x01

def maxControlFrameLength : ℕ := 64 * 1024

structure ClientHello where
  version : UInt8
  secret : Secret
  options : Bytes
  deriving DecidableEq

structure ClientConnect where
  address : Address
  deriving DecidableEq

inductive ClientMessage where
  | hello (hello : ClientHello)
  | connect (connect : ClientConnect)
  deriving DecidableEq

inductive ServerAuthResponse where
  | ok | err
  deriving DecidableEq, Repr

inductive ConnectErrorKind where
  | connectionRefused | networkUnreachable | hostUnreachable | timedOut | other
  deriving DecidableEq, Repr

def ConnectErrorKind.fromIoError (error : IoError) : ConnectErrorKind :=
  match error.kind with
  | .connectionRefused => .connectionRefused
  | .networkUnreachable => .networkUnreachable
  | .hostUnreachable => .hostUnreachable
  | .timedOut => .timedOut
  | _ => .other

inductive ServerConnectResponse where
  | ok
  | err (kind : ConnectErrorKind) (message : String)
  deriving DecidableEq, Repr

inductive ServerMessage where
  | connectResponse (response : ServerConnectResponse)
  deriving DecidableEq, Repr

theorem maxControlFrameLength_small : maxControlFrameLength < 2 ^ 32 := by decide

end Ombrac.ProtocolMessage
