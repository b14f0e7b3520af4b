import Ombrac.SliceChunks

set_option autoImplicit false

/-!
# Addresses, errors and datagrams of the tunnel protocol

The data model shared by client and server: socket addresses as the standard library has them,
the protocol's `Address`, the two forms of `UdpPacket`, and the split of a large packet.
-/
namespace Ombrac.ProtocolPacket
open SliceChunks

abbrev Bytes := List UInt8

structure Ipv4Addr where
  bits : UInt32
  deriving DecidableEq, Repr

structure Ipv6Addr where
  bits : BitVec 128
  deriving DecidableEq, Repr

inductive IpAddr where
  | v4 (ip : Ipv4Addr)
  | v6 (ip : Ipv6Addr)
  deriving DecidableEq, Repr

structure SocketAddrV4 where
  ip : Ipv4Addr
  port : UInt16
  deriving DecidableEq, Repr

structure SocketAddrV6 where
  ip : Ipv6Addr
  port : UInt16
  flowinfo : UInt32
  scopeId : UInt32
  deriving DecidableEq, Repr

inductive SocketAddr where
  | v4 (addr : SocketAddrV4)
  | v6 (addr : SocketAddrV6)
  deriving DecidableEq, Repr

namespace SocketAddr

/-- `SocketAddr::new`: flow information and scope of an IPv6 address are zero. -/
def new : IpAddr → UInt16 → SocketAddr
  | .v4 ip, port => .v4 ⟨ip, port⟩
  | .v6 ip, port => .v6 ⟨ip, port, 0, 0⟩

def ip : SocketAddr → IpAddr
  | .v4 addr => .v4 addr.ip
  | .v6 addr => .v6 addr.ip

def port : SocketAddr → UInt16
  | .v4 addr => addr.port
  | .v6 addr => addr.port

@[simp] theorem new_port (ip : IpAddr) (port : UInt16) : (new ip port).port = port := by
  cases ip <;> rfl

@[simp] theorem new_ip (ip : IpAddr) (port : UInt16) : (new ip port).ip = ip := by
  cases ip <;> rfl

end SocketAddr

inductive Address where
  | socketV4 (addr : SocketAddrV4)
  | socketV6 (addr : SocketAddrV6)
  | domain (name : Bytes) (port : UInt16)
  deriving DecidableEq, Repr

def Address.ofSocketAddr : SocketAddr → Address
  | .v4 addr => .socketV4 addr
  | .v6 addr => .socketV6 addr

def Address.port : Address → UInt16
  | .socketV4 addr => addr.port
  | .socketV6 addr => addr.port
  | .domain _ port => port

inductive UdpPacket where
  | unfragmented (sessionId : UInt64) (address : Address) (data : Bytes)
  | fragmented (sessionId : UInt64) (fragmentId : UInt32) (fragmentIndex fragmentCount : UInt16)
      (address : Option Address) (data : Bytes)
  deriving DecidableEq, Repr

/-- The kinds of `io::Error` that the modelled code makes or tells apart. -/
inductive ErrorKind where
  | notFound | permissionDenied | connectionRefused | connectionReset | connectionAborted
  | notConnected | networkUnreachable | networkDown | hostUnreachable | brokenPipe | invalidInput
  | invalidData | timedOut | interrupted | unexpectedEof | unsupported | writeZero | other
  deriving DecidableEq, Repr

structure IoError where
  kind : ErrorKind
  message : String
  deriving DecidableEq, Repr

def fragmentOf (sessionId : UInt64) (address : Address) (fragmentId : UInt32)
    (fragmentCount : UInt16) (i : ℕ) (chunk : Bytes) : UdpPacket :=
  let fragmentIndex := i.toUInt16
  .fragmented sessionId fragmentId fragmentIndex fragmentCount
    (if fragmentIndex = 0 then some address else none) chunk

/-- `UdpPacket::split_packet`; `none` is a panic, of `chunks(0)` or of the assertion on the
count after it was narrowed to 16 bits. -/
def splitPacket (sessionId : UInt64) (address : Address) (data : Bytes) (maxPayloadSize : ℕ)
    (fragmentId : UInt32) : Option (List UdpPacket) :=
  if maxPayloadSize = 0 then none
  else
    let dataChunks := chunks maxPayloadSize data
    let fragmentCount := dataChunks.length.toUInt16
    if 0 < fragmentCount then
      some (dataChunks.mapIdx (fragmentOf sessionId address fragmentId fragmentCount))
    else none

end Ombrac.ProtocolPacket
