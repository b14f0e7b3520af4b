import Ombrac.LabelledSystem
import Ombrac.UdpReassembly
import Ombrac.ReassemblyReference
import Ombrac.ServerLookup
import Ombrac.ServerDatagram
import Ombrac.BoundedChannel
import Ombrac.ClientDispatcher
import Ombrac.StackPacket
import Ombrac.StackSink
import Ombrac.StackSinkWakeup
import Ombrac.TunAddress
import Ombrac.TunToStack
import Ombrac.TunUdpLoop
import Ombrac.TunUdpReplies
import Ombrac.NetstackTcp
import Ombrac.TunTcpRelay
import Ombrac.IdleCache
import Ombrac.TunFakeDns
import Ombrac.LengthDelimited
import Ombrac.ProtocolMessage
import Ombrac.ServerHandshake
import Ombrac.BinaryFormat
import Ombrac.ProtocolCodec
import Ombrac.ClientReconnect
import Ombrac.ClientRetry
import Ombrac.SocksProtocol
import Ombrac.SocksUdpRelay
import Ombrac.DrainShutdown
import Ombrac.ServerFamilies
import Ombrac.NetstackWaiters
import Ombrac.CopyBidirectional
import Ombrac.ServerStream
import Ombrac.ServerAccounting
import Ombrac.ClientStream
import Ombrac.ConnectHandshake
import Ombrac.FfiService
import Ombrac.Semaphore
import Ombrac.ServerLimits
import Ombrac.ServerAcceptor
import Ombrac.ServerRejection
import Ombrac.FragmentLimits
import Ombrac.ConcurrentReassembly
import Ombrac.ListUpdates
import Ombrac.ReassemblySlots
import Ombrac.ExclusivePlaces
import Ombrac.FakeAddressPool
import Ombrac.NetstackBytes
import Ombrac.NetstackAccept
import Ombrac.SlotTable
import Ombrac.UdpDownstream
import Ombrac.UdpIsolation
import Ombrac.FakeDnsRefinement
import Ombrac.ReassemblyRefinement
import Ombrac.CopyFaithful
import Ombrac.ReconnectThrottle
import Ombrac.SocksConnect
import Ombrac.AddressText
import Ombrac.TunUdpDeadlock
import Ombrac.AddressLength
import Ombrac.FragmentOverhead
import Ombrac.NetstackClose
import Ombrac.NetstackNotice
import Ombrac.NetstackEof
import Ombrac.FragmentSplit
import Ombrac.AddressWire
import Ombrac.FragmentRejection
import Ombrac.ReassemblyCompletion
import Ombrac.DelimitedParser
import Ombrac.SocketAddrText
import Ombrac.AddressDisplay
import Ombrac.SocksCodec
import Ombrac.SocksStream
import Ombrac.NetstackDevice
import Ombrac.NetstackIdle
import Ombrac.UdpFastPath
import Ombrac.FfiStartup
import Ombrac.ReassemblyShape
import Ombrac.ReservedAddress
import Ombrac.SessionIdle
import Ombrac.TunUdpSingleFlow
import Ombrac.PacketBuffers
import Ombrac.NetstackDispatch
import Ombrac.UdpUpstream
import Ombrac.DatagramLoop
import Ombrac.StreamChain
import Ombrac.ServerIntake
import Ombrac.ServerLifecycle
import Ombrac.UdpFrames
import Ombrac.HttpTarget
import Ombrac.TunShutdown
import Ombrac.Authentication
