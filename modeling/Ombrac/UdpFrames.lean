import Ombrac.BinaryFormat
import Ombrac.UdpFastPath

set_option autoImplicit false

/-!
# The frames that carry UDP out of the netstack

`SplitWrite::send` has `etherparse` put an IP and a UDP header before a datagram. What that library
fills in by itself is a parameter; the fields that the datagram determines stand where the formats
put them.
-/
namespace Ombrac.UdpFrames
open ProtocolPacket hiding UdpPacket
open StackPacket TunUdpLoop UdpFastPath

/-- The rest of the headers, as `PacketBuilder` fills it in, and the text of its error for a payload
of some length. -/
structure PacketBuilder where
  typeOfService : UInt8
  identification : ℕ
  fragmentation : ℕ
  trafficClass : ℕ
  headerChecksum : SocketAddrV4 → SocketAddrV4 → ℕ → ℕ
  udpChecksum : SocketAddr → SocketAddr → Bytes → ℕ
  payloadTooLong : ℕ → String

def field (width n : ℕ) : Bytes := (BinaryFormat.bigEndian width n).val

def protocolUdp : UInt8 := 17

/-- The length fields have 16 bits; that of IPv4 counts its own header. -/
def maxLength : ℕ := 65535

namespace PacketBuilder
variable (builder : PacketBuilder)

def udp (source destination : SocketAddr) (data : Bytes) : Bytes :=
  field 2 source.port.toNat ++ (field 2 destination.port.toNat ++
    (field 2 (udpHeaderLen + data.length) ++
      (field 2 (builder.udpChecksum source destination data) ++ data)))

def ipv4 (ttl : UInt8) (source destination : SocketAddrV4) (data : Bytes) : Bytes :=
  [0x45, builder.typeOfService] ++ (field 2 (20 + (udpHeaderLen + data.length)) ++
    (field 2 builder.identification ++ (field 2 builder.fragmentation ++
      ([ttl] ++ ([protocolUdp] ++
        (field 2 (builder.headerChecksum source destination data.length) ++
          (field 4 source.ip.bits.toNat ++ (field 4 destination.ip.bits.toNat ++
            builder.udp (.v4 source) (.v4 destination) data))))))))

def ipv6 (hopLimit : UInt8) (source destination : SocketAddrV6) (data : Bytes) : Bytes :=
  [0x60] ++ (field 3 builder.trafficClass ++ (field 2 (udpHeaderLen + data.length) ++
    ([protocolUdp] ++ ([hopLimit] ++
      (field 16 source.ip.bits.toNat ++ (field 16 destination.ip.bits.toNat ++
        builder.udp (.v6 source) (.v6 destination) data))))))

def tooLong (data : Bytes) : IoError := ⟨.other, builder.payloadTooLong data.length⟩

def write (ttl : UInt8) (packet : UdpPacket) : Except IoError Bytes :=
  match packet.srcAddr, packet.dstAddr with
  | .v4 source, .v4 destination =>
    if 20 + (udpHeaderLen + packet.data.length) ≤ maxLength then
      .ok (builder.ipv4 ttl source destination packet.data)
    else .error (builder.tooLong packet.data)
  | .v6 source, .v6 destination =>
    if udpHeaderLen + packet.data.length ≤ maxLength then
      .ok (builder.ipv6 ttl source destination packet.data)
    else .error (builder.tooLong packet.data)
  | _, _ => .error ⟨.invalidInput, "UDP socket only supports IPv4 and IPv6"⟩

def splitWrite (ttl : UInt8) (closed : Bool) (packet : UdpPacket) : Except IoError Bytes :=
  match builder.write ttl packet with
  | .error e => .error e
  | .ok frame =>
    if closed = true then .error ⟨.other, "send error: channel closed"⟩ else .ok frame

end PacketBuilder

/-! ## Fields -/

section Fields
variable {before after : Bytes} {i width n : ℕ}

@[simp] theorem length_field (width n : ℕ) : (field width n).length = width :=
  (BinaryFormat.bigEndian width n).property

theorem foldl_bytes (bytes : Bytes) :
    bytes.foldl (fun acc byte => acc * 256 + byte.toNat) 0 =
      BinaryFormat.ofLittleEndian bytes.reverse := by
  rw [List.foldl_eq_foldr_reverse]
  induction bytes.reverse with
  | nil => rfl
  | cons byte bytes ih =>
    rw [List.foldr_cons, ih, BinaryFormat.ofLittleEndian]
    omega

/-- A field is read where it was written. -/
theorem bigEndian_field (small : n < 256 ^ width) (here : before.length = i) :
    bigEndian (before ++ (field width n ++ after)) i width = n := by
  subst here
  have whole : (field width n ++ after).take width = field width n := by
    rw [List.take_left' (length_field width n)]
  rw [bigEndian, List.drop_left, whole, foldl_bytes]
  exact BinaryFormat.ofBigEndian_bigEndian small

theorem getD_byte {byte : UInt8} (here : before.length = i) :
    (before ++ ([byte] ++ after)).getD i 0 = byte := by
  subst here
  simp [List.getD]

theorem port_small (port : UInt16) : port.toNat < 256 ^ 2 := port.toNat_lt

theorem ipv4_small (ip : Ipv4Addr) : ip.bits.toNat < 256 ^ 4 := ip.bits.toNat_lt

theorem ipv6_small (ip : Ipv6Addr) : ip.bits.toNat < 256 ^ 16 := ip.bits.isLt

end Fields

/-! ## The datagram -/

section Datagram
variable (builder : PacketBuilder) (source destination : SocketAddr) (data : Bytes)

theorem length_udp :
    (builder.udp source destination data).length = udpHeaderLen + data.length := by
  simp only [PacketBuilder.udp, List.length_append, length_field, udpHeaderLen]
  omega

theorem udp_sourcePort :
    headerWire.udpSourcePort (builder.udp source destination data) = source.port := by
  have read : bigEndian ([] ++ builder.udp source destination data) 0 2 = source.port.toNat :=
    bigEndian_field (port_small _) rfl
  exact (congrArg Nat.toUInt16 read).trans UInt16.ofNat_toNat

theorem udp_destinationPort :
    headerWire.udpDestinationPort (builder.udp source destination data) = destination.port := by
  have read : bigEndian (builder.udp source destination data) 2 2 = destination.port.toNat :=
    bigEndian_field (port_small _) (length_field ..)
  exact (congrArg Nat.toUInt16 read).trans UInt16.ofNat_toNat

theorem udp_length (fits : udpHeaderLen + data.length ≤ maxLength) :
    bigEndian (builder.udp source destination data) 4 2 = udpHeaderLen + data.length := by
  rw [PacketBuilder.udp, ← List.append_assoc]
  exact bigEndian_field (Nat.lt_succ_of_le fits) (by simp)

/-- What `udpPacket` makes of the segment. -/
theorem udpPacket_udp (packet : IpPacket) (fits : udpHeaderLen + data.length ≤ maxLength) :
    udpPacket headerSmoltcp packet (builder.udp source destination data) = some
      ⟨data, .new (packet.srcAddr headerWire) source.port,
        .new (packet.dstAddr headerWire) destination.port⟩ := by
  have size := length_udp builder source destination data
  have len := udp_length builder source destination data fits
  have checked : headerWire.checkUdp (builder.udp source destination data) = true := by
    refine decide_eq_true ?_
    rw [size, len]
    simp only [udpHeaderLen]
    omega
  have payload : headerWire.udpPayload (builder.udp source destination data) = data := by
    change ((builder.udp source destination data).take (bigEndian _ 4 2)).drop 8 = data
    rw [len, List.take_of_length_le size.le, PacketBuilder.udp, ← List.append_assoc,
      ← List.append_assoc, ← List.append_assoc]
    exact List.drop_left' (by simp)
  refine (if_pos checked).trans ?_
  change some (UdpPacket.mk
    (headerWire.udpPayload (builder.udp source destination data))
    (.new (packet.srcAddr headerWire)
      (headerWire.udpSourcePort (builder.udp source destination data)))
    (.new (packet.dstAddr headerWire)
      (headerWire.udpDestinationPort (builder.udp source destination data)))) = _
  rw [payload, udp_sourcePort, udp_destinationPort]

end Datagram
/-! ## The frame -/

section Frame
variable (builder : PacketBuilder) (ttl : UInt8) (data : Bytes)

section Ipv4
variable (source destination : SocketAddrV4)

theorem length_ipv4 :
    (builder.ipv4 ttl source destination data).length = 20 + (udpHeaderLen + data.length) := by
  simp only [PacketBuilder.ipv4, List.length_append, length_field, length_udp, List.length_cons,
    List.length_nil]
  omega

theorem ipv4_first : byteAt (builder.ipv4 ttl source destination data) 0 = 69 := by
  simp [byteAt, PacketBuilder.ipv4]

theorem ipv4_totalLen (fits : 20 + (udpHeaderLen + data.length) ≤ maxLength) :
    bigEndian (builder.ipv4 ttl source destination data) 2 2 =
      20 + (udpHeaderLen + data.length) :=
  bigEndian_field (Nat.lt_succ_of_le fits) rfl

theorem ipv4_protocol :
    (builder.ipv4 ttl source destination data).getD 9 0 = protocolUdp := by
  rw [PacketBuilder.ipv4, ← List.append_assoc, ← List.append_assoc, ← List.append_assoc,
    ← List.append_assoc]
  exact getD_byte (by simp)

theorem ipv4_source :
    headerWire.ipv4Source (builder.ipv4 ttl source destination data) = source.ip := by
  have read : bigEndian (builder.ipv4 ttl source destination data) 12 4 =
      source.ip.bits.toNat := by
    rw [PacketBuilder.ipv4, ← List.append_assoc, ← List.append_assoc, ← List.append_assoc,
      ← List.append_assoc, ← List.append_assoc, ← List.append_assoc]
    exact bigEndian_field (ipv4_small _) (by simp)
  exact congrArg Ipv4Addr.mk ((congrArg Nat.toUInt32 read).trans UInt32.ofNat_toNat)

theorem ipv4_destination :
    headerWire.ipv4Destination (builder.ipv4 ttl source destination data) = destination.ip := by
  have read : bigEndian (builder.ipv4 ttl source destination data) 16 4 =
      destination.ip.bits.toNat := by
    rw [PacketBuilder.ipv4, ← List.append_assoc, ← List.append_assoc, ← List.append_assoc,
      ← List.append_assoc, ← List.append_assoc, ← List.append_assoc, ← List.append_assoc]
    exact bigEndian_field (ipv4_small _) (by simp)
  exact congrArg Ipv4Addr.mk ((congrArg Nat.toUInt32 read).trans UInt32.ofNat_toNat)

theorem ipv4_accepted (fits : 20 + (udpHeaderLen + data.length) ≤ maxLength) :
    IpPacket.newChecked headerWire (builder.ipv4 ttl source destination data) =
      some (.ipv4 (builder.ipv4 ttl source destination data)) := by
  have size := length_ipv4 builder ttl data source destination
  have total := ipv4_totalLen builder ttl data source destination fits
  have checked : headerWire.checkIpv4 (builder.ipv4 ttl source destination data) = true := by
    refine decide_eq_true ?_
    rw [size, total, ipv4_first]
    omega
  have version : headerWire.versionOf (builder.ipv4 ttl source destination data) =
      some .ipv4 := by
    simp [headerWire, ipv4_first]
  rw [IpPacket.newChecked, version]
  exact if_pos checked

theorem ipv4_segment :
    (builder.ipv4 ttl source destination data).drop 20 =
      builder.udp (.v4 source) (.v4 destination) data := by
  rw [PacketBuilder.ipv4, ← List.append_assoc, ← List.append_assoc, ← List.append_assoc,
    ← List.append_assoc, ← List.append_assoc, ← List.append_assoc, ← List.append_assoc,
    ← List.append_assoc]
  exact List.drop_left' (by simp)

end Ipv4

section Ipv6
variable (source destination : SocketAddrV6)

theorem length_ipv6 :
    (builder.ipv6 ttl source destination data).length =
      ipv6HeaderLen + (udpHeaderLen + data.length) := by
  simp only [PacketBuilder.ipv6, ipv6HeaderLen, List.length_append, length_field, length_udp,
    List.length_cons, List.length_nil]
  omega

theorem ipv6_first : byteAt (builder.ipv6 ttl source destination data) 0 = 96 := by
  simp [byteAt, PacketBuilder.ipv6]

theorem ipv6_payloadLen (fits : udpHeaderLen + data.length ≤ maxLength) :
    bigEndian (builder.ipv6 ttl source destination data) 4 2 = udpHeaderLen + data.length := by
  rw [PacketBuilder.ipv6, ← List.append_assoc]
  exact bigEndian_field (Nat.lt_succ_of_le fits) (by simp)

theorem ipv6_protocol :
    (builder.ipv6 ttl source destination data).getD 6 0 = protocolUdp := by
  rw [PacketBuilder.ipv6, ← List.append_assoc, ← List.append_assoc]
  exact getD_byte (by simp)

theorem ipv6_source :
    headerWire.ipv6Source (builder.ipv6 ttl source destination data) = source.ip := by
  have read : bigEndian (builder.ipv6 ttl source destination data) 8 16 =
      source.ip.bits.toNat := by
    rw [PacketBuilder.ipv6, ← List.append_assoc, ← List.append_assoc, ← List.append_assoc,
      ← List.append_assoc]
    exact bigEndian_field (ipv6_small _) (by simp)
  exact congrArg Ipv6Addr.mk ((congrArg (BitVec.ofNat 128) read).trans (BitVec.ofNat_toNat _ _))

theorem ipv6_destination :
    headerWire.ipv6Destination (builder.ipv6 ttl source destination data) = destination.ip := by
  have read : bigEndian (builder.ipv6 ttl source destination data) 24 16 =
      destination.ip.bits.toNat := by
    rw [PacketBuilder.ipv6, ← List.append_assoc, ← List.append_assoc, ← List.append_assoc,
      ← List.append_assoc, ← List.append_assoc]
    exact bigEndian_field (ipv6_small _) (by simp)
  exact congrArg Ipv6Addr.mk ((congrArg (BitVec.ofNat 128) read).trans (BitVec.ofNat_toNat _ _))

theorem ipv6_accepted (fits : udpHeaderLen + data.length ≤ maxLength) :
    IpPacket.newChecked headerWire (builder.ipv6 ttl source destination data) =
      some (.ipv6 (builder.ipv6 ttl source destination data)) := by
  have size := length_ipv6 builder ttl data source destination
  have payload := ipv6_payloadLen builder ttl data source destination fits
  have checked : headerWire.checkIpv6 (builder.ipv6 ttl source destination data) = true := by
    refine decide_eq_true ?_
    rw [size, payload, ipv6HeaderLen]
    omega
  have version : headerWire.versionOf (builder.ipv6 ttl source destination data) =
      some .ipv6 := by
    simp [headerWire, ipv6_first]
  rw [IpPacket.newChecked, version]
  exact if_pos checked

theorem ipv6_segment :
    (builder.ipv6 ttl source destination data).drop ipv6HeaderLen =
      builder.udp (.v6 source) (.v6 destination) data := by
  rw [PacketBuilder.ipv6, ← List.append_assoc, ← List.append_assoc, ← List.append_assoc,
    ← List.append_assoc, ← List.append_assoc, ← List.append_assoc]
  exact List.drop_left' (by simp [ipv6HeaderLen])

end Ipv6
end Frame

/-! ## What is read back -/

section ReadBack
variable {builder : PacketBuilder} {packet : UdpPacket} {frame : Bytes}

/-- Without flow information and scope, which no frame carries. -/
def plainAddr (addr : SocketAddr) : SocketAddr := .new addr.ip addr.port

def carried (packet : UdpPacket) : UdpPacket :=
  ⟨packet.data, plainAddr packet.srcAddr, plainAddr packet.dstAddr⟩

/-- One family, and a payload that the length fields can count. -/
def Fits (packet : UdpPacket) : Prop :=
  match packet.srcAddr, packet.dstAddr with
  | .v4 _, .v4 _ => 20 + (udpHeaderLen + packet.data.length) ≤ maxLength
  | .v6 _, .v6 _ => udpHeaderLen + packet.data.length ≤ maxLength
  | _, _ => False

structure ReadsBack (frame : Bytes) (datagram : UdpPacket) : Prop where
  fast : recv headerWire frame = some (some datagram)
  plain : plainRead headerSmoltcp frame = some datagram
  routed : ∃ ip, IpPacket.newChecked headerWire frame = some ip ∧ ip.protocol headerWire = .udp

theorem readsBack_of_segment {datagram : UdpPacket} {ip : IpPacket} {segment : Bytes}
    (accepted : IpPacket.newChecked headerWire frame = some ip)
    (behind : frame.drop (headerLen headerWire ip) = segment)
    (inside : payload headerSmoltcp ip = segment)
    (read : udpPacket headerSmoltcp ip segment = some datagram)
    (protocol : ip.protocol headerWire = .udp) : ReadsBack frame datagram where
  fast := by
    have fast := splitRead_eq headerSmoltcp_documented accepted
    rw [show headerSmoltcp.toWire = headerWire from rfl, behind, read] at fast
    rw [recv_eq, fast]
  plain := by
    rw [plainRead, show headerSmoltcp.toWire = headerWire from rfl, accepted, Option.bind_some,
      inside, read]
  routed := ⟨ip, accepted, protocol⟩

theorem ipv4_readsBack (builder : PacketBuilder) (ttl : UInt8) (source destination : SocketAddrV4)
    (data : Bytes) (fits : 20 + (udpHeaderLen + data.length) ≤ maxLength) :
    ReadsBack (builder.ipv4 ttl source destination data)
      (carried ⟨data, .v4 source, .v4 destination⟩) := by
  have accepted := ipv4_accepted builder ttl data source destination fits
  have segment := ipv4_segment builder ttl data source destination
  have header : headerWire.ipv4HeaderLen (builder.ipv4 ttl source destination data) = 20 := by
    simp [headerWire, ipv4_first]
  have read := udpPacket_udp builder (.v4 source) (.v4 destination) data
    (.ipv4 (builder.ipv4 ttl source destination data)) (by omega)
  rw [IpPacket.srcAddr, IpPacket.dstAddr, ipv4_source, ipv4_destination] at read
  refine readsBack_of_segment accepted ?_ ?_ read ?_
  · rw [headerLen, header]
    exact segment
  · have total := ipv4_totalLen builder ttl data source destination fits
    change ((builder.ipv4 ttl source destination data).take (bigEndian _ 2 2)).drop
      (headerWire.ipv4HeaderLen _) = _
    rw [total, header, List.take_of_length_le (length_ipv4 builder ttl data source destination).le]
    exact segment
  · exact congrArg IpProtocol.ofNumber (ipv4_protocol builder ttl data source destination)

theorem ipv6_readsBack (builder : PacketBuilder) (ttl : UInt8) (source destination : SocketAddrV6)
    (data : Bytes) (fits : udpHeaderLen + data.length ≤ maxLength) :
    ReadsBack (builder.ipv6 ttl source destination data)
      (carried ⟨data, .v6 source, .v6 destination⟩) := by
  have accepted := ipv6_accepted builder ttl data source destination fits
  have segment := ipv6_segment builder ttl data source destination
  have read := udpPacket_udp builder (.v6 source) (.v6 destination) data
    (.ipv6 (builder.ipv6 ttl source destination data)) fits
  rw [IpPacket.srcAddr, IpPacket.dstAddr, ipv6_source, ipv6_destination] at read
  refine readsBack_of_segment accepted segment ?_ read ?_
  · have length := ipv6_payloadLen builder ttl data source destination fits
    change ((builder.ipv6 ttl source destination data).take (ipv6HeaderLen + bigEndian _ 4 2)).drop
      ipv6HeaderLen = _
    rw [length, List.take_of_length_le (length_ipv6 builder ttl data source destination).le]
    exact segment
  · exact congrArg IpProtocol.ofNumber (ipv6_protocol builder ttl data source destination)

theorem write_ok (builder : PacketBuilder) (ttl : UInt8) (packet : UdpPacket)
    (fits : Fits packet) :
    ∃ frame, builder.write ttl packet = .ok frame ∧ ReadsBack frame (carried packet) := by
  obtain ⟨data, srcAddr, dstAddr⟩ := packet
  cases srcAddr with
  | v4 source =>
    cases dstAddr with
    | v4 destination =>
      exact ⟨_, if_pos fits, ipv4_readsBack builder ttl source destination data fits⟩
    | v6 => exact fits.elim
  | v6 source =>
    cases dstAddr with
    | v4 => exact fits.elim
    | v6 destination =>
      exact ⟨_, if_pos fits, ipv6_readsBack builder ttl source destination data fits⟩

theorem fits_of_write {ttl : UInt8} (written : builder.write ttl packet = .ok frame) :
    Fits packet := by
  obtain ⟨data, srcAddr, dstAddr⟩ := packet
  cases srcAddr with
  | v4 source =>
    cases dstAddr with
    | v4 destination =>
      by_contra large
      cases (if_neg large).symm.trans written
    | v6 => cases written
  | v6 source =>
    cases dstAddr with
    | v4 => cases written
    | v6 destination =>
      by_contra large
      cases (if_neg large).symm.trans written

end ReadBack
end Ombrac.UdpFrames
