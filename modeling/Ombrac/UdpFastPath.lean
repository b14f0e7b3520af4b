import Ombrac.TunUdpLoop

set_option autoImplicit false

/-!
# The UDP fast path of the netstack

`SplitRead::recv` slices the UDP header and payload off the buffer behind the IP header. The plain
parse reads them from the payload of the IP packet, which may end before the buffer does.
-/
namespace Ombrac.UdpFastPath
open ProtocolPacket hiding UdpPacket
open StackPacket TunUdpLoop

/-- What the plain parse calls besides, and the length field of a UDP header. -/
structure Smoltcp extends Wire where
  ipv4TotalLen : Bytes → ℕ
  ipv6TotalLen : Bytes → ℕ
  ipv4Payload : Bytes → Bytes
  ipv6Payload : Bytes → Bytes
  udpLen : Bytes → ℕ

structure Documented (w : Smoltcp) : Prop where
  ipv4_checked : ∀ b, w.checkIpv4 b = true →
    w.ipv4HeaderLen b ≤ w.ipv4TotalLen b ∧ w.ipv4TotalLen b ≤ b.length
  ipv6_checked : ∀ b, w.checkIpv6 b = true →
    ipv6HeaderLen ≤ w.ipv6TotalLen b ∧ w.ipv6TotalLen b ≤ b.length
  ipv4_payload : ∀ b, w.checkIpv4 b = true →
    w.ipv4Payload b = (b.take (w.ipv4TotalLen b)).drop (w.ipv4HeaderLen b)
  ipv6_payload : ∀ b, w.checkIpv6 b = true →
    w.ipv6Payload b = (b.take (w.ipv6TotalLen b)).drop ipv6HeaderLen
  udp_checked : ∀ b, w.checkUdp b = true ↔
    udpHeaderLen ≤ b.length ∧ udpHeaderLen ≤ w.udpLen b ∧ w.udpLen b ≤ b.length
  udp_payload : ∀ b, w.checkUdp b = true →
    w.udpPayload b = (b.take (w.udpLen b)).drop udpHeaderLen
  /-- The fields are those of the first eight bytes. -/
  udp_header : ∀ b b', udpHeaderLen ≤ b.length → b.take udpHeaderLen = b'.take udpHeaderLen →
    w.udpSourcePort b = w.udpSourcePort b' ∧
      w.udpDestinationPort b = w.udpDestinationPort b' ∧ w.udpLen b = w.udpLen b'

def headerLen (wire : Wire) : IpPacket → ℕ
  | .ipv4 packet => wire.ipv4HeaderLen packet
  | .ipv6 _ => ipv6HeaderLen

def payload (w : Smoltcp) : IpPacket → Bytes
  | .ipv4 packet => w.ipv4Payload packet
  | .ipv6 packet => w.ipv6Payload packet

def udpPacket (w : Smoltcp) (packet : IpPacket) (segment : Bytes) : Option UdpPacket :=
  if w.checkUdp segment then some {
    data := w.udpPayload segment
    srcAddr := .new (packet.srcAddr w.toWire) (w.udpSourcePort segment)
    dstAddr := .new (packet.dstAddr w.toWire) (w.udpDestinationPort segment) }
  else none

def plainRead (w : Smoltcp) (original : Bytes) : Option UdpPacket :=
  (IpPacket.newChecked w.toWire original).bind fun packet => udpPacket w packet (payload w packet)

/-! ## Slices -/

/-- `original_bytes[start..]`, which panics out of bounds. -/
def sliceFrom (b : Bytes) (start : ℕ) : Option Bytes :=
  if start ≤ b.length then some (b.drop start) else none

/-- `Bytes::slice`, which panics out of bounds. -/
def slice (b : Bytes) (start stop : ℕ) : Option Bytes :=
  if start ≤ stop ∧ stop ≤ b.length then some ((b.take stop).drop start) else none

/-- `SplitRead::recv` on a packet, where `none` is a panic. -/
def recv (wire : Wire) (original : Bytes) : Option (Option UdpPacket) :=
  match IpPacket.newChecked wire original with
  | none => some none
  | some packet =>
    let ipHeaderLen := headerLen wire packet
    if original.length < ipHeaderLen + udpHeaderLen then some none
    else do
      let segment ← sliceFrom original ipHeaderLen
      if wire.checkUdp segment then
        let payloadStart := ipHeaderLen + udpHeaderLen
        let payloadEnd := payloadStart + (wire.udpPayload segment).length
        if original.length < payloadEnd then return none
        else
          let data ← slice original payloadStart payloadEnd
          return some {
            data := data
            srcAddr := .new (packet.srcAddr wire) (wire.udpSourcePort segment)
            dstAddr := .new (packet.dstAddr wire) (wire.udpDestinationPort segment) }
      else return none

theorem splitRead_accepted {wire : Wire} {original : Bytes} {packet : IpPacket}
    (accepted : IpPacket.newChecked wire original = some packet) :
    splitRead wire original =
      if original.length < headerLen wire packet + udpHeaderLen then none
      else
        let segment := original.drop (headerLen wire packet)
        if wire.checkUdp segment then
          let payloadStart := headerLen wire packet + udpHeaderLen
          let payloadEnd := payloadStart + (wire.udpPayload segment).length
          if original.length < payloadEnd then none
          else some {
            data := (original.take payloadEnd).drop payloadStart
            srcAddr := .new (packet.srcAddr wire) (wire.udpSourcePort segment)
            dstAddr := .new (packet.dstAddr wire) (wire.udpDestinationPort segment) }
        else none := by
  unfold splitRead
  rw [accepted]
  cases packet <;> rfl

/-- Every slice is within bounds. -/
theorem recv_eq (wire : Wire) (original : Bytes) :
    recv wire original = some (splitRead wire original) := by
  unfold recv
  cases accepted : IpPacket.newChecked wire original with
  | none =>
    unfold splitRead
    rw [accepted]
  | some packet =>
    rw [splitRead_accepted accepted]
    dsimp only
    by_cases short : original.length < headerLen wire packet + udpHeaderLen
    · rw [if_pos short, if_pos short]
    · rw [if_neg short, if_neg short, sliceFrom, if_pos (by omega)]
      change (if wire.checkUdp (original.drop (headerLen wire packet)) = true then _ else _) = _
      split_ifs with checked exceeds
      · rfl
      · rw [slice, if_pos ⟨Nat.le_add_right _ _, Nat.le_of_not_lt exceeds⟩]
        rfl
      · rfl

/-! ## The two lengths -/

section Agreement
variable {w : Smoltcp} {original : Bytes} {packet : IpPacket}

/-- The payload of an accepted packet is the front of what stands behind its header. -/
theorem payload_eq (doc : Documented w)
    (accepted : IpPacket.newChecked w.toWire original = some packet) :
    payload w packet = (original.drop (headerLen w.toWire packet)).take (payload w packet).length ∧
      (payload w packet).length ≤ (original.drop (headerLen w.toWire packet)).length := by
  have front : ∀ {header total : ℕ}, header ≤ total ∧ total ≤ original.length →
      (original.take total).drop header =
        (original.drop header).take ((original.take total).drop header).length ∧
      ((original.take total).drop header).length ≤ (original.drop header).length := by
    intro header total within
    have size : ((original.take total).drop header).length = total - header := by
      rw [List.length_drop, List.length_take]
      omega
    refine ⟨by rw [size, List.drop_take], ?_⟩
    rw [size, List.length_drop]
    omega
  unfold IpPacket.newChecked at accepted
  split at accepted
  · cases accepted
  · split_ifs at accepted with checked
    cases accepted
    rw [payload, headerLen, doc.ipv4_payload _ checked]
    exact front (doc.ipv4_checked _ checked)
  · split_ifs at accepted with checked
    cases accepted
    rw [payload, headerLen, doc.ipv6_payload _ checked]
    exact front (doc.ipv6_checked _ checked)

/-- The fast path parses what stands behind the IP header. -/
theorem splitRead_eq (doc : Documented w)
    (accepted : IpPacket.newChecked w.toWire original = some packet) :
    splitRead w.toWire original =
      udpPacket w packet (original.drop (headerLen w.toWire packet)) := by
  have length := List.length_drop (i := headerLen w.toWire packet) (l := original)
  rw [splitRead_accepted accepted]
  dsimp only
  unfold udpPacket
  generalize headerLen w.toWire packet = header at length ⊢
  by_cases checked : w.checkUdp (original.drop header) = true
  · obtain ⟨enough, least, within⟩ := (doc.udp_checked _).1 checked
    have present : 0 < udpHeaderLen := by decide
    have data := doc.udp_payload _ checked
    generalize w.udpLen (original.drop header) = len at least within data
    have size : (w.udpPayload (original.drop header)).length = len - udpHeaderLen := by
      rw [data, List.length_drop, List.length_take]
      omega
    have stop : header + udpHeaderLen + (len - udpHeaderLen) = header + len := by omega
    rw [if_neg (by omega), if_pos checked, if_pos checked, size, stop, if_neg (by omega), data,
      ← List.drop_drop, List.drop_take, Nat.add_sub_cancel_left]
  · rw [if_neg checked, if_neg checked, ite_self]

/-- The length field reaches over the end of the IP packet, yet not over that of the buffer. -/
def Overlong (w : Smoltcp) (packet : IpPacket) (original : Bytes) : Prop :=
  let segment := original.drop (headerLen w.toWire packet)
  (payload w packet).length < w.udpLen segment ∧
    udpHeaderLen ≤ w.udpLen segment ∧ w.udpLen segment ≤ segment.length

theorem checkUdp_take_iff (doc : Documented w) {segment : Bytes} {n : ℕ}
    (within : n ≤ segment.length) :
    w.checkUdp (segment.take n) = true ↔
      w.checkUdp segment = true ∧ w.udpLen segment ≤ n := by
  have size : (segment.take n).length = n := List.length_take_of_le within
  have same : udpHeaderLen ≤ n → w.udpLen (segment.take n) = w.udpLen segment := fun enough =>
    (doc.udp_header (segment.take n) segment (size.symm ▸ enough)
      (by rw [List.take_take, Nat.min_eq_left enough])).2.2
  rw [doc.udp_checked, doc.udp_checked, size]
  constructor
  · rintro ⟨enough, least, most⟩
    rw [same enough] at least most
    exact ⟨⟨enough.trans within, least, most.trans within⟩, most⟩
  · rintro ⟨⟨_, least, _⟩, most⟩
    rw [same (least.trans most)]
    exact ⟨least.trans most, least, most⟩

theorem udpPacket_take (doc : Documented w) {segment : Bytes} {n : ℕ} (within : n ≤ segment.length)
    (checked : w.checkUdp (segment.take n) = true) :
    udpPacket w packet (segment.take n) = udpPacket w packet segment := by
  obtain ⟨whole, short⟩ := (checkUdp_take_iff doc within).1 checked
  have enough : udpHeaderLen ≤ (segment.take n).length := ((doc.udp_checked _).1 checked).1
  have front : (segment.take n).take udpHeaderLen = segment.take udpHeaderLen := by
    rw [List.length_take_of_le within] at enough
    rw [List.take_take, Nat.min_eq_left enough]
  obtain ⟨source, destination, len⟩ := doc.udp_header _ _ enough front
  unfold udpPacket
  rw [if_pos checked, if_pos whole, doc.udp_payload _ checked, doc.udp_payload _ whole, source,
    destination, len, List.take_take, Nat.min_eq_left short]

/-- The fast path gives what the plain parse gives, and slices within bounds, exactly if the length
field of the UDP header does not reach over the end of the IP packet into trailing bytes. -/
theorem fast_path_agrees_iff (doc : Documented w)
    (accepted : IpPacket.newChecked w.toWire original = some packet) :
    recv w.toWire original = some (plainRead w original) ↔ ¬ Overlong w packet original := by
  obtain ⟨front, within⟩ := payload_eq doc accepted
  have plain : plainRead w original = udpPacket w packet (payload w packet) := by
    unfold plainRead
    rw [accepted]
    rfl
  rw [recv_eq, splitRead_eq doc accepted, plain, Option.some_inj]
  unfold Overlong
  dsimp only
  generalize original.drop (headerLen w.toWire packet) = segment at front within ⊢
  generalize (payload w packet).length = n at front within ⊢
  rw [front]
  have checked_iff := checkUdp_take_iff doc within
  by_cases checked : w.checkUdp (segment.take n) = true
  · refine iff_of_true (udpPacket_take doc within checked).symm fun ⟨exceeds, _⟩ => ?_
    exact absurd (checked_iff.1 checked).2 (Nat.not_le_of_lt exceeds)
  · have refused : udpPacket w packet (segment.take n) = none := if_neg checked
    rw [refused]
    by_cases whole : w.checkUdp segment = true
    · obtain ⟨_, least, most⟩ := (doc.udp_checked _).1 whole
      have exceeds : n < w.udpLen segment :=
        Nat.lt_of_not_le fun short => checked (checked_iff.2 ⟨whole, short⟩)
      refine iff_of_false ?_ (not_not_intro ⟨exceeds, least, most⟩)
      unfold udpPacket
      rw [if_pos whole]
      exact Option.some_ne_none _
    · refine iff_of_true (if_neg whole) fun ⟨_, least, most⟩ => ?_
      exact whole ((doc.udp_checked _).2 ⟨least.trans most, least, most⟩)

end Agreement

/-! ## The header fields -/

/-- The accessors that read the fields where the formats put them. -/
def headerSmoltcp : Smoltcp where
  toWire := headerWire
  ipv4TotalLen := fun b => bigEndian b 2 2
  ipv6TotalLen := fun b => ipv6HeaderLen + bigEndian b 4 2
  ipv4Payload := fun b => (b.take (bigEndian b 2 2)).drop (byteAt b 0 % 16 * 4)
  ipv6Payload := fun b => (b.take (ipv6HeaderLen + bigEndian b 4 2)).drop ipv6HeaderLen
  udpLen := fun b => bigEndian b 4 2

theorem bigEndian_front {b b' : Bytes} (front : b.take udpHeaderLen = b'.take udpHeaderLen)
    {i n : ℕ} (within : i + n ≤ udpHeaderLen) :
    StackPacket.bigEndian b i n = StackPacket.bigEndian b' i n := by
  have window : ∀ bytes : Bytes,
      (bytes.drop i).take n = ((bytes.take udpHeaderLen).drop i).take n := by
    intro bytes
    rw [List.drop_take, List.take_take, Nat.min_eq_left (by omega)]
  unfold StackPacket.bigEndian
  rw [window b, window b', front]

theorem headerSmoltcp_documented : Documented headerSmoltcp where
  ipv4_checked b checked := by
    obtain ⟨_, _, _, header, total⟩ := of_decide_eq_true checked
    exact ⟨header, total⟩
  ipv6_checked b checked := ⟨Nat.le_add_right _ _, (of_decide_eq_true checked).2⟩
  ipv4_payload _ _ := rfl
  ipv6_payload _ _ := rfl
  udp_checked b := by
    change decide _ = true ↔ _
    rw [decide_eq_true_iff, and_comm (a := StackPacket.bigEndian b 4 2 ≤ b.length)]
    exact Iff.rfl
  udp_payload _ _ := rfl
  udp_header b b' _ front := by
    refine ⟨?_, ?_, bigEndian_front front (by decide)⟩
    · exact congrArg Nat.toUInt16 (bigEndian_front front (i := 0) (n := 2) (by decide))
    · exact congrArg Nat.toUInt16 (bigEndian_front front (i := 2) (n := 2) (by decide))

/-- An IPv4 packet of the length `total` with a datagram, whose length field says `len`. -/
def datagram (total len : UInt8) (data : Bytes) : Bytes :=
  [0x45, 0, 0, total, 0, 0, 0, 0, 64, 17, 0, 0, 10, 0, 0, 1, 10, 0, 0, 2] ++
    [0, 7, 0, 9, 0, len, 0, 0] ++ data

def padded : Bytes := datagram 30 10 ([0xAA, 0xBB] ++ [1, 2, 3, 4])

theorem fast_path_agrees_iff_padded :
    recv headerWire padded = some (plainRead headerSmoltcp padded) ∧
      (plainRead headerSmoltcp padded).map (·.data) = some [0xAA, 0xBB] := by
  have accepted : IpPacket.newChecked headerWire padded = some (.ipv4 padded) := by decide
  refine ⟨(fast_path_agrees_iff headerSmoltcp_documented accepted).2 ?_, by decide⟩
  rintro ⟨exceeds, _⟩
  revert exceeds
  decide

/-- Four bytes stand behind the IP packet, and the length field counts them. -/
theorem trailing_bytes_read :
    ¬ ∀ (w : Smoltcp) (original : Bytes) (packet : IpPacket), Documented w →
      IpPacket.newChecked w.toWire original = some packet → packet.protocol w.toWire = .udp →
      recv w.toWire original = some (plainRead w original) := by
  intro agrees
  let original := datagram 28 12 [1, 2, 3, 4]
  have same := agrees headerSmoltcp original (.ipv4 original) headerSmoltcp_documented (by decide)
    (by decide)
  revert same
  decide

end Ombrac.UdpFastPath
