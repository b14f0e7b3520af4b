import Ombrac.ReassemblyReference
import Ombrac.ReassemblySlots

set_option autoImplicit false

/-!
# The sender's fragments and the receiver's cap

`split_packet` makes as many fragments as the payload and the chunk size ask for; the receiver
drops every fragment of a packet that has more than 256 of them. In between lies the exact set of
packets that arrive.
-/
namespace Ombrac.FragmentLimits
open ProtocolPacket SliceChunks UdpReassembly ReassemblyReference ReassemblySlots

def fragmentsOf (sessionId : UInt64) (address : Address) (data : Bytes) (maxPayloadSize : ℕ)
    (fragmentId : UInt32) : List UdpPacket :=
  (chunks maxPayloadSize data).mapIdx (fragmentOf sessionId address fragmentId
    (chunks maxPayloadSize data).length.toUInt16)

section Split
variable {sessionId : UInt64} {address : Address} {data : Bytes} {maxPayloadSize : ℕ}
  {fragmentId : UInt32}

theorem chunkCount_bounds (positive : 1 ≤ maxPayloadSize) (nonempty : data ≠ [])
    (small : data.length ≤ 65535) :
    0 < (chunks maxPayloadSize data).length ∧ (chunks maxPayloadSize data).length ≤ 65535 := by
  rw [chunks_length]
  constructor
  · by_contra none_made
    have bound := (chunkCount_le_iff maxPayloadSize positive data 0).1 (Nat.not_lt.1 none_made)
    rw [Nat.zero_mul] at bound
    exact nonempty (List.length_eq_zero_iff.1 (Nat.le_zero.1 bound))
  · refine le_trans ?_ small
    rw [chunkCount_le_iff maxPayloadSize positive]
    exact Nat.le_mul_of_pos_right _ positive

theorem count_toNat (positive : 1 ≤ maxPayloadSize) (nonempty : data ≠ [])
    (small : data.length ≤ 65535) : (chunks maxPayloadSize data).length.toUInt16.toNat =
      (chunks maxPayloadSize data).length :=
  UInt16.toNat_ofNat_of_lt'
    (Nat.lt_succ_of_le (chunkCount_bounds positive nonempty small).2)

/-- Neither panic of `split_packet` is met. -/
theorem splitPacket_eq (positive : 1 ≤ maxPayloadSize) (nonempty : data ≠ [])
    (small : data.length ≤ 65535) :
    splitPacket sessionId address data maxPayloadSize fragmentId =
      some (fragmentsOf sessionId address data maxPayloadSize fragmentId) := by
  have counted : 0 < (chunks maxPayloadSize data).length.toUInt16 := by
    rw [UInt16.lt_iff_toNat_lt, count_toNat positive nonempty small]
    exact (chunkCount_bounds positive nonempty small).1
  rw [splitPacket, if_neg (Nat.ne_of_gt positive)]
  exact if_pos counted

theorem fragmentsOf_length : (fragmentsOf sessionId address data maxPayloadSize fragmentId).length =
    chunkCount maxPayloadSize data := by
  rw [fragmentsOf, List.length_mapIdx, chunks_length]

end Split

/-! ## More fragments than the receiver takes -/

/-- A fragment that says that there are more than 256. -/
def Oversized : UdpPacket → Prop
  | .unfragmented .. => False
  | .fragmented _ _ _ fragmentCount _ _ => maxFragmentCount < fragmentCount

theorem process_oversized (r : UdpReassembler) {packet : UdpPacket} (beyond : Oversized packet) :
    (r.process packet).1 = .ok none := by
  cases packet with
  | unfragmented => exact beyond.elim
  | fragmented sessionId fragmentId fragmentIndex fragmentCount address data =>
    have rejected : fragmentCount = 0 ∨ maxFragmentCount < fragmentCount := .inr beyond
    simp only [UdpReassembler.process, ReassemblyBuffer.addFragment, if_pos rejected]
    rfl

theorem processAll_oversized (r : UdpReassembler) {packets : List UdpPacket}
    (beyond : ∀ packet ∈ packets, Oversized packet) :
    (r.processAll packets).1 = List.replicate packets.length (.ok none) := by
  induction packets generalizing r with
  | nil => rfl
  | cons packet packets ih =>
    rw [List.forall_mem_cons] at beyond
    have first := process_oversized r beyond.1
    have rest := ih (r.process packet).2 beyond.2
    simp only [UdpReassembler.processAll, first, rest, List.length_cons, List.replicate_succ]

/-! ## All fragments of a packet, in any order -/

section Order
variable {key : CacheKey} (call : ∀ key, SplitCall key)

theorem indexOf_fragment {i : ℕ} (hi : i < (call key).pieces.length) {count : UInt16}
    {address : Option Address} {data : Bytes} :
    indexOf (.fragmented key.1 key.2 i.toUInt16 count address data) = i := index_toNat hi

theorem refProcess_fragment (received : Received) {i : ℕ} (hi : i < (call key).pieces.length)
    (count : UInt16) (address : Option Address) (data : Bytes) :
    refProcess call received (.fragmented key.1 key.2 i.toUInt16 count address data) =
      if insert i (received key) = Finset.range (call key).fragments.length then
        (some (key.1, (call key).address, (call key).data), Function.update received key ∅)
      else (none, Function.update received key (insert i (received key))) := by
  have index : i.toUInt16.toNat = i := index_toNat hi
  simp only [refProcess, index]

/-- The fragments that are left complete the packet, the last of them in whatever order. -/
theorem refProcessAll_order {packets : List UdpPacket} (received : Received)
    (member : ∀ packet ∈ packets, packet ∈ (call key).fragments)
    (distinct : (packets.map indexOf).Nodup)
    (fresh : ∀ packet ∈ packets, indexOf packet ∉ received key)
    (within : received key ⊆ Finset.range (call key).fragments.length)
    (whole : ∀ i < (call key).fragments.length, i ∈ received key ∨ i ∈ packets.map indexOf)
    (some_left : packets ≠ []) :
    refProcessAll call received packets = List.replicate (packets.length - 1) none ++
      [some (key.1, (call key).address, (call key).data)] := by
  induction packets generalizing received with
  | nil => exact absurd rfl some_left
  | cons packet packets ih =>
    obtain ⟨i, hi, rfl⟩ := (call key).mem_fragments (member packet List.mem_cons_self)
    have inside : i ∈ Finset.range (call key).fragments.length := by
      rw [Finset.mem_range, SplitCall.fragments_length]
      exact hi
    rw [List.forall_mem_cons] at member fresh
    rw [List.map_cons, List.nodup_cons] at distinct
    rw [indexOf_fragment call hi] at fresh distinct
    rw [refProcessAll, refProcess_fragment call received hi]
    simp only [List.map_cons, indexOf_fragment call hi, List.mem_cons] at whole
    cases packets with
    | nil =>
      have complete : insert i (received key) = Finset.range (call key).fragments.length := by
        refine Finset.Subset.antisymm (Finset.insert_subset inside within) fun j member => ?_
        rw [Finset.mem_insert]
        rcases whole j (Finset.mem_range.1 member) with old | rfl | impossible
        · exact .inr old
        · exact .inl rfl
        · cases impossible
      rw [if_pos complete]
      rfl
    | cons next packets =>
      have later : indexOf next ∈ (next :: packets).map indexOf := List.mem_cons_self
      have incomplete : insert i (received key) ≠ Finset.range (call key).fragments.length := by
        intro complete
        obtain ⟨j, hj, shape⟩ := (call key).mem_fragments (member.2 next List.mem_cons_self)
        have own : indexOf next = j := by
          rw [shape]
          exact indexOf_fragment call hj
        have present : j ∈ insert i (received key) := by
          rw [complete, Finset.mem_range, SplitCall.fragments_length]
          exact hj
        rcases Finset.mem_insert.1 present with same | old
        · exact distinct.1 (same ▸ own ▸ later)
        · exact fresh.2 next List.mem_cons_self (own ▸ old)
      rw [if_neg incomplete]
      have rest : refProcessAll call (Function.update received key (insert i (received key)))
          (next :: packets) = List.replicate ((next :: packets).length - 1) none ++
            [some (key.1, (call key).address, (call key).data)] := by
        refine ih _ member.2 distinct.2 ?_ ?_ ?_ (List.cons_ne_nil _ _)
        · intro packet left
          rw [Function.update_self, Finset.mem_insert, not_or]
          refine ⟨fun same => ?_, fresh.2 packet left⟩
          exact distinct.1 (same ▸ List.mem_map_of_mem left)
        · rw [Function.update_self]
          exact Finset.insert_subset inside within
        · intro j hj
          rw [Function.update_self, Finset.mem_insert, or_assoc, or_left_comm]
          exact whole j hj
      exact congrArg (none :: ·) rest

end Order

/-! ## What arrives -/

section Delivery
variable {sessionId : UInt64} {address : Address} {data : Bytes} {maxPayloadSize : ℕ}
  {fragmentId : UInt32}

def callFor (address : Address) (positive : 1 ≤ maxPayloadSize) (nonempty : data ≠ [])
    (small : data.length ≤ 65535) (fits : data.length ≤ 256 * maxPayloadSize) (key : CacheKey) :
    SplitCall key where
  address := address
  data := data
  maxPayloadSize := maxPayloadSize
  fragments := fragmentsOf key.1 address data maxPayloadSize key.2
  split := splitPacket_eq positive nonempty small
  few := by rwa [fragmentsOf_length, chunkCount_le_iff maxPayloadSize positive]

theorem sent_callFor {call : ∀ key, SplitCall key} {key : CacheKey} {packet : UdpPacket}
    (member : packet ∈ (call key).fragments) : Sent call packet := by
  obtain ⟨i, hi, rfl⟩ := (call key).mem_fragments member
  exact member

theorem map_indexOf_fragments {key : CacheKey} (call : ∀ key, SplitCall key) :
    (call key).fragments.map indexOf = List.range (call key).fragments.length := by
  have length := (call key).fragments_length
  apply List.ext_getElem?
  intro j
  by_cases hj : j < (call key).pieces.length
  · rw [List.getElem?_range (length ▸ hj), (call key).split_shape.2.2, List.getElem?_map,
      List.getElem?_mapIdx, List.getElem?_eq_getElem hj]
    exact congrArg some (indexOf_fragment call hj)
  · rw [List.getElem?_eq_none (by simpa [length] using hj),
      List.getElem?_eq_none (by simpa [length] using hj)]

theorem oversized_fragments (sessionId : UInt64) (address : Address) (fragmentId : UInt32)
    (positive : 1 ≤ maxPayloadSize) (nonempty : data ≠ []) (small : data.length ≤ 65535)
    (beyond : ¬ data.length ≤ 256 * maxPayloadSize) :
    ∀ packet ∈ fragmentsOf sessionId address data maxPayloadSize fragmentId,
      Oversized packet := by
  intro packet member
  obtain ⟨i, hi, rfl⟩ := List.mem_mapIdx.1 member
  rw [← chunkCount_le_iff maxPayloadSize positive, ← chunks_length] at beyond
  change maxFragmentCount < (chunks maxPayloadSize data).length.toUInt16
  rw [UInt16.lt_iff_toNat_lt, count_toNat positive nonempty small]
  exact Nat.not_le.1 beyond

/-- All fragments of a packet that fits, in any order, before a new reassembler. -/
theorem processAll_fragments (call : ∀ key, SplitCall key) (key : CacheKey)
    {packets : List UdpPacket} (order : packets.Perm (call key).fragments) :
    (UdpReassembler.new.processAll packets).1 =
      List.replicate ((call key).fragments.length - 1) (.ok none) ++
        [.ok (some (key.1, (call key).address, (call key).data))] := by
  have indices := order.map indexOf
  rw [map_indexOf_fragments] at indices
  have nonempty : packets ≠ [] := by
    rintro rfl
    have length := order.length_eq
    have made := (call key).pieces_nonempty
    rw [← SplitCall.fragments_length, ← length] at made
    cases made
  have results := refProcessAll_order call (fun _ : CacheKey => ∅)
    (fun packet member => order.mem_iff.1 member) (indices.nodup_iff.2 List.nodup_range)
    (fun _ _ => Finset.notMem_empty _) (Finset.empty_subset _)
    (fun i hi => .inr (indices.mem_iff.2 (List.mem_range.2 hi))) nonempty
  rw [processAll_eq_reference call packets fun packet member =>
    sent_callFor (order.mem_iff.1 member), results, order.length_eq]
  simp only [List.map_append, List.map_replicate, List.map_cons, List.map_nil]

/-- Exactly the packets of at most 256 fragments arrive, whole and with the last fragment, in
whatever order the fragments come; of the others every fragment is dropped. -/
theorem split_processAll (positive : 1 ≤ maxPayloadSize) (nonempty : data ≠ [])
    (small : data.length ≤ 65535) :
    ∃ fragments, splitPacket sessionId address data maxPayloadSize fragmentId = some fragments ∧
      ∀ packets : List UdpPacket, packets.Perm fragments →
        (UdpReassembler.new.processAll packets).1 =
          if data.length ≤ 256 * maxPayloadSize then
            List.replicate (fragments.length - 1) (.ok none) ++
              [.ok (some (sessionId, address, data))]
          else List.replicate fragments.length (.ok none) := by
  refine ⟨_, splitPacket_eq positive nonempty small, fun packets order => ?_⟩
  split_ifs with fits
  · exact processAll_fragments (callFor address positive nonempty small fits)
      (sessionId, fragmentId) order
  · have beyond := oversized_fragments sessionId address fragmentId positive nonempty small fits
    rw [processAll_oversized .new fun packet member => beyond packet (order.mem_iff.1 member),
      order.length_eq]

/-- Three bytes by two. -/
theorem split_processAll_three :
    ∃ fragments, splitPacket 7 (.domain [100] 53) [1, 2, 3] 2 9 = some fragments ∧
      ∀ packets : List UdpPacket, packets.Perm fragments →
        (UdpReassembler.new.processAll packets).1 =
          if [1, 2, 3].length ≤ 256 * 2 then
            List.replicate (fragments.length - 1) (.ok none) ++
              [.ok (some (7, .domain [100] 53, [1, 2, 3]))]
          else List.replicate fragments.length (.ok none) :=
  split_processAll (by decide) (by decide) (by decide)

/-- 257 bytes one by one. -/
theorem split_257_lost :
    ¬ ∀ (sessionId : UInt64) (address : Address) (data : Bytes) (maxPayloadSize : ℕ)
        (fragmentId : UInt32) (fragments packets : List UdpPacket),
      1 ≤ maxPayloadSize → data ≠ [] → data.length ≤ 65535 →
      splitPacket sessionId address data maxPayloadSize fragmentId = some fragments →
      packets.Perm fragments →
      .ok (some (sessionId, address, data)) ∈ (UdpReassembler.new.processAll packets).1 := by
  intro delivered
  have nonempty : List.replicate 257 (0 : UInt8) ≠ [] := nofun
  have small : (List.replicate 257 (0 : UInt8)).length ≤ 65535 := by
    rw [List.length_replicate]
    decide
  have beyond : ¬ (List.replicate 257 (0 : UInt8)).length ≤ 256 * 1 := by
    rw [List.length_replicate]
    decide
  have arrived := delivered 7 (.domain [100] 53) (List.replicate 257 0) 1 9 _ _ (le_refl 1)
    nonempty small (splitPacket_eq (le_refl 1) nonempty small) (.refl _)
  rw [processAll_oversized .new
    (oversized_fragments 7 (.domain [100] 53) 9 (le_refl 1) nonempty small beyond)] at arrived
  cases (List.eq_of_mem_replicate arrived)

end Delivery

end Ombrac.FragmentLimits
