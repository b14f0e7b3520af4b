import Ombrac.FragmentLimits

set_option autoImplicit false

/-!
# The split of a packet of any size

`split_packet` narrows the number of its chunks and the index of each to 16 bits, and asks only
that the narrowed number is not zero.
-/
namespace Ombrac.FragmentSplit
open ProtocolPacket SliceChunks ReassemblySlots FragmentLimits

def fragmentsNeeded (data : Bytes) (maxPayloadSize : ℕ) : ℕ :=
  (data.length + maxPayloadSize - 1) / maxPayloadSize

def FragmentAt (sessionId : UInt64) (address : Address) (maxPayloadSize : ℕ) (fragmentId : UInt32)
    (n i : ℕ) : UdpPacket → Prop
  | .unfragmented .. => False
  | .fragmented session fragment fragmentIndex fragmentCount addr data =>
    session = sessionId ∧ fragment = fragmentId ∧ fragmentIndex.toNat = i ∧
      fragmentCount.toNat = n ∧ addr = (if i = 0 then some address else none) ∧
      1 ≤ data.length ∧ data.length ≤ maxPayloadSize

structure FaithfulSplit (sessionId : UInt64) (address : Address) (data : Bytes)
    (maxPayloadSize : ℕ) (fragmentId : UInt32) (fragments : List UdpPacket) : Prop where
  count : fragments.length = fragmentsNeeded data maxPayloadSize
  each : ∀ i packet, fragments[i]? = some packet →
    FragmentAt sessionId address maxPayloadSize fragmentId fragments.length i packet
  whole : (fragments.map dataOf).flatten = data

section Split
variable {sessionId : UInt64} {address : Address} {data : Bytes} {maxPayloadSize : ℕ}
  {fragmentId : UInt32} {fragments : List UdpPacket}

theorem toUInt16_toNat (n : ℕ) : n.toUInt16.toNat = n % 65536 := rfl

/-- The assertion sees the count after it was narrowed. -/
theorem splitPacket_some_iff (positive : 1 ≤ maxPayloadSize) :
    splitPacket sessionId address data maxPayloadSize fragmentId = some fragments ↔
      ¬ 65536 ∣ fragmentsNeeded data maxPayloadSize ∧
        fragments = fragmentsOf sessionId address data maxPayloadSize fragmentId := by
  have counted : 0 < (chunks maxPayloadSize data).length.toUInt16 ↔
      ¬ 65536 ∣ fragmentsNeeded data maxPayloadSize := by
    rw [UInt16.lt_iff_toNat_lt, toUInt16_toNat, chunks_length, Nat.dvd_iff_mod_eq_zero]
    exact Nat.pos_iff_ne_zero
  unfold splitPacket
  rw [if_neg (Nat.ne_of_gt positive)]
  dsimp only
  split_ifs with nonzero
  · rw [Option.some_inj]
    exact ⟨fun same => ⟨counted.1 nonzero, same.symm⟩, fun both => both.2.symm⟩
  · exact iff_of_false nofun fun both => nonzero (counted.2 both.1)

theorem fragmentsOf_getElem? (i : ℕ) :
    (fragmentsOf sessionId address data maxPayloadSize fragmentId)[i]? =
      (chunks maxPayloadSize data)[i]?.map (fragmentOf sessionId address fragmentId
        (chunks maxPayloadSize data).length.toUInt16 i) := List.getElem?_mapIdx

/-- Whatever the counts say, the fragments carry the packet. -/
theorem fragmentsOf_flatten (positive : 1 ≤ maxPayloadSize) :
    ((fragmentsOf sessionId address data maxPayloadSize fragmentId).map dataOf).flatten = data := by
  have carried : (fragmentsOf sessionId address data maxPayloadSize fragmentId).map dataOf =
      chunks maxPayloadSize data := by
    refine List.ext_getElem? fun i => ?_
    rw [List.getElem?_map, fragmentsOf_getElem?, Option.map_map]
    exact Option.map_id'
  rw [carried]
  exact chunks_flatten maxPayloadSize positive data

theorem fragmentOf_at {i : ℕ} {chunk : Bytes} (few : (chunks maxPayloadSize data).length ≤ 65535)
    (positive : 1 ≤ maxPayloadSize) (there : (chunks maxPayloadSize data)[i]? = some chunk) :
    FragmentAt sessionId address maxPayloadSize fragmentId (chunks maxPayloadSize data).length i
      (fragmentOf sessionId address fragmentId (chunks maxPayloadSize data).length.toUInt16 i
        chunk) := by
  have inside := (List.getElem?_eq_some_iff.1 there).1
  have index : i.toUInt16.toNat = i := by
    rw [toUInt16_toNat]
    omega
  have first : i.toUInt16 = 0 ↔ i = 0 := by
    rw [← UInt16.toNat_inj, index]
    rfl
  refine ⟨rfl, rfl, index, ?_, by simp only [first], ?_⟩
  · rw [toUInt16_toNat]
    omega
  · exact mem_chunks_length positive (List.mem_of_getElem? there)

/-- A count of 65536 or more does not come through. -/
theorem faithful_iff (positive : 1 ≤ maxPayloadSize) (nonempty : data ≠ []) :
    FaithfulSplit sessionId address data maxPayloadSize fragmentId
        (fragmentsOf sessionId address data maxPayloadSize fragmentId) ↔
      fragmentsNeeded data maxPayloadSize ≤ 65535 := by
  have length : (fragmentsOf sessionId address data maxPayloadSize fragmentId).length =
      (chunks maxPayloadSize data).length := List.length_mapIdx
  have needed : (chunks maxPayloadSize data).length = fragmentsNeeded data maxPayloadSize :=
    chunks_length ..
  constructor
  · intro faithful
    have some_chunk : 0 < (chunks maxPayloadSize data).length := by
      rw [chunks_length, lt_chunkCount_iff _ positive, Nat.zero_mul]
      exact List.length_pos_of_ne_nil nonempty
    have first := faithful.each 0 _ (by
      rw [fragmentsOf_getElem?, List.getElem?_eq_getElem some_chunk]
      rfl)
    have count : (chunks maxPayloadSize data).length.toUInt16.toNat = _ := first.2.2.2.1
    rw [length, needed, toUInt16_toNat] at count
    omega
  · intro few
    refine ⟨length.trans needed, fun i packet there => ?_, fragmentsOf_flatten positive⟩
    rw [fragmentsOf_getElem?] at there
    obtain ⟨chunk, found, rfl⟩ := Option.map_eq_some_iff.1 there
    rw [length]
    exact fragmentOf_at (needed.trans_le few) positive found

/-- A split is faithful, or refused, exactly if its count fits into 16 bits, or is a multiple of
65536 and so narrowed to zero. -/
theorem split_packet_iff (positive : 1 ≤ maxPayloadSize) (nonempty : data ≠ []) :
    (∀ fragments, splitPacket sessionId address data maxPayloadSize fragmentId = some fragments →
        FaithfulSplit sessionId address data maxPayloadSize fragmentId fragments) ↔
      fragmentsNeeded data maxPayloadSize ≤ 65535 ∨
        65536 ∣ fragmentsNeeded data maxPayloadSize := by
  constructor
  · intro faithful
    by_contra neither
    obtain ⟨many, made⟩ := not_or.1 neither
    have split : splitPacket sessionId address data maxPayloadSize fragmentId =
        some (fragmentsOf sessionId address data maxPayloadSize fragmentId) :=
      (splitPacket_some_iff positive).2 ⟨made, rfl⟩
    exact many ((faithful_iff positive nonempty).1 (faithful _ split))
  · rintro (few | refused) fragments split
    · obtain ⟨_, rfl⟩ := (splitPacket_some_iff positive).1 split
      exact (faithful_iff positive nonempty).2 few
    · exact absurd refused ((splitPacket_some_iff positive).1 split).1

end Split

theorem split_packet_iff_three :
    (∀ fragments, splitPacket 7 (.domain [100] 53) [1, 2, 3] 2 9 = some fragments →
        FaithfulSplit 7 (.domain [100] 53) [1, 2, 3] 2 9 fragments) ↔
      fragmentsNeeded [1, 2, 3] 2 ≤ 65535 ∨ 65536 ∣ fragmentsNeeded [1, 2, 3] 2 :=
  split_packet_iff (by decide) (by decide)

/-- 65537 bytes one by one: each fragment says that it is the only one. -/
theorem split_65537_miscounted :
    ¬ ∀ (sessionId : UInt64) (address : Address) (data : Bytes) (maxPayloadSize : ℕ)
        (fragmentId : UInt32) (fragments : List UdpPacket), 1 ≤ maxPayloadSize → data ≠ [] →
      splitPacket sessionId address data maxPayloadSize fragmentId = some fragments →
      FaithfulSplit sessionId address data maxPayloadSize fragmentId fragments := by
  intro faithful
  obtain ⟨data, length⟩ : ∃ data : Bytes, data.length = 65537 :=
    ⟨List.replicate 65537 0, List.length_replicate⟩
  have needed : fragmentsNeeded data 1 = 65537 := by
    unfold fragmentsNeeded
    omega
  have nonempty : data ≠ [] := by
    rw [← List.length_pos_iff]
    omega
  have made : ¬ 65536 ∣ fragmentsNeeded data 1 := by
    rw [needed]
    decide
  have split : splitPacket 7 (.domain [100] 53) data 1 9 =
      some (fragmentsOf 7 (.domain [100] 53) data 1 9) :=
    (splitPacket_some_iff (le_refl 1)).2 ⟨made, rfl⟩
  have few := (faithful_iff (le_refl 1) nonempty).1
    (faithful 7 (.domain [100] 53) data 1 9 _ (le_refl 1) nonempty split)
  omega

end Ombrac.FragmentSplit
