import Mathlib.Data.Finset.Card
import Mathlib.Data.Finset.Range
import Mathlib.Order.Interval.Finset.Nat
import Ombrac.UdpReassembly

set_option autoImplicit false

/-!
# Reassembly against its reference model

The reference keeps, for each key, only the set of indices received since the last delivery, and
delivers the original packet when the set becomes complete. The reassembler is related to it key
by key: an absent buffer stands for the empty set, a present one for the slots it holds.
-/
namespace Ombrac.ReassemblyReference
open ProtocolPacket SliceChunks UdpReassembly

/-- One call of `split_packet` that made at most 256 fragments, and the packet it was given. -/
structure SplitCall (key : CacheKey) where
  address : Address
  data : Bytes
  maxPayloadSize : ℕ
  fragments : List UdpPacket
  split : splitPacket key.1 address data maxPayloadSize key.2 = some fragments
  few : fragments.length ≤ 256

/-- Every fragment comes out of the one split call of its key. -/
def Sent (call : ∀ key, SplitCall key) : UdpPacket → Prop
  | .unfragmented .. => True
  | packet@(.fragmented sessionId fragmentId ..) =>
    packet ∈ (call (sessionId, fragmentId)).fragments

abbrev Received := CacheKey → Finset ℕ

def refProcess (call : ∀ key, SplitCall key) (received : Received) :
    UdpPacket → Option UdpReassembler.Delivery × Received
  | .unfragmented sessionId address data => (some (sessionId, address, data), received)
  | .fragmented sessionId fragmentId fragmentIndex .. =>
    let key := (sessionId, fragmentId)
    let indices := insert fragmentIndex.toNat (received key)
    if indices = Finset.range (call key).fragments.length then
      (some (sessionId, (call key).address, (call key).data), Function.update received key ∅)
    else (none, Function.update received key indices)

def refProcessAll (call : ∀ key, SplitCall key) (received : Received) :
    List UdpPacket → List (Option UdpReassembler.Delivery)
  | [] => []
  | packet :: packets =>
    let (result, received) := refProcess call received packet
    result :: refProcessAll call received packets

namespace SplitCall
variable {key : CacheKey} (call : SplitCall key)

def pieces : List Bytes := chunks call.maxPayloadSize call.data

theorem split_shape : 0 < call.maxPayloadSize ∧ 0 < call.pieces.length.toUInt16 ∧
    call.fragments = call.pieces.mapIdx
      (fragmentOf key.1 call.address key.2 call.pieces.length.toUInt16) := by
  have h := call.split
  unfold splitPacket at h
  dsimp only at h
  split_ifs at h with zero positive
  exact ⟨Nat.pos_of_ne_zero zero, positive, (Option.some.inj h).symm⟩

theorem fragments_length : call.fragments.length = call.pieces.length := by
  rw [call.split_shape.2.2, List.length_mapIdx]

theorem pieces_few : call.pieces.length ≤ 256 := call.fragments_length ▸ call.few

theorem count_toNat : call.pieces.length.toUInt16.toNat = call.pieces.length := by
  have h := call.pieces_few
  exact UInt16.toNat_ofNat_of_lt' (by simp [UInt16.size]; omega)

theorem pieces_nonempty : 0 < call.pieces.length := by
  have h := call.split_shape.2.1
  rw [UInt16.lt_iff_toNat_lt, call.count_toNat] at h
  exact h

theorem pieces_flatten : call.pieces.flatten = call.data :=
  chunks_flatten _ call.split_shape.1 _

/-- What a fragment of the call carries, by its index. -/
theorem mem_fragments {packet : UdpPacket} (h : packet ∈ call.fragments) :
    ∃ i, ∃ hi : i < call.pieces.length, packet = .fragmented key.1 key.2 i.toUInt16
      call.pieces.length.toUInt16 (if i = 0 then some call.address else none) call.pieces[i] := by
  rw [call.split_shape.2.2] at h
  obtain ⟨i, hi, eq⟩ := List.mem_mapIdx.1 h
  refine ⟨i, hi, eq ▸ ?_⟩
  have few := call.pieces_few
  have zero : i.toUInt16 = 0 ↔ i = 0 := by
    rw [← UInt16.toNat_inj, UInt16.toNat_ofNat_of_lt' (by simp [UInt16.size]; omega)]
    rfl
  simp only [fragmentOf, zero]

end SplitCall

structure Holds {key : CacheKey} (call : SplitCall key) (b : ReassemblyBuffer)
    (indices : Finset ℕ) : Prop where
  total : b.totalCount = call.pieces.length.toUInt16
  slots : b.fragments = (List.range call.pieces.length).map fun i =>
    if i ∈ indices then call.pieces[i]? else none
  count : b.receivedCount.toNat = indices.card
  address : b.address = if 0 ∈ indices then some call.address else none
  session : b.sessionId = key.1
  within : indices ⊆ Finset.range call.pieces.length

def Tracks {key : CacheKey} (call : SplitCall key) (buffer : Option ReassemblyBuffer)
    (indices : Finset ℕ) : Prop :=
  match buffer with
  | none => indices = ∅
  | some b => Holds call b indices

section Buffer
variable {key : CacheKey} {call : SplitCall key} {b : ReassemblyBuffer} {indices : Finset ℕ}

theorem adoptCount_tracks {buffer : Option ReassemblyBuffer} (h : Tracks call buffer indices) :
    ∃ b, (buffer.getD (.new key.1 0 none)).adoptCount call.pieces.length.toUInt16 = some b ∧
      Holds call b indices := by
  cases buffer with
  | none =>
    obtain rfl : indices = ∅ := h
    refine ⟨_, rfl, rfl, ?_, rfl, rfl, rfl, Finset.empty_subset _⟩
    change List.replicate call.pieces.length.toUInt16.toNat none = _
    simp [call.count_toNat]
  | some b =>
    have hb : Holds call b indices := h
    have positive := call.split_shape.2.1
    have nonzero : b.totalCount ≠ 0 := by
      rw [hb.total]
      rintro zero
      rw [zero] at positive
      exact absurd positive (by decide)
    refine ⟨b, ?_, hb⟩
    change b.adoptCount _ = some b
    rw [ReassemblyBuffer.adoptCount, if_neg nonzero, if_neg (not_not.2 hb.total)]

theorem index_toNat {i : ℕ} (hi : i < call.pieces.length) : i.toUInt16.toNat = i := by
  have few := call.pieces_few
  exact UInt16.toNat_ofNat_of_lt' (by simp [UInt16.size]; omega)

theorem index_zero {i : ℕ} (hi : i < call.pieces.length) : i.toUInt16 = 0 ↔ i = 0 := by
  rw [← UInt16.toNat_inj, index_toNat hi]
  rfl

theorem takeAddress_holds (h : Holds call b indices) {i : ℕ} (hi : i < call.pieces.length) :
    b.takeAddress i.toUInt16 (if i = 0 then some call.address else none) =
      some { b with address := if i = 0 then some call.address else b.address } := by
  unfold ReassemblyBuffer.takeAddress
  rw [if_congr (index_zero hi) rfl rfl]
  by_cases zero : i = 0
  · simp only [zero, ↓reduceIte]
    have ha := h.address
    split_ifs at ha with known
    · simp only [ha]
      simp [← ha]
    · simp [ha]
  · simp [zero]

theorem slot (h : Holds call b indices) {i : ℕ} (hi : i < call.pieces.length) :
    b.fragments[i]? = some (if i ∈ indices then call.pieces[i]? else none) := by
  rw [h.slots, List.getElem?_map, List.getElem?_range hi]
  rfl

theorem slot_empty (h : Holds call b indices) {i : ℕ} (hi : i < call.pieces.length) :
    b.fragments[i]? = some none ↔ i ∉ indices := by
  rw [slot h hi]
  by_cases member : i ∈ indices <;> simp [member, hi]

theorem receivedCount_succ (h : Holds call b indices) :
    (b.receivedCount + 1).toNat = indices.card + 1 := by
  have few := call.pieces_few
  have card := Finset.card_le_card h.within
  rw [Finset.card_range] at card
  rw [UInt16.toNat_add, h.count]
  exact Nat.mod_eq_of_lt (by change indices.card + 1 < 65536; omega)

theorem slots_insert (h : Holds call b indices) {i : ℕ} (hi : i < call.pieces.length) :
    b.fragments.set i (some call.pieces[i]) = (List.range call.pieces.length).map fun j =>
      if j ∈ insert i indices then call.pieces[j]? else none := by
  rw [h.slots]
  apply List.ext_getElem?
  intro j
  rw [List.getElem?_set, List.getElem?_map, List.getElem?_map]
  by_cases same : i = j
  · subst j
    simp [hi]
  · by_cases hj : j < call.pieces.length
    · simp [same, Ne.symm same, hj]
    · simp [same, hj]

/-- One step of the simulation: a repeated index is rejected, a fresh one fills its slot. -/
theorem addFragment_tracks {buffer : Option ReassemblyBuffer} (h : Tracks call buffer indices)
    {i : ℕ} (hi : i < call.pieces.length) : ∃ after,
    (buffer.getD (.new key.1 0 none)).addFragment (.fragmented key.1 key.2 i.toUInt16
      call.pieces.length.toUInt16 (if i = 0 then some call.address else none) call.pieces[i]) =
        (decide (i ∉ indices), after) ∧ Holds call after (insert i indices) := by
  obtain ⟨b, adopt, hb⟩ := adoptCount_tracks h
  have valid : ¬ (call.pieces.length.toUInt16 = 0 ∨
      maxFragmentCount < call.pieces.length.toUInt16) := by
    have positive := call.pieces_nonempty
    have few := call.pieces_few
    rw [not_or, ← UInt16.toNat_inj, UInt16.lt_iff_toNat_lt, call.count_toNat]
    exact ⟨Nat.ne_of_gt positive, Nat.not_lt.2 few⟩
  simp only [ReassemblyBuffer.addFragment, if_neg valid, adopt, takeAddress_holds hb hi,
    ReassemblyBuffer.storeFragment, index_toNat hi, slot_empty hb hi]
  by_cases member : i ∈ indices
  · simp only [member, not_true_eq_false, ↓reduceIte, decide_false]
    refine ⟨_, rfl, ?_⟩
    rw [Finset.insert_eq_of_mem member]
    refine ⟨hb.total, hb.slots, hb.count, ?_, hb.session, hb.within⟩
    by_cases zero : i = 0
    · subst i
      simp [member]
    · simpa [zero] using hb.address
  · simp only [member, not_false_eq_true, ↓reduceIte, decide_true]
    refine ⟨_, rfl, hb.total, slots_insert hb hi, ?_, ?_, hb.session, ?_⟩
    · rw [Finset.card_insert_of_notMem member]
      exact receivedCount_succ hb
    · by_cases zero : i = 0
      · simp [zero]
      · simpa [zero, Ne.symm zero] using hb.address
    · exact Finset.insert_subset (Finset.mem_range.2 hi) hb.within

theorem isComplete_iff (h : Holds call b indices) :
    b.isComplete = true ↔ indices = Finset.range call.pieces.length := by
  have positive := call.pieces_nonempty
  have counted : b.receivedCount = b.totalCount ↔ indices.card = call.pieces.length := by
    rw [← UInt16.toNat_inj, h.count, h.total, call.count_toNat]
  have full : indices.card = call.pieces.length ↔ indices = Finset.range call.pieces.length := by
    constructor
    · intro card
      exact Finset.eq_of_subset_of_card_le h.within (by simp [card])
    · intro eq
      simp [eq]
  have known : indices = Finset.range call.pieces.length → b.address.isSome = true := by
    intro eq
    have first : 0 ∈ indices := by simpa [eq] using positive
    simp [h.address, first]
  have total : 0 < b.totalCount := h.total ▸ call.split_shape.2.1
  simp only [ReassemblyBuffer.isComplete, Bool.and_eq_true, decide_eq_true_eq, beq_iff_eq,
    counted, full]
  exact ⟨fun complete => complete.1.2, fun eq => ⟨⟨total, eq⟩, known eq⟩⟩

theorem assemble_full (h : Holds call b (Finset.range call.pieces.length)) :
    b.assembleAndTake.1 = some (key.1, call.address, call.data) := by
  have complete := (isComplete_iff h).2 rfl
  have first : 0 ∈ Finset.range call.pieces.length := by simpa using call.pieces_nonempty
  have slots : b.fragments = call.pieces.map some := by
    rw [h.slots]
    apply List.ext_getElem?
    intro j
    by_cases hj : j < call.pieces.length
    · simp [hj]
    · simp [hj]
  have taken := ReassemblyBuffer.takeFragments_full [] call.pieces
  simp only [ReassemblyBuffer.assembleAndTake, complete, Bool.not_true, Bool.false_eq_true,
    ↓reduceIte, slots]
  rw [taken, h.address, if_pos first, h.session, List.nil_append, call.pieces_flatten]
  rfl

end Buffer

section Run
variable {call : ∀ key, SplitCall key} {r : UdpReassembler} {received : Received}

structure Simulates (call : ∀ key, SplitCall key) (r : UdpReassembler) (received : Received) :
    Prop where
  tracks : ∀ key, Tracks (call key) (r.cache key) (received key)
  unfinished : ∀ key, received key ≠ Finset.range (call key).pieces.length

theorem simulates_new : Simulates call .new fun _ => ∅ := by
  refine ⟨fun _ => rfl, fun key empty => ?_⟩
  have member : 0 ∈ Finset.range (call key).pieces.length := by
    simpa using (call key).pieces_nonempty
  rw [← empty] at member
  exact absurd member (Finset.notMem_empty 0)

theorem Simulates.put (h : Simulates call r received) {key : CacheKey} {b : ReassemblyBuffer}
    {indices : Finset ℕ} (hb : Holds (call key) b indices)
    (hp : indices ≠ Finset.range (call key).pieces.length) :
    Simulates call (r.put key b) (Function.update received key indices) := by
  constructor <;> intro other <;> by_cases same : other = key
  · subst other
    simpa [UdpReassembler.put, Tracks] using hb
  · simpa [UdpReassembler.put, same] using h.tracks other
  · subst other
    simpa using hp
  · simpa [same] using h.unfinished other

theorem Simulates.invalidate (h : Simulates call r received) (key : CacheKey) :
    Simulates call (r.invalidate key) (Function.update received key ∅) := by
  constructor <;> intro other <;> by_cases same : other = key
  · subst other
    simp [UdpReassembler.invalidate, Tracks]
  · simpa [UdpReassembler.invalidate, same] using h.tracks other
  · subst other
    have fresh : Simulates call .new fun _ => ∅ := simulates_new
    simpa using fresh.unfinished key
  · simpa [same] using h.unfinished other

theorem process_simulates (h : Simulates call r received) {packet : UdpPacket}
    (sent : Sent call packet) :
    (r.process packet).1 = .ok (refProcess call received packet).1 ∧
      Simulates call (r.process packet).2 (refProcess call received packet).2 := by
  cases packet with
  | unfragmented sessionId address data => exact ⟨rfl, h⟩
  | fragmented sessionId fragmentId fragmentIndex fragmentCount address data =>
    obtain ⟨i, hi, eq⟩ := (call (sessionId, fragmentId)).mem_fragments sent
    obtain ⟨rfl, rfl, rfl, rfl⟩ : fragmentIndex = i.toUInt16 ∧ _ = fragmentCount ∧
        _ = address ∧ _ = data := by
      simpa [eq_comm] using eq
    have tracks := h.tracks (sessionId, fragmentId)
    have unfinished := h.unfinished (sessionId, fragmentId)
    obtain ⟨after, added, holds⟩ := addFragment_tracks tracks hi
    simp only [UdpReassembler.process, UdpReassembler.getWith, refProcess, added,
      index_toNat hi, SplitCall.fragments_length]
    by_cases member : i ∈ received (sessionId, fragmentId)
    · rw [Finset.insert_eq_of_mem member] at holds ⊢
      simpa [member, unfinished] using h.put holds unfinished
    · by_cases full : insert i (received (sessionId, fragmentId)) =
          Finset.range (call (sessionId, fragmentId)).pieces.length
      · have complete := (isComplete_iff holds).2 full
        have assembled := assemble_full (full ▸ holds)
        simpa [member, full, complete, assembled] using h.invalidate (sessionId, fragmentId)
      · have incomplete : after.isComplete = false := by
          rw [← Bool.not_eq_true, isComplete_iff holds]
          exact full
        simpa [member, full, incomplete] using h.put holds full

/-- Over every sequence of fragments, in any order, repeated and interleaved between keys and
with whole packets, the reassembler answers what the reference answers, and never an error. -/
theorem processAll_eq_reference (call : ∀ key, SplitCall key) (packets : List UdpPacket)
    (sent : ∀ packet ∈ packets, Sent call packet) :
    (UdpReassembler.new.processAll packets).1 =
      (refProcessAll call (fun _ => ∅) packets).map .ok := by
  have general : ∀ (r : UdpReassembler) (received : Received), Simulates call r received →
      (r.processAll packets).1 = (refProcessAll call received packets).map .ok := by
    induction packets with
    | nil => exact fun _ _ _ => rfl
    | cons packet packets ih =>
      intro r received h
      obtain ⟨result, next⟩ := process_simulates h (sent packet (by simp))
      have rest := ih (fun p hp => sent p (by simp [hp])) _ _ next
      simp only [UdpReassembler.processAll, refProcessAll, List.map_cons, result, rest]
  exact general _ _ simulates_new

def threeBytes (key : CacheKey) : SplitCall key where
  address := .domain [100] 53
  data := [1, 2, 3]
  maxPayloadSize := 2
  fragments := [fragmentOf key.1 (.domain [100] 53) key.2 2 0 [1, 2],
    fragmentOf key.1 (.domain [100] 53) key.2 2 1 [3]]
  split := rfl
  few := by simp

/-- The last piece first, a whole packet in between, the first piece repeated after delivery. -/
theorem processAll_eq_reference_swapped :
    (UdpReassembler.new.processAll
      [fragmentOf 7 (.domain [100] 53) 9 2 1 [3], .unfragmented 7 (.domain [101] 80) [4],
        fragmentOf 7 (.domain [100] 53) 9 2 0 [1, 2],
        fragmentOf 7 (.domain [100] 53) 9 2 0 [1, 2]]).1 =
      [none, some (7, .domain [101] 80, [4]), some (7, .domain [100] 53, [1, 2, 3]), none].map
        .ok := by
  refine (processAll_eq_reference threeBytes _ ?_).trans ?_
  · simp [Sent, fragmentOf, threeBytes]
  · decide

end Run
end Ombrac.ReassemblyReference
