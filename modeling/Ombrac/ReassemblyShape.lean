import Ombrac.ReassemblyCompletion

set_option autoImplicit false

/-!
# The shape of the cached buffers

A buffer starts without a size and takes that of the first fragment with a valid count.
-/
namespace Ombrac.ReassemblyShape
open LabelledSystem ProtocolPacket UdpReassembly ReassemblySlots FragmentRejection
  ReassemblyCompletion

/-- The representation of a buffer that is cached under `key`. -/
structure Shaped (key : CacheKey) (b : ReassemblyBuffer) : Prop where
  session : b.sessionId = key.1
  length : b.fragments.length = b.totalCount.toNat
  few : b.totalCount.toNat ≤ 256
  received : b.receivedCount.toNat = b.fragments.countP Option.isSome
  within : b.receivedCount.toNat ≤ b.totalCount.toNat

section Buffer
variable {key : CacheKey} {b c : ReassemblyBuffer} {packet : UdpPacket}

theorem countP_range_eq_filled {ι : Type} (n : ℕ) (slots : ℕ → Option ι) :
    (List.range n).countP (fun i => (slots i).isSome) = filled n slots := by
  induction n with
  | zero => rfl
  | succ n ih =>
    rw [List.range_succ, List.countP_append, ih, List.countP_singleton, filled, filled,
      Finset.range_add_one, Finset.filter_insert]
    split_ifs
    · rw [Finset.card_insert_of_notMem (by simp)]
    · rfl

theorem shaped_of_sound (sound : Sound key b) : Shaped key b := by
  obtain ⟨slots, filled⟩ := sound.stored
  have length : b.fragments.length = b.totalCount.toNat := by
    rw [filled.fragments, List.length_map, List.length_range]
  have received : b.receivedCount.toNat = b.fragments.countP Option.isSome := by
    have count := filled.count
    rw [if_neg Bool.false_ne_true, Nat.zero_add, ← countP_range_eq_filled] at count
    rw [count, filled.fragments, List.countP_map]
    congr 1
    funext i
    exact Option.isSome_map.symm
  refine ⟨filled.session, length, filled.few, received, ?_⟩
  rw [received, ← length]
  exact List.countP_le_length

theorem adoptCount_same {count : UInt16} (adopted : b.adoptCount count = some c) :
    c.receivedCount = b.receivedCount ∧
      (b.totalCount ≠ 0 → c.totalCount = b.totalCount) := by
  unfold ReassemblyBuffer.adoptCount at adopted
  split_ifs at adopted with fresh different
  · obtain rfl := Option.some.inj adopted
    exact ⟨rfl, fun known => absurd fresh known⟩
  · obtain rfl := Option.some.inj adopted
    exact ⟨rfl, fun _ => rfl⟩

theorem takeAddress_same {fragmentIndex : UInt16} {address : Option Address}
    (taken : b.takeAddress fragmentIndex address = some c) :
    c.receivedCount = b.receivedCount ∧ c.totalCount = b.totalCount := by
  unfold ReassemblyBuffer.takeAddress at taken
  split at taken
  · split at taken
    · obtain rfl := Option.some.inj taken
      exact ⟨rfl, rfl⟩
    · split at taken
      · split_ifs at taken
        obtain rfl := Option.some.inj taken
        exact ⟨rfl, rfl⟩
      · cases taken
  · obtain rfl := Option.some.inj taken
    exact ⟨rfl, rfl⟩

theorem storeFragment_same (b : ReassemblyBuffer) (fragmentIndex : UInt16) (data : Bytes) :
    (b.storeFragment fragmentIndex data).2.totalCount = b.totalCount ∧
      ((b.storeFragment fragmentIndex data).1 = true →
        (b.storeFragment fragmentIndex data).2.receivedCount = b.receivedCount + 1) := by
  unfold ReassemblyBuffer.storeFragment
  dsimp only
  split_ifs
  · exact ⟨rfl, fun _ => rfl⟩
  · exact ⟨rfl, fun refused => by cases refused⟩

/-- A fragment that is accepted is counted, and a known total stays. -/
theorem addFragment_counts (b : ReassemblyBuffer) (packet : UdpPacket) :
    (b.totalCount ≠ 0 → (b.addFragment packet).2.totalCount = b.totalCount) ∧
      ((b.addFragment packet).1 = true →
        (b.addFragment packet).2.receivedCount = b.receivedCount + 1) := by
  cases packet with
  | unfragmented => exact ⟨fun _ => rfl, fun refused => by cases refused⟩
  | fragmented sessionId fragmentId fragmentIndex fragmentCount address data =>
    unfold ReassemblyBuffer.addFragment
    dsimp only
    split_ifs
    · exact ⟨fun _ => rfl, fun refused => by cases refused⟩
    · cases adopted : b.adoptCount fragmentCount with
      | none => exact ⟨fun _ => rfl, fun refused => by cases refused⟩
      | some b₁ =>
        obtain ⟨received₁, total₁⟩ := adoptCount_same adopted
        dsimp only
        cases taken : b₁.takeAddress fragmentIndex address with
        | none => exact ⟨total₁, fun refused => by cases refused⟩
        | some b₂ =>
          obtain ⟨received₂, total₂⟩ := takeAddress_same taken
          obtain ⟨total₃, received₃⟩ := storeFragment_same b₂ fragmentIndex data
          refine ⟨fun known => total₃.trans (total₂.trans (total₁ known)), fun stored => ?_⟩
          rw [received₃ stored, received₂, received₁]

/-- The count of a buffer has room for one more. -/
theorem Shaped.increment (shaped : Shaped key b) :
    (b.receivedCount + 1).toNat = b.receivedCount.toNat + 1 := by
  have few := shaped.few
  have within := shaped.within
  rw [UInt16.toNat_add, UInt16.toNat_one]
  exact Nat.mod_eq_of_lt (by omega)

/-- The loop of a complete buffer finds no empty slot. -/
theorem takeFragments_complete (sound : Sound key b) (complete : b.isComplete = true) :
    ∃ data, (ReassemblyBuffer.takeFragments [] b.fragments).1 = some data := by
  obtain ⟨pieces, slots⟩ := exists_pieces (sound.isComplete_iff.1 complete).2.1
  rw [slots]
  exact ⟨_, ReassemblyBuffer.takeFragments_full [] pieces⟩

end Buffer

/-! ## Calls -/

def CountsUp (r : UdpReassembler) : UdpPacket → Prop
  | .unfragmented .. => True
  | .fragmented sessionId fragmentId fragmentIndex fragmentCount address data =>
    let buffer := r.getWith (sessionId, fragmentId)
    let next := buffer.addFragment
      (.fragmented sessionId fragmentId fragmentIndex fragmentCount address data)
    next.1 = true → next.2.receivedCount.toNat = buffer.receivedCount.toNat + 1

/-- Where a call assembles the buffer, the loop over the slots gets to its end. -/
def Assembles (r : UdpReassembler) : UdpPacket → Prop
  | .unfragmented .. => True
  | .fragmented sessionId fragmentId fragmentIndex fragmentCount address data =>
    let next := (r.getWith (sessionId, fragmentId)).addFragment
      (.fragmented sessionId fragmentId fragmentIndex fragmentCount address data)
    next.1 = true → next.2.isComplete = true →
      ∃ combined, (ReassemblyBuffer.takeFragments [] next.2.fragments).1 = some combined

/-- A known total stays for as long as the buffer is in the cache. -/
def KeepsTotals (r v : UdpReassembler) : Prop :=
  ∀ key b c, r.cache key = some b → v.cache key = some c → b.totalCount ≠ 0 →
    c.totalCount = b.totalCount

section Call
variable {r v : UdpReassembler}

theorem process_countsUp (sound : SoundCache r) (packet : UdpPacket) : CountsUp r packet := by
  cases packet with
  | unfragmented => trivial
  | fragmented sessionId fragmentId fragmentIndex fragmentCount address data =>
    intro added
    rw [(addFragment_counts _ _).2 added]
    exact (shaped_of_sound (sound.getWith (sessionId, fragmentId))).increment

theorem process_assembles (sound : SoundCache r) (packet : UdpPacket) : Assembles r packet := by
  cases packet with
  | unfragmented => trivial
  | fragmented sessionId fragmentId fragmentIndex fragmentCount address data =>
    intro _ complete
    exact takeFragments_complete ((sound.getWith (sessionId, fragmentId)).add rfl) complete

theorem reassemblerStep_totals {e : Event} (step : reassemblerStep r e = some v) :
    KeepsTotals r v := by
  intro key b c cached found known
  have same : r.cache key = some c → c.totalCount = b.totalCount := by
    intro old
    rw [Option.some.inj (old.symm.trans cached)]
  cases e with
  | evict key' =>
    obtain rfl := Option.some.inj step
    exact same (cache_invalidate found)
  | process packet =>
    obtain rfl := Option.some.inj step
    cases packet with
    | unfragmented => exact same found
    | fragmented sessionId fragmentId fragmentIndex fragmentCount address data =>
      have put : ∀ packet, ((r.getWith key).addFragment packet).2.totalCount = b.totalCount := by
        intro packet
        have own : r.getWith key = b := by
          rw [UdpReassembler.getWith, cached, Option.getD_some]
        rw [own]
        exact (addFragment_counts b packet).1 known
      unfold UdpReassembler.process at found
      dsimp only at found
      split_ifs at found
      · obtain ⟨rfl, rfl⟩ | old := cache_put found
        · exact put _
        · exact same old
      · exact same (cache_invalidate found)
      · obtain ⟨rfl, rfl⟩ | old := cache_put found
        · exact put _
        · exact same old

end Call

/-- After any sequence of calls, whatever the packets, every cached buffer has its shape, its
total stays once it is known, no increment overflows, and no complete buffer has an empty slot. -/
theorem reassembly_buffers_shaped {es : List Event} {r : UdpReassembler}
    (run : Runs reassemblerSystem es r) :
    (∀ key b, r.cache key = some b → Shaped key b) ∧
      (∀ e v, reassemblerStep r e = some v → KeepsTotals r v) ∧
      ∀ packet, CountsUp r packet ∧ Assembles r packet := by
  have sound := soundCache_visited run.visits
  refine ⟨fun key b cached => shaped_of_sound (sound key b cached),
    fun e v step => reassemblerStep_totals step, fun packet => ?_⟩
  exact ⟨process_countsUp sound packet, process_assembles sound packet⟩

def malformedFirst : List Event :=
  [.process (.fragmented 7 9 5 3 none [1]), .process (.fragmented 7 9 2 3 none [2]),
    .process (.fragmented 7 9 0 3 (some (.domain [100] 53)) [3])]

theorem reassembly_buffers_shaped_malformed :
    Shaped (7, 9) ⟨[some [3], none, some [2]], 2, 3, some (.domain [100] 53), 7⟩ := by
  have ran : exec reassemblerSystem malformedFirst = some _ := rfl
  exact (reassembly_buffers_shaped (runs_of_exec ran)).1 (7, 9) _ rfl

end Ombrac.ReassemblyShape
