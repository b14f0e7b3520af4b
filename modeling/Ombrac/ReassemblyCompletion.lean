import Ombrac.FragmentRejection
import Ombrac.ListUpdates
import Ombrac.ReassemblySlots

set_option autoImplicit false

/-!
# When a whole packet is delivered

`process` looks whether a buffer is complete only after a fragment was accepted. The cache may
drop an entry between two calls.
-/
namespace Ombrac.ReassemblyCompletion
open LabelledSystem ListUpdates ProtocolPacket UdpReassembly ReassemblySlots FragmentRejection

inductive Event where
  | process (packet : UdpPacket)
  | evict (key : CacheKey)

def reassemblerStep (r : UdpReassembler) : Event → Option UdpReassembler
  | .process packet => some (r.process packet).2
  | .evict key => some (r.invalidate key)

def reassemblerSystem : System UdpReassembler Event := ⟨.new, reassemblerStep⟩

def NoneStuck (r : UdpReassembler) : Prop :=
  ∀ key b, r.cache key = some b → b.isComplete = false

def AllFilled (b : ReassemblyBuffer) : Prop := ∀ slot ∈ b.fragments, slot.isSome = true

def Whole (b : ReassemblyBuffer) : Prop :=
  b.totalCount ≠ 0 ∧ AllFilled b ∧ b.address.isSome = true

/-- The fragment would complete the packet by its address alone. -/
def LateAddress (b : ReassemblyBuffer) : UdpPacket → Prop
  | .unfragmented .. => False
  | .fragmented _ _ fragmentIndex fragmentCount address _ =>
    fragmentIndex = 0 ∧ fragmentCount = b.totalCount ∧ address ≠ none ∧ b.address = none ∧
      b.totalCount ≠ 0 ∧ AllFilled b

/-- No first fragment brings the address after all slots were filled without one. -/
def Guarded (r : UdpReassembler) : Event → Prop
  | .evict _ => True
  | .process packet =>
    match packet with
    | .unfragmented .. => True
    | .fragmented sessionId fragmentId .. =>
      ¬ LateAddress (r.getWith (sessionId, fragmentId)) packet

/-- A call that makes a buffer whole delivers what it holds and removes the key. -/
def DeliversWhole (r : UdpReassembler) : Event → Prop
  | .evict _ => True
  | .process packet =>
    match packet with
    | .unfragmented .. => True
    | .fragmented sessionId fragmentId .. =>
      let key := (sessionId, fragmentId)
      let b := ((r.getWith key).addFragment packet).2
      ¬ Whole (r.getWith key) → Whole b →
        (∃ (addr : Address) (pieces : List Bytes), b.address = some addr ∧
          b.fragments = pieces.map some ∧
          (r.process packet).1 = .ok (some (sessionId, addr, pieces.flatten))) ∧
          (r.process packet).2.cache key = none

/-! ## The buffers of the cache -/

section Buffer
variable {key : CacheKey} {b c : ReassemblyBuffer} {packet : UdpPacket}

/-- A buffer that nothing was taken from, with the fragments that filled it. -/
structure Sound (key : CacheKey) (b : ReassemblyBuffer) : Prop where
  blank : Blank b
  stored : ∃ slots, Filled (fun p : UdpPacket => p) key b slots false

theorem sound_new (key : CacheKey) : Sound key (.new key.1 0 none) :=
  ⟨fun _ => rfl, _, filled_new _ key⟩

theorem Sound.add (sound : Sound key b) {fragmentIndex fragmentCount : UInt16}
    {address : Option Address} {data : Bytes}
    (shape : packet = .fragmented key.1 key.2 fragmentIndex fragmentCount address data) :
    Sound key (b.addFragment packet).2 := by
  obtain ⟨slots, filled⟩ := sound.stored
  refine ⟨addFragment_blank sound.blank, ?_⟩
  rcases filled.add packet shape with ⟨c, added, next⟩ | ⟨_, c, added, _, next⟩
  · rw [added]
    exact ⟨_, next⟩
  · rw [added]
    exact ⟨_, next⟩

theorem Sound.allFilled_iff (sound : Sound key b) :
    AllFilled b ↔ b.receivedCount = b.totalCount := by
  obtain ⟨slots, filled⟩ := sound.stored
  have count := filled.count
  simp only [Bool.false_eq_true, if_false, Nat.zero_add] at count
  rw [← UInt16.toNat_inj, count, filled_eq_iff, AllFilled, filled.fragments, List.forall_mem_map]
  simp only [Option.isSome_map, List.mem_range]

theorem Sound.isComplete_iff (sound : Sound key b) : b.isComplete = true ↔ Whole b := by
  rw [Whole, sound.allFilled_iff]
  simp only [ReassemblyBuffer.isComplete, Bool.and_eq_true, decide_eq_true_eq, beq_iff_eq,
    and_assoc]
  rw [UInt16.pos_iff_ne_zero]

/-- The first slot is among those that are filled. -/
theorem harmful_of_late (sound : Sound key b) (late : LateAddress b packet) : Harmful b packet := by
  cases packet with
  | unfragmented => exact late.elim
  | fragmented sessionId fragmentId fragmentIndex fragmentCount address data =>
    obtain ⟨rfl, rfl, brought, unknown, nonzero, full⟩ := late
    obtain ⟨slots, filled⟩ := sound.stored
    refine ⟨⟨nonzero, UInt16.le_iff_toNat_le.2 filled.few⟩, .inr ⟨rfl, rfl, unknown, brought, ?_⟩⟩
    intro free
    cases full none (List.mem_of_getElem? free)

/-- A rejected fragment makes a buffer whole exactly by a late address. -/
theorem whole_of_refused (sound : Sound key b) (partial_buffer : ¬ Whole b)
    (refused : Refused b packet c) : Whole c ↔ LateAddress b packet := by
  cases refused with
  | unchanged harmless =>
    exact iff_of_false partial_buffer fun late => harmless (harmful_of_late sound late)
  | @adopted _ _ _ fragmentCount _ _ fresh nonzero _ _ =>
    refine iff_of_false (fun whole => ?_) fun late => late.2.2.2.2.1 fresh
    have some_slot : fragmentCount.toNat ≠ 0 := fun zero => nonzero (UInt16.toNat_inj.1 zero)
    cases whole.2.1 none (List.mem_replicate.2 ⟨some_slot, rfl⟩)
  | addressed nonzero _ unknown _ =>
    exact ⟨fun whole => ⟨rfl, rfl, nofun, unknown, nonzero, whole.2.1⟩,
      fun late => ⟨nonzero, late.2.2.2.2.2, rfl⟩⟩

theorem exists_pieces {slots : List (Option Bytes)} (full : ∀ slot ∈ slots, slot.isSome = true) :
    ∃ pieces : List Bytes, slots = pieces.map some := by
  induction slots with
  | nil => exact ⟨[], rfl⟩
  | cons slot slots ih =>
    rw [List.forall_mem_cons] at full
    obtain ⟨piece, rfl⟩ := Option.isSome_iff_exists.1 full.1
    obtain ⟨pieces, rfl⟩ := ih full.2
    exact ⟨piece :: pieces, rfl⟩

/-- What a complete buffer is assembled into. -/
theorem assembleAndTake_whole (complete : b.isComplete = true) (whole : Whole b) :
    ∃ (addr : Address) (pieces : List Bytes), b.address = some addr ∧
      b.fragments = pieces.map some ∧
      b.assembleAndTake.1 = some (b.sessionId, addr, pieces.flatten) := by
  obtain ⟨addr, known⟩ := Option.isSome_iff_exists.1 whole.2.2
  obtain ⟨pieces, slots⟩ := exists_pieces whole.2.1
  have taken := ReassemblyBuffer.takeFragments_full [] pieces
  refine ⟨addr, pieces, known, slots, ?_⟩
  simp only [ReassemblyBuffer.assembleAndTake, complete, Bool.not_true, Bool.false_eq_true,
    if_false, slots, taken, known, List.nil_append, Option.map_some, Option.bind_some]

end Buffer

/-! ## One call -/

section Call
variable {r : UdpReassembler} {sessionId : UInt64} {fragmentId : UInt32}
  {fragmentIndex fragmentCount : UInt16} {address : Option Address} {data : Bytes}

def SoundCache (r : UdpReassembler) : Prop := ∀ key b, r.cache key = some b → Sound key b

theorem SoundCache.getWith (sound : SoundCache r) (key : CacheKey) : Sound key (r.getWith key) := by
  unfold UdpReassembler.getWith
  cases cached : r.cache key with
  | none => exact sound_new key
  | some b => exact sound key b cached

theorem NoneStuck.getWith (none_stuck : NoneStuck r) (key : CacheKey) :
    (r.getWith key).isComplete = false := by
  unfold UdpReassembler.getWith
  cases cached : r.cache key with
  | none => rfl
  | some b => exact none_stuck key b cached

theorem cache_put {key key' : CacheKey} {b c : ReassemblyBuffer}
    (found : (r.put key b).cache key' = some c) :
    (key' = key ∧ c = b) ∨ r.cache key' = some c :=
  (update_some_eq_some found).imp_right And.right

theorem cache_invalidate {key key' : CacheKey} {c : ReassemblyBuffer}
    (found : (r.invalidate key).cache key' = some c) : r.cache key' = some c :=
  (update_none_eq_some found).2

theorem NoneStuck.put (none_stuck : NoneStuck r) {key : CacheKey} {b : ReassemblyBuffer} :
    NoneStuck (r.put key b) ↔ b.isComplete = false := by
  constructor
  · exact fun kept => kept key b (Function.update_self ..)
  · intro incomplete key' c found
    rcases cache_put found with ⟨_, rfl⟩ | old
    · exact incomplete
    · exact none_stuck key' c old

theorem NoneStuck.invalidate (none_stuck : NoneStuck r) (key : CacheKey) :
    NoneStuck (r.invalidate key) :=
  fun key' c found => none_stuck key' c (cache_invalidate found)

theorem reassemblerStep_sound (sound : SoundCache r) {e : Event} {v : UdpReassembler}
    (step : reassemblerStep r e = some v) : SoundCache v := by
  cases e with
  | evict key =>
    obtain rfl := Option.some.inj step
    exact fun key' b found => sound key' b (cache_invalidate found)
  | process packet =>
    obtain rfl := Option.some.inj step
    cases packet with
    | unfragmented => exact sound
    | fragmented sessionId fragmentId fragmentIndex fragmentCount address data =>
      have next : Sound (sessionId, fragmentId)
          ((r.getWith (sessionId, fragmentId)).addFragment (.fragmented sessionId fragmentId
            fragmentIndex fragmentCount address data)).2 :=
        (sound.getWith (sessionId, fragmentId)).add rfl
      intro key b found
      unfold UdpReassembler.process at found
      dsimp only at found
      split_ifs at found
      · obtain ⟨rfl, rfl⟩ | old := cache_put found
        · exact next
        · exact sound key b old
      · exact sound key b (cache_invalidate found)
      · obtain ⟨rfl, rfl⟩ | old := cache_put found
        · exact next
        · exact sound key b old

/-- The ways of a call: rejected, accepted, accepted and complete. -/
theorem process_cases (sound : SoundCache r) (packet : UdpPacket)
    (shape : packet = .fragmented sessionId fragmentId fragmentIndex fragmentCount address data) :
    let key := (sessionId, fragmentId)
    (∃ c, Refused (r.getWith key) packet c ∧ ((r.getWith key).addFragment packet).2 = c ∧
        r.process packet = (.ok none, r.put key c)) ∨
      (¬ LateAddress (r.getWith key) packet ∧ ∃ c, Sound key c ∧
        ((r.getWith key).addFragment packet).2 = c ∧
        ((c.isComplete = false ∧ r.process packet = (.ok none, r.put key c)) ∨
          (c.isComplete = true ∧
            r.process packet = (.ok c.assembleAndTake.1, r.invalidate key)))) := by
  intro key
  have own := sound.getWith key
  have next := own.add shape
  cases added : (r.getWith key).addFragment packet with
  | mk accepted c =>
    rw [added] at next
    subst shape
    cases accepted with
    | false =>
      refine .inl ⟨c, addFragment_refused own.blank added, rfl, ?_⟩
      simp only [UdpReassembler.process, key, added, Bool.not_false, if_true]
    | true =>
      refine .inr ⟨fun late => ?_, c, next, rfl, ?_⟩
      · have rejected := rejects_of_harmful (harmful_of_late own late)
        cases (congrArg Prod.fst added).symm.trans rejected
      · cases complete : c.isComplete with
        | false => exact .inl ⟨rfl, by simp [UdpReassembler.process, key, added, complete]⟩
        | true => exact .inr ⟨rfl, by simp [UdpReassembler.process, key, added, complete]⟩

/-- Out of a cache without a complete buffer, a call leaves one exactly by a late address. -/
theorem process_noneStuck (sound : SoundCache r) (none_stuck : NoneStuck r) (packet : UdpPacket) :
    NoneStuck (r.process packet).2 ↔ Guarded r (.process packet) := by
  cases shape : packet with
  | unfragmented => exact iff_of_true none_stuck trivial
  | fragmented sessionId fragmentId fragmentIndex fragmentCount address data =>
    have own := sound.getWith (sessionId, fragmentId)
    have next := own.add shape
    have incomplete := none_stuck.getWith (sessionId, fragmentId)
    rw [← shape]
    have guard : Guarded r (.process packet) ↔
        ¬ LateAddress (r.getWith (sessionId, fragmentId)) packet := by
      rw [shape]
      rfl
    rw [guard]
    rcases process_cases sound packet shape with ⟨c, refused, left, processed⟩ |
      ⟨in_time, c, _, _, ⟨left, processed⟩ | ⟨_, processed⟩⟩
    · rw [left] at next
      rw [processed, none_stuck.put, ← Bool.not_eq_true, next.isComplete_iff]
      refine not_congr (whole_of_refused own ?_ refused)
      rw [← own.isComplete_iff, incomplete]
      exact Bool.false_ne_true
    · rw [processed, none_stuck.put]
      exact iff_of_true left in_time
    · rw [processed]
      exact iff_of_true (none_stuck.invalidate _) in_time

/-- A call that makes a buffer whole fails to deliver it exactly by a late address. -/
theorem process_delivers (sound : SoundCache r) (packet : UdpPacket) :
    DeliversWhole r (.process packet) ↔ Guarded r (.process packet) := by
  cases shape : packet with
  | unfragmented => exact iff_of_true trivial trivial
  | fragmented sessionId fragmentId fragmentIndex fragmentCount address data =>
    have own := sound.getWith (sessionId, fragmentId)
    simp only [DeliversWhole, Guarded]
    rw [← shape]
    rcases process_cases sound packet shape with ⟨c, refused, left, processed⟩ |
      ⟨in_time, c, next, left, ⟨incomplete, _⟩ | ⟨complete, processed⟩⟩
    · rw [left, processed]
      constructor
      · intro delivers late
        have partial_buffer : ¬ Whole (r.getWith (sessionId, fragmentId)) := by
          rintro ⟨_, _, known⟩
          cases packet with
          | unfragmented => cases shape
          | fragmented => cases known.symm.trans (congrArg Option.isSome late.2.2.2.1)
        obtain ⟨⟨_, _, _, _, delivered⟩, _⟩ := delivers partial_buffer
          ((whole_of_refused own partial_buffer refused).2 late)
        cases delivered
      · intro in_time partial_buffer whole
        exact absurd ((whole_of_refused own partial_buffer refused).1 whole) in_time
    · refine iff_of_true (fun _ whole => ?_) in_time
      rw [left] at whole
      cases incomplete.symm.trans (next.isComplete_iff.2 whole)
    · refine iff_of_true (fun _ whole => ?_) in_time
      rw [left] at whole ⊢
      obtain ⟨addr, pieces, known, slots, assembled⟩ := assembleAndTake_whole complete whole
      obtain ⟨_, stored⟩ := next.stored
      rw [processed]
      refine ⟨⟨addr, pieces, known, slots, ?_⟩, Function.update_self ..⟩
      rw [assembled, stored.session]

end Call

/-! ## Runs -/

theorem soundCache_new : SoundCache .new := fun _ _ found => by cases found

theorem soundCache_visited {es : List Event} {r : UdpReassembler}
    (visit : Visits reassemblerSystem es r) : SoundCache r := by
  obtain ⟨_, _, run⟩ := visit
  exact run.invariant soundCache_new fun _ _ _ sound step => reassemblerStep_sound sound step

/-- In a run, no complete buffer is ever left in the cache, and likewise every call that makes a
buffer whole delivers it, exactly if no first fragment brings the address after all slots of its
buffer were filled. -/
theorem complete_delivered_iff (es : List Event) :
    ((∀ r, Visits reassemblerSystem es r → NoneStuck r) ↔
        ∀ r e v, Takes reassemblerSystem es r e v → Guarded r e) ∧
      ((∀ r e v, Takes reassemblerSystem es r e v → DeliversWhole r e) ↔
        ∀ r e v, Takes reassemblerSystem es r e v → Guarded r e) := by
  constructor
  · apply safe_iff_guarded (I := SoundCache) soundCache_new
    · exact fun _ _ found => by cases found
    · exact fun _ _ _ sound _ step => reassemblerStep_sound sound step
    · intro r e v sound none_stuck step
      cases e with
      | evict key =>
        obtain rfl := Option.some.inj step
        exact iff_of_true (none_stuck.invalidate key) trivial
      | process packet =>
        obtain rfl := Option.some.inj step
        exact process_noneStuck sound none_stuck packet
  · refine forall_congr' fun r => forall_congr' fun e => forall_congr' fun v => ?_
    refine imp_congr_right fun take => ?_
    cases e with
    | evict key => exact Iff.rfl
    | process packet => exact process_delivers (soundCache_visited take.visits_source) packet

def addressAtLast : List Event :=
  [.process (.fragmented 7 9 0 2 none [1]), .process (.fragmented 7 9 1 2 none [2]),
    .process (.fragmented 7 9 0 2 (some (.domain [100] 53)) [1])]

theorem late_address_stuck :
    ¬ ∀ es r, Visits reassemblerSystem es r → NoneStuck r := by
  intro delivered
  have run : exec reassemblerSystem addressAtLast = some _ := rfl
  have last := delivered addressAtLast _ (runs_of_exec run).visits (7, 9) _ rfl
  cases last

end Ombrac.ReassemblyCompletion
