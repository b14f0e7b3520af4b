import Mathlib.Data.Finset.Card
import Mathlib.Data.Finset.Range
import Ombrac.UdpReassembly

set_option autoImplicit false

/-!
# Whose fragment a slot holds

Beside a buffer stands the call that filled each of its slots. A buffer that has been assembled is
spent: its slots were taken while its count stayed, so whatever a late call puts into them, the
count is past the total and the buffer is never complete again.
-/
namespace Ombrac.ReassemblySlots
open ProtocolPacket UdpReassembly

variable {ι : Type}

def dataOf : UdpPacket → Bytes
  | .unfragmented _ _ data => data
  | .fragmented _ _ _ _ _ data => data

def indexOf : UdpPacket → ℕ
  | .unfragmented .. => 0
  | .fragmented _ _ fragmentIndex .. => fragmentIndex.toNat

def Carries (key : CacheKey) (count : UInt16) (i : ℕ) : UdpPacket → Prop
  | .unfragmented .. => False
  | .fragmented sessionId fragmentId fragmentIndex fragmentCount _ _ =>
    (sessionId, fragmentId) = key ∧ fragmentCount = count ∧ fragmentIndex.toNat = i

def filled (n : ℕ) (slots : ℕ → Option ι) : ℕ :=
  ((Finset.range n).filter fun i => (slots i).isSome = true).card

theorem filled_le (n : ℕ) (slots : ℕ → Option ι) : filled n slots ≤ n :=
  (Finset.card_filter_le _ _).trans (Finset.card_range n).le

theorem filled_none (n : ℕ) : filled n (fun _ => (none : Option ι)) = 0 := by
  simp [filled]

theorem filled_update {n i : ℕ} {slots : ℕ → Option ι} (hi : i < n) (empty : slots i = none)
    (t : ι) : filled n (Function.update slots i (some t)) = filled n slots + 1 := by
  have others : (Finset.range n).filter
        (fun j => (Function.update slots i (some t) j).isSome = true) =
      insert i ((Finset.range n).filter fun j => (slots j).isSome = true) := by
    ext j
    by_cases same : j = i
    · subst same
      simp [hi]
    · simp [same]
  rw [filled, others, Finset.card_insert_of_notMem (by simp [empty])]
  rfl

theorem filled_eq_iff {n : ℕ} {slots : ℕ → Option ι} :
    filled n slots = n ↔ ∀ i < n, (slots i).isSome = true := by
  rw [filled]
  nth_rewrite 2 [← Finset.card_range n]
  rw [Finset.card_filter_eq_iff]
  simp only [Finset.mem_range]

structure Filled (packet : ι → UdpPacket) (key : CacheKey) (b : ReassemblyBuffer)
    (slots : ℕ → Option ι) (spent : Bool) : Prop where
  session : b.sessionId = key.1
  few : b.totalCount.toNat ≤ 256
  fragments : b.fragments =
    (List.range b.totalCount.toNat).map fun i => (slots i).map fun t => dataOf (packet t)
  outside : ∀ i, b.totalCount.toNat ≤ i → slots i = none
  own : ∀ i t, slots i = some t → Carries key b.totalCount i (packet t)
  count : b.receivedCount.toNat =
    (if spent = true then b.totalCount.toNat else 0) + filled b.totalCount.toNat slots
  positive : spent = true → 0 < b.totalCount.toNat

section Buffer
variable {packet : ι → UdpPacket} {key : CacheKey} {b c : ReassemblyBuffer}
  {slots : ℕ → Option ι} {spent : Bool}

theorem filled_new (packet : ι → UdpPacket) (key : CacheKey) :
    Filled packet key (.new key.1 0 none) (fun _ => none) false where
  session := rfl
  few := Nat.zero_le _
  fragments := rfl
  outside _ _ := rfl
  own _ _ h := by cases h
  count := by simp [ReassemblyBuffer.new, filled]
  positive h := by cases h

theorem Filled.adopt (h : Filled packet key b slots spent) {count : UInt16}
    (few : count.toNat ≤ 256) (adopted : b.adoptCount count = some c) :
    Filled packet key c slots spent ∧ c.totalCount = count := by
  unfold ReassemblyBuffer.adoptCount at adopted
  split_ifs at adopted with unknown same
  · obtain rfl := Option.some.inj adopted
    have zero : b.totalCount.toNat = 0 := by rw [unknown]; rfl
    have empty : slots = fun _ => none := by
      funext i
      exact h.outside i (zero ▸ Nat.zero_le i)
    have fresh : spent = false := by
      by_contra used
      have positive := h.positive (by simpa using used)
      omega
    subst empty fresh
    refine ⟨⟨h.session, few, ?_, fun _ _ => rfl, ?_, ?_, ?_⟩, rfl⟩
    · simp
    · intro i t slot
      cases slot
    · have before := h.count
      rw [zero, filled_none] at before
      rw [filled_none]
      exact before
    · intro used
      cases used
  · obtain rfl := Option.some.inj adopted
    exact ⟨h, not_not.1 same⟩

theorem Filled.address (h : Filled packet key b slots spent) (address : Option Address) :
    Filled packet key { b with address := address } slots spent :=
  ⟨h.session, h.few, h.fragments, h.outside, h.own, h.count, h.positive⟩

theorem Filled.takeAddress (h : Filled packet key b slots spent) {fragmentIndex : UInt16}
    {address : Option Address} (taken : b.takeAddress fragmentIndex address = some c) :
    Filled packet key c slots spent ∧ c.totalCount = b.totalCount := by
  unfold ReassemblyBuffer.takeAddress at taken
  split at taken
  · split at taken
    · obtain rfl := Option.some.inj taken
      exact ⟨h.address _, rfl⟩
    · split at taken
      · split_ifs at taken
        obtain rfl := Option.some.inj taken
        exact ⟨h, rfl⟩
      · cases taken
  · obtain rfl := Option.some.inj taken
    exact ⟨h, rfl⟩

theorem Filled.slot (h : Filled packet key b slots spent) {i : ℕ}
    (empty : b.fragments[i]? = some none) : i < b.totalCount.toNat ∧ slots i = none := by
  rw [h.fragments, List.getElem?_map] at empty
  obtain ⟨j, there, found⟩ := Option.map_eq_some_iff.1 empty
  obtain ⟨bound, same⟩ := List.getElem?_eq_some_iff.1 there
  rw [List.length_range] at bound
  rw [List.getElem_range] at same
  subst same
  exact ⟨bound, Option.map_eq_none_iff.1 found⟩

theorem Filled.store (h : Filled packet key b slots spent) (t : ι) (fragmentIndex : UInt16)
    (carries : Carries key b.totalCount fragmentIndex.toNat (packet t)) :
    (b.storeFragment fragmentIndex (dataOf (packet t)) = (false, b)) ∨
      (slots fragmentIndex.toNat = none ∧ fragmentIndex.toNat < b.totalCount.toNat ∧
        ∃ c, b.storeFragment fragmentIndex (dataOf (packet t)) = (true, c) ∧
          c.totalCount = b.totalCount ∧
          Filled packet key c (Function.update slots fragmentIndex.toNat (some t)) spent) := by
  unfold ReassemblyBuffer.storeFragment
  dsimp only
  split_ifs with empty
  · obtain ⟨bound, free⟩ := h.slot empty
    refine .inr ⟨free, bound, _, rfl, rfl, h.session, h.few, ?_, ?_, ?_, ?_, h.positive⟩
    · rw [h.fragments]
      apply List.ext_getElem?
      intro j
      rw [List.getElem?_set, List.getElem?_map, List.getElem?_map]
      by_cases same : fragmentIndex.toNat = j
      · subst same
        simp [bound]
      · rw [if_neg same]
        by_cases hj : j < b.totalCount.toNat
        · simp [hj, Ne.symm same]
        · simp [hj]
    · intro i outside
      rw [Function.update_of_ne (by dsimp only at outside; omega)]
      exact h.outside i outside
    · intro i u slot
      by_cases same : i = fragmentIndex.toNat
      · subst same
        rw [Function.update_self] at slot
        obtain rfl := Option.some.inj slot
        exact carries
      · rw [Function.update_of_ne same] at slot
        exact h.own i u slot
    · have little := filled_le b.totalCount.toNat slots
      have few := h.few
      have count := h.count
      rw [UInt16.toNat_add, filled_update bound free]
      rw [Nat.mod_eq_of_lt]
      · rw [count, UInt16.toNat_one]
        exact Nat.add_assoc _ _ _
      · rw [count, UInt16.toNat_one]
        split_ifs
        · omega
        · omega
  · exact .inl rfl

/-- What one call does to the buffer of its key: its fragment is refused, or fills a free slot. -/
theorem Filled.add (h : Filled packet key b slots spent) (t : ι) {fragmentIndex count : UInt16}
    {address : Option Address} {data : Bytes}
    (shape : packet t = .fragmented key.1 key.2 fragmentIndex count address data) :
    (∃ c, b.addFragment (packet t) = (false, c) ∧ Filled packet key c slots spent) ∨
      (slots fragmentIndex.toNat = none ∧ ∃ c, b.addFragment (packet t) = (true, c) ∧
        fragmentIndex.toNat < c.totalCount.toNat ∧
        Filled packet key c (Function.update slots fragmentIndex.toNat (some t)) spent) := by
  have own : dataOf (packet t) = data := by
    rw [shape]
    rfl
  by_cases invalid : count = 0 ∨ maxFragmentCount < count
  · exact .inl ⟨b, by rw [shape]; simp only [ReassemblyBuffer.addFragment, if_pos invalid], h⟩
  have few : count.toNat ≤ 256 := by
    rw [not_or, UInt16.lt_iff_toNat_lt, Nat.not_lt] at invalid
    exact invalid.2
  cases adopted : b.adoptCount count with
  | none =>
    refine .inl ⟨b, ?_, h⟩
    rw [shape]
    simp only [ReassemblyBuffer.addFragment, if_neg invalid, adopted]
  | some b₁ =>
    obtain ⟨h₁, total₁⟩ := h.adopt few adopted
    cases taken : b₁.takeAddress fragmentIndex address with
    | none =>
      refine .inl ⟨b₁, ?_, h₁⟩
      rw [shape]
      simp only [ReassemblyBuffer.addFragment, if_neg invalid, adopted, taken]
    | some b₂ =>
      obtain ⟨h₂, total₂⟩ := h₁.takeAddress taken
      have added : b.addFragment (packet t) = b₂.storeFragment fragmentIndex (dataOf (packet t)) := by
        rw [own, shape]
        simp only [ReassemblyBuffer.addFragment, if_neg invalid, adopted, taken]
      have carries : Carries key b₂.totalCount fragmentIndex.toNat (packet t) := by
        rw [shape, total₂, total₁]
        exact ⟨rfl, rfl, rfl⟩
      rw [added]
      rcases h₂.store t fragmentIndex carries with refused | ⟨free, bound, c, stored, total, h₃⟩
      · exact .inl ⟨b₂, refused, h₂⟩
      · exact .inr ⟨free, c, stored, total ▸ bound, h₃⟩

/-- Right after an accepted fragment a complete buffer is not spent, and every slot is filled. -/
theorem Filled.complete (h : Filled packet key b slots spent)
    (used : 0 < filled b.totalCount.toNat slots) (complete : b.isComplete = true) :
    spent = false ∧ (∀ i < b.totalCount.toNat, (slots i).isSome = true) ∧
      ∃ address, b.address = some address := by
  simp only [ReassemblyBuffer.isComplete, Bool.and_eq_true, beq_iff_eq] at complete
  obtain ⟨⟨_, counts⟩, known⟩ := complete
  have count := h.count
  rw [counts] at count
  cases spent with
  | true =>
    rw [if_pos rfl] at count
    omega
  | false =>
    simp only [Bool.false_eq_true, if_false, Nat.zero_add] at count
    exact ⟨rfl, filled_eq_iff.1 count.symm, Option.isSome_iff_exists.1 known⟩

theorem takeFragments_left (combined : Bytes) (pieces : List Bytes) :
    (ReassemblyBuffer.takeFragments combined (pieces.map some)).2 =
      List.replicate pieces.length none := by
  induction pieces generalizing combined with
  | nil => rfl
  | cons piece pieces ih =>
    simp only [List.map_cons, ReassemblyBuffer.takeFragments, ih, List.length_cons,
      List.replicate_succ]

/-- The calls of a full buffer, in the order of their slots. -/
def contributors (n : ℕ) (slots : ℕ → Option ι) : List ι := (List.range n).filterMap slots

theorem contributors_map {n : ℕ} (full : ∀ i < n, (slots i).isSome = true) :
    (contributors n slots).map some = (List.range n).map slots := by
  have each : ∀ i ∈ List.range n, (slots i).map some = some (slots i) := by
    intro i member
    obtain ⟨t, found⟩ := Option.isSome_iff_exists.1 (full i (List.mem_range.1 member))
    rw [found]
    rfl
  rw [contributors, List.map_filterMap, List.filterMap_congr each]
  exact congrFun List.filterMap_eq_map' _

theorem contributors_length {n : ℕ} (full : ∀ i < n, (slots i).isSome = true) :
    (contributors n slots).length = n := by
  have length := congrArg List.length (contributors_map full)
  simpa using length

theorem contributors_getElem? {n i : ℕ} (full : ∀ i < n, (slots i).isSome = true) (hi : i < n) :
    (contributors n slots)[i]? = slots i := by
  have image := congrArg (fun l => l[i]?) (contributors_map full)
  simp only [List.getElem?_map, List.getElem?_range hi, Option.map_some] at image
  obtain ⟨t, found, same⟩ := Option.map_eq_some_iff.1 image
  rw [found, same]

/-- A full buffer is assembled from its slots in order, and spent. -/
theorem Filled.assemble (h : Filled packet key b slots false) (complete : b.isComplete = true)
    (full : ∀ i < b.totalCount.toNat, (slots i).isSome = true) {address : Address}
    (known : b.address = some address) :
    ∃ c, b.assembleAndTake = (some (key.1, address,
        ((contributors b.totalCount.toNat slots).map fun t => dataOf (packet t)).flatten), c) ∧
      c.totalCount = b.totalCount ∧ Filled packet key c (fun _ => none) true := by
  have pieces : b.fragments =
      ((contributors b.totalCount.toNat slots).map fun t => dataOf (packet t)).map some := by
    rw [h.fragments, List.map_map]
    have image := congrArg (List.map (Option.map fun t => dataOf (packet t)))
      (contributors_map full)
    rw [List.map_map, List.map_map] at image
    exact image.symm
  have taken := ReassemblyBuffer.takeFragments_full []
    ((contributors b.totalCount.toNat slots).map fun t => dataOf (packet t))
  have left := takeFragments_left []
    ((contributors b.totalCount.toNat slots).map fun t => dataOf (packet t))
  have counts : b.receivedCount = b.totalCount ∧ 0 < b.totalCount := by
    simp only [ReassemblyBuffer.isComplete, Bool.and_eq_true, beq_iff_eq, decide_eq_true_eq]
      at complete
    exact ⟨complete.1.2, complete.1.1⟩
  refine ⟨{ b with fragments := List.replicate b.totalCount.toNat none }, ?_, rfl, h.session,
    h.few, ?_, fun _ _ => rfl, ?_, ?_, ?_⟩
  · rw [List.length_map, contributors_length full] at left
    simp only [ReassemblyBuffer.assembleAndTake, complete, Bool.not_true, Bool.false_eq_true,
      if_false, pieces, taken, left, known, h.session, List.nil_append, Option.map_some,
      Option.bind_some]
  · simp
  · intro i t slot
    cases slot
  · rw [filled_none, if_pos rfl, counts.1]
    rfl
  · intro _
    exact UInt16.lt_iff_toNat_lt.1 counts.2

end Buffer
end Ombrac.ReassemblySlots
