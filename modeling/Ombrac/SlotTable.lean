import Mathlib.Data.List.Basic

set_option autoImplicit false

/-!
# A table of slots

Entries go into the first free slot, and the first one that matches is found.
-/
namespace Ombrac.SlotTable

variable {α : Type*}

def add (slots : List (Option α)) (a : α) : List (Option α) :=
  match slots.findIdx? Option.isNone with
  | some i => slots.set i (some a)
  | none => slots ++ [some a]

def firstMatch (p : α → Bool) (slots : List (Option α)) : Option ℕ :=
  slots.findIdx? fun slot => slot.any p

def update (i : ℕ) (f : α → α) (slots : List (Option α)) : List (Option α) :=
  slots.modify i (Option.map f)

def sweep (f : α → Option α) (slots : List (Option α)) : List (Option α) :=
  slots.map fun slot => slot.bind f

/-- The slot that the next entry gets. -/
def freeSlot (slots : List (Option α)) : ℕ := (slots.findIdx? Option.isNone).getD slots.length

def entry (slots : List (Option α)) (i : ℕ) : Option α := (slots[i]?).join

variable {slots : List (Option α)} {a x : α}

theorem entry_eq_some {i : ℕ} : entry slots i = some x ↔ slots[i]? = some (some x) :=
  Option.join_eq_some_iff

theorem mem_iff_entry : some x ∈ slots ↔ ∃ i, entry slots i = some x := by
  simp only [entry_eq_some, List.mem_iff_getElem?]

theorem entry_add (i : ℕ) :
    entry (add slots a) i = if i = freeSlot slots then some a else entry slots i := by
  unfold add freeSlot entry
  cases found : slots.findIdx? Option.isNone with
  | none =>
    dsimp only [Option.getD]
    split_ifs with last
    · rw [last, List.getElem?_concat_length]
      rfl
    · by_cases inside : i < slots.length
      · rw [List.getElem?_append_left inside]
      · rw [List.getElem?_eq_none (Nat.le_of_not_lt inside), List.getElem?_eq_none]
        rw [List.length_append, List.length_singleton]
        omega
  | some j =>
    obtain ⟨inside, _⟩ := List.findIdx?_eq_some_iff_getElem.1 found
    dsimp only [Option.getD]
    rw [List.getElem?_set]
    by_cases same : i = j
    · rw [if_pos same.symm, if_pos inside, if_pos same]
      rfl
    · rw [if_neg (Ne.symm same), if_neg same]

theorem entry_freeSlot : entry slots (freeSlot slots) = none := by
  unfold freeSlot entry
  cases found : slots.findIdx? Option.isNone with
  | none =>
    dsimp only [Option.getD]
    rw [List.getElem?_eq_none (Nat.le_refl _)]
    rfl
  | some j =>
    obtain ⟨inside, free, _⟩ := List.findIdx?_eq_some_iff_getElem.1 found
    dsimp only [Option.getD]
    rw [List.getElem?_eq_getElem inside, Option.isNone_iff_eq_none.1 free]
    rfl

theorem mem_add : some x ∈ add slots a ↔ x = a ∨ some x ∈ slots := by
  simp only [mem_iff_entry, entry_add]
  constructor
  · rintro ⟨i, there⟩
    split_ifs at there with new
    · exact .inl (Option.some.inj there).symm
    · exact .inr ⟨i, there⟩
  · rintro (rfl | ⟨i, there⟩)
    · exact ⟨_, if_pos rfl⟩
    · refine ⟨i, (if_neg ?_).trans there⟩
      rintro rfl
      cases entry_freeSlot.symm.trans there

theorem firstMatch_some {p : α → Bool} {i : ℕ} (found : firstMatch p slots = some i) :
    ∃ y, entry slots i = some y ∧ p y = true := by
  obtain ⟨inside, matched, _⟩ := List.findIdx?_eq_some_iff_getElem.1 found
  cases slot : slots[i] with
  | none =>
    rw [slot] at matched
    cases matched
  | some y =>
    rw [slot] at matched
    exact ⟨y, entry_eq_some.2 (by rw [List.getElem?_eq_getElem inside, slot]), matched⟩

theorem entry_update (i j : ℕ) (f : α → α) :
    entry (update i f slots) j = if i = j then (entry slots j).map f else entry slots j := by
  unfold entry update
  rw [List.getElem?_modify]
  cases slots[j]? with
  | none => split_ifs <;> rfl
  | some slot => split_ifs <;> rfl

theorem entry_sweep (f : α → Option α) (i : ℕ) :
    entry (sweep f slots) i = (entry slots i).bind f := by
  unfold entry sweep
  rw [List.getElem?_map]
  cases slots[i]? <;> rfl

end Ombrac.SlotTable
