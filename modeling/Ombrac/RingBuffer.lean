import Mathlib.Data.List.Basic

set_option autoImplicit false

/-! # A bounded buffer written and read in slices -/
namespace Ombrac.RingBuffer

structure RingBuf (α : Type*) where
  capacity : ℕ
  contents : List α
  fits : contents.length ≤ capacity

namespace RingBuf
variable {α : Type*}

def new (capacity : ℕ) : RingBuf α := ⟨capacity, [], Nat.zero_le _⟩

def room (r : RingBuf α) : ℕ := r.capacity - r.contents.length

def isFull (r : RingBuf α) : Bool := r.room = 0

def isEmpty (r : RingBuf α) : Bool := r.contents.isEmpty

def accepts (r : RingBuf α) (xs : List α) : List α := xs.take r.room

theorem accepts_fits (r : RingBuf α) (xs : List α) :
    (r.contents ++ r.accepts xs).length ≤ r.capacity := by
  have fits := r.fits
  have taken := List.length_take_le r.room xs
  simp only [accepts, List.length_append]
  unfold room at taken ⊢
  omega

def pushSlice (r : RingBuf α) (xs : List α) : RingBuf α :=
  ⟨r.capacity, r.contents ++ r.accepts xs, r.accepts_fits xs⟩

def popSlice (r : RingBuf α) (n : ℕ) : List α × RingBuf α :=
  (r.contents.take n, ⟨r.capacity, r.contents.drop n, by
    have fits := r.fits
    rw [List.length_drop]
    omega⟩)

@[simp] theorem pushSlice_contents (r : RingBuf α) (xs : List α) :
    (r.pushSlice xs).contents = r.contents ++ r.accepts xs := rfl

@[simp] theorem pushSlice_capacity (r : RingBuf α) (xs : List α) :
    (r.pushSlice xs).capacity = r.capacity := rfl

@[simp] theorem popSlice_capacity (r : RingBuf α) (n : ℕ) :
    (r.popSlice n).2.capacity = r.capacity := rfl

theorem pushSlice_nonempty {r : RingBuf α} (h : r.isEmpty = false) (xs : List α) :
    (r.pushSlice xs).isEmpty = false := by
  simp only [isEmpty, pushSlice_contents] at h ⊢
  rw [List.isEmpty_eq_false_iff] at h ⊢
  exact List.append_ne_nil_of_left_ne_nil h _

theorem popSlice_empty {r : RingBuf α} (h : r.isEmpty = true) (n : ℕ) :
    (r.popSlice n).2.isEmpty = true := by
  simp only [isEmpty, popSlice] at h ⊢
  rw [List.isEmpty_iff] at h ⊢
  rw [h, List.drop_nil]

theorem nonempty_of_isFull {r : RingBuf α} (sized : 0 < r.capacity) (full : r.isFull = true) :
    r.isEmpty = false := by
  have taken : r.capacity - r.contents.length = 0 := of_decide_eq_true full
  rw [isEmpty, List.isEmpty_eq_false_iff, ← List.length_pos_iff]
  omega

/-- What is taken and what stays are what was there, in order. -/
theorem popSlice_append (r : RingBuf α) (n : ℕ) :
    (r.popSlice n).1 ++ (r.popSlice n).2.contents = r.contents :=
  List.take_append_drop n r.contents

theorem accepts_append (r : RingBuf α) (xs : List α) :
    r.accepts xs ++ xs.drop (r.accepts xs).length = xs := by
  unfold accepts
  rw [List.length_take]
  rcases Nat.le_total r.room xs.length with small | large
  · rw [Nat.min_eq_left small]
    exact List.take_append_drop _ xs
  · rw [Nat.min_eq_right large, List.take_of_length_le large, List.drop_length, List.append_nil]

end RingBuf
end Ombrac.RingBuffer
