import Mathlib.Data.List.Basic

set_option autoImplicit false

/-! # A bounded first-in first-out channel whose receiver may go away -/
namespace Ombrac.BoundedChannel

/-- `accepted` is everything ever queued, oldest first. -/
structure Channel (α : Type*) where
  capacity : ℕ
  queue : List α
  accepted : List α
  closed : Bool
  deriving DecidableEq

namespace Channel
variable {α : Type*}

def new (capacity : ℕ) : Channel α := ⟨capacity, [], [], false⟩

def Full (c : Channel α) : Prop := c.capacity ≤ c.queue.length

instance (c : Channel α) : Decidable c.Full := inferInstanceAs (Decidable (_ ≤ _))

def push (c : Channel α) (x : α) : Channel α :=
  { c with queue := c.queue ++ [x], accepted := c.accepted ++ [x] }

def pop (c : Channel α) : Channel α := { c with queue := c.queue.tail }

def close (c : Channel α) : Channel α := { c with queue := [], closed := true }

@[simp] theorem push_closed (c : Channel α) (x : α) : (c.push x).closed = c.closed := rfl
@[simp] theorem pop_closed (c : Channel α) : c.pop.closed = c.closed := rfl
@[simp] theorem close_closed (c : Channel α) : c.close.closed = true := rfl
@[simp] theorem push_capacity (c : Channel α) (x : α) : (c.push x).capacity = c.capacity := rfl
@[simp] theorem pop_capacity (c : Channel α) : c.pop.capacity = c.capacity := rfl
@[simp] theorem close_capacity (c : Channel α) : c.close.capacity = c.capacity := rfl
@[simp] theorem push_accepted (c : Channel α) (x : α) :
    (c.push x).accepted = c.accepted ++ [x] := rfl
@[simp] theorem pop_accepted (c : Channel α) : c.pop.accepted = c.accepted := rfl
@[simp] theorem close_accepted (c : Channel α) : c.close.accepted = c.accepted := rfl

/-- Taking an element of a channel that respects its capacity frees a slot. -/
theorem pop_not_full {c : Channel α} (h : c.queue.length ≤ c.capacity) (nonempty : c.queue ≠ []) :
    ¬ c.pop.Full := by
  have positive := List.length_pos_of_ne_nil nonempty
  simp only [Full, pop, List.length_tail]
  omega

end Channel
end Ombrac.BoundedChannel
