import Mathlib.Logic.Function.Basic

set_option autoImplicit false

/-!
# Things that are in one place at a time

A relation says which things lie where; it is exclusive if it is the graph of a partial function.
A step that takes one thing out of its place and puts it into another keeps it so.
-/
namespace Ombrac.ExclusivePlaces

variable {α π : Type*} {lies lies' : α → π → Prop} {place : α → Option π}

/-- `place` tells where each thing is, and `none` of a thing that is nowhere. -/
def Exclusive (lies : α → π → Prop) (place : α → Option π) : Prop :=
  ∀ a p, lies a p ↔ place a = some p

theorem Exclusive.congr (h : Exclusive lies place) (same : ∀ a p, lies' a p ↔ lies a p) :
    Exclusive lies' place :=
  fun a p => (same a p).trans (h a p)

theorem Exclusive.eq (h : Exclusive lies place) {a : α} {p q : π} (there : lies a p)
    (here : lies a q) : p = q :=
  Option.some.inj (((h a p).1 there).symm.trans ((h a q).1 here))

theorem Exclusive.existsUnique (h : Exclusive lies place) {a : α}
    (somewhere : (place a).isSome = true) : ∃! p, lies a p := by
  obtain ⟨p, there⟩ := Option.isSome_iff_exists.1 somewhere
  exact ⟨p, (h a p).2 there, fun q here => h.eq here ((h a p).2 there)⟩

theorem Exclusive.isSome_of_lies (h : Exclusive lies place) {a : α} {p : π} (there : lies a p) :
    (place a).isSome = true := by
  rw [(h a p).1 there]
  rfl

section Move
variable [DecidableEq α]

/-- The thing `a` moves from `old` to `new`, and nothing else moves. -/
theorem Exclusive.move (h : Exclusive lies place) {a : α} {old new : π} (here : lies a old)
    (left : ¬ lies' a old) (came : lies' a new)
    (own : ∀ p, p ≠ old → p ≠ new → (lies' a p ↔ lies a p))
    (others : ∀ x, x ≠ a → ∀ p, lies' x p ↔ lies x p) :
    Exclusive lies' (Function.update place a (some new)) := by
  intro x p
  by_cases same : x = a
  · subst same
    rw [Function.update_self, Option.some.injEq, eq_comm]
    constructor
    · intro there
      by_contra other
      have kept : p ≠ old := by
        rintro rfl
        exact left there
      exact kept (h.eq ((own p kept other).1 there) here)
    · rintro rfl
      exact came
  · rw [Function.update_of_ne same]
    exact (others x same p).trans (h x p)

theorem isSome_update {a : α} (here : (place a).isSome = true) (new : π) (x : α) :
    (Function.update place a (some new) x).isSome = (place x).isSome := by
  by_cases same : x = a
  · subst same
    rw [Function.update_self, here]
    rfl
  · rw [Function.update_of_ne same]

end Move
end Ombrac.ExclusivePlaces
