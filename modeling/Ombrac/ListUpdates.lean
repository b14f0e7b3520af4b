import Mathlib.Algebra.GroupWithZero.Nat
import Mathlib.Data.List.Nodup
import Mathlib.Data.List.Perm.Basic
import Mathlib.Logic.Function.Basic

set_option autoImplicit false

/-! # Lists that grow at the end, and lists and tables that change in one place -/
namespace Ombrac.ListUpdates

variable {α : Type*} {l : List α} {i j : ℕ} {a b : α}

theorem getElem?_concat_eq_some (h : (l ++ [a])[i]? = some b) :
    l[i]? = some b ∨ i = l.length ∧ b = a := by
  rcases Nat.lt_trichotomy i l.length with inside | rfl | outside
  · rw [List.getElem?_append_left inside] at h
    exact .inl h
  · rw [List.getElem?_concat_length] at h
    exact .inr ⟨rfl, (Option.some.inj h).symm⟩
  · rw [List.getElem?_eq_none (by simp; omega)] at h
    cases h

theorem getElem?_concat_of_some (h : l[i]? = some b) : (l ++ [a])[i]? = some b := by
  rw [List.getElem?_append_left (List.getElem?_eq_some_iff.1 h).1]
  exact h

theorem getElem?_set_eq_some (h : (l.set i a)[j]? = some b) :
    (j = i ∧ b = a) ∨ (j ≠ i ∧ l[j]? = some b) := by
  by_cases same : j = i
  · subst same
    have bound := (List.getElem?_eq_some_iff.1 h).1
    rw [List.length_set] at bound
    rw [List.getElem?_set_self bound] at h
    exact .inl ⟨rfl, (Option.some.inj h).symm⟩
  · rw [List.getElem?_set_ne (Ne.symm same)] at h
    exact .inr ⟨same, h⟩

theorem getElem?_set_of_some (h : l[i]? = some b) : (l.set i a)[i]? = some a :=
  List.getElem?_set_self (List.getElem?_eq_some_iff.1 h).1

theorem countP_eraseIdx (p : α → Bool) (found : l[i]? = some a) :
    (l.eraseIdx i).countP p + (if p a then 1 else 0) = l.countP p := by
  obtain ⟨bound, rfl⟩ := List.getElem?_eq_some_iff.1 found
  rw [← List.countP_cons]
  exact (List.getElem_cons_eraseIdx_perm bound).countP_eq p

theorem countP_eraseIdx_toNat (p : α → Bool) (found : l[i]? = some a) :
    (l.eraseIdx i).countP p + (p a).toNat = l.countP p := by
  rw [← countP_eraseIdx p found]
  cases p a <;> rfl

theorem countP_concat (p : α → Bool) (l : List α) (a : α) :
    (l ++ [a]).countP p = l.countP p + (p a).toNat := by
  rw [List.countP_append, List.countP_singleton]
  cases p a <;> rfl

theorem countP_set (p : α → Bool) (found : l[i]? = some a) (b : α) :
    (l.set i b).countP p + (p a).toNat = l.countP p + (p b).toNat := by
  induction l generalizing i with
  | nil => cases found
  | cons x l ih =>
    cases i with
    | zero =>
      obtain rfl := Option.some.inj found
      simp only [List.set_cons_zero, List.countP_cons]
      cases p x <;> cases p b <;> simp
    | succ i =>
      have rest := ih found
      simp only [List.set_cons_succ, List.countP_cons]
      omega

/-- A sum over a list in which one place changes. -/
theorem sum_mapIdx_set (f : ℕ → α → ℕ) (found : l[i]? = some a) (b : α) :
    ((l.set i b).mapIdx f).sum + f i a = (l.mapIdx f).sum + f i b := by
  induction l generalizing i f with
  | nil => cases found
  | cons x l ih =>
    cases i with
    | zero =>
      obtain rfl := Option.some.inj found
      simp only [List.set_cons_zero, List.mapIdx_cons, List.sum_cons]
      omega
    | succ i =>
      have rest := ih (fun j => f (j + 1)) found
      simp only [List.set_cons_succ, List.mapIdx_cons, List.sum_cons]
      omega

theorem sum_map_set (f : α → ℕ) (found : l[i]? = some a) (b : α) :
    ((l.set i b).map f).sum + f a = (l.map f).sum + f b := by
  have same : ∀ l : List α, l.mapIdx (fun _ => f) = l.map f := by simp [List.mapIdx_eq_iff]
  rw [← same, ← same]
  exact sum_mapIdx_set (fun _ => f) found b

theorem sum_map_le_sum_mapIdx {f : ℕ → α → ℕ} {g : α → ℕ}
    (less : ∀ i a, l[i]? = some a → g a ≤ f i a) : (l.map g).sum ≤ (l.mapIdx f).sum := by
  induction l generalizing f with
  | nil => exact Nat.le_refl _
  | cons x l ih =>
    simp only [List.map_cons, List.mapIdx_cons, List.sum_cons]
    exact Nat.add_le_add (less 0 x rfl) (ih fun i a there => less (i + 1) a there)

section Tables
variable {κ : Type*} [DecidableEq κ] {table : κ → Option α} {k l : κ}

theorem update_some_eq_some (h : Function.update table k (some a) l = some b) :
    (l = k ∧ b = a) ∨ (l ≠ k ∧ table l = some b) := by
  by_cases same : l = k
  · subst same
    rw [Function.update_self] at h
    exact .inl ⟨rfl, (Option.some.inj h).symm⟩
  · rw [Function.update_of_ne same] at h
    exact .inr ⟨same, h⟩

theorem update_none_eq_some (h : Function.update table k none l = some b) :
    l ≠ k ∧ table l = some b := by
  by_cases same : l = k
  · subst same
    rw [Function.update_self] at h
    cases h
  · rw [Function.update_of_ne same] at h
    exact ⟨same, h⟩

end Tables
end Ombrac.ListUpdates
