import Mathlib.Data.List.Basic

set_option autoImplicit false

/-!
# Counting semaphores

Tasks queue for a permit in the order in which they ask, and a permit comes back when its holder
drops it. Free permits and holders together are what the semaphore was created with.
-/
namespace Ombrac

structure Semaphore (τ : Type*) where
  permits : ℕ
  waiting : List τ
  holding : List τ

namespace Semaphore
variable {τ : Type*}

def new (permits : ℕ) : Semaphore τ := ⟨permits, [], []⟩

/-- `acquire` up to its wait. -/
def enqueue (s : Semaphore τ) (t : τ) : Semaphore τ := { s with waiting := s.waiting ++ [t] }

def grant (s : Semaphore τ) : Option (τ × Semaphore τ) :=
  match s.waiting with
  | [] => none
  | t :: rest =>
    if 0 < s.permits then some (t, ⟨s.permits - 1, rest, s.holding ++ [t]⟩) else none

/-- `try_acquire` does not queue. -/
def tryAcquire (s : Semaphore τ) (t : τ) : Option (Semaphore τ) :=
  if 0 < s.permits then some { s with permits := s.permits - 1, holding := s.holding ++ [t] }
  else none

def release [DecidableEq τ] (s : Semaphore τ) (t : τ) : Option (Semaphore τ) :=
  if t ∈ s.holding then some { s with permits := s.permits + 1, holding := s.holding.erase t }
  else none

def total (s : Semaphore τ) : ℕ := s.permits + s.holding.length

@[simp] theorem total_new (permits : ℕ) : (new permits : Semaphore τ).total = permits := rfl

@[simp] theorem total_enqueue (s : Semaphore τ) (t : τ) : (s.enqueue t).total = s.total := rfl

theorem grant_eq_some {s u : Semaphore τ} {t : τ} (h : s.grant = some (t, u)) :
    ∃ rest, s.waiting = t :: rest ∧ 0 < s.permits ∧
      u = ⟨s.permits - 1, rest, s.holding ++ [t]⟩ := by
  unfold grant at h
  split at h
  · cases h
  · rename_i first rest queued
    split_ifs at h with free
    obtain ⟨rfl, rfl⟩ := Prod.mk.inj (Option.some.inj h)
    exact ⟨rest, queued, free, rfl⟩

theorem total_grant {s u : Semaphore τ} {t : τ} (h : s.grant = some (t, u)) :
    u.total = s.total := by
  obtain ⟨rest, _, free, rfl⟩ := grant_eq_some h
  simp only [total, List.length_append, List.length_singleton]
  omega

theorem holding_tryAcquire {s u : Semaphore τ} {t : τ} (h : s.tryAcquire t = some u) :
    u.holding = s.holding ++ [t] := by
  unfold tryAcquire at h
  split_ifs at h
  obtain rfl := Option.some.inj h
  rfl

theorem holding_release [DecidableEq τ] {s u : Semaphore τ} {t : τ} (h : s.release t = some u) :
    t ∈ s.holding ∧ u.holding = s.holding.erase t := by
  unfold release at h
  split_ifs at h with held
  obtain rfl := Option.some.inj h
  exact ⟨held, rfl⟩

theorem total_tryAcquire {s u : Semaphore τ} {t : τ} (h : s.tryAcquire t = some u) :
    u.total = s.total := by
  unfold tryAcquire at h
  split_ifs at h with free
  obtain rfl := Option.some.inj h
  simp only [total, List.length_append, List.length_singleton]
  omega

theorem total_release [DecidableEq τ] {s u : Semaphore τ} {t : τ} (h : s.release t = some u) :
    u.total = s.total := by
  unfold release at h
  split_ifs at h with held
  obtain rfl := Option.some.inj h
  have positive := List.length_pos_of_mem held
  simp only [total, List.length_erase_of_mem held]
  omega

theorem holding_le_total (s : Semaphore τ) : s.holding.length ≤ s.total :=
  Nat.le_add_left ..

/-- A task that asks while nobody queues gets the permit that is free. -/
theorem grant_enqueue {s : Semaphore τ} (idle : s.waiting = []) (free : 0 < s.permits) (t : τ) :
    (s.enqueue t).grant = some (t, ⟨s.permits - 1, [], s.holding ++ [t]⟩) := by
  unfold grant enqueue
  simp only [idle, List.nil_append, if_pos free]

end Semaphore
end Ombrac
