import Mathlib.Logic.Function.Basic
import Ombrac.LabelledSystem

set_option autoImplicit false

/-!
# Tasks over one shared state

Any number of tasks run the same program. A step of a task sees the shared state and its own
phase only, and the world may move the shared state on its own. An invariant speaks of the shared
state and, for each task, of its phase; besides the task that moves, it must survive in the
others, whose phases are as they were.
-/
namespace Ombrac.SharedTasks
open LabelledSystem

structure Program (σ π ε ω : Type*) where
  shared : σ
  phase : π
  step : ℕ → σ → π → ε → Option (σ × π)
  world : σ → ω → Option σ

structure State (σ π : Type*) where
  shared : σ
  phase : ℕ → π

inductive Event (ε ω : Type*) where
  | task (t : ℕ) (action : ε)
  | world (change : ω)

variable {σ π ε ω : Type*}

namespace State

def move (s : State σ π) (t : ℕ) (next : σ × π) : State σ π :=
  ⟨next.1, Function.update s.phase t next.2⟩

@[simp] theorem move_shared (s : State σ π) (t : ℕ) (next : σ × π) :
    (s.move t next).shared = next.1 := rfl

@[simp] theorem move_phase (s : State σ π) (t : ℕ) (next : σ × π) :
    (s.move t next).phase t = next.2 := Function.update_self ..

theorem move_phase_of_ne (s : State σ π) {t u : ℕ} (other : u ≠ t) (next : σ × π) :
    (s.move t next).phase u = s.phase u := Function.update_of_ne other ..

theorem move_self (s : State σ π) (t : ℕ) : s.move t (s.shared, s.phase t) = s :=
  congrArg (State.mk s.shared) (Function.update_eq_self ..)

@[simp] theorem move_move (s : State σ π) (t : ℕ) (next last : σ × π) :
    (s.move t next).move t last = s.move t last :=
  congrArg (State.mk last.1) (Function.update_idem ..)

end State

namespace Program

def advance (P : Program σ π ε ω) (s : State σ π) : Event ε ω → Option (State σ π)
  | .task t action => (P.step t s.shared (s.phase t) action).map (s.move t)
  | .world change => (P.world s.shared change).map fun shared => { s with shared := shared }

def system (P : Program σ π ε ω) : System (State σ π) (Event ε ω) where
  initial := ⟨P.shared, fun _ => P.phase⟩
  step := P.advance

variable {P : Program σ π ε ω} {s v : State σ π}

theorem task_step {t : ℕ} {action : ε} (h : P.system.step s (.task t action) = some v) :
    ∃ next, P.step t s.shared (s.phase t) action = some next ∧ v = s.move t next := by
  obtain ⟨next, taken, rfl⟩ := Option.map_eq_some_iff.1 h
  exact ⟨next, taken, rfl⟩

theorem world_step {change : ω} (h : P.system.step s (.world change) = some v) :
    ∃ shared, P.world s.shared change = some shared ∧ v = { s with shared := shared } := by
  obtain ⟨shared, taken, rfl⟩ := Option.map_eq_some_iff.1 h
  exact ⟨shared, taken, rfl⟩

theorem execFrom_task {t : ℕ} {action : ε} {next : σ × π}
    (h : P.step t s.shared (s.phase t) action = some next) (es : List (Event ε ω)) :
    execFrom P.system s (.task t action :: es) = execFrom P.system (s.move t next) es := by
  refine execFrom_step ?_ es
  change (P.step t s.shared (s.phase t) action).map (s.move t) = some (s.move t next)
  rw [h, Option.map_some]

/-- A task that goes on at once. -/
theorem execFrom_next {t : ℕ} {action : ε} {next last : σ × π}
    (h : P.step t next.1 next.2 action = some last) (es : List (Event ε ω)) :
    execFrom P.system (s.move t next) (.task t action :: es) =
      execFrom P.system (s.move t last) es := by
  have taken : P.step t (s.move t next).shared ((s.move t next).phase t) action = some last := by
    rw [State.move_phase]
    exact h
  rw [execFrom_task taken, State.move_move]

theorem execFrom_world {change : ω} {shared : σ} (h : P.world s.shared change = some shared)
    (es : List (Event ε ω)) : execFrom P.system s (.world change :: es) =
      execFrom P.system { s with shared := shared } es := by
  refine execFrom_step ?_ es
  change (P.world s.shared change).map _ = _
  rw [h, Option.map_some]

end Program

structure Invariant (J : σ → Prop) (K : ℕ → σ → π → Prop) (s : State σ π) : Prop where
  shared : J s.shared
  task : ∀ t, K t s.shared (s.phase t)

variable {J : σ → Prop} {K : ℕ → σ → π → Prop} {s : State σ π}

theorem Invariant.move {t : ℕ} {next : σ × π} (inv : Invariant J K s) (shared : J next.1)
    (own : K t next.1 next.2)
    (others : ∀ u p, u ≠ t → K u s.shared p → K u next.1 p) : Invariant J K (s.move t next) where
  shared := shared
  task u := by
    by_cases same : u = t
    · subst same
      rw [State.move_phase]
      exact own
    · rw [State.move_phase_of_ne s same]
      exact others u _ same (inv.task u)

/-- A step that leaves the shared state alone matters to its own task only. -/
theorem Invariant.stay {t : ℕ} {p : π} (inv : Invariant J K s) (own : K t s.shared p) :
    Invariant J K (s.move t (s.shared, p)) :=
  inv.move inv.shared own fun _ _ _ h => h

theorem Invariant.world {shared : σ} (inv : Invariant J K s) (kept : J shared)
    (others : ∀ u p, K u s.shared p → K u shared p) :
    Invariant J K { s with shared := shared } where
  shared := kept
  task u := others u _ (inv.task u)

end Ombrac.SharedTasks
