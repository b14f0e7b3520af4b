import Mathlib.Data.List.Infix

set_option autoImplicit false

/-!
# Labelled systems and their runs

A label fixes every choice of a step, so a step is a partial function and a run is determined by
its labels. Five rules are used by name: an inductive invariant holds wherever a run stops, a
safety property that each step breaks exactly when a guard fails holds along a run exactly when
the run takes guarded steps only, a relation that some steps of another system restore after
each step of this one ties the runs of the two, a measure that helpful steps lower leads to a
goal, and one that all allowed steps lower makes the goal inevitable.
-/
namespace Ombrac.LabelledSystem

/-- `step s e = none` is a disabled step. -/
structure System (σ ε : Type*) where
  initial : σ
  step : σ → ε → Option σ

variable {σ ε : Type*} (M : System σ ε)

inductive Runs : List ε → σ → Prop where
  | initial : Runs [] M.initial
  | next {es : List ε} {e : ε} {u v : σ} (run : Runs es u) (h : M.step u e = some v) :
      Runs (es ++ [e]) v

def Visits (es : List ε) (u : σ) : Prop := ∃ before, before <+: es ∧ Runs M before u

def Takes (es : List ε) (u : σ) (e : ε) (v : σ) : Prop :=
  ∃ before, before ++ [e] <+: es ∧ Runs M before u ∧ M.step u e = some v

def execFrom (s : σ) : List ε → Option σ
  | [] => some s
  | e :: es => (M.step s e).bind fun u => execFrom u es

def exec (es : List ε) : Option σ := execFrom M M.initial es

variable {M}

theorem execFrom_step {s u : σ} {e : ε} (h : M.step s e = some u) (es : List ε) :
    execFrom M s (e :: es) = execFrom M u es := by
  simp [execFrom, h]

theorem Runs.exec_from {before after : List ε} {u v : σ} (run : Runs M before u)
    (h : execFrom M u after = some v) : Runs M (before ++ after) v := by
  induction after generalizing before u with
  | nil =>
    obtain rfl : u = v := by simpa [execFrom] using h
    simpa using run
  | cons e after ih =>
    obtain ⟨w, hw, hv⟩ := Option.bind_eq_some_iff.1 h
    simpa using ih (.next run hw) hv

theorem runs_of_exec {es : List ε} {s : σ} (h : exec M es = some s) : Runs M es s := by
  simpa using Runs.exec_from .initial h

theorem execFrom_append (s : σ) (before after : List ε) :
    execFrom M s (before ++ after) = (execFrom M s before).bind fun u => execFrom M u after := by
  induction before generalizing s with
  | nil => rfl
  | cons e before ih =>
    simp only [List.cons_append, execFrom, Option.bind_assoc]
    exact congrArg _ (funext fun u => ih u)

theorem Runs.exec_eq {es : List ε} {s : σ} (run : Runs M es s) : exec M es = some s := by
  induction run with
  | initial => rfl
  | next _ h ih =>
    rw [exec] at ih
    rw [exec, execFrom_append, ih]
    simp [execFrom, h]

/-- The states on the way along `es` are those after its first `n` steps. -/
theorem Visits.exec_take {es : List ε} {u : σ} (visit : Visits M es u) :
    ∃ n, n ≤ es.length ∧ exec M (es.take n) = some u := by
  obtain ⟨before, pre, run⟩ := visit
  refine ⟨before.length, pre.length_le, ?_⟩
  rw [← List.prefix_iff_eq_take.1 pre]
  exact run.exec_eq

theorem Takes.exec_take {es : List ε} {u v : σ} {e : ε} (take : Takes M es u e v) :
    ∃ n, es[n]? = some e ∧ exec M (es.take n) = some u := by
  obtain ⟨before, ⟨after, whole⟩, run, _⟩ := take
  subst whole
  refine ⟨before.length, ?_, ?_⟩
  · simp
  · rw [List.append_assoc, List.take_left]
    exact run.exec_eq

theorem Runs.visits {es : List ε} {s : σ} (run : Runs M es s) : Visits M es s :=
  ⟨es, List.prefix_refl _, run⟩

theorem Runs.invariant {I : σ → Prop} {es : List ε} {s : σ} (run : Runs M es s)
    (start : I M.initial) (keep : ∀ u e v, I u → M.step u e = some v → I v) : I s := by
  induction run with
  | initial => exact start
  | next _ h ih => exact keep _ _ _ ih h

theorem Runs.takes {es : List ε} {e : ε} {u v : σ} (run : Runs M es u)
    (h : M.step u e = some v) : Takes M (es ++ [e]) u e v :=
  ⟨es, List.prefix_refl _, run, h⟩

theorem Visits.mono {es fs : List ε} {u : σ} (h : es <+: fs) (visit : Visits M es u) :
    Visits M fs u := by
  obtain ⟨before, pre, run⟩ := visit
  exact ⟨before, pre.trans h, run⟩

theorem Takes.mono {es fs : List ε} {u v : σ} {e : ε} (h : es <+: fs) (take : Takes M es u e v) :
    Takes M fs u e v := by
  obtain ⟨before, pre, run⟩ := take
  exact ⟨before, pre.trans h, run⟩

theorem Takes.visits_source {es : List ε} {u v : σ} {e : ε} (take : Takes M es u e v) :
    Visits M es u := by
  obtain ⟨before, pre, run, _⟩ := take
  exact ⟨before, (List.prefix_append before [e]).trans pre, run⟩

theorem Takes.visits_target {es : List ε} {u v : σ} {e : ε} (take : Takes M es u e v) :
    Visits M es v := by
  obtain ⟨before, pre, run, h⟩ := take
  exact ⟨before ++ [e], pre, run.next h⟩

/-- An invariant that guarded steps preserve holds along every run of guarded steps. -/
theorem guarded_invariant {I : σ → Prop} {C : σ → ε → Prop} {es : List ε}
    (start : I M.initial) (keep : ∀ u e v, I u → C u e → M.step u e = some v → I v)
    (guarded : ∀ u e v, Takes M es u e v → C u e) {s : σ} (visit : Visits M es s) : I s := by
  obtain ⟨before, pre, run⟩ := visit
  induction run with
  | initial => exact start
  | next run h ih =>
    have take : Takes M es _ _ _ := (run.takes h).mono pre
    exact keep _ _ _ (ih ((List.prefix_append _ _).trans pre)) (guarded _ _ _ take) h

/-- What the allowed steps keep is kept by them from any state on. -/
theorem execFrom_invariant_of {I : σ → Prop} {allowed : ε → Prop}
    (keep : ∀ u e v, I u → allowed e → M.step u e = some v → I v) {s u : σ} {es : List ε}
    (start : I s) (all : ∀ e ∈ es, allowed e) (h : execFrom M s es = some u) : I u := by
  induction es generalizing s with
  | nil =>
    obtain rfl := Option.some.inj h
    exact start
  | cons e es ih =>
    obtain ⟨now, later⟩ := List.forall_mem_cons.1 all
    obtain ⟨w, step, rest⟩ := Option.bind_eq_some_iff.1 h
    exact ih (keep s e w start now step) later rest

/-- What is kept by every step is kept from any state on. -/
theorem execFrom_invariant {I : σ → Prop} (keep : ∀ u e v, I u → M.step u e = some v → I v)
    {s u : σ} {es : List ε} (start : I s) (h : execFrom M s es = some u) : I u :=
  execFrom_invariant_of (fun u e v inv (_ : True) step => keep u e v inv step) start
    (fun _ _ => trivial) h

/-- The run goes on from the target of a step that it takes. -/
theorem Takes.rest {es : List ε} {e : ε} {u v s : σ} (take : Takes M es u e v)
    (run : Runs M es s) : ∃ after, execFrom M v after = some s := by
  obtain ⟨before, ⟨after, rfl⟩, past, h⟩ := take
  have whole := run.exec_eq
  rw [exec, execFrom_append, ← exec, (past.next h).exec_eq, Option.bind_some] at whole
  exact ⟨after, whole⟩

/-- Where every state short of the goal has a helpful step that keeps the invariant and lowers a
measure, helpful steps alone lead to the goal. -/
theorem exists_execFrom_of_measure {I Goal : σ → Prop} {helpful : ε → Prop} (measure : σ → ℕ)
    (progress : ∀ s, I s → ¬ Goal s →
      ∃ e u, helpful e ∧ M.step s e = some u ∧ I u ∧ measure u < measure s)
    (s : σ) (start : I s) :
    ∃ es u, (∀ e ∈ es, helpful e) ∧ execFrom M s es = some u ∧ I u ∧ Goal u := by
  induction bound : measure s using Nat.strong_induction_on generalizing s with
  | _ n ih =>
    by_cases reached : Goal s
    · exact ⟨[], s, by simp, rfl, start, reached⟩
    · obtain ⟨e, u, helps, step, kept, less⟩ := progress s start reached
      obtain ⟨es, v, all, rest, last⟩ := ih (measure u) (bound ▸ less) u kept rfl
      refine ⟨e :: es, v, ?_, (execFrom_step step es).trans rest, last⟩
      rw [List.forall_mem_cons]
      exact ⟨helps, all⟩

/-- Where one more can be had as long as there are less than `bound`, there are runs to each number
within it. -/
theorem exists_runs_count (Ready : σ → Prop) (count : σ → ℕ) {bound : ℕ}
    (ready : Ready M.initial) (none_yet : count M.initial = 0)
    (one_more : ∀ es s, Runs M es s → Ready s → count s < bound →
      ∃ fs u, Runs M fs u ∧ Ready u ∧ count u = count s + 1) {n : ℕ} (within : n ≤ bound) :
    ∃ es s, Runs M es s ∧ Ready s ∧ count s = n := by
  induction n with
  | zero => exact ⟨[], _, .initial, ready, none_yet⟩
  | succ n ih =>
    obtain ⟨es, s, run, ready, rfl⟩ := ih (Nat.le_of_succ_le within)
    exact one_more es s run ready within

/-- The goal is reached whatever allowed steps change the state, provided that no owed step stays
possible for ever without any step being taken. -/
inductive Inevitable (M : System σ ε) (allowed owed : ε → Prop) (Goal : σ → Prop) : σ → Prop where
  | reached {s : σ} (goal : Goal s) : Inevitable M allowed owed Goal s
  | later {s : σ} (goes_on : ∃ e u, owed e ∧ M.step s e = some u ∧ u ≠ s)
      (after : ∀ e u, allowed e → M.step s e = some u → u ≠ s → Inevitable M allowed owed Goal u) :
      Inevitable M allowed owed Goal s

/-- What every allowed step keeps while it lowers a measure or changes nothing. -/
theorem inevitable_of_measure {I Goal : σ → Prop} {allowed owed : ε → Prop} (measure : σ → ℕ)
    (keep : ∀ s e u, I s → allowed e → M.step s e = some u → I u)
    (lower : ∀ s e u, I s → allowed e → M.step s e = some u → u ≠ s → measure u < measure s)
    (progress : ∀ s, I s → ¬ Goal s → ∃ e u, owed e ∧ M.step s e = some u ∧ u ≠ s)
    (s : σ) (start : I s) : Inevitable M allowed owed Goal s := by
  induction bound : measure s using Nat.strong_induction_on generalizing s with
  | _ n ih =>
    by_cases goal : Goal s
    · exact .reached goal
    · refine .later (progress s start goal) fun e u permitted step moved => ?_
      have less := lower s e u start permitted step moved
      exact ih (measure u) (bound ▸ less) u (keep s e u start permitted step) rfl

/-- What no goal satisfies and every owed step keeps is not bound to reach the goal. -/
theorem Inevitable.not_of_kept {I Goal : σ → Prop} {allowed owed : ε → Prop}
    (permitted : ∀ e, owed e → allowed e) (short : ∀ s, I s → ¬ Goal s)
    (keep : ∀ s e u, I s → owed e → M.step s e = some u → I u) {s : σ}
    (bound : Inevitable M allowed owed Goal s) : ¬ I s := by
  induction bound with
  | reached goal => exact fun here => short _ here goal
  | later goes_on _ ih =>
    intro here
    obtain ⟨e, u, due, step, moved⟩ := goes_on
    exact ih e u (permitted e due) step moved (keep _ e u here due step)

/-- What is bound to come can come by owed steps alone. -/
theorem Inevitable.exists_execFrom {Goal : σ → Prop} {allowed owed : ε → Prop}
    (permitted : ∀ e, owed e → allowed e) {s : σ} (bound : Inevitable M allowed owed Goal s) :
    ∃ es u, (∀ e ∈ es, owed e) ∧ execFrom M s es = some u ∧ Goal u := by
  induction bound with
  | reached goal => exact ⟨[], _, by simp, rfl, goal⟩
  | later goes_on _ ih =>
    obtain ⟨e, u, due, step, moved⟩ := goes_on
    obtain ⟨es, v, all, rest, goal⟩ := ih e u (permitted e due) step moved
    refine ⟨e :: es, v, ?_, (execFrom_step step es).trans rest, goal⟩
    rw [List.forall_mem_cons]
    exact ⟨due, all⟩

/-- A step is matched by any number of steps of the other system. -/
theorem Runs.simulated {τ δ : Type*} {N : System τ δ} {R : σ → τ → Prop}
    (start : R M.initial N.initial)
    (keep : ∀ {fs : List δ} {u : σ} {e : ε} {v : σ} {t : τ}, Runs N fs t → R u t →
      M.step u e = some v → ∃ more t', execFrom N t more = some t' ∧ R v t')
    {es : List ε} {s : σ} (run : Runs M es s) : ∃ fs t, Runs N fs t ∧ R s t := by
  induction run with
  | initial => exact ⟨[], _, .initial, start⟩
  | next _ h ih =>
    obtain ⟨fs, t, matched, related⟩ := ih
    obtain ⟨more, t', after, related'⟩ := keep matched related h
    exact ⟨fs ++ more, t', matched.exec_from after, related'⟩

section Guard
variable {I G : σ → Prop} {C : σ → ε → Prop} {es : List ε}

/-- The exact guard of a safety property: if a step out of a good state ends well exactly when
its guard holds, a run stays good exactly when all its steps are guarded. -/
theorem safe_iff_guarded (start : I M.initial) (good : G M.initial)
    (keep : ∀ u e v, I u → C u e → M.step u e = some v → I v)
    (exact_guard : ∀ u e v, I u → G u → M.step u e = some v → (G v ↔ C u e)) :
    (∀ u, Visits M es u → G u) ↔ ∀ u e v, Takes M es u e v → C u e := by
  constructor
  · intro safe
    have inv : ∀ u, Visits M es u → I u := by
      rintro u ⟨before, pre, run⟩
      induction run with
      | initial => exact start
      | next run h ih =>
        have before_pre := (List.prefix_append _ _).trans pre
        have source := ih before_pre
        have guard := (exact_guard _ _ _ source (safe _ ⟨_, before_pre, run⟩) h).1
          (safe _ ⟨_, pre, run.next h⟩)
        exact keep _ _ _ source guard h
    intro u e v take
    have source := take.visits_source
    have target := safe v take.visits_target
    obtain ⟨_, _, _, h⟩ := take
    exact (exact_guard u e v (inv u source) (safe u source) h).1 target
  · intro guarded u visit
    have both : I u ∧ G u := by
      refine guarded_invariant (I := fun s => I s ∧ G s) ⟨start, good⟩ ?_ guarded visit
      rintro s e v ⟨inv, ok⟩ guard h
      exact ⟨keep s e v inv guard h, (exact_guard s e v inv ok h).2 guard⟩
    exact both.2

end Guard

/-! ## Reasons to stop -/

def StopsFor {τ ω : Type*} (task : σ → τ) (stopped : ω → τ) (allowed : σ → ω → Prop) (s : σ) :
    Prop := ∀ why, task s = stopped why → allowed s why

section Stops
variable {τ ω : Type*} {task : σ → τ} {stopped : ω → τ} {allowed : σ → ω → Prop} {s u : σ}

theorem StopsFor.of_running (running : ∀ why, task s ≠ stopped why) :
    StopsFor task stopped allowed s := by
  intro why ended
  exact absurd ended (running why)

theorem StopsFor.of_same (good : StopsFor task stopped allowed s) (same : task u = task s)
    (keep : ∀ why, allowed s why → allowed u why) : StopsFor task stopped allowed u := by
  intro why ended
  exact keep why (good why (same ▸ ended))

end Stops
end Ombrac.LabelledSystem
