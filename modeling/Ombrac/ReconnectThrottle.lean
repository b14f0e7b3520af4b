import Mathlib.Tactic.Linarith
import Mathlib.Tactic.NormNum
import Ombrac.ClientReconnect

set_option autoImplicit false

/-!
# How often the client reconnects

The jitter of a failed attempt is any factor of the band that `backoff_jitter` keeps to; the
clock's is one of them. Each call of `reconnect` is a task, the lock orders their attempts, and
what the lock protects, the last attempt and the backoff, keeps them apart.
-/
namespace Ombrac.ReconnectThrottle
open LabelledSystem SharedTasks ProtocolPacket ClientReconnect

structure Jitter where
  factor : ℚ
  low : 4 / 5 ≤ factor
  high : factor < 6 / 5

def Jitter.ofNanos (nanos : Fin 1000000000) : Jitter where
  factor := backoffJitter nanos
  low := by
    have : (0 : ℚ) ≤ nanos.val := Nat.cast_nonneg _
    unfold backoffJitter
    linarith
  high := by
    have : (nanos.val : ℚ) < 1000000000 := by exact_mod_cast nanos.isLt
    unfold backoffJitter
    linarith

def nextBackoffBy (current : ℚ) (jitter : Jitter) : ℚ :=
  let doubled := min (current * 2) maxReconnectBackoff
  let jittered := doubled * jitter.factor
  min jittered maxReconnectBackoff

def Bounded (backoff : ℚ) : Prop :=
  initialReconnectBackoff ≤ backoff ∧ backoff ≤ maxReconnectBackoff

theorem Bounded.next {current : ℚ} (h : Bounded current) (jitter : Jitter) :
    Bounded (nextBackoffBy current jitter) := by
  obtain ⟨low, _⟩ := h
  have doubled : 2 ≤ min (current * 2) maxReconnectBackoff := by
    unfold initialReconnectBackoff at low
    refine le_min ?_ (by norm_num [maxReconnectBackoff])
    linarith
  have jittered : 1 ≤ min (current * 2) maxReconnectBackoff * jitter.factor := by
    have := jitter.low
    nlinarith
  exact ⟨le_min jittered (by norm_num [initialReconnectBackoff, maxReconnectBackoff]),
    min_le_right _ _⟩

variable {α : Type}

def backOffBy (s : ClientConnection) (jitter : Jitter) : ClientConnection :=
  { s with backoff := nextBackoffBy s.backoff jitter }

/-- A step of `with_retry` and `reconnect`, with the jitter of an attempt that fails. -/
def jitteredStep (mayFail : ℕ → Bool) (t : ℕ) (s : ClientConnection) (p : Phase α)
    (a : Action α × Jitter) : Option (ClientConnection × Phase α) :=
  match p, a.1 with
  | .rebinding _, .rebind (.error e) _ => some ((backOffBy s a.2).unlock, .returned true (.error e))
  | .authenticating _, .authenticate (.error e) _ =>
    some ((backOffBy s a.2).unlock, .returned true (.error e))
  | p, action => taskStep mayFail t s p action

def jittered (α : Type) (mayFail : ℕ → Bool) :
    Program ClientConnection (Phase α) (Action α × Jitter) ℚ where
  shared := .new
  phase := .idle
  step := jitteredStep mayFail
  world := elapse

def clockJitter : Action α → Jitter
  | .rebind _ nanos | .authenticate _ nanos => .ofNanos nanos
  | _ => .ofNanos ⟨0, by decide⟩

theorem jitteredStep_clock (mayFail : ℕ → Bool) (t : ℕ) (s : ClientConnection) (p : Phase α)
    (action : Action α) :
    jitteredStep mayFail t s p (action, clockJitter action) = taskStep mayFail t s p action := by
  unfold jitteredStep
  split
  · rename_i call e nanos same
    obtain rfl : action = .rebind (.error e) nanos := same
    rfl
  · rename_i call e nanos same
    obtain rfl : action = .authenticate (.error e) nanos := same
    rfl
  · rfl

def clocked : Event (Action α) ℚ → Event (Action α × Jitter) ℚ
  | .task t action => .task t (action, clockJitter action)
  | .world duration => .world duration

/-- The client with its clock's jitter is a case of the client with any jitter. -/
theorem runs_clocked {mayFail : ℕ → Bool} {es : List (Event (Action α) ℚ)}
    {s : State ClientConnection (Phase α)} (run : Runs (client α mayFail).system es s) :
    Runs (jittered α mayFail).system (es.map clocked) s := by
  induction run with
  | initial => exact .initial
  | next _ h ih =>
    rename_i es e u v run
    rw [List.map_append]
    refine ih.next ?_
    cases e with
    | task t action =>
      change (jitteredStep mayFail t u.shared (u.phase t) (action, clockJitter action)).map _ = _
      rw [jitteredStep_clock]
      exact h
    | world duration => exact h

/-! ## What a step does to the lock, the last attempt and the backoff -/

def Phase.holds : Phase α → Bool
  | .checking _ | .throttling _ | .attempting _ | .rebinding _ | .authenticating _ | .storing _
  | .incrementing => true
  | _ => false

/-- The attempt has started: `last_attempt` is its time until it has failed or succeeded. -/
def Phase.started : Phase α → Bool
  | .rebinding _ | .authenticating _ => true
  | _ => false

/-- From the decision to attempt until the lock is given back. -/
def Phase.inAttempt : Phase α → Bool
  | .attempting _ | .rebinding _ | .authenticating _ | .storing _ | .incrementing => true
  | _ => false

theorem holds_of_inAttempt {p : Phase α} (h : Phase.inAttempt p = true) : Phase.holds p = true := by
  cases p <;> first | rfl | cases h

theorem holds_of_started {p : Phase α} (h : Phase.started p = true) : Phase.holds p = true := by
  cases p <;> first | rfl | cases h

def fails : Action α → Bool
  | .rebind (.error _) _ | .authenticate (.error _) _ => true
  | _ => false

def succeeds : Action α → Bool
  | .authenticate (.ok _) _ => true
  | _ => false

def starts : Action α → Bool
  | .attempt => true
  | _ => false

def Due (s : ClientConnection) : Prop := ∀ last, s.lastAttempt = some last → last + s.backoff ≤ s.now

structure SameGate (s s' : ClientConnection) : Prop where
  lastAttempt : s'.lastAttempt = s.lastAttempt
  backoff : s'.backoff = s.backoff
  now : s'.now = s.now

theorem SameGate.rfl {s : ClientConnection} : SameGate s s := ⟨Eq.refl _, Eq.refl _, Eq.refl _⟩

inductive Moves (t : ℕ) (s : ClientConnection) (p : Phase α) (a : Action α × Jitter) :
    ClientConnection × Phase α → Prop where
  | outside {p'} (out : Phase.holds p = false) (out' : Phase.holds p' = false) : Moves t s p a (s, p')
  | acquire {call} (out : Phase.holds p = false) (free : s.reconnectLock = none) :
      Moves t s p a ({ s with reconnectLock := some t }, .checking call)
  | inside {s' p'} (held : Phase.holds p = true) (held' : Phase.holds p' = true)
      (gate : SameGate s s') (lock : s'.reconnectLock = s.reconnectLock)
      (going : Phase.started p' = true → Phase.started p = true)
      (due : ∀ call, p' = .attempting call → Due s) : Moves t s p a (s', p')
  | release {s' p'} (held : Phase.holds p = true) (out : Phase.holds p' = false)
      (gate : SameGate s s') (free : s'.reconnectLock = none) : Moves t s p a (s', p')
  | start {call} (here : p = .attempting call) (action : a.1 = .attempt) :
      Moves t s p a (attempt s, .rebinding call)
  | fail {p'} (started : Phase.started p = true) (failed : fails a.1 = true)
      (out : Phase.holds p' = false) : Moves t s p a ((backOffBy s a.2).unlock, p')
  | succeed {call value nanos connection} (here : p = .authenticating call)
      (action : a.1 = .authenticate (.ok value) nanos) :
      Moves t s p a ({ s with
        backoff := initialReconnectBackoff, lastAttempt := none, established := s.established + 1 },
        .storing connection)

section Inversion
variable {mayFail : ℕ → Bool} {t : ℕ} {s : ClientConnection} {p : Phase α}
variable {a : Action α × Jitter} {next : ClientConnection × Phase α}

theorem check_moves (call : Call) : Moves t s (.checking call) a (check s call) := by
  unfold check
  split_ifs
  · exact .release rfl rfl ⟨rfl, rfl, rfl⟩ rfl
  · exact .inside rfl rfl .rfl rfl (fun h => by cases h) fun _ h => by cases h

theorem throttle_moves (call : Call) : Moves t s (.throttling call) a (throttle s call) := by
  unfold throttle
  split
  · rename_i last some_last
    dsimp only
    split_ifs with early
    · exact .release rfl rfl ⟨rfl, rfl, rfl⟩ rfl
    · refine .inside rfl rfl .rfl rfl (fun h => by cases h) fun _ _ other same => ?_
      obtain rfl : last = other := Option.some.inj (some_last.symm.trans same)
      linarith
  · rename_i none_last
    refine .inside rfl rfl .rfl rfl (fun h => by cases h) fun _ _ other same => ?_
    rw [none_last] at same
    cases same

theorem afterOperation_out (call : Call) (result : Except IoError α) :
    Phase.holds (afterOperation call result) = false := by
  unfold afterOperation
  split
  · rfl
  · split_ifs <;> rfl

theorem cancel_moves (h : cancel s p = some next) : Moves t s p a next := by
  unfold cancel at h
  split at h
  · cases h
    exact .outside rfl rfl
  · cases h
    exact .outside rfl rfl
  · cases h
    exact .outside rfl rfl
  · cases h
    exact .outside rfl rfl
  · cases h
    exact .release rfl rfl ⟨rfl, rfl, rfl⟩ rfl
  · cases h
    exact .release rfl rfl ⟨rfl, rfl, rfl⟩ rfl
  · cases h

/-- A step that is not a failed attempt. -/
theorem taskStep_moves {action : Action α} {jitter : Jitter}
    (bound : ∀ call e nanos, p = .rebinding call → action = .rebind (.error e) nanos → False)
    (authenticated : ∀ call e nanos, p = .authenticating call →
      action = .authenticate (.error e) nanos → False)
    (h : taskStep mayFail t s p action = some next) : Moves t s p (action, jitter) next := by
  unfold taskStep at h
  split at h
  · obtain rfl := Option.some.inj h
    exact .outside rfl rfl
  · obtain rfl := Option.some.inj h
    exact .outside rfl rfl
  · obtain rfl := Option.some.inj h
    exact .outside rfl rfl
  · split_ifs at h
    obtain rfl := Option.some.inj h
    exact .outside rfl (afterOperation_out _ _)
  · split_ifs at h with free
    obtain rfl := Option.some.inj h
    exact .acquire rfl free
  · obtain rfl := Option.some.inj h
    exact check_moves _
  · obtain rfl := Option.some.inj h
    exact throttle_moves _
  · split_ifs at h
    obtain rfl := Option.some.inj h
    exact .outside rfl rfl
  · obtain rfl := Option.some.inj h
    exact .start rfl rfl
  · rename_i call result nanos
    obtain rfl := Option.some.inj h
    cases result with
    | ok value => exact .inside rfl rfl .rfl rfl (fun _ => rfl) fun _ h => by cases h
    | error e => exact (bound call e nanos rfl rfl).elim
  · rename_i call result nanos
    obtain rfl := Option.some.inj h
    cases result with
    | ok value => exact .succeed rfl rfl
    | error e => exact (authenticated call e nanos rfl rfl).elim
  · obtain rfl := Option.some.inj h
    exact .inside rfl rfl ⟨rfl, rfl, rfl⟩ rfl (fun h => by cases h) fun _ h => by cases h
  · obtain rfl := Option.some.inj h
    exact .release rfl rfl ⟨rfl, rfl, rfl⟩ rfl
  · obtain rfl := Option.some.inj h
    exact .outside rfl rfl
  · split_ifs at h
    obtain rfl := Option.some.inj h
    exact .outside rfl rfl
  · exact cancel_moves h
  · cases h

theorem jitteredStep_moves (h : jitteredStep mayFail t s p a = some next) : Moves t s p a next := by
  unfold jitteredStep at h
  split at h
  · rename_i failed
    obtain rfl := Option.some.inj h
    exact .fail rfl (by rw [failed]; rfl) rfl
  · rename_i failed
    obtain rfl := Option.some.inj h
    exact .fail rfl (by rw [failed]; rfl) rfl
  · rename_i bound authenticated
    exact taskStep_moves bound authenticated h

end Inversion

/-! ## The lock and the bounds -/

structure Gate (s : ClientConnection) : Prop where
  bounded : Bounded s.backoff
  past : ∀ last, s.lastAttempt = some last → last ≤ s.now

structure Holds (t : ℕ) (s : ClientConnection) (p : Phase α) : Prop where
  lock : Phase.holds p = true → s.reconnectLock = some t
  due : ∀ call, p = .attempting call → Due s

abbrev Throttled : State ClientConnection (Phase α) → Prop := Invariant Gate Holds

theorem Holds.out {t : ℕ} {s : ClientConnection} {p : Phase α} (out : Phase.holds p = false) :
    Holds t s p where
  lock held := by
    rw [out] at held
    cases held
  due call same := by
    rw [same] at out
    cases out

/-- A task that does not hold the lock knows nothing. -/
theorem Holds.of_other {t u : ℕ} {s s' : ClientConnection} {p : Phase α} (other : u ≠ t)
    (lock : s.reconnectLock = none ∨ s.reconnectLock = some t) (held : Holds u s p) :
    Holds u s' p := by
  refine .out (Bool.eq_false_iff.2 fun holds => ?_)
  have own := held.lock holds
  rcases lock with free | taken
  · cases own.symm.trans free
  · exact other (Option.some.inj (own.symm.trans taken))

theorem Gate.same {s s' : ClientConnection} (gate : Gate s) (same : SameGate s s') : Gate s' where
  bounded := by
    rw [same.backoff]
    exact gate.bounded
  past last := by
    rw [same.lastAttempt, same.now]
    exact gate.past last

section Keep
variable {s v : State ClientConnection (Phase α)} {t : ℕ} {a : Action α × Jitter}
variable {next : ClientConnection × Phase α}

theorem Throttled.moves (inv : Throttled s) (moved : Moves t s.shared (s.phase t) a next) :
    Throttled (s.move t next) := by
  have own := inv.task t
  cases moved with
  | outside _ out' => exact inv.stay (.out out')
  | acquire _ free =>
    refine inv.move ⟨inv.shared.bounded, inv.shared.past⟩ ⟨fun _ => rfl, fun _ h => by cases h⟩ ?_
    exact fun u q other held => held.of_other other (.inl free)
  | inside held _ gate lock _ due =>
    have mine := own.lock held
    refine inv.move (inv.shared.same gate) ⟨fun _ => lock.trans mine, fun call here => ?_⟩ ?_
    · intro last some_last
      rw [gate.backoff, gate.now]
      exact due call here last (gate.lastAttempt ▸ some_last)
    · exact fun u q other held => held.of_other other (.inr mine)
  | release held out gate _ =>
    refine inv.move (inv.shared.same gate) (.out out) ?_
    exact fun u q other known => known.of_other other (.inr (own.lock held))
  | start here _ =>
    have mine := own.lock (by rw [here]; rfl)
    refine inv.move ⟨inv.shared.bounded, ?_⟩ ⟨fun _ => mine, fun _ h => by cases h⟩ ?_
    · intro last same
      obtain rfl := Option.some.inj same
      exact le_refl _
    · exact fun u q other known => known.of_other other (.inr mine)
  | fail started _ out =>
    have mine := own.lock (holds_of_started started)
    refine inv.move ⟨inv.shared.bounded.next a.2, inv.shared.past⟩ (.out out) ?_
    exact fun u q other known => known.of_other other (.inr mine)
  | succeed here _ =>
    have mine := own.lock (by rw [here]; rfl)
    refine inv.move ⟨?_, fun _ h => by cases h⟩ ⟨fun _ => mine, fun _ h => by cases h⟩ ?_
    · exact ⟨le_refl _, by norm_num [initialReconnectBackoff, maxReconnectBackoff]⟩
    · exact fun u q other known => known.of_other other (.inr mine)

variable {mayFail : ℕ → Bool} {e : Event (Action α × Jitter) ℚ}

theorem task_moves (h : (jittered α mayFail).system.step s (.task t a) = some v) :
    ∃ next, Moves t s.shared (s.phase t) a next ∧ v = s.move t next := by
  obtain ⟨next, taken, rfl⟩ := Program.task_step h
  exact ⟨next, jitteredStep_moves taken, rfl⟩

theorem world_elapses {duration : ℚ}
    (h : (jittered α mayFail).system.step s (.world duration) = some v) :
    0 ≤ duration ∧ v = { s with shared := { s.shared with now := s.shared.now + duration } } := by
  obtain ⟨shared, taken, rfl⟩ := Program.world_step h
  change elapse s.shared duration = some shared at taken
  unfold elapse at taken
  split_ifs at taken with forward
  obtain rfl := Option.some.inj taken
  exact ⟨forward, rfl⟩

theorem Throttled.step (inv : Throttled s)
    (h : (jittered α mayFail).system.step s e = some v) : Throttled v := by
  cases e with
  | task t a =>
    obtain ⟨next, moved, rfl⟩ := task_moves h
    exact inv.moves moved
  | world duration =>
    obtain ⟨forward, rfl⟩ := world_elapses h
    refine inv.world ⟨inv.shared.bounded, fun last same => ?_⟩ fun u q held => ⟨held.lock, ?_⟩
    · have := inv.shared.past last same
      change last ≤ s.shared.now + duration
      linarith
    · intro call here last same
      have := held.due call here last same
      change last + s.shared.backoff ≤ s.shared.now + duration
      linarith

theorem Throttled.initial : Throttled (jittered α mayFail).system.initial where
  shared := ⟨⟨le_refl _, by norm_num [jittered, Program.system, ClientConnection.new,
    initialReconnectBackoff, maxReconnectBackoff]⟩, fun _ h => by cases h⟩
  task _ := .out rfl

theorem throttled_runs {es : List (Event (Action α × Jitter) ℚ)}
    (run : Runs (jittered α mayFail).system es s) : Throttled s :=
  run.invariant .initial fun _ _ _ inv h => inv.step h

theorem Throttled.exclusive (inv : Throttled s) {t u : ℕ} (ht : Phase.holds (s.phase t) = true)
    (hu : Phase.holds (s.phase u) = true) : t = u :=
  Option.some.inj (((inv.task t).lock ht).symm.trans ((inv.task u).lock hu))

/-! ## From a failed attempt to the next one -/

/-- While the attempt of `t` goes on, its start stays recorded. -/
theorem recorded_step (inv : Throttled s) (h : (jittered α mayFail).system.step s e = some v)
    (again : ∀ a, e = .task t a → starts a.1 = false) {start : ℚ}
    (recorded : Phase.started (s.phase t) = true → s.shared.lastAttempt = some start) :
    Phase.started (v.phase t) = true → v.shared.lastAttempt = some start := by
  intro started
  cases e with
  | world duration =>
    obtain ⟨_, rfl⟩ := world_elapses h
    exact recorded started
  | task u a =>
    obtain ⟨next, moved, rfl⟩ := task_moves h
    by_cases same : t = u
    · subst same
      rw [State.move_phase] at started
      cases moved with
      | outside _ out' => cases (holds_of_started started).symm.trans out'
      | acquire => cases started
      | inside _ _ gate _ going _ => exact gate.lastAttempt.trans (recorded (going started))
      | release _ out => cases (holds_of_started started).symm.trans out
      | start _ action =>
        have none' := again a rfl
        rw [action] at none'
        cases none'
      | fail _ _ out => cases (holds_of_started started).symm.trans out
      | succeed => cases started
    · rw [State.move_phase_of_ne s same] at started
      have mine := (inv.task t).lock (holds_of_started started)
      have other : Phase.holds (s.phase u) = false := by
        refine Bool.eq_false_iff.2 fun holds => same ?_
        exact inv.exclusive (holds_of_started started) holds
      have before := recorded started
      cases moved with
      | outside => exact before
      | acquire _ free => cases mine.symm.trans free
      | inside held => cases held.symm.trans other
      | release held => cases held.symm.trans other
      | start here => rw [here] at other; cases other
      | fail held => cases (holds_of_started held).symm.trans other
      | succeed here => rw [here] at other; cases other

/-- The next attempt cannot start before `due`: either one has started since, or none is under way
and the backoff is still to be waited for. -/
def Awaits (due : ℚ) (s : State ClientConnection (Phase α)) : Prop :=
  ∃ last, s.shared.lastAttempt = some last ∧
    (due ≤ last ∨ due ≤ last + s.shared.backoff ∧ ∀ u, Phase.started (s.phase u) = false)

theorem started_of_out {p : Phase α} (out : Phase.holds p = false) : Phase.started p = false :=
  Bool.eq_false_iff.2 fun started => by cases (holds_of_started started).symm.trans out

theorem none_started (before : ∀ u, Phase.started (s.phase u) = false)
    (own : Phase.started next.2 = false) (u : ℕ) :
    Phase.started ((s.move t next).phase u) = false := by
  by_cases same : u = t
  · subst same
    rwa [State.move_phase]
  · rw [State.move_phase_of_ne s same]
    exact before u

/-- What `last_attempt` and the backoff were, they still are. -/
theorem Awaits.same {due : ℚ} (awaits : Awaits due s)
    (lastAttempt : next.1.lastAttempt = s.shared.lastAttempt)
    (backoff : next.1.backoff = s.shared.backoff)
    (own : (∀ u, Phase.started (s.phase u) = false) → Phase.started next.2 = false) :
    Awaits due (s.move t next) := by
  obtain ⟨last, some_last, since | ⟨until', idle⟩⟩ := awaits
  · exact ⟨last, lastAttempt.trans some_last, .inl since⟩
  · refine ⟨last, lastAttempt.trans some_last, .inr ⟨?_, none_started idle (own idle)⟩⟩
    rw [State.move_shared, backoff]
    exact until'

theorem Awaits.due {due : ℚ} (awaits : Awaits due s) (inv : Throttled s) {call : Call}
    (here : s.phase t = .attempting call) : due ≤ s.shared.now := by
  obtain ⟨last, some_last, since | ⟨until', _⟩⟩ := awaits
  · exact since.trans (inv.shared.past last some_last)
  · exact until'.trans ((inv.task t).due call here last some_last)

theorem Awaits.step {due : ℚ} (awaits : Awaits due s) (inv : Throttled s)
    (h : (jittered α mayFail).system.step s e = some v)
    (failing : ∀ t a, e = .task t a → succeeds a.1 = false) : Awaits due v := by
  cases e with
  | world duration =>
    obtain ⟨_, rfl⟩ := world_elapses h
    exact awaits
  | task t a =>
    obtain ⟨next, moved, rfl⟩ := task_moves h
    cases moved with
    | outside _ out' => exact awaits.same rfl rfl fun _ => started_of_out out'
    | acquire => exact awaits.same rfl rfl fun _ => rfl
    | inside _ _ gate _ going _ =>
      refine awaits.same gate.lastAttempt gate.backoff fun idle => ?_
      refine Bool.eq_false_iff.2 fun started => ?_
      cases (going started).symm.trans (idle t)
    | release _ out gate _ =>
      exact awaits.same gate.lastAttempt gate.backoff fun _ => started_of_out out
    | start here _ => exact ⟨s.shared.now, rfl, .inl (awaits.due inv here)⟩
    | fail started _ out =>
      obtain ⟨last, some_last, since | ⟨_, idle⟩⟩ := awaits
      · exact ⟨last, some_last, .inl since⟩
      · cases started.symm.trans (idle t)
    | succeed _ action =>
      have none' := failing t a rfl
      rw [action] at none'
      cases none'

def FailedAttempt (mayFail : ℕ → Bool) (t : ℕ) (start failed : State ClientConnection (Phase α)) :
    Prop :=
  ∃ first begun during ended last,
    starts first.1 = true ∧ (jittered α mayFail).system.step start (.task t first) = some begun ∧
    execFrom (jittered α mayFail).system begun during = some ended ∧
    (∀ a, .task t a ∈ during → starts a.1 = false) ∧
    fails last.1 = true ∧ (jittered α mayFail).system.step ended (.task t last) = some failed

theorem starts_step {p : Phase α} {c : ClientConnection} (starting : starts a.1 = true)
    (h : jitteredStep mayFail t c p a = some next) :
    ∃ call, p = .attempting call ∧ next = (attempt c, .rebinding call) := by
  obtain ⟨action, jitter⟩ := a
  cases action <;> try cases starting
  cases p <;> try cases h
  exact ⟨_, rfl, rfl⟩

theorem fails_step {p : Phase α} {c : ClientConnection} (failing : fails a.1 = true)
    (h : jitteredStep mayFail t c p a = some next) :
    Phase.started p = true ∧ ∃ p', Phase.holds p' = false ∧ next = ((backOffBy c a.2).unlock, p') := by
  obtain ⟨action, jitter⟩ := a
  cases action with
  | rebind result nanos | authenticate result nanos =>
    cases result with
    | ok value => cases failing
    | error e =>
      cases p <;> try cases h
      exact ⟨rfl, _, rfl, rfl⟩
  | _ => cases failing

variable {begun ended : State ClientConnection (Phase α)}

theorem recorded_exec {during : List (Event (Action α × Jitter) ℚ)} {start : ℚ} (inv : Throttled s)
    (recorded : Phase.started (s.phase t) = true → s.shared.lastAttempt = some start)
    (once : ∀ a, .task t a ∈ during → starts a.1 = false)
    (h : execFrom (jittered α mayFail).system s during = some ended) :
    Throttled ended ∧
      (Phase.started (ended.phase t) = true → ended.shared.lastAttempt = some start) := by
  induction during generalizing s with
  | nil =>
    obtain rfl := Option.some.inj h
    exact ⟨inv, recorded⟩
  | cons e during ih =>
    obtain ⟨w, first, rest⟩ := Option.bind_eq_some_iff.1 h
    refine ih (inv.step first) (recorded_step inv first ?_ recorded)
      (fun a mem => once a (List.mem_cons_of_mem _ mem)) rest
    rintro a rfl
    exact once a List.mem_cons_self

theorem Awaits.exec {due : ℚ} {after : List (Event (Action α × Jitter) ℚ)} (inv : Throttled s)
    (awaits : Awaits due s) (failing : ∀ t a, .task t a ∈ after → succeeds a.1 = false)
    (h : execFrom (jittered α mayFail).system s after = some ended) :
    Throttled ended ∧ Awaits due ended := by
  induction after generalizing s with
  | nil =>
    obtain rfl := Option.some.inj h
    exact ⟨inv, awaits⟩
  | cons e after ih =>
    obtain ⟨w, first, rest⟩ := Option.bind_eq_some_iff.1 h
    refine ih (inv.step first) (awaits.step inv first ?_)
      (fun t a mem => failing t a (List.mem_cons_of_mem _ mem)) rest
    rintro t a rfl
    exact failing t a List.mem_cons_self

/-- The failed attempt leaves the lock free and its start recorded. -/
theorem FailedAttempt.awaits (inv : Throttled s) (h : FailedAttempt mayFail t s v) :
    Throttled v ∧ Awaits (s.shared.now + v.shared.backoff) v := by
  obtain ⟨first, begun, during, ended, last, starting, begins, lasts, once, failing, ends⟩ := h
  have first_inv := inv.step begins
  obtain ⟨next, taken, rfl⟩ := Program.task_step begins
  obtain ⟨call, _, rfl⟩ := starts_step starting taken
  obtain ⟨ended_inv, recorded⟩ := recorded_exec first_inv (fun _ => rfl) once lasts
  have last_inv := ended_inv.step ends
  obtain ⟨next, taken, rfl⟩ := Program.task_step ends
  obtain ⟨started, p', out, rfl⟩ := fails_step failing taken
  refine ⟨last_inv, s.shared.now, recorded started, .inr ⟨le_refl _, fun u => ?_⟩⟩
  by_cases same : u = t
  · subst same
    rw [State.move_phase]
    exact started_of_out out
  · rw [State.move_phase_of_ne ended same]
    refine Bool.eq_false_iff.2 fun other => same ?_
    exact ended_inv.exclusive (holds_of_started other) (holds_of_started started)

end Keep

/-- One attempt at a time; the backoff keeps its bounds; and after an attempt that failed the next
one starts only when the backoff that it left is over, unless a reconnect succeeded in between. -/
theorem reconnect_throttled {mayFail : ℕ → Bool} {es : List (Event (Action α × Jitter) ℚ)}
    {s : State ClientConnection (Phase α)} (run : Runs (jittered α mayFail).system es s) :
    (∀ t u, Phase.inAttempt (s.phase t) = true → Phase.inAttempt (s.phase u) = true → t = u) ∧
    (initialReconnectBackoff ≤ s.shared.backoff ∧ s.shared.backoff ≤ maxReconnectBackoff) ∧
    ∀ t failed after next u again v, FailedAttempt mayFail t s failed →
      execFrom (jittered α mayFail).system failed after = some next →
      (∀ t a, .task t a ∈ after → succeeds a.1 = false) →
      starts again.1 = true → (jittered α mayFail).system.step next (.task u again) = some v →
      s.shared.now + failed.shared.backoff ≤ next.shared.now := by
  have inv := throttled_runs run
  refine ⟨fun t u ht hu => ?_, inv.shared.bounded, ?_⟩
  · exact inv.exclusive (holds_of_inAttempt ht) (holds_of_inAttempt hu)
  · intro t failed after next u again v attempted waited failing starting begins
    obtain ⟨failed_inv, awaits⟩ := attempted.awaits inv
    obtain ⟨next_inv, awaits⟩ := awaits.exec failed_inv failing waited
    obtain ⟨_, taken, _⟩ := Program.task_step begins
    obtain ⟨call, here, _⟩ := starts_step starting taken
    exact awaits.due next_inv here

def lowest : Jitter := ⟨4 / 5, le_refl _, by norm_num⟩

def toAttempt (t : ℕ) : List (Event (Action Unit × Jitter) ℚ) :=
  [Action.load, .loadId, .operation (.error ⟨.connectionReset, "connection lost"⟩), .lock, .check,
    .throttle].map fun action => .task t (action, lowest)

def unreachable : Action Unit × Jitter :=
  (.rebind (.error ⟨.networkUnreachable, "rebind failed"⟩) ⟨0, by decide⟩, lowest)

/-- The second attempt comes two seconds after the first. -/
theorem reconnect_throttled_two : ∃ s failed next : State ClientConnection (Phase Unit),
    FailedAttempt (fun _ => true) 0 s failed ∧ failed.shared.backoff = 8 / 5 ∧
    execFrom (jittered Unit fun _ => true).system failed (.world 2 :: toAttempt 1) = some next ∧
    s.shared.now + failed.shared.backoff ≤ next.shared.now := by
  obtain ⟨s, begun, failed, reached, begins, ends⟩ :
      ∃ s begun failed : State ClientConnection (Phase Unit),
        exec (jittered Unit fun _ => true).system (toAttempt 0) = some s ∧
        (jittered Unit fun _ => true).system.step s (.task 0 (.attempt, lowest)) = some begun ∧
        (jittered Unit fun _ => true).system.step begun (.task 0 unreachable) = some failed :=
    ⟨_, _, _, rfl, rfl, rfl⟩
  have attempted : FailedAttempt (fun _ => true) 0 s failed :=
    ⟨_, begun, [], begun, unreachable, rfl, begins, rfl, by simp, rfl, ends⟩
  have whole : exec (jittered Unit fun _ => true).system
      (toAttempt 0 ++ [.task 0 (.attempt, lowest), .task 0 unreachable]) = some failed := by
    rw [exec, execFrom_append, ← exec, reached, Option.bind_some, execFrom_step begins,
      execFrom_step ends]
    rfl
  have backoff : failed.shared.backoff = 8 / 5 := by
    have : (exec (jittered Unit fun _ => true).system
        (toAttempt 0 ++ [.task 0 (.attempt, lowest), .task 0 unreachable])).map
          (fun s => s.shared.backoff) = some (8 / 5) := by decide +kernel
    rw [whole] at this
    exact Option.some.inj this
  have twice : ((exec (jittered Unit fun _ => true).system
      (toAttempt 0 ++ [.task 0 (.attempt, lowest), .task 0 unreachable])).bind fun failed =>
        (execFrom (jittered Unit fun _ => true).system failed (.world 2 :: toAttempt 1)).bind
          fun next => (jittered Unit fun _ => true).system.step next
            (.task 1 (.attempt, lowest))).isSome = true := by decide +kernel
  rw [whole, Option.bind_some] at twice
  obtain ⟨v, last⟩ := Option.isSome_iff_exists.1 twice
  obtain ⟨next, waited, again⟩ := Option.bind_eq_some_iff.1 last
  refine ⟨s, failed, next, attempted, backoff, waited, ?_⟩
  refine (reconnect_throttled (runs_of_exec reached)).2.2 0 failed _ next 1 _ v attempted waited
    ?_ rfl again
  intro t a mem
  simp only [toAttempt, List.map_cons, List.map_nil, List.mem_cons, List.not_mem_nil, or_false,
    reduceCtorEq, false_or, Event.task.injEq] at mem
  rcases mem with ⟨_, rfl⟩ | ⟨_, rfl⟩ | ⟨_, rfl⟩ | ⟨_, rfl⟩ | ⟨_, rfl⟩ | ⟨_, rfl⟩ <;> rfl

end Ombrac.ReconnectThrottle
