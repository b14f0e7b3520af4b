import Mathlib.Data.List.Count
import Ombrac.FfiService

set_option autoImplicit false

/-!
# What a failed startup leaves behind

A startup call sets up logging before it looks whether a service is running. Each log writer has a
thread of its own, which ends with the writer's guard; the global subscriber keeps writing to the
first one.
-/
namespace Ombrac.FfiStartup
open LabelledSystem FfiService

variable {κ : Type*}

/-- The process with its log writers, by number. `made` counts them, `guarded` is the one whose
guard `LOG_GUARD` holds, and `written` the one that the subscriber writes to. -/
structure Host (κ : Type*) where
  process : Process κ
  made : ℕ
  guarded : Option ℕ
  written : Option ℕ

inductive Event where
  | call (c : Call)
  | rebind (service : Attempt)

namespace Host
variable (L : Library κ)

def initForFfi (config : LoggingConfig) (h : Host κ) : Unwind Unit × Host κ :=
  let writer := h.made
  let h := { h with made := writer + 1 }
  if h.process.logGuard.poisoned then (.panicked, h)
  else
    match h.process.subscriber with
    | none =>
      (.returned (), { h with
        process.logGuard.value := some ⟨⟩
        process.subscriber := some (filterOf L config)
        guarded := some writer
        written := some writer })
    -- the guard before this one is dropped, and `init` panics with the mutex guard in scope
    | some _ =>
      (.panicked, { h with process.logGuard := ⟨some ⟨⟩, true⟩, guarded := some writer })

def startupClosure (configJson : Option String) (runtime client : Attempt) (h : Host κ) :
    Unwind ℤ × Host κ :=
  match L.loadFromJson (cStrToString configJson) with
  | none => (.returned (-1), h)
  | some config =>
    match if L.tracing then h.initForFfi L config.logging else (.returned (), h) with
    | (.panicked, h) => (.panicked, h)
    | (.returned (), h) =>
      let (result, process) := buildService config runtime client h.process
      (result, { h with process := process })

def startup (configJson : Option String) (runtime client : Attempt) (h : Host κ) : ℤ × Host κ :=
  match h.startupClosure L configJson runtime client with
  | (.returned code, h) => (code, h)
  | (.panicked, h) => (-1, h)

/-- `ombrac_client_service_shutdown`, which drops the guard where it gets hold of the mutex. -/
def shutdown (service : Attempt) (h : Host κ) : Host κ :=
  { h with
    process := (ombracClientServiceShutdown L service h.process).2
    guarded := if L.tracing && !h.process.logGuard.poisoned then none else h.guarded }

/-- `ombrac_client_service_rebind`, under the lock of `SERVICE_HANDLE`. -/
def rebind (service : Attempt) (h : Host κ) : Host κ :=
  match h.process.serviceHandle.value, service with
  | some _, .panics => { h with process.serviceHandle.poisoned := true }
  | _, _ => h

def step (h : Host κ) : Event → Host κ
  | .call (.startup configJson runtime client) => (h.startup L configJson runtime client).2
  | .call (.shutdown service) => h.shutdown L service
  | .rebind service => h.rebind service

end Host

def hostSystem (L : Library κ) : System (Host κ) Event where
  initial := ⟨(process L).initial, 0, none, none⟩
  step h e := some (h.step L e)

def Running (h : Host κ) : Prop := h.process.serviceHandle.value.isSome = true

def KeepsLogging (h : Host κ) : Prop := ∃ writer, h.written = some writer ∧ h.guarded = some writer

/-- The service is as it was, the guard that a running service uses, and whether the mutex of the
guard can be used. -/
structure LeftAsItWas (h h' : Host κ) : Prop where
  service : h'.process.serviceHandle = h.process.serviceHandle
  guard : Running h → h'.guarded = h.guarded
  mutex : h'.process.logGuard.poisoned = h.process.logGuard.poisoned
  logging : Running h → KeepsLogging h → KeepsLogging h'

def Event.parses (L : Library κ) : Event → Bool
  | .call c => c.parses L
  | .rebind _ => false

/-! ## The calls on the process alone -/

section Project
variable {L : Library κ} {h : Host κ}

theorem initForFfi_process (config : LoggingConfig) :
    FfiService.initForFfi L config h.process =
      ((h.initForFfi L config).1, (h.initForFfi L config).2.process) := by
  unfold FfiService.initForFfi Host.initForFfi
  dsimp only
  split_ifs with poisoned
  · rfl
  · cases h.process.subscriber <;> rfl

theorem startupClosure_process (configJson : Option String) (runtime client : Attempt) :
    FfiService.startupClosure L configJson runtime client h.process =
      ((h.startupClosure L configJson runtime client).1,
        (h.startupClosure L configJson runtime client).2.process) := by
  unfold FfiService.startupClosure Host.startupClosure whenTracing
  cases L.loadFromJson (cStrToString configJson) with
  | none => rfl
  | some config =>
    dsimp only
    cases L.tracing with
    | false => rfl
    | true =>
      simp only [if_true]
      rw [initForFfi_process]
      obtain ⟨⟨⟩ | _, h'⟩ := h.initForFfi L config.logging <;> rfl

/-- The writers aside, a startup is that of the process. -/
theorem startup_process (configJson : Option String) (runtime client : Attempt) :
    ombracClientServiceStartup L configJson runtime client h.process =
      ((h.startup L configJson runtime client).1,
        (h.startup L configJson runtime client).2.process) := by
  unfold ombracClientServiceStartup Host.startup
  rw [startupClosure_process]
  obtain ⟨_ | _, h'⟩ := h.startupClosure L configJson runtime client <;> rfl

theorem step_process (c : Call) : (h.step L (.call c)).process = (c.run L h.process).2 := by
  cases c with
  | startup configJson runtime client =>
    exact (congrArg Prod.snd (startup_process configJson runtime client)).symm
  | shutdown service => rfl

/-- What the calls do to the process is a run of the process. -/
theorem runs_process {cs : List Call} (run : Runs (hostSystem L) (cs.map .call) h) :
    Runs (process L) cs h.process := by
  generalize events : cs.map Event.call = es at run
  induction run generalizing cs with
  | initial =>
    obtain rfl := List.map_eq_nil_iff.1 events
    exact .initial
  | next run step ih =>
    obtain ⟨before, last, rfl, past, next⟩ := List.map_eq_append_iff.1 events
    obtain ⟨c, rfl, rfl⟩ := List.map_eq_singleton_iff.1 next
    obtain rfl := Option.some.inj step
    exact (ih past).next (congrArg some (step_process c).symm)

end Project

/-! ## The ways of a startup -/

section Startup
variable {L : Library κ} {h : Host κ} {configJson : Option String} {config : ServiceConfig κ}
  {runtime client : Attempt}

/-- Where the service is not stored, the process is as it was. -/
theorem buildService_refused (config : ServiceConfig κ) (runtime client : Attempt)
    (p : Process κ) : (buildService config runtime client p).1 = .returned 0 ∨
      (buildService config runtime client p).2 = p := by
  unfold buildService
  split
  case h_5 =>
    unfold storeService
    cases p.serviceHandle.value with
    | none => exact .inl rfl
    | some _ => exact .inr rfl
  all_goals exact .inr rfl

theorem startup_unparsed (unparsed : L.loadFromJson (cStrToString configJson) = none) :
    h.startup L configJson runtime client = (-1, h) := by
  unfold Host.startup Host.startupClosure
  rw [unparsed]

/-- With logging out of the way, a startup that fails leaves the process. -/
theorem startup_built {h' : Host κ}
    (parsed : L.loadFromJson (cStrToString configJson) = some config)
    (logging : (if L.tracing then h.initForFfi L config.logging else (.returned (), h)) =
      (.returned (), h'))
    (failed : (h.startup L configJson runtime client).1 = -1) :
    (h.startup L configJson runtime client).2 = h' := by
  have refused := buildService_refused config runtime client h'.process
  unfold Host.startup Host.startupClosure at failed ⊢
  rw [parsed] at failed ⊢
  dsimp only at failed ⊢
  rw [logging] at failed ⊢
  dsimp only at failed ⊢
  cases built : buildService config runtime client h'.process with
  | mk result p =>
    rw [built] at refused failed
    obtain rfl | rfl := refused
    · cases failed
    · cases result <;> rfl

theorem startup_panicked {h' : Host κ}
    (parsed : L.loadFromJson (cStrToString configJson) = some config) (on : L.tracing = true)
    (logging : h.initForFfi L config.logging = (.panicked, h')) :
    h.startup L configJson runtime client = (-1, h') := by
  unfold Host.startup Host.startupClosure
  rw [parsed]
  dsimp only
  rw [if_pos on, logging]

theorem initForFfi_poisoned (poisoned : h.process.logGuard.poisoned = true)
    (config : LoggingConfig) :
    h.initForFfi L config = (.panicked, { h with made := h.made + 1 }) := if_pos poisoned

theorem initForFfi_set (clean : h.process.logGuard.poisoned = false) {filter : String}
    (set : h.process.subscriber = some filter) (config : LoggingConfig) :
    h.initForFfi L config = (.panicked, { h with
      process.logGuard := ⟨some ⟨⟩, true⟩
      made := h.made + 1
      guarded := some h.made }) := by
  unfold Host.initForFfi
  dsimp only
  rw [clean, set]
  rfl

theorem initForFfi_unset (clean : h.process.logGuard.poisoned = false)
    (unset : h.process.subscriber = none) (config : LoggingConfig) :
    h.initForFfi L config = (.returned (), { h with
      process.logGuard.value := some ⟨⟩
      process.subscriber := some (filterOf L config)
      made := h.made + 1
      guarded := some h.made
      written := some h.made }) := by
  unfold Host.initForFfi
  dsimp only
  rw [clean, unset]
  rfl

theorem startup_sameLogging {h' : Host κ} (runtime client : Attempt)
    (parsed : L.loadFromJson (cStrToString configJson) = some config)
    (logging : (if L.tracing then h.initForFfi L config.logging else (.returned (), h)) =
      (.returned (), h')) :
    SameLogging h'.process (h.startup L configJson runtime client).2.process := by
  have same := buildService_logging config runtime client h'.process
  unfold Host.startup Host.startupClosure
  rw [parsed]
  dsimp only
  rw [logging]
  dsimp only
  cases built : buildService config runtime client h'.process with
  | mk result p =>
    rw [built] at same
    cases result <;> exact same

end Startup

/-! ## How often a configuration was parsed -/

/-- With tracing, the first configuration that parses sets the subscriber and the second poisons
the mutex of the guard; before the first no service runs. -/
structure Counted (n : ℕ) (h : Host κ) : Prop where
  subscriber : h.process.subscriber.isSome = true ↔ 1 ≤ n
  poisoned : h.process.logGuard.poisoned = true ↔ 2 ≤ n
  idle : n = 0 → ¬ Running h

section Count
variable {L : Library κ} {h : Host κ} {n : ℕ}

theorem Counted.of_clean (counted : Counted n h) (clean : h.process.logGuard.poisoned = false) :
    n < 2 := by
  by_contra twice
  cases clean.symm.trans (counted.poisoned.2 (not_lt.1 twice))

theorem Counted.of_set (counted : Counted n h) {filter : String}
    (set : h.process.subscriber = some filter) : 1 ≤ n :=
  counted.subscriber.1 (congrArg Option.isSome set)

theorem Counted.of_unset (counted : Counted n h) (unset : h.process.subscriber = none) :
    n = 0 := by
  by_contra parsed
  cases (congrArg Option.isSome unset).symm.trans
    (counted.subscriber.2 (Nat.one_le_iff_ne_zero.2 parsed))

theorem shutdownLogging_poisoned (p : Process κ) :
    (shutdownLogging p).2.logGuard.poisoned = p.logGuard.poisoned := by
  unfold shutdownLogging
  split <;> rfl

theorem whenTracing_poisoned (L : Library κ) (p : Process κ) :
    (whenTracing L shutdownLogging p).2.logGuard.poisoned = p.logGuard.poisoned := by
  unfold whenTracing
  split
  · exact shutdownLogging_poisoned p
  · rfl

theorem shutdown_poisoned (L : Library κ) (service : Attempt) (p : Process κ) :
    (ombracClientServiceShutdown L service p).2.logGuard.poisoned = p.logGuard.poisoned := by
  have stopped := whenTracing_poisoned L (stopService service p)
  unfold ombracClientServiceShutdown shutdownClosure
  rcases run : whenTracing L shutdownLogging (stopService service p) with ⟨⟨⟩ | _, q⟩
  · rw [run] at stopped
    exact stopped
  · rw [run] at stopped
    exact (whenTracing_poisoned L _).trans stopped

theorem startup_counted (on : L.tracing = true) (counted : Counted n h) {configJson : Option String}
    {config : ServiceConfig κ} (parsed : L.loadFromJson (cStrToString configJson) = some config)
    (runtime client : Attempt) :
    Counted (n + 1) (h.startup L configJson runtime client).2 := by
  cases poisoned : h.process.logGuard.poisoned with
  | true =>
    have twice := counted.poisoned.1 poisoned
    rw [startup_panicked parsed on (initForFfi_poisoned poisoned _)]
    refine ⟨counted.subscriber.trans ?_, counted.poisoned.trans ?_, nofun⟩ <;> omega
  | false =>
    have once := counted.of_clean poisoned
    cases subscriber : h.process.subscriber with
    | some filter =>
      have first := counted.of_set subscriber
      rw [startup_panicked parsed on (initForFfi_set poisoned subscriber _)]
      have set := counted.subscriber.2 first
      refine ⟨iff_of_true set ?_, iff_of_true rfl ?_, nofun⟩ <;> omega
    | none =>
      have fresh := counted.of_unset subscriber
      obtain ⟨guard, filter⟩ := startup_sameLogging runtime client parsed
        ((if_pos on).trans (initForFfi_unset poisoned subscriber config.logging))
      refine ⟨?_, ?_, nofun⟩
      · rw [filter]
        exact iff_of_true rfl (Nat.le_add_left 1 n)
      · rw [guard]
        refine iff_of_false (fun poisoned' => ?_) (by omega)
        cases poisoned.symm.trans poisoned'

theorem step_counted (on : L.tracing = true) (counted : Counted n h) (e : Event) :
    Counted (n + if e.parses L then 1 else 0) (h.step L e) := by
  cases e with
  | rebind service =>
    change Counted n (h.rebind service)
    unfold Host.rebind
    split
    · exact ⟨counted.subscriber, counted.poisoned, counted.idle⟩
    · exact counted
  | call c =>
    cases c with
    | shutdown service =>
      obtain ⟨stopped, subscriber, _⟩ := shutdown_state L service h.process
      refine ⟨?_, ?_, fun _ => ?_⟩
      · exact (congrArg (Option.isSome · = true) subscriber).to_iff.trans counted.subscriber
      · exact (congrArg (· = true) (shutdown_poisoned L service h.process)).to_iff.trans
          counted.poisoned
      · have idle := congrArg Option.isSome stopped
        exact fun running => Bool.false_ne_true (idle.symm.trans running)
    | startup configJson runtime client =>
      change Counted (n + if (L.loadFromJson (cStrToString configJson)).isSome then 1 else 0)
        (h.startup L configJson runtime client).2
      cases parsed : L.loadFromJson (cStrToString configJson) with
      | none =>
        rw [startup_unparsed parsed]
        exact counted
      | some config => exact startup_counted on counted parsed runtime client

theorem runs_counted (on : L.tracing = true) {es : List Event} (run : Runs (hostSystem L) es h) :
    Counted (es.countP (Event.parses L)) h := by
  induction run with
  | initial =>
    exact ⟨iff_of_false Bool.false_ne_true (by simp), iff_of_false Bool.false_ne_true (by simp),
      fun _ => Bool.false_ne_true⟩
  | next run step ih =>
    obtain rfl := Option.some.inj step
    rw [List.countP_append, List.countP_singleton]
    exact step_counted on ih _

end Count

/-! ## Failed startups -/

/-- The configuration is the second that parses, in a library with tracing. -/
def SecondSetup (L : Library κ) (es : List Event) (configJson : Option String) : Prop :=
  L.tracing = true ∧ (L.loadFromJson (cStrToString configJson)).isSome = true ∧
    es.countP (Event.parses L) = 1

theorem LeftAsItWas.refl (h : Host κ) : LeftAsItWas h h := ⟨rfl, fun _ => rfl, rfl, fun _ => id⟩

/-- In every reachable process, a startup that fails leaves everything as it was exactly if its
configuration is not the second that parses. -/
theorem startup_failure_iff {L : Library κ} {es : List Event} {h : Host κ}
    (run : Runs (hostSystem L) es h) (configJson : Option String) (runtime client : Attempt) :
    ((h.startup L configJson runtime client).1 = -1 →
        LeftAsItWas h (h.startup L configJson runtime client).2) ↔
      ¬ SecondSetup L es configJson := by
  unfold SecondSetup
  cases parsed : L.loadFromJson (cStrToString configJson) with
  | none =>
    rw [startup_unparsed parsed]
    exact iff_of_true (fun _ => .refl h) fun second => Bool.false_ne_true second.2.1
  | some config =>
    by_cases on : L.tracing = true
    · have counted := runs_counted on run
      cases poisoned : h.process.logGuard.poisoned with
      | true =>
        have twice := counted.poisoned.1 poisoned
        rw [startup_panicked parsed on (initForFfi_poisoned poisoned _)]
        refine iff_of_true (fun _ => ⟨rfl, fun _ => rfl, rfl, fun _ => id⟩) fun second => ?_
        omega
      | false =>
        cases subscriber : h.process.subscriber with
        | some filter =>
          have first := counted.of_set subscriber
          have once := counted.of_clean poisoned
          rw [startup_panicked parsed on (initForFfi_set poisoned subscriber _)]
          refine iff_of_false (fun left => ?_) (not_not_intro ⟨on, rfl, by omega⟩)
          cases (left rfl).mutex.trans poisoned
        | none =>
          have fresh := counted.of_unset subscriber
          have stopped := counted.idle fresh
          refine iff_of_true (fun failed => ?_) fun second => by omega
          rw [startup_built parsed
            ((if_pos on).trans (initForFfi_unset poisoned subscriber config.logging)) failed]
          exact ⟨rfl, fun running => absurd running stopped, rfl,
            fun running => absurd running stopped⟩
    · refine iff_of_true (fun failed => ?_) fun second => on second.1
      rw [startup_built parsed (if_neg on) failed]
      exact .refl h

/-- A startup while the service runs, with a text that is no configuration. -/
theorem startup_failure_iff_first : ∃ h, Runs (hostSystem exampleLibrary)
      [.call (.startup (some minimalJson) .succeeds .succeeds)] h ∧
    h.process.serviceHandle.value.isSome = true ∧
    (h.startup exampleLibrary (some "topsecret") .succeeds .succeeds).1 = -1 ∧
    LeftAsItWas h (h.startup exampleLibrary (some "topsecret") .succeeds .succeeds).2 := by
  have ran : ∃ h, exec (hostSystem exampleLibrary)
      [.call (.startup (some minimalJson) .succeeds .succeeds)] = some h ∧
      h.process.serviceHandle.value.isSome = true ∧
      (h.startup exampleLibrary (some "topsecret") .succeeds .succeeds).1 = -1 :=
    ⟨_, rfl, rfl, rfl⟩
  obtain ⟨h, ran, running, failed⟩ := ran
  have run := runs_of_exec ran
  refine ⟨h, run, running, failed, (startup_failure_iff run _ .succeeds .succeeds).2 ?_ failed⟩
  rintro ⟨_, parses, _⟩
  exact absurd parses (by decide)

/-- A second startup while the service runs: it fails, and the service logs no more. -/
theorem second_startup_silences :
    ¬ ∀ (es : List Event) (h : Host Unit) (configJson : Option String) (runtime client : Attempt),
        Runs (hostSystem exampleLibrary) es h →
      (h.startup exampleLibrary configJson runtime client).1 = -1 →
        LeftAsItWas h (h.startup exampleLibrary configJson runtime client).2 := by
  intro left
  have ran : exec (hostSystem exampleLibrary)
    [.call (.startup (some minimalJson) .succeeds .succeeds)] = some _ := rfl
  obtain ⟨writer, written, guarded⟩ := (left _ _ (some minimalJson) .succeeds .succeeds
    (runs_of_exec ran) rfl).logging rfl ⟨0, rfl, rfl⟩
  cases written
  cases guarded

end Ombrac.FfiStartup
