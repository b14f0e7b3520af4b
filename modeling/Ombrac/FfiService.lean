import Mathlib.Data.List.Basic
import Ombrac.LabelledSystem

set_option autoImplicit false

/-!
# The service behind the C interface

Three pieces of process-wide state outlive a call: the running service, the guard of the log
writer and the global subscriber. Each of the two calls runs under `catch_unwind`, so a panic
inside ends the call and not the process, and a mutex whose guard is held then stays poisoned.
-/
namespace Ombrac.FfiService
open LabelledSystem

/-- `std::sync::Mutex<Option<T>>`. -/
structure Mutex (α : Type*) where
  value : Option α
  poisoned : Bool
  deriving DecidableEq

inductive Unwind (α : Type*) where
  | returned (value : α)
  | panicked

inductive Attempt where
  | succeeds
  | fails
  | panics
  deriving DecidableEq

structure LoggingConfig where
  logLevel : Option String
  deriving DecidableEq

structure ServiceConfig (κ : Type*) where
  logging : LoggingConfig
  rest : κ
  deriving DecidableEq

/-- The build of the library and the process it is loaded in. -/
structure Library (κ : Type*) where
  tracing : Bool
  defaultEnv : Option String
  loadFromJson : String → Option (ServiceConfig κ)

/-- A worker guard keeps the writer's thread alive; a subscriber is known by its filter. -/
structure WorkerGuard where
  deriving DecidableEq

structure Process (κ : Type*) where
  serviceHandle : Mutex (ServiceConfig κ)
  logGuard : Mutex WorkerGuard
  subscriber : Option String
  deriving DecidableEq

inductive Call where
  | startup (configJson : Option String) (runtime client : Attempt)
  | shutdown (service : Attempt)
  deriving DecidableEq

variable {κ : Type*}

/-- A null pointer and invalid UTF-8 read as the empty string. -/
def cStrToString (s : Option String) : String := s.getD ""

section Logging
variable (L : Library κ)

def filterOf (config : LoggingConfig) : String := L.defaultEnv.getD (config.logLevel.getD "info")

def initForFfi (config : LoggingConfig) (p : Process κ) : Unwind Unit × Process κ :=
  if p.logGuard.poisoned then (.panicked, p)
  else
    match p.subscriber with
    | none =>
      (.returned (), { p with logGuard.value := some ⟨⟩, subscriber := some (filterOf L config) })
    -- `init` panics while the mutex guard of the line before is still in scope
    | some _ => (.panicked, { p with logGuard := ⟨some ⟨⟩, true⟩ })

def shutdownLogging (p : Process κ) : Unwind Unit × Process κ :=
  if p.logGuard.poisoned then (.panicked, p)
  else (.returned (), { p with logGuard.value := none })

/-- The call that stands under `#[cfg(feature = "tracing")]`. -/
def whenTracing (f : Process κ → Unwind Unit × Process κ) (p : Process κ) :
    Unwind Unit × Process κ :=
  if L.tracing then f p else (.returned (), p)

end Logging

section Calls
variable (L : Library κ)

/-- The end of the startup closure; the poison of `SERVICE_HANDLE` is ignored. -/
def storeService (config : ServiceConfig κ) (p : Process κ) : Unwind ℤ × Process κ :=
  match p.serviceHandle.value with
  | some _ => (.returned (-1), p)
  | none => (.returned 0, { p with serviceHandle.value := some config })

def buildService (config : ServiceConfig κ) (runtime client : Attempt) (p : Process κ) :
    Unwind ℤ × Process κ :=
  match runtime, client with
  | .fails, _ => (.returned (-1), p)
  | .panics, _ => (.panicked, p)
  | .succeeds, .fails => (.returned (-1), p)
  | .succeeds, .panics => (.panicked, p)
  | .succeeds, .succeeds => storeService config p

def startupClosure (configJson : Option String) (runtime client : Attempt) (p : Process κ) :
    Unwind ℤ × Process κ :=
  match L.loadFromJson (cStrToString configJson) with
  | none => (.returned (-1), p)
  | some config =>
    match whenTracing L (initForFfi L config.logging) p with
    | (.panicked, q) => (.panicked, q)
    | (.returned (), q) => buildService config runtime client q

def ombracClientServiceStartup (configJson : Option String) (runtime client : Attempt)
    (p : Process κ) : ℤ × Process κ :=
  match startupClosure L configJson runtime client p with
  | (.returned code, q) => (code, q)
  | (.panicked, q) => (-1, q)

/-- A panic of the service's own shutdown is caught where it happens. -/
def stopService (_service : Attempt) (p : Process κ) : Process κ :=
  { p with serviceHandle.value := none }

def shutdownClosure (service : Attempt) (p : Process κ) : Unwind ℤ × Process κ :=
  match whenTracing L shutdownLogging (stopService service p) with
  | (.returned (), q) => (.returned 0, q)
  -- the guard of `SERVICE_HANDLE` is in scope too
  | (.panicked, q) => (.panicked, { q with serviceHandle.poisoned := true })

def ombracClientServiceShutdown (service : Attempt) (p : Process κ) : ℤ × Process κ :=
  match shutdownClosure L service p with
  | (.returned code, q) => (code, q)
  | (.panicked, q) => (0, (whenTracing L shutdownLogging q).2)

def Call.run (p : Process κ) : Call → ℤ × Process κ
  | .startup configJson runtime client =>
    ombracClientServiceStartup L configJson runtime client p
  | .shutdown service => ombracClientServiceShutdown L service p

def process : System (Process κ) Call where
  initial := ⟨⟨none, false⟩, ⟨none, false⟩, none⟩
  step p call := some (call.run L p).2

def Call.parses : Call → Bool
  | .startup configJson _ _ => (L.loadFromJson (cStrToString configJson)).isSome
  | .shutdown _ => false

end Calls

section Frames
variable {L : Library κ} {p q : Process κ} {config : ServiceConfig κ}

def SameLogging (p q : Process κ) : Prop :=
  q.logGuard = p.logGuard ∧ q.subscriber = p.subscriber

theorem storeService_logging (config : ServiceConfig κ) (p : Process κ) :
    SameLogging p (storeService config p).2 := by
  unfold storeService
  split <;> exact ⟨rfl, rfl⟩

theorem buildService_logging (config : ServiceConfig κ) (runtime client : Attempt)
    (p : Process κ) : SameLogging p (buildService config runtime client p).2 := by
  unfold buildService
  split
  case h_5 => exact storeService_logging config p
  all_goals exact ⟨rfl, rfl⟩

/-- With the feature off no call touches the logging state. -/
theorem whenTracing_off (off : L.tracing = false) (f : Process κ → Unwind Unit × Process κ)
    (p : Process κ) : whenTracing L f p = (.returned (), p) := by
  simp [whenTracing, off]

theorem whenTracing_on (on : L.tracing = true) (f : Process κ → Unwind Unit × Process κ)
    (p : Process κ) : whenTracing L f p = f p := by
  simp [whenTracing, on]

end Frames

/-- A poisoned log guard means that the subscriber is set, and it is set for good. -/
def Consistent (p : Process κ) : Prop :=
  p.logGuard.poisoned = true → p.subscriber.isSome = true

section Steps
variable {L : Library κ} {p : Process κ}

theorem initForFfi_first (inv : Consistent p) (unset : p.subscriber = none)
    (config : LoggingConfig) :
    initForFfi L config p = (.returned (),
      { p with logGuard.value := some ⟨⟩, subscriber := some (filterOf L config) }) := by
  have clean : ¬ p.logGuard.poisoned = true := by
    intro poisoned
    have set := inv poisoned
    rw [unset] at set
    cases set
  rw [initForFfi, if_neg clean, unset]

/-- Any later call panics, at `lock().unwrap()` or at `init()`. -/
theorem initForFfi_again (set : p.subscriber.isSome = true) (config : LoggingConfig) :
    ∃ q, initForFfi L config p = (.panicked, q) ∧ q.subscriber = p.subscriber := by
  obtain ⟨filter, subscriber⟩ := Option.isSome_iff_exists.1 set
  by_cases poisoned : p.logGuard.poisoned = true
  · exact ⟨p, by rw [initForFfi, if_pos poisoned], rfl⟩
  · refine ⟨{ p with logGuard := ⟨some ⟨⟩, true⟩ }, ?_, rfl⟩
    rw [initForFfi, if_neg poisoned, subscriber]

theorem shutdownLogging_subscriber (p : Process κ) :
    (shutdownLogging p).2.subscriber = p.subscriber := by
  unfold shutdownLogging
  split <;> rfl

theorem shutdownLogging_consistent (inv : Consistent p) : Consistent (shutdownLogging p).2 := by
  unfold shutdownLogging
  split
  · exact inv
  · exact inv

theorem shutdown_code (L : Library κ) (service : Attempt) (p : Process κ) :
    (ombracClientServiceShutdown L service p).1 = 0 := by
  unfold ombracClientServiceShutdown shutdownClosure
  by_cases on : L.tracing = true
  · rw [whenTracing_on on]
    rcases shutdownLogging (stopService service p) with ⟨_ | _, q⟩ <;> rfl
  · rw [whenTracing_off (by simpa using on)]

theorem whenTracing_shutdown (L : Library κ) (p : Process κ) :
    (whenTracing L shutdownLogging p).2.serviceHandle = p.serviceHandle ∧
      (whenTracing L shutdownLogging p).2.subscriber = p.subscriber ∧
      (Consistent p → Consistent (whenTracing L shutdownLogging p).2) := by
  by_cases on : L.tracing = true
  · rw [whenTracing_on on]
    refine ⟨?_, shutdownLogging_subscriber p, shutdownLogging_consistent⟩
    unfold shutdownLogging
    split <;> rfl
  · rw [whenTracing_off (by simpa using on)]
    exact ⟨rfl, rfl, id⟩

/-- A shutdown stops the service and leaves the subscriber where it is. -/
theorem shutdown_state (L : Library κ) (service : Attempt) (p : Process κ) :
    (ombracClientServiceShutdown L service p).2.serviceHandle.value = none ∧
      (ombracClientServiceShutdown L service p).2.subscriber = p.subscriber ∧
      (Consistent p → Consistent (ombracClientServiceShutdown L service p).2) := by
  have stopped := whenTracing_shutdown L (stopService service p)
  unfold ombracClientServiceShutdown shutdownClosure
  rcases run : whenTracing L shutdownLogging (stopService service p) with ⟨⟨⟩ | _, q⟩
  · rw [run] at stopped
    obtain ⟨handle, subscriber, consistent⟩ := stopped
    exact ⟨by rw [handle]; rfl, by rw [subscriber]; rfl, consistent⟩
  · rw [run] at stopped
    obtain ⟨handle, subscriber, consistent⟩ := stopped
    obtain ⟨handle', subscriber', consistent'⟩ :=
      whenTracing_shutdown L { q with serviceHandle.poisoned := true }
    refine ⟨?_, ?_, fun inv => consistent' (consistent inv)⟩
    · exact (congrArg Mutex.value handle').trans (congrArg Mutex.value handle)
    · exact subscriber'.trans subscriber

/-- A configuration that does not parse ends the call before anything is touched. -/
theorem startup_unparsed {configJson : Option String}
    (unparsed : L.loadFromJson (cStrToString configJson) = none) (runtime client : Attempt) :
    ombracClientServiceStartup L configJson runtime client p = (-1, p) := by
  simp [ombracClientServiceStartup, startupClosure, unparsed]

theorem startup_off (off : L.tracing = false) {configJson : Option String}
    {config : ServiceConfig κ} (parsed : L.loadFromJson (cStrToString configJson) = some config)
    (runtime client : Attempt) :
    startupClosure L configJson runtime client p = buildService config runtime client p := by
  simp [startupClosure, parsed, whenTracing_off off]

theorem startup_first (on : L.tracing = true) (inv : Consistent p)
    (unset : p.subscriber = none) {configJson : Option String} {config : ServiceConfig κ}
    (parsed : L.loadFromJson (cStrToString configJson) = some config)
    (runtime client : Attempt) :
    startupClosure L configJson runtime client p = buildService config runtime client
      { p with
        logGuard.value := some ⟨⟩, subscriber := some (filterOf L config.logging) } := by
  simp [startupClosure, parsed, whenTracing_on on, initForFfi_first inv unset]

theorem startup_again (on : L.tracing = true) (set : p.subscriber.isSome = true)
    {configJson : Option String} {config : ServiceConfig κ}
    (parsed : L.loadFromJson (cStrToString configJson) = some config)
    (runtime client : Attempt) :
    ∃ q, ombracClientServiceStartup L configJson runtime client p = (-1, q) ∧
      q.subscriber = p.subscriber := by
  obtain ⟨q, panicked, subscriber⟩ := initForFfi_again (L := L) set config.logging
  refine ⟨q, ?_, subscriber⟩
  simp [ombracClientServiceStartup, startupClosure, parsed, whenTracing_on on, panicked]

theorem startup_logging (configJson : Option String) (runtime client : Attempt) :
    SameLogging (startupClosure L configJson runtime client p).2
      (ombracClientServiceStartup L configJson runtime client p).2 := by
  unfold ombracClientServiceStartup
  rcases startupClosure L configJson runtime client p with ⟨_ | _, q⟩ <;> exact ⟨rfl, rfl⟩

/-- The subscriber is set by the first call whose configuration parses, and by no other. -/
theorem run_logging (on : L.tracing = true) (inv : Consistent p) (call : Call) :
    (call.run L p).2.subscriber.isSome = (p.subscriber.isSome || call.parses L) ∧
      Consistent (call.run L p).2 := by
  cases call with
  | shutdown service =>
    obtain ⟨_, subscriber, consistent⟩ := shutdown_state L service p
    refine ⟨?_, consistent inv⟩
    rw [Call.run, subscriber, Call.parses, Bool.or_false]
  | startup configJson runtime client =>
    rw [Call.run, Call.parses]
    cases parsed : L.loadFromJson (cStrToString configJson) with
    | none =>
      rw [startup_unparsed parsed]
      exact ⟨(Bool.or_false _).symm, inv⟩
    | some config =>
      cases subscriber : p.subscriber with
      | some filter =>
        obtain ⟨q, run, same⟩ :=
          startup_again on (by rw [subscriber]; rfl) parsed runtime client
        rw [run]
        have set : q.subscriber.isSome = true := by rw [same, subscriber]; rfl
        exact ⟨by rw [set]; rfl, fun _ => set⟩
      | none =>
        have outer := startup_logging (L := L) (p := p) configJson runtime client
        rw [startup_first on inv subscriber parsed] at outer
        have inner := buildService_logging config runtime client
          { p with
            logGuard.value := some ⟨⟩, subscriber := some (filterOf L config.logging) }
        have set :
            (ombracClientServiceStartup L configJson runtime client p).2.subscriber.isSome =
              true := by
          rw [outer.2, inner.2]
          rfl
        exact ⟨by rw [set]; rfl, fun _ => set⟩

end Steps

section Runs
variable {L : Library κ} {calls : List Call} {p : Process κ}

/-- With tracing, the subscriber tells whether some configuration has parsed so far. -/
theorem runs_logging (on : L.tracing = true) (run : Runs (process L) calls p) :
    p.subscriber.isSome = calls.any (Call.parses L) ∧ Consistent p := by
  induction run with
  | initial => exact ⟨rfl, fun poisoned => nomatch poisoned⟩
  | next run h ih =>
    obtain ⟨seen, inv⟩ := ih
    obtain rfl := Option.some.inj h
    obtain ⟨subscriber, consistent⟩ := run_logging on inv _
    refine ⟨?_, consistent⟩
    rw [subscriber, seen, List.any_append, List.any_cons, List.any_nil, Bool.or_false]

theorem build_succeeds (config : ServiceConfig κ) {q : Process κ}
    (stopped : q.serviceHandle.value = none) :
    buildService config .succeeds .succeeds q =
      (.returned 0, { q with serviceHandle.value := some config }) := by
  simp only [buildService, storeService, stopped]

/-- The library was built without tracing, or no startup call so far had a configuration that
parses. -/
def Restartable (L : Library κ) (calls : List Call) : Prop :=
  L.tracing = true → ∀ call ∈ calls, call.parses L = false

theorem startup_succeeds_iff (run : Runs (process L) calls p)
    (stopped : p.serviceHandle.value = none) {configJson : Option String}
    (parses : (L.loadFromJson (cStrToString configJson)).isSome = true) :
    (ombracClientServiceStartup L configJson .succeeds .succeeds p).1 = 0 ↔
      Restartable L calls := by
  obtain ⟨config, parsed⟩ := Option.isSome_iff_exists.1 parses
  by_cases on : L.tracing = true
  · obtain ⟨seen, inv⟩ := runs_logging on run
    have quiet : Restartable L calls ↔ p.subscriber.isSome = false := by
      rw [seen, List.any_eq_false]
      simp only [Restartable, Bool.not_eq_true]
      exact ⟨fun h => h on, fun h _ => h⟩
    rw [quiet]
    cases subscriber : p.subscriber with
    | none =>
      refine iff_of_true ?_ rfl
      rw [ombracClientServiceStartup, startup_first on inv subscriber parsed,
        build_succeeds config (by exact stopped)]
    | some filter =>
      obtain ⟨q, code, _⟩ :=
        startup_again on (p := p) (by rw [subscriber]; rfl) parsed .succeeds .succeeds
      rw [code]
      exact iff_of_false (fun zero => nomatch zero) (fun unset => nomatch unset)
  · refine iff_of_true ?_ fun tracing => absurd tracing on
    rw [ombracClientServiceStartup, startup_off (by simpa using on) parsed,
      build_succeeds config stopped]

theorem restartable_shutdown {L : Library κ} {calls : List Call} (service : Attempt) :
    Restartable L (calls ++ [.shutdown service]) ↔ Restartable L calls := by
  have quiet : (Call.shutdown service).parses L = false := rfl
  simp only [Restartable, List.forall_mem_append, List.forall_mem_singleton, quiet, and_true]

/-- What is promised of the state after some calls: with no service running, a startup call that
can load its configuration, its runtime and its client returns 0. -/
def StartsAgain (L : Library κ) (p : Process κ) : Prop :=
  p.serviceHandle.value = none → ∀ configJson,
    (L.loadFromJson (cStrToString configJson)).isSome = true →
      (ombracClientServiceStartup L configJson .succeeds .succeeds p).1 = 0

/-- The first configuration that parses uses up the logging for the life of the process, and a
shutdown does not give it back. -/
theorem startup_after_calls_iff (run : Runs (process L) calls p) (configJson : Option String)
    (parses : (L.loadFromJson (cStrToString configJson)).isSome = true) (service : Attempt) :
    (p.serviceHandle.value = none →
      ((ombracClientServiceStartup L configJson .succeeds .succeeds p).1 = 0 ↔
        Restartable L calls)) ∧
    (ombracClientServiceShutdown L service p).1 = 0 ∧
    (ombracClientServiceShutdown L service p).2.serviceHandle.value = none ∧
    ((ombracClientServiceStartup L configJson .succeeds .succeeds
        (ombracClientServiceShutdown L service p).2).1 = 0 ↔ Restartable L calls) := by
  have stopped := (shutdown_state L service p).1
  have after : Runs (process L) (calls ++ [.shutdown service])
      (ombracClientServiceShutdown L service p).2 := run.next rfl
  refine ⟨fun h => startup_succeeds_iff run h parses, shutdown_code L service p, stopped, ?_⟩
  rw [startup_succeeds_iff after stopped parses, restartable_shutdown]

end Runs

def minimalJson : String :=
  "\x7b \"secret\": \"topsecret\", \"server\": \"example.com:443\" \x7d"

def exampleLibrary : Library Unit where
  tracing := true
  defaultEnv := none
  loadFromJson text := if text = minimalJson then some ⟨⟨none⟩, ()⟩ else none

/-- A shutdown and a text that is no configuration come first. -/
def earlyCalls : List Call :=
  [.shutdown .panics, .startup (some "topsecret") .succeeds .succeeds]

theorem startup_after_calls_iff_first : ∃ p, Runs (process exampleLibrary) earlyCalls p ∧
    (ombracClientServiceStartup exampleLibrary (some minimalJson) .succeeds .succeeds p).1 = 0 ∧
    (ombracClientServiceStartup exampleLibrary (some minimalJson) .succeeds .succeeds
      (ombracClientServiceShutdown exampleLibrary .succeeds p).2).1 = 0 := by
  have ran : ∃ p, exec (process exampleLibrary) earlyCalls = some p ∧
      p.serviceHandle.value = none := ⟨_, rfl, rfl⟩
  obtain ⟨p, ran, stopped⟩ := ran
  have run := runs_of_exec ran
  have unparsed : Restartable exampleLibrary earlyCalls := by
    intro _ call member
    simp only [earlyCalls, List.mem_cons, List.not_mem_nil, or_false] at member
    rcases member with rfl | rfl <;> decide
  obtain ⟨first, _, _, again⟩ :=
    startup_after_calls_iff run (some minimalJson) (by decide) .succeeds
  exact ⟨p, run, (first stopped).2 unparsed, again.2 unparsed⟩

/-- Start, stop, start. -/
theorem startup_after_shutdown_fails :
    ¬ ∀ (calls : List Call) (p : Process Unit),
      Runs (process exampleLibrary) calls p → StartsAgain exampleLibrary p := by
  intro restarts
  have ran : ∃ p, exec (process exampleLibrary)
      [.startup (some minimalJson) .succeeds .succeeds, .shutdown .succeeds] = some p ∧
      p.serviceHandle.value = none ∧
      (ombracClientServiceStartup exampleLibrary (some minimalJson) .succeeds .succeeds p).1 = -1 :=
    ⟨_, rfl, rfl, rfl⟩
  obtain ⟨p, run, stopped, failed⟩ := ran
  have zero := restarts _ p (runs_of_exec run) stopped (some minimalJson) rfl
  rw [failed] at zero
  cases zero

end Ombrac.FfiService
