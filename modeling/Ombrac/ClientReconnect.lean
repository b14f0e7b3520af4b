import Mathlib.Data.Rat.Defs
import Mathlib.Algebra.Order.Ring.Unbundled.Rat
import Ombrac.ProtocolPacket
import Ombrac.SharedTasks

set_option autoImplicit false

/-!
# Reconnecting the client

Any number of tasks call `with_retry` on one `ClientConnection`. Connections are numbered as they
are established, the initial one is 0. Each load, store and increment is a step of its own, and so
is each wait; a call may be dropped at a wait, which gives the lock back. Times are rational
numbers of seconds.
-/
namespace Ombrac.ClientReconnect
open LabelledSystem SharedTasks ProtocolPacket

def initialReconnectBackoff : ℚ := 1

def maxReconnectBackoff : ℚ := 60

/-- `nanos` is the part of the wall clock below a second. -/
def backoffJitter (nanos : Fin 1000000000) : ℚ := 4 / 5 + nanos.val / 1000000000 * (2 / 5)

def nextBackoff (current : ℚ) (nanos : Fin 1000000000) : ℚ :=
  let doubled := min (current * 2) maxReconnectBackoff
  let jittered := doubled * backoffJitter nanos
  min jittered maxReconnectBackoff

def isConnectionError (e : IoError) : Bool :=
  match e.kind with
  | .connectionReset | .connectionAborted | .brokenPipe | .notConnected | .timedOut
  | .unexpectedEof | .networkUnreachable | .networkDown => true
  | _ => false

/-- What the tasks share, with the number of the connection established last and the time. -/
structure ClientConnection where
  connection : ℕ
  connectionId : UInt64
  reconnectLock : Option ℕ
  lastAttempt : Option ℚ
  backoff : ℚ
  reconnectAttempts : ℕ
  reconnectSucceeded : ℕ
  established : ℕ
  now : ℚ
  deriving DecidableEq

def ClientConnection.new : ClientConnection where
  connection := 0
  connectionId := 0
  reconnectLock := none
  lastAttempt := none
  backoff := initialReconnectBackoff
  reconnectAttempts := 0
  reconnectSucceeded := 0
  established := 0
  now := 0

namespace ClientConnection
variable (s : ClientConnection)

def unlock : ClientConnection := { s with reconnectLock := none }

def backOff (nanos : Fin 1000000000) : ClientConnection :=
  { s with backoff := nextBackoff s.backoff nanos }

@[simp] theorem unlock_connection : s.unlock.connection = s.connection := rfl
@[simp] theorem unlock_connectionId : s.unlock.connectionId = s.connectionId := rfl
@[simp] theorem unlock_established : s.unlock.established = s.established := rfl
@[simp] theorem unlock_reconnectLock : s.unlock.reconnectLock = none := rfl

end ClientConnection

/-- The connection that the operation ran on, and the id read after it. -/
structure Call where
  connection : ℕ
  oldConnId : UInt64
  deriving DecidableEq, Repr

/-- Where a task is. From `checking` to `incrementing` it holds the lock, but for `sleeping`;
`returned` tells whether the call came into `reconnect`. -/
inductive Phase (α : Type) where
  | idle
  | loaded (connection : ℕ)
  | operating (call : Call)
  | locking (call : Call)
  | checking (call : Call)
  | throttling (call : Call)
  | sleeping (wake : ℚ)
  | attempting (call : Call)
  | rebinding (call : Call)
  | authenticating (call : Call)
  | storing (connection : ℕ)
  | incrementing
  | reloading
  | retrying (connection : ℕ)
  | returned (reconnected : Bool) (result : Except IoError α)

inductive Action (α : Type) where
  | load
  | loadId
  | operation (result : Except IoError α)
  | lock
  | check
  | throttle
  | wake
  | attempt
  | rebind (result : Except IoError Unit) (nanos : Fin 1000000000)
  | authenticate (result : Except IoError Unit) (nanos : Fin 1000000000)
  | store
  | increment
  | reload
  | retry (result : Except IoError α)
  | cancel

def throttled : IoError := ⟨.other, "reconnect throttled"⟩

variable {α : Type}

def answers (mayFail : ℕ → Bool) (connection : ℕ) : Except IoError α → Bool
  | .ok _ => true
  | .error _ => mayFail connection

def afterOperation (call : Call) : Except IoError α → Phase α
  | .ok value => .returned false (.ok value)
  | .error e => if isConnectionError e then .locking call else .returned false (.error e)

def check (s : ClientConnection) (call : Call) : ClientConnection × Phase α :=
  if s.connectionId ≠ call.oldConnId then (s.unlock, .reloading) else (s, .throttling call)

def throttle (s : ClientConnection) (call : Call) : ClientConnection × Phase α :=
  match s.lastAttempt with
  | some last =>
    let elapsed := s.now - last
    if elapsed < s.backoff then (s.unlock, .sleeping (s.now + (s.backoff - elapsed)))
    else (s, .attempting call)
  | none => (s, .attempting call)

def attempt (s : ClientConnection) : ClientConnection :=
  { s with lastAttempt := some s.now, reconnectAttempts := s.reconnectAttempts + 1 }

def afterRebind (s : ClientConnection) (call : Call) (nanos : Fin 1000000000) :
    Except IoError Unit → ClientConnection × Phase α
  | .ok _ => (s, .authenticating call)
  | .error e => ((s.backOff nanos).unlock, .returned true (.error e))

def afterAuthenticate (s : ClientConnection) (nanos : Fin 1000000000) :
    Except IoError Unit → ClientConnection × Phase α
  | .ok _ =>
    ({ s with
        backoff := initialReconnectBackoff, lastAttempt := none, established := s.established + 1 },
      .storing (s.established + 1))
  | .error e => ((s.backOff nanos).unlock, .returned true (.error e))

def increment (s : ClientConnection) : ClientConnection :=
  { s with
    connectionId := s.connectionId + 1, reconnectSucceeded := s.reconnectSucceeded + 1,
    reconnectLock := none }

def cancel (s : ClientConnection) : Phase α → Option (ClientConnection × Phase α)
  | .operating _ | .locking _ | .sleeping _ | .retrying _ => some (s, .idle)
  | .rebinding _ | .authenticating _ => some (s.unlock, .idle)
  | _ => none

def taskStep (mayFail : ℕ → Bool) (t : ℕ) (s : ClientConnection) :
    Phase α → Action α → Option (ClientConnection × Phase α)
  | .idle, .load => some (s, .loaded s.connection)
  | .returned _ _, .load => some (s, .loaded s.connection)
  | .loaded connection, .loadId => some (s, .operating ⟨connection, s.connectionId⟩)
  | .operating call, .operation result =>
    if answers mayFail call.connection result then some (s, afterOperation call result) else none
  | .locking call, .lock =>
    if s.reconnectLock = none then some ({ s with reconnectLock := some t }, .checking call)
    else none
  | .checking call, .check => some (check s call)
  | .throttling call, .throttle => some (throttle s call)
  | .sleeping until', .wake =>
    if until' ≤ s.now then some (s, .returned true (.error throttled)) else none
  | .attempting call, .attempt => some (attempt s, .rebinding call)
  | .rebinding call, .rebind result nanos => some (afterRebind s call nanos result)
  | .authenticating _, .authenticate result nanos => some (afterAuthenticate s nanos result)
  | .storing connection, .store => some ({ s with connection }, .incrementing)
  | .incrementing, .increment => some (increment s, .reloading)
  | .reloading, .reload => some (s, .retrying s.connection)
  | .retrying connection, .retry result =>
    if answers mayFail connection result then some (s, .returned true result) else none
  | phase, .cancel => cancel s phase
  | _, _ => none

def elapse (s : ClientConnection) (duration : ℚ) : Option ClientConnection :=
  if 0 ≤ duration then some { s with now := s.now + duration } else none

/-- `mayFail` says which connections may fail their operations. -/
def client (α : Type) (mayFail : ℕ → Bool) :
    Program ClientConnection (Phase α) (Action α) ℚ where
  shared := .new
  phase := .idle
  step := taskStep mayFail
  world := elapse

/-- The phases that a call comes to in `reconnect` and after it. -/
def Phase.later : Phase α → Bool
  | .loaded _ | .operating _ | .returned false _ => false
  | _ => true

/-- How the phases before `reconnect` are entered, and how a call returns without it. -/
structure Begins (s : ClientConnection) (p : Phase α) (action : Action α) (next : Phase α) :
    Prop where
  loaded : ∀ connection, next = .loaded connection →
    action = .load ∧ connection = s.connection
  operating : ∀ call, next = .operating call → action = .loadId ∧ p = .loaded call.connection
  returned : ∀ result, next = .returned false result →
    ∃ call, action = .operation result ∧ p = .operating call ∧ next = afterOperation call result

theorem Begins.of_later {s : ClientConnection} {p next : Phase α} {action : Action α}
    (later : next.later = true) : Begins s p action next := by
  constructor <;> rintro _ rfl <;> cases later

theorem Begins.afterOperation (s : ClientConnection) (call : Call) (result : Except IoError α) :
    Begins s (.operating call) (.operation result) (afterOperation call result) := by
  cases result with
  | ok value =>
    refine ⟨by simp [ClientReconnect.afterOperation], by simp [ClientReconnect.afterOperation], ?_⟩
    intro result same
    cases same
    exact ⟨call, rfl, rfl, rfl⟩
  | error e =>
    by_cases lost : isConnectionError e
    · refine .of_later ?_
      simp [ClientReconnect.afterOperation, lost, Phase.later]
    · have direct : ClientReconnect.afterOperation (α := α) call (.error e) =
          .returned false (.error e) := by simp [ClientReconnect.afterOperation, lost]
      rw [direct]
      refine ⟨by simp, by simp, ?_⟩
      intro result same
      cases same
      exact ⟨call, rfl, rfl, direct.symm⟩

theorem check_later (s : ClientConnection) (call : Call) :
    (check (α := α) s call).2.later = true := by
  unfold check
  split_ifs <;> rfl

theorem throttle_later (s : ClientConnection) (call : Call) :
    (throttle (α := α) s call).2.later = true := by
  unfold throttle
  split
  · dsimp only
    split_ifs <;> rfl
  · rfl

theorem cancel_later {s : ClientConnection} {p : Phase α} {next : ClientConnection × Phase α}
    (h : cancel s p = some next) : next.2.later = true := by
  unfold cancel at h
  split at h <;> cases h <;> rfl

theorem taskStep_begins {mayFail : ℕ → Bool} {t : ℕ} {s : ClientConnection} {p : Phase α}
    {action : Action α} {next : ClientConnection × Phase α}
    (h : taskStep mayFail t s p action = some next) : Begins s p action next.2 := by
  unfold taskStep at h
  split at h
  · obtain rfl := Option.some.inj h
    exact ⟨fun _ same => ⟨rfl, (Phase.loaded.inj same).symm⟩, by simp, by simp⟩
  · obtain rfl := Option.some.inj h
    exact ⟨fun _ same => ⟨rfl, (Phase.loaded.inj same).symm⟩, by simp, by simp⟩
  · obtain rfl := Option.some.inj h
    exact ⟨by simp, fun call same => ⟨rfl, by rw [← Phase.operating.inj same]⟩, by simp⟩
  · split_ifs at h
    obtain rfl := Option.some.inj h
    exact .afterOperation s _ _
  · split_ifs at h
    obtain rfl := Option.some.inj h
    exact .of_later rfl
  · obtain rfl := Option.some.inj h
    exact .of_later (check_later s _)
  · obtain rfl := Option.some.inj h
    exact .of_later (throttle_later s _)
  · split_ifs at h
    obtain rfl := Option.some.inj h
    exact .of_later rfl
  · obtain rfl := Option.some.inj h
    exact .of_later rfl
  · rename_i result nanos
    obtain rfl := Option.some.inj h
    exact .of_later (by cases result <;> rfl)
  · rename_i result nanos
    obtain rfl := Option.some.inj h
    exact .of_later (by cases result <;> rfl)
  · obtain rfl := Option.some.inj h
    exact .of_later rfl
  · obtain rfl := Option.some.inj h
    exact .of_later rfl
  · obtain rfl := Option.some.inj h
    exact .of_later rfl
  · split_ifs at h
    obtain rfl := Option.some.inj h
    exact .of_later rfl
  · exact .of_later (cancel_later h)
  · cases h

theorem taskStep_operation {mayFail : ℕ → Bool} {t : ℕ} {s : ClientConnection} {call : Call}
    {result : Except IoError α} {next : ClientConnection × Phase α}
    (h : taskStep mayFail t s (.operating call) (.operation result) = some next) :
    next = (s, afterOperation call result) := by
  simp only [taskStep] at h
  split_ifs at h
  exact (Option.some.inj h).symm

/-! ## One lost connection -/

def onlyInitial (connection : ℕ) : Bool := connection == 0

/-- No reconnect is between its store and its increment. -/
def Settled (s : ClientConnection) : Prop :=
  s.connectionId = s.established.toUInt64 ∧ s.connection = s.established

/-- Before the first reconnect there is one connection to use and one id to read. -/
def Fresh (s : ClientConnection) (call : Call) : Prop := s.established = 0 → call = ⟨0, 0⟩

/-- In the critical section, on account of a failure of the initial connection. -/
structure Locked (t : ℕ) (s : ClientConnection) (call : Call) : Prop where
  holder : s.reconnectLock = some t
  settled : Settled s
  failed : call.connection = 0
  fresh : Fresh s call

structure Passed (t : ℕ) (s : ClientConnection) (call : Call) : Prop extends Locked t s call where
  passed : s.connectionId = call.oldConnId

structure Midway (t : ℕ) (s : ClientConnection) (connection : ℕ) : Prop where
  holder : s.reconnectLock = some t
  established : s.established = 1
  connectionId : s.connectionId = 0
  connection : s.connection = connection

def Known (t : ℕ) (s : ClientConnection) : Phase α → Prop
  | .loaded connection => s.established = 0 → connection = 0
  | .operating call => Fresh s call
  | .locking call => call.connection = 0 ∧ Fresh s call
  | .checking call => Locked t s call
  | .throttling call | .attempting call | .rebinding call | .authenticating call => Passed t s call
  | .storing connection => Midway t s 0 ∧ connection = 1
  | .incrementing => Midway t s 1
  | _ => True

structure Shared (s : ClientConnection) : Prop where
  once : s.established ≤ 1
  first : s.established = 0 → s.connection = 0 ∧ s.connectionId = 0
  settled : s.reconnectLock = none → Settled s

abbrev OneReconnect : State ClientConnection (Phase α) → Prop := Invariant Shared Known

def SameConnection (call : Call) : Prop := call.oldConnId = call.connection.toUInt64

/-- An authentication that succeeds is that of a task whose two loads saw one connection. -/
def Guarded (s : State ClientConnection (Phase α)) : Event (Action α) ℚ → Prop
  | .task t (.authenticate (.ok _) _) =>
    ∀ call, s.phase t = .authenticating call → SameConnection call
  | _ => True

/-- What a task out of the critical section knows does not depend on the shared state but for
the number of connections. -/
theorem Known.of_other {t u : ℕ} {s s' : ClientConnection} {p : Phase α} (other : u ≠ t)
    (holder : s.reconnectLock = none ∨ s.reconnectLock = some t)
    (grows : s'.established = 0 → s.established = 0) (known : Known u s p) : Known u s' p := by
  have free : s.reconnectLock ≠ some u := by
    rintro own
    rcases holder with none' | held
    · rw [own] at none'
      cases none'
    · rw [own] at held
      exact other (Option.some.inj held)
  cases p with
  | loaded connection => exact fun first => known (grows first)
  | operating call => exact fun first => known (grows first)
  | locking call => exact ⟨known.1, fun first => known.2 (grows first)⟩
  | checking call => exact absurd known.holder free
  | throttling call => exact absurd known.holder free
  | attempting call => exact absurd known.holder free
  | rebinding call => exact absurd known.holder free
  | authenticating call => exact absurd known.holder free
  | storing connection => exact absurd known.1.holder free
  | incrementing => exact absurd known.holder free
  | _ => trivial

theorem Known.elapse {u : ℕ} {s : ClientConnection} {p : Phase α} (now : ℚ)
    (known : Known u s p) : Known u { s with now } p := by
  have locked : ∀ {call}, Locked u s call → Locked u { s with now } call :=
    fun h => ⟨h.holder, h.settled, h.failed, h.fresh⟩
  have passed : ∀ {call}, Passed u s call → Passed u { s with now } call :=
    fun h => ⟨locked h.toLocked, h.passed⟩
  have midway : ∀ {connection}, Midway u s connection → Midway u { s with now } connection :=
    fun h => ⟨h.holder, h.established, h.connectionId, h.connection⟩
  cases p with
  | checking call => exact locked known
  | throttling call => exact passed known
  | attempting call => exact passed known
  | rebinding call => exact passed known
  | authenticating call => exact passed known
  | storing connection => exact ⟨midway known.1, known.2⟩
  | incrementing => exact midway known
  | _ => exact known

section Keep
variable {s : State ClientConnection (Phase α)} {t : ℕ}

/-- A step in the critical section that establishes no connection. -/
theorem OneReconnect.inside (inv : OneReconnect s) {s' : ClientConnection} {p : Phase α}
    (holder : s.shared.reconnectLock = some t) (same : s'.established = s.shared.established)
    (first : s'.established = 0 → s'.connection = 0 ∧ s'.connectionId = 0)
    (settled : s'.reconnectLock = none → Settled s') (own : Known t s' p) :
    OneReconnect (s.move t (s', p)) := by
  refine inv.move ⟨?_, first, settled⟩ own ?_
  · rw [same]
    exact inv.shared.once
  · intro u q other known
    exact known.of_other other (.inr holder) fun none' => by rwa [same] at none'

theorem OneReconnect.unlock (inv : OneReconnect s) {s' : ClientConnection} {p : Phase α}
    (holder : s.shared.reconnectLock = some t) (settled : Settled s.shared)
    (same : s'.connectionId = s.shared.connectionId ∧ s'.connection = s.shared.connection ∧
      s'.established = s.shared.established) (own : Known t s' p) :
    OneReconnect (s.move t (s', p)) := by
  refine inv.inside holder same.2.2 ?_ ?_ own
  · rw [same.1, same.2.1, same.2.2]
    exact inv.shared.first
  · intro _
    rw [Settled, same.1, same.2.1, same.2.2]
    exact settled

theorem OneReconnect.check (inv : OneReconnect s) {call : Call} (locked : Locked t s.shared call) :
    OneReconnect (s.move t (check s.shared call)) := by
  unfold ClientReconnect.check
  split_ifs with changed
  · exact inv.unlock locked.holder locked.settled ⟨rfl, rfl, rfl⟩ trivial
  · exact inv.stay (t := t) ⟨locked, not_not.1 changed⟩

theorem OneReconnect.throttle (inv : OneReconnect s) {call : Call}
    (passed : Passed t s.shared call) : OneReconnect (s.move t (throttle s.shared call)) := by
  unfold ClientReconnect.throttle
  split
  · dsimp only
    split_ifs
    · exact inv.unlock passed.holder passed.settled ⟨rfl, rfl, rfl⟩ trivial
    · exact inv.stay (t := t) passed
  · exact inv.stay (t := t) passed

theorem OneReconnect.afterRebind (inv : OneReconnect s) {call : Call}
    (passed : Passed t s.shared call) (result : Except IoError Unit) (nanos : Fin 1000000000) :
    OneReconnect (s.move t (afterRebind s.shared call nanos result)) := by
  cases result with
  | ok value => exact inv.stay (t := t) passed
  | error e => exact inv.unlock passed.holder passed.settled ⟨rfl, rfl, rfl⟩ trivial

/-- The task that authenticates holds the id of the initial connection, so nobody reconnected. -/
theorem Passed.first {s : ClientConnection} {call : Call} (passed : Passed t s call)
    (once : s.established ≤ 1) (same : SameConnection call) : s.established = 0 := by
  have id := passed.settled.1
  rw [passed.passed, same, passed.failed] at id
  by_contra later
  have one : s.established = 1 := by omega
  rw [one] at id
  cases id

theorem OneReconnect.afterAuthenticate (inv : OneReconnect s) {call : Call}
    (passed : Passed t s.shared call) (nanos : Fin 1000000000) {result : Except IoError Unit}
    (same : ∀ value, result = .ok value → SameConnection call) :
    OneReconnect (s.move t (afterAuthenticate s.shared nanos result)) := by
  cases result with
  | error e => exact inv.unlock passed.holder passed.settled ⟨rfl, rfl, rfl⟩ trivial
  | ok value =>
    have first := passed.first inv.shared.once (same value rfl)
    obtain ⟨id, connection⟩ := passed.settled
    rw [first] at id connection
    have established : s.shared.established + 1 = 1 := by omega
    refine inv.move ⟨established.le, fun none' => absurd none' (Nat.succ_ne_zero _), ?_⟩
      ⟨⟨passed.holder, established, id, connection⟩, established⟩ ?_
    · intro free
      cases passed.holder.symm.trans free
    · intro u q other known
      exact known.of_other other (.inr passed.holder) fun none' => absurd none' (Nat.succ_ne_zero _)

theorem OneReconnect.store (inv : OneReconnect s) {connection : ℕ}
    (midway : Midway t s.shared 0) (one : connection = 1) :
    OneReconnect (s.move t ({ s.shared with connection }, .incrementing)) := by
  refine inv.inside midway.holder rfl ?_ ?_
    ⟨midway.holder, midway.established, midway.connectionId, one⟩
  · intro none'
    exact absurd (midway.established.symm.trans none') Nat.one_ne_zero
  · intro free
    cases midway.holder.symm.trans free

theorem OneReconnect.increment (inv : OneReconnect s) (midway : Midway t s.shared 1) :
    OneReconnect (s.move t (increment s.shared, .reloading)) := by
  refine inv.inside midway.holder rfl ?_ ?_ trivial
  · intro none'
    exact absurd (midway.established.symm.trans none') Nat.one_ne_zero
  · intro _
    refine ⟨?_, midway.connection.trans midway.established.symm⟩
    change s.shared.connectionId + 1 = s.shared.established.toUInt64
    rw [midway.connectionId, midway.established]
    rfl

theorem OneReconnect.cancel (inv : OneReconnect s) {next : ClientConnection × Phase α}
    (known : Known t s.shared (s.phase t)) (h : cancel s.shared (s.phase t) = some next) :
    OneReconnect (s.move t next) := by
  unfold ClientReconnect.cancel at h
  split at h <;> try cases h
  all_goals rename_i here; rw [here] at known
  · exact inv.stay trivial
  · exact inv.stay trivial
  · exact inv.stay trivial
  · exact inv.stay trivial
  · exact inv.unlock known.holder known.settled ⟨rfl, rfl, rfl⟩ trivial
  · exact inv.unlock known.holder known.settled ⟨rfl, rfl, rfl⟩ trivial

end Keep

theorem OneReconnect.keep_task {s v : State ClientConnection (Phase α)} {t : ℕ}
    {action : Action α} (inv : OneReconnect s) (guard : Guarded s (.task t action))
    (h : (client α onlyInitial).system.step s (.task t action) = some v) : OneReconnect v := by
  obtain ⟨next, taken, rfl⟩ := Program.task_step h
  have known := Invariant.task inv t
  change taskStep onlyInitial t s.shared (s.phase t) action = some next at taken
  unfold taskStep at taken
  split at taken <;> rename_i here
  all_goals first | rw [here] at known | skip
  · obtain rfl := Option.some.inj taken
    exact inv.stay fun none' => (inv.shared.first none').1
  · obtain rfl := Option.some.inj taken
    exact inv.stay fun none' => (inv.shared.first none').1
  · obtain rfl := Option.some.inj taken
    refine inv.stay fun none' => ?_
    rw [known none', (inv.shared.first none').2]
  · rename_i call result
    split_ifs at taken with allowed
    obtain rfl := Option.some.inj taken
    refine inv.stay ?_
    cases result with
    | ok value => trivial
    | error e =>
      unfold afterOperation
      dsimp only
      split_ifs
      · exact ⟨by simpa [answers, onlyInitial] using allowed, known⟩
      · trivial
  · split_ifs at taken with free
    obtain rfl := Option.some.inj taken
    refine inv.move ⟨inv.shared.once, inv.shared.first, fun none' => by cases none'⟩
      ⟨rfl, inv.shared.settled free, known.1, known.2⟩ ?_
    exact fun u q other other_known => other_known.of_other other (.inl free) id
  · obtain rfl := Option.some.inj taken
    exact inv.check known
  · obtain rfl := Option.some.inj taken
    exact inv.throttle known
  · split_ifs at taken
    obtain rfl := Option.some.inj taken
    exact inv.stay trivial
  · obtain rfl := Option.some.inj taken
    refine inv.inside known.holder rfl inv.shared.first inv.shared.settled ?_
    exact ⟨⟨known.holder, known.settled, known.failed, known.fresh⟩, known.passed⟩
  · obtain rfl := Option.some.inj taken
    exact inv.afterRebind known _ _
  · rename_i call result nanos
    obtain rfl := Option.some.inj taken
    refine inv.afterAuthenticate known nanos fun value ok => ?_
    subst ok
    exact guard call here
  · obtain rfl := Option.some.inj taken
    exact inv.store known.1 known.2
  · obtain rfl := Option.some.inj taken
    exact inv.increment known
  · obtain rfl := Option.some.inj taken
    exact inv.stay trivial
  · split_ifs at taken
    obtain rfl := Option.some.inj taken
    exact inv.stay trivial
  · exact inv.cancel (inv.task t) taken
  · cases taken

theorem OneReconnect.keep {s v : State ClientConnection (Phase α)} {e : Event (Action α) ℚ}
    (inv : OneReconnect s) (guard : Guarded s e)
    (h : (client α onlyInitial).system.step s e = some v) : OneReconnect v := by
  cases e with
  | task t action => exact inv.keep_task guard h
  | world duration =>
    obtain ⟨shared, taken, rfl⟩ := Program.world_step h
    change elapse s.shared duration = some shared at taken
    unfold elapse at taken
    split_ifs at taken
    obtain rfl := Option.some.inj taken
    exact inv.world ⟨inv.shared.once, inv.shared.first, inv.shared.settled⟩
      fun u q known => known.elapse _

theorem OneReconnect.initial : OneReconnect (client α onlyInitial).system.initial where
  shared := ⟨Nat.zero_le 1, fun _ => ⟨rfl, rfl⟩, fun _ => ⟨rfl, rfl⟩⟩
  task _ := trivial

/-- A step that does not authenticate with success establishes nothing. -/
theorem established_of_guarded {s v : State ClientConnection (Phase α)} {e : Event (Action α) ℚ}
    (inv : OneReconnect s) (h : (client α onlyInitial).system.step s e = some v) :
    v.shared.established ≤ 1 ↔ Guarded s e := by
  constructor
  · intro once
    cases e with
    | world duration => trivial
    | task t action =>
      cases action <;> try trivial
      rename_i result nanos
      cases result with
      | error e => trivial
      | ok value =>
        intro call here
        obtain ⟨next, taken, rfl⟩ := Program.task_step h
        change taskStep onlyInitial t s.shared (s.phase t) _ = some next at taken
        rw [here] at taken
        obtain rfl := Option.some.inj taken
        have known := Invariant.task inv t
        rw [here] at known
        have first : s.shared.established = 0 := by
          change s.shared.established + 1 ≤ 1 at once
          omega
        obtain rfl := known.fresh first
        rfl
  · intro guard
    exact (inv.keep guard h).shared.once

/-- At most one `authenticate` of `reconnect` succeeds, whatever the tasks and their order, as
long as every one that does is made by a task that read the id of the connection it used; and no
longer. -/
theorem reconnects_once_iff (α : Type) (es : List (Event (Action α) ℚ)) :
    (∀ s, Visits (client α onlyInitial).system es s → s.shared.established ≤ 1) ↔
    ∀ s e v, Takes (client α onlyInitial).system es s e v → Guarded s e :=
  safe_iff_guarded (I := OneReconnect) .initial (Nat.zero_le 1)
    (fun _ _ _ inv guard h => inv.keep guard h)
    (fun _ _ _ inv _ h => established_of_guarded inv h)

/-- Task 0 loads the initial connection before task 1 has reconnected, and the id afterwards. -/
def twoReconnects : List (Event (Action Unit) ℚ) :=
  let reset : IoError := ⟨.connectionReset, "connection lost"⟩
  let reconnect (t : ℕ) : List (Event (Action Unit) ℚ) :=
    [.task t .loadId, .task t (.operation (.error reset)), .task t .lock, .task t .check,
      .task t .throttle, .task t .attempt, .task t (.rebind (.ok ()) 0),
      .task t (.authenticate (.ok ()) 0), .task t .store, .task t .increment]
  .task 0 .load :: .task 1 .load :: (reconnect 1 ++ reconnect 0)

theorem not_reconnects_once : ¬∀ es s, Runs (client Unit onlyInitial).system es s →
    s.shared.established ≤ 1 := by
  intro once
  have bad : ∃ s, exec (client Unit onlyInitial).system twoReconnects = some s ∧
      s.shared.established = 2 := ⟨_, rfl, rfl⟩
  obtain ⟨s, ran, two⟩ := bad
  have one := once _ s (runs_of_exec ran)
  omega

end Ombrac.ClientReconnect
