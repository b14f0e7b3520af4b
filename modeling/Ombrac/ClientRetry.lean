import Ombrac.ClientReconnect

set_option autoImplicit false

/-!
# Calls on a tunnel that has terminated

A QUIC connection that has terminated fails every later operation with the reason it terminated
for. The reason is turned into an `io::Error` by the transport and judged by `with_retry` from the
kind of that error alone.
-/
namespace Ombrac.ClientRetry
open LabelledSystem SharedTasks ProtocolPacket ClientReconnect

inductive Termination where
  | versionMismatch | transportError | connectionClosed | applicationClosed | reset | timedOut
  | locallyClosed | cidsExhausted
  deriving DecidableEq, Repr

inductive SendDatagramError where
  | unsupportedByPeer | disabled | tooLarge
  | connectionLost (reason : Termination)
  deriving DecidableEq, Repr

inductive ConnectionError where
  | quinnConnection (error : Termination)
  | quinnSendDatagram (error : SendDatagramError)
  deriving DecidableEq, Repr

def ConnectionError.kind : ConnectionError → ErrorKind
  | .quinnConnection error =>
    match error with
    | .locallyClosed | .connectionClosed | .applicationClosed | .reset => .connectionReset
    | .timedOut => .timedOut
    | _ => .other
  | .quinnSendDatagram error =>
    match error with
    | .connectionLost _ => .connectionReset
    | _ => .other

/-- `From<ConnectionError> for io::Error`; `display` is the text of the wrapped error. -/
def ConnectionError.toIoError (display : ConnectionError → String) (e : ConnectionError) :
    IoError :=
  ⟨e.kind, display e⟩

inductive Operation where
  | openBidirectional | readDatagram | sendDatagram
  deriving DecidableEq, Repr

def Operation.lost (reason : Termination) : Operation → ConnectionError
  | .openBidirectional | .readDatagram => .quinnConnection reason
  | .sendDatagram => .quinnSendDatagram (.connectionLost reason)

inductive Answer (α : Type) where
  | value (a : α)
  | refused (error : SendDatagramError)

/-- A connection that is alive may refuse a datagram; it fails nothing else. -/
def respond {α : Type} (terminated : Option Termination) (operation : Operation) :
    Answer α → Option (Except ConnectionError α)
  | answer =>
    match terminated, answer, operation with
    | some reason, _, _ => some (.error (operation.lost reason))
    | none, .value a, _ => some (.ok a)
    | none, .refused (.connectionLost _), _ => none
    | none, .refused error, .sendDatagram => some (.error (.quinnSendDatagram error))
    | none, .refused _, _ => none

/-- The client with the fate of its connections; `late t` tells whether the call of task `t` began
on a connection that had terminated. -/
structure Tunnel (α : Type) where
  client : State ClientConnection (Phase α)
  terminated : ℕ → Option Termination
  late : ℕ → Bool

inductive TunnelEvent (α : Type) where
  | terminate (connection : ℕ) (reason : Termination)
  | operate (t : ℕ) (operation : Operation) (answer : Answer α)
  | load (t : ℕ)
  | other (e : Event (Action α) ℚ)

section Step
variable {α : Type} (display : ConnectionError → String)

def clientStep (s : State ClientConnection (Phase α)) (e : Event (Action α) ℚ) :
    Option (State ClientConnection (Phase α)) :=
  (client α fun _ => true).system.step s e

def mapError (result : Except ConnectionError α) : Except IoError α :=
  match result with
  | .ok a => .ok a
  | .error e => .error (e.toIoError display)

def operate (s : Tunnel α) (t : ℕ) (operation : Operation) (answer : Answer α) :
    Option (State ClientConnection (Phase α)) :=
  match s.client.phase t with
  | .operating call => do
    let result ← respond (s.terminated call.connection) operation answer
    clientStep s.client (.task t (.operation (mapError display result)))
  | .retrying connection => do
    let result ← respond (s.terminated connection) operation answer
    clientStep s.client (.task t (.retry (mapError display result)))
  | _ => none

def between : Event (Action α) ℚ → Bool
  | .task _ (.operation _) | .task _ (.retry _) | .task _ .load => false
  | _ => true

def tunnelStep (s : Tunnel α) : TunnelEvent α → Option (Tunnel α)
  | .terminate connection reason =>
    if connection ≤ s.client.shared.established ∧ s.terminated connection = none then
      some { s with terminated := Function.update s.terminated connection (some reason) }
    else none
  | .operate t operation answer =>
    (operate display s t operation answer).map fun client => { s with client }
  | .load t =>
    (clientStep s.client (.task t .load)).map fun client =>
      { s with
        client
        late := Function.update s.late t (s.terminated s.client.shared.connection).isSome }
  | .other e =>
    if between e then (clientStep s.client e).map fun client => { s with client } else none

def tunnel (α : Type) (display : ConnectionError → String) : System (Tunnel α) (TunnelEvent α) where
  initial := ⟨(client α fun _ => true).system.initial, fun _ => none, fun _ => false⟩
  step := tunnelStep display

end Step
/-! ## Which terminations are recognised -/

/-- Whether `with_retry` reconnects for an operation that failed with this termination. -/
def Recognised : Operation → Termination → Prop
  | .sendDatagram, _ => True
  | _, reason =>
    reason = .locallyClosed ∨ reason = .connectionClosed ∨ reason = .applicationClosed ∨
      reason = .reset ∨ reason = .timedOut

theorem recognised_iff (display : ConnectionError → String) (operation : Operation)
    (reason : Termination) :
    isConnectionError ((operation.lost reason).toIoError display) = true ↔
      Recognised operation reason := by
  cases operation <;> cases reason <;> simp [isConnectionError, ConnectionError.toIoError,
    Operation.lost, ConnectionError.kind, Recognised]

section Late
variable {α : Type} {display : ConnectionError → String}

theorem afterOperation_lost (call : Call) (operation : Operation) (reason : Termination) :
    (∀ result, afterOperation (α := α) call
      (mapError display (.error (operation.lost reason))) ≠ .returned false result) ↔
    Recognised operation reason := by
  rw [← recognised_iff display]
  unfold mapError afterOperation
  dsimp only
  split_ifs with lost
  · simp [lost]
  · simp [lost]

structure OnDead (s : Tunnel α) (t : ℕ) : Prop where
  loaded : ∀ connection, s.client.phase t = .loaded connection →
    (s.terminated connection).isSome
  operating : ∀ call, s.client.phase t = .operating call →
    (s.terminated call.connection).isSome

def LateOnDead (s : Tunnel α) : Prop := ∀ t, s.late t = true → OnDead s t

def NoneGivenUp (s : Tunnel α) : Prop :=
  ∀ t, s.late t = true → ∀ result, s.client.phase t ≠ .returned false result

def Guarded (s : Tunnel α) : TunnelEvent α → Prop
  | .operate t operation _ => s.late t = true → ∀ call, s.client.phase t = .operating call →
    ∀ reason, s.terminated call.connection = some reason → Recognised operation reason
  | _ => True

/-- What a step of the client does to the phases of its tasks. -/
theorem clientStep_begins {s v : State ClientConnection (Phase α)} {e : Event (Action α) ℚ}
    (h : clientStep s e = some v) (t : ℕ) :
    (v.phase t = s.phase t ∧ ∀ action, e ≠ .task t action) ∨
    ∃ action, e = .task t action ∧ Begins s.shared (s.phase t) action (v.phase t) := by
  cases e with
  | world duration =>
    obtain ⟨shared, _, rfl⟩ := Program.world_step h
    exact .inl ⟨rfl, by simp⟩
  | task u action =>
    obtain ⟨next, taken, rfl⟩ := Program.task_step h
    by_cases same : t = u
    · subst same
      refine .inr ⟨action, rfl, ?_⟩
      rw [State.move_phase]
      exact taskStep_begins taken
    · refine .inl ⟨State.move_phase_of_ne s same next, fun action own => ?_⟩
      cases own
      exact same rfl

theorem operate_cases {s : Tunnel α} {t : ℕ} {operation : Operation} {answer : Answer α}
    {v : State ClientConnection (Phase α)} (h : operate display s t operation answer = some v) :
    (∃ call result, s.client.phase t = .operating call ∧
      respond (s.terminated call.connection) operation answer = some result ∧
      clientStep s.client (.task t (.operation (mapError display result))) = some v) ∨
    ∃ connection result, s.client.phase t = .retrying connection ∧
      clientStep s.client (.task t (.retry (mapError display result))) = some v := by
  unfold operate at h
  split at h
  · rename_i call here
    obtain ⟨result, responded, taken⟩ := Option.bind_eq_some_iff.1 h
    exact .inl ⟨call, result, here, responded, taken⟩
  · rename_i connection here
    obtain ⟨result, _, taken⟩ := Option.bind_eq_some_iff.1 h
    exact .inr ⟨connection, result, here, taken⟩
  · cases h

/-- What a step does to one task: nothing, or an action of its own, which sets `late` anew when it
begins a call, and which is the operation's only in `operate`. -/
theorem tunnelStep_task {s v : Tunnel α} {e : TunnelEvent α}
    (h : tunnelStep display s e = some v) (t : ℕ) :
    (v.client.phase t = s.client.phase t ∧ v.late t = s.late t) ∨
    ∃ action, Begins s.client.shared (s.client.phase t) action (v.client.phase t) ∧
      (action = .load → v.late t = (s.terminated s.client.shared.connection).isSome) ∧
      (action ≠ .load → v.late t = s.late t) ∧
      ∀ result, action = .operation result → ∃ operation answer,
        e = .operate t operation answer := by
  cases e with
  | terminate connection reason =>
    simp only [tunnelStep] at h
    split_ifs at h
    obtain rfl := Option.some.inj h
    exact .inl ⟨rfl, rfl⟩
  | load u =>
    obtain ⟨client, taken, rfl⟩ := Option.map_eq_some_iff.1 h
    obtain ⟨same, foreign⟩ | ⟨action, own, begins⟩ := clientStep_begins taken t
    · refine .inl ⟨same, Function.update_of_ne ?_ ..⟩
      rintro rfl
      exact foreign .load rfl
    · cases own
      refine .inr ⟨.load, begins, fun _ => Function.update_self .., fun other => absurd rfl other, ?_⟩
      intro result other
      cases other
  | operate u operation answer =>
    obtain ⟨client, taken, rfl⟩ := Option.map_eq_some_iff.1 h
    have ran : ∃ action, action ≠ .load ∧ clientStep s.client (.task u action) = some client := by
      obtain ⟨call, result, _, _, ran⟩ | ⟨connection, result, _, ran⟩ := operate_cases taken
      · exact ⟨_, by simp, ran⟩
      · exact ⟨_, by simp, ran⟩
    obtain ⟨action, not_load, ran⟩ := ran
    obtain ⟨same, _⟩ | ⟨action', own, begins⟩ := clientStep_begins ran t
    · exact .inl ⟨same, rfl⟩
    · cases own
      exact .inr ⟨action, begins, fun load => absurd load not_load, fun _ => rfl,
        fun _ _ => ⟨operation, answer, rfl⟩⟩
  | other e =>
    simp only [tunnelStep] at h
    split_ifs at h with allowed
    obtain ⟨client, taken, rfl⟩ := Option.map_eq_some_iff.1 h
    obtain ⟨same, _⟩ | ⟨action, rfl, begins⟩ := clientStep_begins taken t
    · exact .inl ⟨same, rfl⟩
    · refine .inr ⟨action, begins, ?_, fun _ => rfl, ?_⟩
      · rintro rfl
        cases allowed
      · rintro result rfl
        cases allowed

theorem tunnelStep_terminated {s v : Tunnel α} {e : TunnelEvent α}
    (h : tunnelStep display s e = some v) {connection : ℕ} {reason : Termination}
    (dead : s.terminated connection = some reason) : v.terminated connection = some reason := by
  cases e with
  | terminate other reason' =>
    simp only [tunnelStep] at h
    split_ifs at h with possible
    obtain rfl := Option.some.inj h
    have different : connection ≠ other := by
      rintro rfl
      rw [dead] at possible
      cases possible.2
    exact (Function.update_of_ne different ..).trans dead
  | load u =>
    obtain ⟨client, _, rfl⟩ := Option.map_eq_some_iff.1 h
    exact dead
  | operate u operation answer =>
    obtain ⟨client, _, rfl⟩ := Option.map_eq_some_iff.1 h
    exact dead
  | other e =>
    simp only [tunnelStep] at h
    split_ifs at h
    obtain ⟨client, _, rfl⟩ := Option.map_eq_some_iff.1 h
    exact dead

theorem OnDead.mono {s v : Tunnel α} {t : ℕ} (dead : OnDead s t)
    (phase : v.client.phase t = s.client.phase t)
    (kept : ∀ {connection reason}, s.terminated connection = some reason →
      v.terminated connection = some reason) : OnDead v t := by
  constructor
  · intro connection here
    rw [phase] at here
    obtain ⟨reason, known⟩ := Option.isSome_iff_exists.1 (dead.loaded connection here)
    rw [kept known]
    rfl
  · intro call here
    rw [phase] at here
    obtain ⟨reason, known⟩ := Option.isSome_iff_exists.1 (dead.operating call here)
    rw [kept known]
    rfl

theorem LateOnDead.keep {s v : Tunnel α} {e : TunnelEvent α} (inv : LateOnDead s)
    (h : tunnelStep display s e = some v) : LateOnDead v := by
  intro t late
  obtain ⟨phase, same⟩ | ⟨action, begins, fresh, old, _⟩ := tunnelStep_task h t
  · rw [same] at late
    exact (inv t late).mono phase (tunnelStep_terminated h)
  · constructor
    · intro connection here
      obtain ⟨load, rfl⟩ := begins.loaded connection here
      rw [fresh load] at late
      obtain ⟨reason, known⟩ := Option.isSome_iff_exists.1 late
      rw [tunnelStep_terminated h known]
      rfl
    · intro call here
      obtain ⟨load, before⟩ := begins.operating call here
      rw [old (by simp [load])] at late
      obtain ⟨reason, known⟩ := Option.isSome_iff_exists.1 ((inv t late).loaded _ before)
      rw [tunnelStep_terminated h known]
      rfl

/-- The phase after an operation on a terminated connection. -/
theorem operate_lost {s : Tunnel α} {t : ℕ} {operation : Operation} {answer : Answer α}
    {v : Tunnel α} (h : tunnelStep display s (.operate t operation answer) = some v) {call : Call}
    (here : s.client.phase t = .operating call) {reason : Termination}
    (dead : s.terminated call.connection = some reason) :
    v.client.phase t =
      afterOperation call (mapError display (.error (operation.lost reason))) ∧
    v.late t = s.late t := by
  obtain ⟨client, taken, rfl⟩ := Option.map_eq_some_iff.1 h
  refine ⟨?_, rfl⟩
  obtain ⟨call', result, here', responded, ran⟩ | ⟨connection, _, here', _⟩ := operate_cases taken
  · obtain rfl := Phase.operating.inj (here.symm.trans here')
    rw [dead] at responded
    obtain rfl := Option.some.inj responded
    obtain ⟨next, moved, rfl⟩ := Program.task_step ran
    rw [here] at moved
    change taskStep (fun _ => true) t s.client.shared (.operating call)
      (.operation (mapError display (.error (operation.lost reason)))) = some next at moved
    obtain rfl := taskStep_operation moved
    exact State.move_phase ..
  · cases here.symm.trans here'

theorem noneGivenUp_iff_guarded {s v : Tunnel α} {e : TunnelEvent α} (inv : LateOnDead s)
    (good : NoneGivenUp s) (h : tunnelStep display s e = some v) :
    NoneGivenUp v ↔ Guarded s e := by
  constructor
  · intro good'
    cases e with
    | operate t operation answer =>
      intro late call here reason dead
      obtain ⟨phase, same⟩ := operate_lost h here dead
      refine (@afterOperation_lost α display call operation reason).1 ?_
      rw [← phase]
      exact good' t (same.trans late)
    | _ => trivial
  · intro guard t late result returned
    obtain ⟨phase, same⟩ | ⟨action, begins, _, old, operated⟩ := tunnelStep_task h t
    · exact good t (same.symm.trans late) result (phase.symm.trans returned)
    · obtain ⟨call, own, here, _⟩ := begins.returned result returned
      obtain ⟨operation, answer, rfl⟩ := operated result own
      rw [old (by simp [own])] at late
      obtain ⟨reason, dead⟩ := Option.isSome_iff_exists.1 ((inv t late).operating call here)
      have recognised := guard late call here reason dead
      have after := (operate_lost h here dead).1
      exact (afterOperation_lost call operation reason).2 recognised result
        (after.symm.trans returned)

end Late

/-- Every call that begins after its connection has terminated comes into `reconnect`, as long as
the operations of such calls fail for a recognised termination; and no longer. -/
theorem late_calls_reconnect_iff (α : Type) (display : ConnectionError → String)
    (es : List (TunnelEvent α)) :
    (∀ s, Visits (tunnel α display) es s → NoneGivenUp s) ↔
    ∀ s e v, Takes (tunnel α display) es s e v → Guarded s e :=
  safe_iff_guarded (I := LateOnDead) (G := NoneGivenUp)
    (fun _ late => Bool.noConfusion late) (fun _ late => Bool.noConfusion late)
    (fun _ _ _ inv _ h => LateOnDead.keep inv h)
    (fun _ _ _ inv good h => noneGivenUp_iff_guarded inv good h)

def transportErrorFirst : List (TunnelEvent Unit) :=
  [.terminate 0 .transportError, .load 0, .other (.task 0 .loadId),
    .operate 0 .openBidirectional (.value ())]

theorem not_late_calls_reconnect : ¬∀ (display : ConnectionError → String) es s,
    Runs (tunnel Unit display) es s → NoneGivenUp s := by
  intro all
  let display : ConnectionError → String := fun _ => "transport error"
  let error : IoError := ⟨.other, "transport error"⟩
  have bad : ∃ s, exec (tunnel Unit display) transportErrorFirst = some s ∧ s.late 0 = true ∧
      s.client.phase 0 = .returned false (.error error) := ⟨_, rfl, rfl, rfl⟩
  obtain ⟨s, ran, late, returned⟩ := bad
  exact all display _ s (runs_of_exec ran) 0 late _ returned

end Ombrac.ClientRetry
