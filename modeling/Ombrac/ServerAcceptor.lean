import Ombrac.ListUpdates
import Ombrac.ServerHandshake
import Ombrac.ServerLimits

set_option autoImplicit false

/-!
# The acceptor and its connection permits

A connection is handed to a task of its own together with one of `max_connections` permits, and
the permit comes back when `process_connection` returns. What can move a connection that has not
been authenticated is either the peer, the end of the QUIC connection, or a timer of the server.
-/
namespace Ombrac.ServerAcceptor
open LabelledSystem ListUpdates ProtocolPacket ProtocolMessage ServerHandshake

structure Acceptor (server : Server) (α : Type) where
  semaphore : Semaphore ℕ
  connections : List (Connection server α)
  connectionsAccepted : UInt64
  connectionsRejected : UInt64

inductive AcceptorEvent where
  | accept (result : Except IoError Unit)
  | connection (i : ℕ) (e : Event)
  | dropPermit (i : ℕ)

section System
variable {server : Server} {α : Type}

def withConfig (config : ServerLimits.ConnectionConfig) : Acceptor server α where
  semaphore := .new config.connections
  connections := []
  connectionsAccepted := 0
  connectionsRejected := 0

def handleIncomingConnection (a : Acceptor server α) : Except IoError Unit → Acceptor server α
  | .ok () =>
    match a.semaphore.tryAcquire a.connections.length with
    | some semaphore => { a with
        semaphore := semaphore
        connections := a.connections ++ [.new]
        connectionsAccepted := a.connectionsAccepted + 1 }
    | none => { a with connectionsRejected := a.connectionsRejected + 1 }
  | .error _ => a

def hasEnded (c : Connection server α) : Bool :=
  match c.stage with
  | .ended _ => true
  | _ => false

def acceptorStep (authenticator : Authenticator α) (a : Acceptor server α) :
    AcceptorEvent → Option (Acceptor server α)
  | .accept result => some (handleIncomingConnection a result)
  | .connection i e => a.connections[i]?.bind fun c =>
    (connectionStep authenticator c e).map fun c => { a with connections := a.connections.set i c }
  | .dropPermit i =>
    if (a.connections[i]?).any hasEnded then
      (a.semaphore.release i).map fun semaphore => { a with semaphore := semaphore }
    else none

end System

def acceptorSystem {α : Type} (server : Server) (authenticator : Authenticator α)
    (config : ServerLimits.ConnectionConfig) : System (Acceptor server α) AcceptorEvent :=
  ⟨withConfig config, acceptorStep authenticator⟩

/-! ## Permits and connections -/

section Permits
variable {server : Server} {α : Type} {authenticator : Authenticator α}
  {config : ServerLimits.ConnectionConfig} {a b : Acceptor server α}

/-- Every connection is a run of `handle`, and holds a permit unless that run has ended. -/
structure Permitted (authenticator : Authenticator α) (config : ServerLimits.ConnectionConfig)
    (a : Acceptor server α) : Prop where
  runs : ∀ (i : ℕ) (c : Connection server α), a.connections[i]? = some c →
    ∃ es, Runs (connectionSystem server authenticator) es c
  total : a.semaphore.total = config.connections
  distinct : a.semaphore.holding.Nodup
  known : ∀ i ∈ a.semaphore.holding, i < a.connections.length
  held : ∀ (i : ℕ) (c : Connection server α), a.connections[i]? = some c → hasEnded c = false →
    i ∈ a.semaphore.holding

theorem permitted_withConfig :
    Permitted authenticator config (withConfig config : Acceptor server α) where
  runs i c there := by cases there
  total := rfl
  distinct := List.nodup_nil
  known i member := by cases member
  held i c there := by cases there

theorem accept_permitted (inv : Permitted authenticator config a) (result : Except IoError Unit) :
    Permitted authenticator config (handleIncomingConnection a result) := by
  cases result with
  | error e => exact inv
  | ok _ =>
    simp only [handleIncomingConnection]
    cases taken : a.semaphore.tryAcquire a.connections.length with
    | none => exact ⟨inv.runs, inv.total, inv.distinct, inv.known, inv.held⟩
    | some semaphore =>
      have holding := Semaphore.holding_tryAcquire taken
      have fresh : a.connections.length ∉ a.semaphore.holding :=
        fun member => (inv.known _ member).false
      refine ⟨?_, (Semaphore.total_tryAcquire taken).trans inv.total, ?_, ?_, ?_⟩
      · intro i c there
        rcases getElem?_concat_eq_some there with old | ⟨_, rfl⟩
        · exact inv.runs i c old
        · exact ⟨[], .initial⟩
      · rw [holding, ← List.concat_eq_append]
        exact inv.distinct.concat fresh
      · intro i member
        rw [holding, List.mem_append, List.mem_singleton] at member
        rw [List.length_append, List.length_singleton]
        rcases member with old | rfl
        · exact Nat.lt_succ_of_lt (inv.known i old)
        · exact Nat.lt_succ_self _
      · intro i c there running
        rw [holding, List.mem_append, List.mem_singleton]
        rcases getElem?_concat_eq_some there with old | ⟨last, _⟩
        · exact .inl (inv.held i c old running)
        · exact .inr last

theorem hasEnded_iff {c : Connection server α} :
    hasEnded c = true ↔ ∃ result, c.stage = .ended result := by
  unfold hasEnded
  split
  · rename_i result stage
    exact iff_of_true rfl ⟨result, stage⟩
  · rename_i other
    exact iff_of_false (fun impossible => nomatch impossible) fun ⟨result, stage⟩ =>
      other result stage

/-- `handle` has returned for good. -/
theorem hasEnded_step {c d : Connection server α} {e : Event}
    (h : connectionStep authenticator c e = some d) (ended : hasEnded c = true) :
    hasEnded d = true := by
  obtain ⟨result, stage⟩ := hasEnded_iff.1 ended
  cases e with
  | peer e => exact hasEnded_iff.2 ⟨result, (peerStep_frame h).stage.trans stage⟩
  | tunnel e => exact hasEnded_iff.2 ⟨result, (tunnelStep_frame h).1.stage.trans stage⟩
  | handle e =>
    have disabled : handleStep authenticator c e = none := by
      cases e <;> simp only [handleStep, stage]
    cases disabled.symm.trans h

theorem acceptorStep_permitted (inv : Permitted authenticator config a) {e : AcceptorEvent}
    (h : acceptorStep authenticator a e = some b) : Permitted authenticator config b := by
  cases e with
  | accept result =>
    obtain rfl := Option.some.inj h
    exact accept_permitted inv result
  | connection i e =>
    obtain ⟨c, there, h⟩ := Option.bind_eq_some_iff.1 h
    obtain ⟨d, step, rfl⟩ := Option.map_eq_some_iff.1 h
    refine ⟨?_, inv.total, inv.distinct, ?_, ?_⟩
    · intro j x found
      rw [List.getElem?_set] at found
      split_ifs at found with same bound
      · subst same
        obtain rfl := Option.some.inj found
        obtain ⟨es, run⟩ := inv.runs i c there
        exact ⟨es ++ [e], run.next step⟩
      · exact inv.runs j x found
    · intro j member
      rw [List.length_set]
      exact inv.known j member
    · intro j x found running
      rw [List.getElem?_set] at found
      split_ifs at found with same bound
      · subst same
        obtain rfl := Option.some.inj found
        refine inv.held i c there ?_
        by_contra ended
        rw [hasEnded_step step (by simpa using ended)] at running
        cases running
      · exact inv.held j x found running
  | dropPermit i =>
    simp only [acceptorStep] at h
    split_ifs at h with ended
    obtain ⟨semaphore, released, rfl⟩ := Option.map_eq_some_iff.1 h
    obtain ⟨held, holding⟩ := Semaphore.holding_release released
    refine ⟨inv.runs, (Semaphore.total_release released).trans inv.total, ?_, ?_, ?_⟩
    · exact holding ▸ inv.distinct.erase i
    · intro j member
      exact inv.known j (List.mem_of_mem_erase (holding ▸ member))
    · intro j c there running
      have other : j ≠ i := by
        rintro rfl
        rw [there, Option.any_some, running] at ended
        cases ended
      exact holding ▸ (List.mem_erase_of_ne other).2 (inv.held j c there running)

theorem acceptor_permitted {es : List AcceptorEvent}
    (run : Runs (acceptorSystem server authenticator config) es a) :
    Permitted authenticator config a :=
  run.invariant permitted_withConfig fun _ _ _ inv step => acceptorStep_permitted inv step

/-- A connection's own steps, taken inside the acceptor. -/
theorem execFrom_connection {c d : Connection server α} {i : ℕ} {es : List Event}
    (there : a.connections[i]? = some c)
    (h : execFrom (connectionSystem server authenticator) c es = some d) :
    execFrom (acceptorSystem server authenticator config) a (es.map (.connection i)) =
      some { a with connections := a.connections.set i d } := by
  induction es generalizing a c with
  | nil =>
    obtain rfl := Option.some.inj h
    obtain ⟨bound, rfl⟩ := List.getElem?_eq_some_iff.1 there
    rw [List.set_getElem_self bound]
    rfl
  | cons e es ih =>
    obtain ⟨x, step, rest⟩ := Option.bind_eq_some_iff.1 h
    have bound := (List.getElem?_eq_some_iff.1 there).1
    have outer : (acceptorSystem server authenticator config).step a (.connection i e) =
        some { a with connections := a.connections.set i x } := by
      have inner : connectionStep authenticator c e = some x := step
      simp only [acceptorSystem, acceptorStep, there, Option.bind_some, inner, Option.map_some]
    rw [List.map_cons, execFrom_step outer,
      ih (a := { a with connections := a.connections.set i x })
        (List.getElem?_set_self bound) rest]
    simp only [List.set_set]

end Permits

/-! ## Silent peers -/

section Silence
variable {server : Server} {α : Type} {authenticator : Authenticator α}
  {config : ServerLimits.ConnectionConfig} {a b : Acceptor server α}

/-- `perform_authentication` has not returned `Ok`. -/
def Unauthenticated (c : Connection server α) : Prop :=
  match c.stage with
  | .notifying _ | .tunnel | .ended (.ok _) => False
  | _ => True

/-- The steps of `handle` that need neither the peer nor the end of the connection: its timers,
the close of its own side of a stream, and the accept of a stream that the peer has opened. -/
def Unassisted : HandleEvent → Prop
  | .timeOut | .sleep _ | .shutDown | .accept (.ok _) => True
  | _ => False

def AcceptorEvent.Unassisted : AcceptorEvent → Prop
  | .connection _ (.handle e) => ServerAcceptor.Unassisted e
  | .dropPermit _ => True
  | _ => False

/-- Steps of this kind alone end `handle` with an error and give the permit back. -/
def FreesPermit (authenticator : Authenticator α) (config : ServerLimits.ConnectionConfig)
    (a : Acceptor server α) (i : ℕ) : Prop :=
  ∃ es b c, (∀ e ∈ es, AcceptorEvent.Unassisted e) ∧
    execFrom (acceptorSystem server authenticator config) a es = some b ∧
    b.connections[i]? = some c ∧ (∃ error, c.stage = .ended (.error error)) ∧
    i ∉ b.semaphore.holding

def Fails (authenticator : Authenticator α) (c : Connection server α) : Prop :=
  ∃ es d, (∀ e ∈ es, ∃ x, e = .handle x ∧ Unassisted x) ∧
    execFrom (connectionSystem server authenticator) c es = some d ∧
    ∃ error, d.stage = .ended (.error error)

theorem Fails.step {c d : Connection server α} (rest : Fails authenticator d) {e : HandleEvent}
    (h : handleStep authenticator c e = some d) (unassisted : Unassisted e) :
    Fails authenticator c := by
  obtain ⟨es, last, all, run, failed⟩ := rest
  refine ⟨.handle e :: es, last, ?_, ?_, failed⟩
  · rw [List.forall_mem_cons]
    exact ⟨⟨e, rfl, unassisted⟩, all⟩
  · rw [execFrom_step (show (connectionSystem server authenticator).step c (.handle e) = some d
      from h)]
    exact run

theorem fails_ended {c : Connection server α} {error : IoError}
    (stage : c.stage = .ended (.error error)) : Fails authenticator c :=
  ⟨[], c, by simp, rfl, error, stage⟩

theorem fails_readingHello {c : Connection server α} {control : ℕ}
    {framed : LengthDelimited.Framed server.decoder}
    (stage : c.stage = .readingHello control framed) : Fails authenticator c := by
  have step : ∃ d error, handleStep authenticator c .timeOut = some d ∧
      d.stage = .ended (.error error) := by
    simp only [handleStep, stage]
    exact ⟨_, _, rfl, rfl⟩
  obtain ⟨d, error, step, ended⟩ := step
  exact (fails_ended ended).step step trivial

theorem fails_shuttingDown {c : Connection server α} {error : IoError}
    (stage : c.stage = .shuttingDown error) : Fails authenticator c := by
  have step : handleStep authenticator c .shutDown =
      some ((c.act .shutDown).finish (.error error)) := by
    simp only [handleStep, stage]
  exact (fails_ended rfl).step step trivial

theorem fails_of_stage {c : Connection server α} (waiting : Unauthenticated c)
    (opened : c.stage = .accepting → c.accepted < c.streams.length) :
    Fails authenticator c := by
  unfold Unauthenticated at waiting
  cases stage : c.stage with
  | accepting =>
    have step : handleStep authenticator c (.accept (.ok ())) =
        some ({ c with accepted := c.accepted + 1 }.goto (.readingHello c.accepted .new)) := by
      simp only [handleStep, stage, if_pos (opened stage)]
    exact (fails_readingHello rfl).step step trivial
  | readingHello control framed => exact fails_readingHello stage
  | rejecting error =>
    have step : handleStep authenticator c (.sleep 100) =
        some ((c.act (.slept 100)).goto (.shuttingDown error)) := by
      simp only [handleStep, stage]
      rfl
    exact (fails_shuttingDown rfl).step step trivial
  | shuttingDown error => exact fails_shuttingDown stage
  | verifying hello =>
    have step : ∃ d error, handleStep authenticator c .timeOut = some d ∧
        d.stage = .ended (.error error) := by
      simp only [handleStep, stage]
      exact ⟨_, _, rfl, rfl⟩
    obtain ⟨d, error, step, ended⟩ := step
    exact (fails_ended ended).step step trivial
  | sendingOk context rest =>
    have step : ∃ d error, handleStep authenticator c .timeOut = some d ∧
        d.stage = .ended (.error error) := by
      simp only [handleStep, stage]
      exact ⟨_, _, rfl, rfl⟩
    obtain ⟨d, error, step, ended⟩ := step
    exact (fails_ended ended).step step trivial
  | notifying context | tunnel =>
    rw [stage] at waiting
    exact waiting.elim
  | ended result =>
    cases result with
    | ok _ =>
      rw [stage] at waiting
      exact waiting.elim
    | error error => exact fails_ended stage

theorem dropPermit_step (authenticator : Authenticator α) {c : Connection server α} {i : ℕ} (there : a.connections[i]? = some c)
    (ended : hasEnded c = true) (held : i ∈ a.semaphore.holding) :
    ∃ b, acceptorStep authenticator a (.dropPermit i) = some b ∧
      b.connections = a.connections ∧
      b.semaphore.holding = a.semaphore.holding.erase i := by
  simp only [acceptorStep, there, Option.any_some, ended, if_true, Semaphore.release,
    if_pos held, Option.map_some]
  exact ⟨_, rfl, rfl, rfl⟩

/-- The permit comes back as soon as `handle` has returned. -/
theorem freesPermit_of_fails (inv : Permitted authenticator config a) {c : Connection server α}
    {i : ℕ} (there : a.connections[i]? = some c) (fails : Fails authenticator c) :
    FreesPermit authenticator config a i := by
  obtain ⟨es, d, all, run, error, ended⟩ := fails
  have bound := (List.getElem?_eq_some_iff.1 there).1
  have found : (a.connections.set i d)[i]? = some d := List.getElem?_set_self bound
  have outer : execFrom (acceptorSystem server authenticator config) a
      (es.map (.connection i)) = some { a with connections := a.connections.set i d } :=
    execFrom_connection there run
  have unassisted : ∀ e ∈ es.map (AcceptorEvent.connection i), AcceptorEvent.Unassisted e := by
    intro e member
    obtain ⟨x, inside, rfl⟩ := List.mem_map.1 member
    obtain ⟨y, rfl, own⟩ := all x inside
    exact own
  by_cases held : i ∈ a.semaphore.holding
  · obtain ⟨b, drop, connections, holding⟩ := dropPermit_step authenticator
      (a := { a with connections := a.connections.set i d }) found (hasEnded_iff.2 ⟨_, ended⟩) held
    refine ⟨es.map (.connection i) ++ [.dropPermit i], b, d, ?_, ?_, connections ▸ found,
      ⟨error, ended⟩, holding ▸ inv.distinct.not_mem_erase⟩
    · rw [List.forall_mem_append, List.forall_mem_singleton]
      exact ⟨unassisted, trivial⟩
    · have step : (acceptorSystem server authenticator config).step
          { a with connections := a.connections.set i d } (.dropPermit i) = some b := drop
      rw [execFrom_append, outer, Option.bind_some, execFrom_step step]
      rfl
  · exact ⟨_, _, d, unassisted, outer, found, ⟨error, ended⟩, held⟩

/-- Connection `i` waits for a stream that its peer has not opened. -/
def Silent (a : Acceptor server α) (i : ℕ) : Prop :=
  ∃ c, a.connections[i]? = some c ∧ c.stage = .accepting ∧ c.streams = []

theorem silent_step {i : ℕ} (silent : Silent a i) {e : AcceptorEvent}
    (unassisted : AcceptorEvent.Unassisted e) (h : acceptorStep authenticator a e = some b) :
    Silent b i := by
  obtain ⟨c, there, stage, streams⟩ := silent
  cases e with
  | accept result => exact unassisted.elim
  | dropPermit j =>
    simp only [acceptorStep] at h
    split_ifs at h
    obtain ⟨semaphore, _, rfl⟩ := Option.map_eq_some_iff.1 h
    exact ⟨c, there, stage, streams⟩
  | connection j e =>
    obtain ⟨x, found, h⟩ := Option.bind_eq_some_iff.1 h
    obtain ⟨d, step, rfl⟩ := Option.map_eq_some_iff.1 h
    by_cases same : i = j
    · subst same
      obtain rfl := Option.some.inj (there.symm.trans found)
      have disabled : connectionStep authenticator c e = none := by
        cases e with
        | handle e =>
          cases e with
          | accept result =>
            cases result with
            | ok _ => simp [connectionStep, handleStep, stage, streams]
            | error _ => exact unassisted.elim
          | timeOut | sleep | shutDown => simp only [connectionStep, handleStep, stage]
          | _ => exact unassisted.elim
        | _ => exact unassisted.elim
      cases disabled.symm.trans step
    · refine ⟨c, ?_, stage, streams⟩
      rw [List.getElem?_set_ne (Ne.symm same)]
      exact there

theorem silent_run {i : ℕ} (silent : Silent a i) {es : List AcceptorEvent}
    (unassisted : ∀ e ∈ es, AcceptorEvent.Unassisted e)
    (h : execFrom (acceptorSystem server authenticator config) a es = some b) : Silent b i := by
  induction es generalizing a with
  | nil =>
    obtain rfl := Option.some.inj h
    exact silent
  | cons e es ih =>
    obtain ⟨u, step, rest⟩ := Option.bind_eq_some_iff.1 h
    rw [List.forall_mem_cons] at unassisted
    exact ih (silent_step silent unassisted.1 step) unassisted.2 rest

theorem not_freesPermit_of_silent {i : ℕ} (silent : Silent a i) :
    ¬ FreesPermit authenticator config a i := by
  rintro ⟨es, b, c, unassisted, run, there, ⟨error, ended⟩, _⟩
  obtain ⟨d, found, stage, _⟩ := silent_run silent unassisted run
  obtain rfl := Option.some.inj (there.symm.trans found)
  cases stage.symm.trans ended

/-- A connection that is not authenticated gives its permit back by timers alone exactly if its
peer has opened a stream: the wait for the control stream has no time-out. -/
theorem freesPermit_iff {es : List AcceptorEvent}
    (run : Runs (acceptorSystem server authenticator config) es a) {i : ℕ}
    {c : Connection server α} (there : a.connections[i]? = some c) (waiting : Unauthenticated c) :
    FreesPermit authenticator config a i ↔ (c.stage = .accepting → c.streams ≠ []) := by
  have inv := acceptor_permitted run
  constructor
  · intro frees stage streams
    exact not_freesPermit_of_silent ⟨c, there, stage, streams⟩ frees
  · intro opened
    refine freesPermit_of_fails inv there (fails_of_stage waiting fun stage => ?_)
    obtain ⟨own, past⟩ := inv.runs i c there
    have knows := (connection_invariant past).knows
    rw [stage] at knows
    rw [knows.2.1]
    exact List.length_pos_iff.2 (opened stage)

end Silence

theorem freesPermit_iff_greeting :
    FreesPermit (secretAuthenticator sevens) ⟨some 1, none, none, none⟩
      ((exec (acceptorSystem helloServer (secretAuthenticator sevens) ⟨some 1, none, none, none⟩)
        [.accept (.ok ()), .connection 0 (.peer .openStream)]).get rfl) 0 :=
  (freesPermit_iff (runs_of_exec (Option.some_get _).symm) (c := { Connection.new with
      streams := [⟨[], false⟩] }) rfl trivial).2 fun _ impossible => nomatch impossible

/-- One connection, whose peer opens no stream. -/
theorem silent_peer_keeps_permit :
    ¬ ∀ (es : List AcceptorEvent) (a : Acceptor helloServer Unit) (i : ℕ)
        (c : Connection helloServer Unit),
      Runs (acceptorSystem helloServer (secretAuthenticator sevens) ⟨none, none, none, none⟩) es a →
      a.connections[i]? = some c → Unauthenticated c →
      FreesPermit (secretAuthenticator sevens) ⟨none, none, none, none⟩ a i := by
  intro frees
  have ran : ∃ a, exec (acceptorSystem helloServer (secretAuthenticator sevens)
      ⟨none, none, none, none⟩) [.accept (.ok ())] = some a ∧ a.connections = [.new] :=
    ⟨_, rfl, rfl⟩
  obtain ⟨a, run, connections⟩ := ran
  have there : a.connections[0]? = some .new := by rw [connections]; rfl
  exact not_freesPermit_of_silent ⟨.new, there, rfl, rfl⟩
    (frees _ a 0 .new (runs_of_exec run) there trivial)

end Ombrac.ServerAcceptor
