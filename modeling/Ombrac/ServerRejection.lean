import Ombrac.ServerAcceptor

set_option autoImplicit false

/-!
# What a rejected peer sees

The peer of a rejected hello sees the server's actions on the control stream and nothing else. A
wrong version goes through `handle_auth_failure`; a wrong secret ends `perform_authentication` at
the `??` behind `verify`, before any action.
-/
namespace Ombrac.ServerRejection
open LabelledSystem ProtocolPacket ProtocolMessage LengthDelimited ServerHandshake ServerAcceptor

section Reads
variable {server : Server} {α : Type}

def received (c : Connection server α) : Event → Option ClientHello
  | .handle (.read n) =>
    match c.stage with
    | .readingHello control framed =>
      match framed.receive ((c.unread control).take n) with
      | .frame payload _ =>
        match server.decode payload with
        | .ok (.hello hello) => some hello
        | _ => none
      | _ => none
    | _ => none
  | _ => none

def Reads (server : Server) (authenticator : Authenticator α) (es : List Event)
    (hello : ClientHello) : Prop :=
  ∃ u e v, Takes (connectionSystem server authenticator) es u e v ∧ received u e = some hello

end Reads

def Rejected (secret : Secret) (hello : ClientHello) : Prop :=
  hello.version ≠ protocolVersion ∨ hello.secret ≠ secret

def undelayed : Action → Action
  | .slept _ => .slept 0
  | action => action

/-- No frame, a delay in the range of `disconnect_with_random_delay`, and the shutdown. -/
def Delayed (actions : List Action) : Prop :=
  ∃ delayMs, 100 ≤ delayMs ∧ delayMs ≤ 500 ∧ actions = [.slept delayMs, .shutDown]

def UniformlyRejected (actions actions' : List Action) : Prop :=
  Delayed actions ∧ Delayed actions' ∧ actions.map undelayed = actions'.map undelayed

section Fate
variable {server : Server} {secret : Secret} {hello : ClientHello}
  {c d : Connection server Unit}

def Discarded (c : Connection server Unit) : Prop :=
  match c.stage with
  | .rejecting _ => c.actions = []
  | .shuttingDown _ => ∃ delayMs, 100 ≤ delayMs ∧ delayMs ≤ 500 ∧ c.actions = [.slept delayMs]
  | .ended _ => Delayed c.actions
  | _ => False

/-- Where a hello of the right version with a wrong secret takes it. -/
def Denied (hello : ClientHello) (c : Connection server Unit) : Prop :=
  match c.stage with
  | .verifying h => h = hello ∧ c.actions = []
  | .ended _ => c.actions = []
  | _ => False

/-- Only `handle` itself moves the stage and acts on the control stream. -/
theorem step_keeps {authenticator : Authenticator Unit} {P : Connection server Unit → Prop}
    (frame : ∀ c d, d.stage = c.stage → d.actions = c.actions → P c → P d)
    (own : ∀ c e d, P c → handleStep authenticator c e = some d → P d)
    {e : Event} (h : connectionStep authenticator c e = some d) (inv : P c) : P d := by
  cases e with
  | peer e =>
    have same := peerStep_frame h
    exact frame c d same.stage same.actions inv
  | tunnel e =>
    obtain ⟨same, _⟩ := tunnelStep_frame h
    exact frame c d same.stage same.actions inv
  | handle e => exact own c e d inv h

theorem frame_discarded (c d : Connection server Unit) (stage : d.stage = c.stage)
    (actions : d.actions = c.actions) (inv : Discarded c) : Discarded d := by
  unfold Discarded at inv ⊢
  rw [stage, actions]
  exact inv

theorem frame_denied (c d : Connection server Unit) (stage : d.stage = c.stage)
    (actions : d.actions = c.actions) (inv : Denied hello c) : Denied hello d := by
  unfold Denied at inv ⊢
  rw [stage, actions]
  exact inv

theorem readHello_actions (c : Connection server Unit) (control : ℕ)
    (framed : Framed server.decoder) (n : ℕ) :
    (c.readHello control framed n).actions = c.actions := by
  unfold Connection.readHello
  dsimp only
  split
  · rfl
  · unfold Connection.greet
    split
    · rfl
    · rfl
    · split_ifs <;> rfl
  · rfl

/-- The control stream has not been read to the end of a frame. -/
def Early : Stage server Unit → Bool
  | .accepting | .readingHello _ _ => true
  | _ => false

theorem verifyHello_late (authenticator : Authenticator Unit) (c : Connection server Unit)
    (hello : ClientHello) : Early (c.verifyHello authenticator hello).stage = false := by
  unfold Connection.verifyHello
  split
  · rfl
  · split
    · rfl
    · split_ifs <;> rfl

/-- A step that is not beyond the first frame has not been before it, and shows nothing. -/
theorem early_of_handle {authenticator : Authenticator Unit} {e : HandleEvent}
    (h : handleStep authenticator c e = some d) (early : Early d.stage = true) :
    Early c.stage = true ∧ d.actions = c.actions := by
  cases handleStep_handled h with
  | opened accepting _ =>
    rw [accepting]
    exact ⟨rfl, rfl⟩
  | @read n control framed reading _ _ =>
    rw [reading]
    exact ⟨rfl, readHello_actions c control framed n⟩
  | @verified hello _ => cases (verifyHello_late authenticator c hello).symm.trans early
  | failed | wrote | flushed | slept | shutDown | entered | joined => cases early

/-- Nothing is done on the control stream before a frame is complete. -/
theorem untouched_run {authenticator : Authenticator Unit} {es : List Event}
    (run : Runs (connectionSystem server authenticator) es c) (early : Early c.stage = true) :
    c.actions = [] := by
  refine run.invariant (I := fun c => Early c.stage = true → c.actions = []) (fun _ => rfl) ?_
    early
  intro u e v inv step
  refine step_keeps (P := fun c => Early c.stage = true → c.actions = []) ?_ ?_ step inv
  · intro c d stage actions inv early
    rw [stage] at early
    rw [actions]
    exact inv early
  · intro c e d inv step early
    obtain ⟨before, actions⟩ := early_of_handle step early
    rw [actions]
    exact inv before

theorem discarded_handle {authenticator : Authenticator Unit} (c : Connection server Unit)
    (e : HandleEvent) (d : Connection server Unit) (inv : Discarded c)
    (h : handleStep authenticator c e = some d) : Discarded d := by
  unfold Discarded at inv
  split at inv
  · rename_i error stage
    cases e with
    | sleep delayMs =>
      simp only [handleStep, stage] at h
      split_ifs at h with range
      obtain rfl := Option.some.inj h
      refine ⟨delayMs, range.1, range.2, ?_⟩
      simp only [Connection.goto, Connection.act, inv, List.nil_append]
    | _ =>
      simp only [handleStep, stage] at h
      cases h
  · rename_i error stage
    obtain ⟨delayMs, low, high, actions⟩ := inv
    cases e with
    | shutDown =>
      simp only [handleStep, stage] at h
      obtain rfl := Option.some.inj h
      refine ⟨delayMs, low, high, ?_⟩
      simp only [Connection.finish, Connection.act, actions, List.singleton_append]
    | _ =>
      simp only [handleStep, stage] at h
      cases h
  · rename_i result stage
    cases e <;> simp only [handleStep, stage] at h <;> cases h
  · exact inv.elim

theorem denied_handle (wrong : hello.secret ≠ secret) (c : Connection server Unit)
    (e : HandleEvent) (d : Connection server Unit) (inv : Denied hello c)
    (h : handleStep (secretAuthenticator secret) c e = some d) : Denied hello d := by
  unfold Denied at inv
  split at inv
  · rename_i shown stage
    obtain ⟨rfl, actions⟩ := inv
    cases e with
    | timeOut =>
      simp only [handleStep, stage] at h
      obtain rfl := Option.some.inj h
      exact actions
    | verify =>
      simp only [handleStep, stage] at h
      obtain rfl := Option.some.inj h
      simp only [Connection.verifyHello, secretAuthenticator, if_neg wrong]
      exact actions
    | _ =>
      simp only [handleStep, stage] at h
      cases h
  · rename_i result stage
    cases e <;> simp only [handleStep, stage] at h <;> cases h
  · exact inv.elim

/-- The read that completes a hello takes its checks in order. -/
theorem received_step {authenticator : Authenticator Unit} {e : Event}
    (h : connectionStep authenticator c e = some d) (read : received c e = some hello) :
    Early c.stage = true ∧ d.actions = c.actions ∧
      (hello.version ≠ protocolVersion → ∃ error, d.stage = .rejecting error) ∧
      (hello.version = protocolVersion → d.stage = .verifying hello) := by
  unfold received at read
  split at read
  · rename_i n
    split at read
    · rename_i control framed stage
      split at read
      · rename_i payload rest frame
        split at read
        · rename_i shown decoded
          obtain rfl := Option.some.inj read
          simp only [connectionStep, handleStep, stage] at h
          split_ifs at h
          obtain rfl := Option.some.inj h
          rw [stage]
          refine ⟨rfl, readHello_actions c control framed n, ?_, ?_⟩
          · intro wrong
            simp only [Connection.readHello, frame, Connection.greet, decoded, if_pos wrong]
            exact ⟨_, rfl⟩
          · intro right
            have passed : ¬ shown.version ≠ protocolVersion := not_not.2 right
            simp only [Connection.readHello, frame, Connection.greet, decoded, if_neg passed]
            rfl
        · cases read
      · cases read
    · cases read
  · cases read

/-- After a rejected hello the connection is on its way to the end that its version decides. -/
theorem fate_of_rejected {es : List Event}
    (run : Runs (connectionSystem server (secretAuthenticator secret)) es c)
    (reads : Reads server (secretAuthenticator secret) es hello)
    (rejected : Rejected secret hello) :
    (hello.version ≠ protocolVersion → Discarded c) ∧
      (hello.version = protocolVersion → Denied hello c) := by
  obtain ⟨u, e, v, take, read⟩ := reads
  obtain ⟨after, rest⟩ := take.rest run
  obtain ⟨before, _, past, step⟩ := take
  obtain ⟨early, actions, discarded, denied⟩ := received_step step read
  rw [untouched_run past early] at actions
  constructor
  · intro wrong
    obtain ⟨error, stage⟩ := discarded wrong
    refine execFrom_invariant (fun u e v inv step => ?_) ?_ rest
    · exact step_keeps frame_discarded discarded_handle step inv
    · unfold Discarded
      rw [stage]
      exact actions
  · intro right
    have wrong : hello.secret ≠ secret := rejected.resolve_left (not_not.2 right)
    refine execFrom_invariant (fun u e v inv step => ?_) ?_ rest
    · exact step_keeps frame_denied (denied_handle wrong) step inv
    · unfold Denied
      rw [denied right]
      exact ⟨rfl, actions⟩

/-- Of a connection that has ended after a rejected hello: the delayed close is what a wrong
version gets. -/
theorem delayed_iff {es : List Event}
    (run : Runs (connectionSystem server (secretAuthenticator secret)) es c)
    (reads : Reads server (secretAuthenticator secret) es hello)
    (rejected : Rejected secret hello) (ended : hasEnded c = true) :
    Delayed c.actions ↔ hello.version ≠ protocolVersion := by
  obtain ⟨discarded, denied⟩ := fate_of_rejected run reads rejected
  obtain ⟨result, stage⟩ := hasEnded_iff.1 ended
  constructor
  · rintro ⟨delayMs, _, _, actions⟩ right
    have nothing := denied right
    unfold Denied at nothing
    rw [stage] at nothing
    cases nothing.symm.trans actions
  · intro wrong
    have closed := discarded wrong
    unfold Discarded at closed
    rw [stage] at closed
    exact closed

theorem undelayed_of_delayed {actions : List Action} (h : Delayed actions) :
    actions.map undelayed = [.slept 0, .shutDown] := by
  obtain ⟨delayMs, _, _, rfl⟩ := h
  rfl

/-- Two rejected hellos get the same trace, a random delay and a shutdown, exactly if both have a
wrong version. -/
theorem uniformlyRejected_iff {hello' : ClientHello} {es es' : List Event}
    {c' : Connection server Unit}
    (run : Runs (connectionSystem server (secretAuthenticator secret)) es c)
    (run' : Runs (connectionSystem server (secretAuthenticator secret)) es' c')
    (reads : Reads server (secretAuthenticator secret) es hello)
    (reads' : Reads server (secretAuthenticator secret) es' hello')
    (rejected : Rejected secret hello) (rejected' : Rejected secret hello')
    (ended : hasEnded c = true) (ended' : hasEnded c' = true) :
    UniformlyRejected c.actions c'.actions ↔
      hello.version ≠ protocolVersion ∧ hello'.version ≠ protocolVersion := by
  have first := delayed_iff run reads rejected ended
  have second := delayed_iff run' reads' rejected' ended'
  constructor
  · rintro ⟨delayed, delayed', _⟩
    exact ⟨first.1 delayed, second.1 delayed'⟩
  · rintro ⟨wrong, wrong'⟩
    have delayed := first.2 wrong
    have delayed' := second.2 wrong'
    exact ⟨delayed, delayed',
      (undelayed_of_delayed delayed).trans (undelayed_of_delayed delayed').symm⟩

end Fate

section Example

def eights : Secret := ⟨List.replicate 32 8, rfl⟩

def greeting (version : UInt8) (secret : Secret) : List Event :=
  [.peer .openStream, .peer (.send 0 (encodeFrame (encodeHello version secret))),
    .handle (.accept (.ok ())), .handle (.read 39)]

theorem reads_greeting (version : UInt8) (secret : Secret) (after : List Event)
    (h : ∃ u v, exec (connectionSystem helloServer (secretAuthenticator sevens))
        ((greeting version secret).take 3) = some u ∧
      (connectionSystem helloServer (secretAuthenticator sevens)).step u (.handle (.read 39)) =
        some v ∧ received u (.handle (.read 39)) = some ⟨version, secret, []⟩) :
    Reads helloServer (secretAuthenticator sevens) (greeting version secret ++ after)
      ⟨version, secret, []⟩ := by
  obtain ⟨u, v, past, step, read⟩ := h
  exact ⟨u, _, v, ⟨_, List.prefix_append _ after, runs_of_exec past, step⟩, read⟩

def refused (delayMs : ℕ) : List Event := [.handle (.sleep delayMs), .handle .shutDown]

theorem wrongVersion_run : ∃ c, Runs (connectionSystem helloServer (secretAuthenticator sevens))
    (greeting 2 sevens ++ refused 100) c ∧ hasEnded c = true ∧
    c.actions = [.slept 100, .shutDown] := by
  have ran : ∃ c, exec (connectionSystem helloServer (secretAuthenticator sevens))
      (greeting 2 sevens ++ refused 100) = some c ∧
      hasEnded c = true ∧ c.actions = [.slept 100, .shutDown] := ⟨_, rfl, rfl, rfl⟩
  obtain ⟨c, run, rest⟩ := ran
  exact ⟨c, runs_of_exec run, rest⟩

/-- The right secret with version 2, and a wrong one with version 3. -/
theorem uniformlyRejected_iff_versions : ∃ c c' : Connection helloServer Unit,
    Runs (connectionSystem helloServer (secretAuthenticator sevens))
      (greeting 2 sevens ++ refused 100) c ∧
    Runs (connectionSystem helloServer (secretAuthenticator sevens))
      (greeting 3 eights ++ refused 250) c' ∧
    c.actions ≠ c'.actions ∧ UniformlyRejected c.actions c'.actions := by
  obtain ⟨c, run, ended, actions⟩ := wrongVersion_run
  have ran : ∃ c', exec (connectionSystem helloServer (secretAuthenticator sevens))
      (greeting 3 eights ++ refused 250) = some c' ∧ hasEnded c' = true ∧
      c'.actions = [.slept 250, .shutDown] := ⟨_, rfl, rfl, rfl⟩
  obtain ⟨c', ran', ended', actions'⟩ := ran
  have run' := runs_of_exec ran'
  have reads := reads_greeting 2 sevens (refused 100) ⟨_, _, rfl, rfl, rfl⟩
  have reads' := reads_greeting 3 eights (refused 250) ⟨_, _, rfl, rfl, rfl⟩
  refine ⟨c, c', run, run', ?_, (uniformlyRejected_iff run run' reads reads' (.inl (by decide))
    (.inl (by decide)) ended ended').2 ⟨by decide, by decide⟩⟩
  rw [actions, actions']
  decide

/-- A wrong version and a wrong secret are told apart. -/
theorem wrong_secret_rejected_at_once :
    ¬ ∀ (hello hello' : ClientHello) (es es' : List Event) (c c' : Connection helloServer Unit),
      Runs (connectionSystem helloServer (secretAuthenticator sevens)) es c →
      Runs (connectionSystem helloServer (secretAuthenticator sevens)) es' c' →
      Reads helloServer (secretAuthenticator sevens) es hello →
      Reads helloServer (secretAuthenticator sevens) es' hello' →
      Rejected sevens hello → Rejected sevens hello' →
      hasEnded c = true → hasEnded c' = true →
      UniformlyRejected c.actions c'.actions := by
  intro uniform
  obtain ⟨c, run, ended, _⟩ := wrongVersion_run
  have ran : ∃ c', exec (connectionSystem helloServer (secretAuthenticator sevens))
      (greeting 1 eights ++ [.handle .verify]) = some c' ∧ hasEnded c' = true ∧
      c'.actions = [] := ⟨_, rfl, rfl, rfl⟩
  obtain ⟨c', run', ended', nothing⟩ := ran
  have reads := reads_greeting 2 sevens (refused 100) ⟨_, _, rfl, rfl, rfl⟩
  have reads' := reads_greeting 1 eights [.handle .verify] ⟨_, _, rfl, rfl, rfl⟩
  obtain ⟨_, ⟨delayMs, _, _, actions⟩, _⟩ := uniform _ _ _ _ c c' run (runs_of_exec run') reads
    reads' (.inl (by decide)) (.inr (by decide)) ended ended'
  rw [nothing] at actions
  cases actions

end Example
end Ombrac.ServerRejection
