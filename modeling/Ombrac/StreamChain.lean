import Ombrac.CopyFaithful
import Ombrac.LabelledSystem

set_option autoImplicit false

/-!
# A relayed stream from end to end

The client copies between the application and the tunnel, the server between the tunnel and the
destination; a QUIC stream keeps the order of the bytes between them. Who drops a stream finishes
its sending half, whatever became of the copy. The handshake is over.
-/
namespace Ombrac.StreamChain
open LabelledSystem ProtocolPacket TunTcpRelay CopyBidirectional

inductive Side where
  | client | server
  deriving DecidableEq

/-- `a` is the application for the client and the tunnel for the server. -/
def outward : Side → Direction
  | .client => .aToB
  | .server => .bToA

def inward : Side → Direction
  | .client => .bToA
  | .server => .aToB

def sender : Direction → Side
  | .aToB => .client
  | .bToA => .server

def receiver : Direction → Side
  | .aToB => .server
  | .bToA => .client

/-- One direction of the QUIC stream. -/
structure Half where
  inFlight : Bytes
  finished : Bool

namespace Half

def write (h : Half) (bytes : Bytes) : Half := { h with inFlight := h.inFlight ++ bytes }

/-- The bytes come in order, and the end behind the last of them. A read may fail at any time. -/
def read (h : Half) : Except IoError Bytes → Option Half
  | .error _ => some h
  | .ok [] => if h.inFlight = [] ∧ h.finished = true then some h else none
  | .ok bytes =>
    if bytes <+: h.inFlight then some { h with inFlight := h.inFlight.drop bytes.length } else none

end Half

structure Chain where
  relays : Side → Copying
  halves : Direction → Half
  /-- The relay was dropped inside `copy_bidirectional`. -/
  interrupted : Side → Bool

inductive Event where
  | relay (side : Side) (e : CopyEvent)
  | interrupt (side : Side)
  | dropStream (side : Side)

def output (c : Copying) (d : Direction) : CopyEvent → Bytes
  | .wrote d' result =>
    if d' = d then
      match (c.copies d).stage with
      | .writing _ rest => bytesWritten rest result
      | _ => []
    else []
  | .start _ | .observe _ | .read _ _ => []

def answer (d : Direction) : CopyEvent → Option (Except IoError Bytes)
  | .read d' result => if d' = d then some result else none
  | .start _ | .observe _ | .wrote _ _ => none

namespace Chain

def new : Chain := ⟨fun _ => .new, fun _ => ⟨[], false⟩, fun _ => false⟩

def relayStep (s : Chain) (side : Side) (e : CopyEvent) : Option Chain :=
  if s.interrupted side = true then none
  else
    ((s.relays side).step e).bind fun relay =>
      ((answer (inward side) e).elim (some (s.halves (inward side)))
        (s.halves (inward side)).read).map fun incoming =>
        { s with
          relays := Function.update s.relays side relay
          halves := Function.update
            (Function.update s.halves (inward side) incoming) (outward side)
            ((s.halves (outward side)).write (output (s.relays side) (outward side) e)) }

def returned (s : Chain) (side : Side) : Bool :=
  s.interrupted side || (s.relays side).result.isSome

def finish (s : Chain) (side : Side) : Chain :=
  { s with
    halves := Function.update s.halves (outward side)
      { s.halves (outward side) with finished := true } }

def sent (s : Chain) (d : Direction) : Bytes := (s.relays (sender d)).read d

def received (s : Chain) (d : Direction) : Bytes := (s.relays (receiver d)).written d

end Chain

def chainStep (s : Chain) : Event → Option Chain
  | .relay side e => s.relayStep side e
  | .interrupt side => some { s with interrupted := Function.update s.interrupted side true }
  | .dropStream side => if s.returned side = true then some (s.finish side) else none

def chainSystem : System Chain Event := ⟨.new, chainStep⟩

/-! ## Steps -/

section Steps
variable {s u : Chain} {c c' : Copying} {e : CopyEvent}

theorem step_output (moved : c.step e = some c') (d : Direction) :
    c'.written d = c.written d ++ output c d e := by
  cases e with
  | start d' =>
    simp only [Copying.step] at moved
    split at moved
    · obtain rfl := Option.some.inj moved
      exact (List.append_nil _).symm
    · cases moved
  | observe d' | read d' =>
    simp only [Copying.step] at moved
    split at moved
    · split_ifs at moved
      obtain rfl := Option.some.inj moved
      exact (List.append_nil _).symm
    · cases moved
  | wrote d' result =>
    simp only [Copying.step] at moved
    split at moved
    · rename_i writing
      split_ifs at moved
      obtain rfl := Option.some.inj moved
      by_cases same : d' = d
      · subst same
        simp [Copying.setCopy, output, writing]
      · simp [Copying.setCopy, output, same, Function.update_of_ne (Ne.symm same)]
    · cases moved

theorem input_answer (e : CopyEvent) (d : Direction) :
    e.input d = (answer d e).elim [] bytesRead := by
  cases e with
  | read d' result =>
    by_cases same : d' = d
    · simp [CopyEvent.input, answer, same]
    · simp [CopyEvent.input, answer, same]
  | start | observe | wrote => rfl

theorem Half.read_split {h h' : Half} {result : Except IoError Bytes}
    (answered : h.read result = some h') :
    h.inFlight = bytesRead result ++ h'.inFlight ∧ h'.finished = h.finished := by
  cases result with
  | error e =>
    obtain rfl := Option.some.inj answered
    exact ⟨rfl, rfl⟩
  | ok bytes =>
    cases bytes with
    | nil =>
      obtain ⟨_, ⟨⟩⟩ := Option.ite_none_right_eq_some.1 answered
      exact ⟨rfl, rfl⟩
    | cons b bytes =>
      obtain ⟨⟨rest, front⟩, ⟨⟩⟩ := Option.ite_none_right_eq_some.1 answered
      refine ⟨?_, rfl⟩
      simp [bytesRead, ← front]

/-- What a relay's step does to the two halves of the stream. -/
theorem relayStep_cases {side : Side} (h : s.relayStep side e = some u) :
    ∃ relay incoming, (s.relays side).step e = some relay ∧ s.interrupted side = false ∧
      (s.halves (inward side)).inFlight = e.input (inward side) ++ incoming.inFlight ∧
      incoming.finished = (s.halves (inward side)).finished ∧
      (answer (inward side) e = some (.ok []) → (s.halves (inward side)).inFlight = [] ∧
        (s.halves (inward side)).finished = true) ∧
      u = { s with
        relays := Function.update s.relays side relay
        halves := Function.update
          (Function.update s.halves (inward side) incoming) (outward side)
          ((s.halves (outward side)).write (output (s.relays side) (outward side) e)) } := by
  simp only [Chain.relayStep] at h
  split_ifs at h with running
  obtain ⟨relay, step, h⟩ := Option.bind_eq_some_iff.1 h
  obtain ⟨incoming, answered, rfl⟩ := Option.map_eq_some_iff.1 h
  refine ⟨relay, incoming, step, by simpa using running, ?_⟩
  rw [input_answer]
  cases asked : answer (inward side) e with
  | none =>
    rw [asked] at answered
    obtain rfl := Option.some.inj answered
    exact ⟨rfl, rfl, nofun, rfl⟩
  | some result =>
    rw [asked] at answered
    obtain ⟨front, same⟩ := Half.read_split answered
    refine ⟨front, same, ?_, rfl⟩
    rintro ⟨⟩
    exact (Option.ite_none_right_eq_some.1 answered).1

theorem step_result (moved : c.step e = some c') : c.result = none := by
  rcases returned : c.result with _ | r
  · rfl
  · have finished := fun d => CopyFaithful.result_finished returned d
    cases e with
    | start d | observe d | read d | wrote d =>
      obtain ⟨own, stage⟩ := finished d
      simp [Copying.step, stage] at moved

theorem step_cancelled (moved : c.step e = some c') (cancelled : c.cancelled = true) :
    c'.cancelled = true ∧ ∀ d, c'.read d = c.read d := by
  cases e with
  | start d' =>
    simp only [Copying.step] at moved
    split at moved
    · obtain rfl := Option.some.inj moved
      exact ⟨by simp [Copying.setCopy, cancelled], fun _ => rfl⟩
    · cases moved
  | observe d' =>
    simp only [Copying.step] at moved
    split at moved
    · split_ifs at moved
      obtain rfl := Option.some.inj moved
      exact ⟨by simp [Copying.setCopy, cancelled], fun _ => rfl⟩
    · cases moved
  | read d' result =>
    simp only [Copying.step] at moved
    split at moved
    · simp [cancelled] at moved
    · cases moved
  | wrote d' result =>
    simp only [Copying.step] at moved
    split at moved
    · split_ifs at moved
      obtain rfl := Option.some.inj moved
      exact ⟨by simp [Copying.setCopy, cancelled], fun _ => rfl⟩
    · cases moved

end Steps

/-! ## The order of the bytes -/

section Order
variable {s u : Chain}

theorem sender_outward (side : Side) : sender (outward side) = side := by
  cases side <;> rfl

theorem receiver_inward (side : Side) : receiver (inward side) = side := by
  cases side <;> rfl

theorem sender_inward_ne (side : Side) : sender (inward side) ≠ side := by
  cases side <;> decide

theorem receiver_outward_ne (side : Side) : receiver (outward side) ≠ side := by
  cases side <;> decide

theorem inward_ne_outward (side : Side) : inward side ≠ outward side := by
  cases side <;> decide

theorem direction_cases (side : Side) (d : Direction) : d = outward side ∨ d = inward side := by
  cases side <;> cases d <;> decide

/-- The stream neither loses nor changes what is on it, and its end is behind everything. -/
structure Ordered (s : Chain) : Prop where
  faithful : ∀ side, (s.relays side).Faithful
  ordered : ∀ d, (s.relays (sender d)).written d =
    (s.relays (receiver d)).read d ++ (s.halves d).inFlight
  finished : ∀ d, (s.halves d).finished = true → s.returned (sender d) = true

theorem ordered_new : Ordered .new where
  faithful _ := Copying.faithful_new
  ordered _ := rfl
  finished _ ended := by cases ended

theorem relayStep_ordered (inv : Ordered s) {side : Side} {e : CopyEvent}
    (h : s.relayStep side e = some u) : Ordered u := by
  obtain ⟨relay, incoming, step, running, front, same, _, rfl⟩ := relayStep_cases h
  refine ⟨fun side' => ?_, fun d => ?_, fun d ended => ?_⟩
  · by_cases here : side' = side
    · subst here
      simpa using (inv.faithful side').step step
    · simpa [Function.update_of_ne here] using inv.faithful side'
  · have old := inv.ordered d
    rcases direction_cases side d with rfl | rfl
    · rw [sender_outward] at old ⊢
      simp only [Function.update_self, Function.update_of_ne (receiver_outward_ne side), Half.write]
      rw [step_output step, old, List.append_assoc]
    · rw [receiver_inward] at old ⊢
      simp only [Function.update_self, Function.update_of_ne (sender_inward_ne side),
        Function.update_of_ne (inward_ne_outward side)]
      rw [old, front, Copying.step_read step, List.append_assoc]
  · have going : s.returned side = false := by simp [Chain.returned, running, step_result step]
    rcases direction_cases side d with rfl | rfl
    · have before : (s.halves (outward side)).finished = true := by simpa [Half.write] using ended
      have ended := inv.finished _ before
      rw [sender_outward, going] at ended
      cases ended
    · have before : (s.halves (inward side)).finished = true := by
        simpa [Function.update_of_ne (inward_ne_outward side), same] using ended
      simpa [Chain.returned, Function.update_of_ne (sender_inward_ne side)] using
        inv.finished _ before

theorem chainStep_ordered (inv : Ordered s) {e : Event} (h : chainStep s e = some u) :
    Ordered u := by
  cases e with
  | relay side e => exact relayStep_ordered inv h
  | interrupt side =>
    obtain rfl := Option.some.inj h
    refine ⟨inv.faithful, inv.ordered, fun d ended => ?_⟩
    by_cases here : sender d = side
    · simp [Chain.returned, here]
    · simpa [Chain.returned, Function.update_of_ne here] using inv.finished d ended
  | dropStream side =>
    obtain ⟨stopped, ⟨⟩⟩ := Option.ite_none_right_eq_some.1 h
    refine ⟨inv.faithful, fun d => ?_, fun d ended => ?_⟩
    · refine (inv.ordered d).trans (congrArg _ ?_)
      by_cases here : d = outward side
      · subst here
        simp [Chain.finish]
      · simp [Chain.finish, Function.update_of_ne here]
    · by_cases here : d = outward side
      · subst here
        rw [sender_outward]
        exact stopped
      · have before : (s.halves d).finished = true := by
          simpa [Chain.finish, Function.update_of_ne here] using ended
        exact inv.finished d before

theorem Ordered.received_prefix_sent (inv : Ordered s) (d : Direction) :
    s.received d <+: s.sent d := by
  have taken : s.received d <+: (s.relays (receiver d)).read d :=
    (inv.faithful (receiver d) d).written_prefix_read
  have carried : (s.relays (receiver d)).read d <+: (s.relays (sender d)).written d :=
    ⟨_, (inv.ordered d).symm⟩
  exact (taken.trans carried).trans (inv.faithful (sender d) d).written_prefix_read

theorem ordered_runs {es : List Event} (run : Runs chainSystem es s) : Ordered s :=
  run.invariant (I := Ordered) ordered_new fun _ _ _ inv step => chainStep_ordered inv step

end Order

/-! ## The end of a direction -/

section End
variable {s u : Chain} {c c' : Copying} {d : Direction}

theorem step_finished {e : CopyEvent} (moved : c.step e = some c') {own : Except IoError Unit}
    (stage : (c.copies d).stage = .finished own) :
    c'.copies d = c.copies d ∧ c'.written d = c.written d := by
  refine CopyFaithful.step_other moved fun here => ?_
  subst here
  cases e with
  | start d | observe d | read d | wrote d =>
    simp only [CopyFaithful.direction] at stage
    simp [Copying.step, stage] at moved

structure EndRead (d : Direction) (s : Chain) : Prop where
  ordered : Ordered s
  empty : (s.halves d).inFlight = []
  finished : (s.halves d).finished = true
  copy : ((s.relays (receiver d)).copies d).stage = .finished (.ok ())

theorem relayStep_endRead (inv : EndRead d s) {side : Side} {e : CopyEvent}
    (h : s.relayStep side e = some u) : EndRead d u := by
  have ordered := relayStep_ordered inv.ordered h
  obtain ⟨relay, incoming, step, running, front, same, _, rfl⟩ := relayStep_cases h
  rcases direction_cases side d with rfl | rfl
  · have stopped := inv.ordered.finished _ inv.finished
    rw [sender_outward] at stopped
    have going : s.returned side = false := by simp [Chain.returned, running, step_result step]
    cases going.symm.trans stopped
  · have copy := inv.copy
    rw [inv.empty] at front
    rw [receiver_inward] at copy
    refine ⟨ordered, ?_, ?_, ?_⟩
    · simpa [Function.update_of_ne (inward_ne_outward side)] using
        (List.append_eq_nil_iff.1 front.symm).2
    · simpa [Function.update_of_ne (inward_ne_outward side), same] using inv.finished
    · rw [receiver_inward]
      simpa [(step_finished step copy).1] using copy

theorem chainStep_endRead (inv : EndRead d s) {e : Event} (h : chainStep s e = some u) :
    EndRead d u := by
  have ordered := chainStep_ordered inv.ordered h
  cases e with
  | relay side e => exact relayStep_endRead inv h
  | interrupt side =>
    obtain rfl := Option.some.inj h
    exact ⟨ordered, inv.empty, inv.finished, inv.copy⟩
  | dropStream side =>
    obtain ⟨_, ⟨⟩⟩ := Option.ite_none_right_eq_some.1 h
    refine ⟨ordered, ?_, ?_, inv.copy⟩
    · by_cases here : d = outward side
      · subst here
        simpa [Chain.finish] using inv.empty
      · simpa [Chain.finish, Function.update_of_ne here] using inv.empty
    · by_cases here : d = outward side
      · subst here
        simp [Chain.finish]
      · simpa [Chain.finish, Function.update_of_ne here] using inv.finished

/-- Reading the end of the direction: nothing is on the way, and the copy ends without an error. -/
theorem endRead_of_step (inv : Ordered s) (h : chainStep s (.relay (receiver d) (.read d (.ok []))) =
    some u) : EndRead d u := by
  have ordered := chainStep_ordered inv h
  have into : inward (receiver d) = d := by cases d <;> rfl
  obtain ⟨relay, incoming, step, _, front, same, ended, rfl⟩ := relayStep_cases h
  obtain ⟨empty, finished⟩ := ended (by simp [answer, into])
  have ne : d ≠ outward (receiver d) := by cases d <;> decide
  rw [into] at front same empty finished
  rw [empty] at front
  refine ⟨ordered, ?_, ?_, ?_⟩
  · simpa [into, Function.update_of_ne ne] using (List.append_eq_nil_iff.1 front.symm).2
  · simpa [into, Function.update_of_ne ne, same] using finished
  · simp only [Copying.step] at step
    split at step
    · split_ifs at step
      obtain rfl := Option.some.inj step
      simp [Copying.setCopy, Copy.afterRead, Copy.finish]
    · cases step

theorem EndRead.complete (inv : EndRead d s) :
    s.received d = (s.relays (sender d)).written d ∧
      (pending ((s.relays (sender d)).copies d) = some [] → s.received d = s.sent d) := by
  have all : s.received d = (s.relays (sender d)).written d := by
    have copied : s.received d ++ [] = (s.relays (receiver d)).read d :=
      (inv.ordered.faithful (receiver d) d).pending (by rw [pending, inv.copy])
    rw [inv.ordered.ordered d, inv.empty, ← copied, List.append_nil, List.append_nil]
  refine ⟨all, fun idle => ?_⟩
  rw [all, Chain.sent, ← (inv.ordered.faithful (sender d) d).pending idle, List.append_nil]

def request : List Event :=
  [.relay .client (.start .aToB), .relay .client (.start .bToA), .relay .server (.start .aToB),
    .relay .server (.start .bToA), .relay .client (.read .aToB (.ok [1, 2])),
    .relay .client (.wrote .aToB (.ok 2)), .relay .server (.read .aToB (.ok [1])),
    .relay .server (.wrote .aToB (.ok 1)), .relay .client (.read .aToB (.ok []))]

def requestEnd : List Event :=
  [.relay .client (.observe .bToA), .dropStream .client,
    .relay .server (.read .aToB (.ok [2])), .relay .server (.wrote .aToB (.ok 1))]

end End

/-! ## After one direction has ended -/

section Cancelled
variable {s u : Chain} {side : Side}

def Stopped (side : Side) (before : Direction → Bytes) (s : Chain) : Prop :=
  (s.relays side).cancelled = true ∧ ∀ d, (s.relays side).read d = before d

theorem chainStep_stopped {before : Direction → Bytes} (inv : Stopped side before s) {e : Event}
    (h : chainStep s e = some u) : Stopped side before u := by
  cases e with
  | relay side' e =>
    obtain ⟨relay, incoming, step, _, _, _, _, rfl⟩ := relayStep_cases h
    by_cases here : side = side'
    · subst here
      obtain ⟨cancelled, read⟩ := step_cancelled step inv.1
      refine ⟨by simpa using cancelled, fun d => ?_⟩
      simpa [read d] using inv.2 d
    · simpa [Stopped, Function.update_of_ne here] using inv
  | interrupt side' =>
    obtain rfl := Option.some.inj h
    exact inv
  | dropStream side' =>
    obtain ⟨_, ⟨⟩⟩ := Option.ite_none_right_eq_some.1 h
    exact inv

/-- A copy that has finished writes nothing more. -/
theorem chainStep_finished {d : Direction} {own : Except IoError Unit} {before : Bytes}
    (inv : ((s.relays side).copies d).stage = .finished own ∧ (s.relays side).written d = before)
    {e : Event} (h : chainStep s e = some u) :
    ((u.relays side).copies d).stage = .finished own ∧ (u.relays side).written d = before := by
  cases e with
  | relay side' e =>
    obtain ⟨relay, incoming, step, _, _, _, _, rfl⟩ := relayStep_cases h
    by_cases here : side = side'
    · subst here
      obtain ⟨copies, written⟩ := step_finished step inv.1
      simpa [copies, written] using inv
    · simpa [Function.update_of_ne here] using inv
  | interrupt side' =>
    obtain rfl := Option.some.inj h
    exact inv
  | dropStream side' =>
    obtain ⟨_, ⟨⟩⟩ := Option.ite_none_right_eq_some.1 h
    exact inv

theorem pending_le {copy : Copy} {read written : Bytes}
    (faithful : CopyBidirectional.Faithful copy read written) :
    ((pending copy).getD []).length ≤ defaultBufSize := by
  unfold CopyBidirectional.Faithful at faithful
  unfold pending
  split at faithful <;> simp_all
  omega

theorem failed_of_pending {copy : Copy} (failed : pending copy = none) :
    ∃ own, copy.stage = .finished own := by
  unfold pending at failed
  split at failed
  · cases failed
  · cases failed
  · cases failed
  · cases failed
  · exact ⟨_, ‹_›⟩

/-- A relay does not keep a stream half open: as soon as one of its directions has ended, it reads
nothing more in the other, and delivers at most the chunk that it is writing there. -/
theorem no_half_close (es : List Event) (s : Chain) (run : Runs chainSystem es s) (side : Side)
    (ended : (s.relays side).cancelled = true) (more : List Event) (u : Chain)
    (rest : execFrom chainSystem s more = some u) (d : Direction) :
    (u.relays side).read d = (s.relays side).read d ∧
      (u.relays side).written d <+:
        (s.relays side).written d ++ (pending ((s.relays side).copies d)).getD [] ∧
      ((pending ((s.relays side).copies d)).getD []).length ≤ defaultBufSize := by
  have start : Stopped side (s.relays side).read s := ⟨ended, fun _ => rfl⟩
  have stopped := execFrom_invariant (I := Stopped side (s.relays side).read)
    (fun _ _ _ inv step => chainStep_stopped inv step) start rest
  have before := (ordered_runs run).faithful side d
  have after := (ordered_runs (run.exec_from rest)).faithful side d
  refine ⟨stopped.2 d, ?_, pending_le before⟩
  cases held : pending ((s.relays side).copies d) with
  | none =>
    obtain ⟨own, stage⟩ := failed_of_pending held
    have last := execFrom_invariant
      (I := fun t => ((t.relays side).copies d).stage = .finished own ∧
        (t.relays side).written d = (s.relays side).written d)
      (fun _ _ _ inv step => chainStep_finished inv step) ⟨stage, rfl⟩ rest
    rw [last.2, Option.getD_none, List.append_nil]
  | some chunk =>
    rw [Option.getD_some, before.pending held, ← stopped.2 d]
    exact after.written_prefix_read

/-- The destination answers after the application has closed its half. -/
theorem no_half_close_request :
    ∃ s u, exec chainSystem request = some s ∧
      execFrom chainSystem s [.relay .server (.read .bToA (.ok [9])),
        .relay .server (.wrote .bToA (.ok 1)), .relay .client (.observe .bToA)] = some u ∧
      u.sent .bToA = [9] ∧ u.received .bToA <+: [] := by
  have run : exec chainSystem request = some _ := rfl
  exact ⟨_, _, run, rfl, rfl, (no_half_close _ _ (runs_of_exec run) .client rfl
    [.relay .server (.read .bToA (.ok [9])), .relay .server (.wrote .bToA (.ok 1)),
      .relay .client (.observe .bToA)] _ rfl .bToA).2.1⟩

end Cancelled

/-! ## The end of the stream -/

def other : Side → Side
  | .client => .server
  | .server => .client

/-- The relay is on its way to its end: one of its directions has ended, or it was dropped. -/
def Chain.closing (s : Chain) (side : Side) : Bool :=
  s.interrupted side || (s.relays side).cancelled

def Settled (s : Chain) : Prop :=
  ∀ side, s.returned side = true ∧ (s.halves (outward side)).finished = true

/-- The application and the destination give no more bytes; they may close, and anything may
fail. -/
def Quiet : Event → Prop
  | .relay side (.read d (.ok (_ :: _))) => d = inward side
  | _ => True

/-- What comes by itself: the tasks run, the tunnel delivers, and the writers take what they are
given. -/
def Owed : Event → Prop
  | .relay _ (.start _) | .relay _ (.observe _) | .dropStream _ => True
  | .relay side (.read d (.ok _)) => d = inward side
  | .relay _ (.wrote _ (.ok n)) => 0 < n
  | .relay _ (.read _ (.error _)) | .relay _ (.wrote _ (.error _)) | .interrupt _ => False

theorem Owed.quiet {e : Event} (owed : Owed e) : Quiet e := by
  unfold Quiet
  split
  · exact owed
  · trivial

structure WellFormed (c : Copying) : Prop where
  ended : ∀ d own, (c.copies d).stage = .finished own → c.cancelled = true
  left : ∀ d chunk rest, (c.copies d).stage = .writing chunk rest → rest ≠ []

section WellFormed
variable {c c' : Copying} {copy : Copy}

theorem wellFormed_new : WellFormed .new where
  ended _ _ stage := by cases stage
  left _ _ _ stage := by cases stage

theorem WellFormed.setCopy (inv : WellFormed c) (d : Direction)
    (left : ∀ chunk rest, copy.stage = .writing chunk rest → rest ≠ []) :
    WellFormed (c.setCopy d copy) where
  ended d' own stage := by
    by_cases here : d' = d
    · subst here
      have finished : copy.isFinished = true := by
        have stage : copy.stage = .finished own := by simpa [Copying.setCopy] using stage
        simp [Copy.isFinished, stage]
      simp [Copying.setCopy, finished]
    · have before := inv.ended d' own (by simpa [Copying.setCopy, here] using stage)
      simp [Copying.setCopy, before]
  left d' chunk rest stage := by
    by_cases here : d' = d
    · subst here
      exact left chunk rest (by simpa [Copying.setCopy] using stage)
    · exact inv.left d' chunk rest (by simpa [Copying.setCopy, here] using stage)

theorem afterRead_left {result : Except IoError Bytes} {chunk : ℕ} {rest : Bytes}
    (writing : (copy.afterRead result).stage = .writing chunk rest) : rest ≠ [] := by
  cases result with
  | error e =>
    simp only [Copy.afterRead] at writing
    split_ifs at writing
    · cases writing
    · cases writing
  | ok bytes =>
    cases bytes with
    | nil => cases writing
    | cons b bytes =>
      obtain ⟨rfl, rfl⟩ := Stage.writing.inj writing
      exact List.cons_ne_nil b bytes

theorem afterWrite_left {size chunk : ℕ} {before rest : Bytes} {result : Except IoError ℕ}
    (writing : (copy.afterWrite size before result).stage = .writing chunk rest) : rest ≠ [] := by
  cases result with
  | error e => cases writing
  | ok n =>
    cases n with
    | zero => cases writing
    | succ n =>
      simp only [Copy.afterWrite] at writing
      split at writing
      · cases writing
      · rename_i some_left
        obtain ⟨rfl, rfl⟩ := Stage.writing.inj writing
        exact some_left

theorem WellFormed.step (inv : WellFormed c) {e : CopyEvent} (moved : c.step e = some c') :
    WellFormed c' := by
  cases e with
  | start d =>
    simp only [Copying.step] at moved
    split at moved
    · obtain rfl := Option.some.inj moved
      refine inv.setCopy d fun chunk rest stage => ?_
      split_ifs at stage
      cases stage
    · cases moved
  | observe d =>
    simp only [Copying.step] at moved
    split at moved
    · split_ifs at moved
      obtain rfl := Option.some.inj moved
      refine inv.setCopy d fun chunk rest stage => ?_
      cases stage
    · cases moved
  | read d result =>
    simp only [Copying.step] at moved
    split at moved
    · split_ifs at moved
      obtain rfl := Option.some.inj moved
      have kept : WellFormed
          { c with read := Function.update c.read d (c.read d ++ bytesRead result) } :=
        ⟨inv.ended, inv.left⟩
      exact kept.setCopy d fun _ _ => afterRead_left
    · cases moved
  | wrote d result =>
    simp only [Copying.step] at moved
    split at moved
    · rename_i rest _
      split_ifs at moved
      obtain rfl := Option.some.inj moved
      have kept : WellFormed
          { c with
            written := Function.update c.written d (c.written d ++ bytesWritten rest result) } :=
        ⟨inv.ended, inv.left⟩
      exact kept.setCopy d fun _ _ => afterWrite_left
    · cases moved

end WellFormed

/-! ### What is left to do -/

/-- What a byte costs after it has left the copy; outward, it has the tunnel and the other relay
before it. -/
def crossing (side : Side) (d : Direction) : ℕ := if d = outward side then 3 else 0

def copyRank (beyond : ℕ) (copy : Copy) : ℕ :=
  match copy.stage with
  | .start => 2
  | .reading => 1
  | .writing _ rest => 2 + (beyond + 1) * rest.length
  | .finished _ => 0

def relayRank (c : Copying) (side : Side) : ℕ :=
  copyRank (crossing side .aToB) (c.copies .aToB) + copyRank (crossing side .bToA) (c.copies .bToA)

def Half.rank (h : Half) : ℕ := 3 * h.inFlight.length + (!h.finished).toNat

def sideRank (s : Chain) (side : Side) : ℕ :=
  if s.interrupted side = true then 0 else 1 + relayRank (s.relays side) side

def remaining (s : Chain) : ℕ :=
  sideRank s .client + sideRank s .server + (s.halves .aToB).rank + (s.halves .bToA).rank

section Rank
variable {s u : Chain} {c c' : Copying} {copy : Copy} {side : Side}

theorem remaining_eq (s : Chain) (side : Side) :
    remaining s = sideRank s side + sideRank s (other side) +
      (s.halves (outward side)).rank + (s.halves (inward side)).rank := by
  cases side with
  | client => rfl
  | server =>
    simp only [remaining, other, outward, inward]
    omega

theorem setCopy_rank (c : Copying) (side : Side) (d : Direction) (copy : Copy) :
    relayRank (c.setCopy d copy) side + copyRank (crossing side d) (c.copies d) =
      relayRank c side + copyRank (crossing side d) copy := by
  cases d with
  | aToB =>
    simp [relayRank, Copying.setCopy]
    omega
  | bToA =>
    simp [relayRank, Copying.setCopy]
    omega

theorem afterRead_rank (copy : Copy) (side : Side) (d : Direction) (result : Except IoError Bytes)
    (quiet : Quiet (.relay side (.read d result))) :
    copyRank (crossing side d) (copy.afterRead result) <
      1 + 3 * (CopyEvent.input (inward side) (.read d result)).length := by
  have ended : ∀ own, copyRank (crossing side d) (copy.finish own) = 0 := fun _ => rfl
  cases result with
  | error e =>
    simp only [Copy.afterRead]
    split_ifs
    · rw [ended]
      omega
    · rw [ended]
      omega
  | ok bytes =>
    cases bytes with
    | nil =>
      rw [Copy.afterRead, ended]
      omega
    | cons b bytes =>
      obtain rfl : d = inward side := quiet
      have inside : crossing side (inward side) = 0 := if_neg (inward_ne_outward side)
      simp only [Copy.afterRead, copyRank, inside, CopyEvent.input, bytesRead, if_true,
        List.length_cons]
      omega

theorem afterWrite_rank (copy : Copy) (beyond chunk : ℕ) (rest : Bytes) (result : Except IoError ℕ)
    (room : fits rest result = true) :
    copyRank beyond (copy.afterWrite chunk rest result) +
      beyond * (bytesWritten rest result).length < 2 + (beyond + 1) * rest.length := by
  cases result with
  | error e =>
    change 0 + beyond * 0 < _
    omega
  | ok n =>
    cases n with
    | zero =>
      simp only [Copy.afterWrite, Copy.finish, copyRank, bytesWritten, List.take_zero,
        List.length_nil]
      omega
    | succ n =>
      have bound : n + 1 ≤ rest.length := of_decide_eq_true room
      have taken : (bytesWritten rest (.ok (n + 1))).length = n + 1 :=
        List.length_take_of_le bound
      have whole : rest.length = n + 1 + (rest.drop (n + 1)).length := by
        rw [List.length_drop]
        omega
      simp only [taken, Copy.afterWrite]
      cases left : rest.drop (n + 1) with
      | nil =>
        rw [left] at whole
        simp only [copyRank, whole, List.length_nil, Nat.add_mul, Nat.mul_add]
        omega
      | cons b bytes =>
        rw [left] at whole
        simp only [copyRank, whole, Nat.add_mul, Nat.mul_add]
        omega

/-- What is left of a relay becomes less by more than it puts on the tunnel, and what it takes from
the tunnel pays for the rest. -/
theorem step_rank {e : CopyEvent} (quiet : Quiet (.relay side e)) (moved : c.step e = some c') :
    relayRank c' side + 3 * (output c (outward side) e).length <
      relayRank c side + 3 * (e.input (inward side)).length := by
  cases e with
  | start d =>
    simp only [Copying.step] at moved
    split at moved
    · rename_i start
      obtain rfl := Option.some.inj moved
      have moves := setCopy_rank c side d
        (if c.cancelled then (c.copies d).finish (.ok ())
          else { c.copies d with stage := .reading })
      have less : copyRank (crossing side d)
          (if c.cancelled then (c.copies d).finish (.ok ())
            else { c.copies d with stage := .reading }) ≤ 1 := by
        split_ifs
        · exact Nat.zero_le _
        · exact le_refl _
      simp only [copyRank, start] at moves
      simp only [output, CopyEvent.input, List.length_nil]
      simp only [copyRank] at less
      omega
    · cases moved
  | observe d =>
    simp only [Copying.step] at moved
    split at moved
    · rename_i reading
      split_ifs at moved
      obtain rfl := Option.some.inj moved
      have moves := setCopy_rank c side d ((c.copies d).finish (.ok ()))
      simp only [copyRank, reading, Copy.finish] at moves
      simp only [output, CopyEvent.input, List.length_nil]
      simp only [Copy.finish]
      omega
    · cases moved
  | read d result =>
    simp only [Copying.step] at moved
    split at moved
    · rename_i reading
      split_ifs at moved
      obtain rfl := Option.some.inj moved
      have moves := setCopy_rank c side d ((c.copies d).afterRead result)
      have less := afterRead_rank (c.copies d) side d result quiet
      have before : copyRank (crossing side d) (c.copies d) = 1 := by simp only [copyRank, reading]
      rw [before] at moves
      change relayRank (c.setCopy d _) side + 3 * 0 < _
      omega
    · cases moved
  | wrote d result =>
    simp only [Copying.step] at moved
    split at moved
    · rename_i chunk rest writing
      split_ifs at moved with room
      obtain rfl := Option.some.inj moved
      have moves := setCopy_rank c side d ((c.copies d).afterWrite chunk rest result)
      have less := afterWrite_rank (c.copies d) (crossing side d) chunk rest result room
      have before : copyRank (crossing side d) (c.copies d) =
          2 + (crossing side d + 1) * rest.length := by simp only [copyRank, writing]
      have put : 3 * (output c (outward side) (.wrote d result)).length =
          crossing side d * (bytesWritten rest result).length := by
        by_cases here : d = outward side
        · subst here
          simp [output, crossing, writing]
        · simp [output, crossing, here]
      rw [before] at moves
      change relayRank (c.setCopy d _) side + _ < relayRank c side + 3 * 0
      omega
    · cases moved

theorem relay_remaining {e : CopyEvent} (quiet : Quiet (.relay side e))
    (h : s.relayStep side e = some u) : remaining u < remaining s := by
  obtain ⟨relay, incoming, step, running, front, same, _, rfl⟩ := relayStep_cases h
  have less := step_rank quiet step
  have taken := congrArg List.length front
  rw [List.length_append] at taken
  rw [remaining_eq _ side, remaining_eq s side]
  have away : other side ≠ side := by cases side <;> decide
  simp only [sideRank, running, Bool.false_eq_true, if_false, Function.update_self,
    Function.update_of_ne away, Function.update_of_ne (inward_ne_outward side), Half.rank,
    Half.write, List.length_append, same]
  omega

theorem interrupt_remaining (running : s.interrupted side = false) :
    remaining { s with interrupted := Function.update s.interrupted side true } < remaining s := by
  have away : other side ≠ side := by cases side <;> decide
  rw [remaining_eq _ side, remaining_eq s side]
  simp only [sideRank, running, Bool.false_eq_true, if_false, if_true, Function.update_self,
    Function.update_of_ne away]
  omega

theorem finish_remaining (unfinished : (s.halves (outward side)).finished = false) :
    remaining (s.finish side) < remaining s := by
  have relays : ∀ side', sideRank (s.finish side) side' = sideRank s side' := fun _ => rfl
  rw [remaining_eq _ side, remaining_eq s side, relays, relays]
  simp only [Chain.finish, Function.update_self, Function.update_of_ne (inward_ne_outward side),
    Half.rank, unfinished, Bool.not_true, Bool.not_false, Bool.toNat_true, Bool.toNat_false]
  omega

/-- Without new bytes, a step brings the end nearer or changes nothing. -/
theorem quiet_remaining {e : Event} (quiet : Quiet e) (h : chainStep s e = some u) (moved : u ≠ s) :
    remaining u < remaining s := by
  cases e with
  | relay side e => exact relay_remaining quiet h
  | interrupt side =>
    obtain rfl := Option.some.inj h
    cases running : s.interrupted side with
    | false => exact interrupt_remaining running
    | true =>
      refine absurd ?_ moved
      rw [← running, Function.update_eq_self]
  | dropStream side =>
    obtain ⟨_, ⟨⟩⟩ := Option.ite_none_right_eq_some.1 h
    cases ended : (s.halves (outward side)).finished with
    | false => exact finish_remaining ended
    | true =>
      refine absurd ?_ moved
      unfold Chain.finish
      rw [← ended, Function.update_eq_self]

end Rank

/-! ### The end comes -/

section Settling
variable {s u : Chain} {side : Side} {d : Direction}

structure Sound (s : Chain) : Prop where
  ordered : Ordered s
  wellFormed : ∀ side, WellFormed (s.relays side)

theorem chainStep_sound (inv : Sound s) {e : Event} (h : chainStep s e = some u) : Sound u := by
  refine ⟨chainStep_ordered inv.ordered h, fun side' => ?_⟩
  cases e with
  | relay side e =>
    obtain ⟨relay, incoming, step, _, _, _, _, rfl⟩ := relayStep_cases h
    by_cases here : side' = side
    · subst here
      simpa using (inv.wellFormed side').step step
    · simpa [Function.update_of_ne here] using inv.wellFormed side'
  | interrupt side =>
    obtain rfl := Option.some.inj h
    exact inv.wellFormed side'
  | dropStream side =>
    obtain ⟨_, ⟨⟩⟩ := Option.ite_none_right_eq_some.1 h
    exact inv.wellFormed side'

theorem sound_runs {es : List Event} (run : Runs chainSystem es s) : Sound s :=
  run.invariant (I := Sound) ⟨ordered_new, fun _ => wellFormed_new⟩
    fun _ _ _ inv step => chainStep_sound inv step

theorem chainStep_closing (closing : s.closing side = true) {e : Event}
    (h : chainStep s e = some u) : u.closing side = true := by
  cases e with
  | relay side' e =>
    obtain ⟨relay, incoming, step, _, _, _, _, rfl⟩ := relayStep_cases h
    by_cases here : side = side'
    · subst here
      rcases Bool.or_eq_true_iff.1 closing with interrupted | cancelled
      · exact Bool.or_eq_true_iff.2 (.inl interrupted)
      · refine Bool.or_eq_true_iff.2 (.inr ?_)
        simpa using (step_cancelled step cancelled).1
    · simpa [Chain.closing, Function.update_of_ne here] using closing
  | interrupt side' =>
    obtain rfl := Option.some.inj h
    by_cases here : side = side'
    · simp [Chain.closing, here]
    · simpa [Chain.closing, Function.update_of_ne here] using closing
  | dropStream side' =>
    obtain ⟨_, ⟨⟩⟩ := Option.ite_none_right_eq_some.1 h
    exact closing

theorem Sound.closing_of_returned (inv : Sound s) (returned : s.returned side = true) :
    s.closing side = true := by
  rcases Bool.or_eq_true_iff.1 returned with interrupted | ended
  · exact Bool.or_eq_true_iff.2 (.inl interrupted)
  · obtain ⟨result, ended⟩ := Option.isSome_iff_exists.1 ended
    obtain ⟨own, stage⟩ := CopyFaithful.result_finished ended .aToB
    exact Bool.or_eq_true_iff.2 (.inr ((inv.wellFormed side).ended _ _ stage))

/-- A relay goes on with what its tunnel half answers. -/
theorem relay_goes (running : s.interrupted side = false) {e : CopyEvent}
    (owed : Owed (.relay side e)) (step : ∃ relay, (s.relays side).step e = some relay)
    (answered : ∃ incoming, (answer (inward side) e).elim (some (s.halves (inward side)))
      (s.halves (inward side)).read = some incoming) :
    ∃ e u, Owed e ∧ chainStep s e = some u ∧ u ≠ s := by
  obtain ⟨relay, step⟩ := step
  obtain ⟨incoming, answered⟩ := answered
  have taken : ∃ u, s.relayStep side e = some u := by
    simp only [Chain.relayStep, running, Bool.false_eq_true, if_false, step, Option.bind_some,
      answered, Option.map_some]
    exact ⟨_, rfl⟩
  obtain ⟨u, taken⟩ := taken
  have less := relay_remaining owed.quiet taken
  exact ⟨_, u, owed, taken, fun same => less.ne (congrArg remaining same)⟩

/-- A copy that has not ended goes on: between two chunks because the token is cancelled, or because
the tunnel has bytes or their end for it. -/
theorem copy_goes (inv : Sound s) (running : s.interrupted side = false)
    (unfinished : ∀ own, ((s.relays side).copies d).stage ≠ .finished own)
    (ready : (s.relays side).cancelled = true ∨
      d = inward side ∧ (s.halves (inward side)).finished = true) :
    ∃ e u, Owed e ∧ chainStep s e = some u ∧ u ≠ s := by
  cases stage : ((s.relays side).copies d).stage with
  | finished own => exact absurd stage (unfinished own)
  | start =>
    refine relay_goes running (e := .start d) trivial ?_ ⟨_, rfl⟩
    simp only [Copying.step, stage]
    exact ⟨_, rfl⟩
  | writing chunk rest =>
    have left := (inv.wellFormed side).left d chunk rest stage
    refine relay_goes running (e := .wrote d (.ok rest.length)) (List.length_pos_of_ne_nil left)
      ?_ ⟨_, rfl⟩
    simp only [Copying.step, stage, fits, le_refl, decide_true, if_true]
    exact ⟨_, rfl⟩
  | reading =>
    cases cancelled : (s.relays side).cancelled with
    | true =>
      refine relay_goes running (e := .observe d) trivial ?_ ⟨_, rfl⟩
      simp only [Copying.step, stage, cancelled, if_true]
      exact ⟨_, rfl⟩
    | false =>
      rw [cancelled] at ready
      obtain ⟨rfl, finished⟩ := ready.resolve_left Bool.false_ne_true
      cases left : (s.halves (inward side)).inFlight with
      | nil =>
        refine relay_goes running (e := .read (inward side) (.ok [])) rfl ?_ ?_
        · simp only [Copying.step, stage, cancelled, bytesRead, List.length_nil, Nat.zero_le,
            and_self, if_true]
          exact ⟨_, rfl⟩
        · simp only [answer, if_true, Option.elim_some, Half.read, left, finished, and_self]
          exact ⟨_, rfl⟩
      | cons b more =>
        refine relay_goes running (e := .read (inward side) (.ok [b])) rfl ?_ ?_
        · have single : 1 ≤ defaultBufSize := by decide
          have small : (bytesRead (.ok [b])).length ≤ defaultBufSize := single
          simp only [Copying.step, stage, cancelled, small, and_self, if_true]
          exact ⟨_, rfl⟩
        · have front : [b] <+: b :: more := ⟨more, rfl⟩
          simp only [answer, if_true, Option.elim_some, Half.read, left, front]
          exact ⟨_, rfl⟩

/-- A relay on its way to its end gets there and drops the stream. -/
theorem closing_goes (inv : Sound s) (closing : s.closing side = true)
    (short : ¬ (s.returned side = true ∧ (s.halves (outward side)).finished = true)) :
    ∃ e u, Owed e ∧ chainStep s e = some u ∧ u ≠ s := by
  by_cases returned : s.returned side = true
  · have unfinished : (s.halves (outward side)).finished = false :=
      Bool.eq_false_iff.2 fun finished => short ⟨returned, finished⟩
    have less := finish_remaining unfinished
    exact ⟨.dropStream side, s.finish side, trivial, if_pos returned,
      fun same => less.ne (congrArg remaining same)⟩
  · have running : s.interrupted side = false := by
      cases here : s.interrupted side with
      | false => rfl
      | true => exact absurd (Bool.or_eq_true_iff.2 (.inl here)) returned
    have cancelled : (s.relays side).cancelled = true := by
      simpa [Chain.closing, running] using closing
    have going : (s.relays side).result = none := by
      simpa [Chain.returned, running] using returned
    have unfinished : ∃ d, ∀ own, ((s.relays side).copies d).stage ≠ .finished own := by
      by_contra all
      push Not at all
      obtain ⟨first, aToB⟩ := all .aToB
      obtain ⟨second, bToA⟩ := all .bToA
      cases first with
      | ok => simp [Copying.result, aToB, bToA] at going
      | error => simp [Copying.result, aToB, bToA] at going
    obtain ⟨d, unfinished⟩ := unfinished
    exact copy_goes inv running unfinished (.inl cancelled)

theorem not_settled_goes (inv : Sound s) (closing : s.closing side = true)
    (short : ¬ Settled s) : ∃ e u, Owed e ∧ chainStep s e = some u ∧ u ≠ s := by
  by_cases here : s.returned side = true ∧ (s.halves (outward side)).finished = true
  · have across : inward (other side) = outward side := by cases side <;> rfl
    have other_short : ¬ (s.returned (other side) = true ∧
        (s.halves (outward (other side))).finished = true) := by
      intro there
      refine short fun side' => ?_
      have cases_of : side' = side ∨ side' = other side := by
        cases side <;> cases side' <;> decide
      rcases cases_of with rfl | rfl
      · exact here
      · exact there
    cases closed : s.closing (other side) with
    | true => exact closing_goes inv closed other_short
    | false =>
      -- the other relay still reads what is on the tunnel, up to the end
      obtain ⟨running, open_token⟩ := Bool.or_eq_false_iff.1 closed
      refine copy_goes (d := inward (other side)) inv running (fun own stage => ?_)
        (.inr ⟨rfl, across ▸ here.2⟩)
      exact Bool.false_ne_true
        (open_token.symm.trans ((inv.wellFormed _).ended _ own stage))
  · exact closing_goes inv closing here

theorem step_uncancelled {c c' : Copying} {e : CopyEvent} (token : c.cancelled = false)
    (owed : Owed (.relay side e)) (more : answer (inward side) e ≠ some (.ok []))
    (moved : c.step e = some c') : c'.cancelled = false := by
  cases e with
  | start d =>
    simp only [Copying.step] at moved
    split at moved
    · obtain rfl := Option.some.inj moved
      simp [Copying.setCopy, token, Copy.isFinished]
    · cases moved
  | observe d =>
    simp only [Copying.step] at moved
    split at moved
    · simp [token] at moved
    · cases moved
  | read d result =>
    cases result with
    | error e => exact owed.elim
    | ok bytes =>
      obtain rfl : d = inward side := owed
      cases bytes with
      | nil => exact absurd (if_pos rfl) more
      | cons b bytes =>
        simp only [Copying.step] at moved
        split at moved
        · split_ifs at moved
          obtain rfl := Option.some.inj moved
          simp [Copying.setCopy, token, Copy.isFinished, Copy.afterRead]
        · cases moved
  | wrote d result =>
    cases result with
    | error e => exact owed.elim
    | ok n =>
      obtain ⟨n, rfl⟩ := Nat.exists_eq_succ_of_ne_zero (Nat.pos_iff_ne_zero.1 owed)
      simp only [Copying.step] at moved
      split at moved
      · split_ifs at moved
        obtain rfl := Option.some.inj moved
        simp only [Copying.setCopy, token, Bool.false_or, Copy.afterWrite, Copy.isFinished]
        split
        · rename_i stage
          split at stage
          · cases stage
          · cases stage
        · rfl
      · cases moved

/-- While neither relay is on its way to its end, nothing that comes by itself puts one there. -/
theorem owed_open (inv : Sound s) (still : ∀ side, s.closing side = false) {e : Event}
    (owed : Owed e) (h : chainStep s e = some u) : ∀ side, u.closing side = false := by
  have none_returned : ∀ side, s.returned side ≠ true := fun side returned =>
    Bool.false_ne_true ((still side).symm.trans (inv.closing_of_returned returned))
  cases e with
  | interrupt side => exact owed.elim
  | dropStream side =>
    obtain ⟨returned, ⟨⟩⟩ := Option.ite_none_right_eq_some.1 h
    exact absurd returned (none_returned side)
  | relay side e =>
    obtain ⟨relay, incoming, step, _, _, _, ended, rfl⟩ := relayStep_cases h
    obtain ⟨running, token⟩ := Bool.or_eq_false_iff.1 (still side)
    -- the end of a half is not there before its sender has returned
    have more : answer (inward side) e ≠ some (.ok []) := fun last =>
      none_returned _ (inv.ordered.finished _ (ended last).2)
    have uncancelled := step_uncancelled token owed more step
    intro side'
    by_cases here : side' = side
    · subst here
      simp [Chain.closing, running, uncancelled]
    · simpa [Chain.closing, Function.update_of_ne here] using still side'

end Settling

end Ombrac.StreamChain
