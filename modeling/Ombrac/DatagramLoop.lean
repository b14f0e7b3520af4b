import Ombrac.LabelledSystem
import Ombrac.ProtocolCodec
import Ombrac.ReassemblyCompletion

set_option autoImplicit false

/-!
# The client's datagram loop

`UdpDispatcher::run` makes dispatched packets and pauses of what `with_retry` gives it. The
`read_datagram` inside reads on past whatever does not decode or completes no packet; only an error
of `with_retry` ends it without one, and only a packet resets the delay.
-/
namespace Ombrac.DatagramLoop
open LabelledSystem ProtocolPacket ProtocolCodec BinaryFormat UdpReassembly
open ReassemblyCompletion (reassemblerStep reassemblerSystem)
open UdpReassembler (Delivery)

/-- In seconds. -/
def datagramInitialDelay : ℕ := 1
def datagramMaxDelay : ℕ := 60

/-- What the loop does, seen from outside. -/
inductive Action where
  | dispatch (packet : Delivery)
  | sleep (delay : ℕ)
  deriving DecidableEq

inductive Stage where
  | selecting
  | dispatching
  | sleeping
  | stopped
  deriving DecidableEq

/-- What reaches the reassembler: the connection's datagrams, and evictions of its cache. -/
inductive Input where
  | datagram (packetBytes : Bytes)
  | evict (key : CacheKey)

structure Loop where
  reassembler : UdpReassembler
  currentDelay : ℕ
  cancelled : Bool
  stage : Stage
  inputs : List Input
  actions : List Action

inductive Event where
  | cancel
  | observeCancel
  | read (result : Except IoError Bytes)
  | evict (key : CacheKey)
  | dispatched
  | wake

section System
variable (display : Fault → String)

namespace Loop

def new : Loop := ⟨.new, datagramInitialDelay, false, .selecting, [], []⟩

def dispatch (s : Loop) (packet : Delivery) : Loop :=
  { s with
    currentDelay := if s.currentDelay ≠ datagramInitialDelay then datagramInitialDelay
      else s.currentDelay
    stage := .dispatching
    actions := s.actions ++ [.dispatch packet] }

def readDatagram (s : Loop) : Except IoError Bytes → Loop
  | .error _ => { s with stage := .sleeping, actions := s.actions ++ [.sleep s.currentDelay] }
  | .ok packetBytes =>
    let s := { s with inputs := s.inputs ++ [.datagram packetBytes] }
    match decode display packetBytes with
    | .error _ => s
    | .ok packet =>
      let (result, reassembler) := s.reassembler.process packet
      let s := { s with reassembler := reassembler }
      match result with
      | .ok (some delivery) => s.dispatch delivery
      | _ => s

end Loop

/-- The select is not biased, and neither the dispatch nor the pause is cancelled. -/
def loopStep (s : Loop) : Event → Option Loop
  | .cancel => some { s with cancelled := true }
  | .observeCancel =>
    if s.stage = .selecting ∧ s.cancelled = true then some { s with stage := .stopped } else none
  | .read result => if s.stage = .selecting then some (s.readDatagram display result) else none
  | .evict key =>
    some { s with
      reassembler := s.reassembler.invalidate key, inputs := s.inputs ++ [.evict key] }
  | .dispatched => if s.stage = .dispatching then some { s with stage := .selecting } else none
  | .wake =>
    if s.stage = .sleeping then
      some { s with
        currentDelay := min (s.currentDelay * 2) datagramMaxDelay
        stage := .selecting }
    else none

def loopSystem : System Loop Event := ⟨.new, loopStep display⟩

end System

/-! ## The packets -/

section Packets
variable {display : Fault → String} {s u : Loop}

def Action.packet : Action → Option Delivery
  | .dispatch packet => some packet
  | .sleep _ => none

theorem packets_concat (actions : List Action) (action : Action) :
    (actions ++ [action]).filterMap Action.packet =
      actions.filterMap Action.packet ++ action.packet.toList := by
  rw [List.filterMap_append]
  cases action <;> rfl

/-- What `process` is given: the datagrams that decode. The others leave no trace. -/
def Input.event (display : Fault → String) : Input → Option ReassemblyCompletion.Event
  | .datagram packetBytes => (decode display packetBytes).toOption.map .process
  | .evict key => some (.evict key)

def reassemblerEvents (display : Fault → String) (inputs : List Input) :
    List ReassemblyCompletion.Event :=
  inputs.filterMap (Input.event display)

def deliveryOf (r : UdpReassembler) : ReassemblyCompletion.Event → Option Delivery
  | .process packet => (r.process packet).1.toOption.join
  | .evict _ => none

def completed (r : UdpReassembler) : List ReassemblyCompletion.Event → List Delivery
  | [] => []
  | e :: es =>
    (deliveryOf r e).toList ++ ((reassemblerStep r e).elim [] fun next => completed next es)

theorem completed_append (r : UdpReassembler) (before : List ReassemblyCompletion.Event)
    (e : ReassemblyCompletion.Event) {u : UdpReassembler}
    (passed : execFrom reassemblerSystem r before = some u) :
    completed r (before ++ [e]) = completed r before ++ (deliveryOf u e).toList := by
  induction before generalizing r with
  | nil =>
    obtain rfl := Option.some.inj passed
    simp only [List.nil_append, completed]
    cases reassemblerStep r e <;> simp
  | cons f before ih =>
    obtain ⟨w, step, rest⟩ := Option.bind_eq_some_iff.1 passed
    simp only [List.cons_append, completed]
    rw [show reassemblerStep r f = some w from step, Option.elim_some, Option.elim_some, ih w rest,
      List.append_assoc]

def Reassembled (display : Fault → String) (s : Loop) : Prop :=
  exec reassemblerSystem (reassemblerEvents display s.inputs) = some s.reassembler ∧
    s.actions.filterMap Action.packet = completed .new (reassemblerEvents display s.inputs)

/-- A further event of the reassembler. -/
theorem Reassembled.more (inv : Reassembled display s) {input : Input}
    {e : ReassemblyCompletion.Event} {next : UdpReassembler} (seen : input.event display = some e)
    (step : reassemblerStep s.reassembler e = some next) :
    exec reassemblerSystem (reassemblerEvents display (s.inputs ++ [input])) = some next ∧
      s.actions.filterMap Action.packet ++ (deliveryOf s.reassembler e).toList =
        completed .new (reassemblerEvents display (s.inputs ++ [input])) := by
  obtain ⟨reassembler, packets⟩ := inv
  have last : reassemblerEvents display (s.inputs ++ [input]) =
      reassemblerEvents display s.inputs ++ [e] := by
    simp [reassemblerEvents, seen]
  rw [last]
  refine ⟨?_, ?_⟩
  · rw [exec, execFrom_append, ← exec, reassembler]
    change (reassemblerStep s.reassembler e).bind _ = _
    rw [step]
    rfl
  · rw [packets]
    exact (completed_append _ _ _ reassembler).symm

theorem readDatagram_reassembled (inv : Reassembled display s) (result : Except IoError Bytes) :
    Reassembled display (s.readDatagram display result) := by
  cases result with
  | error e =>
    obtain ⟨reassembler, packets⟩ := inv
    refine ⟨reassembler, ?_⟩
    change (s.actions ++ [Action.sleep s.currentDelay]).filterMap Action.packet = _
    rw [packets_concat, packets]
    exact List.append_nil _
  | ok bytes =>
    simp only [Loop.readDatagram]
    cases decoded : (decode display bytes : Except _ UdpPacket) with
    | error e =>
      have same : reassemblerEvents display (s.inputs ++ [.datagram bytes]) =
          reassemblerEvents display s.inputs := by
        simp [reassemblerEvents, Input.event, decoded, Except.toOption]
      exact ⟨by rw [same]; exact inv.1, by rw [same]; exact inv.2⟩
    | ok packet =>
      have seen : Input.event display (.datagram bytes) = some (.process packet) := by
        simp [Input.event, decoded, Except.toOption]
      have step : reassemblerStep s.reassembler (.process packet) =
          some (s.reassembler.process packet).2 := rfl
      have more := inv.more seen step
      simp only [deliveryOf] at more
      dsimp only
      rcases processed : s.reassembler.process packet with ⟨(_ | _ | delivery), next⟩
      · simpa [Reassembled, processed, Except.toOption] using more
      · simpa [Reassembled, processed, Except.toOption] using more
      · simpa [Reassembled, Loop.dispatch, packets_concat, Action.packet, processed,
          Except.toOption] using more

theorem loopStep_reassembled (inv : Reassembled display s) {e : Event}
    (h : loopStep display s e = some u) : Reassembled display u := by
  cases e with
  | cancel =>
    obtain rfl := Option.some.inj h
    exact inv
  | observeCancel =>
    obtain ⟨_, ⟨⟩⟩ := Option.ite_none_right_eq_some.1 h
    exact inv
  | read result =>
    obtain ⟨_, ⟨⟩⟩ := Option.ite_none_right_eq_some.1 h
    exact readDatagram_reassembled inv result
  | evict key =>
    obtain rfl := Option.some.inj h
    have seen : Input.event display (.evict key) = some (.evict key) := rfl
    simpa [Reassembled, deliveryOf] using inv.more seen rfl
  | dispatched =>
    obtain ⟨_, ⟨⟩⟩ := Option.ite_none_right_eq_some.1 h
    exact inv
  | wake =>
    obtain ⟨_, ⟨⟩⟩ := Option.ite_none_right_eq_some.1 h
    exact inv

/-- In every run, the packets that the loop dispatches are in order those that the reassembler
alone completes from the datagrams that decode: errors of the connection, pauses and what is
discarded lose none, repeat none and put none out of order. -/
theorem dispatched_packets (es : List Event) (s : Loop) (run : Runs (loopSystem display) es s) :
    s.actions.filterMap Action.packet = completed .new (reassemblerEvents display s.inputs) :=
  (run.invariant (I := Reassembled display) ⟨rfl, rfl⟩
    fun _ _ _ inv step => loopStep_reassembled inv step).2

/-- A packet whose fragments are read before and after a malformed datagram and an error. -/
def interrupted : List Event :=
  [.read (.ok [1, 7, 9, 0, 2, 1, 2, 1, 100, 53, 1, 1]), .read (.ok []),
    .read (.error ⟨.connectionReset, "reset"⟩), .wake, .read (.ok [1, 7, 9, 1, 2, 0, 1, 2]),
    .dispatched]

theorem dispatched_packets_interrupted :
    ∃ s, exec (loopSystem fun _ => "") interrupted = some s ∧
      s.actions.filterMap Action.packet = [(7, .domain [100] 53, [1, 2])] ∧
      s.actions.filterMap Action.packet =
        completed .new (reassemblerEvents (fun _ => "") s.inputs) :=
  ⟨_, rfl, rfl, dispatched_packets interrupted _ (runs_of_exec rfl)⟩

end Packets

/-! ## The pauses -/

section Pauses
variable {display : Fault → String} {s u : Loop}

/-- The pauses since the last packet. -/
def streak (actions : List Action) : ℕ :=
  actions.foldl
    (fun n action =>
      match action with
      | .dispatch _ => 0
      | .sleep _ => n + 1)
    0

def backoff (n : ℕ) : ℕ := min (datagramInitialDelay * 2 ^ n) datagramMaxDelay

theorem backoff_succ (n : ℕ) : min (backoff n * 2) datagramMaxDelay = backoff (n + 1) := by
  have double : 2 ^ (n + 1) = 2 ^ n * 2 := pow_succ 2 n
  simp only [backoff, datagramInitialDelay, datagramMaxDelay]
  omega

theorem streak_sleep (actions : List Action) (delay : ℕ) :
    streak (actions ++ [.sleep delay]) = streak actions + 1 := by
  simp [streak]

theorem streak_dispatch (actions : List Action) (packet : Delivery) :
    streak (actions ++ [.dispatch packet]) = 0 := by
  simp [streak]

/-- Every pause is as long as the pauses before it ask for. -/
def PausesPaced (actions : List Action) : Prop :=
  ∀ before delay after, actions = before ++ .sleep delay :: after → delay = backoff (streak before)

theorem PausesPaced.concat {actions : List Action} (paced : PausesPaced actions) {action : Action}
    (last : ∀ delay, action = .sleep delay → delay = backoff (streak actions)) :
    PausesPaced (actions ++ [action]) := by
  intro before delay after split
  rcases List.eq_nil_or_concat after with rfl | ⟨after, final, rfl⟩
  · obtain ⟨rfl, rfl⟩ := List.append_inj' split rfl |>.imp_right List.singleton_inj.1
    exact last delay rfl
  · rw [List.concat_eq_append, ← List.cons_append, ← List.append_assoc] at split
    exact paced before delay after (List.append_inj' split rfl).1

/-- What the loop waits for next. -/
structure Paced (s : Loop) : Prop where
  pauses : PausesPaced s.actions
  awake : s.stage ≠ .sleeping → s.currentDelay = backoff (streak s.actions)
  asleep : s.stage = .sleeping →
    min (s.currentDelay * 2) datagramMaxDelay = backoff (streak s.actions)

theorem Paced.dispatch (paced : Paced s) (packet : Delivery) : Paced (s.dispatch packet) := by
  refine ⟨paced.pauses.concat nofun, fun _ => ?_, nofun⟩
  rw [show streak (s.dispatch packet).actions = 0 from streak_dispatch s.actions packet]
  simp only [Loop.dispatch]
  split <;> simp_all [backoff, datagramInitialDelay, datagramMaxDelay]

theorem readDatagram_paced (paced : Paced s) (idle : s.stage = .selecting)
    (result : Except IoError Bytes) : Paced (s.readDatagram display result) := by
  have current : s.currentDelay = backoff (streak s.actions) := paced.awake (by simp [idle])
  cases result with
  | error e =>
    refine ⟨paced.pauses.concat fun delay same => ?_, nofun, fun _ => ?_⟩
    · cases same
      exact current
    · change min (s.currentDelay * 2) _ = backoff (streak (s.actions ++ [.sleep s.currentDelay]))
      rw [streak_sleep, current, backoff_succ]
  | ok bytes =>
    simp only [Loop.readDatagram]
    cases (decode display bytes : Except _ UdpPacket) with
    | error e => exact ⟨paced.pauses, paced.awake, paced.asleep⟩
    | ok packet =>
      dsimp only
      rcases s.reassembler.process packet with ⟨(_ | _ | delivery), next⟩
      · exact ⟨paced.pauses, paced.awake, paced.asleep⟩
      · exact ⟨paced.pauses, paced.awake, paced.asleep⟩
      · have kept : Paced { s with
            reassembler := next, inputs := s.inputs ++ [.datagram bytes] } :=
          ⟨paced.pauses, paced.awake, paced.asleep⟩
        exact kept.dispatch delivery

theorem loopStep_paced (paced : Paced s) {e : Event} (h : loopStep display s e = some u) :
    Paced u := by
  cases e with
  | cancel =>
    obtain rfl := Option.some.inj h
    exact ⟨paced.pauses, paced.awake, paced.asleep⟩
  | observeCancel =>
    obtain ⟨⟨idle, _⟩, ⟨⟩⟩ := Option.ite_none_right_eq_some.1 h
    exact ⟨paced.pauses, fun _ => paced.awake (by simp [idle]), nofun⟩
  | read result =>
    obtain ⟨idle, ⟨⟩⟩ := Option.ite_none_right_eq_some.1 h
    exact readDatagram_paced paced idle result
  | evict key =>
    obtain rfl := Option.some.inj h
    exact ⟨paced.pauses, paced.awake, paced.asleep⟩
  | dispatched =>
    obtain ⟨busy, ⟨⟩⟩ := Option.ite_none_right_eq_some.1 h
    exact ⟨paced.pauses, fun _ => paced.awake (by simp [busy]), nofun⟩
  | wake =>
    obtain ⟨pausing, ⟨⟩⟩ := Option.ite_none_right_eq_some.1 h
    exact ⟨paced.pauses, fun _ => paced.asleep pausing, nofun⟩

/-- In every run, each pause is one second doubled for every pause since the last packet, and at
most a minute. Datagrams that complete no packet do not shorten it. -/
theorem pauses_backoff (es : List Event) (s : Loop) (run : Runs (loopSystem display) es s)
    (before : List Action) (delay : ℕ) (after : List Action)
    (pause : s.actions = before ++ .sleep delay :: after) :
    delay = min (datagramInitialDelay * 2 ^ streak before) datagramMaxDelay := by
  have start : Paced Loop.new := by
    refine ⟨fun before delay after split => ?_, fun _ => rfl, nofun⟩
    cases before <;> cases split
  have paced := run.invariant (I := Paced) start fun _ _ _ inv step => loopStep_paced inv step
  exact paced.pauses before delay after pause

def lost : List Event :=
  [.read (.error ⟨.connectionReset, "reset"⟩), .wake, .read (.ok []),
    .read (.error ⟨.connectionReset, "reset"⟩)]

theorem pauses_backoff_lost :
    ∃ s, exec (loopSystem fun _ => "") lost = some s ∧ s.actions = [.sleep 1] ++ .sleep 2 :: [] ∧
      2 = min (datagramInitialDelay * 2 ^ streak [.sleep 1]) datagramMaxDelay := by
  have run : exec (loopSystem fun _ => "") lost = some _ := rfl
  exact ⟨_, run, rfl, pauses_backoff lost _ (runs_of_exec run) [.sleep 1] 2 [] rfl⟩

end Pauses
end Ombrac.DatagramLoop
