import Ombrac.NetstackDevice

set_option autoImplicit false

/-!
# The worker's rounds and its idle wait

A worker drains its work in rounds until one makes no progress, asks smoltcp when it has to be
polled next, and waits. The clock may advance between any two steps.
-/
namespace Ombrac.NetstackIdle
open LabelledSystem ProtocolPacket NetstackDevice

/-- What the worker calls of smoltcp and of its sockets: `σ` is the interface with the sockets, `ι`
what the streams offer and take when their sockets are handled. Times are counts of microseconds.
`poll` says whether anything was done, `handleIo` how many bytes moved, `prune` whether a socket
went. -/
structure Smoltcp (σ ι : Type) where
  new : σ
  acceptNewConnection : Bytes → σ → Except IoError Unit × σ
  poll : ℕ → Device → σ → Bool × Device × σ
  pollDelay : ℕ → σ → Option ℕ
  handleIo : ι → σ → ℕ × σ
  prune : σ → Bool × σ

/-- The next statement of `accept_loop`. `progress` and `bytes` are of the round at hand, `now` is
the time that was read last, and `entered` the time at which the arms of the `select!` were first
polled. -/
inductive Place where
  | draining (progress : Bool)
  | reading (progress : Bool)
  | polling (now : ℕ) (progress : Bool)
  | handling (progress : Bool)
  | pruning (progress : Bool) (bytes : ℕ)
  | readingAgain (progress : Bool) (bytes : ℕ)
  | pollingAgain (now : ℕ) (progress : Bool) (bytes : ℕ)
  | checking (progress : Bool) (bytes : ℕ)
  | yielding
  | idle
  | delaying (now : ℕ)
  | selecting (now : ℕ) (delay : Option ℕ)
  | waiting (now : ℕ) (delay : Option ℕ) (entered : ℕ)
  | exited
  deriving DecidableEq

/-- `lastPoll` is a history: the time that the last poll was told. -/
structure Worker (σ : Type) where
  clock : ℕ
  lastPoll : ℕ
  inbound : List Bytes
  inboundClosed : Bool
  notified : Bool
  shutdown : Bool
  device : Device
  sockets : σ
  place : Place

/-- `turn` is a statement of the worker; the others are of the clock, the dispatcher, the streams
and the channel of outgoing packets. -/
inductive Event (ι : Type) where
  | turn (input : ι)
  | tick (elapsed : ℕ)
  | arrive (frame : Bytes)
  | closeInbound
  | notify
  | signal
  | outbound (change : Outbound → Outbound)

/-- When the timer of the idle wait fires, where there is one. -/
def timerAt : Option ℕ → ℕ → Option ℕ
  | some delay, entered => if 0 < delay then some (entered + delay) else none
  | none, _ => none

section Loop
variable {σ ι : Type} (net : Smoltcp σ ι)

namespace Worker

def new (channelSize outboundSize : ℕ) : Worker σ where
  clock := 0
  lastPoll := 0
  inbound := []
  inboundClosed := false
  notified := false
  shutdown := false
  device := .new channelSize outboundSize
  sockets := net.new
  place := .draining false

def goTo (w : Worker σ) (place : Place) : Worker σ := { w with place := place }

def processInboundFrame (w : Worker σ) (frame : Bytes) : Worker σ :=
  let (accepted, sockets) := net.acceptNewConnection frame w.sockets
  { w with
    device := (w.device.processInboundFrame accepted frame).2
    sockets := sockets }

def TimerDue (w : Worker σ) (delay : Option ℕ) (entered : ℕ) : Prop :=
  ∃ fires ∈ timerAt delay entered, fires ≤ w.clock

instance (w : Worker σ) (delay : Option ℕ) (entered : ℕ) : Decidable (w.TimerDue delay entered) :=
  match h : timerAt delay entered with
  | none => isFalse fun ⟨_, there, _⟩ => nomatch h.symm.trans there
  | some fires =>
    if due : fires ≤ w.clock then isTrue ⟨fires, h, due⟩
    else isFalse fun ⟨_, there, due'⟩ => due (Option.some.inj (h.symm.trans there) ▸ due')

def select (w : Worker σ) (delay : Option ℕ) (entered : ℕ) : Option (Worker σ) :=
  if w.shutdown then some (w.goTo .exited)
  else
    match w.inbound with
    | frame :: rest =>
      some (({ w with inbound := rest }.processInboundFrame net frame).goTo (.draining false))
    | [] =>
      if w.inboundClosed then some (w.goTo .exited)
      else if w.notified then some ({ w with notified := false }.goTo (.draining false))
      else if w.TimerDue delay entered then some (w.goTo (.draining false))
      else none

def turn (w : Worker σ) (input : ι) : Option (Worker σ) :=
  match w.place with
  | .draining progress =>
    match w.inbound with
    | frame :: rest =>
      some (({ w with inbound := rest }.processInboundFrame net frame).goTo (.draining true))
    | [] => some (w.goTo (.reading progress))
  | .reading progress => some (w.goTo (.polling w.clock progress))
  | .polling now progress =>
    let (changed, device, sockets) := net.poll now w.device w.sockets
    some { w with
      lastPoll := now
      device := device
      sockets := sockets
      place := .handling (progress || changed) }
  | .handling progress =>
    let (bytes, sockets) := net.handleIo input w.sockets
    some { w with sockets := sockets, place := .pruning (progress || 0 < bytes) bytes }
  | .pruning progress bytes =>
    let (pruned, sockets) := net.prune w.sockets
    some { w with sockets := sockets, place := .readingAgain (progress || pruned) bytes }
  | .readingAgain progress bytes => some (w.goTo (.pollingAgain w.clock progress bytes))
  | .pollingAgain now progress bytes =>
    let (changed, device, sockets) := net.poll now w.device w.sockets
    some { w with
      lastPoll := now
      device := device
      sockets := sockets
      place := .checking (progress || changed) bytes }
  | .checking progress bytes =>
    if progress then
      some (w.goTo (if bytes = 0 ∧ w.inbound = [] then .yielding else .draining false))
    else some (w.goTo .idle)
  | .yielding => some (w.goTo (.draining false))
  | .idle => some (w.goTo (.delaying w.clock))
  | .delaying now => some (w.goTo (.selecting now (net.pollDelay now w.sockets)))
  | .selecting now delay => some (w.goTo (.waiting now delay w.clock))
  | .waiting _ delay entered => w.select net delay entered
  | .exited => none

end Worker

def workerStep (w : Worker σ) : Event ι → Option (Worker σ)
  | .turn input => w.turn net input
  | .tick elapsed => some { w with clock := w.clock + elapsed }
  | .arrive frame =>
    if w.inboundClosed then none else some { w with inbound := w.inbound ++ [frame] }
  | .closeInbound => some { w with inboundClosed := true }
  | .notify => some { w with notified := true }
  | .signal => some { w with shutdown := true }
  | .outbound change => some { w with device.outbound := change w.device.outbound }

def workerSystem (channelSize outboundSize : ℕ) : System (Worker σ) (Event ι) where
  initial := .new net channelSize outboundSize
  step := workerStep net

end Loop

/-! ## The wait -/

section Wait
variable {σ ι : Type} {net : Smoltcp σ ι}

def OtherReady (w : Worker σ) : Prop :=
  w.shutdown = true ∨ w.inbound ≠ [] ∨ w.inboundClosed = true ∨ w.notified = true

def Place.timeRead : Place → Option ℕ
  | .polling now _ | .pollingAgain now _ _ | .delaying now => some now
  | _ => none

/-- What the worker knows of the time: a time that was read for the next call is of after the last
poll, and a delay is what smoltcp said at such a time of the sockets as they are. -/
structure Current (net : Smoltcp σ ι) (w : Worker σ) : Prop where
  polled : w.lastPoll ≤ w.clock
  read : ∀ now, w.place.timeRead = some now → w.lastPoll ≤ now ∧ now ≤ w.clock
  selecting : ∀ now delay, w.place = .selecting now delay →
    w.lastPoll ≤ now ∧ now ≤ w.clock ∧ delay = net.pollDelay now w.sockets
  waiting : ∀ now delay entered, w.place = .waiting now delay entered →
    w.lastPoll ≤ now ∧ now ≤ entered ∧ entered ≤ w.clock ∧ delay = net.pollDelay now w.sockets

theorem select_some_iff {w : Worker σ} {delay : Option ℕ} {entered : ℕ} :
    (∃ v, w.select net delay entered = some v) ↔ OtherReady w ∨ w.TimerDue delay entered := by
  unfold Worker.select OtherReady
  by_cases shutdown : w.shutdown = true
  · rw [if_pos shutdown]
    exact iff_of_true ⟨_, rfl⟩ (.inl (.inl shutdown))
  · rw [if_neg shutdown]
    cases inbound : w.inbound with
    | cons frame rest => exact iff_of_true ⟨_, rfl⟩ (.inl (.inr (.inl (List.cons_ne_nil _ _))))
    | nil =>
      dsimp only
      split_ifs with closed notified due
      · exact iff_of_true ⟨_, rfl⟩ (.inl (.inr (.inr (.inl closed))))
      · exact iff_of_true ⟨_, rfl⟩ (.inl (.inr (.inr (.inr notified))))
      · exact iff_of_true ⟨_, rfl⟩ (.inr due)
      · refine iff_of_false (fun ⟨_, h⟩ => by cases h) ?_
        rintro ((h | h | h | h) | h)
        · exact shutdown h
        · exact h rfl
        · exact closed h
        · exact notified h
        · exact due h

/-- The wait is left for the drain of a new round or for good. -/
theorem select_place {w v : Worker σ} {delay : Option ℕ} {entered : ℕ}
    (h : w.select net delay entered = some v) : v.place = .draining false ∨ v.place = .exited := by
  unfold Worker.select at h
  by_cases shutdown : w.shutdown = true
  · rw [if_pos shutdown] at h
    obtain rfl := Option.some.inj h
    exact .inr rfl
  · rw [if_neg shutdown] at h
    cases inbound : w.inbound with
    | cons frame rest =>
      rw [inbound] at h
      obtain rfl := Option.some.inj h
      exact .inl rfl
    | nil =>
      rw [inbound] at h
      dsimp only at h
      split_ifs at h
      · obtain rfl := Option.some.inj h
        exact .inr rfl
      · obtain rfl := Option.some.inj h
        exact .inl rfl
      · obtain rfl := Option.some.inj h
        exact .inl rfl

theorem select_times {w v : Worker σ} {delay : Option ℕ} {entered : ℕ}
    (h : w.select net delay entered = some v) : v.clock = w.clock ∧ v.lastPoll = w.lastPoll := by
  unfold Worker.select at h
  by_cases shutdown : w.shutdown = true
  · rw [if_pos shutdown] at h
    obtain rfl := Option.some.inj h
    exact ⟨rfl, rfl⟩
  · rw [if_neg shutdown] at h
    cases inbound : w.inbound with
    | cons frame rest =>
      rw [inbound] at h
      obtain rfl := Option.some.inj h
      exact ⟨rfl, rfl⟩
    | nil =>
      rw [inbound] at h
      dsimp only at h
      split_ifs at h <;>
      · obtain rfl := Option.some.inj h
        exact ⟨rfl, rfl⟩

def Place.Busy : Place → Prop
  | .delaying _ | .selecting _ _ | .waiting _ _ _ => False
  | _ => True

inductive Turned (net : Smoltcp σ ι) (w : Worker σ) : Worker σ → Prop
  | works {v : Worker σ} (busy : v.place.Busy) (clock : v.clock = w.clock)
      (polled : v.lastPoll = w.lastPoll ∨ w.place.timeRead = some v.lastPoll)
      (read : ∀ now, v.place.timeRead = some now → v.lastPoll = w.lastPoll ∧ now = w.clock) :
      Turned net w v
  | reads (place : w.place = .idle) : Turned net w (w.goTo (.delaying w.clock))
  | asks {now : ℕ} (place : w.place = .delaying now) :
      Turned net w (w.goTo (.selecting now (net.pollDelay now w.sockets)))
  | enters {now : ℕ} {delay : Option ℕ} (place : w.place = .selecting now delay) :
      Turned net w (w.goTo (.waiting now delay w.clock))

/-- A statement that reads no time and tells none to smoltcp. -/
theorem Turned.of_untimed {w v : Worker σ} (busy : v.place.Busy) (clock : v.clock = w.clock)
    (polled : v.lastPoll = w.lastPoll) (unread : v.place.timeRead = none) : Turned net w v :=
  .works busy clock (.inl polled) fun _ read => by cases unread.symm.trans read

theorem turned {w v : Worker σ} {input : ι} (h : w.turn net input = some v) : Turned net w v := by
  unfold Worker.turn at h
  cases place : w.place with
  | draining progress =>
    rw [place] at h
    dsimp only at h
    split at h <;>
    · obtain rfl := Option.some.inj h
      exact .of_untimed trivial rfl rfl rfl
  | checking progress bytes =>
    rw [place] at h
    dsimp only at h
    split_ifs at h with again empty
    · obtain rfl := Option.some.inj h
      exact .of_untimed trivial rfl rfl rfl
    · obtain rfl := Option.some.inj h
      exact .of_untimed trivial rfl rfl rfl
    · obtain rfl := Option.some.inj h
      exact .of_untimed trivial rfl rfl rfl
  | waiting now delay entered =>
    rw [place] at h
    obtain ⟨clock, polled⟩ := select_times h
    have left : v.place.Busy ∧ v.place.timeRead = none := by
      obtain left | left := select_place h <;>
      · rw [left]
        exact ⟨trivial, rfl⟩
    exact .of_untimed left.1 clock polled left.2
  | idle =>
    rw [place] at h
    obtain rfl := Option.some.inj h
    exact .reads place
  | delaying now =>
    rw [place] at h
    obtain rfl := Option.some.inj h
    exact .asks place
  | selecting now delay =>
    rw [place] at h
    obtain rfl := Option.some.inj h
    exact .enters place
  | exited =>
    rw [place] at h
    cases h
  | reading | readingAgain =>
    rw [place] at h
    obtain rfl := Option.some.inj h
    exact .works trivial rfl (.inl rfl) fun now read => ⟨rfl, (Option.some.inj read).symm⟩
  | polling | pollingAgain =>
    rw [place] at h
    obtain rfl := Option.some.inj h
    exact .works trivial rfl (.inr (by rw [place]; rfl)) fun _ read => by cases read
  | handling | pruning | yielding =>
    rw [place] at h
    obtain rfl := Option.some.inj h
    exact .of_untimed trivial rfl rfl rfl

theorem current_of_busy {w : Worker σ} (busy : w.place.Busy) (polled : w.lastPoll ≤ w.clock)
    (read : ∀ now, w.place.timeRead = some now → w.lastPoll ≤ now ∧ now ≤ w.clock) :
    Current net w where
  polled := polled
  read := read
  selecting now delay place := by
    rw [place] at busy
    exact busy.elim
  waiting now delay entered place := by
    rw [place] at busy
    exact busy.elim

theorem turn_current {w v : Worker σ} {input : ι} (current : Current net w)
    (h : w.turn net input = some v) : Current net v := by
  cases turned h with
  | works busy clock polled read =>
    have past : v.lastPoll ≤ v.clock := by
      rw [clock]
      obtain same | told := polled
      · rw [same]
        exact current.polled
      · exact (current.read _ told).2
    refine current_of_busy busy past fun now here => ?_
    obtain ⟨same, rfl⟩ := read now here
    rw [same, clock]
    exact ⟨current.polled, le_rfl⟩
  | reads =>
    refine ⟨current.polled, fun now here => ?_, nofun, nofun⟩
    obtain rfl := Option.some.inj here
    exact ⟨current.polled, le_rfl⟩
  | @asks now place =>
    obtain ⟨after, past⟩ := current.read now (by rw [place]; rfl)
    refine ⟨current.polled, nofun, fun now' delay here => ?_, nofun⟩
    obtain ⟨rfl, rfl⟩ := Place.selecting.inj here
    exact ⟨after, past, rfl⟩
  | @enters now delay place =>
    obtain ⟨after, past, asked⟩ := current.selecting now delay place
    refine ⟨current.polled, nofun, nofun, fun now' delay' entered here => ?_⟩
    obtain ⟨rfl, rfl, rfl⟩ := Place.waiting.inj here
    exact ⟨after, past, le_rfl, asked⟩

/-- What others do leaves the worker where it is, and its sockets as they are. -/
theorem Current.frame {w v : Worker σ} (current : Current net w) (place : v.place = w.place)
    (sockets : v.sockets = w.sockets) (polled : v.lastPoll = w.lastPoll)
    (clock : w.clock ≤ v.clock) : Current net v := by
  refine ⟨?_, fun now here => ?_, fun now delay here => ?_, fun now delay entered here => ?_⟩
  · rw [polled]
    exact current.polled.trans clock
  · rw [place] at here
    obtain ⟨after, past⟩ := current.read now here
    exact ⟨polled ▸ after, past.trans clock⟩
  · obtain ⟨after, past, asked⟩ := current.selecting now delay (place ▸ here)
    exact ⟨polled ▸ after, past.trans clock, sockets ▸ asked⟩
  · obtain ⟨after, past, before, asked⟩ := current.waiting now delay entered (place ▸ here)
    exact ⟨polled ▸ after, past, before.trans clock, sockets ▸ asked⟩

theorem step_current {w v : Worker σ} {e : Event ι} (current : Current net w)
    (h : workerStep net w e = some v) : Current net v := by
  cases e with
  | turn input => exact turn_current current h
  | tick elapsed =>
    obtain rfl := Option.some.inj h
    exact current.frame rfl rfl rfl (Nat.le_add_right _ _)
  | arrive frame =>
    unfold workerStep at h
    dsimp only at h
    split_ifs at h
    obtain rfl := Option.some.inj h
    exact current.frame rfl rfl rfl le_rfl
  | closeInbound | notify | signal | outbound =>
    obtain rfl := Option.some.inj h
    exact current.frame rfl rfl rfl le_rfl

theorem visits_current {channelSize outboundSize : ℕ} {es : List (Event ι)} {w : Worker σ}
    (visit : Visits (workerSystem net channelSize outboundSize) es w) : Current net w := by
  obtain ⟨_, _, run⟩ := visit
  have start : Current net (Worker.new net channelSize outboundSize) :=
    current_of_busy trivial le_rfl fun _ read => by cases read
  exact run.invariant start fun _ _ _ current h => step_current current h

/-- The worker leaves its wait by the timer, once it has fired, or by another arm. -/
theorem wait_left_iff {w : Worker σ} {now : ℕ} {delay : Option ℕ} {entered : ℕ} (input : ι)
    (place : w.place = .waiting now delay entered) :
    (∃ v, workerStep net w (.turn input) = some v) ↔ OtherReady w ∨ w.TimerDue delay entered := by
  have same : workerStep net w (.turn input) = w.select net delay entered := by
    change w.turn net input = _
    unfold Worker.turn
    rw [place]
  rw [same]
  exact select_some_iff

end Wait

/-! ## Deadlines -/

section Deadline
variable {σ ι : Type} (net : Smoltcp σ ι)

/-- `poll_delay` is the time that is left to a deadline, and zero when a poll is due. -/
def Documented (deadline : σ → Option ℕ) : Prop :=
  ∀ now s, net.pollDelay now s = (deadline s).map (· - now)

/-- In the idle wait there is a timer that fires after the delay, and a deadline that is due is not
left to the other arms. -/
def Wakes (w : Worker σ) : Prop :=
  ∀ now delay entered, w.place = .waiting now delay entered →
    (∀ d, delay = some d → timerAt delay entered = some (entered + d)) ∧
      (net.pollDelay w.clock w.sockets = some 0 → timerAt delay entered ≠ none)

/-- The idle wait as it is. The delay was asked for at `now`, after the round's last poll, and is
of the sockets as they are. A deadline that was still to come has a timer, which is late by the
time between the question and the wait and ends the wait when it fires. There is none exactly if
no deadline was to come, and then only the other arms end the wait. -/
structure Sleeps (deadline : σ → Option ℕ) (w : Worker σ) (now : ℕ) (delay : Option ℕ)
    (entered : ℕ) : Prop where
  asked : w.lastPoll ≤ now ∧ now ≤ entered ∧ delay = net.pollDelay now w.sockets
  timer : ∀ due, deadline w.sockets = some due → now < due →
    timerAt delay entered = some (due + (entered - now)) ∧
      (due + (entered - now) ≤ w.clock → ∀ input, ∃ v, workerStep net w (.turn input) = some v)
  untimed : timerAt delay entered = none ↔ ∀ due, deadline w.sockets = some due → due ≤ now
  others : timerAt delay entered = none →
    ∀ input, (∃ v, workerStep net w (.turn input) = some v) ↔ OtherReady w

end Deadline

/-- The timer of the wait, in terms of the deadline. -/
theorem timerAt_deadline (deadline : Option ℕ) {now entered : ℕ} (before : now ≤ entered) :
    timerAt (deadline.map (· - now)) entered =
      (deadline.filter fun due => decide (now < due)).map (· + (entered - now)) := by
  cases deadline with
  | none => rfl
  | some due =>
    by_cases ahead : now < due
    · simp only [timerAt, Option.map_some, Option.filter_some, ahead, decide_true, if_true,
        Nat.sub_pos_of_lt ahead]
      exact congrArg some (by omega)
    · simp [timerAt, Option.filter_some, ahead, Nat.le_of_not_lt ahead]

/-- In every reachable state of the idle wait the worker sleeps so. -/
theorem idle_wait_timed {σ ι : Type} (net : Smoltcp σ ι) (deadline : σ → Option ℕ)
    (documented : Documented net deadline) (channelSize outboundSize : ℕ) (es : List (Event ι))
    (w : Worker σ) (now : ℕ) (delay : Option ℕ) (entered : ℕ)
    (visit : Visits (workerSystem net channelSize outboundSize) es w)
    (place : w.place = .waiting now delay entered) : Sleeps net deadline w now delay entered := by
  obtain ⟨after, before, _, asked⟩ := (visits_current visit).waiting now delay entered place
  have fires := timerAt_deadline (deadline w.sockets) before
  rw [← documented now w.sockets, ← asked] at fires
  refine ⟨⟨after, before, asked⟩, fun due there ahead => ?_, ?_, fun none input => ?_⟩
  · have timer : timerAt delay entered = some (due + (entered - now)) := by
      rw [fires, there]
      simp [Option.filter_some, ahead]
    exact ⟨timer, fun past input => (wait_left_iff input place).2 (.inr ⟨_, timer, past⟩)⟩
  · rw [fires, Option.map_eq_none_iff, Option.filter_eq_none_iff]
    simp
  · refine (wait_left_iff input place).trans (or_iff_left ?_)
    rintro ⟨time, there, _⟩
    cases none.symm.trans there

/-! ## A connection that answers -/

/-- A connection that sends a byte for each frame, and again when five microseconds have gone by;
its state is when that is. -/
def answering : Smoltcp (Option ℕ) Unit where
  new := none
  acceptNewConnection _ s := (.ok (), s)
  poll now device s :=
    match device.receive with
    | (some _, device) => (true, device.consume [0], some (now + 5))
    | (none, device) =>
      if s.any (· ≤ now) then
        match device.transmit with
        | (true, device) => (true, device.consume [0], some (now + 5))
        | (false, device) => (false, device, s)
      else (false, device, s)
  pollDelay now s := s.map (· - now)
  handleIo _ s := (0, s)
  prune s := (false, s)

/-- A frame is answered in the first round, nothing is left for the second; then some time goes by
before smoltcp is asked, and some more before the wait. -/
def untilIdle (asked entered : ℕ) : List (Event Unit) :=
  .arrive [7] :: List.replicate 18 (.turn ()) ++
    [.tick asked, .turn (), .turn (), .tick entered, .turn ()]

/-- The worker in the wait. -/
def asleep (asked entered : ℕ) : Worker (Option ℕ) where
  clock := asked + entered
  lastPoll := 0
  inbound := []
  inboundClosed := false
  notified := false
  shutdown := false
  device := ⟨⟨1, [], [[7]], false⟩, ⟨1, [[0]], 0, false⟩⟩
  sockets := some 5
  place := .waiting asked (some (5 - asked)) (asked + entered)

/-- The question comes two microseconds after the last poll and one before the wait: the timer is
set for one microsecond after the deadline. -/
theorem idle_wait_timed_answering :
    Sleeps answering id (asleep 2 1) 2 (some 3) 3 ∧ timerAt (some 3) 3 = some (5 + 1) :=
  ⟨idle_wait_timed answering id (fun _ _ => rfl) 1 1 (untilIdle 2 1) (asleep 2 1) 2 (some 3) 3
    (runs_of_exec rfl).visits rfl, rfl⟩

/-- The time until the retransmission goes by between the last poll and the question for the delay:
the delay is zero, and the worker waits for others to wake it. -/
theorem due_unwatched :
    ¬ ∀ (σ ι : Type) (net : Smoltcp σ ι) (channelSize outboundSize : ℕ) (es : List (Event ι))
        (w : Worker σ), (∃ deadline, Documented net deadline) →
      Visits (workerSystem net channelSize outboundSize) es w → Wakes net w := by
  intro wakes
  have run : Runs (workerSystem answering 1 1) (untilIdle 5 0) (asleep 5 0) := runs_of_exec rfl
  have documented : Documented answering id := fun _ _ => rfl
  have timer := (wakes _ _ answering 1 1 _ _ ⟨_, documented⟩ run.visits 5 (some 0) 5 rfl).1 0 rfl
  cases timer

end Ombrac.NetstackIdle
