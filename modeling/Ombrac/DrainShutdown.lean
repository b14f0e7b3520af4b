import Mathlib.Data.Finset.Card
import Mathlib.Tactic.Ring
import Ombrac.LabelledSystem

set_option autoImplicit false

/-!
# Shutting the server down with a drain

The tasks of the streams move the counters while `shutdown_with_drain` polls a snapshot of them,
loaded one counter after the other. A stream is active from its increment of `streams_opened` to
that of `streams_closed`.
-/
namespace Ombrac.DrainShutdown
open LabelledSystem

inductive Counter where
  | connectionsAccepted | connectionsRejected | connectionsAuthFailed | streamsOpened
  | streamsClosed | streamsFailed | udpSessionsOpened | udpSessionsClosed | bytesRx | bytesTx
  | reassembliesCompleted | reassemblyDrops | reconnectAttempts | reconnectSucceeded
  deriving DecidableEq, Repr

abbrev Counters := Counter → UInt64

abbrev MetricsSnapshot := Counter → UInt64

def fetchAdd (counters : Counters) (c : Counter) (n : UInt64) : Counters :=
  Function.update counters c (counters c + n)

/-- The order in which `Metrics::snapshot` loads the counters. -/
def loadOrder : List Counter :=
  [.connectionsAccepted, .connectionsRejected, .connectionsAuthFailed, .streamsOpened,
    .streamsClosed, .streamsFailed, .udpSessionsOpened, .udpSessionsClosed, .bytesRx, .bytesTx,
    .reassembliesCompleted, .reassemblyDrops, .reconnectAttempts, .reconnectSucceeded]

def saturatingSub (a b : UInt64) : UInt64 := if b ≤ a then a - b else 0

def activeStreams (snap : MetricsSnapshot) : UInt64 :=
  saturatingSub (snap .streamsOpened) (snap .streamsClosed)

/-- Where the poll is: waiting for the next tick, in a snapshot of which `loaded` counters are
there, or done with what `shutdown_with_drain` returns. -/
inductive Drain where
  | waiting
  | loading (loaded : ℕ) (snap : MetricsSnapshot)
  | finished (drained : Bool)

/-- The streams that have made each increment, with two histories: `round` counts the snapshots,
and `calm` tells whether no stream was active at some instant since the first load of the last
one. -/
structure Server where
  counters : Counters
  opened : Finset ℕ
  closed : Finset ℕ
  drain : Drain
  round : ℕ
  calm : Bool

def Server.new : Server := ⟨fun _ => 0, ∅, ∅, .waiting, 0, false⟩

inductive Event where
  | openStream (n : ℕ)
  | closeStream (n : ℕ)
  | bump (c : Counter) (n : UInt64)
  | tick
  | load (deadlinePassed : Bool)

def Server.Idle (s : Server) : Prop := s.opened ⊆ s.closed

instance (s : Server) : Decidable s.Idle := inferInstanceAs (Decidable (s.opened ⊆ s.closed))

/-- Between the first and the last load of a snapshot. -/
def Server.InSnapshot (s : Server) : Prop :=
  ∃ loaded snap, s.drain = .loading (loaded + 1) snap

def observe (s : Server) : Server :=
  match s.drain with
  | .loading (_ + 1) _ => { s with calm := s.calm || decide s.Idle }
  | .finished _ => s
  | _ => { s with calm := false }

def decideDrain (snap : MetricsSnapshot) (deadlinePassed : Bool) : Drain :=
  if activeStreams snap = 0 then .finished true
  else if deadlinePassed then .finished false
  else .waiting

def afterLoad (loaded : ℕ) (snap : MetricsSnapshot) (deadlinePassed : Bool) : Drain :=
  if loaded = loadOrder.length then decideDrain snap deadlinePassed else .loading loaded snap

def move (s : Server) : Event → Option Server
  | .openStream n =>
    if n ∉ s.opened then
      some { s with
        counters := fetchAdd s.counters .streamsOpened 1, opened := insert n s.opened }
    else none
  | .closeStream n =>
    if n ∈ s.opened ∧ n ∉ s.closed then
      some { s with
        counters := fetchAdd s.counters .streamsClosed 1, closed := insert n s.closed }
    else none
  | .bump c n =>
    if c ≠ .streamsOpened ∧ c ≠ .streamsClosed then
      some { s with counters := fetchAdd s.counters c n }
    else none
  | .tick =>
    match s.drain with
    | .waiting => some { s with drain := .loading 0 fun _ => 0, round := s.round + 1 }
    | _ => none
  | .load deadlinePassed =>
    match s.drain with
    | .loading loaded snap =>
      (loadOrder[loaded]?).map fun c =>
        let snap := Function.update snap c (s.counters c)
        { s with drain := afterLoad (loaded + 1) snap deadlinePassed }
    | _ => none

def server : System Server Event := ⟨.new, fun s e => (move s e).map observe⟩

/-! ## What a snapshot can miss -/

/-- No stream opens between the loads of `streams_opened` and `streams_closed`, unless there was a
calm instant in the snapshot before; and fewer than 2⁶⁴ streams are opened. -/
def Guarded (s : Server) : Event → Prop
  | .openStream _ =>
    s.opened.card + 1 < 2 ^ 64 ∧ ∀ snap, s.drain = .loading 4 snap → s.calm = true
  | _ => True

/-- What the loads so far say while there has been no calm instant: nothing was opened after
`streams_opened` was loaded, and the two values show an active stream once both are there. -/
def Telling (s : Server) : Prop :=
  ∀ loaded snap, s.drain = .loading loaded snap → s.calm = false →
    (loaded = 4 → (snap .streamsOpened).toNat = s.opened.card) ∧
    (5 ≤ loaded → snap .streamsClosed < snap .streamsOpened)

structure Invariant (s : Server) : Prop where
  closed : s.closed ⊆ s.opened
  bound : s.opened.card < 2 ^ 64
  openedCount : (s.counters .streamsOpened).toNat = s.opened.card
  closedCount : (s.counters .streamsClosed).toNat = s.closed.card
  current : s.InSnapshot → s.Idle → s.calm = true
  telling : Telling s
  drained : s.drain = .finished true → s.calm = true

section Observe
variable (s : Server)

@[simp] theorem observe_counters : (observe s).counters = s.counters := by
  unfold observe; split <;> rfl

@[simp] theorem observe_opened : (observe s).opened = s.opened := by
  unfold observe; split <;> rfl

@[simp] theorem observe_closed : (observe s).closed = s.closed := by
  unfold observe; split <;> rfl

@[simp] theorem observe_drain : (observe s).drain = s.drain := by
  unfold observe; split <;> rfl

@[simp] theorem observe_round : (observe s).round = s.round := by
  unfold observe; split <;> rfl

variable {s}

theorem observe_calm_inSnapshot (h : s.InSnapshot) :
    (observe s).calm = (s.calm || decide s.Idle) := by
  obtain ⟨loaded, snap, loading⟩ := h
  simp [observe, loading]

theorem observe_calm_finished {drained : Bool} (h : s.drain = .finished drained) :
    (observe s).calm = s.calm := by
  simp [observe, h]

end Observe

/-- After the two loads that matter, another counter is loaded. -/
theorem loaded_other {loaded : ℕ} (after : 5 ≤ loaded) {c : Counter}
    (h : loadOrder[loaded]? = some c) : c ≠ .streamsOpened ∧ c ≠ .streamsClosed := by
  have later : c ∈ loadOrder.drop 5 := by
    refine List.mem_of_getElem? (i := loaded - 5) ?_
    rw [List.getElem?_drop, ← h]
    congr 1
    omega
  have all : ∀ d ∈ loadOrder.drop 5, d ≠ .streamsOpened ∧ d ≠ .streamsClosed := by decide
  exact all c later

theorem activeStreams_eq_zero {snap : MetricsSnapshot} (h : activeStreams snap = 0) :
    ¬snap .streamsClosed < snap .streamsOpened := by
  intro less
  unfold activeStreams saturatingSub at h
  rw [if_pos (UInt64.le_of_lt less)] at h
  have value := congrArg UInt64.toNat h
  rw [UInt64.toNat_sub_of_le _ _ (UInt64.le_of_lt less)] at value
  have := UInt64.lt_iff_toNat_lt.1 less
  change _ = 0 at value
  omega

/-- The invariant before `observe`, which restores what it says about calm instants. -/
structure Moved (s : Server) : Prop where
  closed : s.closed ⊆ s.opened
  bound : s.opened.card < 2 ^ 64
  openedCount : (s.counters .streamsOpened).toNat = s.opened.card
  closedCount : (s.counters .streamsClosed).toNat = s.closed.card
  telling : Telling s
  drained : s.drain = .finished true → s.calm = true

theorem Moved.observe {s : Server} (h : Moved s) : Invariant (observe s) where
  closed := by simpa using h.closed
  bound := by simpa using h.bound
  openedCount := by simpa using h.openedCount
  closedCount := by simpa using h.closedCount
  current := by
    intro inside idle
    have inside' : s.InSnapshot := by simpa [Server.InSnapshot] using inside
    have idle' : s.Idle := by simpa [Server.Idle] using idle
    rw [observe_calm_inSnapshot inside']
    simp [idle']
  telling := by
    intro loaded snap loading restless
    rw [observe_drain] at loading
    rw [observe_opened]
    cases loaded with
    | zero => exact ⟨fun h => by omega, fun h => by omega⟩
    | succ k =>
      rw [observe_calm_inSnapshot ⟨k, snap, loading⟩, Bool.or_eq_false_iff] at restless
      exact h.telling _ snap loading restless.1
  drained := by
    intro finished
    rw [observe_drain] at finished
    rw [observe_calm_finished finished]
    exact h.drained finished

/-- One more element in a set of fewer than 2⁶⁴ is one more in its counter. -/
theorem count_insert {counters : Counters} {c : Counter} {streams : Finset ℕ} {n : ℕ}
    (count : (counters c).toNat = streams.card) (fresh : n ∉ streams)
    (bound : streams.card + 1 < 2 ^ 64) :
    (fetchAdd counters c 1 c).toNat = (insert n streams).card := by
  rw [fetchAdd, Function.update_self, Finset.card_insert_of_notMem fresh, UInt64.toNat_add, count]
  exact Nat.mod_eq_of_lt bound

theorem fetchAdd_of_ne {counters : Counters} {c d : Counter} (n : UInt64) (other : d ≠ c) :
    fetchAdd counters c n d = counters d := Function.update_of_ne other ..

theorem Invariant.openStream {s v : Server} {n : ℕ} (inv : Invariant s)
    (guard : Guarded s (.openStream n)) (h : move s (.openStream n) = some v) : Moved v := by
  simp only [move] at h
  split_ifs at h with fresh
  obtain rfl := Option.some.inj h
  refine ⟨inv.closed.trans (Finset.subset_insert _ _), ?_, ?_, ?_, ?_, inv.drained⟩
  · change (insert n s.opened).card < 2 ^ 64
    rw [Finset.card_insert_of_notMem fresh]
    exact guard.1
  · exact count_insert inv.openedCount fresh guard.1
  · change (fetchAdd s.counters .streamsOpened 1 .streamsClosed).toNat = _
    rw [fetchAdd_of_ne _ (by decide)]
    exact inv.closedCount
  · intro loaded snap loading restless
    refine ⟨?_, (inv.telling loaded snap loading restless).2⟩
    rintro rfl
    have calm := guard.2 snap loading
    cases calm.symm.trans restless

theorem Invariant.closeStream {s v : Server} {n : ℕ} (inv : Invariant s)
    (h : move s (.closeStream n) = some v) : Moved v := by
  simp only [move] at h
  split_ifs at h with active
  obtain rfl := Option.some.inj h
  have within := Finset.insert_subset active.1 inv.closed
  refine ⟨within, inv.bound, ?_, ?_, inv.telling, inv.drained⟩
  · change (fetchAdd s.counters .streamsClosed 1 .streamsOpened).toNat = _
    rw [fetchAdd_of_ne _ (by decide)]
    exact inv.openedCount
  · refine count_insert inv.closedCount active.2 ?_
    have fits := Finset.card_le_card within
    have bound := inv.bound
    rw [Finset.card_insert_of_notMem active.2] at fits
    omega

theorem Invariant.bump {s v : Server} {c : Counter} {n : UInt64} (inv : Invariant s)
    (h : move s (.bump c n) = some v) : Moved v := by
  simp only [move] at h
  split_ifs at h with other
  obtain rfl := Option.some.inj h
  refine ⟨inv.closed, inv.bound, ?_, ?_, inv.telling, inv.drained⟩
  · change (fetchAdd s.counters c n .streamsOpened).toNat = _
    rw [fetchAdd_of_ne _ other.1.symm]
    exact inv.openedCount
  · change (fetchAdd s.counters c n .streamsClosed).toNat = _
    rw [fetchAdd_of_ne _ other.2.symm]
    exact inv.closedCount

theorem Invariant.tick {s v : Server} (inv : Invariant s) (h : move s .tick = some v) :
    Moved v := by
  simp only [move] at h
  split at h
  · obtain rfl := Option.some.inj h
    refine ⟨inv.closed, inv.bound, inv.openedCount, inv.closedCount, ?_, nofun⟩
    intro loaded snap loading _
    cases loading
    exact ⟨fun h => by omega, fun h => by omega⟩
  · cases h

/-- While nobody was idle, one more load keeps the snapshot telling. -/
theorem Invariant.telling_load {s : Server} (inv : Invariant s) {loaded : ℕ}
    {snap : MetricsSnapshot} (loading : s.drain = .loading loaded snap) (restless : s.calm = false)
    {c : Counter} (next : loadOrder[loaded]? = some c) :
    (loaded + 1 = 4 →
      (Function.update snap c (s.counters c) .streamsOpened).toNat = s.opened.card) ∧
    (5 ≤ loaded + 1 → Function.update snap c (s.counters c) .streamsClosed <
      Function.update snap c (s.counters c) .streamsOpened) := by
  obtain ⟨first, both⟩ := inv.telling loaded snap loading restless
  constructor
  · intro third
    obtain rfl : loaded = 3 := by omega
    obtain rfl : Counter.streamsOpened = c := Option.some.inj next
    rw [Function.update_self]
    exact inv.openedCount
  · intro after
    obtain rfl | later : loaded = 4 ∨ 5 ≤ loaded := by omega
    · obtain rfl : Counter.streamsClosed = c := Option.some.inj next
      have busy : ¬s.Idle := by
        intro idle
        cases (inv.current ⟨3, snap, loading⟩ idle).symm.trans restless
      have fewer : s.closed.card < s.opened.card :=
        Finset.card_lt_card ⟨inv.closed, busy⟩
      rw [Function.update_self, Function.update_of_ne (by decide), UInt64.lt_iff_toNat_lt,
        inv.closedCount, first rfl]
      exact fewer
    · obtain ⟨not_opened, not_closed⟩ := loaded_other later next
      rw [Function.update_of_ne not_closed.symm, Function.update_of_ne not_opened.symm]
      exact both later

theorem afterLoad_true {loaded : ℕ} {snap : MetricsSnapshot} {deadlinePassed : Bool}
    (h : afterLoad loaded snap deadlinePassed = .finished true) :
    loaded = 14 ∧ activeStreams snap = 0 := by
  unfold afterLoad decideDrain at h
  split_ifs at h with last drained
  · exact ⟨last, drained⟩
  · cases h

theorem Invariant.load {s v : Server} {deadlinePassed : Bool} (inv : Invariant s)
    (h : move s (.load deadlinePassed) = some v) : Moved v := by
  simp only [move] at h
  split at h
  · rename_i loaded snap loading
    obtain ⟨c, next, rfl⟩ := Option.map_eq_some_iff.1 h
    have telling := fun restless => inv.telling_load loading restless next
    refine ⟨inv.closed, inv.bound, inv.openedCount, inv.closedCount, ?_, ?_⟩
    · intro loaded' snap' loading' restless
      simp only [afterLoad, decideDrain] at loading'
      split_ifs at loading'
      cases loading'
      exact telling restless
    · intro finished
      obtain ⟨last, drained⟩ := afterLoad_true finished
      by_contra restless
      have shows := (telling (Bool.eq_false_iff.2 restless)).2 (by omega)
      exact activeStreams_eq_zero drained shows
  · cases h

theorem Invariant.keep {s v : Server} {e : Event} (inv : Invariant s) (guard : Guarded s e)
    (h : server.step s e = some v) : Invariant v := by
  obtain ⟨u, moved, rfl⟩ := Option.map_eq_some_iff.1 h
  cases e with
  | openStream n => exact (inv.openStream guard moved).observe
  | closeStream n => exact (inv.closeStream moved).observe
  | bump c n => exact (inv.bump moved).observe
  | tick => exact (inv.tick moved).observe
  | load deadlinePassed => exact (inv.load moved).observe

theorem Invariant.initial : Invariant server.initial where
  closed := Finset.Subset.refl _
  bound := Nat.two_pow_pos 64
  openedCount := rfl
  closedCount := rfl
  current := by
    rintro ⟨loaded, snap, loading⟩
    cases loading
  telling := by
    intro loaded snap loading
    cases loading
  drained := nofun

/-! ## The instant that a calm snapshot stands for -/

theorem move_calm {s v : Server} {e : Event} (h : move s e = some v) :
    v.calm = s.calm ∧ (v.round = s.round ∨ (observe v).calm = false) := by
  cases e with
  | openStream n =>
    simp only [move] at h
    split_ifs at h
    cases h
    exact ⟨rfl, .inl rfl⟩
  | closeStream n =>
    simp only [move] at h
    split_ifs at h
    cases h
    exact ⟨rfl, .inl rfl⟩
  | bump c n =>
    simp only [move] at h
    split_ifs at h
    cases h
    exact ⟨rfl, .inl rfl⟩
  | tick =>
    simp only [move] at h
    split at h
    · cases h
      exact ⟨rfl, .inr rfl⟩
    · cases h
  | load deadlinePassed =>
    simp only [move] at h
    split at h
    · obtain ⟨c, _, rfl⟩ := Option.map_eq_some_iff.1 h
      exact ⟨rfl, .inl rfl⟩
    · cases h

theorem observe_calm {s : Server} (h : (observe s).calm = true) :
    s.calm = true ∨ (s.InSnapshot ∧ s.Idle) := by
  unfold observe at h
  split at h
  · rename_i loaded snap loading
    obtain calm | idle := Bool.or_eq_true_iff.1 h
    · exact .inl calm
    · exact .inr ⟨⟨loaded, snap, loading⟩, of_decide_eq_true idle⟩
  · exact .inl h
  · cases h

/-- A calm snapshot has an instant in which no stream was active. -/
theorem calm_instant {es : List Event} {s : Server} (run : Runs server es s)
    (calm : s.calm = true) :
    ∃ u, Visits server es u ∧ u.round = s.round ∧ u.InSnapshot ∧ u.Idle := by
  induction run with
  | initial => cases calm
  | @next es e s v run h ih =>
    have pre : es <+: es ++ [e] := List.prefix_append es [e]
    have here : Visits server (es ++ [e]) v := ⟨_, List.prefix_refl _, run.next h⟩
    obtain ⟨w, moved, rfl⟩ := Option.map_eq_some_iff.1 h
    obtain ⟨same_calm, same | begun⟩ := move_calm moved
    · obtain before | ⟨inside, idle⟩ := observe_calm calm
      · obtain ⟨u, visit, round, inside, idle⟩ := ih (same_calm.symm.trans before)
        refine ⟨u, visit.mono pre, ?_, inside, idle⟩
        rw [round, observe_round, same]
      · refine ⟨observe w, here, rfl, ?_, ?_⟩
        · simpa [Server.InSnapshot] using inside
        · simpa [Server.Idle] using idle
    · cases begun.symm.trans calm

/-- If no stream opens between the loads of `streams_opened` and `streams_closed`, or only after a
calm instant, then `shutdown_with_drain` returns `true` only if no stream was active at some
instant between the first and the last load of its last snapshot. -/
theorem drained_sound {es : List Event}
    (guarded : ∀ s e v, Takes server es s e v → Guarded s e) {s : Server}
    (visit : Visits server es s) (drained : s.drain = .finished true) :
    ∃ u, Visits server es u ∧ u.round = s.round ∧ u.InSnapshot ∧ u.Idle := by
  have inv : Invariant s := guarded_invariant .initial (fun _ _ _ => Invariant.keep) guarded visit
  obtain ⟨before, pre, run⟩ := visit
  obtain ⟨u, seen, window⟩ := calm_instant run (inv.drained drained)
  exact ⟨u, seen.mono pre, window⟩

def quietDrain : List Event :=
  [.openStream 0, .closeStream 0, .tick] ++ List.replicate 14 (.load false)

theorem drained_sound_quiet : ∃ s, Visits server quietDrain s ∧ s.drain = .finished true ∧
    ∃ u, Visits server quietDrain u ∧ u.round = s.round ∧ u.InSnapshot ∧ u.Idle := by
  have ran : ∃ s, exec server quietDrain = some s ∧ s.drain = .finished true := ⟨_, rfl, rfl⟩
  obtain ⟨s, ran, drained⟩ := ran
  have visit := (runs_of_exec ran).visits
  refine ⟨s, visit, drained, drained_sound ?_ visit drained⟩
  intro u e v take
  obtain ⟨n, here, reached⟩ := take.exec_take
  cases n with
  | zero =>
    cases here
    cases reached
    exact ⟨by decide, nofun⟩
  | succ n =>
    have later : ∀ e ∈ quietDrain.tail, Guarded u e := by
      intro e mem
      simp only [quietDrain, List.cons_append, List.tail_cons, List.nil_append, List.mem_cons,
        List.mem_replicate] at mem
      rcases mem with rfl | rfl | ⟨_, rfl⟩ <;> trivial
    refine later e (List.mem_of_getElem? (i := n) ?_)
    rw [List.getElem?_tail]
    exact here

/-- Stream 0 is active throughout; stream 1 opens and closes between the two loads. -/
def hiddenStream : List Event :=
  [.openStream 0, .tick] ++ List.replicate 4 (.load false) ++ [.openStream 1, .closeStream 1] ++
    List.replicate 10 (.load false)

def Server.inSnapshot (s : Server) : Bool :=
  match s.drain with
  | .loading (_ + 1) _ => true
  | _ => false

theorem not_drained_sound : ¬∀ es s, Runs server es s → s.drain = .finished true →
    ∃ u, Visits server es u ∧ u.round = s.round ∧ u.InSnapshot ∧ u.Idle := by
  intro sound
  have bad : ∃ s, exec server hiddenStream = some s ∧ s.drain = .finished true := ⟨_, rfl, rfl⟩
  obtain ⟨s, ran, drained⟩ := bad
  obtain ⟨u, visit, _, ⟨loaded, snap, loading⟩, idle⟩ := sound _ s (runs_of_exec ran) drained
  obtain ⟨n, inside, reached⟩ := visit.exec_take
  have busy : ∀ n ≤ hiddenStream.length,
      ((exec server (hiddenStream.take n)).all fun u => !(u.inSnapshot && decide u.Idle)) = true := by
    decide
  have here := busy n inside
  rw [reached] at here
  simp [Server.inSnapshot, loading, idle] at here

end Ombrac.DrainShutdown
