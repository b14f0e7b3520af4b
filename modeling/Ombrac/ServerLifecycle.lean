import Ombrac.LabelledSystem
import Ombrac.ListUpdates
import Ombrac.ServerLimits

set_option autoImplicit false

/-!
# The tasks of one connection

`run_tunnel_loops` waits for the first of its two loops to end and then cancels the token that all
other tasks have a child of. Only the loops, the copy of a stream and the downstream loops look at
it: what a handler does before its copy ends by an answer, an error or a timer. Here a task is the
place where it waits.
-/
namespace Ombrac.ServerLifecycle
open LabelledSystem ListUpdates

/-- Where `handle_connect` is, with the permit from `reading` on. `flushing` writes what was read
behind the connect message to the destination. -/
inductive Handler where
  | acquiring
  | reading
  | connecting
  | responding (connected : Bool)
  | flushing
  | copying
  | ended
  deriving DecidableEq

inductive HandlerEvent where
  | acquired
  | connect
  | connected (succeeded : Bool)
  | responded
  | flushed
  | returned
  | failed
  | shutdown

/-- A datagram's own task, and the downstream loop of a session. -/
inductive Sender where
  | resolving
  | sending
  | ended
  deriving DecidableEq

inductive Downstream where
  | receiving
  | sending
  | ended
  deriving DecidableEq

/-- Where the datagram loop is; `binding` counts the attempts of `bind_udp_socket_with_retry`. -/
inductive Upstream where
  | selecting
  | pausing
  | resolving
  | binding (attempt : ℕ)
  | acquiring
  | ended
  deriving DecidableEq

/-- What a datagram leads to: it completes no packet, its session is known, or it needs one for a
domain or for an address. -/
inductive Packet where
  | incomplete
  | known
  | domain
  | address

/-- `running` is `run_tunnel_loops`, and `cancelled` its token. -/
structure Lifecycle where
  alive : Bool
  timedOut : Bool
  running : Bool
  cancelled : Bool
  streamLoop : Bool
  upstream : Upstream
  handlers : List Handler
  streamPermits : ℕ
  senders : List Sender
  datagramPermits : ℕ
  downstreams : List Downstream

inductive Event where
  | lose (timedOut : Bool)
  | acceptStream
  | acceptFailed
  | streamLoopStops
  | handler (i : ℕ) (e : HandlerEvent)
  | readDatagram (packet : Packet)
  | readFailed
  | upstreamStops
  | wake
  | resolved (succeeded : Bool)
  | bound (succeeded : Bool)
  | acquireDatagram
  | senderResolved (i : ℕ) (succeeded : Bool)
  | senderDone (i : ℕ)
  | received (i : ℕ)
  | downstreamDone (i : ℕ)
  | downstreamStops (i : ℕ)
  | evict (i : ℕ)
  | runEnds

namespace Handler

def holds : Handler → Bool
  | .acquiring | .ended => false
  | .reading | .connecting | .responding _ | .flushing | .copying => true

def step (alive cancelled : Bool) : Handler → HandlerEvent → Option Handler
  | .acquiring, .acquired => some .reading
  | .reading, .connect => if alive = true then some .connecting else none
  | .reading, .failed => some .ended
  | .connecting, .connected succeeded => some (.responding succeeded)
  | .responding connected, .responded =>
    if alive = true then some (if connected = true then .flushing else .ended) else none
  | .responding _, .failed => some .ended
  | .flushing, .flushed => some .copying
  | .flushing, .failed => some .ended
  | .copying, .returned => some .ended
  | .copying, .shutdown => if cancelled = true then some .ended else none
  | _, _ => none

end Handler

/-- `MAX_CONCURRENT_HANDLERS` and `SOCKET_BIND_RETRY_MAX` of the datagram tunnel. -/
def maxConcurrentHandlers : ℕ := 4096
def socketBindRetryMax : ℕ := 3

namespace Lifecycle

def new : Lifecycle where
  alive := true
  timedOut := false
  running := true
  cancelled := false
  streamLoop := true
  upstream := .selecting
  handlers := []
  streamPermits := ServerLimits.maxConcurrentConnections
  senders := []
  datagramPermits := maxConcurrentHandlers
  downstreams := []

def handlerStep (s : Lifecycle) (i : ℕ) (e : HandlerEvent) : Option Lifecycle :=
  s.handlers[i]?.bind fun handler =>
    (handler.step s.alive s.cancelled e).bind fun next =>
      if handler.holds = false ∧ next.holds = true ∧ s.streamPermits = 0 then none
      else some { s with
        handlers := s.handlers.set i next
        streamPermits := s.streamPermits + handler.holds.toNat - next.holds.toNat }

def senderStep (s : Lifecycle) (i : ℕ) (expected next : Sender) : Option Lifecycle :=
  if s.senders[i]? = some expected then
    some { s with
      senders := s.senders.set i next
      datagramPermits := s.datagramPermits + if next = .ended then 1 else 0 }
  else none

def downstreamStep (s : Lifecycle) (i : ℕ) (expected next : Downstream) : Option Lifecycle :=
  if s.downstreams[i]? = some expected then
    some { s with downstreams := s.downstreams.set i next }
  else none

def handleUpstreamPacket (s : Lifecycle) : Packet → Lifecycle
  | .incomplete => s
  | .known => { s with upstream := .acquiring }
  | .domain => { s with upstream := .resolving }
  | .address => { s with upstream := .binding 0 }

end Lifecycle

/-- The stream loop's select is biased: it accepts nothing once its token is cancelled. -/
def lifecycleStep (s : Lifecycle) : Event → Option Lifecycle
  | .lose timedOut =>
    if s.alive = true then some { s with alive := false, timedOut := timedOut } else none
  | .acceptStream =>
    if s.streamLoop = true ∧ s.cancelled = false ∧ s.alive = true then
      some { s with handlers := s.handlers ++ [.acquiring] }
    else none
  | .acceptFailed =>
    if s.streamLoop = true ∧ s.cancelled = false ∧ s.alive = false then
      some { s with streamLoop := false }
    else none
  | .streamLoopStops =>
    if s.streamLoop = true ∧ s.cancelled = true then some { s with streamLoop := false } else none
  | .handler i e => s.handlerStep i e
  | .readDatagram packet =>
    if s.upstream = .selecting ∧ s.alive = true then some (s.handleUpstreamPacket packet) else none
  | .readFailed =>
    if s.upstream = .selecting ∧ s.alive = false then
      some { s with upstream := if s.timedOut = true then .pausing else .ended }
    else none
  | .upstreamStops =>
    if s.upstream = .selecting ∧ s.cancelled = true then some { s with upstream := .ended }
    else none
  | .wake => if s.upstream = .pausing then some { s with upstream := .selecting } else none
  | .resolved succeeded =>
    if s.upstream = .resolving then
      some { s with upstream := if succeeded = true then .binding 0 else .selecting }
    else none
  | .bound succeeded =>
    match s.upstream with
    | .binding attempt =>
      if succeeded = true then
        some { s with upstream := .acquiring, downstreams := s.downstreams ++ [.receiving] }
      else if attempt + 1 < socketBindRetryMax then
        some { s with upstream := .binding (attempt + 1) }
      else some { s with upstream := .selecting }
    | _ => none
  | .acquireDatagram =>
    if s.upstream = .acquiring ∧ 0 < s.datagramPermits then
      some { s with
        upstream := .selecting
        datagramPermits := s.datagramPermits - 1
        senders := s.senders ++ [.resolving] }
    else none
  | .senderResolved i succeeded =>
    s.senderStep i .resolving (if succeeded = true then .sending else .ended)
  | .senderDone i => s.senderStep i .sending .ended
  | .received i => s.downstreamStep i .receiving .sending
  | .downstreamDone i => s.downstreamStep i .sending .receiving
  | .downstreamStops i =>
    if s.cancelled = true then s.downstreamStep i .receiving .ended else none
  | .evict i =>
    if i < s.downstreams.length then
      some { s with downstreams := s.downstreams.set i .ended }
    else none
  | .runEnds =>
    if s.running = true ∧ (s.streamLoop = false ∨ s.upstream = .ended) then
      some { s with running := false, cancelled := true }
    else none

def lifecycleSystem : System Lifecycle Event := ⟨.new, lifecycleStep⟩

/-! ## Permits -/

section Permits
variable {s u : Lifecycle} {i : ℕ}

def isActive (sender : Sender) : Bool := sender ≠ .ended

/-- Who is past a semaphore has its permit. -/
structure Permits (s : Lifecycle) : Prop where
  streams : s.streamPermits + s.handlers.countP Handler.holds =
    ServerLimits.maxConcurrentConnections
  datagrams : s.datagramPermits + s.senders.countP isActive = maxConcurrentHandlers
  token : s.cancelled = !s.running

theorem permits_new : Permits .new := ⟨rfl, rfl, rfl⟩

theorem handlerStep_cases {e : HandlerEvent} (h : s.handlerStep i e = some u) :
    ∃ handler next, s.handlers[i]? = some handler ∧
      handler.step s.alive s.cancelled e = some next ∧
      (handler.holds = false → next.holds = true → 0 < s.streamPermits) ∧
      u = { s with
        handlers := s.handlers.set i next
        streamPermits := s.streamPermits + handler.holds.toNat - next.holds.toNat } := by
  obtain ⟨handler, found, h⟩ := Option.bind_eq_some_iff.1 h
  obtain ⟨next, moved, h⟩ := Option.bind_eq_some_iff.1 h
  split_ifs at h with blocked
  obtain rfl := Option.some.inj h
  refine ⟨handler, next, found, moved, fun without with_permit => ?_, rfl⟩
  exact Nat.pos_of_ne_zero fun none_left => blocked ⟨without, with_permit, none_left⟩

theorem handlerStep_permits (inv : Permits s) {e : HandlerEvent} (h : s.handlerStep i e = some u) :
    Permits u := by
  obtain ⟨handler, next, found, _, free, rfl⟩ := handlerStep_cases h
  refine { inv with streams := ?_ }
  have streams := inv.streams
  have counted := countP_set Handler.holds found next
  cases before : handler.holds <;> cases after : next.holds
  · simp only [before, after, Bool.toNat_false] at counted ⊢
    omega
  · have positive := free before after
    simp only [before, after, Bool.toNat_false, Bool.toNat_true] at counted ⊢
    omega
  · simp only [before, after, Bool.toNat_false, Bool.toNat_true] at counted ⊢
    omega
  · simp only [before, after, Bool.toNat_true] at counted ⊢
    omega

theorem senderStep_permits (inv : Permits s) {expected next : Sender}
    (active : expected ≠ .ended) (h : s.senderStep i expected next = some u) : Permits u := by
  obtain ⟨found, ⟨⟩⟩ := Option.ite_none_right_eq_some.1 h
  refine { inv with datagrams := ?_ }
  have datagrams := inv.datagrams
  have counted := countP_set isActive found next
  have before : isActive expected = true := by simp [isActive, active]
  by_cases last : next = .ended
  · subst last
    have after : isActive .ended = false := rfl
    simp only [before, after, Bool.toNat_true, Bool.toNat_false, if_true] at counted ⊢
    omega
  · have after : isActive next = true := by simp [isActive, last]
    simp only [before, after, Bool.toNat_true, if_neg last] at counted ⊢
    omega

theorem downstreamStep_permits (inv : Permits s) {expected next : Downstream}
    (h : s.downstreamStep i expected next = some u) : Permits u := by
  obtain ⟨_, ⟨⟩⟩ := Option.ite_none_right_eq_some.1 h
  exact { inv with }

theorem lifecycleStep_permits (inv : Permits s) {e : Event} (h : lifecycleStep s e = some u) :
    Permits u := by
  cases e with
  | handler i e => exact handlerStep_permits inv h
  | senderResolved i succeeded =>
    have active : Sender.resolving ≠ .ended := nofun
    exact senderStep_permits inv active h
  | senderDone i =>
    have active : Sender.sending ≠ .ended := nofun
    exact senderStep_permits inv active h
  | received i | downstreamDone i => exact downstreamStep_permits inv h
  | downstreamStops i =>
    obtain ⟨_, h⟩ := Option.ite_none_right_eq_some.1 h
    exact downstreamStep_permits inv h
  | acceptStream =>
    obtain ⟨_, ⟨⟩⟩ := Option.ite_none_right_eq_some.1 h
    refine { inv with streams := ?_ }
    rw [countP_concat]
    exact inv.streams
  | acquireDatagram =>
    obtain ⟨⟨_, free⟩, ⟨⟩⟩ := Option.ite_none_right_eq_some.1 h
    refine { inv with datagrams := ?_ }
    have datagrams := inv.datagrams
    have one : (isActive .resolving).toNat = 1 := rfl
    rw [countP_concat, one]
    dsimp only
    omega
  | bound succeeded =>
    simp only [lifecycleStep] at h
    split at h
    · split_ifs at h
      · obtain rfl := Option.some.inj h
        exact { inv with }
      · obtain rfl := Option.some.inj h
        exact { inv with }
      · obtain rfl := Option.some.inj h
        exact { inv with }
    · cases h
  | readDatagram packet =>
    obtain ⟨_, ⟨⟩⟩ := Option.ite_none_right_eq_some.1 h
    cases packet <;> exact { inv with }
  | runEnds =>
    obtain ⟨_, ⟨⟩⟩ := Option.ite_none_right_eq_some.1 h
    exact { inv with token := rfl }
  | lose | acceptFailed | streamLoopStops | readFailed | upstreamStops | wake | resolved | evict =>
    obtain ⟨_, ⟨⟩⟩ := Option.ite_none_right_eq_some.1 h
    exact { inv with }

end Permits

/-! ## The end of a lost connection -/

section Settling
variable {s u : Lifecycle} {i : ℕ}

/-- What happens without the peer once the connection is lost: errors and timers, answers of the
resolver and the destination, and what the tasks do among themselves. -/
def Settles : Event → Prop
  | .lose _ | .acceptStream | .handler _ .connect | .handler _ .responded | .readDatagram _ |
    .received _ | .evict _ => False
  | _ => True

structure Settled (s : Lifecycle) : Prop where
  running : s.running = false
  streamLoop : s.streamLoop = false
  upstream : s.upstream = .ended
  handlers : ∀ handler ∈ s.handlers, handler = .ended
  senders : ∀ sender ∈ s.senders, sender = .ended
  downstreams : ∀ downstream ∈ s.downstreams, downstream = .ended
  streamPermits : s.streamPermits = ServerLimits.maxConcurrentConnections
  datagramPermits : s.datagramPermits = maxConcurrentHandlers

def Handler.rank : Handler → ℕ
  | .acquiring => 6
  | .reading => 5
  | .connecting => 4
  | .responding _ => 3
  | .flushing => 2
  | .copying => 1
  | .ended => 0

def Sender.rank : Sender → ℕ
  | .resolving => 2
  | .sending => 1
  | .ended => 0

def Downstream.rank : Downstream → ℕ
  | .sending => 2
  | .receiving => 1
  | .ended => 0

/-- A permit for a datagram makes a task of it. -/
def Upstream.rank : Upstream → ℕ
  | .acquiring => 4
  | .binding attempt => 2 + (2 - attempt)
  | .resolving | .pausing => 2
  | .selecting => 1
  | .ended => 0

def remaining (s : Lifecycle) : ℕ :=
  (s.handlers.map Handler.rank).sum + (s.senders.map Sender.rank).sum +
    (s.downstreams.map Downstream.rank).sum + s.upstream.rank + s.streamLoop.toNat + s.running.toNat

def Progresses (s : Lifecycle) : Prop :=
  ∃ e u, Settles e ∧ lifecycleStep s e = some u ∧ u.alive = s.alive ∧ remaining u < remaining s

theorem Handler.progresses {handler : Handler} (holding : handler.holds = true) :
    ∃ e next, Settles (.handler i e) ∧ handler.step false true e = some next ∧
      next.rank < handler.rank := by
  cases handler with
  | acquiring | ended => cases holding
  | reading => exact ⟨.failed, .ended, trivial, rfl, by decide⟩
  | connecting => exact ⟨.connected false, .responding false, trivial, rfl, by decide⟩
  | responding connected => exact ⟨.failed, .ended, trivial, rfl, by simp [Handler.rank]⟩
  | flushing => exact ⟨.failed, .ended, trivial, rfl, by decide⟩
  | copying => exact ⟨.shutdown, .ended, trivial, rfl, by decide⟩

theorem handler_progresses (lost : s.alive = false) (cancelled : s.cancelled = true)
    {handler next : Handler} (found : s.handlers[i]? = some handler) {e : HandlerEvent}
    (settles : Settles (.handler i e)) (moved : handler.step false true e = some next)
    (less : next.rank < handler.rank)
    (free : handler.holds = false → next.holds = true → 0 < s.streamPermits) : Progresses s := by
  have step : lifecycleStep s (.handler i e) = some { s with
      handlers := s.handlers.set i next
      streamPermits := s.streamPermits + handler.holds.toNat - next.holds.toNat } := by
    have allowed : ¬ (handler.holds = false ∧ next.holds = true ∧ s.streamPermits = 0) := by
      rintro ⟨without, with_permit, none_left⟩
      exact (free without with_permit).ne' none_left
    simp only [lifecycleStep, Lifecycle.handlerStep, found, lost, cancelled, moved,
      Option.bind_some, if_neg allowed]
  refine ⟨_, _, settles, step, rfl, ?_⟩
  have counted := sum_map_set Handler.rank found next
  simp only [remaining]
  omega

/-- Every handler ends: one with a permit first, then one that waits for it. -/
theorem handlers_progress (inv : Permits s) (lost : s.alive = false)
    (cancelled : s.cancelled = true) (left : ¬ ∀ handler ∈ s.handlers, handler = .ended) :
    Progresses s := by
  by_cases idle : s.handlers.countP Handler.holds = 0
  · push Not at left
    obtain ⟨handler, member, going⟩ := left
    obtain ⟨i, found⟩ := List.mem_iff_getElem?.1 member
    have without := List.countP_eq_zero.1 idle handler member
    have waiting : handler = .acquiring := by
      cases handler <;> simp_all [Handler.holds]
    subst waiting
    have streams := inv.streams
    have some_permit : 0 < ServerLimits.maxConcurrentConnections := by decide
    exact handler_progresses lost cancelled found (e := .acquired) trivial rfl (by decide)
      fun _ _ => by omega
  · obtain ⟨handler, member, holding⟩ := List.countP_pos_iff.1 (Nat.pos_of_ne_zero idle)
    obtain ⟨i, found⟩ := List.mem_iff_getElem?.1 member
    obtain ⟨e, next, settles, moved, less⟩ := Handler.progresses (i := i) holding
    exact handler_progresses lost cancelled found settles moved less fun without _ =>
      absurd (holding.symm.trans without) nofun

theorem senders_progress (left : ¬ ∀ sender ∈ s.senders, sender = .ended) : Progresses s := by
  push Not at left
  obtain ⟨sender, member, going⟩ := left
  obtain ⟨i, found⟩ := List.mem_iff_getElem?.1 member
  have counted := sum_map_set Sender.rank found .ended
  cases sender with
  | resolving =>
    refine ⟨.senderResolved i false, _, trivial, if_pos found, rfl, ?_⟩
    simp only [Sender.rank] at counted
    simp only [remaining, Bool.false_eq_true, if_false]
    omega
  | sending =>
    refine ⟨.senderDone i, _, trivial, if_pos found, rfl, ?_⟩
    simp only [Sender.rank] at counted
    simp only [remaining]
    omega
  | ended => exact absurd rfl going

theorem downstreams_progress (cancelled : s.cancelled = true)
    (left : ¬ ∀ downstream ∈ s.downstreams, downstream = .ended) : Progresses s := by
  push Not at left
  obtain ⟨downstream, member, going⟩ := left
  obtain ⟨i, found⟩ := List.mem_iff_getElem?.1 member
  cases downstream with
  | receiving =>
    have counted := sum_map_set Downstream.rank found .ended
    refine ⟨.downstreamStops i, _, trivial, (if_pos cancelled).trans (if_pos found), rfl, ?_⟩
    simp only [Downstream.rank] at counted
    simp only [remaining]
    omega
  | sending =>
    have counted := sum_map_set Downstream.rank found .receiving
    refine ⟨.downstreamDone i, _, trivial, if_pos found, rfl, ?_⟩
    simp only [Downstream.rank] at counted
    simp only [remaining]
    omega
  | ended => exact absurd rfl going

theorem upstream_progresses (inv : Permits s) (cancelled : s.cancelled = true)
    (senders : ∀ sender ∈ s.senders, sender = .ended) (going : s.upstream ≠ .ended) :
    Progresses s := by
  cases upstream : s.upstream with
  | selecting =>
    refine ⟨.upstreamStops, _, trivial, if_pos ⟨upstream, cancelled⟩, rfl, ?_⟩
    simp only [remaining, upstream, Upstream.rank]
    omega
  | pausing =>
    refine ⟨.wake, _, trivial, if_pos upstream, rfl, ?_⟩
    simp only [remaining, upstream, Upstream.rank]
    omega
  | resolving =>
    refine ⟨.resolved false, _, trivial, if_pos upstream, rfl, ?_⟩
    simp only [remaining, upstream, Upstream.rank, Bool.false_eq_true, if_false]
    omega
  | binding attempt =>
    by_cases again : attempt + 1 < socketBindRetryMax
    · have step : lifecycleStep s (.bound false) =
          some { s with upstream := .binding (attempt + 1) } := by
        simp only [lifecycleStep, upstream, Bool.false_eq_true, if_false, if_pos again]
      refine ⟨.bound false, _, trivial, step, rfl, ?_⟩
      simp only [socketBindRetryMax] at again
      simp only [remaining, upstream, Upstream.rank]
      omega
    · have step : lifecycleStep s (.bound false) = some { s with upstream := .selecting } := by
        simp only [lifecycleStep, upstream, Bool.false_eq_true, if_false, if_neg again]
      refine ⟨.bound false, _, trivial, step, rfl, ?_⟩
      simp only [remaining, upstream, Upstream.rank]
      omega
  | acquiring =>
    have idle : s.senders.countP isActive = 0 := by
      rw [List.countP_eq_zero]
      intro sender member
      simp [isActive, senders sender member]
    have datagrams := inv.datagrams
    have free : 0 < s.datagramPermits := by
      have some_permit : 0 < maxConcurrentHandlers := by decide
      omega
    refine ⟨.acquireDatagram, _, trivial, if_pos ⟨upstream, free⟩, rfl, ?_⟩
    simp only [remaining, upstream, Upstream.rank, List.map_append, List.sum_append, List.map_cons,
      List.map_nil, List.sum_cons, List.sum_nil, Sender.rank]
    omega
  | ended => exact absurd upstream going

/-- The stream loop of a lost connection fails, the run cancels the token, and from then on every
task comes to its end. -/
theorem progresses (inv : Permits s) (lost : s.alive = false) (open_ends : ¬ Settled s) :
    Progresses s := by
  by_cases running : s.running = true
  · have calm : s.cancelled = false := by simp [inv.token, running]
    by_cases accepting : s.streamLoop = true
    · refine ⟨.acceptFailed, _, trivial, if_pos ⟨accepting, calm, lost⟩, rfl, ?_⟩
      simp only [remaining, accepting, Bool.toNat_true, Bool.toNat_false]
      omega
    · refine ⟨.runEnds, _, trivial, if_pos ⟨running, .inl (by simpa using accepting)⟩, rfl, ?_⟩
      simp only [remaining, running, Bool.toNat_true, Bool.toNat_false]
      omega
  · have cancelled : s.cancelled = true := by simp [inv.token, running]
    by_cases accepting : s.streamLoop = true
    · refine ⟨.streamLoopStops, _, trivial, if_pos ⟨accepting, cancelled⟩, rfl, ?_⟩
      simp only [remaining, accepting, Bool.toNat_true, Bool.toNat_false]
      omega
    by_cases handlers : ∀ handler ∈ s.handlers, handler = .ended
    swap
    · exact handlers_progress inv lost cancelled handlers
    by_cases senders : ∀ sender ∈ s.senders, sender = .ended
    swap
    · exact senders_progress senders
    by_cases downstreams : ∀ downstream ∈ s.downstreams, downstream = .ended
    swap
    · exact downstreams_progress cancelled downstreams
    by_cases upstream : s.upstream = .ended
    · refine absurd ⟨by simpa using running, by simpa using accepting, upstream, handlers, senders,
        downstreams, ?_, ?_⟩ open_ends
      · have idle : s.handlers.countP Handler.holds = 0 := by
          rw [List.countP_eq_zero]
          intro handler member
          simp [handlers handler member, Handler.holds]
        have streams := inv.streams
        omega
      · have idle : s.senders.countP isActive = 0 := by
          rw [List.countP_eq_zero]
          intro sender member
          simp [senders sender member, isActive]
        have datagrams := inv.datagrams
        omega
    · exact upstream_progresses inv cancelled senders upstream

/-- From every reachable state in which the connection is lost, steps that need nothing of the peer
bring all its tasks to their end and all permits back. -/
theorem lost_connection_settles (es : List Event) (s : Lifecycle)
    (run : Runs lifecycleSystem es s) (lost : s.alive = false) :
    ∃ more u, (∀ e ∈ more, Settles e) ∧ execFrom lifecycleSystem s more = some u ∧ Settled u := by
  have inv : Permits s :=
    run.invariant (I := Permits) permits_new fun _ _ _ inv step => lifecycleStep_permits inv step
  have progress : ∀ s, Permits s ∧ s.alive = false → ¬ Settled s → ∃ e u, Settles e ∧
      lifecycleSystem.step s e = some u ∧ (Permits u ∧ u.alive = false) ∧
        remaining u < remaining s := by
    rintro s ⟨inv, lost⟩ open_ends
    obtain ⟨e, u, settles, step, same, less⟩ := progresses inv lost open_ends
    exact ⟨e, u, settles, step, ⟨lifecycleStep_permits inv step, same.trans lost⟩, less⟩
  obtain ⟨more, u, settles, rest, _, settled⟩ :=
    exists_execFrom_of_measure remaining progress s ⟨inv, lost⟩
  exact ⟨more, u, settles, rest, settled⟩

/-- A stream is copied and another waits for its message, a session's reply is on its way, and the
connection times out. -/
def timedOutConnection : List Event :=
  [.acceptStream, .handler 0 .acquired, .handler 0 .connect, .handler 0 (.connected true),
    .handler 0 .responded, .handler 0 .flushed, .acceptStream, .handler 1 .acquired,
    .readDatagram .address, .bound true, .acquireDatagram, .received 0, .lose true, .readFailed]

theorem lost_connection_settles_timedOut :
    ∃ s, exec lifecycleSystem timedOutConnection = some s ∧ s.handlers = [.copying, .reading] ∧
      s.upstream = .pausing ∧ ∃ more u, (∀ e ∈ more, Settles e) ∧
        execFrom lifecycleSystem s more = some u ∧ Settled u := by
  have run : exec lifecycleSystem timedOutConnection = some _ := rfl
  exact ⟨_, run, rfl, rfl, lost_connection_settles _ _ (runs_of_exec run) rfl⟩

def EndsWell (s : Lifecycle) : Prop :=
  s.upstream = .ended → s.cancelled = true ∨ s.alive = false ∧ s.timedOut = false

theorem lifecycleStep_endsWell (inv : EndsWell s) {e : Event} (h : lifecycleStep s e = some u) :
    EndsWell u := by
  cases e with
  | lose timedOut =>
    obtain ⟨alive, ⟨⟩⟩ := Option.ite_none_right_eq_some.1 h
    intro ended
    refine (inv ended).imp_right fun ⟨lost, _⟩ => ?_
    cases alive.symm.trans lost
  | readFailed =>
    obtain ⟨⟨_, lost⟩, ⟨⟩⟩ := Option.ite_none_right_eq_some.1 h
    intro ended
    dsimp only at ended
    split_ifs at ended with timedOut
    exact .inr ⟨lost, by simpa using timedOut⟩
  | upstreamStops =>
    obtain ⟨⟨_, cancelled⟩, ⟨⟩⟩ := Option.ite_none_right_eq_some.1 h
    exact fun _ => .inl cancelled
  | runEnds =>
    obtain ⟨_, ⟨⟩⟩ := Option.ite_none_right_eq_some.1 h
    exact fun _ => .inl rfl
  | handler i e =>
    obtain ⟨_, _, _, _, _, rfl⟩ := handlerStep_cases h
    exact inv
  | senderResolved | senderDone | received | downstreamDone | acceptStream | acceptFailed |
    streamLoopStops | evict =>
    obtain ⟨_, ⟨⟩⟩ := Option.ite_none_right_eq_some.1 h
    exact inv
  | downstreamStops i =>
    obtain ⟨_, h⟩ := Option.ite_none_right_eq_some.1 h
    obtain ⟨_, ⟨⟩⟩ := Option.ite_none_right_eq_some.1 h
    exact inv
  | readDatagram packet =>
    obtain ⟨⟨selecting, _⟩, ⟨⟩⟩ := Option.ite_none_right_eq_some.1 h
    cases packet <;> simp [EndsWell, Lifecycle.handleUpstreamPacket, selecting]
  | wake | acquireDatagram =>
    obtain ⟨_, ⟨⟩⟩ := Option.ite_none_right_eq_some.1 h
    simp [EndsWell]
  | resolved succeeded =>
    obtain ⟨_, ⟨⟩⟩ := Option.ite_none_right_eq_some.1 h
    cases succeeded <;> simp [EndsWell]
  | bound succeeded =>
    simp only [lifecycleStep] at h
    split at h
    · split_ifs at h <;> obtain rfl := Option.some.inj h <;> simp [EndsWell]
    · cases h

/-- The datagram loop does not end by itself when its connection has timed out: it pauses and reads
again until the stream loop's end has cancelled the token. -/
theorem timedOut_until_cancelled (es : List Event) (s : Lifecycle)
    (run : Runs lifecycleSystem es s) (timedOut : s.timedOut = true)
    (ended : s.upstream = .ended) : s.cancelled = true := by
  have inv : EndsWell s :=
    run.invariant (I := EndsWell) nofun fun _ _ _ inv step => lifecycleStep_endsWell inv step
  refine (inv ended).resolve_right fun ⟨_, other⟩ => ?_
  cases timedOut.symm.trans other

end Settling
end Ombrac.ServerLifecycle
