import Mathlib.Data.List.Count
import Ombrac.IdleCache
import Ombrac.UdpDownstream

set_option autoImplicit false

/-!
# Idle sessions of the server

Time passes between the steps of a connection. An entry of the session cache that was not inserted
or got for `SESSION_IDLE_TIMEOUT` is not found any more, and the next get or insert of any entry
may evict it: the cache has no thread of its own. The accept loop gets an entry for each upstream
packet, and the downstream loops do not look at the cache.
-/
namespace Ombrac.SessionIdle
open LabelledSystem BinaryFormat ProtocolPacket ServerLookup ServerDatagram UdpDownstream
  ListUpdates

/-- In nanoseconds. -/
def fromSecs (secs : ℕ) : ℕ := secs * 10 ^ 9

def sessionIdleTimeout : ℕ := fromSecs 65

/-- A connection with its clock, the time of the last get or insert of each id, and the time of
the last packet that each socket received. -/
structure TimedConnection where
  clock : ℕ
  server : ServerConnection
  accessed : UInt64 → ℕ
  heard : ℕ → ℕ

/-- `evicted` are entries that the cache evicts on the occasion of the step. -/
inductive TimedEvent where
  | tick (d : ℕ)
  | server (e : ServerEvent) (evicted : List UInt64)

/-- The id that a step of the tunnel gets or inserts. -/
def touched (t : DatagramTunnel) : TunnelEvent → Option UInt64
  | .datagram (some packet) =>
    match t.upstream, (t.reassembler.process packet).1 with
    | .reading, .ok (some (sessionId, _, _)) => some sessionId
    | _, _ => none
  | .bindSocket true =>
    match t.upstream with
    | .binding sessionId .. => some sessionId
    | _ => none
  | _ => none

def isEviction : ServerEvent → Bool
  | .tunnel (.evictSession _) => true
  | _ => false

def evictAll (c : ServerConnection) (ids : List UInt64) : ServerConnection :=
  ids.foldl (fun c id => { c with
    tunnel := { c.tunnel with sessions := Function.update c.tunnel.sessions id none }
    handlers := c.followed (.evictSession id) }) c

namespace TimedConnection

def new : TimedConnection := ⟨0, .new, fun _ => 0, fun _ => 0⟩

def session (c : TimedConnection) (id : UInt64) : Option DatagramSession :=
  c.server.tunnel.sessions id

def sessionCache (c : TimedConnection) :
    IdleCache.Cache sessionIdleTimeout UInt64 DatagramSession :=
  ⟨fun id => (c.session id).map fun session => ⟨session, c.accessed id⟩⟩

def expired (c : TimedConnection) (id : UInt64) : Bool :=
  (c.sessionCache.expired c.clock id).isSome

def operates (c : TimedConnection) : ServerEvent → Option UInt64
  | .tunnel e => touched c.server.tunnel e
  | _ => none

/-- Only expired entries are evicted, and only at a get or an insert. -/
def admits (c : TimedConnection) (e : ServerEvent) (evicted : List UInt64) : Bool :=
  !isEviction e && evicted.all c.expired && (evicted.isEmpty || (c.operates e).isSome)

/-- What a step takes out of the cache first: an expired entry is not found either. -/
def gone (c : TimedConnection) (e : ServerEvent) (evicted : List UInt64) : List UInt64 :=
  evicted ++ ((c.operates e).filter c.expired).toList

def accessedAfter (c : TimedConnection) (e : ServerEvent) : UInt64 → ℕ :=
  match c.operates e with
  | some id => Function.update c.accessed id c.clock
  | none => c.accessed

def heardAfter (c : TimedConnection) : ServerEvent → ℕ → ℕ
  | .receive j _ _ => Function.update c.heard j c.clock
  | _ => c.heard

end TimedConnection

def timedStep (display : Fault → String) (parseIp : String → Option IpAddr) (k : ℕ)
    (c : TimedConnection) : TimedEvent → Option TimedConnection
  | .tick d => some { c with clock := c.clock + d }
  | .server e evicted =>
    if c.admits e evicted then
      (serverStep display parseIp k (evictAll c.server (c.gone e evicted)) e).map fun server =>
        { c with server := server, accessed := c.accessedAfter e, heard := c.heardAfter e }
    else none

def timedSystem (display : Fault → String) (parseIp : String → Option IpAddr) (k : ℕ) :
    System TimedConnection TimedEvent :=
  ⟨.new, timedStep display parseIp k⟩

/-! ## A session that is being created is not there yet -/

def isBind : Caller → Bool
  | .bind .. => true
  | .send .. => false

def binds (t : DatagramTunnel) : ℕ := t.lookups.resolving.countP fun x => isBind x.1

def waits : Upstream → ℕ
  | .resolving => 1
  | _ => 0

structure Creating (t : DatagramTunnel) : Prop where
  binding : ∀ id address data family attempt,
    t.upstream = .binding id address data family attempt → t.sessions id = none
  pending : ∀ id address data domain port,
    (Caller.bind id address data, domain, port) ∈ t.lookups.resolving → t.sessions id = none
  alone : binds t ≤ waits t.upstream

section Creating
variable {parseIp : String → Option IpAddr} {t u : DatagramTunnel}

theorem no_pending (none_bind : binds t = 0) {id : UInt64} {address : Address} {data domain : Bytes}
    {port : UInt16} :
    (Caller.bind id address data, domain, port) ∉ t.lookups.resolving := fun member =>
  List.countP_eq_zero.1 none_bind _ member rfl

/-- The loop is elsewhere, and neither the sessions nor the lookups have changed. -/
theorem Creating.moved (creating : Creating t) (sessions : u.sessions = t.sessions)
    (resolving : u.lookups.resolving = t.lookups.resolving)
    (idle : waits t.upstream = 0)
    (binding : ∀ id address data family attempt,
      u.upstream = .binding id address data family attempt → t.sessions id = none) :
    Creating u := by
  refine ⟨?_, ?_, ?_⟩
  · rw [sessions]
    exact binding
  · rw [sessions, resolving]
    exact creating.pending
  · unfold binds
    rw [resolving]
    exact (creating.alone.trans idle.le).trans (Nat.zero_le _)

theorem getOrCreateSession_creating (creating : Creating t) (reading : t.upstream = .reading)
    (id : UInt64) (address : Address) (data : Bytes) :
    Creating (t.getOrCreateSession id address data) := by
  have idle : waits t.upstream = 0 := congrArg waits reading
  unfold DatagramTunnel.getOrCreateSession
  cases found : t.sessions id with
  | some session => exact creating.moved rfl rfl idle fun _ _ _ _ _ binding => by cases binding
  | none =>
    obtain ⟨addr, answered, resolving⟩ | ⟨domain, port, _, missed, resolving⟩ :=
      t.lookups.call_cases (.bind id address data) address
    · dsimp only
      rw [answered]
      refine creating.moved rfl resolving idle fun _ _ _ _ _ binding => ?_
      cases binding
      exact found
    · dsimp only
      rw [missed]
      refine ⟨fun _ _ _ _ _ binding => (by cases binding), fun id' address' data' d p member => ?_,
        ?_⟩
      · change _ ∈ (t.lookups.call _ _).1.resolving at member
        rw [resolving] at member
        obtain old | new := List.mem_append.1 member
        · exact creating.pending _ _ _ _ _ old
        · cases List.mem_singleton.1 new
          exact found
      · have none_bind : binds t = 0 := Nat.le_zero.1 (creating.alone.trans idle.le)
        unfold binds at none_bind ⊢
        change ((t.lookups.call _ _).1.resolving).countP _ ≤ 1
        rw [resolving, List.countP_append, none_bind]
        exact le_rfl

theorem handleUpstreamPacket_creating (creating : Creating t) (reading : t.upstream = .reading)
    (packet : Option UdpPacket) : Creating (t.handleUpstreamPacket packet) := by
  have idle : waits t.upstream = 0 := congrArg waits reading
  have kept : ∀ id address data family attempt,
      t.upstream = .binding id address data family attempt → t.sessions id = none := by
    intro id address data family attempt binding
    cases reading.symm.trans binding
  cases packet with
  | none => exact creating
  | some packet =>
    simp only [DatagramTunnel.handleUpstreamPacket]
    split
    · apply getOrCreateSession_creating
      · exact creating.moved rfl rfl idle kept
      · exact reading
    · exact creating.moved rfl rfl idle kept

theorem bindSocket_creating (creating : Creating t) {id : UInt64} {address : Address}
    {data : Bytes} {family : Family} {attempt : ℕ}
    (binding : t.upstream = .binding id address data family attempt) (bound : Bool) :
    Creating (t.bindSocket id address data family attempt bound) := by
  have idle : waits t.upstream = 0 := congrArg waits binding
  have absent := creating.binding _ _ _ _ _ binding
  unfold DatagramTunnel.bindSocket
  split_ifs
  · have none_bind : binds t = 0 := Nat.le_zero.1 (creating.alone.trans idle.le)
    exact ⟨fun _ _ _ _ _ binding' => (by cases binding'),
      fun _ _ _ _ _ member => absurd member (no_pending none_bind), none_bind.le⟩
  · refine creating.moved rfl rfl idle fun _ _ _ _ _ again => ?_
    cases again
    exact absent
  · exact creating.moved rfl rfl idle fun _ _ _ _ _ binding' => by cases binding'

/-- No lookup of the loop is added where the loop stays. -/
theorem Creating.stayed (creating : Creating t) (sessions : u.sessions = t.sessions)
    (upstream : u.upstream = t.upstream) (fewer : binds u ≤ binds t)
    (resolving : ∀ id address data domain port,
      (Caller.bind id address data, domain, port) ∈ u.lookups.resolving →
        (Caller.bind id address data, domain, port) ∈ t.lookups.resolving) : Creating u := by
  refine ⟨?_, ?_, ?_⟩
  · rw [sessions, upstream]
    exact creating.binding
  · intro id address data domain port member
    rw [sessions]
    exact creating.pending _ _ _ _ _ (resolving _ _ _ _ _ member)
  · rw [upstream]
    exact fewer.trans creating.alone

theorem startHandler_creating (creating : Creating t) (i : ℕ) (handler : Handler) :
    Creating (t.startHandler i handler) := by
  obtain ⟨sessions, _⟩ := startHandler_tables t i handler
  have upstream : (t.startHandler i handler).upstream = t.upstream := by
    unfold DatagramTunnel.startHandler
    dsimp only
    split <;> rfl
  have lookups := startHandler_lookups t i handler
  obtain ⟨_, _, same⟩ | ⟨domain, port, _, _, more⟩ :=
    t.lookups.call_cases (.send handler.socket handler.data) handler.address
  · rw [← lookups] at same
    refine creating.stayed sessions upstream ?_ fun _ _ _ _ _ member => same ▸ member
    unfold binds
    rw [same]
  · rw [← lookups] at more
    refine creating.stayed sessions upstream ?_ fun _ _ _ _ _ member => ?_
    · unfold binds
      rw [more, List.countP_append]
      exact le_rfl
    · rw [more] at member
      obtain old | new := List.mem_append.1 member
      · exact old
      · cases List.mem_singleton.1 new

theorem resolve_creating (creating : Creating t) {i : ℕ} {caller : Caller} {domain : Bytes}
    {port : UInt16} (there : t.lookups.resolving[i]? = some (caller, domain, port))
    (reply : DnsReply) :
    Creating ((resolved parseIp t i reply caller domain port).resume caller domain port
      (resolveDomain parseIp reply domain port)) := by
  obtain ⟨sessions, _⟩ := resume_tables (resolved parseIp t i reply caller domain port) caller
    domain port (resolveDomain parseIp reply domain port)
  have rest : ((resolved parseIp t i reply caller domain port).resume caller domain port
      (resolveDomain parseIp reply domain port)).lookups.resolving =
        t.lookups.resolving.eraseIdx i := by
    rw [resume_lookups]
    exact Lookups.finish_resolving _ _ _ _ _
  have counted := countP_eraseIdx (fun x => isBind x.1) there
  have kept : ∀ x, x ∈ t.lookups.resolving.eraseIdx i → x ∈ t.lookups.resolving :=
    fun x => List.mem_of_mem_eraseIdx
  cases caller with
  | send socket data =>
    refine creating.stayed sessions ?_ ?_ fun _ _ _ _ _ member => kept _ (rest ▸ member)
    · cases resolveDomain parseIp reply domain port <;> rfl
    · unfold binds
      rw [rest]
      exact (Nat.le_add_right _ _).trans counted.le
  | bind id address data =>
    have absent := creating.pending _ _ _ _ _ (List.mem_of_getElem? there)
    have none_bind : (t.lookups.resolving.eraseIdx i).countP (fun x => isBind x.1) = 0 := by
      have alone := creating.alone
      have one : waits t.upstream ≤ 1 := by
        unfold waits
        split <;> omega
      unfold binds at alone
      change _ + 1 = _ at counted
      omega
    refine ⟨?_, ?_, ?_⟩
    · rw [sessions]
      intro id' _ _ _ _ binding
      cases answer : resolveDomain parseIp reply domain port with
      | ok addr =>
        rw [answer] at binding
        cases binding
        exact absent
      | error e =>
        rw [answer] at binding
        cases binding
    · rw [sessions]
      exact fun _ _ _ _ _ member => creating.pending _ _ _ _ _ (kept _ (rest ▸ member))
    · unfold binds
      rw [rest, none_bind]
      exact Nat.zero_le _

theorem tunnelStep_creating (creating : Creating t) {e : TunnelEvent}
    (step : tunnelStep parseIp t e = some u) : Creating u := by
  cases e with
  | datagram packet =>
    simp only [tunnelStep] at step
    split at step
    · rename_i reading
      obtain rfl := Option.some.inj step
      exact handleUpstreamPacket_creating creating reading packet
    · cases step
  | bindSocket bound =>
    simp only [tunnelStep] at step
    split at step
    · rename_i binding
      obtain rfl := Option.some.inj step
      exact bindSocket_creating creating binding bound
    · cases step
  | acquire =>
    simp only [tunnelStep] at step
    split at step
    · rename_i acquiring
      split_ifs at step
      obtain rfl := Option.some.inj step
      exact creating.moved rfl rfl (congrArg waits acquiring) fun _ _ _ _ _ binding => by
        cases binding
    · cases step
  | start i =>
    obtain ⟨handler, _, rfl⟩ := Option.map_eq_some_iff.1 step
    exact startHandler_creating creating i handler
  | resolve i reply =>
    simp only [tunnelStep] at step
    split at step
    · cases step
    · rename_i there
      obtain rfl := Option.some.inj step
      exact resolve_creating creating there reply
  | evictDomain domain =>
    obtain rfl := Option.some.inj step
    exact ⟨creating.binding, creating.pending, creating.alone⟩
  | evictSession id =>
    obtain rfl := Option.some.inj step
    have kept : ∀ other, t.sessions other = none →
        Function.update t.sessions id none other = none := by
      intro other absent
      rw [Function.update_apply]
      split_ifs
      · rfl
      · exact absent
    exact ⟨fun _ _ _ _ _ binding => kept _ (creating.binding _ _ _ _ _ binding),
      fun _ _ _ _ _ member => kept _ (creating.pending _ _ _ _ _ member), creating.alone⟩

end Creating

/-! ## The loops of the sessions in the table -/

def LoopRuns (c : ServerConnection) (session : DatagramSession) : Prop :=
  ∃ handler : DownstreamHandler, c.handlers[session.socket]? = some handler ∧
    handler.aborted = false

structure Live (c : ServerConnection) : Prop where
  sockets : c.handlers.length = c.tunnel.sockets
  creating : Creating c.tunnel
  loops : ∀ id session, c.tunnel.sessions id = some session →
    ∃ handler : DownstreamHandler, c.handlers[session.socket]? = some handler ∧
      handler.sessionId = id ∧ handler.aborted = false

section Live
variable {display : Fault → String} {parseIp : String → Option IpAddr} {k : ℕ}
  {c d : ServerConnection}

theorem live_new : Live .new where
  sockets := rfl
  creating := ⟨fun _ _ _ _ _ binding => (by cases binding), fun _ _ _ _ _ _ => rfl, le_rfl⟩
  loops _ _ found := by cases found

/-- A step outside of the tunnel moves at most one loop, and aborts none. -/
theorem serverStep_cases {e : ServerEvent} (step : serverStep display parseIp k c e = some d) :
    (∃ te tunnel, e = .tunnel te ∧ tunnelStep parseIp c.tunnel te = some tunnel ∧
      d = { c with tunnel := tunnel, handlers := c.followed te }) ∨
    d.tunnel = c.tunnel ∧ (d.handlers = c.handlers ∨
      ∃ (j : ℕ) (handler : DownstreamHandler) (loop : Loop), c.handlers[j]? = some handler ∧
        d.handlers = c.handlers.set j { handler with loop := loop }) := by
  cases e with
  | tunnel e =>
    obtain ⟨tunnel, taken, rfl⟩ := Option.map_eq_some_iff.1 step
    exact .inl ⟨e, tunnel, rfl, taken, rfl⟩
  | receive j fromAddr data =>
    simp only [serverStep] at step
    split at step
    · cases step
    · rename_i handler there
      split at step
      · obtain rfl := Option.some.inj step
        exact .inr ⟨rfl, .inr ⟨j, handler, _, there, rfl⟩⟩
      · cases step
  | sendDatagram j sent =>
    simp only [serverStep] at step
    split at step
    · cases step
    · rename_i handler there
      split at step
      · obtain rfl := Option.some.inj step
        exact .inr ⟨rfl, .inr ⟨j, handler, _, there, rfl⟩⟩
      · cases step
  | stop j =>
    simp only [serverStep] at step
    split at step
    · cases step
    · rename_i handler there
      split_ifs at step
      obtain rfl := Option.some.inj step
      exact .inr ⟨rfl, .inr ⟨j, handler, _, there, rfl⟩⟩
  | shutdown =>
    obtain rfl := Option.some.inj step
    exact .inr ⟨rfl, .inl rfl⟩
  | lose i =>
    obtain rfl := Option.some.inj step
    exact .inr ⟨rfl, .inl rfl⟩
  | duplicate i =>
    obtain ⟨x, _, rfl⟩ := Option.map_eq_some_iff.1 step
    exact .inr ⟨rfl, .inl rfl⟩

/-- One loop goes on, with its id and as far as it was aborted. -/
theorem Live.set (live : Live c) {j : ℕ} {handler : DownstreamHandler} {loop : Loop}
    (there : c.handlers[j]? = some handler) (tunnel : d.tunnel = c.tunnel)
    (set : d.handlers = c.handlers.set j { handler with loop := loop }) : Live d := by
  refine ⟨?_, tunnel ▸ live.creating, fun id session found => ?_⟩
  · rw [set, tunnel, List.length_set]
    exact live.sockets
  · rw [tunnel] at found
    rw [set]
    obtain ⟨old, at_socket, own, runs⟩ := live.loops id session found
    by_cases same : session.socket = j
    · rw [same] at at_socket ⊢
      obtain rfl := Option.some.inj (there.symm.trans at_socket)
      exact ⟨_, getElem?_set_of_some there, own, runs⟩
    · exact ⟨old, by rw [List.getElem?_set_ne (Ne.symm same), at_socket], own, runs⟩

/-- The eviction of one session leaves the loops of the others. -/
theorem followed_evict_other (live : Live c) {id other : UInt64} (ne : other ≠ id)
    {session : DatagramSession} (found : c.tunnel.sessions other = some session) :
    (c.followed (.evictSession id))[session.socket]? = c.handlers[session.socket]? := by
  simp only [ServerConnection.followed]
  cases evicted : c.tunnel.sessions id with
  | none => rfl
  | some gone =>
    obtain ⟨handler, there, own, _⟩ := live.loops id gone evicted
    obtain ⟨handler', there', own', _⟩ := live.loops other session found
    dsimp only
    rw [there]
    refine List.getElem?_set_ne fun same => ne ?_
    rw [same, there'] at there
    obtain rfl := Option.some.inj there
    exact own'.symm.trans own

theorem tunnel_live (live : Live c) {e : TunnelEvent} {tunnel : DatagramTunnel}
    (step : tunnelStep parseIp c.tunnel e = some tunnel) :
    Live { c with tunnel := tunnel, handlers := c.followed e } := by
  have creating := tunnelStep_creating live.creating step
  obtain ⟨id, address, data, family, attempt, rfl, binding, sessions, sockets⟩ |
    ⟨id, rfl, sessions, sockets⟩ | ⟨⟨bind, evict⟩, sessions, sockets⟩ := tunnelStep_tables step
  · rw [followed_bind binding]
    refine ⟨?_, creating, fun other session found => ?_⟩
    · change (c.handlers ++ [_]).length = tunnel.sockets
      rw [List.length_append, live.sockets, sockets]
      rfl
    · change tunnel.sessions other = some session at found
      rw [sessions] at found
      obtain ⟨rfl, rfl⟩ | ⟨_, before⟩ := update_some_eq_some found
      · refine ⟨⟨other, .waiting, false⟩, ?_, rfl, rfl⟩
        change (c.handlers ++ [_])[c.tunnel.sockets]? = _
        rw [← live.sockets, List.getElem?_concat_length]
      · obtain ⟨handler, there, own, runs⟩ := live.loops other session before
        exact ⟨handler, getElem?_concat_of_some there, own, runs⟩
  · refine ⟨?_, creating, fun other session found => ?_⟩
    · change (c.followed (.evictSession id)).length = tunnel.sockets
      rw [sockets, ← live.sockets]
      obtain same | ⟨j, handler, there, aborted⟩ := followed_evict (c := c) id
      · rw [same]
      · rw [aborted, List.length_set]
    · change tunnel.sessions other = some session at found
      rw [sessions] at found
      obtain ⟨apart, before⟩ := update_none_eq_some found
      obtain ⟨handler, there, own, runs⟩ := live.loops other session before
      exact ⟨handler, (followed_evict_other live apart before).trans there, own, runs⟩
  · rw [followed_of_other bind evict]
    refine ⟨live.sockets.trans sockets.symm, creating, fun other session found => ?_⟩
    change tunnel.sessions other = some session at found
    rw [sessions] at found
    exact live.loops other session found

theorem serverStep_live (live : Live c) {e : ServerEvent}
    (step : serverStep display parseIp k c e = some d) : Live d := by
  obtain ⟨te, tunnel, rfl, taken, rfl⟩ | ⟨same, handlers | ⟨j, handler, loop, there, set⟩⟩ :=
    serverStep_cases step
  · exact tunnel_live live taken
  · refine ⟨?_, same ▸ live.creating, ?_⟩
    · rw [handlers, same]
      exact live.sockets
    · rw [handlers, same]
      exact live.loops
  · exact live.set there same set

/-- Only its eviction takes a session out of the table, and none takes its place. -/
theorem serverStep_sessions (live : Live c) {e : ServerEvent}
    (step : serverStep display parseIp k c e = some d) {id : UInt64}
    (kept : e ≠ .tunnel (.evictSession id)) {session : DatagramSession}
    (found : c.tunnel.sessions id = some session) : d.tunnel.sessions id = some session := by
  obtain ⟨te, tunnel, rfl, taken, rfl⟩ | ⟨same, _⟩ := serverStep_cases step
  · change tunnel.sessions id = some session
    obtain ⟨id', _, _, _, _, rfl, binding, sessions, _⟩ | ⟨id', rfl, sessions, _⟩ |
      ⟨_, sessions, _⟩ := tunnelStep_tables taken
    · have other : id ≠ id' := by
        rintro rfl
        cases found.symm.trans (live.creating.binding _ _ _ _ _ binding)
      rw [sessions, Function.update_of_ne other]
      exact found
    · have other : id ≠ id' := by
        rintro rfl
        exact kept rfl
      rw [sessions, Function.update_of_ne other]
      exact found
    · rw [sessions]
      exact found
  · rw [same]
    exact found

/-- A session that is new in the table was inserted by the step. -/
theorem serverStep_inserted {e : ServerEvent}
    (step : serverStep display parseIp k c e = some d) {id : UInt64}
    (absent : c.tunnel.sessions id = none) {session : DatagramSession}
    (found : d.tunnel.sessions id = some session) :
    ∃ address data family attempt, c.tunnel.upstream = .binding id address data family attempt := by
  obtain ⟨te, tunnel, rfl, taken, rfl⟩ | ⟨same, _⟩ := serverStep_cases step
  · change tunnel.sessions id = some session at found
    obtain ⟨id', address, data, family, attempt, rfl, binding, sessions, _⟩ |
      ⟨id', rfl, sessions, _⟩ | ⟨_, sessions, _⟩ := tunnelStep_tables taken
    · by_cases same : id = id'
      · exact ⟨address, data, family, attempt, same ▸ binding⟩
      · rw [sessions, Function.update_of_ne same, absent] at found
        cases found
    · rw [sessions, Function.update_apply, absent, ite_self] at found
      cases found
    · rw [sessions, absent] at found
      cases found
  · rw [same, absent] at found
    cases found

/-! ## Evictions -/

/-- Each eviction is a step of the connection. -/
theorem evictAll_cons (display : Fault → String) (parseIp : String → Option IpAddr) (k : ℕ)
    (c : ServerConnection) (id : UInt64) (ids : List UInt64) :
    ∃ d, serverStep display parseIp k c (.tunnel (.evictSession id)) = some d ∧
      evictAll c (id :: ids) = evictAll d ids ∧ d.tunnel.upstream = c.tunnel.upstream ∧
      d.tunnel.reassembler = c.tunnel.reassembler ∧
      d.tunnel.sessions = Function.update c.tunnel.sessions id none :=
  ⟨_, rfl, rfl, rfl, rfl, rfl⟩

theorem evictAll_live (live : Live c) (ids : List UInt64) : Live (evictAll c ids) := by
  induction ids generalizing c with
  | nil => exact live
  | cons id ids ih =>
    obtain ⟨d, step, same, _⟩ :=
      evictAll_cons (fun _ => "") (fun _ => none) 0 c id ids
    rw [same]
    exact ih (serverStep_live live step)

theorem evictAll_tunnel (c : ServerConnection) (ids : List UInt64) :
    (evictAll c ids).tunnel.upstream = c.tunnel.upstream ∧
      (evictAll c ids).tunnel.reassembler = c.tunnel.reassembler ∧
      ∀ id, (evictAll c ids).tunnel.sessions id =
        if id ∈ ids then none else c.tunnel.sessions id := by
  induction ids generalizing c with
  | nil => exact ⟨rfl, rfl, fun _ => rfl⟩
  | cons id ids ih =>
    obtain ⟨upstream, reassembler, sessions⟩ := ih { c with
      tunnel := { c.tunnel with sessions := Function.update c.tunnel.sessions id none }
      handlers := c.followed (.evictSession id) }
    refine ⟨upstream, reassembler, fun other => (sessions other).trans ?_⟩
    simp only [List.mem_cons, Function.update_apply]
    split_ifs <;> tauto

end Live

/-- What gets or inserts an entry can be done, whatever the other entries are. -/
theorem touched_enabled (parseIp : String → Option IpAddr) {t v : DatagramTunnel} {e : TunnelEvent}
    (touches : (touched t e).isSome) (upstream : v.upstream = t.upstream) :
    ∃ u, tunnelStep parseIp v e = some u := by
  unfold touched at touches
  split at touches
  · split at touches
    · rename_i reading _
      simp only [tunnelStep, upstream, reading]
      exact ⟨_, rfl⟩
    · cases touches
  · split at touches
    · rename_i binding
      simp only [tunnelStep, upstream, binding]
      exact ⟨_, rfl⟩
    · cases touches
  · cases touches

/-! ## Sessions in use -/

def Stays (id : UInt64) (c d : TimedConnection) : Prop :=
  ∀ session, c.session id = some session → d.session id = some session ∧ LoopRuns d.server session

def TimedEvent.evicted : TimedEvent → List UInt64
  | .tick _ => []
  | .server _ evicted => evicted

def TimedEvent.sparing (id : UInt64) : TimedEvent → TimedEvent
  | .tick d => .tick d
  | .server e evicted => .server e (evicted.filter (· ≠ id))

section Survival
variable (display : Fault → String) (parseIp : String → Option IpAddr) (k : ℕ)

/-- Whenever the cache looks for idle entries along `es`, the session stays. -/
def Survives (id : UInt64) (es : List TimedEvent) : Prop :=
  ∀ fs, fs.map (TimedEvent.sparing id) <+: es →
    ∀ t e u, Takes (timedSystem display parseIp k) fs t e u → Stays id t u

/-- There is never more than `SESSION_IDLE_TIMEOUT` since the last packet of the session in
either direction. -/
def InUse (id : UInt64) (es : List TimedEvent) : Prop :=
  ∀ t d u, Takes (timedSystem display parseIp k) es t (.tick d) u →
    ∀ session, t.session id = some session →
      t.clock + d ≤ max (t.accessed id) (t.heard session.socket) + sessionIdleTimeout

end Survival

/-- It is less than `SESSION_IDLE_TIMEOUT` since the last upstream packet of the session, or since
its creation. -/
def UsedUpstream (id : UInt64) (t : TimedConnection) : Prop :=
  ∀ session, t.session id = some session → t.clock < t.accessed id + sessionIdleTimeout

section Survival
variable {display : Fault → String} {parseIp : String → Option IpAddr} {k : ℕ}
  {t u : TimedConnection} {id : UInt64}

theorem expired_iff : t.expired id = true ↔
    ∃ session, t.session id = some session ∧ t.accessed id + sessionIdleTimeout ≤ t.clock := by
  unfold TimedConnection.expired
  rw [Option.isSome_iff_exists]
  simp only [IdleCache.Cache.expired_eq_some, TimedConnection.sessionCache, Option.map_eq_some_iff]
  constructor
  · rintro ⟨_, _, ⟨session, found, same⟩, idle⟩
    obtain ⟨rfl, rfl⟩ := IdleCache.Entry.mk.inj same
    exact ⟨session, found, idle⟩
  · rintro ⟨session, found, idle⟩
    exact ⟨session, _, ⟨session, found, rfl⟩, idle⟩

theorem UsedUpstream.not_expired (used : UsedUpstream id t) : t.expired id ≠ true := by
  intro expired
  obtain ⟨session, found, idle⟩ := expired_iff.1 expired
  exact absurd (used session found) (not_lt.2 idle)

theorem admits_iff {e : ServerEvent} {evicted : List UInt64} :
    t.admits e evicted = true ↔ isEviction e = false ∧ (∀ id ∈ evicted, t.expired id = true) ∧
      (evicted = [] ∨ (t.operates e).isSome = true) := by
  simp [TimedConnection.admits, and_assoc]

theorem server_step {e : ServerEvent} {evicted : List UInt64}
    (step : timedStep display parseIp k t (.server e evicted) = some u) :
    t.admits e evicted = true ∧
      serverStep display parseIp k (evictAll t.server (t.gone e evicted)) e = some u.server := by
  simp only [timedStep] at step
  split_ifs at step with admitted
  obtain ⟨server, taken, rfl⟩ := Option.map_eq_some_iff.1 step
  exact ⟨admitted, taken⟩

/-- A get or an insert can be done with any eviction that is admitted. -/
theorem operation_enabled (display : Fault → String) (parseIp : String → Option IpAddr) (k : ℕ)
    {e : ServerEvent} {evicted : List UInt64}
    (admitted : t.admits e evicted = true) (operates : (t.operates e).isSome) :
    ∃ u, timedStep display parseIp k t (.server e evicted) = some u := by
  cases e with
  | tunnel e =>
    obtain ⟨tunnel, taken⟩ := touched_enabled parseIp operates
      (evictAll_tunnel t.server (t.gone (.tunnel e) evicted)).1
    simp only [timedStep, if_pos admitted, serverStep, taken]
    exact ⟨_, rfl⟩
  | _ => cases operates

theorem timedStep_live (live : Live t.server) {e : TimedEvent}
    (step : timedStep display parseIp k t e = some u) : Live u.server := by
  cases e with
  | tick d =>
    obtain rfl := Option.some.inj step
    exact live
  | server e evicted => exact serverStep_live (evictAll_live live _) (server_step step).2

theorem tick_stays (live : Live t.server) {d : ℕ}
    (step : timedStep display parseIp k t (.tick d) = some u) : Stays id t u := by
  obtain rfl := Option.some.inj step
  intro session found
  obtain ⟨handler, there, _, runs⟩ := live.loops id session found
  exact ⟨found, handler, there, runs⟩

/-- A session stays as long as the step does not take it out of the cache. -/
theorem server_stays (live : Live t.server) {e : ServerEvent} {evicted : List UInt64}
    (step : timedStep display parseIp k t (.server e evicted) = some u)
    (kept : id ∉ t.gone e evicted) : Stays id t u := by
  have live' := timedStep_live live step
  obtain ⟨admitted, taken⟩ := server_step step
  intro session found
  have spared : (evictAll t.server (t.gone e evicted)).tunnel.sessions id = some session := by
    rw [(evictAll_tunnel _ _).2.2, if_neg kept]
    exact found
  have found' := serverStep_sessions (evictAll_live live _) taken (by
    rintro rfl
    cases (admits_iff.1 admitted).1) spared
  obtain ⟨handler, there, _, runs⟩ := live'.loops id session found'
  exact ⟨found', handler, there, runs⟩

/-- A session that the step takes out of the cache is not there behind it. -/
theorem server_gone (live : Live t.server) {e : ServerEvent} {evicted : List UInt64}
    (step : timedStep display parseIp k t (.server e evicted) = some u)
    (evicts : id ∈ t.gone e evicted) {session : DatagramSession}
    (found : t.session id = some session) : ¬ Stays id t u := by
  obtain ⟨_, taken⟩ := server_step step
  obtain ⟨upstream, _, sessions⟩ := evictAll_tunnel t.server (t.gone e evicted)
  have absent : (evictAll t.server (t.gone e evicted)).tunnel.sessions id = none := by
    rw [sessions, if_pos evicts]
  intro stays
  obtain ⟨address, data, family, attempt, binding⟩ :=
    serverStep_inserted taken absent (stays session found).1
  rw [upstream] at binding
  cases found.symm.trans (live.creating.binding _ _ _ _ _ binding)

theorem runs_live {es : List TimedEvent} (run : Runs (timedSystem display parseIp k) es t) :
    Live t.server :=
  run.invariant (I := fun t => Live t.server) live_new fun _ _ _ live step =>
    timedStep_live live step

theorem sparing_eq {e : TimedEvent} (spared : id ∉ e.evicted) : e.sparing id = e := by
  cases e with
  | tick d => rfl
  | server e evicted =>
    refine congrArg (TimedEvent.server e) (List.filter_eq_self.2 fun other there => ?_)
    exact decide_eq_true fun same => spared (same ▸ there)

/-- Where the cache works, a fresh entry is neither evicted nor missed. -/
theorem step_spares {es before : List TimedEvent} {e : TimedEvent}
    (used : ∀ t e evicted u, Takes (timedSystem display parseIp k) es t (.server e evicted) u →
      (t.operates e).isSome → UsedUpstream id t)
    (run : Runs (timedSystem display parseIp k) before t)
    (step : timedStep display parseIp k t e = some u)
    (same : before ++ [e.sparing id] <+: es) : id ∉ e.evicted ∧ Stays id t u := by
  have live := runs_live run
  cases e with
  | tick d => exact ⟨List.not_mem_nil, tick_stays live step⟩
  | server e evicted =>
    obtain ⟨ordinary, expired, occasion⟩ := admits_iff.1 (server_step step).1
    cases operates : t.operates e with
    | none =>
      rw [operates] at occasion
      obtain rfl := occasion.resolve_right (by simp)
      refine ⟨List.not_mem_nil, server_stays live step ?_⟩
      simp [TimedConnection.gone, operates]
    | some own =>
      have works : (t.operates e).isSome := by rw [operates]; rfl
      have admitted : t.admits e (evicted.filter (· ≠ id)) = true :=
        admits_iff.2 ⟨ordinary, fun other there => expired other (List.mem_of_mem_filter there),
          .inr works⟩
      obtain ⟨v, taken⟩ := operation_enabled display parseIp k admitted works
      have fresh := (used t e _ v ⟨before, same, run, taken⟩ works).not_expired
      have spared : id ∉ evicted := fun there => fresh (expired id there)
      refine ⟨spared, server_stays live step fun taken => ?_⟩
      obtain there | missed := List.mem_append.1 taken
      · exact spared there
      · rw [Option.mem_toList, Option.filter_eq_some_iff] at missed
        exact fresh missed.2

/-- So there is no eviction to put in. -/
theorem runs_spared {es fs before : List TimedEvent}
    (used : ∀ t e evicted u, Takes (timedSystem display parseIp k) es t (.server e evicted) u →
      (t.operates e).isSome → UsedUpstream id t)
    (same : fs.map (TimedEvent.sparing id) <+: es)
    (run : Runs (timedSystem display parseIp k) before t) (pre : before <+: fs) :
    before.map (TimedEvent.sparing id) = before := by
  induction run with
  | initial => rfl
  | next run step ih =>
    rename_i before e t u
    have kept := ih ((List.prefix_append _ _).trans pre)
    have within := (pre.map (TimedEvent.sparing id)).trans same
    rw [List.map_append, List.map_singleton, kept] at within
    obtain ⟨spared, _⟩ := step_spares used run step within
    rw [List.map_append, List.map_singleton, kept, sparing_eq spared]

end Survival

/-- A session stays through any sequence of packets, whenever the cache looks for idle entries,
exactly if at each get and insert of the cache, of whatever session, it is less than
`SESSION_IDLE_TIMEOUT` since its last upstream packet. -/
theorem session_survives_iff {display : Fault → String} {parseIp : String → Option IpAddr} {k : ℕ}
    {id : UInt64} {es : List TimedEvent} (quiet : ∀ e ∈ es, id ∉ e.evicted) :
    Survives display parseIp k id es ↔
      ∀ t e evicted u, Takes (timedSystem display parseIp k) es t (.server e evicted) u →
        (t.operates e).isSome → UsedUpstream id t := by
  constructor
  · rintro survives t e evicted u ⟨before, pre, run, step⟩ works session found
    by_contra late
    obtain ⟨ordinary, expired, _⟩ := admits_iff.1 (server_step step).1
    have idle : t.expired id = true := expired_iff.2 ⟨session, found, not_lt.1 late⟩
    have admitted : t.admits e (id :: evicted) = true :=
      admits_iff.2 ⟨ordinary, List.forall_mem_cons.2 ⟨idle, expired⟩, .inr works⟩
    obtain ⟨v, evicts⟩ := operation_enabled display parseIp k admitted works
    have same : (before ++ [TimedEvent.server e (id :: evicted)]).map (TimedEvent.sparing id) =
        before ++ [.server e evicted] := by
      have each : ∀ f ∈ before ++ [TimedEvent.server e evicted], f.sparing id = f :=
        fun f there => sparing_eq (quiet f (pre.subset there))
      have all := List.map_congr_left each
      rw [List.map_id', List.map_append] at all
      rw [List.map_append, ← all]
      simp [TimedEvent.sparing]
    have takes : Takes (timedSystem display parseIp k) _ t (.server e (id :: evicted)) v :=
      run.takes evicts
    have stays := survives _ (same ▸ pre) t _ v takes
    exact server_gone (runs_live run) evicts (by simp [TimedConnection.gone]) found stays
  · rintro used fs same t e u ⟨before, pre, run, step⟩
    have kept := runs_spared used same run ((List.prefix_append _ _).trans pre)
    have within := (pre.map (TimedEvent.sparing id)).trans same
    rw [List.map_append, List.map_singleton, kept] at within
    exact (step_spares used run step within).2

def resolverAddr : SocketAddr := .v4 ⟨⟨0x01020304⟩, 53⟩

def upstreamPacket (id : UInt64) : TimedEvent :=
  .server (.tunnel (.datagram (some (.unfragmented id (.ofSocketAddr resolverAddr) [7])))) []

def opened : List TimedEvent :=
  [upstreamPacket 1, .server (.tunnel (.bindSocket true)) [], .server (.tunnel .acquire) [],
    .server (.tunnel (.start 0)) []]

def steady : List TimedEvent :=
  opened ++ [.tick (fromSecs 40), upstreamPacket 1, .server (.tunnel .acquire) [],
    .tick (fromSecs 40), upstreamPacket 2]

/-- After its first packet the session only receives, 40 and 80 seconds later; after 70 seconds
another session has a packet. -/
def download : List TimedEvent :=
  opened ++ [.tick (fromSecs 40), .server (.receive 0 resolverAddr [1]) [],
    .server (.sendDatagram 0 true) [], .tick (fromSecs 30), upstreamPacket 2, .tick (fromSecs 10),
    .server (.receive 0 resolverAddr [2]) []]

theorem session_survives_iff_steady :
    Survives (fun _ => "") (fun _ => none) 0 1 steady := by
  refine (session_survives_iff (by decide)).2 fun t e evicted u take _ session _ => ?_
  obtain ⟨n, here, reached⟩ := take.exec_take
  rcases n with _ | _ | _ | _ | _ | _ | _ | _ | _ | n
  case succ.succ.succ.succ.succ.succ.succ.succ.succ => cases here
  case succ.succ.succ.succ.zero => cases here
  case succ.succ.succ.succ.succ.succ.succ.zero => cases here
  all_goals
    obtain rfl := Option.some.inj reached
    decide

/-- A session in use is evicted 70 seconds after its last upstream packet. -/
theorem download_evicted :
    ¬ ∀ (display : Fault → String) (parseIp : String → Option IpAddr) (k : ℕ) (id : UInt64)
        (es : List TimedEvent), (∀ e ∈ es, id ∉ e.evicted) →
      InUse display parseIp k id es → Survives display parseIp k id es := by
  intro survives
  have used : InUse (fun _ => "") (fun _ => none) 0 1 download := by
    intro t d u take session found
    obtain ⟨n, here, reached⟩ := take.exec_take
    have checked : n < 11 → (exec (timedSystem (fun _ => "") (fun _ => none) 0)
        (download.take n)).all (fun t => (t.session 1).all fun session =>
          decide (t.clock + d ≤
            max (t.accessed 1) (t.heard session.socket) + sessionIdleTimeout)) = true := by
      intro short
      rcases n with _ | _ | _ | _ | _ | _ | _ | _ | _ | _ | _ | n
      case succ.succ.succ.succ.zero =>
        cases here
        decide +kernel
      case succ.succ.succ.succ.succ.succ.succ.zero =>
        cases here
        decide +kernel
      case succ.succ.succ.succ.succ.succ.succ.succ.succ.zero =>
        cases here
        decide +kernel
      all_goals cases here
    have short : n < 11 := (List.getElem?_eq_some_iff.1 here).1
    simpa [reached, found] using checked short
  have quiet : ∀ e ∈ download, 1 ∉ e.evicted := by decide
  have ran : exec (timedSystem (fun _ => "") (fun _ => none) 0) (download.take 8) = some _ := rfl
  have evicts := (runs_of_exec ran).takes
    (e := .server (.tunnel (.datagram (some (.unfragmented 2 (.ofSocketAddr resolverAddr) [7]))))
      [1]) rfl
  have stays := survives _ _ _ _ _ quiet used _ ⟨download.drop 9, rfl⟩ _ _ _ evicts _ rfl
  cases stays.1

end Ombrac.SessionIdle
