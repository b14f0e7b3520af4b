import Mathlib.Data.List.Perm.Subperm
import Ombrac.ClientDispatcher
import Ombrac.UdpDownstream

set_option autoImplicit false

/-!
# The way of a UDP datagram up to its destination

`UdpSession::send_to` encodes a packet once and makes at most two attempts to send it, the second
after a reconnect. The server's tunnel of that connection reads the datagrams, and a handler sends
each on the socket of its session. QUIC may lose and reorder datagrams, but repeats none.
-/
namespace Ombrac.UdpUpstream
open LabelledSystem ProtocolPacket ProtocolCodec BinaryFormat ServerLookup ServerDatagram
  UdpDownstream ListUpdates
open ClientDispatcher (sessionId)
open UdpReassembly (UdpReassembler)

/-- What a session is to send, or a socket of that session has sent. -/
structure Datagram where
  sessionId : UInt64
  address : Address
  data : Bytes
  deriving DecidableEq

def Datagram.carried (d : Datagram) : Datagram := { d with address := Address.carried d.address }

def Datagram.packet (d : Datagram) : UdpPacket := .unfragmented d.sessionId d.address d.data

def maxAttempts : ℕ := 2

/-- A call of `send_to`; `pending` is the encoded packet with the attempts left, until one of them
has sent it. -/
structure SendCall where
  datagram : Datagram
  pending : Option (Bytes × ℕ)

/-- `upstream` has the bytes of the datagrams on their way to the server. -/
structure Connection where
  server : ServerConnection
  upstream : List Bytes

structure Association where
  opened : ℕ
  calls : List SendCall
  connections : List Connection

inductive Event where
  | connect
  | openAssociate
  | sendTo (session : ℕ) (destAddr : Address) (data : Bytes)
  | attempt (i k : ℕ) (sent : Bool)
  | lose (k i : ℕ)
  | read (k i : ℕ)
  | server (k : ℕ) (e : ServerEvent)

section System
variable (display : Fault → String) (parseIp : String → Option IpAddr)

namespace Association

def new : Association := ⟨0, [], []⟩

def setConnection (s : Association) (k : ℕ) (c : Connection) : Association :=
  { s with connections := s.connections.set k c }

def sendDatagram (s : Association) (datagram : Datagram) : Association :=
  let pending := match encode display datagram.packet with
    | .ok encoded => some (encoded, maxAttempts)
    | .error _ => none
  { s with calls := s.calls ++ [⟨datagram, pending⟩] }

def attempt (s : Association) (i : ℕ) (call : SendCall) (encoded : Bytes) (left k : ℕ)
    (c : Connection) (sent : Bool) : Association :=
  if sent then
    { s with
      calls := s.calls.set i { call with pending := none }
      connections := s.connections.set k { c with upstream := c.upstream ++ [encoded] } }
  else { s with calls := s.calls.set i { call with pending := some (encoded, left) } }

end Association

/-- The server reads upstream datagrams from the connection only. -/
def associationStep (s : Association) : Event → Option Association
  | .connect => some { s with connections := s.connections ++ [⟨.new, []⟩] }
  | .openAssociate => some { s with opened := s.opened + 1 }
  | .sendTo session destAddr data =>
    if session < s.opened then some (s.sendDatagram display ⟨sessionId session, destAddr, data⟩)
    else none
  | .attempt i k sent =>
    match s.calls[i]?, s.connections[k]? with
    | some call, some c =>
      match call.pending with
      | some (encoded, left + 1) => some (s.attempt i call encoded left k c sent)
      | _ => none
    | _, _ => none
  | .lose k i => (s.connections[k]?).map fun c =>
      s.setConnection k { c with upstream := c.upstream.eraseIdx i }
  | .read k i =>
    match s.connections[k]? with
    | none => none
    | some c =>
      match c.upstream[i]? with
      | none => none
      | some bytes =>
        (serverStep display parseIp k c.server
          (.tunnel (.datagram (decode display bytes).toOption))).map fun server =>
            s.setConnection k ⟨server, c.upstream.eraseIdx i⟩
  | .server _ (.tunnel (.datagram _)) => none
  | .server k e =>
    match s.connections[k]? with
    | none => none
    | some c => (serverStep display parseIp k c.server e).map fun server =>
        s.setConnection k { c with server := server }

def associationSystem : System Association Event :=
  ⟨.new, associationStep display parseIp⟩

end System

def Connection.delivered (c : Connection) : List Datagram :=
  c.server.tunnel.sent.filterMap fun x =>
    (c.server.createdFor x.socket).map fun id => ⟨id, x.address, x.data⟩

def Association.delivered (s : Association) : List Datagram :=
  s.connections.flatMap Connection.delivered

/-! ## A datagram in the tunnel -/

section Tunnel
variable (owner : ℕ → Option UInt64) (d : Datagram)

def owned (socket : ℕ) (address : Address) (data : Bytes) : Bool :=
  owner socket = some d.sessionId ∧ address = d.address ∧ data = d.data

def atUpstream : Upstream → Bool
  | .reading | .resolving => false
  | .binding sessionId address data _ _ => d = ⟨sessionId, address, data⟩
  | .acquiring socket address data => owned owner d socket address data

def ofPending : Caller × Bytes × UInt16 → Bool
  | (.bind sessionId address data, _, _) => d = ⟨sessionId, address, data⟩
  | (.send socket data, domain, port) => owned owner d socket (.domain domain port) data

def held (t : DatagramTunnel) : ℕ :=
  (atUpstream owner d t.upstream).toNat + t.lookups.resolving.countP (ofPending owner d) +
    t.spawned.countP (fun h => owned owner d h.socket h.address h.data) +
    t.sent.countP (fun x => owned owner d x.socket x.address x.data)

def arrives (t : DatagramTunnel) : TunnelEvent → Bool
  | .datagram (some packet) =>
    match (t.reassembler.process packet).1 with
    | .ok (some (sessionId, address, data)) => d = ⟨sessionId, address, data⟩
    | _ => false
  | _ => false

variable {owner d} {parseIp : String → Option IpAddr} {t u : DatagramTunnel}

theorem getOrCreateSession_held {sessionId : UInt64} {address : Address} {data : Bytes}
    (reading : t.upstream = .reading)
    (sessions : ∀ id session, t.sessions id = some session → owner session.socket = some id) :
    held owner d (t.getOrCreateSession sessionId address data) =
      held owner d t + (decide (d = ⟨sessionId, address, data⟩)).toNat := by
  unfold DatagramTunnel.getOrCreateSession
  cases known : t.sessions sessionId with
  | some session =>
    have own := sessions _ _ known
    have same : owned owner d session.socket address data =
        decide (d = ⟨sessionId, address, data⟩) := by
      obtain ⟨id, a, b⟩ := d
      simp only [owned, own, Option.some_inj, Datagram.mk.injEq, decide_eq_decide]
      tauto
    simp only [held, atUpstream, reading, same, Bool.toNat_false]
    omega
  | none =>
    dsimp only
    rcases t.lookups.call_cases (.bind sessionId address data) address with
      ⟨addr, found, same⟩ | ⟨domain, port, _, missed, more⟩
    · simp only [found, held, atUpstream, reading, same, Bool.toNat_false]
      omega
    · simp only [missed, held, atUpstream, reading, more, countP_concat, ofPending,
        Bool.toNat_false]
      omega

theorem handleUpstreamPacket_held {packet : Option UdpPacket} (reading : t.upstream = .reading)
    (sessions : ∀ id session, t.sessions id = some session → owner session.socket = some id) :
    held owner d (t.handleUpstreamPacket packet) =
      held owner d t + (arrives d t (.datagram packet)).toNat := by
  cases packet with
  | none => rfl
  | some packet =>
    simp only [DatagramTunnel.handleUpstreamPacket, arrives]
    rcases t.reassembler.process packet with ⟨_ | _ | ⟨sessionId, address, data⟩, reassembler⟩
    · rfl
    · rfl
    · exact getOrCreateSession_held (t := { t with
        reassembler := reassembler
        reassembliesCompleted := t.reassembliesCompleted + 1 }) reading sessions

theorem bindSocket_held {sessionId : UInt64} {address : Address} {data : Bytes} {family : Family}
    {attempt : ℕ} (binding : t.upstream = .binding sessionId address data family attempt)
    {bound : Bool} (created : bound = true → owner t.sockets = some sessionId) :
    held owner d (t.bindSocket sessionId address data family attempt bound) ≤ held owner d t := by
  unfold DatagramTunnel.bindSocket
  split_ifs with now again
  · have same : owned owner d t.sockets address data =
        decide (d = ⟨sessionId, address, data⟩) := by
      obtain ⟨id, a, b⟩ := d
      simp only [owned, created now, Option.some_inj, Datagram.mk.injEq, decide_eq_decide]
      tauto
    simp only [held, atUpstream, binding, same, le_refl]
  · simp only [held, atUpstream, binding, le_refl]
  · simp only [held, atUpstream, binding, Bool.toNat_false]
    omega

theorem spawnHandler_held {socket : ℕ} {address : Address} {data : Bytes}
    (acquiring : t.upstream = .acquiring socket address data) :
    held owner d (t.spawnHandler ⟨socket, address, data⟩) = held owner d t := by
  simp only [DatagramTunnel.spawnHandler, held, atUpstream, acquiring, countP_concat,
    Bool.toNat_false]
  omega

theorem startHandler_held {i : ℕ} {handler : Handler} (found : t.spawned[i]? = some handler) :
    held owner d (t.startHandler i handler) = held owner d t := by
  have erased := countP_eraseIdx_toNat
    (fun h : Handler => owned owner d h.socket h.address h.data) found
  unfold DatagramTunnel.startHandler
  rcases t.lookups.call_cases (.send handler.socket handler.data) handler.address with
    ⟨addr, answer, same⟩ | ⟨domain, port, address, missed, more⟩
  · simp only [answer, DatagramTunnel.sendTo, held, same, countP_concat]
    omega
  · rw [address] at erased
    simp only [missed, held, more, countP_concat, ofPending]
    omega

theorem resume_held {i : ℕ} {reply : DnsReply} {caller : Caller} {domain : Bytes} {port : UInt16}
    (found : t.lookups.resolving[i]? = some (caller, domain, port))
    (result : Except IoError SocketAddr) :
    held owner d ((resolved parseIp t i reply caller domain port).resume caller domain port
      result) ≤ held owner d t := by
  have erased := countP_eraseIdx_toNat (ofPending owner d) found
  have pending : (resolved parseIp t i reply caller domain port).lookups.resolving =
      t.lookups.resolving.eraseIdx i := by
    unfold resolved
    cases resolveDomain parseIp reply domain port <;> rfl
  have spawned : (resolved parseIp t i reply caller domain port).spawned = t.spawned := rfl
  have sent : (resolved parseIp t i reply caller domain port).sent = t.sent := rfl
  cases caller with
  | bind sessionId address data =>
    cases result with
    | ok addr =>
      simp only [DatagramTunnel.resume, held, pending, spawned, sent, atUpstream]
      simp only [ofPending] at erased
      omega
    | error e =>
      simp only [DatagramTunnel.resume, held, pending, spawned, sent, atUpstream,
        Bool.toNat_false]
      omega
  | send socket data =>
    have upstream : (resolved parseIp t i reply (.send socket data) domain port).upstream =
        t.upstream := rfl
    cases result with
    | ok dest =>
      simp only [DatagramTunnel.resume, DatagramTunnel.sendTo, held, pending, spawned, sent,
        upstream, countP_concat]
      simp only [ofPending] at erased
      omega
    | error e =>
      simp only [DatagramTunnel.resume, held, pending, spawned, sent, upstream]
      omega

/-- A step of the tunnel makes nothing of its own. -/
theorem tunnelStep_held {e : TunnelEvent} (h : tunnelStep parseIp t e = some u)
    (sessions : ∀ id session, t.sessions id = some session → owner session.socket = some id)
    (created : ∀ id address data family attempt, e = .bindSocket true →
      t.upstream = .binding id address data family attempt → owner t.sockets = some id) :
    held owner d u ≤ held owner d t + (arrives d t e).toNat := by
  cases e with
  | datagram packet =>
    simp only [tunnelStep] at h
    split at h
    · rename_i reading
      obtain rfl := Option.some.inj h
      exact (handleUpstreamPacket_held reading sessions).le
    · cases h
  | bindSocket bound =>
    simp only [tunnelStep] at h
    split at h
    · rename_i id address data family attempt binding
      obtain rfl := Option.some.inj h
      refine bindSocket_held binding fun now => ?_
      exact created id address data family attempt (by rw [now]) binding
    · cases h
  | acquire =>
    simp only [tunnelStep] at h
    split at h
    · rename_i socket address data acquiring
      split_ifs at h
      obtain rfl := Option.some.inj h
      exact (spawnHandler_held acquiring).le
    · cases h
  | start i =>
    obtain ⟨handler, found, rfl⟩ := Option.map_eq_some_iff.1 h
    exact (startHandler_held found).le
  | resolve i reply =>
    simp only [tunnelStep] at h
    split at h
    · cases h
    · rename_i caller domain port found
      obtain rfl := Option.some.inj h
      exact resume_held found _
  | evictDomain domain =>
    obtain rfl := Option.some.inj h
    exact le_refl _
  | evictSession id =>
    obtain rfl := Option.some.inj h
    exact le_refl _

end Tunnel

/-! ## A datagram on the connections -/

section Connections
variable {display : Fault → String} {parseIp : String → Option IpAddr} {k : ℕ}
  {c c' : ServerConnection} {owner : ℕ → Option UInt64} {d : Datagram}

/-- A step of the server is one of its tunnel, or leaves the tunnel alone. -/
theorem serverStep_tunnel {e : ServerEvent} (step : serverStep display parseIp k c e = some c') :
    (∃ e', e = .tunnel e' ∧ tunnelStep parseIp c.tunnel e' = some c'.tunnel) ∨
      (∀ e', e ≠ .tunnel e') ∧ c'.tunnel = c.tunnel := by
  cases e with
  | tunnel e =>
    obtain ⟨tunnel, taken, rfl⟩ := Option.map_eq_some_iff.1 step
    exact .inl ⟨e, rfl, taken⟩
  | receive j fromAddr data =>
    simp only [serverStep] at step
    split at step
    · cases step
    · split at step
      · obtain rfl := Option.some.inj step
        exact .inr ⟨by simp, rfl⟩
      · cases step
  | sendDatagram j sent =>
    simp only [serverStep] at step
    split at step
    · cases step
    · split at step
      · obtain rfl := Option.some.inj step
        exact .inr ⟨by simp, rfl⟩
      · cases step
  | shutdown =>
    obtain rfl := Option.some.inj step
    exact .inr ⟨by simp, rfl⟩
  | stop j =>
    simp only [serverStep] at step
    split at step
    · cases step
    · split_ifs at step
      obtain rfl := Option.some.inj step
      exact .inr ⟨by simp, rfl⟩
  | lose i =>
    obtain rfl := Option.some.inj step
    exact .inr ⟨by simp, rfl⟩
  | duplicate i =>
    obtain ⟨_, _, rfl⟩ := Option.map_eq_some_iff.1 step
    exact .inr ⟨by simp, rfl⟩

/-- The next socket is created for the session that is being opened. -/
theorem createdFor_bind (sound : Sound display k c) {id : UInt64} {address : Address}
    {data : Bytes} {family : Family} {attempt : ℕ}
    (binding : c.tunnel.upstream = .binding id address data family attempt)
    (step : serverStep display parseIp k c (.tunnel (.bindSocket true)) = some c') :
    c'.createdFor c.tunnel.sockets = some id := by
  obtain ⟨tunnel, _, rfl⟩ := Option.map_eq_some_iff.1 step
  change ((c.followed (.bindSocket true))[c.tunnel.sockets]?).map _ = _
  rw [followed_bind binding, ← sound.sockets, List.getElem?_concat_length]
  rfl

def takesIn (d : Datagram) (c : ServerConnection) : ServerEvent → Bool
  | .tunnel e => arrives d c.tunnel e
  | _ => false

theorem serverStep_held (sound : Sound display k c) {e : ServerEvent}
    (step : serverStep display parseIp k c e = some c')
    (agrees : ∀ socket id, c'.createdFor socket = some id → owner socket = some id) :
    held owner d c'.tunnel ≤ held owner d c.tunnel + (takesIn d c e).toNat := by
  have more := (serverStep_sound sound step).2
  rcases serverStep_tunnel step with ⟨e, rfl, taken⟩ | ⟨_, same⟩
  · refine tunnelStep_held taken (fun id session known => ?_) ?_
    · exact agrees _ _ (more _ _ (sound.sessions id session known))
    · rintro id address data family attempt rfl binding
      exact agrees _ _ (createdFor_bind sound binding step)
  · rw [same]
    exact Nat.le_add_right _ _

end Connections

section Whole
variable (display : Fault → String) (owner : ℕ → ℕ → Option UInt64) (d : Datagram)

def carries (bytes : Bytes) : Bool :=
  match decode display bytes with
  | .ok packet => decide (packet = d.packet)
  | .error _ => false

def waits (call : SendCall) : Bool :=
  match call.pending with
  | some (encoded, _) => carries display d encoded
  | none => false

def weight (k : ℕ) (c : Connection) : ℕ :=
  c.upstream.countP (carries display d) + held (owner k) d c.server.tunnel

def total (s : Association) : ℕ :=
  s.calls.countP (waits display d) + (s.connections.mapIdx (weight display owner d)).sum

def asked (s : Association) : ℕ := s.calls.countP fun call => call.datagram.carried = d

def Agrees (s : Association) : Prop :=
  ∀ (k : ℕ) (c : Connection), s.connections[k]? = some c → ∀ socket id,
    c.server.createdFor socket = some id → owner k socket = some id

structure Invariant (s : Association) : Prop where
  sound : ∀ (k : ℕ) (c : Connection), s.connections[k]? = some c → Sound display k c.server
  pending : ∀ call ∈ s.calls, ∀ encoded left, call.pending = some (encoded, left) →
    decode display encoded = .ok call.datagram.carried.packet
  upstream : ∀ (k : ℕ) (c : Connection), s.connections[k]? = some c → ∀ bytes ∈ c.upstream,
    ∃ d : Datagram, decode display bytes = .ok d.packet
  count : ∀ owner, Agrees owner s → ∀ d, total display owner d s ≤ asked d s

variable {display owner d} {parseIp : String → Option IpAddr} {s u : Association}

theorem packet_inj {d e : Datagram} : d.packet = e.packet ↔ d = e := by
  obtain ⟨_, _, _⟩ := d
  obtain ⟨_, _, _⟩ := e
  simp [Datagram.packet]

theorem carries_of_decode {bytes : Bytes} {e : Datagram} (h : decode display bytes = .ok e.packet) :
    carries display d bytes = decide (e = d) := by
  simp only [carries, h, packet_inj]

theorem waits_of_pending {call : SendCall} {encoded : Bytes} {left : ℕ}
    (pending : call.pending = some (encoded, left))
    (h : decode display encoded = .ok call.datagram.carried.packet) :
    waits display d call = decide (call.datagram.carried = d) := by
  simp only [waits, pending, carries_of_decode h]

theorem invariant_new : Invariant display .new where
  sound _ _ there := by cases there
  pending _ member := by cases member
  upstream _ _ there := by cases there
  count _ _ _ := le_refl _

/-- One connection goes on, and its calls stay as they are. -/
theorem Invariant.setConnection (inv : Invariant display s) {k : ℕ} {c c' : Connection}
    (there : s.connections[k]? = some c) (sound : Sound display k c'.server)
    (extends_ : Extends c.server c'.server)
    (upstream : ∀ bytes ∈ c'.upstream, bytes ∈ c.upstream)
    (less : ∀ owner : ℕ → Option UInt64,
      (∀ socket id, c'.server.createdFor socket = some id → owner socket = some id) → ∀ d,
        c'.upstream.countP (carries display d) + held owner d c'.server.tunnel ≤
          c.upstream.countP (carries display d) + held owner d c.server.tunnel) :
    Invariant display (s.setConnection k c') := by
  refine ⟨fun j e here => ?_, inv.pending, fun j e here bytes member => ?_,
    fun owner agrees d => ?_⟩
  · rcases getElem?_set_eq_some here with ⟨rfl, rfl⟩ | ⟨_, before⟩
    · exact sound
    · exact inv.sound j e before
  · rcases getElem?_set_eq_some here with ⟨rfl, rfl⟩ | ⟨_, before⟩
    · exact inv.upstream j c there bytes (upstream bytes member)
    · exact inv.upstream j e before bytes member
  · have own := agrees k c' (getElem?_set_of_some there)
    have before : Agrees owner s := by
      intro j e here socket id created
      by_cases same : j = k
      · subst same
        obtain rfl := Option.some.inj (there.symm.trans here)
        exact own socket id (extends_ socket id created)
      · exact agrees j e ((List.getElem?_set_ne (Ne.symm same)).trans here) socket id created
    have sum := sum_mapIdx_set (weight display owner d) there c'
    have now := less (owner k) own d
    have old := inv.count owner before d
    simp only [total, asked, Association.setConnection, weight] at old sum ⊢
    omega

/-- A new call is counted once, and is asked for once. -/
theorem sendDatagram_invariant (inv : Invariant display s) (datagram : Datagram) :
    Invariant display (s.sendDatagram display datagram) := by
  -- what the call still has to send is what it was asked for
  have own : ∀ encoded left, (match encode display datagram.packet with
      | .ok encoded => some (encoded, maxAttempts)
      | .error _ => none) = some (encoded, left) →
      decode display encoded = .ok datagram.carried.packet := by
    intro encoded left pending
    split at pending
    · rename_i bytes h
      obtain ⟨rfl, _⟩ := Prod.mk.inj (Option.some.inj pending)
      exact decode_unfragmented h
    · cases pending
  refine ⟨inv.sound, fun call member encoded left pending => ?_, inv.upstream,
    fun owner agrees d => ?_⟩
  · rcases List.mem_append.1 member with old | new
    · exact inv.pending call old encoded left pending
    · obtain rfl := List.mem_singleton.1 new
      exact own encoded left pending
  · have old := inv.count owner agrees d
    simp only [total, asked, Association.sendDatagram, countP_concat] at old ⊢
    suffices new : (waits display d ⟨datagram, match encode display datagram.packet with
        | .ok encoded => some (encoded, maxAttempts)
        | .error _ => none⟩).toNat ≤ (decide (datagram.carried = d)).toNat by omega
    cases pending : (match encode display datagram.packet with
        | .ok encoded => some (encoded, maxAttempts)
        | .error _ => none) with
    | none => exact Nat.zero_le _
    | some p =>
      have same : waits display d ⟨datagram, some p⟩ = decide (datagram.carried = d) :=
        waits_of_pending rfl (own p.1 p.2 pending)
      exact (congrArg Bool.toNat same).le

/-- An attempt hands the packet of its call to the connection, or leaves it for the next. -/
theorem attempt_invariant (inv : Invariant display s) {i k left : ℕ} {call : SendCall}
    {c : Connection} {encoded : Bytes} (called : s.calls[i]? = some call)
    (there : s.connections[k]? = some c) (pending : call.pending = some (encoded, left + 1))
    (sent : Bool) : Invariant display (s.attempt i call encoded left k c sent) := by
  have decoded := inv.pending call (List.mem_of_getElem? called) encoded _ pending
  have waiting : ∀ d, waits display d call = decide (call.datagram.carried = d) := fun d =>
    waits_of_pending pending decoded
  have others : ∀ next : SendCall, next.datagram = call.datagram →
      (∀ encoded' left', next.pending = some (encoded', left') → encoded' = encoded) →
      ∀ other ∈ s.calls.set i next, ∀ encoded left, other.pending = some (encoded, left) →
        decode display encoded = .ok other.datagram.carried.packet := by
    intro next same own other member encoded' left' left_pending
    rcases List.mem_or_eq_of_mem_set member with old | rfl
    · exact inv.pending other old encoded' left' left_pending
    · rw [own encoded' left' left_pending, same]
      exact decoded
  unfold Association.attempt
  cases sent with
  | true =>
    refine ⟨fun j e here => ?_, others _ rfl (fun _ _ none => by cases none),
      fun j e here bytes member => ?_, fun owner agrees d => ?_⟩
    · rcases getElem?_set_eq_some here with ⟨rfl, rfl⟩ | ⟨_, before⟩
      · exact inv.sound j c there
      · exact inv.sound j e before
    · rcases getElem?_set_eq_some here with ⟨rfl, rfl⟩ | ⟨_, before⟩
      · rcases List.mem_append.1 member with old | new
        · exact inv.upstream j c there bytes old
        · obtain rfl := List.mem_singleton.1 new
          exact ⟨_, decoded⟩
      · exact inv.upstream j e before bytes member
    · have before : Agrees owner s := by
        intro j e here
        by_cases same : j = k
        · subst same
          obtain rfl := Option.some.inj (there.symm.trans here)
          exact agrees j { c with upstream := c.upstream ++ [encoded] }
            (getElem?_set_of_some there)
        · exact agrees j e ((List.getElem?_set_ne (Ne.symm same)).trans here)
      have old := inv.count owner before d
      have calls := countP_set (waits display d) called { call with pending := none }
      have asks := countP_set (fun call : SendCall => decide (call.datagram.carried = d)) called
        { call with pending := none }
      have sum := sum_mapIdx_set (weight display owner d) there
        { c with upstream := c.upstream ++ [encoded] }
      have done : waits display d { call with pending := none } = false := rfl
      simp only [weight, countP_concat, carries_of_decode decoded] at sum
      simp only [waiting, done, Bool.toNat_false] at calls
      simp only [total, asked] at old ⊢
      simp only [if_true]
      dsimp only at asks
      omega
  | false =>
    refine ⟨inv.sound, others _ rfl fun encoded' left' same => ?_, inv.upstream,
      fun owner agrees d => ?_⟩
    · exact (Prod.mk.inj (Option.some.inj same)).1.symm
    · have old := inv.count owner agrees d
      have calls := countP_set (waits display d) called { call with pending := some (encoded, left) }
      have asks := countP_set (fun call : SendCall => decide (call.datagram.carried = d)) called
        { call with pending := some (encoded, left) }
      have again : waits display d { call with pending := some (encoded, left) } =
          waits display d call := by
        rw [waiting]
        exact waits_of_pending rfl decoded
      rw [again] at calls
      simp only [total, asked] at old ⊢
      simp only [Bool.false_eq_true, if_false]
      dsimp only at asks
      omega

/-- The tunnel takes in what it reads, once. -/
theorem read_invariant (inv : Invariant display s) {k i : ℕ} {c : Connection}
    {server : ServerConnection} {bytes : Bytes} (there : s.connections[k]? = some c)
    (found : c.upstream[i]? = some bytes)
    (step : serverStep display parseIp k c.server
      (.tunnel (.datagram (decode display bytes).toOption)) = some server) :
    Invariant display (s.setConnection k ⟨server, c.upstream.eraseIdx i⟩) := by
  have sound := inv.sound k c there
  obtain ⟨next, more⟩ := serverStep_sound sound step
  refine inv.setConnection there next more (fun x member => List.mem_of_mem_eraseIdx member)
    fun owner agrees d => ?_
  have taken : held owner d server.tunnel ≤ _ := serverStep_held sound step agrees
  have erased := countP_eraseIdx_toNat (carries display d) found
  obtain ⟨e, decoded⟩ := inv.upstream k c there bytes (List.mem_of_getElem? found)
  have arrived : takesIn d c.server (.tunnel (.datagram (decode display bytes).toOption)) =
      carries display d bytes := by
    rw [carries_of_decode decoded, decoded]
    simp only [takesIn, arrives, Except.toOption, Datagram.packet, UdpReassembler.process, eq_comm]
  rw [arrived] at taken
  dsimp only
  omega

theorem server_invariant (inv : Invariant display s) {k : ℕ} {c : Connection}
    {server : ServerConnection} {e : ServerEvent} (there : s.connections[k]? = some c)
    (other : ∀ packet, e ≠ .tunnel (.datagram packet))
    (step : serverStep display parseIp k c.server e = some server) :
    Invariant display (s.setConnection k { c with server := server }) := by
  have sound := inv.sound k c there
  obtain ⟨next, more⟩ := serverStep_sound sound step
  refine inv.setConnection there next more (fun _ => id) fun owner agrees d => ?_
  have taken : held owner d server.tunnel ≤ _ := serverStep_held sound step agrees
  have nothing : takesIn d c.server e = false := by
    cases e with
    | tunnel e =>
      cases e with
      | datagram packet => exact absurd rfl (other packet)
      | _ => rfl
    | _ => rfl
  rw [nothing] at taken
  exact Nat.add_le_add_left taken _

theorem associationStep_invariant (inv : Invariant display s) {e : Event}
    (h : associationStep display parseIp s e = some u) : Invariant display u := by
  cases e with
  | connect =>
    obtain rfl := Option.some.inj h
    refine ⟨fun k c there => ?_, inv.pending, fun k c there bytes member => ?_,
      fun owner agrees d => ?_⟩
    · rcases getElem?_concat_eq_some there with old | ⟨_, rfl⟩
      · exact inv.sound k c old
      · exact sound_new
    · rcases getElem?_concat_eq_some there with old | ⟨_, rfl⟩
      · exact inv.upstream k c old bytes member
      · cases member
    · have old := inv.count owner
        (fun k c there => agrees k c (getElem?_concat_of_some there)) d
      have empty : weight display owner d s.connections.length ⟨.new, []⟩ = 0 := rfl
      simp only [total, asked, List.mapIdx_concat, List.sum_append, List.sum_singleton, empty]
        at old ⊢
      exact old
  | openAssociate =>
    obtain rfl := Option.some.inj h
    exact ⟨inv.sound, inv.pending, inv.upstream, inv.count⟩
  | sendTo session destAddr data =>
    simp only [associationStep] at h
    split_ifs at h
    obtain rfl := Option.some.inj h
    exact sendDatagram_invariant inv _
  | attempt i k sent =>
    simp only [associationStep] at h
    split at h
    · rename_i call c called there
      split at h
      · rename_i encoded left pending
        obtain rfl := Option.some.inj h
        exact attempt_invariant inv called there pending sent
      · cases h
    · cases h
  | lose k i =>
    obtain ⟨c, there, rfl⟩ := Option.map_eq_some_iff.1 h
    refine inv.setConnection there (inv.sound k c there) (fun _ _ => id)
      (fun bytes member => List.mem_of_mem_eraseIdx member) fun owner _ d => ?_
    exact Nat.add_le_add_right (List.Sublist.countP_le (List.eraseIdx_sublist c.upstream i)) _
  | read k i =>
    simp only [associationStep] at h
    split at h
    · cases h
    · rename_i c there
      split at h
      · cases h
      · rename_i bytes found
        obtain ⟨server, step, rfl⟩ := Option.map_eq_some_iff.1 h
        exact read_invariant inv there found step
  | server k e =>
    unfold associationStep at h
    split at h
    case h_7 => cases h
    case h_8 other same =>
      obtain ⟨rfl, rfl⟩ := Event.server.inj same
      split at h
      · cases h
      · rename_i c there
        obtain ⟨server, step, rfl⟩ := Option.map_eq_some_iff.1 h
        exact server_invariant inv there other step
    all_goals rename_i wrong; cases wrong

theorem association_invariant {es : List Event}
    (run : Runs (associationSystem display parseIp) es s) : Invariant display s :=
  run.invariant invariant_new fun _ _ _ inv step => associationStep_invariant inv step

def Association.owners (s : Association) (k socket : ℕ) : Option UInt64 :=
  (s.connections[k]?).bind fun c => c.server.createdFor socket

theorem count_delivered (c : Connection) (d : Datagram) :
    c.delivered.count d = c.server.tunnel.sent.countP
      fun x => owned c.server.createdFor d x.socket x.address x.data := by
  obtain ⟨id, address, data⟩ := d
  rw [Connection.delivered, List.count_eq_countP, List.countP_filterMap]
  refine List.countP_congr fun x _ => ?_
  cases h : c.server.createdFor x.socket <;> simp [owned, h]

theorem count_association_delivered (s : Association) (d : Datagram) :
    s.delivered.count d ≤ (s.connections.mapIdx (weight display s.owners d)).sum := by
  rw [Association.delivered, List.count_flatMap]
  refine sum_map_le_sum_mapIdx fun k c there => ?_
  have own : s.owners k = c.server.createdFor := by
    funext socket
    rw [Association.owners, there, Option.bind_some]
  rw [Function.comp_apply, count_delivered, weight, own, held]
  omega

end Whole

end Ombrac.UdpUpstream
