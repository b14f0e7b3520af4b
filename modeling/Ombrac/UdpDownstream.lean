import Ombrac.ListUpdates
import Ombrac.ProtocolCodec
import Ombrac.ServerDatagram

set_option autoImplicit false

/-!
# The way of a UDP datagram down to the client

Each session of the server's datagram tunnel has a loop that receives on the session's socket and
sends what it received under the session's id; the loop of a socket is the one of its number. The
tunnel may lose, duplicate and reorder what was sent. What comes up from the client is left open.
-/
namespace Ombrac.UdpDownstream
open ProtocolPacket ProtocolCodec BinaryFormat ServerDatagram ListUpdates

def maxUdpRecvBufferSize : ℕ := 65535

structure Received where
  connection : ℕ
  socket : ℕ
  fromAddr : SocketAddr
  data : Bytes
  deriving DecidableEq

inductive Loop where
  | waiting
  | sending (received : Received)
  | stopped

structure DownstreamHandler where
  sessionId : UInt64
  loop : Loop
  aborted : Bool

/-- The bytes of a sent datagram; what it was made of is noted for the statements. -/
structure InFlight where
  bytes : Bytes
  received : Received

structure ServerConnection where
  tunnel : DatagramTunnel
  handlers : List DownstreamHandler
  shutdown : Bool
  inFlight : List InFlight

inductive ServerEvent where
  | tunnel (e : TunnelEvent)
  | receive (j : ℕ) (fromAddr : SocketAddr) (data : Bytes)
  | sendDatagram (j : ℕ) (sent : Bool)
  | shutdown
  | stop (j : ℕ)
  | lose (i : ℕ)
  | duplicate (i : ℕ)

section Steps
variable (display : Fault → String)

/-- What `process_and_send_datagram` sends; a packet that cannot be encoded is not sent. -/
def DownstreamHandler.datagram (handler : DownstreamHandler) (received : Received) :
    List InFlight :=
  let packet : UdpPacket :=
    .unfragmented handler.sessionId (.ofSocketAddr received.fromAddr) received.data
  match encode display packet with
  | .ok bytes => [⟨bytes, received⟩]
  | .error _ => []

namespace ServerConnection

def new : ServerConnection := ⟨.new, [], false, []⟩

def setHandler (c : ServerConnection) (j : ℕ) (handler : DownstreamHandler) : ServerConnection :=
  { c with handlers := c.handlers.set j handler }

/-- The loops after a step of the tunnel: a bound socket gets one, and the eviction listener
aborts that of its session. -/
def followed (c : ServerConnection) : TunnelEvent → List DownstreamHandler
  | .bindSocket true =>
    match c.tunnel.upstream with
    | .binding sessionId .. => c.handlers ++ [⟨sessionId, .waiting, false⟩]
    | _ => c.handlers
  | .evictSession sessionId =>
    match c.tunnel.sessions sessionId with
    | some session =>
      match c.handlers[session.socket]? with
      | some handler => c.handlers.set session.socket { handler with aborted := true }
      | none => c.handlers
    | none => c.handlers
  | _ => c.handlers

end ServerConnection

/-- A step on the connection of number `k`. -/
def serverStep (parseIp : String → Option IpAddr) (k : ℕ) (c : ServerConnection) :
    ServerEvent → Option ServerConnection
  | .tunnel e => (tunnelStep parseIp c.tunnel e).map fun tunnel =>
      { c with tunnel := tunnel, handlers := c.followed e }
  | .receive j fromAddr data =>
    match c.handlers[j]? with
    | none => none
    | some handler =>
      match handler.loop with
      | .waiting => some (c.setHandler j { handler with
          loop := .sending ⟨k, j, fromAddr, data.take maxUdpRecvBufferSize⟩ })
      | _ => none
  | .sendDatagram j sent =>
    match c.handlers[j]? with
    | none => none
    | some handler =>
      match handler.loop with
      | .sending received => some { c.setHandler j { handler with loop := .waiting } with
          inFlight := if sent then c.inFlight ++ handler.datagram display received else c.inFlight }
      | _ => none
  | .shutdown => some { c with shutdown := true }
  | .stop j =>
    match c.handlers[j]? with
    | none => none
    | some handler =>
      if handler.aborted || c.shutdown then some (c.setHandler j { handler with loop := .stopped })
      else none
  | .lose i => some { c with inFlight := c.inFlight.eraseIdx i }
  | .duplicate i => c.inFlight[i]?.map fun x => { c with inFlight := c.inFlight ++ [x] }

end Steps

/-! ## Every datagram in flight carries the id of its socket's session -/

def ServerConnection.createdFor (c : ServerConnection) (socket : ℕ) : Option UInt64 :=
  c.handlers[socket]?.map DownstreamHandler.sessionId

def carriedFrom (fromAddr : SocketAddr) : Address := Address.carried (.ofSocketAddr fromAddr)

structure Carries (display : Fault → String) (k : ℕ) (c : ServerConnection) (x : InFlight) :
    Prop where
  connection : x.received.connection = k
  packet : ∃ id, c.createdFor x.received.socket = some id ∧
    decode display x.bytes =
      .ok (UdpPacket.unfragmented id (carriedFrom x.received.fromAddr) x.received.data)

structure Sound (display : Fault → String) (k : ℕ) (c : ServerConnection) : Prop where
  sockets : c.handlers.length = c.tunnel.sockets
  sessions : ∀ id session, c.tunnel.sessions id = some session →
    c.createdFor session.socket = some id
  loops : ∀ j (handler : DownstreamHandler) (received : Received), c.handlers[j]? = some handler →
    handler.loop = .sending received → received.connection = k ∧ received.socket = j
  inFlight : ∀ x ∈ c.inFlight, Carries display k c x

def Extends (c d : ServerConnection) : Prop :=
  ∀ socket id, c.createdFor socket = some id → d.createdFor socket = some id

section Proofs
variable {display : Fault → String} {parseIp : String → Option IpAddr} {k : ℕ}
  {c d : ServerConnection}

theorem sound_new : Sound display k .new where
  sockets := rfl
  sessions _ _ h := by cases h
  loops _ _ _ h := by cases h
  inFlight _ h := by cases h

theorem Extends.of_same (same : d.handlers = c.handlers) : Extends c d := by
  intro socket id created
  unfold ServerConnection.createdFor at created ⊢
  rw [same]
  exact created

theorem createdFor_set {j : ℕ} {handler next : DownstreamHandler}
    (there : c.handlers[j]? = some handler) (id : next.sessionId = handler.sessionId)
    (set : d.handlers = c.handlers.set j next) (socket : ℕ) :
    d.createdFor socket = c.createdFor socket := by
  unfold ServerConnection.createdFor
  rw [set]
  by_cases same : socket = j
  · subst same
    rw [getElem?_set_of_some there, there]
    exact congrArg some id
  · rw [List.getElem?_set_ne (Ne.symm same)]

theorem Extends.of_append {handler : DownstreamHandler}
    (append : d.handlers = c.handlers ++ [handler]) : Extends c d := by
  intro socket id created
  obtain ⟨old, there, own⟩ := Option.map_eq_some_iff.1 created
  unfold ServerConnection.createdFor
  rw [append, getElem?_concat_of_some there]
  exact congrArg some own

theorem Carries.mono {x : InFlight} (carries : Carries display k c x) (more : Extends c d) :
    Carries display k d x := by
  obtain ⟨id, created, decoded⟩ := carries.packet
  exact ⟨carries.connection, id, more _ id created, decoded⟩

/-- One handler goes on, and what is in flight carries its ids. -/
theorem Sound.set {j : ℕ} {handler : DownstreamHandler} {inFlight : List InFlight}
    (sound : Sound display k c) (there : c.handlers[j]? = some handler) (next : DownstreamHandler)
    (id : next.sessionId = handler.sessionId)
    (loop : ∀ received, next.loop = .sending received →
      received.connection = k ∧ received.socket = j)
    (flying : ∀ x ∈ inFlight, Carries display k c x) :
    Sound display k { c.setHandler j next with inFlight := inFlight } ∧
      Extends c { c.setHandler j next with inFlight := inFlight } := by
  have created := createdFor_set (d := { c.setHandler j next with inFlight := inFlight })
    there id rfl
  have more : Extends c { c.setHandler j next with inFlight := inFlight } := by
    intro socket id' before
    rw [created]
    exact before
  refine ⟨⟨?_, ?_, ?_, fun x member => (flying x member).mono more⟩, more⟩
  · exact (List.length_set ..).trans sound.sockets
  · intro id' session found
    exact more _ id' (sound.sessions id' session found)
  · intro i h received here sending
    obtain ⟨rfl, rfl⟩ | ⟨_, before⟩ := getElem?_set_eq_some here
    · exact loop received sending
    · exact sound.loops i h received before sending

/-- What a handler sends carries the id of its session. -/
theorem datagram_carries {j : ℕ} {handler : DownstreamHandler} {received : Received}
    (there : c.handlers[j]? = some handler) (connection : received.connection = k)
    (socket : received.socket = j) {x : InFlight} (member : x ∈ handler.datagram display received) :
    Carries display k c x := by
  unfold DownstreamHandler.datagram at member
  dsimp only at member
  split at member
  · rename_i bytes encoded
    obtain rfl := List.mem_singleton.1 member
    refine ⟨connection, handler.sessionId, ?_, decode_unfragmented encoded⟩
    unfold ServerConnection.createdFor
    rw [socket, there]
    rfl
  · cases member

theorem flying_append (sound : Sound display k c) {j : ℕ} {handler : DownstreamHandler}
    {received : Received} (there : c.handlers[j]? = some handler)
    (sending : handler.loop = .sending received) (sent : Bool) :
    ∀ x ∈ if sent then c.inFlight ++ handler.datagram display received else c.inFlight,
      Carries display k c x := by
  intro x member
  obtain ⟨connection, socket⟩ := sound.loops j handler received there sending
  cases sent with
  | false => exact sound.inFlight x member
  | true =>
    rcases List.mem_append.1 member with old | new
    · exact sound.inFlight x old
    · exact datagram_carries there connection socket new

/-! ## The tables of the tunnel -/

def SameTables (t u : DatagramTunnel) : Prop := u.sessions = t.sessions ∧ u.sockets = t.sockets

theorem getOrCreateSession_tables (t : DatagramTunnel) (sessionId : UInt64) (address : Address)
    (data : Bytes) : SameTables t (t.getOrCreateSession sessionId address data) := by
  unfold DatagramTunnel.getOrCreateSession
  split
  · exact ⟨rfl, rfl⟩
  · dsimp only
    split <;> exact ⟨rfl, rfl⟩

theorem handleUpstreamPacket_tables (t : DatagramTunnel) (packet : Option UdpPacket) :
    SameTables t (t.handleUpstreamPacket packet) := by
  cases packet with
  | none => exact ⟨rfl, rfl⟩
  | some packet =>
    simp only [DatagramTunnel.handleUpstreamPacket]
    split
    · exact getOrCreateSession_tables _ _ _ _
    · exact ⟨rfl, rfl⟩

theorem startHandler_tables (t : DatagramTunnel) (i : ℕ) (handler : Handler) :
    SameTables t (t.startHandler i handler) := by
  unfold DatagramTunnel.startHandler
  dsimp only
  split <;> exact ⟨rfl, rfl⟩

theorem resume_tables (t : DatagramTunnel) (caller : Caller) (domain : Bytes) (port : UInt16)
    (result : Except IoError SocketAddr) : SameTables t (t.resume caller domain port result) := by
  cases caller <;> cases result <;> exact ⟨rfl, rfl⟩

/-- The tables change when a socket is bound and when a session is evicted. -/
theorem tunnelStep_tables {t u : DatagramTunnel} {e : TunnelEvent}
    (step : tunnelStep parseIp t e = some u) :
    (∃ id address data family attempt, e = .bindSocket true ∧
      t.upstream = .binding id address data family attempt ∧
      u.sessions = Function.update t.sessions id (some ⟨t.sockets, family, address⟩) ∧
      u.sockets = t.sockets + 1) ∨
    (∃ id, e = .evictSession id ∧ u.sessions = Function.update t.sessions id none ∧
      u.sockets = t.sockets) ∨
    ((e ≠ .bindSocket true ∧ ∀ id, e ≠ .evictSession id) ∧ SameTables t u) := by
  cases e with
  | datagram packet =>
    simp only [tunnelStep] at step
    split at step
    · obtain rfl := Option.some.inj step
      exact .inr (.inr ⟨⟨by simp, by simp⟩, handleUpstreamPacket_tables t packet⟩)
    · cases step
  | bindSocket bound =>
    simp only [tunnelStep] at step
    split at step
    · rename_i id address data family attempt binding
      obtain rfl := Option.some.inj step
      cases bound with
      | true => exact .inl ⟨id, address, data, family, attempt, rfl, binding, rfl, rfl⟩
      | false =>
        refine .inr (.inr ⟨⟨by simp, by simp⟩, ?_⟩)
        simp only [DatagramTunnel.bindSocket, Bool.false_eq_true, if_false]
        split_ifs <;> exact ⟨rfl, rfl⟩
    · cases step
  | acquire =>
    simp only [tunnelStep] at step
    split at step
    · split_ifs at step
      obtain rfl := Option.some.inj step
      exact .inr (.inr ⟨⟨by simp, by simp⟩, rfl, rfl⟩)
    · cases step
  | start i =>
    obtain ⟨handler, _, rfl⟩ := Option.map_eq_some_iff.1 step
    exact .inr (.inr ⟨⟨by simp, by simp⟩, startHandler_tables t i handler⟩)
  | resolve i reply =>
    simp only [tunnelStep] at step
    split at step
    · cases step
    · obtain rfl := Option.some.inj step
      exact .inr (.inr ⟨⟨by simp, by simp⟩, resume_tables _ _ _ _ _⟩)
  | evictDomain domain =>
    obtain rfl := Option.some.inj step
    exact .inr (.inr ⟨⟨by simp, by simp⟩, rfl, rfl⟩)
  | evictSession id =>
    obtain rfl := Option.some.inj step
    exact .inr (.inl ⟨id, rfl, rfl, rfl⟩)

/-! ## Steps of a connection -/

theorem followed_of_other {e : TunnelEvent} (bind : e ≠ .bindSocket true)
    (evict : ∀ id, e ≠ .evictSession id) : c.followed e = c.handlers := by
  cases e with
  | bindSocket bound =>
    cases bound with
    | true => exact absurd rfl bind
    | false => rfl
  | evictSession id => exact absurd rfl (evict id)
  | _ => rfl

/-- The loops are as before but for the aborted one. -/
theorem followed_evict (id : UInt64) : c.followed (.evictSession id) = c.handlers ∨
    ∃ (j : ℕ) (handler : DownstreamHandler), c.handlers[j]? = some handler ∧
      c.followed (.evictSession id) = c.handlers.set j { handler with aborted := true } := by
  simp only [ServerConnection.followed]
  split
  · rename_i session _
    split
    · rename_i handler there
      exact .inr ⟨session.socket, handler, there, rfl⟩
    · exact .inl rfl
  · exact .inl rfl

theorem followed_bind {id : UInt64} {address : Address} {data : Bytes} {family : Family}
    {attempt : ℕ} (binding : c.tunnel.upstream = .binding id address data family attempt) :
    c.followed (.bindSocket true) = c.handlers ++ [⟨id, .waiting, false⟩] := by
  simp only [ServerConnection.followed, binding]

/-- The tunnel may go on to one with fewer sessions. -/
theorem Sound.fewer (sound : Sound display k c) {tunnel : DatagramTunnel}
    (sockets : tunnel.sockets = c.tunnel.sockets)
    (kept : ∀ id session, tunnel.sessions id = some session →
      c.tunnel.sessions id = some session) :
    Sound display k { c with tunnel := tunnel } ∧ Extends c { c with tunnel := tunnel } := by
  have more : Extends c { c with tunnel := tunnel } := .of_same rfl
  refine ⟨⟨sound.sockets.trans sockets.symm, ?_, sound.loops,
    fun x member => (sound.inFlight x member).mono more⟩, more⟩
  exact fun id session found => sound.sessions id session (kept id session found)

/-- A new session comes with the last socket and its loop. -/
theorem Sound.bound (sound : Sound display k c) {id : UInt64} {family : Family}
    {address : Address} {tunnel : DatagramTunnel}
    (sessions : tunnel.sessions =
      Function.update c.tunnel.sessions id (some ⟨c.tunnel.sockets, family, address⟩))
    (sockets : tunnel.sockets = c.tunnel.sockets + 1) :
    Sound display k { c with tunnel := tunnel, handlers := c.handlers ++ [⟨id, .waiting, false⟩] } ∧
      Extends c
        { c with tunnel := tunnel, handlers := c.handlers ++ [⟨id, .waiting, false⟩] } := by
  have more : Extends c { c with
      tunnel := tunnel, handlers := c.handlers ++ [⟨id, .waiting, false⟩] } := .of_append rfl
  refine ⟨⟨?_, ?_, ?_, fun x member => (sound.inFlight x member).mono more⟩, more⟩
  · change (c.handlers ++ [_]).length = tunnel.sockets
    rw [List.length_append, sound.sockets, sockets]
    rfl
  · intro other session found
    change tunnel.sessions other = some session at found
    rw [sessions] at found
    obtain ⟨rfl, rfl⟩ | ⟨_, before⟩ := update_some_eq_some found
    · change ((c.handlers ++ [_])[c.tunnel.sockets]?).map _ = _
      rw [← sound.sockets, List.getElem?_concat_length]
      rfl
    · exact more _ _ (sound.sessions other session before)
  · intro j handler received there sending
    obtain before | ⟨_, rfl⟩ := getElem?_concat_eq_some there
    · exact sound.loops j handler received before sending
    · cases sending

theorem tunnel_sound (sound : Sound display k c) {e : TunnelEvent} {tunnel : DatagramTunnel}
    (step : tunnelStep parseIp c.tunnel e = some tunnel) :
    Sound display k { c with tunnel := tunnel, handlers := c.followed e } ∧
      Extends c { c with tunnel := tunnel, handlers := c.followed e } := by
  obtain ⟨id, address, data, family, attempt, rfl, binding, sessions, sockets⟩ |
    ⟨id, rfl, sessions, sockets⟩ | ⟨⟨bind, evict⟩, sessions, sockets⟩ := tunnelStep_tables step
  · rw [followed_bind binding]
    exact sound.bound sessions sockets
  · have kept : ∀ other session, tunnel.sessions other = some session →
        c.tunnel.sessions other = some session := by
      intro other session found
      rw [sessions] at found
      exact (update_none_eq_some found).2
    obtain same | ⟨j, handler, there, aborted⟩ := followed_evict (c := c) id
    · rw [same]
      exact sound.fewer sockets kept
    · rw [aborted]
      obtain ⟨set, more⟩ := sound.set there { handler with aborted := true } rfl
        (fun received => sound.loops j handler received there) sound.inFlight
      obtain ⟨fewer, same⟩ := set.fewer sockets kept
      exact ⟨fewer, fun socket id created => same socket id (more socket id created)⟩
  · rw [followed_of_other bind evict]
    exact sound.fewer sockets fun other session found => sessions ▸ found

/-- What is in flight may change as long as it carries the ids of its sockets. -/
theorem Sound.inFlight_of (sound : Sound display k c) (inFlight : List InFlight)
    (flying : ∀ x ∈ inFlight, Carries display k c x) :
    Sound display k { c with inFlight := inFlight } ∧ Extends c { c with inFlight := inFlight } :=
  ⟨⟨sound.sockets, sound.sessions, sound.loops, fun x member => (flying x member).mono (.of_same rfl)⟩,
    .of_same rfl⟩

theorem serverStep_sound (sound : Sound display k c) {e : ServerEvent}
    (step : serverStep display parseIp k c e = some d) : Sound display k d ∧ Extends c d := by
  cases e with
  | tunnel e =>
    obtain ⟨tunnel, taken, rfl⟩ := Option.map_eq_some_iff.1 step
    exact tunnel_sound sound taken
  | receive j fromAddr data =>
    simp only [serverStep] at step
    split at step
    · cases step
    · rename_i handler there
      split at step
      · obtain rfl := Option.some.inj step
        refine sound.set there _ rfl ?_ sound.inFlight
        intro received sending
        obtain rfl := Loop.sending.inj sending
        exact ⟨rfl, rfl⟩
      · cases step
  | sendDatagram j sent =>
    simp only [serverStep] at step
    split at step
    · cases step
    · rename_i handler there
      split at step
      · rename_i received sending
        obtain rfl := Option.some.inj step
        exact sound.set there _ rfl (fun _ idle => by cases idle)
          (flying_append sound there sending sent)
      · cases step
  | shutdown =>
    obtain rfl := Option.some.inj step
    exact ⟨⟨sound.sockets, sound.sessions, sound.loops,
      fun x member => (sound.inFlight x member).mono (.of_same rfl)⟩, .of_same rfl⟩
  | stop j =>
    simp only [serverStep] at step
    split at step
    · cases step
    · rename_i handler there
      split_ifs at step
      obtain rfl := Option.some.inj step
      exact sound.set there _ rfl (fun _ stopped => by cases stopped) sound.inFlight
  | lose i =>
    obtain rfl := Option.some.inj step
    exact sound.inFlight_of _ fun x member => sound.inFlight x (List.mem_of_mem_eraseIdx member)
  | duplicate i =>
    obtain ⟨x, there, rfl⟩ := Option.map_eq_some_iff.1 step
    refine sound.inFlight_of _ fun y member => ?_
    rcases List.mem_append.1 member with old | new
    · exact sound.inFlight y old
    · obtain rfl := List.mem_singleton.1 new
      exact sound.inFlight y (List.mem_of_getElem? there)

end Proofs
end Ombrac.UdpDownstream
