import Ombrac.ServerLookup
import Ombrac.UdpReassembly

set_option autoImplicit false

/-!
# The server's datagram tunnel

One accept loop handles upstream packets one after the other: it reassembles, finds or creates
the session and takes a permit; a spawned handler then looks the destination up and sends. All
lookups, of the loop and of the handlers, share one cache.
-/
namespace Ombrac.ServerDatagram
open LabelledSystem ProtocolPacket ServerLookup UdpReassembly

def maxConcurrentHandlers : ℕ := 4096
def socketBindRetryMax : ℕ := 3

inductive Family where
  | v4 | v6
  deriving DecidableEq, Repr

def Family.of : SocketAddr → Family
  | .v4 _ => .v4
  | .v6 _ => .v6

structure DatagramSession where
  socket : ℕ
  family : Family
  destination : Address

/-- Who waits for a lookup: `get_or_create_session`, or the spawned handler of a packet. -/
inductive Caller where
  | bind (sessionId : UInt64) (address : Address) (data : Bytes)
  | send (socket : ℕ) (data : Bytes)
  deriving DecidableEq

/-- Where the accept loop is. -/
inductive Upstream where
  | reading
  | resolving
  | binding (sessionId : UInt64) (address : Address) (data : Bytes) (family : Family)
      (attempt : ℕ)
  | acquiring (socket : ℕ) (address : Address) (data : Bytes)

structure Handler where
  socket : ℕ
  address : Address
  data : Bytes

/-- One `send_to`: the packet's header address and the address it went to. -/
structure Sent where
  socket : ℕ
  data : Bytes
  address : Address
  dest : SocketAddr
  deriving DecidableEq

structure DatagramTunnel where
  reassembler : UdpReassembler
  sessions : UInt64 → Option DatagramSession
  lookups : Lookups Caller
  upstream : Upstream
  spawned : List Handler
  permits : ℕ
  sockets : ℕ
  upstreamBytes : ℕ → UInt64
  reassembliesCompleted : UInt64
  udpSessionsOpened : UInt64
  sent : List Sent

namespace DatagramTunnel

def new : DatagramTunnel where
  reassembler := .new
  sessions := fun _ => none
  lookups := .new
  upstream := .reading
  spawned := []
  permits := maxConcurrentHandlers
  sockets := 0
  upstreamBytes := fun _ => 0
  reassembliesCompleted := 0
  udpSessionsOpened := 0
  sent := []

def getOrCreateSession (t : DatagramTunnel) (sessionId : UInt64) (address : Address)
    (data : Bytes) : DatagramTunnel :=
  match t.sessions sessionId with
  | some session => { t with upstream := .acquiring session.socket address data }
  | none =>
    let (lookups, found) := t.lookups.call (.bind sessionId address data) address
    match found with
    | some addr =>
      { t with lookups := lookups, upstream := .binding sessionId address data (.of addr) 0 }
    | none => { t with lookups := lookups, upstream := .resolving }

/-- `handle_upstream_packet` up to its first wait; `none` is a datagram that does not decode. -/
def handleUpstreamPacket (t : DatagramTunnel) : Option UdpPacket → DatagramTunnel
  | none => t
  | some packet =>
    let (reassembled, reassembler) := t.reassembler.process packet
    match reassembled with
    | .ok (some (sessionId, address, data)) =>
      { t with
        reassembler := reassembler
        reassembliesCompleted := t.reassembliesCompleted + 1 }.getOrCreateSession
          sessionId address data
    | _ => { t with reassembler := reassembler }

/-- One attempt of `bind_udp_socket_with_retry`; a bound socket opens the session. -/
def bindSocket (t : DatagramTunnel) (sessionId : UInt64) (address : Address) (data : Bytes)
    (family : Family) (attempt : ℕ) (bound : Bool) : DatagramTunnel :=
  if bound then
    { t with
      sessions := Function.update t.sessions sessionId (some ⟨t.sockets, family, address⟩)
      sockets := t.sockets + 1
      udpSessionsOpened := t.udpSessionsOpened + 1
      upstream := .acquiring t.sockets address data }
  else if attempt + 1 < socketBindRetryMax then
    { t with upstream := .binding sessionId address data family (attempt + 1) }
  else { t with upstream := .reading }

def spawnHandler (t : DatagramTunnel) (handler : Handler) : DatagramTunnel :=
  { t with
    permits := t.permits - 1
    spawned := t.spawned ++ [handler]
    upstream := .reading }

def sendTo (t : DatagramTunnel) (handler : Handler) (dest : SocketAddr) : DatagramTunnel :=
  { t with
    permits := t.permits + 1
    sent := t.sent ++ [⟨handler.socket, handler.data, handler.address, dest⟩] }

/-- The spawned future up to the first wait of its lookup. -/
def startHandler (t : DatagramTunnel) (i : ℕ) (handler : Handler) : DatagramTunnel :=
  let (lookups, found) := t.lookups.call (.send handler.socket handler.data) handler.address
  let t := { t with
    spawned := t.spawned.eraseIdx i
    lookups := lookups
    upstreamBytes := Function.update t.upstreamBytes handler.socket
      (t.upstreamBytes handler.socket + handler.data.length.toUInt64) }
  match found with
  | some dest => t.sendTo handler dest
  | none => t

def resume (t : DatagramTunnel) (caller : Caller) (domain : Bytes) (port : UInt16)
    (result : Except IoError SocketAddr) : DatagramTunnel :=
  match caller, result with
  | .bind sessionId address data, .ok addr =>
    { t with upstream := .binding sessionId address data (.of addr) 0 }
  | .bind .., .error _ => { t with upstream := .reading }
  | .send socket data, .ok dest => t.sendTo ⟨socket, .domain domain port, data⟩ dest
  | .send .., .error _ => { t with permits := t.permits + 1 }

end DatagramTunnel

def resolved (parseIp : String → Option IpAddr) (t : DatagramTunnel) (i : ℕ) (reply : DnsReply)
    (caller : Caller) (domain : Bytes) (port : UInt16) : DatagramTunnel :=
  let lookups := { t.lookups with resolving := t.lookups.resolving.eraseIdx i }
  { t with
    lookups := lookups.finish caller domain port (resolveDomain parseIp reply domain port) }

inductive TunnelEvent where
  | datagram (packet : Option UdpPacket)
  | bindSocket (bound : Bool)
  | acquire
  | start (i : ℕ)
  | resolve (i : ℕ) (reply : DnsReply)
  | evictDomain (domain : Bytes)
  | evictSession (sessionId : UInt64)

def tunnelStep (parseIp : String → Option IpAddr) (t : DatagramTunnel) :
    TunnelEvent → Option DatagramTunnel
  | .datagram packet =>
    match t.upstream with
    | .reading => some (t.handleUpstreamPacket packet)
    | _ => none
  | .bindSocket bound =>
    match t.upstream with
    | .binding sessionId address data family attempt =>
      some (t.bindSocket sessionId address data family attempt bound)
    | _ => none
  | .acquire =>
    match t.upstream with
    | .acquiring socket address data =>
      if 0 < t.permits then some (t.spawnHandler ⟨socket, address, data⟩) else none
    | _ => none
  | .start i => t.spawned[i]?.map (t.startHandler i)
  | .resolve i reply =>
    match t.lookups.resolving[i]? with
    | none => none
    | some (caller, domain, port) =>
      some ((resolved parseIp t i reply caller domain port).resume caller domain port
        (resolveDomain parseIp reply domain port))
  | .evictDomain domain => some { t with lookups := t.lookups.evict domain }
  | .evictSession sessionId =>
    some { t with sessions := Function.update t.sessions sessionId none }

def tunnelSystem (parseIp : String → Option IpAddr) : System DatagramTunnel TunnelEvent :=
  ⟨.new, tunnelStep parseIp⟩

/-! ## What one step of the tunnel can do -/

section Step
variable {parseIp : String → Option IpAddr} {t u : DatagramTunnel}

def Quiet (parseIp : String → Option IpAddr) (t u : DatagramTunnel) : Prop :=
  u.sent = t.sent ∧
    (u.lookups = t.lookups ∨ ∃ le, lookupStep parseIp t.lookups le = some u.lookups)

theorem getOrCreateSession_quiet (t : DatagramTunnel) (sessionId : UInt64) (address : Address)
    (data : Bytes) : Quiet parseIp t (t.getOrCreateSession sessionId address data) := by
  unfold DatagramTunnel.getOrCreateSession
  split
  · exact ⟨rfl, .inl rfl⟩
  · dsimp only
    split
    · exact ⟨rfl, .inr ⟨.call (.bind sessionId address data) address, rfl⟩⟩
    · exact ⟨rfl, .inr ⟨.call (.bind sessionId address data) address, rfl⟩⟩

theorem handleUpstreamPacket_quiet (t : DatagramTunnel) (packet : Option UdpPacket) :
    Quiet parseIp t (t.handleUpstreamPacket packet) := by
  cases packet with
  | none => exact ⟨rfl, .inl rfl⟩
  | some packet =>
    simp only [DatagramTunnel.handleUpstreamPacket]
    split
    · exact getOrCreateSession_quiet _ _ _ _
    · exact ⟨rfl, .inl rfl⟩

theorem bindSocket_quiet (t : DatagramTunnel) (sessionId : UInt64) (address : Address)
    (data : Bytes) (family : Family) (attempt : ℕ) (bound : Bool) :
    Quiet parseIp t (t.bindSocket sessionId address data family attempt bound) := by
  unfold DatagramTunnel.bindSocket
  split_ifs
  · exact ⟨rfl, .inl rfl⟩
  · exact ⟨rfl, .inl rfl⟩
  · exact ⟨rfl, .inl rfl⟩

/-- Only a handler that starts and a caller that resumes can send. -/
theorem tunnelStep_cases {e : TunnelEvent} (h : tunnelStep parseIp t e = some u) :
    (∃ i handler, e = .start i ∧ t.spawned[i]? = some handler ∧ u = t.startHandler i handler) ∨
    (∃ i reply caller domain port, e = .resolve i reply ∧
      t.lookups.resolving[i]? = some (caller, domain, port) ∧
      u = (resolved parseIp t i reply caller domain port).resume caller domain port
        (resolveDomain parseIp reply domain port)) ∨
    (∀ i, e ≠ .start i) ∧ Quiet parseIp t u := by
  cases e with
  | datagram packet =>
    simp only [tunnelStep] at h
    split at h
    · obtain rfl := Option.some.inj h
      exact .inr (.inr ⟨by simp, handleUpstreamPacket_quiet t packet⟩)
    · cases h
  | bindSocket bound =>
    simp only [tunnelStep] at h
    split at h
    · obtain rfl := Option.some.inj h
      exact .inr (.inr ⟨by simp, bindSocket_quiet t _ _ _ _ _ _⟩)
    · cases h
  | acquire =>
    simp only [tunnelStep] at h
    split at h
    · split_ifs at h
      obtain rfl := Option.some.inj h
      exact .inr (.inr ⟨by simp, rfl, .inl rfl⟩)
    · cases h
  | start i =>
    obtain ⟨handler, found, rfl⟩ := Option.map_eq_some_iff.1 h
    exact .inl ⟨i, handler, rfl, found, rfl⟩
  | resolve i reply =>
    simp only [tunnelStep] at h
    split at h
    · cases h
    · rename_i caller domain port found
      exact .inr (.inl ⟨i, reply, caller, domain, port, rfl, found, (Option.some.inj h).symm⟩)
  | evictDomain domain =>
    obtain rfl := Option.some.inj h
    exact .inr (.inr ⟨by simp, rfl, .inr ⟨.evict domain, rfl⟩⟩)
  | evictSession sessionId =>
    obtain rfl := Option.some.inj h
    exact .inr (.inr ⟨by simp, rfl, .inl rfl⟩)

end Step

/-! ## The tunnel's lookups are a run of the lookup system -/

section Lookups
variable {parseIp : String → Option IpAddr} {t u : DatagramTunnel}

theorem startHandler_lookups (t : DatagramTunnel) (i : ℕ) (handler : Handler) :
    (t.startHandler i handler).lookups =
      (t.lookups.call (.send handler.socket handler.data) handler.address).1 := by
  unfold DatagramTunnel.startHandler
  dsimp only
  split <;> rfl

theorem resume_lookups (t : DatagramTunnel) (caller : Caller) (domain : Bytes) (port : UInt16)
    (result : Except IoError SocketAddr) :
    (t.resume caller domain port result).lookups = t.lookups := by
  cases caller <;> cases result <;> rfl

theorem tunnelStep_lookups {e : TunnelEvent} (h : tunnelStep parseIp t e = some u) :
    u.lookups = t.lookups ∨ ∃ le, lookupStep parseIp t.lookups le = some u.lookups := by
  rcases tunnelStep_cases h with ⟨i, handler, rfl, _, rfl⟩ |
      ⟨i, reply, caller, domain, port, rfl, found, rfl⟩ | ⟨_, quiet⟩
  · refine .inr ⟨.call (.send handler.socket handler.data) handler.address, ?_⟩
    rw [startHandler_lookups]
    rfl
  · refine .inr ⟨.resolve i reply, ?_⟩
    rw [resume_lookups]
    simp only [lookupStep, found, resolved]
  · exact quiet.2

/-- Whatever the tunnel does, its lookups are an interleaving of `lookup_host` calls. -/
theorem tunnel_lookups_run {es : List TunnelEvent} (run : Runs (tunnelSystem parseIp) es t) :
    ∃ ls, Runs (lookupSystem parseIp Caller) ls t.lookups := by
  refine run.invariant (I := fun t => ∃ ls, Runs (lookupSystem parseIp Caller) ls t.lookups)
    ⟨[], .initial⟩ ?_
  rintro u e v ⟨ls, lookups⟩ step
  rcases tunnelStep_lookups step with same | ⟨le, next⟩
  · exact ⟨ls, same ▸ lookups⟩
  · exact ⟨ls ++ [le], lookups.next next⟩

end Lookups

/-! ## Ports of the packets sent -/

def SendsOwnPort (t : DatagramTunnel) : Prop := ∀ x ∈ t.sent, x.dest.port = x.address.port

def StartsHitOwnPort (t : DatagramTunnel) : TunnelEvent → Prop
  | .start i => ∀ handler, t.spawned[i]? = some handler → HitOwnPort t.lookups handler.address
  | _ => True

section Sends
variable {parseIp : String → Option IpAddr} {t u : DatagramTunnel}

theorem sendTo_ownPort (h : SendsOwnPort t) (handler : Handler) (dest : SocketAddr) :
    SendsOwnPort (t.sendTo handler dest) ↔ dest.port = handler.address.port := by
  constructor
  · intro all
    exact all ⟨handler.socket, handler.data, handler.address, dest⟩
      (by simp [DatagramTunnel.sendTo])
  · intro last x member
    simp only [DatagramTunnel.sendTo, List.mem_append, List.mem_singleton] at member
    rcases member with old | rfl
    · exact h x old
    · exact last

theorem startHandler_ownPort (h : SendsOwnPort t) (i : ℕ) (handler : Handler) :
    SendsOwnPort (t.startHandler i handler) ↔ HitOwnPort t.lookups handler.address := by
  obtain ⟨socket, address, data⟩ := handler
  cases address with
  | socketV4 addr => exact (sendTo_ownPort h _ _).trans (iff_of_true rfl trivial)
  | socketV6 addr => exact (sendTo_ownPort h _ _).trans (iff_of_true rfl trivial)
  | domain domain port =>
    simp only [DatagramTunnel.startHandler, Lookups.call, HitOwnPort]
    cases cached : t.lookups.dnsCache domain with
    | none => exact iff_of_true h (fun _ impossible => (by cases impossible))
    | some addr =>
      refine (sendTo_ownPort h _ _).trans ?_
      simp [Address.port]

theorem resume_ownPort (h : SendsOwnPort t) (caller : Caller) (domain : Bytes) (port : UInt16)
    {result : Except IoError SocketAddr} (own : ∀ addr, result = .ok addr → addr.port = port) :
    SendsOwnPort (t.resume caller domain port result) := by
  cases caller with
  | bind sessionId address data => cases result <;> exact h
  | send socket data =>
    cases result with
    | error e => exact h
    | ok dest => exact (sendTo_ownPort h _ _).2 (own dest rfl)

theorem tunnelStep_ownPort (h : SendsOwnPort t) {e : TunnelEvent}
    (step : tunnelStep parseIp t e = some u) : SendsOwnPort u ↔ StartsHitOwnPort t e := by
  rcases tunnelStep_cases step with ⟨i, handler, rfl, found, rfl⟩ |
      ⟨i, reply, caller, domain, port, rfl, _, rfl⟩ | ⟨other, quiet⟩
  · refine (startHandler_ownPort h i handler).trans ?_
    simp [StartsHitOwnPort, found]
  · refine iff_of_true (resume_ownPort ?_ _ _ _ ?_) trivial
    · exact h
    · intro addr result
      exact resolveDomain_port result
  · refine iff_of_true ?_ ?_
    · intro x member
      exact h x (quiet.1 ▸ member)
    · cases e with
      | start i => exact absurd rfl (other i)
      | _ => trivial

theorem call_answers {τ : Type} {s : Lookups τ} {caller : τ} {address : Address}
    {addr : SocketAddr} (h : (s.call caller address).2 = some addr) :
    (caller, address, addr) ∈ (s.call caller address).1.answered := by
  cases address with
  | socketV4 own =>
    obtain rfl : SocketAddr.v4 own = addr := Option.some.inj h
    simp [Lookups.call, Lookups.answer]
  | socketV6 own =>
    obtain rfl : SocketAddr.v6 own = addr := Option.some.inj h
    simp [Lookups.call, Lookups.answer]
  | domain domain port =>
    simp only [Lookups.call] at h ⊢
    split at h
    · obtain rfl := Option.some.inj h
      simp [Lookups.answer]
    · cases h

theorem startHandler_sent (t : DatagramTunnel) (i : ℕ) (handler : Handler) {x : Sent}
    (member : x ∈ (t.startHandler i handler).sent) : x ∈ t.sent ∨
      (.send x.socket x.data, x.address, x.dest) ∈
        (t.startHandler i handler).lookups.answered := by
  rw [startHandler_lookups]
  unfold DatagramTunnel.startHandler at member
  dsimp only at member
  split at member
  · rename_i dest found
    simp only [DatagramTunnel.sendTo, List.mem_append, List.mem_singleton] at member
    rcases member with old | rfl
    · exact .inl old
    · exact .inr (call_answers found)
  · exact .inl member

theorem resume_sent (t : DatagramTunnel) (caller : Caller) (domain : Bytes) (port : UInt16)
    (result : Except IoError SocketAddr) {x : Sent}
    (member : x ∈ (t.resume caller domain port result).sent) : x ∈ t.sent ∨
      caller = .send x.socket x.data ∧ x.address = .domain domain port ∧ result = .ok x.dest := by
  cases caller with
  | bind sessionId address data => cases result <;> exact .inl member
  | send socket data =>
    cases result with
    | error e => exact .inl member
    | ok dest =>
      simp only [DatagramTunnel.resume, DatagramTunnel.sendTo, List.mem_append,
        List.mem_singleton] at member
      rcases member with old | rfl
      · exact .inl old
      · exact .inr ⟨rfl, rfl, rfl⟩

/-- Every packet sent is the answer of a lookup made for its own header. -/
theorem sent_answered {es : List TunnelEvent} (run : Runs (tunnelSystem parseIp) es t) :
    ∀ x ∈ t.sent, (.send x.socket x.data, x.address, x.dest) ∈ t.lookups.answered := by
  refine run.invariant (I := fun t => ∀ x ∈ t.sent,
    (.send x.socket x.data, x.address, x.dest) ∈ t.lookups.answered) ?_ ?_
  · intro x member
    cases member
  · intro u e v ih step x member
    have keep : u.lookups.answered ⊆ v.lookups.answered := by
      rcases tunnelStep_lookups step with same | ⟨le, next⟩
      · exact same ▸ List.Subset.refl _
      · exact lookupStep_answered next
    rcases tunnelStep_cases step with ⟨i, handler, rfl, _, rfl⟩ |
        ⟨i, reply, caller, domain, port, rfl, _, rfl⟩ | ⟨_, quiet⟩
    · exact (startHandler_sent u i handler member).elim (fun old => keep (ih x old)) id
    · rcases resume_sent _ _ _ _ _ member with old | ⟨rfl, address, result⟩
      · exact keep (ih x old)
      · rw [resume_lookups]
        simp [resolved, Lookups.finish, Lookups.answer, result, address]
    · exact keep (ih x (quiet.1 ▸ member))

end Sends

/-- Both levels at once. Lookups: along any interleaving, every answer for a domain has its own
port and an IP resolved for that domain exactly when no call hits an entry stored with another
port. Packets: along any run of the tunnel, every packet goes to the port of its own header
exactly when no handler's lookup hits such an entry. -/
theorem lookup_host_ownPort_iff (parseIp : String → Option IpAddr) (τ : Type) :
    (∀ es : List (LookupEvent τ),
      (∀ s, Visits (lookupSystem parseIp τ) es s → AnswersOwnPort s) ↔
        ∀ s e u, Takes (lookupSystem parseIp τ) es s e u → CallsHitOwnPort s e) ∧
    ∀ es : List TunnelEvent,
      (∀ t, Visits (tunnelSystem parseIp) es t → SendsOwnPort t) ↔
        ∀ t e u, Takes (tunnelSystem parseIp) es t e u → StartsHitOwnPort t e := by
  refine ⟨lookups_ownPort_iff, fun es => ?_⟩
  apply safe_iff_guarded (I := fun _ => True) trivial
  · intro x member
    cases member
  · exact fun _ _ _ _ _ _ => trivial
  · exact fun t e u _ own step => tunnelStep_ownPort own step

/-- `d.` resolves to `1.2.3.4` alone. -/
def oneRecord : DnsReply := ⟨.ok (), none, some [.a ⟨0x01020304⟩]⟩

/-- Two packets of one session to `d.`, the first to port 53 and the second to port 443. -/
def twoPorts : List TunnelEvent :=
  [.datagram (some (.unfragmented 1 (.domain [100, 46] 53) [7])), .resolve 0 oneRecord,
    .bindSocket true, .acquire, .start 0,
    .datagram (some (.unfragmented 1 (.domain [100, 46] 443) [8])), .acquire, .start 0]

/-- The second packet is sent to port 53, the answer its handler's lookup got from the cache. -/
theorem second_port_lost : ∃ t, Runs (tunnelSystem fun _ => none) twoPorts t ∧
    ¬ SendsOwnPort t ∧ ¬ AnswersOwnPort t.lookups := by
  refine ⟨(exec (tunnelSystem fun _ => none) twoPorts).get (by decide),
    runs_of_exec (Option.some_get _).symm, ?_, ?_⟩
  · intro own
    exact absurd (own ⟨0, [8], .domain [100, 46] 443, .v4 ⟨⟨0x01020304⟩, 53⟩⟩ (by decide))
      (by decide)
  · intro own
    have last := own (.send 0 [8], .domain [100, 46] 443, .v4 ⟨⟨0x01020304⟩, 53⟩) (by decide)
    exact absurd last.1 (by decide)

end Ombrac.ServerDatagram
