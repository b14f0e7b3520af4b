import Ombrac.ServerDatagram

set_option autoImplicit false

/-!
# Address families of the server's UDP sockets

The tunnel with two histories of its sockets: the family of the address each was bound to, and the
address that the lookup of `get_or_create_session` gave for the packet that created its session.
-/
namespace Ombrac.ServerFamilies
open LabelledSystem ProtocolPacket ServerLookup ServerDatagram

def bindAnswer (x : Caller × Address × SocketAddr) : Option SocketAddr :=
  match x.1 with
  | .bind .. => some x.2.2
  | .send .. => none

def lastBind (lookups : Lookups Caller) : Option SocketAddr :=
  (lookups.answered.filterMap bindAnswer).getLast?

structure Tracked where
  tunnel : DatagramTunnel
  bound : ℕ → Option Family
  first : ℕ → Option SocketAddr

/-- What `bind_udp_socket_with_retry` is called with, when it is about to succeed. -/
def binds (t : DatagramTunnel) : TunnelEvent → Option Family
  | .bindSocket true =>
    match t.upstream with
    | .binding _ _ _ family _ => some family
    | _ => none
  | _ => none

def trackedStep (parseIp : String → Option IpAddr) (s : Tracked) (e : TunnelEvent) :
    Option Tracked :=
  (tunnelStep parseIp s.tunnel e).map fun tunnel =>
    match binds s.tunnel e with
    | none => { s with tunnel }
    | some family =>
      { tunnel
        bound := Function.update s.bound s.tunnel.sockets (some family)
        first := Function.update s.first s.tunnel.sockets (lastBind s.tunnel.lookups) }

def trackedSystem (parseIp : String → Option IpAddr) : System Tracked TunnelEvent :=
  ⟨⟨.new, fun _ => none, fun _ => none⟩, trackedStep parseIp⟩

def SendsOwnFamily (s : Tracked) : Prop :=
  ∀ x ∈ s.tunnel.sent, s.bound x.socket = some (.of x.dest)

/-- The lookup of a packet's handler answers with an address of the family of the address that
created the session. -/
def SameFamily (s : Tracked) (socket : ℕ) (dest : SocketAddr) : Prop :=
  (s.first socket).map Family.of = some (.of dest)

def StaysInFamily (parseIp : String → Option IpAddr) (s : Tracked) : TunnelEvent → Prop
  | .start i => ∀ handler, s.tunnel.spawned[i]? = some handler → ∀ dest,
      (s.tunnel.lookups.call (.send handler.socket handler.data) handler.address).2 = some dest →
      SameFamily s handler.socket dest
  | .resolve i reply => ∀ socket data domain port,
      s.tunnel.lookups.resolving[i]? = some (.send socket data, domain, port) → ∀ dest,
      resolveDomain parseIp reply domain port = .ok dest → SameFamily s socket dest
  | _ => True

def BindsFamily (t : DatagramTunnel) : Prop :=
  ∀ sessionId address data family attempt,
    t.upstream = .binding sessionId address data family attempt →
    (lastBind t.lookups).map Family.of = some family

structure Families (s : Tracked) : Prop where
  bound : ∀ n, s.bound n = (s.first n).map Family.of
  fresh : ∀ n, s.tunnel.sockets ≤ n → s.bound n = none
  binding : BindsFamily s.tunnel

section Binding
variable {parseIp : String → Option IpAddr} {t u : DatagramTunnel}

theorem lastBind_answer_bind (lookups : Lookups Caller) (sessionId : UInt64) (address : Address)
    (data : Bytes) (asked : Address) (addr : SocketAddr) :
    lastBind (lookups.answer (.bind sessionId address data) asked addr) = some addr := by
  simp [lastBind, Lookups.answer, bindAnswer]

theorem lastBind_answer_send (lookups : Lookups Caller) (socket : ℕ) (data : Bytes)
    (asked : Address) (addr : SocketAddr) :
    lastBind (lookups.answer (.send socket data) asked addr) = lastBind lookups := by
  simp [lastBind, Lookups.answer, bindAnswer]

theorem lastBind_call_bind {lookups : Lookups Caller} {sessionId : UInt64} {address : Address}
    {data : Bytes} {addr : SocketAddr}
    (h : (lookups.call (.bind sessionId address data) address).2 = some addr) :
    lastBind (lookups.call (.bind sessionId address data) address).1 = some addr := by
  cases address with
  | socketV4 own =>
    obtain rfl := Option.some.inj h
    exact lastBind_answer_bind ..
  | socketV6 own =>
    obtain rfl := Option.some.inj h
    exact lastBind_answer_bind ..
  | domain domain port =>
    simp only [Lookups.call] at h ⊢
    split at h
    · obtain rfl := Option.some.inj h
      exact lastBind_answer_bind ..
    · cases h

theorem lastBind_call_send (lookups : Lookups Caller) (socket : ℕ) (data : Bytes)
    (address : Address) :
    lastBind (lookups.call (.send socket data) address).1 = lastBind lookups := by
  cases address with
  | socketV4 own => exact lastBind_answer_send ..
  | socketV6 own => exact lastBind_answer_send ..
  | domain domain port =>
    simp only [Lookups.call]
    split
    · exact lastBind_answer_send ..
    · rfl

theorem BindsFamily.of_same (h : BindsFamily t) (upstream : u.upstream = t.upstream)
    (last : lastBind u.lookups = lastBind t.lookups) : BindsFamily u := by
  intro sessionId address data family attempt binding
  rw [upstream] at binding
  rw [last]
  exact h _ _ _ _ _ binding

theorem bindsFamily_of_binding {sessionId : UInt64} {address : Address} {data : Bytes}
    {dest : SocketAddr} {attempt : ℕ}
    (upstream : u.upstream = .binding sessionId address data (.of dest) attempt)
    (last : lastBind u.lookups = some dest) : BindsFamily u := by
  intro sessionId' address' data' family attempt' binding
  cases upstream.symm.trans binding
  rw [last]
  rfl

theorem bindsFamily_getOrCreateSession (t : DatagramTunnel) (sessionId : UInt64)
    (address : Address) (data : Bytes) :
    BindsFamily (t.getOrCreateSession sessionId address data) := by
  unfold DatagramTunnel.getOrCreateSession
  split
  · intro _ _ _ _ _ binding
    cases binding
  · dsimp only
    split
    · rename_i addr found
      exact bindsFamily_of_binding rfl (lastBind_call_bind found)
    · intro _ _ _ _ _ binding
      cases binding

theorem bindsFamily_handleUpstreamPacket (h : BindsFamily t) (packet : Option UdpPacket) :
    BindsFamily (t.handleUpstreamPacket packet) := by
  cases packet with
  | none => exact h
  | some packet =>
    simp only [DatagramTunnel.handleUpstreamPacket]
    split
    · apply bindsFamily_getOrCreateSession
    · exact h.of_same rfl rfl

theorem bindsFamily_bindSocket (h : BindsFamily t) {sessionId : UInt64} {address : Address}
    {data : Bytes} {family : Family} {attempt : ℕ}
    (here : t.upstream = .binding sessionId address data family attempt) (bound : Bool) :
    BindsFamily (t.bindSocket sessionId address data family attempt bound) := by
  have last := h _ _ _ _ _ here
  unfold DatagramTunnel.bindSocket
  split_ifs
  · intro _ _ _ _ _ binding
    cases binding
  · intro _ _ _ _ _ binding
    cases binding
    exact last
  · intro _ _ _ _ _ binding
    cases binding

theorem bindsFamily_startHandler (h : BindsFamily t) (i : ℕ) (handler : Handler) :
    BindsFamily (t.startHandler i handler) := by
  have lookups := startHandler_lookups t i handler
  refine h.of_same ?_ ?_
  · unfold DatagramTunnel.startHandler
    dsimp only
    split <;> rfl
  · rw [lookups]
    exact lastBind_call_send ..

theorem bindsFamily_resume (h : BindsFamily t) (i : ℕ) (reply : DnsReply) (caller : Caller)
    (domain : Bytes) (port : UInt16) :
    BindsFamily ((resolved parseIp t i reply caller domain port).resume caller domain port
      (resolveDomain parseIp reply domain port)) := by
  cases result : resolveDomain parseIp reply domain port with
  | error e =>
    cases caller with
    | bind sessionId address data =>
      intro _ _ _ _ _ binding
      cases binding
    | send socket data =>
      refine h.of_same rfl ?_
      simp [resolved, result, Lookups.finish, DatagramTunnel.resume, lastBind]
  | ok dest =>
    cases caller with
    | bind sessionId address data =>
      refine bindsFamily_of_binding rfl ?_
      simp only [resolved, result, Lookups.finish]
      exact lastBind_answer_bind ..
    | send socket data =>
      refine h.of_same rfl ?_
      rw [resume_lookups]
      simp only [resolved, result, Lookups.finish]
      exact lastBind_answer_send ..

theorem tunnelStep_bindsFamily {e : TunnelEvent} (h : BindsFamily t)
    (step : tunnelStep parseIp t e = some u) : BindsFamily u := by
  cases e with
  | datagram packet =>
    simp only [tunnelStep] at step
    split at step
    · obtain rfl := Option.some.inj step
      exact bindsFamily_handleUpstreamPacket h packet
    · cases step
  | bindSocket bound =>
    simp only [tunnelStep] at step
    split at step
    · rename_i here
      obtain rfl := Option.some.inj step
      exact bindsFamily_bindSocket h here bound
    · cases step
  | acquire =>
    simp only [tunnelStep] at step
    split at step
    · split_ifs at step
      obtain rfl := Option.some.inj step
      intro _ _ _ _ _ binding
      cases binding
    · cases step
  | start i =>
    obtain ⟨handler, _, rfl⟩ := Option.map_eq_some_iff.1 step
    exact bindsFamily_startHandler h i handler
  | resolve i reply =>
    simp only [tunnelStep] at step
    split at step
    · cases step
    · obtain rfl := Option.some.inj step
      exact bindsFamily_resume h i reply _ _ _
  | evictDomain domain =>
    obtain rfl := Option.some.inj step
    exact h.of_same rfl rfl
  | evictSession sessionId =>
    obtain rfl := Option.some.inj step
    exact h.of_same rfl rfl

/-- A socket is added by a successful bind and by nothing else. -/
theorem tunnelStep_sockets {e : TunnelEvent} (step : tunnelStep parseIp t e = some u) :
    u.sockets = t.sockets + (binds t e).toList.length := by
  cases e with
  | datagram packet =>
    simp only [tunnelStep] at step
    split at step
    · obtain rfl := Option.some.inj step
      cases packet with
      | none => rfl
      | some packet =>
        simp only [DatagramTunnel.handleUpstreamPacket, DatagramTunnel.getOrCreateSession]
        split
        · split
          · rfl
          · split <;> rfl
        · rfl
    · cases step
  | bindSocket bound =>
    simp only [tunnelStep] at step
    split at step
    · rename_i here
      obtain rfl := Option.some.inj step
      cases bound with
      | false =>
        unfold DatagramTunnel.bindSocket
        rw [if_neg Bool.false_ne_true]
        split_ifs <;> rfl
      | true => simp [DatagramTunnel.bindSocket, binds, here]
    · cases step
  | acquire =>
    simp only [tunnelStep] at step
    split at step
    · split_ifs at step
      obtain rfl := Option.some.inj step
      rfl
    · cases step
  | start i =>
    obtain ⟨handler, _, rfl⟩ := Option.map_eq_some_iff.1 step
    unfold DatagramTunnel.startHandler
    dsimp only
    split <;> rfl
  | resolve i reply =>
    simp only [tunnelStep] at step
    split at step
    · cases step
    · rename_i caller domain port _
      obtain rfl := Option.some.inj step
      cases caller <;> cases resolveDomain parseIp reply domain port <;> rfl
  | evictDomain domain =>
    obtain rfl := Option.some.inj step
    rfl
  | evictSession sessionId =>
    obtain rfl := Option.some.inj step
    rfl

theorem bound_sent {e : TunnelEvent} {family : Family} (binding : binds t e = some family)
    (step : tunnelStep parseIp t e = some u) : u.sent = t.sent := by
  cases e with
  | bindSocket bound =>
    rcases tunnelStep_cases step with ⟨_, _, other, _⟩ | ⟨_, _, _, _, _, other, _⟩ | ⟨_, quiet⟩
    · cases other
    · cases other
    · exact quiet.1
  | _ => cases binding

end Binding

/-! ## One packet at a time -/

section Families
variable {parseIp : String → Option IpAddr} {s v : Tracked}

theorem trackedStep_cases {e : TunnelEvent} (h : trackedStep parseIp s e = some v) :
    tunnelStep parseIp s.tunnel e = some v.tunnel ∧
    ((binds s.tunnel e = none ∧ v.bound = s.bound ∧ v.first = s.first) ∨
      ∃ family, binds s.tunnel e = some family ∧
        v.bound = Function.update s.bound s.tunnel.sockets (some family) ∧
        v.first = Function.update s.first s.tunnel.sockets (lastBind s.tunnel.lookups)) := by
  obtain ⟨tunnel, step, rfl⟩ := Option.map_eq_some_iff.1 h
  cases binding : binds s.tunnel e with
  | none => exact ⟨step, .inl ⟨rfl, rfl, rfl⟩⟩
  | some family => exact ⟨step, .inr ⟨family, rfl, rfl, rfl⟩⟩

theorem binds_binding {t : DatagramTunnel} {e : TunnelEvent} {family : Family}
    (h : binds t e = some family) :
    ∃ sessionId address data attempt,
      t.upstream = .binding sessionId address data family attempt := by
  unfold binds at h
  split at h
  · split at h
    · rename_i here
      cases h
      exact ⟨_, _, _, _, here⟩
    · cases h
  · cases h

theorem Families.keep {e : TunnelEvent} (inv : Families s)
    (h : (trackedSystem parseIp).step s e = some v) : Families v := by
  obtain ⟨step, ⟨none', bound, first⟩ | ⟨family, binding, bound, first⟩⟩ := trackedStep_cases h
  · have sockets := tunnelStep_sockets step
    rw [none', Option.toList_none, List.length_nil, Nat.add_zero] at sockets
    refine ⟨?_, ?_, tunnelStep_bindsFamily inv.binding step⟩
    · rw [bound, first]
      exact inv.bound
    · rw [bound, sockets]
      exact inv.fresh
  · have sockets := tunnelStep_sockets step
    rw [binding, Option.toList_some, List.length_singleton] at sockets
    refine ⟨?_, ?_, tunnelStep_bindsFamily inv.binding step⟩
    · intro n
      rw [bound, first]
      by_cases new : n = s.tunnel.sockets
      · obtain ⟨_, _, _, _, here⟩ := binds_binding binding
        subst new
        rw [Function.update_self, Function.update_self]
        exact (inv.binding _ _ _ _ _ here).symm
      · rw [Function.update_of_ne new, Function.update_of_ne new]
        exact inv.bound n
    · intro n above
      rw [sockets] at above
      rw [bound, Function.update_of_ne (by omega)]
      exact inv.fresh n (by omega)

theorem sendsOwnFamily_sendTo {t : DatagramTunnel} (bound : ℕ → Option Family)
    (first : ℕ → Option SocketAddr) (good : SendsOwnFamily ⟨t, bound, first⟩) (handler : Handler)
    (dest : SocketAddr) :
    SendsOwnFamily ⟨t.sendTo handler dest, bound, first⟩ ↔
      bound handler.socket = some (.of dest) := by
  constructor
  · intro all
    exact all ⟨handler.socket, handler.data, handler.address, dest⟩
      (by simp [DatagramTunnel.sendTo])
  · intro last x member
    simp only [DatagramTunnel.sendTo, List.mem_append, List.mem_singleton] at member
    rcases member with old | rfl
    · exact good x old
    · exact last

theorem sendsOwnFamily_startHandler (inv : Families s) (good : SendsOwnFamily s) (i : ℕ)
    (handler : Handler) :
    SendsOwnFamily ⟨s.tunnel.startHandler i handler, s.bound, s.first⟩ ↔ ∀ dest,
      (s.tunnel.lookups.call (.send handler.socket handler.data) handler.address).2 = some dest →
      SameFamily s handler.socket dest := by
  unfold DatagramTunnel.startHandler SameFamily
  rw [← inv.bound]
  dsimp only
  split
  · rename_i dest found
    refine (sendsOwnFamily_sendTo s.bound s.first good handler dest).trans ?_
    simp [found]
  · rename_i missed
    exact iff_of_true good fun dest found => by cases missed.symm.trans found

theorem sendsOwnFamily_resume (inv : Families s) (good : SendsOwnFamily s) (i : ℕ)
    (reply : DnsReply) (caller : Caller) (domain : Bytes) (port : UInt16) :
    SendsOwnFamily ⟨(resolved parseIp s.tunnel i reply caller domain port).resume caller domain
        port (resolveDomain parseIp reply domain port), s.bound, s.first⟩ ↔
      ∀ socket data, caller = .send socket data → ∀ dest,
        resolveDomain parseIp reply domain port = .ok dest → SameFamily s socket dest := by
  cases caller with
  | bind sessionId address data =>
    refine iff_of_true ?_ (fun _ _ other => by cases other)
    cases resolveDomain parseIp reply domain port <;> exact good
  | send socket data =>
    cases result : resolveDomain parseIp reply domain port with
    | error e =>
      refine iff_of_true ?_ (fun _ _ _ _ other => by cases other)
      exact good
    | ok dest =>
      refine (sendsOwnFamily_sendTo s.bound s.first good _ dest).trans ?_
      rw [inv.bound]
      constructor
      · intro same socket' data' own dest' answered
        cases own
        cases answered
        exact same
      · exact fun all => all socket data rfl dest rfl

theorem sendsOwnFamily_iff {e : TunnelEvent} (inv : Families s) (good : SendsOwnFamily s)
    (h : (trackedSystem parseIp).step s e = some v) :
    SendsOwnFamily v ↔ StaysInFamily parseIp s e := by
  obtain ⟨tunnel, bound, first⟩ := v
  obtain ⟨step, ⟨_, rfl, rfl⟩ | ⟨family, binding, rfl, rfl⟩⟩ := trackedStep_cases h
  · cases e with
    | start i =>
      obtain ⟨handler, found, rfl⟩ := Option.map_eq_some_iff.1 step
      refine (sendsOwnFamily_startHandler inv good i handler).trans ?_
      simp [StaysInFamily, found]
    | resolve i reply =>
      simp only [tunnelStep] at step
      split at step
      · cases step
      · rename_i caller domain port found
        obtain rfl := Option.some.inj step
        refine (sendsOwnFamily_resume inv good i reply caller domain port).trans ?_
        simp only [StaysInFamily, found, Option.some.injEq, Prod.mk.injEq]
        constructor
        · rintro all socket data _ _ ⟨own, rfl, rfl⟩
          exact all socket data own
        · exact fun all socket data own => all socket data domain port ⟨own, rfl, rfl⟩
    | _ =>
      refine iff_of_true ?_ trivial
      rcases tunnelStep_cases step with ⟨_, _, other, _⟩ | ⟨_, _, _, _, _, other, _⟩ | ⟨_, quiet⟩
      · cases other
      · cases other
      · intro x member
        exact good x (quiet.1 ▸ member)
  · have unchanged := bound_sent binding step
    have kept : SendsOwnFamily ⟨tunnel, Function.update s.bound s.tunnel.sockets (some family),
        Function.update s.first s.tunnel.sockets (lastBind s.tunnel.lookups)⟩ := by
      intro x member
      rw [show (Tracked.mk tunnel _ _).tunnel.sent = s.tunnel.sent from unchanged] at member
      have own := good x member
      have known : x.socket ≠ s.tunnel.sockets := by
        intro new
        rw [inv.fresh x.socket new.ge] at own
        cases own
      exact (Function.update_of_ne known ..).trans own
    refine iff_of_true kept ?_
    cases e with
    | bindSocket bound => trivial
    | _ => cases binding

/-- Every packet goes out on a socket of its destination's family exactly when every handler's
lookup stays in the family of the lookup that its session was created with. -/
theorem packets_own_family_iff (parseIp : String → Option IpAddr) (es : List TunnelEvent) :
    (∀ s, Visits (trackedSystem parseIp) es s → SendsOwnFamily s) ↔
    ∀ s e v, Takes (trackedSystem parseIp) es s e v → StaysInFamily parseIp s e := by
  apply safe_iff_guarded (I := Families)
  · exact ⟨fun _ => rfl, fun _ _ => rfl, fun _ _ _ _ _ binding => by cases binding⟩
  · intro x member
    cases member
  · exact fun _ _ _ inv _ h => inv.keep h
  · exact fun _ _ _ inv good h => sendsOwnFamily_iff inv good h

def twoFamilies : List TunnelEvent :=
  [.datagram (some (.unfragmented 1 (.socketV4 ⟨⟨0x01020304⟩, 53⟩) [7])), .bindSocket true, .acquire,
    .start 0, .datagram (some (.unfragmented 1 (.socketV6 ⟨⟨1⟩, 53, 0, 0⟩) [8])), .acquire, .start 0]

theorem not_packets_own_family : ¬∀ es s, Runs (trackedSystem fun _ => none) es s →
    SendsOwnFamily s := by
  intro own
  have bad : ∃ s, exec (trackedSystem fun _ => none) twoFamilies = some s ∧
      s.bound 0 = some .v4 ∧
      (⟨0, [8], .socketV6 ⟨⟨1⟩, 53, 0, 0⟩, .v6 ⟨⟨1⟩, 53, 0, 0⟩⟩ : Sent) ∈ s.tunnel.sent :=
    ⟨_, rfl, rfl, by decide⟩
  obtain ⟨s, ran, bound, here⟩ := bad
  cases bound.symm.trans (own _ s (runs_of_exec ran) _ here)

end Families
end Ombrac.ServerFamilies
