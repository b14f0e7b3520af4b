import Ombrac.ListUpdates
import Ombrac.Semaphore
import Ombrac.ServerDatagram

set_option autoImplicit false

/-!
# The limits on one connection's handlers

A configuration reaches `handle`, which hands its authentication time-out on and gives neither
tunnel its two limits: each tunnel makes its semaphore out of a constant of its own. A stream's
task queues for the permit after it was spawned, a datagram's permit is taken by the accept loop.
-/
namespace Ombrac.ServerLimits
open LabelledSystem ListUpdates ProtocolPacket ServerLookup UdpReassembly ServerDatagram

structure ConnectionConfig where
  maxConnections : Option ℕ
  authTimeoutSecs : Option ℕ
  maxConcurrentStreams : Option ℕ
  maxConcurrentDatagrams : Option ℕ

namespace ConnectionConfig

def connections (config : ConnectionConfig) : ℕ := config.maxConnections.getD 10000
def timeoutSecs (config : ConnectionConfig) : ℕ := config.authTimeoutSecs.getD 10
def concurrentStreams (config : ConnectionConfig) : ℕ := config.maxConcurrentStreams.getD 4096

def concurrentDatagrams (config : ConnectionConfig) : ℕ :=
  config.maxConcurrentDatagrams.getD 4096

end ConnectionConfig

/-- `MAX_CONCURRENT_CONNECTIONS` of the stream tunnel. -/
def maxConcurrentConnections : ℕ := 4096

structure StreamTunnel where
  semaphore : Semaphore ℕ
  accepting : Bool
  accepted : ℕ
  streamsOpened : UInt64
  streamsClosed : UInt64

namespace StreamTunnel

def new : StreamTunnel where
  semaphore := .new maxConcurrentConnections
  accepting := true
  accepted := 0
  streamsOpened := 0
  streamsClosed := 0

def handlers (t : StreamTunnel) : ℕ := t.semaphore.holding.length

end StreamTunnel

inductive StreamEvent where
  | accept
  | acquire
  | finish (stream : ℕ)
  | stop

def streamStep (t : StreamTunnel) : StreamEvent → Option StreamTunnel
  | .accept =>
    if t.accepting then some { t with
      semaphore := t.semaphore.enqueue t.accepted
      accepted := t.accepted + 1 }
    else none
  | .acquire => t.semaphore.grant.map fun granted => { t with
      semaphore := granted.2
      streamsOpened := t.streamsOpened + 1 }
  | .finish stream => (t.semaphore.release stream).map fun semaphore => { t with
      semaphore := semaphore
      streamsClosed := t.streamsClosed + 1 }
  | .stop => if t.accepting then some { t with accepting := false } else none

structure Tunnels where
  streams : StreamTunnel
  datagrams : DatagramTunnel

inductive TunnelsEvent where
  | stream (e : StreamEvent)
  | datagram (e : TunnelEvent)

/-- What `handle` makes of a configuration: the limit of its waits, and then the tunnels. -/
structure Processor where
  authTimeoutSecs : ℕ
  tunnels : Tunnels

def runTunnelLoops : Tunnels := ⟨.new, .new⟩

def handle (config : ConnectionConfig) : Processor := ⟨config.timeoutSecs, runTunnelLoops⟩

section Counts

def sends : Caller → Bool
  | .send .. => true
  | .bind .. => false

@[simp] theorem sends_send (socket : ℕ) (data : Bytes) : sends (.send socket data) = true := rfl

@[simp] theorem sends_bind (sessionId : UInt64) (address : Address) (data : Bytes) :
    sends (.bind sessionId address data) = false := rfl

def datagramHandlers (t : DatagramTunnel) : ℕ :=
  t.spawned.length + t.lookups.resolving.countP fun pending => sends pending.1

end Counts

/-! ## The permits of the two tunnels -/

theorem streamStep_total {t u : StreamTunnel} {e : StreamEvent} (h : streamStep t e = some u) :
    u.semaphore.total = t.semaphore.total := by
  cases e with
  | accept =>
    simp only [streamStep] at h
    split_ifs at h
    obtain rfl := Option.some.inj h
    rfl
  | acquire =>
    obtain ⟨⟨stream, semaphore⟩, granted, rfl⟩ := Option.map_eq_some_iff.1 h
    exact Semaphore.total_grant granted
  | finish stream =>
    obtain ⟨semaphore, released, rfl⟩ := Option.map_eq_some_iff.1 h
    exact Semaphore.total_release released
  | stop =>
    simp only [streamStep] at h
    split_ifs at h
    obtain rfl := Option.some.inj h
    rfl

def datagramTotal (t : DatagramTunnel) : ℕ := t.permits + datagramHandlers t

section Datagrams
variable {parseIp : String → Option IpAddr} {t u : DatagramTunnel}

theorem getOrCreateSession_total (t : DatagramTunnel) (sessionId : UInt64) (address : Address)
    (data : Bytes) : datagramTotal (t.getOrCreateSession sessionId address data) =
      datagramTotal t := by
  unfold DatagramTunnel.getOrCreateSession
  split
  · rfl
  · rcases t.lookups.call_cases (.bind sessionId address data) address with
      ⟨_, _, same⟩ | ⟨domain, port, _, _, more⟩
    · dsimp only
      split <;> simp only [datagramTotal, datagramHandlers, same]
    · dsimp only
      split <;> simp [datagramTotal, datagramHandlers, more]

theorem handleUpstreamPacket_total (t : DatagramTunnel) (packet : Option UdpPacket) :
    datagramTotal (t.handleUpstreamPacket packet) = datagramTotal t := by
  cases packet with
  | none => rfl
  | some packet =>
    simp only [DatagramTunnel.handleUpstreamPacket]
    split
    · exact getOrCreateSession_total _ _ _ _
    · rfl

theorem bindSocket_total (t : DatagramTunnel) (sessionId : UInt64) (address : Address)
    (data : Bytes) (family : Family) (attempt : ℕ) (bound : Bool) :
    datagramTotal (t.bindSocket sessionId address data family attempt bound) =
      datagramTotal t := by
  unfold DatagramTunnel.bindSocket
  split_ifs <;> rfl

theorem spawnHandler_total (free : 0 < t.permits) (handler : Handler) :
    datagramTotal (t.spawnHandler handler) = datagramTotal t := by
  simp only [DatagramTunnel.spawnHandler, datagramTotal, datagramHandlers, List.length_append,
    List.length_singleton]
  omega

theorem startHandler_total {i : ℕ} {handler : Handler} (found : t.spawned[i]? = some handler) :
    datagramTotal (t.startHandler i handler) = datagramTotal t := by
  have bound : i < t.spawned.length := (List.getElem?_eq_some_iff.1 found).1
  have erased := List.length_eraseIdx_of_lt bound
  rcases t.lookups.call_cases (.send handler.socket handler.data) handler.address with
    ⟨dest, answer, same⟩ | ⟨domain, port, _, missed, more⟩
  · simp only [DatagramTunnel.startHandler, answer, DatagramTunnel.sendTo, datagramTotal,
      datagramHandlers, same, erased]
    omega
  · simp only [DatagramTunnel.startHandler, missed, datagramTotal, datagramHandlers, more, erased,
      List.countP_append, List.countP_singleton, sends_send, if_true]
    omega

theorem resume_total {i : ℕ} {reply : DnsReply} {caller : Caller} {domain : Bytes}
    {port : UInt16} (found : t.lookups.resolving[i]? = some (caller, domain, port))
    (result : Except IoError SocketAddr) :
    datagramTotal ((resolved parseIp t i reply caller domain port).resume caller domain port
      result) = datagramTotal t := by
  have count := countP_eraseIdx (fun pending => sends pending.1) found
  have pending := Lookups.finish_resolving
    { t.lookups with resolving := t.lookups.resolving.eraseIdx i } caller domain port
    (resolveDomain parseIp reply domain port)
  cases caller with
  | bind sessionId address data =>
    have same : ∀ upstream, datagramTotal
        { resolved parseIp t i reply (.bind sessionId address data) domain port with
          upstream := upstream } = datagramTotal t := by
      intro upstream
      simp only [sends_bind, Bool.false_eq_true, if_false] at count
      simp only [resolved, datagramTotal, datagramHandlers, pending]
      omega
    cases result with
    | ok addr => exact same _
    | error e => exact same _
  | send socket data =>
    have back : ∀ sent, datagramTotal
        { resolved parseIp t i reply (.send socket data) domain port with
          permits := t.permits + 1, sent := sent } = datagramTotal t := by
      intro sent
      simp only [sends_send, if_true] at count
      simp only [resolved, datagramTotal, datagramHandlers, pending]
      omega
    cases result with
    | ok dest => exact back _
    | error e => exact back _

theorem tunnelStep_total {e : TunnelEvent} (h : tunnelStep parseIp t e = some u) :
    datagramTotal u = datagramTotal t := by
  cases e with
  | datagram packet =>
    simp only [tunnelStep] at h
    split at h
    · obtain rfl := Option.some.inj h
      exact handleUpstreamPacket_total t packet
    · cases h
  | bindSocket bound =>
    simp only [tunnelStep] at h
    split at h
    · obtain rfl := Option.some.inj h
      exact bindSocket_total t _ _ _ _ _ _
    · cases h
  | acquire =>
    simp only [tunnelStep] at h
    split at h
    · split_ifs at h with free
      obtain rfl := Option.some.inj h
      exact spawnHandler_total free _
    · cases h
  | start i =>
    obtain ⟨handler, found, rfl⟩ := Option.map_eq_some_iff.1 h
    exact startHandler_total found
  | resolve i reply =>
    simp only [tunnelStep] at h
    split at h
    · cases h
    · rename_i caller domain port found
      obtain rfl := Option.some.inj h
      exact resume_total found _
  | evictDomain domain =>
    obtain rfl := Option.some.inj h
    rfl
  | evictSession sessionId =>
    obtain rfl := Option.some.inj h
    rfl

end Datagrams

section Loops
variable (parseIp : String → Option IpAddr)

def tunnelsStep (s : Tunnels) : TunnelsEvent → Option Tunnels
  | .stream e => (streamStep s.streams e).map fun streams => { s with streams := streams }
  | .datagram e =>
    (tunnelStep parseIp s.datagrams e).map fun datagrams => { s with datagrams := datagrams }

def tunnelLoops (config : ConnectionConfig) : System Tunnels TunnelsEvent :=
  ⟨(handle config).tunnels, tunnelsStep parseIp⟩

variable {parseIp} {config : ConnectionConfig} {s : Tunnels}

/-- However streams and datagrams arrive and end, each tunnel keeps the permits that it was
created with. -/
theorem tunnels_total {es : List TunnelsEvent} (run : Runs (tunnelLoops parseIp config) es s) :
    s.streams.semaphore.total = maxConcurrentConnections ∧
      datagramTotal s.datagrams = maxConcurrentHandlers := by
  refine run.invariant (I := fun s => s.streams.semaphore.total = maxConcurrentConnections ∧
    datagramTotal s.datagrams = maxConcurrentHandlers) ⟨rfl, rfl⟩ ?_
  rintro u e v ⟨streams, datagrams⟩ h
  cases e with
  | stream e =>
    obtain ⟨next, step, rfl⟩ := Option.map_eq_some_iff.1 h
    exact ⟨(streamStep_total step).trans streams, datagrams⟩
  | datagram e =>
    obtain ⟨next, step, rfl⟩ := Option.map_eq_some_iff.1 h
    exact ⟨streams, (tunnelStep_total step).trans datagrams⟩

theorem handlers_le {es : List TunnelsEvent} (run : Runs (tunnelLoops parseIp config) es s) :
    s.streams.handlers ≤ maxConcurrentConnections ∧
      datagramHandlers s.datagrams ≤ maxConcurrentHandlers := by
  obtain ⟨streams, datagrams⟩ := tunnels_total run
  have within := s.streams.semaphore.holding_le_total
  unfold datagramTotal at datagrams
  refine ⟨?_, ?_⟩
  · unfold StreamTunnel.handlers
    omega
  · omega

/-! ## As many handlers as there are permits -/

theorem step_stream {e : StreamEvent} {t : StreamTunnel} (h : streamStep s.streams e = some t) :
    (tunnelLoops parseIp config).step s (.stream e) = some { s with streams := t } := by
  simp only [tunnelLoops, tunnelsStep, h, Option.map_some]

theorem step_datagram {e : TunnelEvent} {t : DatagramTunnel}
    (h : tunnelStep parseIp s.datagrams e = some t) :
    (tunnelLoops parseIp config).step s (.datagram e) = some { s with datagrams := t } := by
  simp only [tunnelLoops, tunnelsStep, h, Option.map_some]

def StreamsReady (s : Tunnels) : Prop :=
  s.streams.accepting = true ∧ s.streams.semaphore.waiting = []

theorem one_more_stream {es : List TunnelsEvent} (run : Runs (tunnelLoops parseIp config) es s)
    (ready : StreamsReady s) (free : s.streams.handlers < maxConcurrentConnections) :
    ∃ fs u, Runs (tunnelLoops parseIp config) fs u ∧ StreamsReady u ∧
      u.streams.handlers = s.streams.handlers + 1 := by
  have total := (tunnels_total run).1
  have permit : 0 < s.streams.semaphore.permits := by
    unfold Semaphore.total at total
    unfold StreamTunnel.handlers at free
    omega
  have queued : streamStep s.streams .accept = some { s.streams with
      semaphore := s.streams.semaphore.enqueue s.streams.accepted
      accepted := s.streams.accepted + 1 } := if_pos ready.1
  have granted := Semaphore.grant_enqueue ready.2 permit s.streams.accepted
  have acquired := congrArg (Option.map fun granted : ℕ × Semaphore ℕ => { s.streams with
      semaphore := granted.2
      accepted := s.streams.accepted + 1
      streamsOpened := s.streams.streamsOpened + 1 }) granted
  refine ⟨_, _, (run.next (step_stream queued)).next (step_stream (e := .acquire) acquired),
    ⟨ready.1, rfl⟩, ?_⟩
  exact List.length_append

def sampleAddress : Address := .socketV4 ⟨⟨0x01020304⟩, 53⟩

def samplePacket : UdpPacket := .unfragmented 0 sampleAddress []

/-- A packet for a literal address takes the accept loop to its permit, past one bind if the
session is new. -/
theorem sample_acquiring (parseIp : String → Option IpAddr) {t : DatagramTunnel} (reading : t.upstream = .reading) :
    ∃ u, tunnelStep parseIp t (.datagram (some samplePacket)) = some u ∧ u.permits = t.permits ∧
      ((∃ socket, u.upstream = .acquiring socket sampleAddress []) ∨
        ∃ v socket, tunnelStep parseIp u (.bindSocket true) = some v ∧ v.permits = t.permits ∧
          v.upstream = .acquiring socket sampleAddress []) := by
  have handled : tunnelStep parseIp t (.datagram (some samplePacket)) =
      some (t.handleUpstreamPacket (some samplePacket)) := by
    simp only [tunnelStep, reading]
  have packet : t.handleUpstreamPacket (some samplePacket) =
      { t with reassembliesCompleted := t.reassembliesCompleted + 1 }.getOrCreateSession 0
        sampleAddress [] := rfl
  refine ⟨_, handled, ?_⟩
  rw [packet]
  unfold DatagramTunnel.getOrCreateSession
  cases known : t.sessions 0 with
  | some session =>
    simp only
    exact ⟨trivial, .inl ⟨session.socket, rfl⟩⟩
  | none =>
    simp only
    exact ⟨rfl, .inr ⟨_, t.sockets, rfl, rfl, rfl⟩⟩

theorem one_more_datagram {es : List TunnelsEvent} (run : Runs (tunnelLoops parseIp config) es s)
    (reading : s.datagrams.upstream = .reading)
    (free : datagramHandlers s.datagrams < maxConcurrentHandlers) :
    ∃ fs u, Runs (tunnelLoops parseIp config) fs u ∧ u.datagrams.upstream = .reading ∧
      datagramHandlers u.datagrams = datagramHandlers s.datagrams + 1 := by
  have total := (tunnels_total run).2
  unfold datagramTotal at total
  have permit : 0 < s.datagrams.permits := by omega
  -- a tunnel at its permit, reached with the permits as they were
  have spawn : ∀ {fs : List TunnelsEvent} {v : Tunnels} {socket : ℕ},
      Runs (tunnelLoops parseIp config) fs v → v.datagrams.permits = s.datagrams.permits →
      v.datagrams.upstream = .acquiring socket sampleAddress [] →
      ∃ fs u, Runs (tunnelLoops parseIp config) fs u ∧ u.datagrams.upstream = .reading ∧
        datagramHandlers u.datagrams = datagramHandlers s.datagrams + 1 := by
    intro fs v socket before same acquiring
    have step : tunnelStep parseIp v.datagrams .acquire =
        some (v.datagrams.spawnHandler ⟨socket, sampleAddress, []⟩) := by
      simp only [tunnelStep, acquiring]
      exact if_pos (same ▸ permit)
    have after := before.next (step_datagram step)
    refine ⟨_, _, after, rfl, ?_⟩
    have kept : (v.datagrams.permits - 1) +
        datagramHandlers (v.datagrams.spawnHandler ⟨socket, sampleAddress, []⟩) =
          maxConcurrentHandlers := (tunnels_total after).2
    change datagramHandlers (v.datagrams.spawnHandler ⟨socket, sampleAddress, []⟩) = _
    omega
  obtain ⟨t, received, same, ⟨socket, acquiring⟩ | ⟨u, socket, bound, same', acquiring⟩⟩ :=
    sample_acquiring parseIp reading
  · exact spawn (run.next (step_datagram received)) same acquiring
  · exact spawn ((run.next (step_datagram received)).next (step_datagram bound)) same' acquiring

end Loops

/-! ## The configured limits -/

def WithinLimits (config : ConnectionConfig) (s : Tunnels) : Prop :=
  s.streams.handlers ≤ config.concurrentStreams ∧
    datagramHandlers s.datagrams ≤ config.concurrentDatagrams

/-- The configured limits are kept exactly when they are no lower than the two constants. -/
theorem within_limits_iff (parseIp : String → Option IpAddr) (config : ConnectionConfig) :
    (∀ es s, Runs (tunnelLoops parseIp config) es s → WithinLimits config s) ↔
      maxConcurrentConnections ≤ config.concurrentStreams ∧
        maxConcurrentHandlers ≤ config.concurrentDatagrams := by
  constructor
  · intro kept
    constructor
    · obtain ⟨es, s, run, _, full⟩ := exists_runs_count (M := tunnelLoops parseIp config)
        StreamsReady (fun s => s.streams.handlers) ⟨rfl, rfl⟩ rfl (fun _ _ => one_more_stream)
        (le_refl maxConcurrentConnections)
      exact full ▸ (kept es s run).1
    · obtain ⟨es, s, run, _, full⟩ := exists_runs_count (M := tunnelLoops parseIp config)
        (fun s => s.datagrams.upstream = .reading) (fun s => datagramHandlers s.datagrams) rfl rfl
        (fun _ _ => one_more_datagram) (le_refl maxConcurrentHandlers)
      exact full ▸ (kept es s run).2
  · rintro ⟨streams, datagrams⟩ es s run
    obtain ⟨opened, spawned⟩ := handlers_le run
    exact ⟨opened.trans streams, spawned.trans datagrams⟩

/-- One stream at a time is configured, and two handlers run. -/
theorem within_limits_two_streams :
    ¬ ∀ (config : ConnectionConfig) (es : List TunnelsEvent) (s : Tunnels),
      Runs (tunnelLoops (fun _ => none) config) es s → WithinLimits config s := by
  intro kept
  have ran : ∃ s, exec (tunnelLoops (fun _ => none) ⟨none, none, some 1, none⟩)
      [.stream .accept, .stream .acquire, .stream .accept, .stream .acquire] = some s ∧
      s.streams.handlers = 2 := ⟨_, rfl, rfl⟩
  obtain ⟨s, run, two⟩ := ran
  have limit : s.streams.handlers ≤ 1 := (kept _ _ s (runs_of_exec run)).1
  omega

end Ombrac.ServerLimits
