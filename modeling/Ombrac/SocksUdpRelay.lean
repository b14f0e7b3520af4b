import Ombrac.LabelledSystem
import Ombrac.SocksProtocol

set_option autoImplicit false

/-!
# The relay loop of a SOCKS5 UDP association

One round of the loop takes what one of its three sources has ready. What a send comes to is an
input; `received`, `forwarded` and `recorded` are histories that the loop does not read.
-/
namespace Ombrac.SocksUdpRelay
open LabelledSystem ProtocolPacket SocksProtocol

structure Forwarded where
  src : SocketAddr
  data : Bytes
  address : Address
  deriving DecidableEq

/-- A datagram of the relay socket, and what the tunnel session makes of its payload. -/
structure Datagram where
  bytes : Bytes
  src : SocketAddr
  accepted : Except IoError Unit

/-- A failure of the relay socket: of the one operation, as with a datagram that is too long for
UDP or a destination port 0, or of the socket itself. -/
inductive Failure where
  | operation (error : IoError)
  | socket (error : IoError)
  deriving DecidableEq

/-- Why the loop has returned: `Ok` for the first, and the error for all others. -/
inductive End where
  | controlClosed
  | relaySocket (failure : Failure)
  | header (error : IoError)
  | refused (error : IoError)
  | address (error : IoError)
  deriving DecidableEq

structure Relay where
  clientAddr : Option SocketAddr
  ended : Option End
  received : List Datagram
  forwarded : List Forwarded
  replies : List (Bytes × SocketAddr)
  recorded : Option Bytes

def Relay.new : Relay := ⟨none, none, [], [], [], none⟩

inductive Event where
  | control (result : Except IoError UInt8)
  | tunnel (data : Bytes) (source : Address) (sent : Except Failure Unit)
  | datagram (d : Datagram)
  | receiveFailed (failure : Failure)

namespace Relay
variable (s : Relay)

def stop (why : End) : Relay := { s with ended := some why }

/-- Unexpected data on the control channel is ignored. -/
def onControl : Except IoError UInt8 → Relay
  | .ok _ => s
  | .error _ => s.stop .controlClosed

def onTunnel (data : Bytes) (source : Address) (sent : Except Failure Unit) : Relay :=
  match s.clientAddr with
  | none => s
  | some dest =>
    match SocksAddress.ofAddress source with
    | .error e => s.stop (.address e)
    | .ok addr =>
      match sent with
      | .error failure => s.stop (.relaySocket failure)
      | .ok _ =>
        { s with replies := s.replies ++ [(SocksUdpPacket.encodeUnfragmented addr data, dest)] }

/-- The first datagram's source becomes the client's address, before the header is read. -/
def record (d : Datagram) : Relay :=
  let s := { s with received := s.received ++ [d] }
  match s.clientAddr with
  | none => { s with clientAddr := some d.src, recorded := some d.bytes }
  | some _ => s

def forward (d : Datagram) : Relay :=
  match SocksUdpPacket.fromBuf d.bytes with
  | .error e => s.stop (.header e)
  | .ok packet =>
    if packet.frag ≠ 0 then s
    else
      match d.accepted with
      | .error e => s.stop (.refused e)
      | .ok _ =>
        let sent : Forwarded := ⟨d.src, packet.data, packet.address.toAddress⟩
        { s with forwarded := s.forwarded ++ [sent] }

def onDatagram (d : Datagram) : Relay := (s.record d).forward d

def round : Event → Relay
  | .control result => s.onControl result
  | .tunnel data source sent => s.onTunnel data source sent
  | .datagram d => s.onDatagram d
  | .receiveFailed failure => s.stop (.relaySocket failure)

end Relay

def relayStep (s : Relay) (e : Event) : Option Relay :=
  if s.ended = none then some (s.round e) else none

def relay : System Relay Event := ⟨.new, relayStep⟩

/-! ## What becomes of a datagram -/

/-- What a datagram puts into the tunnel: a parsed payload that is no fragment and is accepted. -/
def payload (d : Datagram) : Option Forwarded :=
  match SocksUdpPacket.fromBuf d.bytes, d.accepted with
  | .ok packet, .ok _ =>
    if packet.frag = 0 then some ⟨d.src, packet.data, packet.address.toAddress⟩ else none
  | _, _ => none

/-- The header is parsed and the packet, if it is no fragment, is accepted. -/
def Harmless (d : Datagram) : Prop :=
  ∃ packet, SocksUdpPacket.fromBuf d.bytes = .ok packet ∧ (packet.frag ≠ 0 ∨ d.accepted = .ok ())

theorem relayStep_some {s v : Relay} {e : Event} (h : relay.step s e = some v) :
    s.ended = none ∧ v = s.round e := by
  change relayStep s e = some v at h
  unfold relayStep at h
  split_ifs at h with running
  exact ⟨running, (Option.some.inj h).symm⟩

section Datagrams
variable (s : Relay) (d : Datagram)

theorem forward_clientAddr : (s.forward d).clientAddr = s.clientAddr := by
  unfold Relay.forward
  split
  · rfl
  · split_ifs
    · rfl
    · split <;> rfl

theorem forward_recorded : (s.forward d).recorded = s.recorded := by
  unfold Relay.forward
  split
  · rfl
  · split_ifs
    · rfl
    · split <;> rfl

theorem forward_received : (s.forward d).received = s.received := by
  unfold Relay.forward
  split
  · rfl
  · split_ifs
    · rfl
    · split <;> rfl

theorem forward_forwarded : (s.forward d).forwarded = s.forwarded ++ (payload d).toList := by
  unfold Relay.forward payload
  cases SocksUdpPacket.fromBuf d.bytes with
  | error e => simp [Relay.stop]
  | ok packet => cases d.accepted <;> by_cases frag : packet.frag = 0 <;> simp [frag, Relay.stop]

theorem forward_ended_of_harmless (harmless : Harmless d) : (s.forward d).ended = s.ended := by
  obtain ⟨packet, parsed, fine⟩ := harmless
  unfold Relay.forward
  rw [parsed]
  dsimp only
  split_ifs with frag
  · rfl
  · rw [fine.resolve_left frag]

theorem forward_ended_of_not_harmless (harmful : ¬Harmless d) :
    ∃ e, (s.forward d).ended = some (.header e) ∨ (s.forward d).ended = some (.refused e) := by
  unfold Harmless at harmful
  unfold Relay.forward
  cases parsed : SocksUdpPacket.fromBuf d.bytes with
  | error e => exact ⟨e, .inl rfl⟩
  | ok packet =>
    have whole : packet.frag = 0 := by
      by_contra frag
      exact harmful ⟨packet, parsed, .inl frag⟩
    cases answer : d.accepted with
    | ok value => exact absurd ⟨packet, parsed, .inr answer⟩ harmful
    | error e => exact ⟨e, .inr (by simp [whole, Relay.stop])⟩

theorem record_ended : (s.record d).ended = s.ended := by
  cases h : s.clientAddr <;> simp [Relay.record, h]

theorem record_received : (s.record d).received = s.received ++ [d] := by
  cases h : s.clientAddr <;> simp [Relay.record, h]

theorem record_forwarded : (s.record d).forwarded = s.forwarded := by
  cases h : s.clientAddr <;> simp [Relay.record, h]

end Datagrams

/-- Apart from a datagram, a round changes neither the histories nor the recorded client. -/
theorem round_frame (s : Relay) (e : Event) (other : ∀ d, e ≠ .datagram d) :
    (s.round e).received = s.received ∧ (s.round e).forwarded = s.forwarded ∧
    (s.round e).clientAddr = s.clientAddr ∧ (s.round e).recorded = s.recorded := by
  cases e with
  | datagram d => exact absurd rfl (other d)
  | receiveFailed failure => exact ⟨rfl, rfl, rfl, rfl⟩
  | control result => cases result <;> exact ⟨rfl, rfl, rfl, rfl⟩
  | tunnel data source sent =>
    cases h : s.clientAddr with
    | none => simp [Relay.round, Relay.onTunnel, h]
    | some dest =>
      cases named : SocksAddress.ofAddress source with
      | error e => simp [Relay.round, Relay.onTunnel, Relay.stop, h, named]
      | ok addr => cases sent <;> simp [Relay.round, Relay.onTunnel, Relay.stop, h, named]

/-! ## How long the association lives -/

/-- The loop has not returned, or for one of the two reasons it may: the control connection is
closed, or the relay socket itself has failed. -/
def EndsProperly (s : Relay) : Prop :=
  ∀ why, s.ended = some why → why = .controlClosed ∨ ∃ e, why = .relaySocket (.socket e)

/-- All that could be relayed has been, in order, and nothing else. -/
def AllRelayed (s : Relay) : Prop := s.forwarded = s.received.filterMap payload

/-- A datagram parses, and is a fragment or accepted; a response can be named to the client, and
the socket, unless it fails itself, takes it; and a receive fails with the socket only. -/
def Usable (s : Relay) : Event → Prop
  | .datagram d => Harmless d
  | .tunnel _ source sent =>
    s.clientAddr ≠ none → Nameable source ∧ ∀ e, sent ≠ .error (.operation e)
  | .receiveFailed failure => ∀ e, failure ≠ .operation e
  | .control _ => True

theorem AllRelayed.keep {s v : Relay} {e : Event} (inv : AllRelayed s)
    (h : relay.step s e = some v) : AllRelayed v := by
  obtain ⟨_, rfl⟩ := relayStep_some h
  unfold AllRelayed at inv ⊢
  by_cases own : ∃ d, e = .datagram d
  · obtain ⟨d, rfl⟩ := own
    change ((s.record d).forward d).forwarded = ((s.record d).forward d).received.filterMap payload
    rw [forward_forwarded, forward_received, record_forwarded, record_received, inv,
      List.filterMap_append]
    cases made : payload d <;> simp [made]
  · obtain ⟨received, forwarded, _⟩ := round_frame s e fun d same => own ⟨d, same⟩
    rw [received, forwarded, inv]

theorem endsProperly_failed {s : Relay} {failure : Failure}
    (ended : s.ended = some (.relaySocket failure)) :
    EndsProperly s ↔ ∀ e, failure ≠ .operation e := by
  unfold EndsProperly
  rw [ended]
  cases failure with
  | operation e => simp
  | socket e => simp

/-- A response ends the loop properly unless it cannot be named or the socket refuses it alone. -/
theorem endsProperly_tunnel {s : Relay} (running : s.ended = none) (data : Bytes)
    (source : Address) (sent : Except Failure Unit) :
    EndsProperly (s.onTunnel data source sent) ↔
      (s.clientAddr ≠ none → Nameable source ∧ ∀ e, sent ≠ .error (.operation e)) := by
  rw [← ofAddress_ok_iff]
  unfold Relay.onTunnel
  cases known : s.clientAddr with
  | none =>
    refine iff_of_true (fun why ended => ?_) (absurd rfl)
    cases running.symm.trans ended
  | some dest =>
    cases named : SocksAddress.ofAddress source with
    | error e => simp [EndsProperly, Relay.stop]
    | ok addr =>
      cases sent with
      | ok value => simp [EndsProperly, running]
      | error failure =>
        refine (endsProperly_failed (s := s.stop (.relaySocket failure)) rfl).trans ?_
        simp

theorem endsProperly_iff {s v : Relay} {e : Event} (h : relay.step s e = some v) :
    EndsProperly v ↔ Usable s e := by
  obtain ⟨running, rfl⟩ := relayStep_some h
  cases e with
  | control result =>
    refine ⟨fun _ => trivial, fun _ why ended => ?_⟩
    cases result with
    | ok byte => cases running.symm.trans ended
    | error e => exact .inl (Option.some.inj ended).symm
  | receiveFailed failure => exact endsProperly_failed rfl
  | datagram d =>
    change EndsProperly ((s.record d).forward d) ↔ Harmless d
    constructor
    · intro proper
      by_contra harmful
      obtain ⟨e, ended | ended⟩ := forward_ended_of_not_harmless (s.record d) d harmful
      · obtain wrong | ⟨_, wrong⟩ := proper _ ended <;> cases wrong
      · obtain wrong | ⟨_, wrong⟩ := proper _ ended <;> cases wrong
    · intro harmless why ended
      rw [forward_ended_of_harmless _ d harmless, record_ended, running] at ended
      cases ended
  | tunnel data source sent => exact endsProperly_tunnel running data source sent

/-- The loop returns for nothing but a closed control connection or a failed socket, having
relayed whatever could be, as long as what arrives is usable; and no longer. -/
theorem relay_lives_iff (es : List Event) :
    (∀ s, Visits relay es s → EndsProperly s ∧ AllRelayed s) ↔
    ∀ s e v, Takes relay es s e v → Usable s e :=
  safe_iff_guarded (I := AllRelayed) rfl ⟨fun _ => nofun, rfl⟩
    (fun _ _ _ inv _ h => inv.keep h)
    (fun _ _ _ inv _ h => by
      rw [← endsProperly_iff h]
      exact and_iff_left (inv.keep h))

/-- A byte from anybody. -/
theorem not_relay_lives : ¬∀ es s, Runs relay es s → EndsProperly s := by
  intro lives
  let stray : Datagram := ⟨[0], .v4 ⟨⟨0x0a000001⟩, 4000⟩, .ok ()⟩
  have bad : ∃ s, exec relay [.datagram stray] = some s ∧
      s.ended = some (.header (invalidData "insufficient data for UDP header")) := ⟨_, rfl, rfl⟩
  obtain ⟨s, ran, ended⟩ := bad
  obtain wrong | ⟨_, wrong⟩ := lives _ s (runs_of_exec ran) _ ended <;> cases wrong

/-! ## Whose datagrams are forwarded -/

/-- The SOCKS client is the peer of the control connection; it sends its datagrams from `addr`, a
port of the same host. -/
structure SocksClient where
  peer : SocketAddr
  addr : SocketAddr
  sameHost : addr.ip = peer.ip

/-- Only datagrams of the recorded address have been forwarded, and the one that recorded it has a
header that parses; and it is the SOCKS client's, so that nobody else has injected a datagram or
got a reply. -/
structure Isolated (client : SocksClient) (s : Relay) : Prop where
  own : ∀ x ∈ s.forwarded, s.clientAddr = some x.src
  parsed : ∀ bytes, s.recorded = some bytes → ∃ packet, SocksUdpPacket.fromBuf bytes = .ok packet
  recorded : ∀ addr, s.clientAddr = some addr → addr = client.addr
  uninjected : ∀ x ∈ s.forwarded, x.src = client.addr
  uncaptured : ∀ reply ∈ s.replies, reply.2 = client.addr

/-- The first datagram is the SOCKS client's and parses, and what later ones put into the tunnel
comes from its source. -/
def FromClient (client : SocksClient) (s : Relay) : Event → Prop
  | .datagram d =>
    match s.clientAddr with
    | none => d.src = client.addr ∧ ∃ packet, SocksUdpPacket.fromBuf d.bytes = .ok packet
    | some recorded => (payload d).isSome → d.src = recorded
  | _ => True

/-- Before a client is recorded nothing has been forwarded, and all replies go to the recorded
address. -/
structure Recording (s : Relay) : Prop where
  nothing : s.clientAddr = none → s.forwarded = [] ∧ s.recorded = none
  answered : ∀ reply ∈ s.replies, s.clientAddr = some reply.2

theorem payload_src {d : Datagram} {x : Forwarded} (h : payload d = some x) : x.src = d.src := by
  unfold payload at h
  split at h
  · split_ifs at h
    obtain rfl := Option.some.inj h
    rfl
  · cases h

theorem record_of_none {s : Relay} (unknown : s.clientAddr = none) (d : Datagram) :
    (s.record d).clientAddr = some d.src ∧ (s.record d).recorded = some d.bytes := by
  simp [Relay.record, unknown]

theorem record_of_some {s : Relay} {recorded : SocketAddr} (known : s.clientAddr = some recorded)
    (d : Datagram) :
    (s.record d).clientAddr = some recorded ∧ (s.record d).recorded = s.recorded := by
  simp [Relay.record, known]

theorem onDatagram_replies (s : Relay) (d : Datagram) : (s.onDatagram d).replies = s.replies := by
  have recorded : (s.record d).replies = s.replies := by
    cases h : s.clientAddr <;> simp [Relay.record, h]
  rw [← recorded]
  unfold Relay.onDatagram Relay.forward
  split
  · rfl
  · split_ifs
    · rfl
    · split <;> rfl

/-- A reply goes to the recorded address. -/
theorem onTunnel_replies {s : Relay} {data : Bytes} {source : Address}
    {sent : Except Failure Unit} {reply : Bytes × SocketAddr}
    (there : reply ∈ (s.onTunnel data source sent).replies) :
    reply ∈ s.replies ∨ s.clientAddr = some reply.2 := by
  unfold Relay.onTunnel at there
  split at there
  · exact .inl there
  · rename_i dest known
    split at there
    · exact .inl there
    · split at there
      · exact .inl there
      · rcases List.mem_append.1 there with old | new
        · exact .inl old
        · rw [List.mem_singleton.1 new]
          exact .inr known

theorem Recording.keep {s v : Relay} {e : Event} (inv : Recording s)
    (h : relay.step s e = some v) : Recording v := by
  obtain ⟨_, rfl⟩ := relayStep_some h
  by_cases own : ∃ d, e = .datagram d
  · obtain ⟨d, rfl⟩ := own
    change Recording (s.onDatagram d)
    constructor
    · intro unknown
      rw [Relay.onDatagram, forward_clientAddr] at unknown
      cases known : s.clientAddr with
      | none => cases (record_of_none known d).1.symm.trans unknown
      | some recorded => cases (record_of_some known d).1.symm.trans unknown
    · intro reply there
      rw [onDatagram_replies] at there
      have known := inv.answered reply there
      rw [Relay.onDatagram, forward_clientAddr]
      exact (record_of_some known d).1
  · obtain ⟨_, forwarded, clientAddr, recorded⟩ := round_frame s e fun d same => own ⟨d, same⟩
    constructor
    · intro unknown
      rw [clientAddr] at unknown
      rw [forwarded, recorded]
      exact inv.nothing unknown
    · intro reply there
      rw [clientAddr]
      cases e with
      | datagram d => exact absurd ⟨d, rfl⟩ own
      | receiveFailed failure => exact inv.answered reply there
      | control result => cases result <;> exact inv.answered reply there
      | tunnel data source sent => exact (onTunnel_replies there).elim (inv.answered reply) id

section Isolation
variable {client : SocksClient} {s : Relay}

/-- Whose datagrams and replies these are follows from whose address is recorded. -/
theorem Recording.isolated (inv : Recording s)
    (own : ∀ x ∈ s.forwarded, s.clientAddr = some x.src)
    (parsed : ∀ bytes, s.recorded = some bytes → ∃ packet, SocksUdpPacket.fromBuf bytes = .ok packet)
    (recorded : ∀ addr, s.clientAddr = some addr → addr = client.addr) : Isolated client s where
  own := own
  parsed := parsed
  recorded := recorded
  uninjected x sent := recorded x.src (own x sent)
  uncaptured reply sent := recorded reply.2 (inv.answered reply sent)

theorem isolated_datagram_of_none (inv : Recording s) (unknown : s.clientAddr = none)
    (d : Datagram) (next : Recording (s.onDatagram d)) : Isolated client (s.onDatagram d) ↔
      d.src = client.addr ∧ ∃ packet, SocksUdpPacket.fromBuf d.bytes = .ok packet := by
  obtain ⟨clientAddr, recorded⟩ := record_of_none unknown d
  have source : (s.onDatagram d).clientAddr = some d.src := by
    rw [Relay.onDatagram, forward_clientAddr, clientAddr]
  have first : (s.onDatagram d).recorded = some d.bytes := by
    rw [Relay.onDatagram, forward_recorded, recorded]
  constructor
  · intro isolated
    exact ⟨isolated.recorded d.src source, isolated.parsed d.bytes first⟩
  · rintro ⟨theirs, parsed⟩
    refine next.isolated (fun x sent => ?_) (fun bytes same => ?_) (fun addr same => ?_)
    · rw [Relay.onDatagram, forward_forwarded, record_forwarded, (inv.nothing unknown).1,
        List.nil_append, Option.mem_toList] at sent
      rw [source, payload_src sent]
    · obtain rfl := Option.some.inj (first.symm.trans same)
      exact parsed
    · obtain rfl := Option.some.inj (source.symm.trans same)
      exact theirs

theorem isolated_datagram_of_some (good : Isolated client s) {recorded : SocketAddr}
    (known : s.clientAddr = some recorded) (d : Datagram) (next : Recording (s.onDatagram d)) :
    Isolated client (s.onDatagram d) ↔ ((payload d).isSome → d.src = recorded) := by
  obtain ⟨clientAddr, first⟩ := record_of_some known d
  have source : (s.onDatagram d).clientAddr = some recorded := by
    rw [Relay.onDatagram, forward_clientAddr, clientAddr]
  constructor
  · intro isolated relayed
    obtain ⟨x, made⟩ := Option.isSome_iff_exists.1 relayed
    have own := isolated.own x (by
      rw [Relay.onDatagram, forward_forwarded, made]
      simp)
    rw [source, payload_src made] at own
    exact (Option.some.inj own).symm
  · intro own
    refine next.isolated (fun x sent => ?_) (fun bytes same => ?_) (fun addr same => ?_)
    · rw [Relay.onDatagram, forward_forwarded, record_forwarded, List.mem_append] at sent
      rw [source]
      obtain old | new := sent
      · exact known.symm.trans (good.own x old)
      · rw [Option.mem_toList] at new
        rw [payload_src new, own (by rw [new]; rfl)]
    · rw [Relay.onDatagram, forward_recorded, first] at same
      exact good.parsed bytes same
    · obtain rfl := Option.some.inj (source.symm.trans same)
      exact good.recorded recorded known

theorem isolated_iff {v : Relay} {e : Event} (inv : Recording s) (good : Isolated client s)
    (h : relay.step s e = some v) : Isolated client v ↔ FromClient client s e := by
  have next := inv.keep h
  obtain ⟨_, rfl⟩ := relayStep_some h
  by_cases own : ∃ d, e = .datagram d
  · obtain ⟨d, rfl⟩ := own
    change Isolated client (s.onDatagram d) ↔ _
    unfold FromClient
    cases known : s.clientAddr with
    | none => exact isolated_datagram_of_none inv known d next
    | some recorded => exact isolated_datagram_of_some good known d next
  · obtain ⟨_, forwarded, clientAddr, recorded⟩ := round_frame s e fun d same => own ⟨d, same⟩
    have free : FromClient client s e := by
      cases e with
      | datagram d => exact absurd ⟨d, rfl⟩ own
      | _ => trivial
    refine ⟨fun _ => free, fun _ => next.isolated ?_ ?_ ?_⟩
    · rw [forwarded, clientAddr]
      exact good.own
    · rw [recorded]
      exact good.parsed
    · rw [clientAddr]
      exact good.recorded

end Isolation

/-- Nobody but the SOCKS client sends into the tunnel or gets a reply, and a header that does not
parse records nobody, as long as the first datagram is the client's and parses and what arrives
later comes from its source; and no longer. -/
theorem relay_isolated_iff (client : SocksClient) (es : List Event) :
    (∀ s, Visits relay es s → Isolated client s) ↔
      ∀ s e v, Takes relay es s e v → FromClient client s e := by
  have start : Recording relay.initial := ⟨fun _ => ⟨rfl, rfl⟩, fun reply there => by cases there⟩
  apply safe_iff_guarded (I := Recording) start
  · exact start.isolated (fun x there => by cases there) (fun _ none' => by cases none')
      (fun _ none' => by cases none')
  · exact fun _ _ _ inv _ h => inv.keep h
  · exact fun _ _ _ inv good h => isolated_iff inv good h

/-- The client at 10.0.0.1 and then somebody at 10.0.0.2 send a datagram each, to port 53 of
9.9.9.9. -/
theorem not_relay_isolated : ¬∀ client es s, Runs relay es s → Isolated client s := by
  intro isolated
  let bytes : Bytes := [0, 0, 0, 1, 9, 9, 9, 9, 0, 53]
  let client : SocksClient := ⟨.v4 ⟨⟨0x0a000001⟩, 3999⟩, .v4 ⟨⟨0x0a000001⟩, 4000⟩, rfl⟩
  let stranger : SocketAddr := .v4 ⟨⟨0x0a000002⟩, 5000⟩
  let run : List Event :=
    [.datagram ⟨bytes, client.addr, .ok ()⟩, .datagram ⟨bytes, stranger, .ok ()⟩]
  let sent : Forwarded := ⟨stranger, [], .socketV4 ⟨⟨0x09090909⟩, 53⟩⟩
  have bad : ∃ s, exec relay run = some s ∧ sent ∈ s.forwarded := ⟨_, rfl, by decide⟩
  obtain ⟨s, ran, here⟩ := bad
  exact absurd ((isolated client _ s (runs_of_exec ran)).uninjected sent here) (by decide)

end Ombrac.SocksUdpRelay
