import Mathlib.Data.List.Forall2
import Ombrac.ClientDispatcher
import Ombrac.UdpDownstream

set_option autoImplicit false

/-!
# UDP sessions end to end

One client with its sessions, over any number of connections, each with its own datagram tunnel at
the server; the client reads from all of them. Beside each message the client notes the datagram
that it came from.
-/
namespace Ombrac.UdpIsolation
open LabelledSystem ProtocolPacket ProtocolCodec BinaryFormat BoundedChannel UdpReassembly
  ClientDispatcher UdpDownstream ListUpdates

/-- A message that `recv_from` has returned to a session, and the datagram it came from. -/
structure Handed where
  session : ℕ
  message : Message
  received : Option Received

/-- `dispatching` is the datagram of the message in `dispatch`, and `queued` has those of the
messages in the sessions' channels. -/
structure Client where
  dispatcher : Dispatcher
  reassembler : UdpReassembler
  dispatching : Option Received
  queued : ℕ → List Received
  handed : List Handed

structure Association where
  connections : List ServerConnection
  client : Client

inductive Event where
  | connect
  | server (k : ℕ) (e : ServerEvent)
  | read (k i : ℕ)
  | client (e : ClientDispatcher.Event)

namespace Client

def new : Client := ⟨.new, .new, none, fun _ => [], []⟩

def noted (c : Client) : ClientDispatcher.Event → (ℕ → List Received) × List Handed
  | .insert n | .dropReceiver n => (Function.update c.queued n [], c.handed)
  | .recvFrom n =>
    (Function.update c.queued n (c.queued n).tail,
      c.handed ++ ((c.dispatcher.channel n).queue.head?.map fun message =>
        ⟨n, message, (c.queued n).head?⟩).toList)
  | .send =>
    match c.dispatcher.task with
    | .sending _ n _ =>
      if (c.dispatcher.channel n).closed then (c.queued, c.handed)
      else (Function.update c.queued n (c.queued n ++ c.dispatching.toList), c.handed)
    | _ => (c.queued, c.handed)
  | _ => (c.queued, c.handed)

def step (shard : UInt64 → ℕ) (c : Client) (e : ClientDispatcher.Event) : Option Client :=
  (dispatcherStep shard c.dispatcher e).map fun dispatcher =>
    { c with dispatcher := dispatcher, queued := (c.noted e).1, handed := (c.noted e).2 }

def dispatch (shard : UInt64 → ℕ) (c : Client) (received : Received) (sessionId : UInt64)
    (message : Message) : Option Client :=
  (dispatcherStep shard c.dispatcher (.get sessionId message)).map fun dispatcher =>
    { c with dispatcher := dispatcher, dispatching := some received }

/-- A turn of `read_datagram`; what does not decode or is no whole packet is passed over. -/
def readDatagram (display : Fault → String) (shard : UInt64 → ℕ) (c : Client) (x : InFlight) :
    Option Client :=
  match c.dispatcher.task with
  | .reading =>
    match decode display x.bytes with
    | .error _ => some c
    | .ok packet =>
      let (result, reassembler) := c.reassembler.process packet
      let c := { c with reassembler := reassembler }
      match result with
      | .ok (some (sessionId, address, data)) => c.dispatch shard x.received sessionId (data, address)
      | _ => some c
  | _ => none

end Client

section System
variable (display : Fault → String) (parseIp : String → Option IpAddr) (shard : UInt64 → ℕ)

/-- The dispatcher gets datagrams from the connections only. -/
def associationStep (s : Association) : Event → Option Association
  | .connect => some { s with connections := s.connections ++ [.new] }
  | .server k e =>
    match s.connections[k]? with
    | none => none
    | some c => (serverStep display parseIp k c e).map fun c =>
        { s with connections := s.connections.set k c }
  | .read k i =>
    match s.connections[k]? with
    | none => none
    | some c =>
      match c.inFlight[i]? with
      | none => none
      | some x => (s.client.readDatagram display shard x).map fun client =>
          ⟨s.connections.set k { c with inFlight := c.inFlight.eraseIdx i }, client⟩
  | .client e =>
    match e with
    | .get .. => none
    | e => (s.client.step shard e).map fun client => { s with client := client }

def associationSystem : System Association Event :=
  ⟨⟨[], .new⟩, associationStep display parseIp shard⟩

end System

def Association.createdFor (s : Association) (received : Received) : Option UInt64 :=
  (s.connections[received.connection]?).bind fun c => c.createdFor received.socket

/-! ## The client -/

/-- Messages and their datagrams belong together, and to the session of that id. -/
structure Traced (Belongs : UInt64 → Message → Received → Prop) (c : Client) : Prop where
  sending : ∀ id n message, c.dispatcher.task = .sending id n message →
    ∃ received, c.dispatching = some received ∧ Belongs id message received
  queued : ∀ n, List.Forall₂ (Belongs (sessionId n)) (c.dispatcher.channel n).queue (c.queued n)
  handed : ∀ x ∈ c.handed, x.session < c.dispatcher.opened ∧
    ∃ received, x.received = some received ∧ Belongs (sessionId x.session) x.message received

section Client
variable {display : Fault → String} {shard : UInt64 → ℕ}
  {Belongs Belongs' : UInt64 → Message → Received → Prop} {c d : Client}

theorem traced_new : Traced Belongs .new where
  sending _ _ _ h := by cases h
  queued _ := .nil
  handed _ h := by cases h

theorem Traced.mono (traced : Traced Belongs c)
    (more : ∀ id message received, Belongs id message received → Belongs' id message received) :
    Traced Belongs' c := by
  refine ⟨fun id n message task => ?_, fun n => ?_, fun x member => ?_⟩
  · obtain ⟨received, own, belongs⟩ := traced.sending id n message task
    exact ⟨received, own, more _ _ _ belongs⟩
  · exact (traced.queued n).imp fun _ _ => more _ _ _
  · obtain ⟨opened, received, own, belongs⟩ := traced.handed x member
    exact ⟨opened, received, own, more _ _ _ belongs⟩

/-- A step that hands nothing over and changes at most the channel of `n`. -/
theorem Traced.of_channel (traced : Traced Belongs c) (n : ℕ)
    (task : ∀ id m message, d.dispatcher.task = .sending id m message →
      c.dispatcher.task = .sending id m message)
    (dispatching : d.dispatching = c.dispatching)
    (own : List.Forall₂ (Belongs (sessionId n)) (d.dispatcher.channel n).queue (d.queued n))
    (channel : ∀ m, m ≠ n → d.dispatcher.channel m = c.dispatcher.channel m)
    (queued : ∀ m, m ≠ n → d.queued m = c.queued m) (handed : d.handed = c.handed)
    (opened : c.dispatcher.opened ≤ d.dispatcher.opened) : Traced Belongs d := by
  refine ⟨fun id m message sending => ?_, fun m => ?_, fun x member => ?_⟩
  · rw [dispatching]
    exact traced.sending id m message (task id m message sending)
  · by_cases same : m = n
    · subst same
      exact own
    · rw [channel m same, queued m same]
      exact traced.queued m
  · rw [handed] at member
    obtain ⟨before, rest⟩ := traced.handed x member
    exact ⟨Nat.lt_of_lt_of_le before opened, rest⟩

/-- What a step of the dispatcher leaves of the client. -/
theorem Client.step_some {e : ClientDispatcher.Event} (step : c.step shard e = some d) :
    ∃ dispatcher, dispatcherStep shard c.dispatcher e = some dispatcher ∧
      d = { c with dispatcher := dispatcher, queued := (c.noted e).1, handed := (c.noted e).2 } := by
  obtain ⟨dispatcher, taken, rfl⟩ := Option.map_eq_some_iff.1 step
  exact ⟨dispatcher, taken, rfl⟩

theorem recvFrom_traced (traced : Traced Belongs c) {n : ℕ} (opened : n < c.dispatcher.opened)
    (nonempty : (c.dispatcher.channel n).queue ≠ []) :
    Traced Belongs { c with
      dispatcher := c.dispatcher.setChannel n (c.dispatcher.channel n).pop
      queued := (c.noted (.recvFrom n)).1
      handed := (c.noted (.recvFrom n)).2 } := by
  obtain ⟨message, rest, queue⟩ := List.exists_cons_of_ne_nil nonempty
  have own := traced.queued n
  rw [queue] at own
  obtain ⟨received, others, belongs, behind, notes⟩ := List.forall₂_cons_left_iff.1 own
  refine ⟨traced.sending, fun m => ?_, fun x member => ?_⟩
  · by_cases same : m = n
    · subst same
      simp only [Dispatcher.setChannel_channel, Function.update_self, Client.noted, Channel.pop,
        queue, notes, List.tail_cons]
      exact behind
    · simp only [Dispatcher.setChannel_channel, Client.noted, Function.update_of_ne same]
      exact traced.queued m
  · simp only [Client.noted, queue, notes, List.head?_cons, Option.map_some, Option.toList_some]
      at member
    rcases List.mem_append.1 member with old | new
    · exact traced.handed x old
    · obtain rfl := List.mem_singleton.1 new
      exact ⟨opened, received, rfl, belongs⟩

theorem send_traced (inv : ClientDispatcher.Invariant shard c.dispatcher)
    (traced : Traced Belongs c) {id : UInt64} {n : ℕ} {message : Message} (shard : ℕ)
    (sending : c.dispatcher.task = .sending id n message) :
    Traced Belongs { c with
      dispatcher := { (c.dispatcher.setChannel n
        ((c.dispatcher.channel n).push message)).releaseRead shard with task := .reading }
      queued := (c.noted .send).1
      handed := (c.noted .send).2 } := by
  obtain ⟨received, own, belongs⟩ := traced.sending id n message sending
  obtain ⟨rfl, _⟩ := inv.sending id n message sending
  simp only [Client.noted, sending, if_neg (inv.sending_open sending), own, Option.toList_some]
  refine ⟨(fun _ _ _ now => by cases now), fun m => ?_, traced.handed⟩
  change List.Forall₂ _ (Function.update c.dispatcher.channel n
    ((c.dispatcher.channel n).push message) m).queue
    (Function.update c.queued n (c.queued n ++ [received]) m)
  by_cases same : m = n
  · subst same
    rw [Function.update_self, Function.update_self]
    exact List.rel_append (traced.queued m) (.cons belongs .nil)
  · rw [Function.update_of_ne same, Function.update_of_ne same]
    exact traced.queued m

/-- The dispatcher's steps but `get`, which takes a datagram from a connection. -/
theorem step_traced (inv : ClientDispatcher.Invariant shard c.dispatcher)
    (traced : Traced Belongs c) {e : ClientDispatcher.Event}
    (other : ∀ id message, e ≠ .get id message) (step : c.step shard e = some d) :
    Traced Belongs d := by
  obtain ⟨dispatcher, taken, rfl⟩ := Client.step_some step
  cases dispatcherStep_stepped taken with
  | opened =>
    refine ⟨traced.sending, traced.queued, fun x member => ?_⟩
    obtain ⟨opened, rest⟩ := traced.handed x member
    exact ⟨Nat.lt_succ_of_lt opened, rest⟩
  | @inserted n =>
    refine traced.of_channel n (fun _ _ _ => id) rfl ?_ ?_ ?_ rfl (le_refl _)
    · simp [Client.noted, Channel.new]
    · intro m different
      simp [different]
    · intro m different
      simp [Client.noted, different]
  | @received n live nonempty =>
    refine recvFrom_traced traced (Nat.not_le.1 fun early => ?_) nonempty
    cases (inv.fresh n early).symm.trans live
  | dropped | removed => exact ⟨traced.sending, traced.queued, traced.handed⟩
  | @closed n =>
    refine traced.of_channel n (fun _ _ _ => id) rfl ?_ ?_ ?_ rfl (le_refl _)
    · simp [Client.noted, Channel.close]
    · intro m different
      simp [different]
    · intro m different
      simp [Client.noted, different]
  | found | missing => exact absurd rfl (other _ _)
  | failed sending closed => exact absurd closed (inv.sending_open sending)
  | sent sending _ _ => exact send_traced inv traced _ sending
  | forgotten removing _ => exact absurd removing (inv.removing _)

/-- A datagram in flight belongs to the session whose id its packet carries. -/
theorem readDatagram_traced (inv : ClientDispatcher.Invariant shard c.dispatcher)
    (traced : Traced Belongs c) {x : InFlight} {id : UInt64} {address : Address} {data : Bytes}
    (decoded : decode display x.bytes = .ok (UdpPacket.unfragmented id address data))
    (belongs : Belongs id (data, address) x.received)
    (step : c.readDatagram display shard x = some d) :
    ClientDispatcher.Invariant shard d.dispatcher ∧ Traced Belongs d := by
  unfold Client.readDatagram at step
  split at step
  · rename_i reading
    rw [decoded] at step
    simp only [UdpReassembler.process, Client.dispatch] at step
    obtain ⟨dispatcher, taken, rfl⟩ := Option.map_eq_some_iff.1 step
    refine ⟨dispatcherStep_invariant inv taken, ?_⟩
    cases dispatcherStep_stepped taken with
    | found =>
      refine ⟨fun id' n message task => ?_, traced.queued, traced.handed⟩
      obtain ⟨rfl, rfl, rfl⟩ := ClientDispatcher.Task.sending.inj task
      exact ⟨x.received, rfl, belongs⟩
    | missing =>
      refine ⟨fun id' n message task => ?_, traced.queued, traced.handed⟩
      cases reading.symm.trans task
  · cases step

end Client

/-! ## The whole -/

def Association.Belongs (s : Association) (id : UInt64) (message : Message)
    (received : Received) : Prop :=
  s.createdFor received = some id ∧ message = (received.data, carriedFrom received.fromAddr)

structure Invariant (display : Fault → String) (shard : UInt64 → ℕ) (s : Association) :
    Prop where
  sound : ∀ (k : ℕ) (c : ServerConnection), s.connections[k]? = some c → Sound display k c
  dispatcher : ClientDispatcher.Invariant shard s.client.dispatcher
  traced : Traced s.Belongs s.client

section Whole
variable {display : Fault → String} {parseIp : String → Option IpAddr} {shard : UInt64 → ℕ}
  {s v : Association}

theorem belongs_mono
    (more : ∀ (k : ℕ) (c : ServerConnection), s.connections[k]? = some c →
      ∃ d, v.connections[k]? = some d ∧ Extends c d)
    (id : UInt64) (message : Message) (received : Received)
    (belongs : s.Belongs id message received) : v.Belongs id message received := by
  obtain ⟨c, there, created⟩ := Option.bind_eq_some_iff.1 belongs.1
  obtain ⟨d, now, extends_⟩ := more _ c there
  exact ⟨Option.bind_eq_some_iff.2 ⟨d, now, extends_ _ _ created⟩, belongs.2⟩

/-- One connection goes on. -/
theorem belongs_set {k : ℕ} {c d : ServerConnection} (there : s.connections[k]? = some c)
    (more : Extends c d) (connections : v.connections = s.connections.set k d)
    (id : UInt64) (message : Message) (received : Received)
    (belongs : s.Belongs id message received) : v.Belongs id message received := by
  refine belongs_mono (fun j e here => ?_) id message received belongs
  rw [connections]
  by_cases same : j = k
  · subst same
    obtain rfl := Option.some.inj (there.symm.trans here)
    exact ⟨d, getElem?_set_of_some there, more⟩
  · exact ⟨e, by rw [List.getElem?_set_ne (Ne.symm same)]; exact here, fun _ _ created => created⟩

theorem sound_set {k : ℕ} {d : ServerConnection} {connections : List ServerConnection}
    (sound : ∀ (j : ℕ) (c : ServerConnection), connections[j]? = some c → Sound display j c)
    (next : Sound display k d) (j : ℕ) (e : ServerConnection)
    (there : (connections.set k d)[j]? = some e) : Sound display j e := by
  obtain ⟨rfl, rfl⟩ | ⟨_, before⟩ := getElem?_set_eq_some there
  · exact next
  · exact sound j e before

/-- What is read carries the id of its socket's session. -/
theorem read_invariant (inv : Invariant display shard s) {k i : ℕ} {c : ServerConnection}
    {x : InFlight} {client : Client} (there : s.connections[k]? = some c)
    (flying : c.inFlight[i]? = some x)
    (step : s.client.readDatagram display shard x = some client) :
    Invariant display shard
      ⟨s.connections.set k { c with inFlight := c.inFlight.eraseIdx i }, client⟩ := by
  have sound := inv.sound k c there
  obtain ⟨connection, id, created, decoded⟩ := sound.inFlight x (List.mem_of_getElem? flying)
  have belongs : s.Belongs id (x.received.data, carriedFrom x.received.fromAddr) x.received := by
    refine ⟨Option.bind_eq_some_iff.2 ⟨c, ?_, created⟩, rfl⟩
    rw [connection]
    exact there
  obtain ⟨dispatcher, traced⟩ := readDatagram_traced inv.dispatcher inv.traced decoded belongs step
  obtain ⟨next, more⟩ := sound.inFlight_of (c.inFlight.eraseIdx i) fun y member =>
    sound.inFlight y (List.mem_of_mem_eraseIdx member)
  exact ⟨sound_set inv.sound next, dispatcher, traced.mono (belongs_set there more rfl)⟩

theorem associationStep_invariant (inv : Invariant display shard s) {e : Event}
    (step : associationStep display parseIp shard s e = some v) : Invariant display shard v := by
  cases e with
  | connect =>
    obtain rfl := Option.some.inj step
    refine ⟨fun k c there => ?_, inv.dispatcher, inv.traced.mono (belongs_mono ?_)⟩
    · obtain before | ⟨_, rfl⟩ := getElem?_concat_eq_some there
      · exact inv.sound k c before
      · exact sound_new
    · intro k c there
      exact ⟨c, getElem?_concat_of_some there, fun _ _ created => created⟩
  | server k e =>
    simp only [associationStep] at step
    split at step
    · cases step
    · rename_i c there
      obtain ⟨d, taken, rfl⟩ := Option.map_eq_some_iff.1 step
      obtain ⟨next, more⟩ := serverStep_sound (inv.sound k c there) taken
      exact ⟨sound_set inv.sound next, inv.dispatcher, inv.traced.mono (belongs_set there more rfl)⟩
  | read k i =>
    simp only [associationStep] at step
    split at step
    · cases step
    · rename_i c there
      split at step
      · cases step
      · rename_i x flying
        obtain ⟨client, taken, rfl⟩ := Option.map_eq_some_iff.1 step
        exact read_invariant inv there flying taken
  | client e =>
    simp only [associationStep] at step
    split at step
    · cases step
    · rename_i other
      obtain ⟨client, taken, rfl⟩ := Option.map_eq_some_iff.1 step
      have traced := step_traced inv.dispatcher inv.traced other taken
      obtain ⟨dispatcher, dispatched, rfl⟩ := Client.step_some taken
      exact ⟨inv.sound, dispatcherStep_invariant inv.dispatcher dispatched, traced⟩

/-- A counter of 64 bits gives different ids to fewer sessions than it has values. -/
theorem sessionId_injective {n m : ℕ} (hn : n < 2 ^ 64) (hm : m < 2 ^ 64)
    (same : sessionId n = sessionId m) : n = m := by
  have bits := congrArg UInt64.toNat same
  simp only [sessionId, Nat.toUInt64, UInt64.toNat_ofNat'] at bits
  omega

/-- Sessions have ids of their own, and each is handed datagrams of its own sockets only. -/
structure Isolated (s : Association) : Prop where
  handed : ∀ x ∈ s.client.handed, ∃ received, x.received = some received ∧
    x.message = (received.data, carriedFrom received.fromAddr) ∧
      s.createdFor received = some (sessionId x.session)
  never : s.client.dispatcher.opened ≤ 2 ^ 64 → ∀ x ∈ s.client.handed, ∀ received,
    x.received = some received → ∀ n < s.client.dispatcher.opened,
      s.createdFor received = some (sessionId n) → x.session = n
  ids : s.client.dispatcher.opened ≤ 2 ^ 64 → ∀ n < s.client.dispatcher.opened,
    ∀ m < s.client.dispatcher.opened, sessionId n = sessionId m → n = m
  tables : ∀ (k : ℕ) (c : ServerConnection), s.connections[k]? = some c →
    ∀ id session, c.tunnel.sessions id = some session → c.createdFor session.socket = some id

/-- In every state of every run the sessions are isolated. -/
theorem sessions_isolated {es : List Event}
    (run : Runs (associationSystem display parseIp shard) es s) : Isolated s := by
  have inv : Invariant display shard s := by
    refine run.invariant ⟨(fun _ _ there => by cases there), invariant_new, traced_new⟩ fun u e v inv step => ?_
    exact associationStep_invariant inv step
  refine ⟨fun x member => ?_, fun few x member received from_ n small created => ?_,
    fun few n hn m hm same => ?_, fun k c there => (inv.sound k c there).sessions⟩
  · obtain ⟨_, received, from_, created, message⟩ := inv.traced.handed x member
    exact ⟨received, from_, message, created⟩
  · obtain ⟨opened, own, from', belongs, _⟩ := inv.traced.handed x member
    obtain rfl := Option.some.inj (from_.symm.trans from')
    exact sessionId_injective (Nat.lt_of_lt_of_le opened few) (Nat.lt_of_lt_of_le small few)
      (Option.some.inj (belongs.symm.trans created))
  · exact sessionId_injective (Nat.lt_of_lt_of_le hn few) (Nat.lt_of_lt_of_le hm few) same

end Whole

section Reordered

def resolverAddr : SocketAddr := .v4 ⟨⟨0x08080808⟩, 53⟩

def openSession (id : UInt64) : List Event :=
  [.server 0 (.tunnel (.datagram (some (.unfragmented id (.ofSocketAddr resolverAddr) [1])))),
    .server 0 (.tunnel (.bindSocket true)), .server 0 (.tunnel .acquire)]

/-- Two sessions are answered; the answers are read in the other order, the first one twice, the
second time once its session has been dropped. -/
def reordered : List Event :=
  [.client .openAssociate, .client .openAssociate, .client (.insert 0), .client (.insert 1),
    .connect] ++ openSession 1 ++ openSession 2 ++
  [.server 0 (.receive 0 resolverAddr [5]), .server 0 (.receive 1 resolverAddr [6]),
    .server 0 (.sendDatagram 0 true), .server 0 (.sendDatagram 1 true), .server 0 (.duplicate 0),
    .connect, .read 0 1, .client .send, .client (.recvFrom 1), .read 0 0, .client .send,
    .client (.recvFrom 0), .client (.drop 0), .client (.remove 0), .read 0 0]

theorem sessions_isolated_reordered :
    ∃ s, Runs (associationSystem (fun _ => "") (fun _ => none) fun _ => 0) reordered s ∧
      s.client.handed.map (fun x => (x.session, x.message.1)) = [(1, [6]), (0, [5])] ∧
      Isolated s := by
  have ran : ∃ s, exec (associationSystem (fun _ => "") (fun _ => none) fun _ => 0) reordered =
      some s ∧ s.client.handed.map (fun x => (x.session, x.message.1)) = [(1, [6]), (0, [5])] :=
    ⟨_, rfl, rfl⟩
  obtain ⟨s, ran, handed⟩ := ran
  exact ⟨s, runs_of_exec ran, handed, sessions_isolated (runs_of_exec ran)⟩

end Reordered
end Ombrac.UdpIsolation
