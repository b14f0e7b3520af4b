import Ombrac.LabelledSystem
import Ombrac.SlotTable
import Ombrac.StackPacket

set_option autoImplicit false

/-!
# Which stream a netstack socket serves

A worker of the netstack goes round: it drains its inbound frames, polls smoltcp, handles the
sockets' data, prunes and polls again. Every SYN makes a listening socket and a stream; smoltcp
gives a segment to the first socket that accepts it. A stream is known by its two addresses and by
its number among those emitted.
-/
namespace Ombrac.NetstackAccept
open LabelledSystem ProtocolPacket SlotTable StackPacket

/-- What the worker reads of a TCP segment, by `smoltcp::wire`; `check` is `new_checked`. -/
structure TcpWire where
  payload : IpPacket → Bytes
  check : Bytes → Bool
  syn : Bytes → Bool
  ack : Bytes → Bool
  srcPort : Bytes → UInt16
  dstPort : Bytes → UInt16

structure Pair where
  srcAddr : SocketAddr
  dstAddr : SocketAddr
  deriving DecidableEq, Repr

/-- A segment as smoltcp sees it: the interface has parsed, checked and reassembled it. -/
structure Segment where
  pair : Pair
  packet : Bytes

/-- The part of smoltcp that tells connections apart. `own` is what a socket does without a
segment: `recv`, `send`, its timers and what it transmits. `tuple` is the connection of a socket,
which a listening one does not have; `connects` says that a listening socket takes the segment for
the start of a connection; a socket without a connection is not active. -/
structure Smoltcp (ι σ ω : Type) where
  iface : ι
  ingress : ι → Bytes → ι × Option Segment
  listen : SocketAddr → Option σ
  accepts : σ → Segment → Bool
  connects : σ → Segment → Bool
  process : σ → Segment → σ
  own : ω → σ → σ
  close : σ → σ
  isActive : σ → Bool
  tuple : σ → Option Pair
  listen_tuple : ∀ d k, listen d = some k → tuple k = none
  process_tuple : ∀ k x p, accepts k x = true → tuple k = some p →
    tuple (process k x) = none ∨ tuple (process k x) = some p
  process_listening : ∀ k x, accepts k x = true → tuple k = none →
    tuple (process k x) = if connects k x then some x.pair else none
  own_tuple : ∀ o k, tuple (own o k) = none ∨ tuple (own o k) = tuple k
  close_tuple : ∀ k, tuple (close k) = none ∨ tuple (close k) = tuple k
  listening_inactive : ∀ k, tuple k = none → isActive k = false

/-- A socket of the worker with its `SocketIOHandle`, which shares a state with the stream of that
number. `written` is `write_closed` over an empty send buffer; `connected`, a history, says that
the socket has had a connection. -/
structure Handle (σ : Type) where
  socket : σ
  stream : ℕ
  socketDropped : Bool
  written : Bool
  connected : Bool

inductive Stage where
  | draining
  | polling
  | handling
  | pollingAgain
  deriving DecidableEq

/-- A frame in the device's queue, with the stream that was made for it. -/
structure Queued where
  frame : Bytes
  stream : Option ℕ

/-- `finished` is a history: the streams that were dropped, or whose connection was over, when their
socket went. -/
structure Worker (ι σ : Type) where
  iface : ι
  sockets : List (Option (Handle σ))
  rxQueue : List Queued
  stage : Stage
  emitted : List Pair
  finished : List ℕ

/-- `ready` says that the channel of new streams has room. A device without a permit to transmit
drops the frame that it has taken, and the poll goes no further. -/
inductive Event (ω : Type) where
  | frame (frame : Bytes) (ready : Bool)
  | deliver
  | discard
  | own (i : ℕ) (o : ω)
  | dropStream (i : ℕ)
  | finishWrite (i : ℕ)
  | advance

section System
variable {ι σ ω : Type} (wire : Wire) (tcp : TcpWire) (net : Smoltcp ι σ ω) (channelSize : ℕ)

/-- The test of `process_inbound_frame`. -/
def initialSyn (frame : Bytes) : Option Pair :=
  match IpPacket.newChecked wire frame with
  | none => none
  | some ipPacket =>
    let tcpPacket := tcp.payload ipPacket
    if ipPacket.protocol wire = .tcp ∧ tcp.check tcpPacket = true ∧ tcp.syn tcpPacket = true ∧
        tcp.ack tcpPacket = false then
      some ⟨.new (ipPacket.srcAddr wire) (tcp.srcPort tcpPacket),
        .new (ipPacket.dstAddr wire) (tcp.dstPort tcpPacket)⟩
    else none

namespace Worker

def new : Worker ι σ where
  iface := net.iface
  sockets := []
  rxQueue := []
  stage := .draining
  emitted := []
  finished := []

/-- A frame that the device has no room for is lost. -/
def inject (w : Worker ι σ) (queued : Queued) : Worker ι σ :=
  if w.rxQueue.length < channelSize then { w with rxQueue := w.rxQueue ++ [queued] } else w

def emit (w : Worker ι σ) (pair : Pair) (socket : σ) : Worker ι σ :=
  { w with
    sockets := add w.sockets ⟨socket, w.emitted.length, false, false, false⟩
    emitted := w.emitted ++ [pair] }

def acceptNewConnection (w : Worker ι σ) (pair : Pair) (ready : Bool) : Option (Worker ι σ) :=
  (net.listen pair.dstAddr).map fun socket => if ready then w.emit pair socket else w

def processInboundFrame (w : Worker ι σ) (frame : Bytes) (ready : Bool) : Worker ι σ :=
  match initialSyn wire tcp frame with
  | none => w.inject channelSize ⟨frame, none⟩
  | some pair =>
    match w.acceptNewConnection net pair ready with
    | none => w
    | some v => v.inject channelSize ⟨frame, if ready then some w.emitted.length else none⟩

def updateSocket (w : Worker ι σ) (i : ℕ) (f : σ → σ) : Worker ι σ :=
  { w with sockets := update i (fun handle => { handle with
      socket := f handle.socket
      connected := handle.connected || (net.tuple (f handle.socket)).isSome }) w.sockets }

/-- smoltcp's choice among the sockets. -/
def receiver (w : Worker ι σ) (segment : Segment) : Option ℕ :=
  firstMatch (fun handle => net.accepts handle.socket segment) w.sockets

def deliver (w : Worker ι σ) (frame : Bytes) (rest : List Queued) : Worker ι σ :=
  let (iface, segment) := net.ingress w.iface frame
  let w := { w with iface := iface, rxQueue := rest }
  match segment with
  | none => w
  | some segment =>
    match w.receiver net segment with
    | none => w
    | some i => w.updateSocket net i fun socket => net.process socket segment

def closeWritten (handle : Handle σ) : Handle σ :=
  if handle.written then { handle with socket := net.close handle.socket } else handle

def pruneHandle (handle : Handle σ) : Option (Handle σ) :=
  if handle.socketDropped then none
  else
    let handle := closeWritten net handle
    if net.isActive handle.socket then some handle else none

def isFinished (handle : Handle σ) : Bool :=
  handle.socketDropped || (handle.connected && !net.isActive (closeWritten net handle).socket)

def pruneSockets (w : Worker ι σ) : Worker ι σ :=
  { w with
    sockets := sweep (pruneHandle net) w.sockets
    finished := w.finished ++
      w.sockets.filterMap fun slot => (slot.filter (isFinished net)).map Handle.stream }

end Worker

def Stage.next : Stage → Stage
  | .draining => .polling
  | .polling => .handling
  | .handling => .pollingAgain
  | .pollingAgain => .draining

def Stage.polls (stage : Stage) : Bool := stage = .polling || stage = .pollingAgain

def workerStep (w : Worker ι σ) : Event ω → Option (Worker ι σ)
  | .frame frame ready =>
    if w.stage = .draining then some (w.processInboundFrame wire tcp net channelSize frame ready)
    else none
  | .deliver =>
    match w.rxQueue with
    | queued :: rest => if w.stage.polls then some (w.deliver net queued.frame rest) else none
    | [] => none
  | .discard =>
    match w.rxQueue with
    | _ :: rest =>
      if w.stage.polls then some { w with rxQueue := rest, stage := w.stage.next } else none
    | [] => none
  | .own i o => if w.stage = .draining then none else some (w.updateSocket net i (net.own o))
  | .dropStream i => some { w with
      sockets := update i (fun handle => { handle with socketDropped := true }) w.sockets }
  | .finishWrite i => some { w with
      sockets := update i (fun handle => { handle with written := true }) w.sockets }
  | .advance =>
    match w.stage with
    | .draining => some { w with stage := .polling }
    | .handling => some { w.pruneSockets net with stage := .pollingAgain }
    | .polling | .pollingAgain =>
      -- a poll goes on until the device has nothing more
      if w.rxQueue = [] then some { w with stage := w.stage.next } else none

def workerSystem : System (Worker ι σ) (Event ω) where
  initial := .new net
  step := workerStep wire tcp net channelSize

end System

/-! ## One stream for each socket, and the right one -/

section Property
variable {ι σ ω : Type} (wire : Wire) (tcp : TcpWire) (net : Smoltcp ι σ ω) (channelSize : ℕ)

/-- No stream but its own has been emitted for the pair of a socket since it is there. -/
def OneStream (w : Worker ι σ) : Prop :=
  ∀ handle, some handle ∈ w.sockets → ∀ pair, w.emitted[handle.stream]? = some pair →
    (w.emitted.drop handle.stream).count pair = 1

/-- The connection of a socket is that of the stream it is attached to. -/
def Serves (w : Worker ι σ) : Prop :=
  ∀ handle, some handle ∈ w.sockets → ∀ pair, net.tuple handle.socket = some pair →
    w.emitted[handle.stream]? = some pair

/-- The streams whose SYN is still in the device's queue. -/
def awaited (w : Worker ι σ) : List ℕ := w.rxQueue.filterMap Queued.stream

/-- Every stream that was emitted has a socket, which has been connected or whose SYN is still in
the device's queue, until the stream is dropped or its connection is over. -/
def Attached (w : Worker ι σ) : Prop :=
  ∀ n < w.emitted.length, n ∈ w.finished ∨ ∃ handle, some handle ∈ w.sockets ∧ handle.stream = n ∧
    (handle.socketDropped = true ∨ handle.connected = true ∨ n ∈ awaited w)

def Waiting (handle : Handle σ) : Prop := handle.socketDropped = false ∧ handle.connected = false

/-- A SYN that gets a socket is not of a pair that has one, and finds room in the device's queue.
There it is neither discarded nor left by a poll, and it connects the socket that was made for it;
and no segment connects a listening socket that was made for another pair. -/
def Guarded (w : Worker ι σ) : Event ω → Prop
  | .frame frame ready => ∀ pair, initialSyn wire tcp frame = some pair → ready = true →
      net.listen pair.dstAddr ≠ none →
        (∀ handle, some handle ∈ w.sockets → w.emitted[handle.stream]? ≠ some pair) ∧
          w.rxQueue.length < channelSize
  | .deliver => ∀ queued, w.rxQueue.head? = some queued →
      (∀ segment i handle, (net.ingress w.iface queued.frame).2 = some segment →
        w.receiver net segment = some i → entry w.sockets i = some handle →
          net.tuple handle.socket = none → net.connects handle.socket segment = true →
            w.emitted[handle.stream]? = some segment.pair) ∧
      ∀ i handle, entry w.sockets i = some handle → queued.stream = some handle.stream →
        Waiting handle → ∃ segment, (net.ingress w.iface queued.frame).2 = some segment ∧
          w.receiver net segment = some i ∧ net.connects handle.socket segment = true
  | .discard => ∀ queued, w.rxQueue.head? = some queued → ∀ handle, some handle ∈ w.sockets →
      queued.stream = some handle.stream → ¬ Waiting handle
  | .advance => w.stage = .handling → ∀ handle, some handle ∈ w.sockets → ¬ Waiting handle
  | _ => True

/-- Streams and sockets are numbered, and a socket that has had no connection has none. -/
structure Sound (w : Worker ι σ) : Prop where
  numbered : ∀ i handle, entry w.sockets i = some handle → handle.stream < w.emitted.length
  alone : ∀ i j handle other, entry w.sockets i = some handle → entry w.sockets j = some other →
    handle.stream = other.stream → i = j
  finished : ∀ n ∈ w.finished, ∀ i handle, entry w.sockets i = some handle → handle.stream ≠ n
  known : ∀ n, n ∈ w.finished ∨ n ∈ awaited w → n < w.emitted.length
  once : (awaited w).Nodup
  listening : ∀ i handle, entry w.sockets i = some handle → handle.connected = false →
    net.tuple handle.socket = none

structure Good (w : Worker ι σ) : Prop where
  one : OneStream w
  serves : Serves net w
  attached : Attached w

variable {wire tcp net channelSize} {w v : Worker ι σ}

/-- A socket without a connection waits for its SYN. -/
theorem Attached.awaited (attached : Attached w) (sound : Sound net w) {i : ℕ}
    {handle : Handle σ} (there : entry w.sockets i = some handle) (waiting : Waiting handle) :
    handle.stream ∈ awaited w := by
  obtain isOver | ⟨other, member, same, state⟩ :=
    attached handle.stream (sound.numbered i handle there)
  · exact absurd rfl (sound.finished _ isOver i handle there)
  · obtain ⟨j, here⟩ := mem_iff_entry.1 member
    obtain rfl := sound.alone i j handle other there here same.symm
    obtain rfl := Option.some.inj (there.symm.trans here)
    obtain dropped | connected | awaits := state
    · cases dropped.symm.trans waiting.1
    · cases connected.symm.trans waiting.2
    · exact awaits

/-! ## Steps that emit nothing and prune nothing -/

structure Maps (w v : Worker ι σ) (g : ℕ → Handle σ → Handle σ) : Prop where
  emitted : v.emitted = w.emitted
  finished : v.finished = w.finished
  sockets : ∀ i, entry v.sockets i = (entry w.sockets i).map (g i)
  stream : ∀ i handle, (g i handle).stream = handle.stream

section Maps
variable {g : ℕ → Handle σ → Handle σ}

theorem Maps.of_same (sockets : v.sockets = w.sockets) (emitted : v.emitted = w.emitted)
    (finished : v.finished = w.finished) : Maps w v fun _ handle => handle where
  emitted := emitted
  finished := finished
  sockets i := by rw [sockets, Option.map_id']
  stream _ _ := rfl

theorem Maps.entry (maps : Maps w v g) {i : ℕ} {handle : Handle σ}
    (there : SlotTable.entry v.sockets i = some handle) :
    ∃ old, SlotTable.entry w.sockets i = some old ∧ handle = g i old := by
  rw [maps.sockets] at there
  obtain ⟨old, here, rfl⟩ := Option.map_eq_some_iff.1 there
  exact ⟨old, here, rfl⟩

theorem Maps.moved (maps : Maps w v g) {i : ℕ} {handle : Handle σ}
    (there : SlotTable.entry w.sockets i = some handle) :
    SlotTable.entry v.sockets i = some (g i handle) := by
  rw [maps.sockets, there, Option.map_some]

theorem Maps.oneStream (maps : Maps w v g) (one : OneStream w) : OneStream v := by
  intro handle member pair
  obtain ⟨i, there⟩ := mem_iff_entry.1 member
  obtain ⟨old, here, rfl⟩ := maps.entry there
  rw [maps.emitted, maps.stream]
  exact one old (mem_iff_entry.2 ⟨i, here⟩) pair

theorem Maps.serves_iff (maps : Maps w v g) : Serves net v ↔
    ∀ i handle, SlotTable.entry w.sockets i = some handle → ∀ pair,
      net.tuple (g i handle).socket = some pair → w.emitted[handle.stream]? = some pair := by
  constructor
  · intro serves i handle there pair connected
    have own := serves _ (mem_iff_entry.2 ⟨i, maps.moved there⟩) pair connected
    rwa [maps.emitted, maps.stream] at own
  · intro own handle member pair connected
    obtain ⟨i, there⟩ := mem_iff_entry.1 member
    obtain ⟨old, here, rfl⟩ := maps.entry there
    rw [maps.emitted, maps.stream]
    exact own i old here pair connected

/-- Sockets that still wait must have their SYN in the queue. -/
theorem Maps.attached_iff (maps : Maps w v g) (sound : Sound net w) (attached : Attached w)
    (kept : ∀ i handle, ¬ Waiting handle → ¬ Waiting (g i handle)) : Attached v ↔
      ∀ i handle, SlotTable.entry w.sockets i = some handle → Waiting handle →
        Waiting (g i handle) → handle.stream ∈ NetstackAccept.awaited v := by
  constructor
  · intro after i handle there _ waiting
    have bound := sound.numbered i handle there
    rw [← maps.emitted] at bound
    obtain isOver | ⟨other, member, same, state⟩ := after handle.stream bound
    · rw [maps.finished] at isOver
      exact absurd rfl (sound.finished _ isOver i handle there)
    · obtain ⟨j, here⟩ := mem_iff_entry.1 member
      obtain ⟨old, before, rfl⟩ := maps.entry here
      rw [maps.stream] at same
      obtain rfl := sound.alone i j handle old there before same.symm
      obtain rfl := Option.some.inj (there.symm.trans before)
      obtain dropped | connected | awaits := state
      · cases dropped.symm.trans waiting.1
      · cases connected.symm.trans waiting.2
      · exact awaits
  · intro waits n bound
    rw [maps.emitted] at bound
    rw [maps.finished]
    refine (attached n bound).imp_right ?_
    rintro ⟨handle, member, rfl, _⟩
    obtain ⟨i, there⟩ := mem_iff_entry.1 member
    refine ⟨_, mem_iff_entry.2 ⟨i, maps.moved there⟩, maps.stream i handle, ?_⟩
    by_cases waiting : Waiting (g i handle)
    · have before : Waiting handle := not_not.1 fun h => kept i handle h waiting
      exact .inr (.inr (waits i handle there before waiting))
    · rcases not_and_or.1 waiting with dropped | connected
      · exact .inl (Bool.eq_true_of_not_eq_false dropped)
      · exact .inr (.inl (Bool.eq_true_of_not_eq_false connected))

/-- The head of the queue goes, and with it the last chance of a socket that waits for it. -/
theorem Maps.attached_pop (maps : Maps w v g) (sound : Sound net w) (attached : Attached w)
    (kept : ∀ i handle, ¬ Waiting handle → ¬ Waiting (g i handle)) {queued : Queued}
    {rest : List Queued} (queue : w.rxQueue = queued :: rest) (left : v.rxQueue = rest) :
    Attached v ↔ ∀ i handle, SlotTable.entry w.sockets i = some handle →
      queued.stream = some handle.stream → Waiting handle → ¬ Waiting (g i handle) := by
  rw [maps.attached_iff sound attached kept]
  have once := sound.once
  unfold NetstackAccept.awaited at once
  rw [queue] at once
  constructor
  · intro waits i handle there own waiting still
    have later := waits i handle there waiting still
    unfold NetstackAccept.awaited at later
    rw [left] at later
    rw [List.filterMap_cons_some own] at once
    exact (List.nodup_cons.1 once).1 later
  · intro connects i handle there waiting still
    have awaits := attached.awaited sound there waiting
    unfold NetstackAccept.awaited at awaits ⊢
    rw [queue] at awaits
    rw [left]
    cases own : queued.stream with
    | none => rwa [List.filterMap_cons_none own] at awaits
    | some n =>
      rw [List.filterMap_cons_some own] at awaits
      obtain same | later := List.mem_cons.1 awaits
      · rw [← same] at own
        exact absurd still (connects i handle there own waiting)
      · exact later

theorem Maps.sound (maps : Maps w v g) (sound : Sound net w)
    (queue : (awaited v).Sublist (awaited w))
    (listening : ∀ i handle, SlotTable.entry w.sockets i = some handle →
      (g i handle).connected = false → net.tuple (g i handle).socket = none) : Sound net v where
  numbered i handle there := by
    obtain ⟨old, here, rfl⟩ := maps.entry there
    rw [maps.stream, maps.emitted]
    exact sound.numbered i old here
  alone i j handle other there here same := by
    obtain ⟨old, before, rfl⟩ := maps.entry there
    obtain ⟨old', before', rfl⟩ := maps.entry here
    rw [maps.stream, maps.stream] at same
    exact sound.alone i j old old' before before' same
  finished n isOver i handle there := by
    obtain ⟨old, here, rfl⟩ := maps.entry there
    rw [maps.finished] at isOver
    rw [maps.stream]
    exact sound.finished n isOver i old here
  known n there := by
    rw [maps.emitted]
    rw [maps.finished] at there
    exact sound.known n (there.imp_right fun awaits => queue.subset awaits)
  once := sound.once.sublist queue
  listening i handle there unconnected := by
    obtain ⟨old, here, rfl⟩ := maps.entry there
    exact listening i old here unconnected

/-- One socket is changed, and gets no connection. -/
theorem good_of_update (sound : Sound net w) (good : Good net w) (i : ℕ)
    {f : Handle σ → Handle σ} (stream : ∀ handle, (f handle).stream = handle.stream)
    (kept : ∀ handle, Waiting (f handle) → Waiting handle)
    (connected : ∀ handle, (f handle).connected = false → handle.connected = false)
    (tuple : ∀ handle, net.tuple (f handle).socket = none ∨
      net.tuple (f handle).socket = net.tuple handle.socket) :
    Sound net { w with sockets := update i f w.sockets } ∧
      Good net { w with sockets := update i f w.sockets } := by
  have maps : Maps w { w with sockets := update i f w.sockets }
      fun j handle => if i = j then f handle else handle := by
    refine ⟨rfl, rfl, fun j => (entry_update i j f).trans ?_, fun j handle => ?_⟩
    · split_ifs
      · rfl
      · rw [Option.map_id']
    · split_ifs
      · exact stream handle
      · rfl
  refine ⟨maps.sound sound (List.Sublist.refl _) fun j handle there => ?_, maps.oneStream good.one,
    maps.serves_iff.2 fun j handle there pair => ?_, ?_⟩
  · split_ifs
    · intro unconnected
      have before := sound.listening j handle there (connected handle unconnected)
      exact (tuple handle).elim id fun same => same.trans before
    · exact sound.listening j handle there
  · have own := good.serves handle (mem_iff_entry.2 ⟨j, there⟩) pair
    split_ifs
    · intro after
      obtain none | same := tuple handle
      · cases none.symm.trans after
      · exact own (same.symm.trans after)
    · exact own
  · refine (maps.attached_iff sound good.attached fun j handle busy => ?_).2 ?_
    · split_ifs
      · exact fun waiting => busy (kept handle waiting)
      · exact busy
    · exact fun j handle there waiting _ => good.attached.awaited sound there waiting

theorem good_of_same (sound : Sound net w) (good : Good net w) (sockets : v.sockets = w.sockets)
    (emitted : v.emitted = w.emitted) (finished : v.finished = w.finished)
    (queue : awaited v = awaited w) : Sound net v ∧ Good net v := by
  have maps := Maps.of_same sockets emitted finished
  refine ⟨maps.sound sound (queue ▸ List.Sublist.refl _) sound.listening, maps.oneStream good.one,
    maps.serves_iff.2 fun i handle there =>
      good.serves handle (mem_iff_entry.2 ⟨i, there⟩), ?_⟩
  refine (maps.attached_iff sound good.attached fun _ _ => id).2 fun i handle there waiting _ => ?_
  rw [queue]
  exact good.attached.awaited sound there waiting

end Maps

/-! ## Frames -/

theorem inject_frame (channelSize : ℕ) (queued : Queued) :
    (w.inject channelSize queued).sockets = w.sockets ∧
      (w.inject channelSize queued).emitted = w.emitted ∧
      (w.inject channelSize queued).finished = w.finished ∧
      awaited (w.inject channelSize queued) =
        awaited w ++ if w.rxQueue.length < channelSize then queued.stream.toList else [] := by
  unfold Worker.inject awaited
  split_ifs
  · refine ⟨rfl, rfl, rfl, ?_⟩
    rw [List.filterMap_append]
    cases tag : queued.stream <;> simp [tag]
  · exact ⟨rfl, rfl, rfl, (List.append_nil _).symm⟩

theorem emitted_concat {n : ℕ} (old : n < w.emitted.length) (pair : Pair) :
    (w.emitted ++ [pair])[n]? = w.emitted[n]? := List.getElem?_append_left old

section Emission
variable {pair : Pair} {socket : σ}

theorem emit_mem {handle : Handle σ} : some handle ∈ (w.emit pair socket).sockets ↔
    handle = ⟨socket, w.emitted.length, false, false, false⟩ ∨ some handle ∈ w.sockets := mem_add

theorem emit_entry {i : ℕ} {handle : Handle σ}
    (there : entry (w.emit pair socket).sockets i = some handle) :
    (i = freeSlot w.sockets ∧ handle = ⟨socket, w.emitted.length, false, false, false⟩) ∨
      entry w.sockets i = some handle := by
  change entry (add w.sockets _) i = some handle at there
  rw [entry_add] at there
  split_ifs at there with new
  · exact .inl ⟨new, (Option.some.inj there).symm⟩
  · exact .inr there

theorem emit_serves (sound : Sound net w) (serves : Serves net w)
    (listening : net.tuple socket = none) : Serves net (w.emit pair socket) := by
  intro handle member other connected
  obtain rfl | there := emit_mem.1 member
  · cases listening.symm.trans connected
  · obtain ⟨i, here⟩ := mem_iff_entry.1 there
    exact (emitted_concat (sound.numbered i handle here) pair).trans
      (serves handle there other connected)

/-- A new stream is the only one of its pair exactly if no socket has that pair. -/
theorem emit_oneStream (sound : Sound net w) (one : OneStream w) :
    OneStream (w.emit pair socket) ↔
      ∀ handle, some handle ∈ w.sockets → w.emitted[handle.stream]? ≠ some pair := by
  have numbered : ∀ handle, some handle ∈ w.sockets → handle.stream < w.emitted.length := by
    intro handle there
    obtain ⟨i, here⟩ := mem_iff_entry.1 there
    exact sound.numbered i handle here
  have counted : ∀ handle, some handle ∈ w.sockets → ∀ other,
      ((w.emitted ++ [pair]).drop handle.stream).count other =
        (w.emitted.drop handle.stream).count other + if pair = other then 1 else 0 := by
    intro handle there other
    rw [List.drop_append_of_le_length (numbered handle there).le, List.count_append,
      List.count_singleton]
    simp only [beq_iff_eq]
  constructor
  · intro after handle there same
    have own := one handle there pair same
    have again := after handle (emit_mem.2 (.inr there)) pair
      ((emitted_concat (numbered handle there) pair).trans same)
    change ((w.emitted ++ [pair]).drop handle.stream).count pair = 1 at again
    rw [counted handle there, own, if_pos rfl] at again
    omega
  · intro fresh handle member other labelled
    change ((w.emitted ++ [pair]).drop handle.stream).count other = 1
    change (w.emitted ++ [pair])[handle.stream]? = some other at labelled
    obtain rfl | there := emit_mem.1 member
    · simp only [List.getElem?_concat_length, Option.some.injEq] at labelled
      subst labelled
      simp
    · rw [emitted_concat (numbered handle there)] at labelled
      have different : pair ≠ other := by
        rintro rfl
        exact fresh handle there labelled
      rw [counted handle there, if_neg different]
      exact one handle there other labelled

/-- The new stream awaits its SYN, if that has got into the queue. -/
theorem emit_sound (sound : Sound net w) (listening : net.tuple socket = none)
    (sockets : v.sockets = (w.emit pair socket).sockets)
    (emitted : v.emitted = w.emitted ++ [pair]) (finished : v.finished = w.finished)
    {more : List ℕ} (queue : awaited v = awaited w ++ more)
    (made : more.Sublist [w.emitted.length]) : Sound net v := by
  have size : v.emitted.length = w.emitted.length + 1 := by
    rw [emitted, List.length_append, List.length_singleton]
  refine ⟨fun i handle there => ?_, fun i j handle other there here same => ?_,
    fun n isOver i handle there => ?_, fun n there => ?_, ?_, fun i handle there => ?_⟩
  · rw [size]
    obtain ⟨_, rfl⟩ | old := emit_entry (sockets ▸ there)
    · exact Nat.lt_succ_self _
    · exact Nat.lt_succ_of_lt (sound.numbered i handle old)
  · obtain ⟨rfl, rfl⟩ | old := emit_entry (sockets ▸ there)
    · obtain ⟨rfl, _⟩ | old' := emit_entry (sockets ▸ here)
      · rfl
      · exact absurd same (sound.numbered j other old').ne'
    · obtain ⟨rfl, rfl⟩ | old' := emit_entry (sockets ▸ here)
      · exact absurd same (sound.numbered i handle old).ne
      · exact sound.alone i j handle other old old' same
  · rw [finished] at isOver
    obtain ⟨_, rfl⟩ | old := emit_entry (sockets ▸ there)
    · exact (sound.known n (.inl isOver)).ne'
    · exact sound.finished n isOver i handle old
  · rw [size]
    rw [finished, queue, List.mem_append] at there
    obtain isOver | awaits | new := there
    · exact Nat.lt_succ_of_lt (sound.known n (.inl isOver))
    · exact Nat.lt_succ_of_lt (sound.known n (.inr awaits))
    · rw [List.mem_singleton.1 (made.subset new)]
      exact Nat.lt_succ_self _
  · rw [queue]
    refine List.nodup_append.2 ⟨sound.once, (List.pairwise_singleton _ _).sublist made, ?_⟩
    intro n old m new
    rw [List.mem_singleton.1 (made.subset new)]
    exact (sound.known n (.inr old)).ne
  · obtain ⟨_, rfl⟩ | old := emit_entry (sockets ▸ there)
    · exact fun _ => listening
    · exact sound.listening i handle old

theorem emit_attached (sound : Sound net w) (attached : Attached w)
    (sockets : v.sockets = (w.emit pair socket).sockets)
    (emitted : v.emitted = w.emitted ++ [pair]) (finished : v.finished = w.finished)
    {more : List ℕ} (queue : awaited v = awaited w ++ more) :
    Attached v ↔ w.emitted.length ∈ more := by
  have unknown : ∀ n, n ∈ w.finished ∨ n ∈ awaited w → n ≠ w.emitted.length :=
    fun n there => (sound.known n there).ne
  constructor
  · intro after
    obtain isOver | ⟨handle, member, same, state⟩ := after w.emitted.length (by simp [emitted])
    · rw [finished] at isOver
      exact absurd rfl (unknown _ (.inl isOver))
    · rw [sockets] at member
      obtain rfl | old := emit_mem.1 member
      · obtain dropped | connected | awaits := state
        · cases dropped
        · cases connected
        · rw [queue] at awaits
          exact (List.mem_append.1 awaits).resolve_left fun old => unknown _ (.inr old) rfl
      · obtain ⟨i, here⟩ := mem_iff_entry.1 old
        exact absurd same (sound.numbered i handle here).ne
  · intro there n bound
    rw [emitted, List.length_append, List.length_singleton] at bound
    rw [finished, sockets, queue]
    obtain old | rfl := Nat.lt_succ_iff_lt_or_eq.1 bound
    · refine (attached n old).imp_right ?_
      rintro ⟨handle, member, same, state⟩
      exact ⟨handle, emit_mem.2 (.inr member), same,
        state.imp_right (Or.imp_right (List.mem_append_left _))⟩
    · exact .inr ⟨_, emit_mem.2 (.inl rfl), rfl, .inr (.inr (List.mem_append_right _ there))⟩

end Emission

/-- A SYN gets a stream: it must be the first of its pair and find room in the queue. -/
theorem accepted_good (sound : Sound net w) (good : Good net w) (channelSize : ℕ) (frame : Bytes)
    {pair : Pair} {socket : σ} (listens : net.listen pair.dstAddr = some socket) :
    let v := (w.emit pair socket).inject channelSize ⟨frame, some w.emitted.length⟩
    Sound net v ∧ (Good net v ↔
      (∀ handle, some handle ∈ w.sockets → w.emitted[handle.stream]? ≠ some pair) ∧
        w.rxQueue.length < channelSize) := by
  intro v
  obtain ⟨sockets, emitted, finished, queue⟩ :=
    inject_frame (w := w.emit pair socket) channelSize ⟨frame, some w.emitted.length⟩
  have listening := net.listen_tuple _ _ listens
  have made : (if w.rxQueue.length < channelSize then [w.emitted.length] else []).Sublist
      [w.emitted.length] := by
    split_ifs
    · exact List.Sublist.refl _
    · exact List.nil_sublist _
  refine ⟨emit_sound sound listening sockets emitted finished queue made, ?_⟩
  have maps := Maps.of_same sockets emitted finished
  have back := Maps.of_same sockets.symm emitted.symm finished.symm
  have attached := emit_attached sound good.attached sockets emitted finished queue
  have room : Attached v ↔ w.rxQueue.length < channelSize := by
    rw [attached]
    change w.emitted.length ∈ (if w.rxQueue.length < channelSize then [w.emitted.length] else []) ↔ _
    split_ifs with free
    · exact iff_of_true (List.mem_singleton_self _) free
    · exact iff_of_false List.not_mem_nil free
  have only : OneStream (w.emit pair socket) ↔ _ := emit_oneStream sound good.one
  rw [← room, ← only]
  constructor
  · exact fun after => ⟨back.oneStream after.one, after.attached⟩
  · rintro ⟨one, attached⟩
    refine ⟨maps.oneStream one, maps.serves_iff.2 fun i handle there => ?_, attached⟩
    exact emit_serves sound good.serves listening handle (mem_iff_entry.2 ⟨i, there⟩)

theorem processInboundFrame_good (sound : Sound net w) (good : Good net w) (frame : Bytes)
    (ready : Bool) : Sound net (w.processInboundFrame wire tcp net channelSize frame ready) ∧
    (Good net (w.processInboundFrame wire tcp net channelSize frame ready) ↔
      Guarded wire tcp net channelSize w (.frame frame ready)) := by
  have injected : Sound net (w.inject channelSize ⟨frame, none⟩) ∧
      Good net (w.inject channelSize ⟨frame, none⟩) := by
    obtain ⟨sockets, emitted, finished, queue⟩ :=
      inject_frame (w := w) channelSize ⟨frame, none⟩
    refine good_of_same sound good sockets emitted finished (queue.trans ?_)
    split_ifs <;> exact List.append_nil _
  unfold Worker.processInboundFrame Worker.acceptNewConnection
  split
  · rename_i other
    refine ⟨injected.1, iff_of_true injected.2 fun pair syn => ?_⟩
    cases other.symm.trans syn
  · rename_i pair syn
    have same : ∀ other, initialSyn wire tcp frame = some other → other = pair := by
      intro other syn'
      exact Option.some.inj (syn'.symm.trans syn)
    cases listens : net.listen pair.dstAddr with
    | none =>
      refine ⟨sound, iff_of_true good fun other syn' _ possible => ?_⟩
      obtain rfl := same other syn'
      exact absurd listens possible
    | some socket =>
      dsimp only [Option.map]
      cases ready with
      | false => exact ⟨injected.1, iff_of_true injected.2 fun _ _ no => by cases no⟩
      | true =>
        obtain ⟨sound', good'⟩ := accepted_good sound good channelSize frame listens
        refine ⟨sound', good'.trans ⟨fun fresh other syn' _ _ => ?_, fun guard => ?_⟩⟩
        · obtain rfl := same other syn'
          exact fresh
        · exact guard pair syn rfl (by simp [listens])

/-! ## Segments -/

def polled (net : Smoltcp ι σ ω) (w : Worker ι σ) (frame : Bytes) (i : ℕ) (handle : Handle σ) :
    Handle σ :=
  match (net.ingress w.iface frame).2 with
  | none => handle
  | some segment =>
    if w.receiver net segment = some i then { handle with
      socket := net.process handle.socket segment
      connected := handle.connected || (net.tuple (net.process handle.socket segment)).isSome }
    else handle

theorem deliver_maps (net : Smoltcp ι σ ω) (w : Worker ι σ) (frame : Bytes) (rest : List Queued) :
    Maps w (w.deliver net frame rest) (polled net w frame) ∧
      (w.deliver net frame rest).rxQueue = rest := by
  have stream : ∀ i handle, (polled net w frame i handle).stream = handle.stream := by
    intro i handle
    unfold polled
    split
    · rfl
    · split_ifs <;> rfl
  unfold Worker.deliver
  dsimp only
  split
  · rename_i nothing
    have same : ∀ i, polled net w frame i = fun handle => handle := by
      intro i
      funext handle
      simp only [polled, nothing]
    refine ⟨⟨rfl, rfl, fun i => ?_, stream⟩, rfl⟩
    rw [same, Option.map_id']
  · rename_i segment seen
    split
    · rename_i nobody
      have none' : w.receiver net segment = none := nobody
      have same : ∀ i, polled net w frame i = fun handle => handle := by
        intro i
        funext handle
        simp only [polled, seen, none', reduceCtorEq, if_false]
      refine ⟨⟨rfl, rfl, fun i => ?_, stream⟩, rfl⟩
      rw [same, Option.map_id']
    · rename_i j found
      have some' : w.receiver net segment = some j := found
      refine ⟨⟨rfl, rfl, fun i => (entry_update j i _).trans ?_, stream⟩, rfl⟩
      split_ifs with taken
      · subst taken
        refine congrArg (fun g => Option.map g (entry w.sockets j)) (funext fun handle => ?_)
        simp only [polled, seen, some', if_true]
      · have same : polled net w frame i = fun handle => handle := by
          funext handle
          simp only [polled, seen, some', Option.some.injEq, taken, if_false]
        rw [same, Option.map_id']

/-- The socket that gets the segment was listening, and connects or stays without a connection; or
it keeps or loses the one it has. -/
theorem polled_tuple {frame : Bytes} {i : ℕ} {handle : Handle σ}
    (there : entry w.sockets i = some handle) {pair : Pair}
    (connected : net.tuple (polled net w frame i handle).socket = some pair) :
    net.tuple handle.socket = some pair ∨ ∃ segment, (net.ingress w.iface frame).2 = some segment ∧
      w.receiver net segment = some i ∧ net.tuple handle.socket = none ∧
      net.connects handle.socket segment = true ∧ pair = segment.pair := by
  unfold polled at connected
  split at connected
  · exact .inl connected
  · rename_i segment seen
    split_ifs at connected with found
    · obtain ⟨taker, here, accepts⟩ := firstMatch_some found
      obtain rfl := Option.some.inj (there.symm.trans here)
      cases tuple : net.tuple handle.socket with
      | none =>
        change net.tuple (net.process handle.socket segment) = some pair at connected
        rw [net.process_listening _ _ accepts tuple] at connected
        split_ifs at connected with connects
        exact .inr ⟨segment, seen, found, rfl, connects, (Option.some.inj connected).symm⟩
      | some before =>
        obtain lost | same := net.process_tuple _ _ _ accepts tuple
        · cases lost.symm.trans connected
        · exact .inl (same.symm.trans connected)
    · exact .inl connected

/-- A socket without a connection gets one exactly if the segment is its own and connects it. -/
theorem polled_waiting (sound : Sound net w) {frame : Bytes} {i : ℕ} {handle : Handle σ}
    (there : entry w.sockets i = some handle) (waiting : Waiting handle) :
    ¬ Waiting (polled net w frame i handle) ↔
      ∃ segment, (net.ingress w.iface frame).2 = some segment ∧
        w.receiver net segment = some i ∧ net.connects handle.socket segment = true := by
  have listening := sound.listening i handle there waiting.2
  unfold polled
  split
  · rename_i nothing
    refine iff_of_false (not_not_intro waiting) ?_
    rintro ⟨segment, seen, _⟩
    cases nothing.symm.trans seen
  · rename_i segment seen
    split_ifs with found
    · obtain ⟨taker, here, accepts⟩ := firstMatch_some found
      obtain rfl := Option.some.inj (there.symm.trans here)
      have processed := net.process_listening _ _ accepts listening
      constructor
      · intro busy
        refine ⟨segment, seen, found, ?_⟩
        by_contra idle
        rw [if_neg idle] at processed
        exact busy ⟨waiting.1, by simp [waiting.2, processed]⟩
      · rintro ⟨other, seen', _, connects⟩ ⟨_, still⟩
        obtain rfl := Option.some.inj (seen.symm.trans seen')
        rw [if_pos connects] at processed
        simp [processed] at still
    · refine iff_of_false (not_not_intro waiting) ?_
      rintro ⟨other, seen', found', _⟩
      obtain rfl := Option.some.inj (seen.symm.trans seen')
      exact found found'

theorem polled_busy {frame : Bytes} (i : ℕ) (handle : Handle σ) (busy : ¬ Waiting handle) :
    ¬ Waiting (polled net w frame i handle) := by
  unfold polled
  split
  · exact busy
  · split_ifs
    · rintro ⟨undropped, unconnected⟩
      exact busy ⟨undropped, (Bool.or_eq_false_iff.1 unconnected).1⟩
    · exact busy

theorem polled_listening (sound : Sound net w) {frame : Bytes} {i : ℕ} {handle : Handle σ}
    (there : entry w.sockets i = some handle)
    (unconnected : (polled net w frame i handle).connected = false) :
    net.tuple (polled net w frame i handle).socket = none := by
  revert unconnected
  unfold polled
  split
  · exact sound.listening i handle there
  · split_ifs
    · intro unconnected
      have untaken := (Bool.or_eq_false_iff.1 unconnected).2
      exact Option.isNone_iff_eq_none.1 (Option.isSome_eq_false_iff.1 untaken)
    · exact sound.listening i handle there

theorem deliver_good (sound : Sound net w) (good : Good net w) {queued : Queued}
    {rest : List Queued} (queue : w.rxQueue = queued :: rest) :
    Sound net (w.deliver net queued.frame rest) ∧
      (Good net (w.deliver net queued.frame rest) ↔
        Guarded wire tcp net channelSize w .deliver) := by
  obtain ⟨maps, left⟩ := deliver_maps net w queued.frame rest
  have shorter : (awaited (w.deliver net queued.frame rest)).Sublist (awaited w) := by
    unfold awaited
    rw [left, queue]
    exact (List.sublist_cons_self queued rest).filterMap _
  refine ⟨maps.sound sound shorter fun i handle there => polled_listening sound there, ?_⟩
  have attached := maps.attached_pop sound good.attached (fun i handle => polled_busy i handle)
    queue left
  have own : Serves net (w.deliver net queued.frame rest) ↔
      ∀ segment i handle, (net.ingress w.iface queued.frame).2 = some segment →
        w.receiver net segment = some i → entry w.sockets i = some handle →
          net.tuple handle.socket = none → net.connects handle.socket segment = true →
            w.emitted[handle.stream]? = some segment.pair := by
    rw [maps.serves_iff]
    constructor
    · intro serves segment i handle seen found there listening connects
      obtain ⟨taker, here, accepts⟩ := firstMatch_some found
      obtain rfl := Option.some.inj (there.symm.trans here)
      refine serves i handle there segment.pair ?_
      have processed := net.process_listening _ _ accepts listening
      rw [if_pos connects] at processed
      simp only [polled, seen, found, if_true, processed]
    · intro connecting i handle there pair connected
      obtain before | ⟨segment, seen, found, listening, connects, rfl⟩ :=
        polled_tuple there connected
      · exact good.serves handle (mem_iff_entry.2 ⟨i, there⟩) pair before
      · exact connecting segment i handle seen found there listening connects
  constructor
  · intro after other head
    rw [queue] at head
    obtain rfl := Option.some.inj head
    refine ⟨own.1 after.serves, fun i handle there tagged waiting => ?_⟩
    exact (polled_waiting sound there waiting).1 (attached.1 after.attached i handle there tagged
      waiting)
  · intro guard
    obtain ⟨connecting, connects⟩ := guard queued (by rw [queue]; rfl)
    refine ⟨maps.oneStream good.one, own.2 connecting, attached.2 ?_⟩
    intro i handle there tagged waiting
    exact (polled_waiting sound there waiting).2 (connects i handle there tagged waiting)

/-! ## Losses -/

theorem discard_good (sound : Sound net w) (good : Good net w) {queued : Queued}
    {rest : List Queued} (queue : w.rxQueue = queued :: rest) (stage : Stage) :
    Sound net { w with rxQueue := rest, stage := stage } ∧
      (Good net { w with rxQueue := rest, stage := stage } ↔
        Guarded wire tcp net channelSize w .discard) := by
  have maps : Maps w { w with rxQueue := rest, stage := stage } fun _ handle => handle :=
    .of_same rfl rfl rfl
  have shorter : (awaited { w with rxQueue := rest, stage := stage }).Sublist (awaited w) := by
    unfold awaited
    rw [queue]
    exact (List.sublist_cons_self queued rest).filterMap _
  refine ⟨maps.sound sound shorter sound.listening, ?_⟩
  have attached := maps.attached_pop sound good.attached (fun _ _ => id) queue rfl
  constructor
  · intro after other head handle member tagged waiting
    rw [queue] at head
    obtain rfl := Option.some.inj head
    obtain ⟨i, there⟩ := mem_iff_entry.1 member
    exact attached.1 after.attached i handle there tagged waiting waiting
  · intro guard
    refine ⟨maps.oneStream good.one, maps.serves_iff.2 fun i handle there =>
      good.serves handle (mem_iff_entry.2 ⟨i, there⟩), attached.2 ?_⟩
    intro i handle there tagged waiting
    exact absurd waiting (guard queued (by rw [queue]; rfl) handle (mem_iff_entry.2 ⟨i, there⟩)
      tagged)

theorem closeWritten_spec (net : Smoltcp ι σ ω) (handle : Handle σ) :
    (Worker.closeWritten net handle).stream = handle.stream ∧
      (Worker.closeWritten net handle).socketDropped = handle.socketDropped ∧
      (Worker.closeWritten net handle).connected = handle.connected ∧
      (net.tuple (Worker.closeWritten net handle).socket = none ∨
        net.tuple (Worker.closeWritten net handle).socket = net.tuple handle.socket) := by
  unfold Worker.closeWritten
  split_ifs
  · exact ⟨rfl, rfl, rfl, net.close_tuple handle.socket⟩
  · exact ⟨rfl, rfl, rfl, .inr rfl⟩

/-- A socket is kept if its stream is not finished and it is active. -/
theorem pruneHandle_some {handle kept : Handle σ} :
    Worker.pruneHandle net handle = some kept ↔ handle.socketDropped = false ∧
      net.isActive (Worker.closeWritten net handle).socket = true ∧
      kept = Worker.closeWritten net handle := by
  unfold Worker.pruneHandle
  dsimp only
  split_ifs with dropped active
  · simp [dropped]
  · rw [Option.some_inj]
    exact ⟨fun same => ⟨Bool.eq_false_iff.2 dropped, active, same.symm⟩, fun h => h.2.2.symm⟩
  · simp [active]

theorem prune_entry {i : ℕ} {kept : Handle σ}
    (there : entry (w.pruneSockets net).sockets i = some kept) :
    ∃ handle, entry w.sockets i = some handle ∧ handle.socketDropped = false ∧
      net.isActive (Worker.closeWritten net handle).socket = true ∧
      kept = Worker.closeWritten net handle := by
  change entry (sweep _ w.sockets) i = some kept at there
  rw [entry_sweep] at there
  obtain ⟨handle, here, pruned⟩ := Option.bind_eq_some_iff.1 there
  exact ⟨handle, here, pruneHandle_some.1 pruned⟩

theorem prune_finished {n : ℕ} : n ∈ (w.pruneSockets net).finished ↔ n ∈ w.finished ∨
    ∃ i handle, entry w.sockets i = some handle ∧ Worker.isFinished net handle = true ∧
      handle.stream = n := by
  change n ∈ w.finished ++ w.sockets.filterMap _ ↔ _
  rw [List.mem_append, List.mem_filterMap]
  refine or_congr_right ⟨?_, ?_⟩
  · rintro ⟨slot, member, made⟩
    obtain ⟨handle, kept, rfl⟩ := Option.map_eq_some_iff.1 made
    obtain ⟨rfl, isOver⟩ := Option.filter_eq_some_iff.1 kept
    obtain ⟨i, there⟩ := mem_iff_entry.1 member
    exact ⟨i, handle, there, isOver, rfl⟩
  · rintro ⟨i, handle, there, isOver, rfl⟩
    exact ⟨some handle, mem_iff_entry.2 ⟨i, there⟩, by simp [Option.filter_some, isOver]⟩

theorem isFinished_iff {handle : Handle σ} : Worker.isFinished net handle = true ↔
    handle.socketDropped = true ∨ handle.connected = true ∧
      net.isActive (Worker.closeWritten net handle).socket = false := by
  simp [Worker.isFinished]

theorem prune_sound (sound : Sound net w) : Sound net (w.pruneSockets net) where
  numbered i kept there := by
    obtain ⟨handle, here, _, _, rfl⟩ := prune_entry there
    rw [(closeWritten_spec net handle).1]
    exact sound.numbered i handle here
  alone i j kept other there there' same := by
    obtain ⟨handle, here, _, _, rfl⟩ := prune_entry there
    obtain ⟨handle', here', _, _, rfl⟩ := prune_entry there'
    rw [(closeWritten_spec net handle).1, (closeWritten_spec net handle').1] at same
    exact sound.alone i j handle handle' here here' same
  finished n isOver i kept there := by
    obtain ⟨handle, here, undropped, active, rfl⟩ := prune_entry there
    rw [(closeWritten_spec net handle).1]
    obtain before | ⟨j, gone, here', finished, rfl⟩ := prune_finished.1 isOver
    · exact sound.finished n before i handle here
    · intro same
      obtain rfl := sound.alone i j handle gone here here' same
      obtain rfl := Option.some.inj (here.symm.trans here')
      obtain dropped | ⟨_, inactive⟩ := isFinished_iff.1 finished
      · cases dropped.symm.trans undropped
      · cases active.symm.trans inactive
  known n there := by
    obtain isOver | awaits := there
    · obtain before | ⟨j, gone, here, _, rfl⟩ := prune_finished.1 isOver
      · exact sound.known n (.inl before)
      · exact sound.numbered j gone here
    · exact sound.known n (.inr awaits)
  once := sound.once
  listening i kept there unconnected := by
    obtain ⟨handle, here, _, _, rfl⟩ := prune_entry there
    obtain ⟨_, _, connected, tuple⟩ := closeWritten_spec net handle
    have before := sound.listening i handle here (connected ▸ unconnected)
    exact tuple.elim id fun same => same.trans before

/-- Pruning takes the socket of a stream away that still waits for its SYN. -/
theorem prune_attached (sound : Sound net w) (attached : Attached w) :
    Attached (w.pruneSockets net) ↔ ∀ handle, some handle ∈ w.sockets → ¬ Waiting handle := by
  constructor
  · intro after handle member waiting
    obtain ⟨i, there⟩ := mem_iff_entry.1 member
    obtain isOver | ⟨kept, member', same, _⟩ :=
      after handle.stream (sound.numbered i handle there)
    · obtain before | ⟨j, gone, here, finished, same⟩ := prune_finished.1 isOver
      · exact sound.finished _ before i handle there rfl
      · obtain rfl := sound.alone j i gone handle here there same
        obtain rfl := Option.some.inj (there.symm.trans here)
        obtain dropped | ⟨connected, _⟩ := isFinished_iff.1 finished
        · cases dropped.symm.trans waiting.1
        · cases connected.symm.trans waiting.2
    · obtain ⟨j, there'⟩ := mem_iff_entry.1 member'
      obtain ⟨old, here, _, active, rfl⟩ := prune_entry there'
      obtain ⟨stream, _, _, tuple⟩ := closeWritten_spec net old
      obtain rfl := sound.alone j i old handle here there (stream.symm.trans same)
      obtain rfl := Option.some.inj (there.symm.trans here)
      have listening := sound.listening _ _ there waiting.2
      have none : net.tuple (Worker.closeWritten net handle).socket = none :=
        tuple.elim id fun same => same.trans listening
      cases active.symm.trans (net.listening_inactive _ none)
  · intro busy n bound
    obtain isOver | ⟨handle, member, rfl, _⟩ := attached n bound
    · exact .inl (prune_finished.2 (.inl isOver))
    · obtain ⟨i, there⟩ := mem_iff_entry.1 member
      by_cases finished : Worker.isFinished net handle = true
      · exact .inl (prune_finished.2 (.inr ⟨i, handle, there, finished, rfl⟩))
      · rw [isFinished_iff, not_or, not_and, Bool.not_eq_true, Bool.not_eq_false] at finished
        have connected : handle.connected = true :=
          Bool.eq_true_of_not_eq_false fun h => busy handle member ⟨finished.1, h⟩
        obtain ⟨stream, _, same, _⟩ := closeWritten_spec net handle
        have kept : entry (w.pruneSockets net).sockets i =
            some (Worker.closeWritten net handle) := by
          change entry (sweep _ w.sockets) i = _
          rw [entry_sweep, there]
          exact pruneHandle_some.2 ⟨finished.1, finished.2 connected, rfl⟩
        exact .inr ⟨_, mem_iff_entry.2 ⟨i, kept⟩, stream, .inr (.inl (same.trans connected))⟩

theorem prune_good (sound : Sound net w) (good : Good net w) :
    Good net (w.pruneSockets net) ↔ ∀ handle, some handle ∈ w.sockets → ¬ Waiting handle := by
  rw [← prune_attached sound good.attached]
  refine ⟨Good.attached, fun attached => ⟨fun kept member pair => ?_, fun kept member pair => ?_,
    attached⟩⟩
  · obtain ⟨i, there⟩ := mem_iff_entry.1 member
    obtain ⟨handle, here, _, _, rfl⟩ := prune_entry there
    rw [(closeWritten_spec net handle).1]
    exact good.one handle (mem_iff_entry.2 ⟨i, here⟩) pair
  · obtain ⟨i, there⟩ := mem_iff_entry.1 member
    obtain ⟨handle, here, _, _, rfl⟩ := prune_entry there
    obtain ⟨stream, _, _, none | same⟩ := closeWritten_spec net handle
    · intro connected
      cases none.symm.trans connected
    · rw [same, stream]
      exact good.serves handle (mem_iff_entry.2 ⟨i, here⟩) pair

/-! ## Every run -/

theorem advance_good (sound : Sound net w) (good : Good net w)
    (step : workerStep wire tcp net channelSize w .advance = some v) :
    Sound net v ∧ (Good net v ↔ Guarded wire tcp net channelSize w .advance) := by
  have moved : ∀ stage, Sound net { w with stage := stage } ∧ Good net { w with stage := stage } :=
    fun _ => good_of_same sound good rfl rfl rfl rfl
  have other : w.stage ≠ .handling →
      Guarded wire tcp net channelSize w (.advance : Event ω) := fun elsewhere here =>
    absurd here elsewhere
  simp only [workerStep] at step
  split at step
  · rename_i here
    obtain rfl := Option.some.inj step
    exact ⟨(moved _).1, iff_of_true (moved _).2 (other (by simp [here]))⟩
  · rename_i here
    obtain rfl := Option.some.inj step
    have pruned := prune_sound sound
    have sound' : Sound net { w.pruneSockets net with stage := .pollingAgain } :=
      ⟨pruned.numbered, pruned.alone, pruned.finished, pruned.known, pruned.once, pruned.listening⟩
    refine ⟨sound', fun after _ => ?_, fun guard => ?_⟩
    · have before : Good net (w.pruneSockets net) := ⟨after.one, after.serves, after.attached⟩
      exact (prune_good sound good).1 before
    · have before := (prune_good sound good).2 (guard here)
      exact ⟨before.one, before.serves, before.attached⟩
  · rename_i here
    split_ifs at step
    obtain rfl := Option.some.inj step
    exact ⟨(moved _).1, iff_of_true (moved _).2 (other (by simp [here]))⟩
  · rename_i here
    split_ifs at step
    obtain rfl := Option.some.inj step
    exact ⟨(moved _).1, iff_of_true (moved _).2 (other (by simp [here]))⟩

theorem workerStep_good {e : Event ω} (sound : Sound net w) (good : Good net w)
    (step : workerStep wire tcp net channelSize w e = some v) :
    Sound net v ∧ (Good net v ↔ Guarded wire tcp net channelSize w e) := by
  have free : Sound net v ∧ Good net v → Sound net v ∧ (Good net v ↔ True) :=
    fun kept => ⟨kept.1, iff_of_true kept.2 trivial⟩
  cases e with
  | frame frame ready =>
    simp only [workerStep] at step
    split_ifs at step
    obtain rfl := Option.some.inj step
    exact processInboundFrame_good sound good frame ready
  | deliver =>
    simp only [workerStep] at step
    split at step
    · rename_i queued rest queue
      split_ifs at step
      obtain rfl := Option.some.inj step
      exact deliver_good sound good queue
    · cases step
  | discard =>
    simp only [workerStep] at step
    split at step
    · rename_i queued rest queue
      split_ifs at step
      obtain rfl := Option.some.inj step
      exact discard_good sound good queue _
    · cases step
  | own i o =>
    simp only [workerStep] at step
    split_ifs at step
    obtain rfl := Option.some.inj step
    exact free (good_of_update sound good i (fun _ => rfl)
      (fun handle waiting => ⟨waiting.1, (Bool.or_eq_false_iff.1 waiting.2).1⟩)
      (fun handle unconnected => (Bool.or_eq_false_iff.1 unconnected).1)
      fun handle => net.own_tuple o handle.socket)
  | dropStream i =>
    obtain rfl := Option.some.inj step
    exact free (good_of_update sound good i (fun _ => rfl) (fun _ waiting => by cases waiting.1)
      (fun _ => id) fun _ => .inr rfl)
  | finishWrite i =>
    obtain rfl := Option.some.inj step
    exact free (good_of_update sound good i (fun _ => rfl) (fun _ => id) (fun _ => id)
      fun _ => .inr rfl)
  | advance => exact advance_good sound good step

theorem entry_nil {α : Type} (i : ℕ) : entry ([] : List (Option α)) i = none := rfl

/-- A worker keeps to one stream for each socket, to the sockets' own streams, and to a socket for
each stream, exactly if all its steps are guarded. -/
theorem one_stream_iff (wire : Wire) (tcp : TcpWire) (net : Smoltcp ι σ ω) (channelSize : ℕ)
    (es : List (Event ω)) :
    (∀ w, Visits (workerSystem wire tcp net channelSize) es w →
      OneStream w ∧ Serves net w ∧ Attached w) ↔
      ∀ w e v, Takes (workerSystem wire tcp net channelSize) es w e v →
        Guarded wire tcp net channelSize w e := by
  have sound : Sound net (.new net) := by
    refine ⟨fun i handle there => ?_, fun i _ handle _ there => ?_, fun n isOver => ?_,
      fun n there => ?_, List.nodup_nil, fun i handle there => ?_⟩
    · cases (entry_nil i).symm.trans there
    · cases (entry_nil i).symm.trans there
    · cases isOver
    · rcases there with isOver | awaits
      · cases isOver
      · cases awaits
    · cases (entry_nil i).symm.trans there
  have good : Good net (.new net) := by
    refine ⟨fun handle member => ?_, fun handle member => ?_, fun n bound => ?_⟩
    · cases member
    · cases member
    · cases bound
  have parts : (∀ w, Visits (workerSystem wire tcp net channelSize) es w →
      OneStream w ∧ Serves net w ∧ Attached w) ↔
      ∀ w, Visits (workerSystem wire tcp net channelSize) es w → Good net w :=
    forall₂_congr fun w _ => ⟨fun h => ⟨h.1, h.2.1, h.2.2⟩, fun h => ⟨h.1, h.2, h.3⟩⟩
  rw [parts]
  refine safe_iff_guarded (I := fun w => Sound net w ∧ Good net w) (G := Good net)
    ⟨sound, good⟩ good ?_ ?_
  · intro w e v inv guard step
    obtain ⟨sound', good_iff⟩ := workerStep_good inv.1 inv.2 step
    exact ⟨sound', good_iff.2 guard⟩
  · intro w e v inv good step
    exact (workerStep_good inv.1 good step).2

end Property

section Retransmission

/-- The fields of a TCP header where the wire format puts them. -/
def headerTcp : TcpWire where
  payload
    | .ipv4 packet => packet.drop (headerWire.ipv4HeaderLen packet)
    | .ipv6 packet => packet.drop 40
  check t :=
    let headerLen := byteAt t 12 / 16 * 4
    decide (20 ≤ headerLen ∧ headerLen ≤ t.length)
  syn t := byteAt t 13 / 2 % 2 = 1
  ack t := byteAt t 13 / 16 % 2 = 1
  srcPort t := (bigEndian t 0 2).toUInt16
  dstPort t := (bigEndian t 2 2).toUInt16

inductive TcpSocket where
  | closed
  | listening (endpoint : SocketAddr)
  | connected (pair : Pair)
  deriving DecidableEq

def segmentOf (frame : Bytes) : Option Segment :=
  match IpPacket.newChecked headerWire frame with
  | none => none
  | some ipPacket =>
    let packet := headerTcp.payload ipPacket
    if ipPacket.protocol headerWire = .tcp ∧ headerTcp.check packet = true then
      some ⟨⟨.new (ipPacket.srcAddr headerWire) (headerTcp.srcPort packet),
        .new (ipPacket.dstAddr headerWire) (headerTcp.dstPort packet)⟩, packet⟩
    else none

/-- Sockets that connect on a SYN and stay so until they are reset. -/
def plainSmoltcp : Smoltcp Unit TcpSocket Unit where
  iface := ()
  ingress _ frame := ((), segmentOf frame)
  listen d := if d.port = 0 then none else some (.listening d)
  accepts
    | .closed, _ => false
    | .listening d, x => x.pair.dstAddr = d && !headerTcp.ack x.packet
    | .connected p, x => x.pair = p
  connects _ x := headerTcp.syn x.packet
  process
    | .closed, _ => .closed
    | .listening d, x => if headerTcp.syn x.packet then .connected x.pair else .listening d
    | .connected p, x => if byteAt x.packet 13 / 4 % 2 = 1 then .closed else .connected p
  own _ k := k
  close
    | .connected p => .connected p
    | _ => .closed
  isActive
    | .connected _ => true
    | _ => false
  tuple
    | .connected p => some p
    | _ => none
  listen_tuple := by
    intro d k listens
    split_ifs at listens
    obtain rfl := Option.some.inj listens
    rfl
  process_tuple := by
    intro k x p _ connected
    cases k with
    | connected q =>
      dsimp only
      split_ifs
      · exact .inl rfl
      · exact .inr connected
    | _ => cases connected
  process_listening := by
    intro k x accepted free
    cases k with
    | closed => cases accepted
    | listening d =>
      dsimp only
      split_ifs <;> rfl
    | connected p => cases free
  own_tuple _ _ := .inr rfl
  close_tuple := by
    intro k
    cases k with
    | connected p => exact .inr rfl
    | _ => exact .inl rfl
  listening_inactive := by
    intro k free
    cases k with
    | connected p => cases free
    | _ => rfl

/-- A SYN from 10.0.0.`host`:1000 to 1.1.1.1:80; both checksums fall as the address grows. -/
def synFrame (host : UInt8) : Bytes :=
  [0x45, 0, 0, 40, 0, 0, 0, 0, 64, 6, 0x6E, 0xCF - host, 10, 0, 0, host, 1, 1, 1, 1] ++
    [0x03, 0xE8, 0, 80, 0, 0, 0, 0, 0, 0, 0, 0, 0x50, 2, 0, 0, 0x9F, 0xA9 - host, 0, 0]

def webPair (host : UInt8) : Pair :=
  ⟨.v4 ⟨⟨0x0A000000 + host.toUInt32⟩, 1000⟩, .v4 ⟨⟨0x01010101⟩, 80⟩⟩

/-- The first host's SYN is repeated once its socket is connected, and the second host's comes
before the next poll. -/
def retransmitted : List (Event Unit) :=
  [.frame (synFrame 1) true, .advance, .deliver, .advance, .advance, .advance,
    .frame (synFrame 1) true, .frame (synFrame 2) true, .advance, .deliver, .deliver]

/-- The first host's connection has a second stream, whose socket serves the second host. -/
theorem second_stream_emitted :
    ∃ w, Visits (workerSystem headerWire headerTcp plainSmoltcp 16) retransmitted w ∧
      ¬ OneStream w ∧ ¬ Serves plainSmoltcp w := by
  have ran : ∃ w, exec (workerSystem headerWire headerTcp plainSmoltcp 16) retransmitted = some w ∧
      w.emitted = [webPair 1, webPair 1, webPair 2] ∧
      w.sockets[0]? = some (some ⟨.connected (webPair 1), 0, false, false, true⟩) ∧
      w.sockets[1]? = some (some ⟨.connected (webPair 2), 1, false, false, true⟩) :=
    ⟨_, rfl, rfl, rfl, rfl⟩
  obtain ⟨w, run, emitted, first, second⟩ := ran
  refine ⟨w, (runs_of_exec run).visits, fun one => ?_, fun serves => ?_⟩
  · have once := one _ (List.mem_of_getElem? first) (webPair 1) (by rw [emitted]; rfl)
    rw [emitted] at once
    exact absurd once (by decide)
  · have own := serves _ (List.mem_of_getElem? second) (webPair 2) rfl
    rw [emitted] at own
    exact absurd own (by decide)

end Retransmission
end Ombrac.NetstackAccept
