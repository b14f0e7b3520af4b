import Mathlib.Algebra.BigOperators.Group.List.Basic
import Ombrac.LabelledSystem
import Ombrac.ServerStream

set_option autoImplicit false

/-!
# The server's byte counters

The task of a stream adds to them once `handle_connect` has returned, and the eviction listener
once for each UDP session. The handlers of a session's packets hold on to it and go on after its
eviction; its downstream loop is aborted and stops when it next yields.
-/
namespace Ombrac.ServerAccounting
open LabelledSystem ProtocolPacket ProtocolMessage BinaryFormat LengthDelimited TunTcpRelay
  CopyBidirectional ServerStream

/-! ## Sums that a counter follows -/

section Totals
variable {α : Type*}

def total (owed : α → ℕ) (parties : List α) : ℕ := (parties.map owed).sum

@[simp] theorem total_nil (owed : α → ℕ) : total owed [] = 0 := rfl

theorem total_append (owed : α → ℕ) (parties : List α) (a : α) :
    total owed (parties ++ [a]) = total owed parties + owed a := by
  simp [total]

theorem total_set (owed : α → ℕ) {parties : List α} {i : ℕ} {a : α} (here : parties[i]? = some a)
    (b : α) : total owed (parties.set i b) + owed a = total owed parties + owed b := by
  induction parties generalizing i with
  | nil => cases here
  | cons x parties ih =>
    cases i with
    | zero =>
      obtain rfl := Option.some.inj here
      simp only [total, List.set_cons_zero, List.map_cons, List.sum_cons]
      omega
    | succ i =>
      have tail := ih here
      simp only [total, List.set_cons_succ, List.map_cons, List.sum_cons] at tail ⊢
      omega

/-- One party's sum goes from `x` to `y` and the counter by `posted`: it stays exact if and only
if that is the difference. -/
theorem exact_iff {counter posted : UInt64} {before after x y : ℕ}
    (exact_before : counter = UInt64.ofNat before) (moved : after + x = before + y) :
    counter + posted = UInt64.ofNat after ↔ UInt64.ofNat x + posted = UInt64.ofNat y := by
  have same : UInt64.ofNat after + UInt64.ofNat x = UInt64.ofNat before + UInt64.ofNat y := by
    rw [← UInt64.ofNat_add, ← UInt64.ofNat_add, moved]
  rw [← UInt64.add_left_inj (UInt64.ofNat x), same, exact_before, UInt64.add_assoc,
    UInt64.add_right_inj, UInt64.add_comm posted]

theorem grown_iff (x n : ℕ) :
    UInt64.ofNat x + 0 = UInt64.ofNat (x + n) ↔ UInt64.ofNat n = 0 := by
  rw [UInt64.ofNat_add, UInt64.add_right_inj, eq_comm]

theorem overcounted_iff (x n : ℕ) :
    UInt64.ofNat 0 + UInt64.ofNat (x + n) = UInt64.ofNat x ↔ UInt64.ofNat n = 0 := by
  change 0 + _ = _ ↔ _
  rw [UInt64.zero_add, ← grown_iff x n, UInt64.add_zero, eq_comm]

end Totals

/-! ## The tasks and the sessions -/

structure StreamTask (decoder : FrameDecoder maxControlFrameLength) where
  stream : StreamTunnel decoder
  recorded : Bool

inductive Handler where
  | spawned (data : Bytes)
  | counted (data : Bytes)
  | finished

inductive Downstream where
  | waiting
  | received (data : Bytes)
  | sending (data : Bytes)
  | aborted

/-- `toDestination` and `toClient` are histories of the payloads sent; `failedUp` and `failedDown`
add up the bytes that were counted and then not sent. The eviction listener adds `upstreamBytes`
when it evicts the session and then `downstreamBytes` when it is `closed`. -/
structure DatagramSession where
  upstreamBytes : UInt64
  downstreamBytes : UInt64
  handlers : List Handler
  downstream : Downstream
  toDestination : Bytes
  toClient : Bytes
  failedUp : ℕ
  failedDown : ℕ
  evicted : Bool
  closed : Bool

inductive SessionEvent where
  | packet (data : Bytes)
  | count (j : ℕ)
  | deliver (j : ℕ) (sent : Bool)
  | receive (data : Bytes)
  | countDown
  | sendDown (sent : Bool)
  | abort

namespace DatagramSession

def new : DatagramSession where
  upstreamBytes := 0
  downstreamBytes := 0
  handlers := []
  downstream := .waiting
  toDestination := []
  toClient := []
  failedUp := 0
  failedDown := 0
  evicted := false
  closed := false

/-- A handler counts its datagram before it looks the destination up and sends. -/
def step (s : DatagramSession) : SessionEvent → Option DatagramSession
  | .packet data => some { s with handlers := s.handlers ++ [.spawned data] }
  | .count j =>
    match s.handlers[j]? with
    | some (.spawned data) => some { s with
        handlers := s.handlers.set j (.counted data)
        upstreamBytes := s.upstreamBytes + UInt64.ofNat data.length }
    | _ => none
  | .deliver j sent =>
    match s.handlers[j]? with
    | some (.counted data) =>
      if sent then some { s with
        handlers := s.handlers.set j .finished
        toDestination := s.toDestination ++ data }
      else some { s with
        handlers := s.handlers.set j .finished
        failedUp := s.failedUp + data.length }
    | _ => none
  | .receive data =>
    match s.downstream with
    | .waiting => some { s with downstream := .received data }
    | _ => none
  | .countDown =>
    match s.downstream with
    | .received data => some { s with
        downstream := .sending data
        downstreamBytes := s.downstreamBytes + UInt64.ofNat data.length }
    | _ => none
  | .sendDown sent =>
    match s.downstream with
    | .sending data =>
      if sent then some { s with downstream := .waiting, toClient := s.toClient ++ data }
      else some { s with downstream := .waiting, failedDown := s.failedDown + data.length }
    | _ => none
  | .abort =>
    match s.evicted, s.downstream with
    | true, .waiting => some { s with downstream := .aborted }
    | true, .sending data => some { s with
        downstream := .aborted
        failedDown := s.failedDown + data.length }
    | _, _ => none

end DatagramSession

/-! ## The counters -/

structure Server (decoder : FrameDecoder maxControlFrameLength) where
  streams : List (StreamTask decoder)
  sessions : List DatagramSession
  bytesRx : UInt64
  bytesTx : UInt64

inductive Event where
  | accept
  | stream (i : ℕ) (e : ServerStream.Event)
  | record (i : ℕ)
  | openSession
  | session (i : ℕ) (e : SessionEvent)
  | evict (i : ℕ)
  | close (i : ℕ)

section Server
variable {decoder : FrameDecoder maxControlFrameLength}

def Server.new : Server decoder := ⟨[], [], 0, 0⟩

def Server.addStats (s : Server decoder) (stream : StreamTunnel decoder) : Server decoder :=
  match stream.stats with
  | none => s
  | some stats => { s with
      bytesRx := s.bytesRx + UInt64.ofNat stats.bToABytes
      bytesTx := s.bytesTx +
        (UInt64.ofNat stats.aToBBytes + UInt64.ofNat stream.initialUpstreamBytes) }

def Server.step (display : Fault → String) (s : Server decoder) : Event → Option (Server decoder)
  | .accept => some { s with streams := s.streams ++ [⟨.new, false⟩] }
  | .stream i e =>
    match s.streams[i]? with
    | some ⟨stream, false⟩ => (stream.step display e).map fun stream =>
        { s with streams := s.streams.set i ⟨stream, false⟩ }
    | _ => none
  | .record i =>
    match s.streams[i]? with
    | some ⟨stream, false⟩ =>
      if stream.hasReturned then
        some ({ s with streams := s.streams.set i ⟨stream, true⟩ }.addStats stream)
      else none
    | _ => none
  | .openSession => some { s with sessions := s.sessions ++ [.new] }
  | .session i e =>
    (s.sessions[i]?).bind fun session => (session.step e).map fun session =>
      { s with sessions := s.sessions.set i session }
  | .evict i =>
    (s.sessions[i]?).bind fun session =>
      if session.evicted then none
      else some { s with
        sessions := s.sessions.set i { session with evicted := true }
        bytesRx := s.bytesRx + session.upstreamBytes }
  | .close i =>
    (s.sessions[i]?).bind fun session =>
      if session.evicted ∧ ¬session.closed then some { s with
        sessions := s.sessions.set i { session with closed := true }
        bytesTx := s.bytesTx + session.downstreamBytes }
      else none

def serverSystem (display : Fault → String) (decoder : FrameDecoder maxControlFrameLength) :
    System (Server decoder) Event := ⟨.new, Server.step display⟩

end Server

/-! ## What the counters should show -/

def StreamTask.up {decoder : FrameDecoder maxControlFrameLength} (t : StreamTask decoder) : ℕ :=
  if t.recorded then t.stream.toDestination.length else 0

def StreamTask.down {decoder : FrameDecoder maxControlFrameLength} (t : StreamTask decoder) : ℕ :=
  if t.recorded then t.stream.toClient.length else 0

def DatagramSession.up (s : DatagramSession) : ℕ := if s.evicted then s.toDestination.length else 0

def DatagramSession.down (s : DatagramSession) : ℕ := if s.closed then s.toClient.length else 0

/-- The counters, which wrap around, are exact for the streams that have ended and the sessions
that were evicted. -/
def Exact {decoder : FrameDecoder maxControlFrameLength} (s : Server decoder) : Prop :=
  s.bytesRx = UInt64.ofNat (total StreamTask.up s.streams + total DatagramSession.up s.sessions) ∧
    s.bytesTx =
      UInt64.ofNat (total StreamTask.down s.streams + total DatagramSession.down s.sessions)

/-! ## A session's own counters -/

def Handler.outstanding : Handler → ℕ
  | .counted data => data.length
  | .spawned _ | .finished => 0

def Downstream.outstanding : Downstream → ℕ
  | .sending data => data.length
  | .waiting | .received _ | .aborted => 0

namespace DatagramSession

def outstandingUp (s : DatagramSession) : ℕ := s.failedUp + total Handler.outstanding s.handlers

def outstandingDown (s : DatagramSession) : ℕ := s.failedDown + s.downstream.outstanding

structure Counted (s : DatagramSession) : Prop where
  up : s.upstreamBytes = UInt64.ofNat (s.toDestination.length + s.outstandingUp)
  down : s.downstreamBytes = UInt64.ofNat (s.toClient.length + s.outstandingDown)

section Steps
variable {s v : DatagramSession}

theorem counted_new : new.Counted := ⟨rfl, rfl⟩

def sentUp (s : DatagramSession) : SessionEvent → ℕ
  | .deliver j true =>
    match s.handlers[j]? with
    | some (.counted data) => data.length
    | _ => 0
  | _ => 0

def sentDown (s : DatagramSession) : SessionEvent → ℕ
  | .sendDown true =>
    match s.downstream with
    | .sending data => data.length
    | _ => 0
  | _ => 0

structure Moves (s : DatagramSession) (e : SessionEvent) (v : DatagramSession) (m n : ℕ) :
    Prop where
  evicted : v.evicted = s.evicted
  closed : v.closed = s.closed
  sentUp : v.toDestination.length = s.toDestination.length + s.sentUp e
  sentDown : v.toClient.length = s.toClient.length + s.sentDown e
  up : v.upstreamBytes = s.upstreamBytes + UInt64.ofNat m
  outUp : s.sentUp e + v.outstandingUp = s.outstandingUp + m
  down : v.downstreamBytes = s.downstreamBytes + UInt64.ofNat n
  outDown : s.sentDown e + v.outstandingDown = s.outstandingDown + n

theorem same_count (c : UInt64) : c = c + UInt64.ofNat 0 := (UInt64.add_zero c).symm

theorem count_moves {j : ℕ} (h : s.step (.count j) = some v) : ∃ m n, s.Moves (.count j) v m n := by
  simp only [DatagramSession.step] at h
  split at h
  · rename_i data spawned
    obtain rfl := Option.some.inj h
    have handlers := total_set Handler.outstanding spawned (.counted data)
    refine ⟨data.length, 0, rfl, rfl, rfl, rfl, rfl, ?_, same_count _, Nat.zero_add _⟩
    simp only [sentUp, outstandingUp, Handler.outstanding] at handlers ⊢
    omega
  · cases h

theorem deliver_moves {j : ℕ} {sent : Bool} (h : s.step (.deliver j sent) = some v) :
    ∃ m n, s.Moves (.deliver j sent) v m n := by
  simp only [DatagramSession.step] at h
  split at h
  · rename_i data counted
    have handlers := total_set Handler.outstanding counted .finished
    simp only [Handler.outstanding] at handlers
    cases sent with
    | true =>
      obtain rfl := Option.some.inj h
      refine ⟨0, 0, rfl, rfl, ?_, rfl, same_count _, ?_, same_count _, Nat.zero_add _⟩
      · simp only [sentUp, counted, List.length_append]
      · simp only [sentUp, counted, outstandingUp]
        omega
    | false =>
      obtain rfl := Option.some.inj h
      refine ⟨0, 0, rfl, rfl, rfl, rfl, same_count _, ?_, same_count _, Nat.zero_add _⟩
      simp only [sentUp, outstandingUp]
      omega
  · cases h

theorem receive_moves {data : Bytes} (h : s.step (.receive data) = some v) :
    ∃ m n, s.Moves (.receive data) v m n := by
  simp only [DatagramSession.step] at h
  split at h
  · rename_i waiting
    obtain rfl := Option.some.inj h
    refine ⟨0, 0, rfl, rfl, rfl, rfl, same_count _, Nat.zero_add _, same_count _, ?_⟩
    simp only [sentDown, outstandingDown, waiting, Downstream.outstanding]
    omega
  · cases h

theorem countDown_moves (h : s.step .countDown = some v) : ∃ m n, s.Moves .countDown v m n := by
  simp only [DatagramSession.step] at h
  split at h
  · rename_i data received
    obtain rfl := Option.some.inj h
    refine ⟨0, data.length, rfl, rfl, rfl, rfl, same_count _, Nat.zero_add _, rfl, ?_⟩
    simp only [sentDown, outstandingDown, received, Downstream.outstanding]
    omega
  · cases h

theorem sendDown_moves {sent : Bool} (h : s.step (.sendDown sent) = some v) :
    ∃ m n, s.Moves (.sendDown sent) v m n := by
  simp only [DatagramSession.step] at h
  split at h
  · rename_i data sending
    cases sent with
    | true =>
      obtain rfl := Option.some.inj h
      refine ⟨0, 0, rfl, rfl, rfl, ?_, same_count _, Nat.zero_add _, same_count _, ?_⟩
      · simp only [sentDown, sending, List.length_append]
      · simp only [sentDown, outstandingDown, sending, Downstream.outstanding]
        omega
    | false =>
      obtain rfl := Option.some.inj h
      refine ⟨0, 0, rfl, rfl, rfl, rfl, same_count _, Nat.zero_add _, same_count _, ?_⟩
      simp only [sentDown, outstandingDown, sending, Downstream.outstanding]
      omega
  · cases h

theorem abort_moves (h : s.step .abort = some v) : ∃ m n, s.Moves .abort v m n := by
  simp only [DatagramSession.step] at h
  split at h
  · rename_i waiting
    obtain rfl := Option.some.inj h
    refine ⟨0, 0, rfl, rfl, rfl, rfl, same_count _, Nat.zero_add _, same_count _, ?_⟩
    simp only [sentDown, outstandingDown, waiting, Downstream.outstanding]
    omega
  · rename_i data _ sending
    obtain rfl := Option.some.inj h
    refine ⟨0, 0, rfl, rfl, rfl, rfl, same_count _, Nat.zero_add _, same_count _, ?_⟩
    simp only [sentDown, outstandingDown, sending, Downstream.outstanding]
    omega
  · cases h

theorem step_moves {e : SessionEvent} (h : s.step e = some v) : ∃ m n, s.Moves e v m n := by
  cases e with
  | packet data =>
    obtain rfl := Option.some.inj h
    refine ⟨0, 0, rfl, rfl, rfl, rfl, same_count _, ?_, same_count _, Nat.zero_add _⟩
    simp only [sentUp, outstandingUp, total_append, Handler.outstanding]
    omega
  | count j => exact count_moves h
  | deliver j sent => exact deliver_moves h
  | receive data => exact receive_moves h
  | countDown => exact countDown_moves h
  | sendDown sent => exact sendDown_moves h
  | abort => exact abort_moves h

theorem Counted.step (inv : s.Counted) {e : SessionEvent} (h : s.step e = some v) :
    v.Counted := by
  obtain ⟨m, n, moves⟩ := step_moves h
  refine ⟨?_, ?_⟩
  · rw [moves.up, inv.up, moves.sentUp, Nat.add_assoc, moves.outUp, ← Nat.add_assoc,
      UInt64.ofNat_add _ m]
  · rw [moves.down, inv.down, moves.sentDown, Nat.add_assoc, moves.outDown, ← Nat.add_assoc,
      UInt64.ofNat_add _ n]

/-- Nothing is sent for the session once its counters have been added. -/
def Timely (s : DatagramSession) (e : SessionEvent) : Prop :=
  (s.evicted = true → UInt64.ofNat (s.sentUp e) = 0) ∧
    (s.closed = true → UInt64.ofNat (s.sentDown e) = 0)

theorem timely_iff {e : SessionEvent} (h : s.step e = some v) :
    (UInt64.ofNat s.up + 0 = UInt64.ofNat v.up ∧ UInt64.ofNat s.down + 0 = UInt64.ofNat v.down) ↔
      s.Timely e := by
  obtain ⟨m, n, moves⟩ := step_moves h
  unfold DatagramSession.up DatagramSession.down Timely
  rw [moves.evicted, moves.closed, moves.sentUp, moves.sentDown]
  refine and_congr ?_ ?_
  · by_cases gone : s.evicted = true
    · simp only [gone, if_true, forall_const]
      exact grown_iff _ _
    · simp [gone]
  · by_cases gone : s.closed = true
    · simp only [gone, if_true, forall_const]
      exact grown_iff _ _
    · simp [gone]

theorem Counted.evict_iff (inv : s.Counted) (present : s.evicted = false) :
    UInt64.ofNat s.up + s.upstreamBytes =
        UInt64.ofNat (DatagramSession.up { s with evicted := true }) ↔
      UInt64.ofNat s.outstandingUp = 0 := by
  have before : s.up = 0 := by simp [DatagramSession.up, present]
  rw [before, inv.up]
  exact overcounted_iff _ _

theorem Counted.close_iff (inv : s.Counted) (present : s.closed = false) :
    UInt64.ofNat s.down + s.downstreamBytes =
        UInt64.ofNat (DatagramSession.down { s with closed := true }) ↔
      UInt64.ofNat s.outstandingDown = 0 := by
  have before : s.down = 0 := by simp [DatagramSession.down, present]
  rw [before, inv.down]
  exact overcounted_iff _ _

end Steps
end DatagramSession

/-! ## Streams -/

/-- What the writer of a direction accepted of a chunk that was never finished. -/
def halfWritten (c : Copying) (d : Direction) : ℕ := (c.written d).length - (c.copies d).copied

/-- The stream has ended without a byte sent either way, or out of the copy with every chunk whole
and as many bytes sent up as down. -/
def EvenlyCounted {decoder : FrameDecoder maxControlFrameLength} (s : StreamTunnel decoder) : Prop :=
  match s.stats with
  | none => UInt64.ofNat s.toDestination.length = 0 ∧ UInt64.ofNat s.toClient.length = 0
  | some _ => halfWritten s.relay .aToB = 0 ∧ halfWritten s.relay .bToA = 0 ∧
      UInt64.ofNat s.toDestination.length = UInt64.ofNat s.toClient.length

theorem ofNat_eq_zero {n : ℕ} (small : n < 2 ^ 64) : UInt64.ofNat n = 0 ↔ n = 0 := by
  rw [← UInt64.toNat_inj, UInt64.toNat_ofNat', Nat.mod_eq_of_lt small]
  rfl

section Streams
variable {display : Fault → String} {decoder : FrameDecoder maxControlFrameLength}
  {s : StreamTunnel decoder}

/-- The counters get the bytes of the wrong direction, so both are right only if the directions
carried the same. -/
theorem record_stats_iff (inv : s.Invariant display) {stats : CopyBidirectionalStats}
    (counted : s.stats = some stats) :
    (UInt64.ofNat stats.bToABytes = UInt64.ofNat s.toDestination.length ∧
      UInt64.ofNat stats.aToBBytes + UInt64.ofNat s.initialUpstreamBytes =
        UInt64.ofNat s.toClient.length) ↔ EvenlyCounted s := by
  obtain ⟨initial, rfl⟩ := inv.stats_eq counted
  have up := (inv.faithful .aToB).counted
  have down := (inv.faithful .bToA).counted
  have toDestination : s.toDestination.length =
      (s.relay.copies .aToB).copied + s.initialUpstreamBytes + halfWritten s.relay .aToB := by
    unfold StreamTunnel.toDestination halfWritten
    rw [List.length_append]
    omega
  have toClient : s.toClient.length =
      (s.relay.copies .bToA).copied + halfWritten s.relay .bToA := by
    unfold StreamTunnel.toClient halfWritten
    omega
  have small : halfWritten s.relay .aToB + halfWritten s.relay .bToA < 2 ^ 64 := by
    unfold halfWritten
    unfold defaultBufSize at up down
    omega
  unfold EvenlyCounted
  rw [counted, ← UInt64.ofNat_add]
  simp only [Copying.stats, toDestination, toClient]
  generalize halfWritten s.relay .aToB = h at *
  generalize halfWritten s.relay .bToA = k at *
  constructor
  · rintro ⟨rx, tx⟩
    have none : UInt64.ofNat (h + k) = 0 := by
      rw [← grown_iff ((s.relay.copies .aToB).copied + s.initialUpstreamBytes), UInt64.add_zero,
        ← Nat.add_assoc, UInt64.ofNat_add _ k, ← rx, ← UInt64.ofNat_add]
      exact tx
    obtain ⟨rfl, rfl⟩ : h = 0 ∧ k = 0 := Nat.add_eq_zero_iff.1 ((ofNat_eq_zero small).1 none)
    exact ⟨rfl, rfl, tx⟩
  · rintro ⟨rfl, rfl, even⟩
    exact ⟨even.symm, even⟩

end Streams

/-! ## The server -/

def Accountable {decoder : FrameDecoder maxControlFrameLength} (s : Server decoder) : Event → Prop
  | .record i => ∀ t ∈ s.streams[i]?, EvenlyCounted t.stream
  | .session i e => ∀ x ∈ s.sessions[i]?, x.Timely e
  | .evict i => ∀ x ∈ s.sessions[i]?, UInt64.ofNat x.outstandingUp = 0
  | .close i => ∀ x ∈ s.sessions[i]?, UInt64.ofNat x.outstandingDown = 0
  | .accept | .stream _ _ | .openSession => True

structure Invariant {decoder : FrameDecoder maxControlFrameLength} (display : Fault → String)
    (s : Server decoder) : Prop where
  streams : ∀ t ∈ s.streams, t.stream.Invariant display
  sessions : ∀ x ∈ s.sessions, x.Counted

section Steps
variable {display : Fault → String} {decoder : FrameDecoder maxControlFrameLength}
  {s v : Server decoder}

theorem forall_set {α : Type*} {p : α → Prop} {xs : List α} (all : ∀ x ∈ xs, p x) {a : α}
    (here : p a) (i : ℕ) : ∀ x ∈ xs.set i a, p x := by
  intro x mem
  obtain old | rfl := List.mem_or_eq_of_mem_set mem
  · exact all x old
  · exact here

theorem forall_append {α : Type*} {p : α → Prop} {xs : List α} (all : ∀ x ∈ xs, p x) {a : α}
    (here : p a) : ∀ x ∈ xs ++ [a], p x := by
  intro x mem
  obtain old | new := List.mem_append.1 mem
  · exact all x old
  · rw [List.mem_singleton.1 new]
    exact here

theorem forall_mem_some {α : Type*} {p : α → Prop} {a : α} : (∀ x ∈ some a, p x) ↔ p a := by
  simp only [Option.mem_def, Option.some.injEq, forall_eq']

theorem addStats_streams (s : Server decoder) (stream : StreamTunnel decoder) :
    (s.addStats stream).streams = s.streams ∧ (s.addStats stream).sessions = s.sessions := by
  unfold Server.addStats
  split <;> exact ⟨rfl, rfl⟩

theorem invariant_new : Invariant display (Server.new : Server decoder) :=
  ⟨fun _ none => absurd none List.not_mem_nil, fun _ none => absurd none List.not_mem_nil⟩

theorem exact_new : Exact (Server.new : Server decoder) := ⟨rfl, rfl⟩

theorem Invariant.step (inv : Invariant display s) {e : Event} (h : s.step display e = some v) :
    Invariant display v := by
  cases e with
  | accept =>
    obtain rfl := Option.some.inj h
    exact ⟨forall_append inv.streams .new, inv.sessions⟩
  | stream i e =>
    simp only [Server.step] at h
    split at h
    · rename_i stream here
      obtain ⟨stream', moved, rfl⟩ := Option.map_eq_some_iff.1 h
      have before := inv.streams _ (List.mem_of_getElem? here)
      exact ⟨forall_set inv.streams (before.step moved) i, inv.sessions⟩
    · cases h
  | record i =>
    simp only [Server.step] at h
    split at h
    · rename_i stream here
      split_ifs at h
      obtain rfl := Option.some.inj h
      have before := inv.streams _ (List.mem_of_getElem? here)
      obtain ⟨streams, sessions⟩ :=
        addStats_streams { s with streams := s.streams.set i ⟨stream, true⟩ } stream
      refine ⟨?_, ?_⟩
      · rw [streams]
        exact forall_set (a := ⟨stream, true⟩) inv.streams before i
      · rw [sessions]
        exact inv.sessions
    · cases h
  | openSession =>
    obtain rfl := Option.some.inj h
    exact ⟨inv.streams, forall_append inv.sessions DatagramSession.counted_new⟩
  | session i e =>
    obtain ⟨x, here, h⟩ := Option.bind_eq_some_iff.1 h
    obtain ⟨x', moved, rfl⟩ := Option.map_eq_some_iff.1 h
    have before := inv.sessions x (List.mem_of_getElem? here)
    exact ⟨inv.streams, forall_set inv.sessions (before.step moved) i⟩
  | evict i =>
    obtain ⟨x, here, h⟩ := Option.bind_eq_some_iff.1 h
    split_ifs at h
    obtain rfl := Option.some.inj h
    have before := inv.sessions x (List.mem_of_getElem? here)
    exact ⟨inv.streams, forall_set (a := { x with evicted := true }) inv.sessions
      ⟨before.up, before.down⟩ i⟩
  | close i =>
    obtain ⟨x, here, h⟩ := Option.bind_eq_some_iff.1 h
    split_ifs at h
    obtain rfl := Option.some.inj h
    have before := inv.sessions x (List.mem_of_getElem? here)
    exact ⟨inv.streams, forall_set (a := { x with closed := true }) inv.sessions
      ⟨before.up, before.down⟩ i⟩

/-- One stream's task moves and the counters grow by `rx` and `tx`. -/
theorem exact_stream_iff (exact_before : Exact s) {i : ℕ} {t : StreamTask decoder}
    (here : s.streams[i]? = some t) (t' : StreamTask decoder) (rx tx : UInt64) :
    Exact ⟨s.streams.set i t', s.sessions, s.bytesRx + rx, s.bytesTx + tx⟩ ↔
      UInt64.ofNat t.up + rx = UInt64.ofNat t'.up ∧
        UInt64.ofNat t.down + tx = UInt64.ofNat t'.down := by
  have up := total_set StreamTask.up here t'
  have down := total_set StreamTask.down here t'
  refine and_congr (exact_iff exact_before.1 ?_) (exact_iff exact_before.2 ?_)
  · dsimp only
    omega
  · dsimp only
    omega

theorem exact_session_iff (exact_before : Exact s) {i : ℕ} {x : DatagramSession}
    (here : s.sessions[i]? = some x) (x' : DatagramSession) (rx tx : UInt64) :
    Exact ⟨s.streams, s.sessions.set i x', s.bytesRx + rx, s.bytesTx + tx⟩ ↔
      UInt64.ofNat x.up + rx = UInt64.ofNat x'.up ∧
        UInt64.ofNat x.down + tx = UInt64.ofNat x'.down := by
  have up := total_set DatagramSession.up here x'
  have down := total_set DatagramSession.down here x'
  refine and_congr (exact_iff exact_before.1 ?_) (exact_iff exact_before.2 ?_)
  · dsimp only
    omega
  · dsimp only
    omega

theorem exact_record_iff (inv : Invariant display s) (exact_before : Exact s) {i : ℕ}
    {stream : StreamTunnel decoder} (here : s.streams[i]? = some ⟨stream, false⟩) :
    Exact ({ s with streams := s.streams.set i ⟨stream, true⟩ }.addStats stream) ↔
      EvenlyCounted stream := by
  have streamInv := inv.streams _ (List.mem_of_getElem? here)
  unfold Server.addStats
  cases counted : stream.stats with
  | none =>
    have spec := exact_stream_iff exact_before here ⟨stream, true⟩ 0 0
    rw [UInt64.add_zero, UInt64.add_zero] at spec
    refine spec.trans ?_
    simp only [StreamTask.up, StreamTask.down, if_true, Bool.false_eq_true, if_false,
      UInt64.add_zero, EvenlyCounted, counted]
    exact and_congr eq_comm eq_comm
  | some stats =>
    refine (exact_stream_iff exact_before here ⟨stream, true⟩ _ _).trans ?_
    refine Iff.trans ?_ (record_stats_iff streamInv counted)
    have zero : UInt64.ofNat 0 = 0 := rfl
    simp only [StreamTask.up, StreamTask.down, if_true, Bool.false_eq_true, if_false, zero,
      UInt64.zero_add]

theorem exact_step_iff (inv : Invariant display s) (exact_before : Exact s) {e : Event}
    (h : s.step display e = some v) : Exact v ↔ Accountable s e := by
  cases e with
  | accept =>
    obtain rfl := Option.some.inj h
    refine iff_of_true ?_ trivial
    unfold Exact
    simp only [total_append]
    exact exact_before
  | stream i e =>
    simp only [Server.step] at h
    split at h
    · rename_i stream here
      obtain ⟨stream', moved, rfl⟩ := Option.map_eq_some_iff.1 h
      refine iff_of_true ?_ trivial
      have spec := exact_stream_iff exact_before here ⟨stream', false⟩ 0 0
      simp only [UInt64.add_zero] at spec
      exact spec.2 ⟨rfl, rfl⟩
    · cases h
  | record i =>
    simp only [Server.step] at h
    split at h
    · rename_i stream here
      split_ifs at h
      obtain rfl := Option.some.inj h
      rw [exact_record_iff inv exact_before here, Accountable, here]
      exact (forall_mem_some (p := fun t : StreamTask decoder => EvenlyCounted t.stream)
        (a := ⟨stream, false⟩)).symm
    · cases h
  | openSession =>
    obtain rfl := Option.some.inj h
    refine iff_of_true ?_ trivial
    unfold Exact
    simp only [total_append]
    exact exact_before
  | session i e =>
    obtain ⟨x, here, h⟩ := Option.bind_eq_some_iff.1 h
    obtain ⟨x', moved, rfl⟩ := Option.map_eq_some_iff.1 h
    have spec := exact_session_iff exact_before here x' 0 0
    rw [UInt64.add_zero s.bytesRx, UInt64.add_zero s.bytesTx, DatagramSession.timely_iff moved]
      at spec
    rw [Accountable, here]
    exact spec.trans (forall_mem_some (p := fun x : DatagramSession => x.Timely e)).symm
  | evict i =>
    obtain ⟨x, here, h⟩ := Option.bind_eq_some_iff.1 h
    split_ifs at h with gone
    obtain rfl := Option.some.inj h
    have before := inv.sessions x (List.mem_of_getElem? here)
    have spec := exact_session_iff exact_before here { x with evicted := true } x.upstreamBytes 0
    rw [UInt64.add_zero s.bytesTx, before.evict_iff (by simpa using gone)] at spec
    rw [Accountable, here]
    refine (spec.trans ?_).trans forall_mem_some.symm
    exact and_iff_left (UInt64.add_zero _)
  | close i =>
    obtain ⟨x, here, h⟩ := Option.bind_eq_some_iff.1 h
    split_ifs at h with gone
    obtain rfl := Option.some.inj h
    have before := inv.sessions x (List.mem_of_getElem? here)
    have spec := exact_session_iff exact_before here { x with closed := true } 0 x.downstreamBytes
    rw [UInt64.add_zero s.bytesRx, before.close_iff (by simpa using gone.2)] at spec
    rw [Accountable, here]
    refine (spec.trans ?_).trans forall_mem_some.symm
    exact and_iff_right (UInt64.add_zero _)

end Steps

/-- The counters are exact all along a run if and only if each stream that ends is evenly counted,
each session that is evicted has no counted byte outstanding, and none sends afterwards. -/
theorem accounting_exact_iff (display : Fault → String)
    (decoder : FrameDecoder maxControlFrameLength) (es : List Event) :
    (∀ s, Visits (serverSystem display decoder) es s → Exact s) ↔
      ∀ s e v, Takes (serverSystem display decoder) es s e v → Accountable s e :=
  safe_iff_guarded (M := serverSystem display decoder) (I := Invariant display)
    invariant_new exact_new (fun _ _ _ inv _ h => inv.step h)
    fun _ _ _ inv exact_before h => exact_step_iff inv exact_before h

/-- The connect message for `1.2.3.4:80`, and three bytes that the client has sent with it. -/
def uploadRequest : Bytes := encodeFrame [1, 0, 1, 2, 3, 4, 80] ++ [7, 8, 9]

def upload : List Event :=
  [.accept, .stream 0 (.read (.ok uploadRequest)), .stream 0 (.connected (.ok ())),
    .stream 0 (.wrote (.ok 6)), .stream 0 (.flush (.ok ())), .stream 0 (.wrote (.ok 3)),
    .stream 0 (.copy (.start .aToB)), .stream 0 (.copy (.start .bToA)),
    .stream 0 (.copy (.read .aToB (.ok []))), .stream 0 (.copy (.observe .bToA)),
    .stream 0 .finish, .record 0]

theorem not_accounting_exact : ¬∀ es s, Runs (serverSystem (fun _ => "")
    (prefixFirst maxControlFrameLength_small)) es s → Exact s := by
  intro exact_all
  have bad : ∃ s, exec (serverSystem (fun _ => "") (prefixFirst maxControlFrameLength_small))
      upload = some s ∧ s.bytesRx = 0 ∧ total StreamTask.up s.streams = 3 ∧ s.sessions = [] :=
    ⟨_, rfl, rfl, rfl, rfl⟩
  obtain ⟨s, ran, none, three, alone⟩ := bad
  have same := (exact_all upload s (runs_of_exec ran)).1
  rw [none, three, alone, total_nil] at same
  cases same

end Ombrac.ServerAccounting
