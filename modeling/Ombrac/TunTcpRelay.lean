import Ombrac.NetstackTcp

set_option autoImplicit false

/-!
# The relay of one TCP connection of the TUN device

`relay_tcp_stream` opens the tunnel, runs `copy_bidirectional` between the application's stream
(side `a`) and the tunnel's (side `b`), and drops the stream when it returns. The worker runs in
between. The tunnel's side may do anything.
-/
namespace Ombrac.TunTcpRelay
open LabelledSystem ProtocolPacket RingBuffer StackSink NetstackTcp

def defaultBufSize : ℕ := 8 * 1024

inductive Direction where
  | aToB | bToA
  deriving DecidableEq

inductive Stage where
  | start
  | reading
  | writing (chunk : ℕ) (rest : Bytes)
  | finished (result : Except IoError Unit)

structure Copy where
  stage : Stage
  copied : ℕ

def bytesRead : Except IoError Bytes → Bytes
  | .ok bytes => bytes
  | .error _ => []

namespace Copy

def isFinished (copy : Copy) : Bool :=
  match copy.stage with
  | .finished _ => true
  | _ => false

def finish (copy : Copy) (result : Except IoError Unit) : Copy :=
  { copy with stage := .finished result }

/-- A reset or an abort of the reader counts as its end. -/
def afterRead (copy : Copy) : Except IoError Bytes → Copy
  | .error e =>
    if e.kind = .connectionReset ∨ e.kind = .connectionAborted then copy.finish (.ok ())
    else copy.finish (.error e)
  | .ok [] => copy.finish (.ok ())
  | .ok bytes => { copy with stage := .writing bytes.length bytes }

def writeZero : IoError := ⟨.writeZero, "write zero"⟩

def afterWrite (copy : Copy) (chunk : ℕ) (rest : Bytes) : Except IoError ℕ → Copy
  | .error e => copy.finish (.error e)
  | .ok 0 => copy.finish (.error writeZero)
  | .ok (n + 1) =>
    match rest.drop (n + 1) with
    | [] => ⟨.reading, copy.copied + chunk⟩
    | left => { copy with stage := .writing chunk left }

end Copy

/-- `returned` and `dropped` say whether the relay returned `Ok`. -/
inductive Phase where
  | connecting
  | copying
  | returned (ok : Bool)
  | dropped (ok : Bool)
  deriving DecidableEq

/-- `cancelled` is the token that the first copy to finish cancels, `remoteSent` all bytes read
from the tunnel. -/
structure TcpRelay (σ : Type) where
  conn : Connection σ
  phase : Phase
  cancelled : Bool
  copies : Direction → Copy
  remoteSent : Bytes
  establishedAtDrop : Bool

inductive Event (σ : Type) where
  | connect (ok : Bool)
  | start (d : Direction)
  | observe (d : Direction)
  | readStream
  | wroteRemote (result : Except IoError ℕ)
  | readRemote (result : Except IoError Bytes)
  | writeStream
  | finish
  | drop
  | worker (e : WorkerEvent σ)

namespace TcpRelay
variable {σ : Type}

def new (socket : σ) (recvBufferSize sendBufferSize : ℕ) : TcpRelay σ where
  conn := .new socket recvBufferSize sendBufferSize
  phase := .connecting
  cancelled := false
  copies := fun _ => ⟨.start, 0⟩
  remoteSent := []
  establishedAtDrop := false

def setCopy (r : TcpRelay σ) (d : Direction) (copy : Copy) : TcpRelay σ :=
  { r with
    copies := Function.update r.copies d copy
    cancelled := r.cancelled || copy.isFinished }

end TcpRelay

def succeeded (copy : Copy) : Bool :=
  match copy.stage with
  | .finished (.ok _) => true
  | _ => false

def relayStep {σ : Type} (net : Smoltcp σ) (r : TcpRelay σ) : Event σ → Option (TcpRelay σ)
  | .connect ok =>
    if r.phase = .connecting then
      some { r with phase := if ok then .copying else .returned false }
    else none
  | .start d =>
    match r.phase, (r.copies d).stage with
    | .copying, .start =>
      some (r.setCopy d
        (if r.cancelled then (r.copies d).finish (.ok ())
          else { r.copies d with stage := .reading }))
    | _, _ => none
  | .observe d =>
    match r.phase, (r.copies d).stage with
    | .copying, .reading =>
      if r.cancelled then some (r.setCopy d ((r.copies d).finish (.ok ()))) else none
    | _, _ => none
  | .readStream =>
    match r.phase, (r.copies .aToB).stage with
    | .copying, .reading =>
      if r.cancelled then none
      else
        match r.conn.pollRead defaultBufSize with
        | (conn, .pending) => some { r with conn := conn }
        | (conn, .ready bytes) =>
          some ({ r with conn := conn }.setCopy .aToB ((r.copies .aToB).afterRead (.ok bytes)))
    | _, _ => none
  | .wroteRemote result =>
    match r.phase, (r.copies .aToB).stage with
    | .copying, .writing chunk rest =>
      some (r.setCopy .aToB ((r.copies .aToB).afterWrite chunk rest result))
    | _, _ => none
  | .readRemote result =>
    match r.phase, (r.copies .bToA).stage with
    | .copying, .reading =>
      if r.cancelled = false ∧ (bytesRead result).length ≤ defaultBufSize then
        some ({ r with remoteSent := r.remoteSent ++ bytesRead result }.setCopy .bToA
          ((r.copies .bToA).afterRead result))
      else none
    | _, _ => none
  | .writeStream =>
    match r.phase, (r.copies .bToA).stage with
    | .copying, .writing chunk rest =>
      match r.conn.pollWrite rest with
      | (conn, .pending) => some { r with conn := conn }
      | (conn, .ready result) =>
        some ({ r with conn := conn }.setCopy .bToA
          ((r.copies .bToA).afterWrite chunk rest result))
    | _, _ => none
  | .finish =>
    if r.phase = .copying ∧ (r.copies .aToB).isFinished ∧ (r.copies .bToA).isFinished then
      some { r with
        phase := .returned (succeeded (r.copies .aToB) && succeeded (r.copies .bToA)) }
    else none
  | .drop =>
    match r.phase with
    | .returned ok => some { r with
        phase := .dropped ok
        conn := r.conn.drop
        establishedAtDrop := r.conn.socket.any net.established }
    | _ => none
  | .worker e => (workerStep net r.conn e).map fun conn => { r with conn := conn }

def relaySystem {σ : Type} (net : Smoltcp σ) (socket : σ) (recvBufferSize sendBufferSize : ℕ) :
    System (TcpRelay σ) (Event σ) :=
  ⟨.new socket recvBufferSize sendBufferSize, relayStep net⟩

/-! ## The tail of a download -/

/-- Every byte that `poll_write` accepted was enqueued into the socket, in order, and the socket
was closed and not aborted. -/
def TailKept {σ : Type} (r : TcpRelay σ) : Prop :=
  r.conn.enqueued = r.conn.accepted ∧ r.conn.closeCalled = true ∧ r.conn.aborted = false

/-- The application's socket was established when the relay, having returned `Ok`, dropped its
stream, and the worker has removed it since. -/
def RemovedAfterRelay {σ : Type} (r : TcpRelay σ) : Prop :=
  r.phase = .dropped true ∧ r.establishedAtDrop = true ∧ r.conn.socket = none

/-- The stream has accepted what the copy has read, but for the rest of a chunk. -/
def Accepts (accepted sent : Bytes) (copy : Copy) : Prop :=
  match copy.stage with
  | .start | .reading | .finished (.ok _) => accepted = sent ∧ copy.copied = sent.length
  | .writing chunk rest => accepted ++ rest = sent ∧ copy.copied + chunk = sent.length
  | .finished (.error _) => True

structure Doomed {σ : Type} (net : Smoltcp σ) (c : Connection σ) : Prop where
  dropped : c.shared.socketDropped = true
  active : ∀ socket, c.socket = some socket → c.worker = .closing ∨ c.worker = .checkingActive →
    net.isActive socket = true
  aborted : c.socket = none → c.aborted = true

structure Invariant {σ : Type} (net : Smoltcp σ) (r : TcpRelay σ) : Prop where
  conn : r.conn.Invariant
  unclosed : r.conn.shared.writeClosed = false
  accepts : Accepts r.conn.accepted r.remoteSent (r.copies .bToA)
  gone : r.establishedAtDrop = true → (∃ ok, r.phase = .dropped ok) ∧ Doomed net r.conn
  settled : r.phase = .returned true ∨ r.phase = .dropped true →
    succeeded (r.copies .bToA) = true

section Copies
variable {accepted sent : Bytes} {copy : Copy}

theorem Accepts.finish (h : Accepts accepted sent copy) (between : copy.stage = .start ∨
    copy.stage = .reading) : Accepts accepted sent (copy.finish (.ok ())) := by
  rcases between with start | reading
  · simpa only [Accepts, start, Copy.finish] using h
  · simpa only [Accepts, reading, Copy.finish] using h

theorem Accepts.afterRead (h : Accepts accepted sent copy) (reading : copy.stage = .reading)
    (result : Except IoError Bytes) :
    Accepts accepted (sent ++ bytesRead result) (copy.afterRead result) := by
  obtain ⟨same, counted⟩ : accepted = sent ∧ copy.copied = sent.length := by
    simpa only [Accepts, reading] using h
  subst same
  have ended : Accepts accepted (accepted ++ []) (copy.finish (.ok ())) := by
    rw [List.append_nil]
    exact ⟨rfl, counted⟩
  cases result with
  | error e =>
    simp only [Copy.afterRead]
    split_ifs
    · exact ended
    · trivial
  | ok bytes =>
    cases bytes with
    | nil => exact ended
    | cons b bytes =>
      refine ⟨rfl, ?_⟩
      change copy.copied + (b :: bytes).length = (accepted ++ b :: bytes).length
      rw [counted, List.length_append]

theorem Accepts.afterWrite {more rest : Bytes} {chunk : ℕ} (h : Accepts accepted sent copy)
    (writing : copy.stage = .writing chunk rest) (split : more ++ rest.drop more.length = rest) :
    Accepts (accepted ++ more) sent (copy.afterWrite chunk rest (.ok more.length)) := by
  obtain ⟨all, counted⟩ : accepted ++ rest = sent ∧ copy.copied + chunk = sent.length := by
    simpa only [Accepts, writing] using h
  cases length : more.length with
  | zero => trivial
  | succ n =>
    rw [length] at split
    simp only [Copy.afterWrite]
    cases left : rest.drop (n + 1) with
    | nil =>
      rw [left, List.append_nil] at split
      exact ⟨split ▸ all, counted⟩
    | cons b bytes =>
      refine ⟨?_, counted⟩
      rw [← left, List.append_assoc, split]
      exact all

end Copies

/-! ## A dropped stream -/

section Doom
variable {σ : Type} {net : Smoltcp σ} {c d : Connection σ}

theorem doomed_of_drop (established : c.socket.any net.established = true) :
    Doomed net c.drop := by
  obtain ⟨socket, found, alive⟩ := (Option.any_eq_true _ _).1 established
  refine ⟨rfl, ?_, ?_⟩
  · intro socket' same _
    obtain rfl := Option.some.inj (found.symm.trans same)
    exact net.active_of_established socket alive
  · intro removed
    cases found.symm.trans removed

theorem doomed_elsewhere (dropped : d.shared.socketDropped = true) (held : d.socket ≠ none)
    (closing : d.worker ≠ .closing) (checking : d.worker ≠ .checkingActive) : Doomed net d :=
  ⟨dropped, fun _ _ there => absurd there (not_or.2 ⟨closing, checking⟩),
    fun removed => absurd removed held⟩

theorem receive_doomed (dropped : c.shared.socketDropped = true) (socket : σ)
    (found : c.socket = some socket) : Doomed net (c.receive net socket) := by
  have held : c.socket ≠ none := by simp [found]
  unfold Connection.receive
  split_ifs
  · split
    · exact doomed_elsewhere dropped held nofun nofun
    · exact doomed_elsewhere dropped nofun nofun nofun
  · exact doomed_elsewhere dropped held nofun nofun

theorem sent_doomed (dropped : c.shared.socketDropped = true) (held : c.socket ≠ none)
    (notifyWrite : Bool) : Doomed net (c.sent notifyWrite) := by
  cases notifyWrite with
  | false => exact doomed_elsewhere dropped held nofun nofun
  | true => exact doomed_elsewhere dropped held nofun nofun

theorem send_doomed (dropped : c.shared.socketDropped = true) (socket : σ)
    (found : c.socket = some socket) (notifyWrite : Bool) :
    Doomed net (c.send net socket notifyWrite) := by
  have held : c.socket ≠ none := by simp [found]
  unfold Connection.send
  split_ifs
  · split
    · exact sent_doomed dropped held notifyWrite
    · dsimp only
      split_ifs
      · exact sent_doomed dropped held notifyWrite
      · exact doomed_elsewhere dropped nofun nofun nofun
  · exact sent_doomed dropped held notifyWrite

/-- No turn of the worker removes a doomed socket without aborting it: before `prune_sockets` has
tested the flag it aborts, and after that test the socket is still active. -/
theorem workerStep_doomed (doomed : Doomed net c) (unclosed : c.shared.writeClosed = false)
    {e : WorkerEvent σ} (h : workerStep net c e = some d) : Doomed net d := by
  have dropped := doomed.dropped
  cases e with
  | network socket =>
    simp only [workerStep] at h
    split at h
    · rename_i polling
      obtain rfl := Option.some.inj h
      exact doomed_elsewhere dropped (Option.some_ne_none _) (by simp [polling])
        (by simp [polling])
    · cases h
  | turn =>
    simp only [workerStep] at h
    split at h
    · cases h
    · rename_i socket found
      have held : c.socket ≠ none := by simp [found]
      split at h <;> obtain rfl := Option.some.inj h
      · refine doomed_elsewhere dropped held ?_ ?_ <;> simp [dropped]
      · exact receive_doomed dropped socket found
      · unfold Connection.checkOpen
        dsimp only
        split_ifs <;> exact doomed_elsewhere dropped held (by simp) (by simp)
      · exact send_doomed dropped socket found _
      · unfold Connection.prune
        rw [if_pos dropped]
        exact ⟨dropped, fun _ same => absurd same.symm (Option.some_ne_none _), fun _ => rfl⟩
      · rename_i closing
        unfold Connection.closeWritten
        rw [unclosed]
        exact ⟨dropped, fun k same _ => doomed.active k same (.inl closing), doomed.aborted⟩
      · rename_i checking
        have active := doomed.active socket found (.inr checking)
        unfold Connection.checkActive
        rw [if_pos active]
        exact doomed_elsewhere dropped held (by simp) (by simp)

end Doom

section Step
variable {σ : Type} {net : Smoltcp σ} {r u : TcpRelay σ} {c : Connection σ}

/-- What the stream has accepted after a `poll_write`. -/
theorem pollWrite_accepted (c : Connection σ) (buf : Bytes) :
    (c.pollWrite buf).1.shared.writeClosed = c.shared.writeClosed ∧
      ((c.pollWrite buf).1.accepted = c.accepted ∧
          ((c.pollWrite buf).2 = .pending ∨ ∃ e, (c.pollWrite buf).2 = .ready (.error e)) ∨
        ∃ more, (c.pollWrite buf).1.accepted = c.accepted ++ more ∧
          (c.pollWrite buf).2 = .ready (.ok more.length) ∧ more ++ buf.drop more.length = buf) := by
  unfold Connection.pollWrite
  split_ifs
  · exact ⟨rfl, .inl ⟨rfl, .inr ⟨_, rfl⟩⟩⟩
  · exact ⟨rfl, .inl ⟨rfl, .inl rfl⟩⟩
  · exact ⟨rfl, .inr ⟨_, rfl, rfl, RingBuf.accepts_append _ _⟩⟩

theorem pollRead_accepted (c : Connection σ) (len : ℕ) :
    (c.pollRead len).1.shared.writeClosed = c.shared.writeClosed ∧
      (c.pollRead len).1.accepted = c.accepted := by
  unfold Connection.pollRead
  split_ifs <;> exact ⟨rfl, rfl⟩

theorem not_gone (inv : Invariant net r) {phase : Phase} (h : r.phase = phase)
    (early : ∀ ok, phase ≠ .dropped ok) : ¬ r.establishedAtDrop = true := by
  intro gone
  obtain ⟨⟨ok, dropped⟩, _⟩ := inv.gone gone
  exact early ok (h ▸ dropped)

/-- A step while the relay copies. -/
theorem invariant_copying (inv : Invariant net r) (copying : r.phase = .copying)
    (phase : u.phase = .copying) (same : u.establishedAtDrop = r.establishedAtDrop)
    (conn : u.conn.Invariant) (unclosed : u.conn.shared.writeClosed = false)
    (accepts : Accepts u.conn.accepted u.remoteSent (u.copies .bToA)) : Invariant net u := by
  refine ⟨conn, unclosed, accepts, fun gone => ?_, fun ended => ?_⟩
  · exact absurd (same ▸ gone) (not_gone inv copying nofun)
  · rw [phase] at ended
    rcases ended with ended | ended <;> cases ended

theorem invariant_setCopy (inv : Invariant net r) (copying : r.phase = .copying) (d : Direction)
    (copy : Copy) (accepts : d = .bToA → Accepts r.conn.accepted r.remoteSent copy) :
    Invariant net (r.setCopy d copy) := by
  refine invariant_copying inv copying copying rfl inv.conn inv.unclosed ?_
  cases d with
  | aToB => exact inv.accepts
  | bToA => exact accepts rfl

section Arms

-- The equations are made once for all the arms.
attribute [local simp] relayStep

theorem writeStream_invariant (inv : Invariant net r)
    (h : relayStep net r .writeStream = some u) : Invariant net u := by
  simp only [relayStep] at h
  split at h
  · rename_i chunk rest copying writing
    have conn := pollWrite_invariant inv.conn rest
    obtain ⟨flags, ⟨kept, blocked⟩ | ⟨more, grown, written, split_rest⟩⟩ :=
      pollWrite_accepted r.conn rest
    · split at h
      · rename_i conn' polled
        obtain rfl := Option.some.inj h
        rw [polled] at conn flags kept
        refine invariant_copying inv copying copying rfl conn (flags.trans inv.unclosed) ?_
        rw [kept]
        exact inv.accepts
      · rename_i conn' result polled
        obtain rfl := Option.some.inj h
        rw [polled] at conn flags blocked
        obtain ⟨e, failed⟩ : ∃ e, result = .error e := by
          rcases blocked with pending | ⟨e, failed⟩
          · cases pending
          · exact ⟨e, Poll.ready.inj failed⟩
        subst failed
        exact invariant_copying inv copying copying rfl conn (flags.trans inv.unclosed) trivial
    · split at h
      · rename_i conn' polled
        rw [polled] at written
        cases written
      · rename_i conn' result polled
        obtain rfl := Option.some.inj h
        rw [polled] at conn flags grown written
        obtain rfl := Poll.ready.inj written
        refine invariant_copying inv copying copying rfl conn (flags.trans inv.unclosed) ?_
        have next := inv.accepts.afterWrite writing split_rest
        rw [← grown] at next
        exact next
  · cases h

theorem readStream_invariant (inv : Invariant net r)
    (h : relayStep net r .readStream = some u) : Invariant net u := by
  simp only [relayStep] at h
  split at h
  · rename_i copying reading
    have conn := pollRead_invariant inv.conn defaultBufSize
    obtain ⟨flags, kept⟩ := pollRead_accepted r.conn defaultBufSize
    split at h
    · cases h
    · split at h
      · rename_i conn' polled
        obtain rfl := Option.some.inj h
        rw [polled] at conn flags kept
        refine invariant_copying inv copying copying rfl conn (flags.trans inv.unclosed) ?_
        rw [kept]
        exact inv.accepts
      · rename_i conn' bytes polled
        obtain rfl := Option.some.inj h
        rw [polled] at conn flags kept
        refine invariant_copying inv copying copying rfl conn (flags.trans inv.unclosed) ?_
        change Accepts conn'.accepted r.remoteSent (r.copies .bToA)
        rw [kept]
        exact inv.accepts
  · cases h

theorem connect_invariant (inv : Invariant net r) {ok : Bool}
    (h : relayStep net r (.connect ok) = some u) : Invariant net u := by
  simp only [relayStep] at h
  split at h
  · rename_i connecting
    obtain rfl := Option.some.inj h
    have early := not_gone inv connecting nofun
    refine ⟨inv.conn, inv.unclosed, inv.accepts, fun gone => absurd gone early, ?_⟩
    cases ok <;> rintro (ended | ended) <;> cases ended
  · cases h

theorem start_invariant (inv : Invariant net r) {d : Direction}
    (h : relayStep net r (.start d) = some u) : Invariant net u := by
  simp only [relayStep] at h
  split at h
  · rename_i copying start
    obtain rfl := Option.some.inj h
    refine invariant_setCopy inv copying d _ ?_
    rintro rfl
    split_ifs
    · exact inv.accepts.finish (.inl start)
    · simpa only [Accepts, start] using inv.accepts
  · cases h

theorem observe_invariant (inv : Invariant net r) {d : Direction}
    (h : relayStep net r (.observe d) = some u) : Invariant net u := by
  simp only [relayStep] at h
  split at h
  · rename_i copying reading
    split_ifs at h
    obtain rfl := Option.some.inj h
    refine invariant_setCopy inv copying d _ ?_
    rintro rfl
    exact inv.accepts.finish (.inr reading)
  · cases h

theorem readRemote_invariant (inv : Invariant net r) {result : Except IoError Bytes}
    (h : relayStep net r (.readRemote result) = some u) : Invariant net u := by
  simp only [relayStep] at h
  split at h
  · rename_i copying reading
    split_ifs at h
    obtain rfl := Option.some.inj h
    exact invariant_copying inv copying copying rfl inv.conn inv.unclosed
      (inv.accepts.afterRead reading result)
  · cases h

theorem finish_invariant (inv : Invariant net r) (h : relayStep net r .finish = some u) :
    Invariant net u := by
  simp only [relayStep] at h
  split_ifs at h with enabled
  obtain rfl := Option.some.inj h
  have early := not_gone inv enabled.1 nofun
  refine ⟨inv.conn, inv.unclosed, inv.accepts, fun gone => absurd gone early, ?_⟩
  rintro (ended | ended)
  · exact (Bool.and_eq_true_iff.1 (Phase.returned.inj ended)).2
  · cases ended

theorem drop_invariant (inv : Invariant net r) (h : relayStep net r .drop = some u) :
    Invariant net u := by
  simp only [relayStep] at h
  split at h
  · rename_i ok returned
    obtain rfl := Option.some.inj h
    refine ⟨inv.conn.of_same rfl rfl rfl rfl rfl rfl inv.conn.closes, inv.unclosed, inv.accepts,
      fun established => ⟨⟨ok, rfl⟩, doomed_of_drop established⟩, ?_⟩
    rintro (ended | ended)
    · cases ended
    · obtain rfl := Phase.dropped.inj ended
      exact inv.settled (.inl returned)
  · cases h

theorem worker_invariant (inv : Invariant net r) {e : WorkerEvent σ}
    (h : relayStep net r (.worker e) = some u) : Invariant net u := by
  obtain ⟨conn, step, rfl⟩ := Option.map_eq_some_iff.1 h
  obtain ⟨unclosed, _, accepted⟩ := workerStep_flags step
  refine ⟨workerStep_invariant inv.conn step, unclosed.trans inv.unclosed, ?_, ?_, inv.settled⟩
  · rw [accepted]
    exact inv.accepts
  · intro gone
    obtain ⟨phase, doomed⟩ := inv.gone gone
    exact ⟨phase, workerStep_doomed doomed inv.unclosed step⟩

end Arms

theorem relayStep_invariant (inv : Invariant net r) {e : Event σ}
    (h : relayStep net r e = some u) : Invariant net u := by
  cases e with
  | connect ok => exact connect_invariant inv h
  | start d => exact start_invariant inv h
  | observe d => exact observe_invariant inv h
  | readStream => exact readStream_invariant inv h
  | wroteRemote result =>
    simp only [relayStep] at h
    split at h
    · rename_i chunk rest copying writing
      obtain rfl := Option.some.inj h
      exact invariant_setCopy inv copying .aToB _ nofun
    · cases h
  | readRemote result => exact readRemote_invariant inv h
  | writeStream => exact writeStream_invariant inv h
  | finish => exact finish_invariant inv h
  | drop => exact drop_invariant inv h
  | worker e => exact worker_invariant inv h

end Step

/-- In every run in which the relay returned `Ok` with the socket established and the worker has
removed the socket, the `n` bytes that the remote sent were accepted by the stream, the socket was
aborted and never closed, and whatever the ring buffer still held is lost. -/
theorem relay_tail_lost {σ : Type} (net : Smoltcp σ) (socket : σ)
    (recvBufferSize sendBufferSize : ℕ) {es : List (Event σ)} {r : TcpRelay σ}
    (run : Runs (relaySystem net socket recvBufferSize sendBufferSize) es r)
    (removed : RemovedAfterRelay r) :
    r.conn.accepted = r.remoteSent ∧ (r.copies .bToA).copied = r.remoteSent.length ∧
      r.conn.enqueued ++ r.conn.sendBuffer.contents = r.conn.accepted ∧ ¬ TailKept r := by
  have inv : Invariant net r := by
    refine run.invariant ⟨⟨rfl, rfl, nofun⟩, rfl, ⟨rfl, rfl⟩, nofun, ?_⟩ ?_
    · rintro (ended | ended) <;> cases ended
    · exact fun _ _ _ inv step => relayStep_invariant inv step
  obtain ⟨phase, established, gone⟩ := removed
  have ended := inv.settled (.inr phase)
  have accepts := inv.accepts
  unfold succeeded at ended
  unfold Accepts at accepts
  split at ended
  · rename_i stage
    rw [stage] at accepts
    refine ⟨accepts.1, accepts.2, inv.conn.sends, ?_⟩
    rintro ⟨_, _, kept⟩
    have aborted := (inv.gone established).2.aborted gone
    cases aborted.symm.trans kept
  · cases ended

section Download

inductive TcpState where
  | established | finWait1 | closed
  deriving DecidableEq

structure BufferedSocket where
  state : TcpState
  rx : Bytes
  tx : Bytes
  txCapacity : ℕ
  deriving DecidableEq

/-- A socket with one contiguous buffer for each direction, for the runs below. -/
def bufferedSocket : Smoltcp BufferedSocket where
  canRecv := fun k => k.state ≠ .closed && !k.rx.isEmpty
  canSend := fun k => k.state = .established && decide (k.tx.length < k.txCapacity)
  isOpen := fun k => k.state ≠ .closed
  isActive := fun k => k.state ≠ .closed
  established := fun k => k.state = .established
  recvSlice := fun k => some k.rx
  recvTake := fun k n => { k with rx := k.rx.drop n }
  sendSlice := fun k => some (k.txCapacity - k.tx.length)
  sendPut := fun k bytes => { k with tx := k.tx ++ bytes }
  close := fun k => { k with state := if k.state = .established then .finWait1 else k.state }
  active_of_established := by
    intro k established
    have state : k.state = .established := of_decide_eq_true established
    simp [state]

def freshSocket : BufferedSocket := ⟨.established, [], [], 8⟩

def download : List (Event BufferedSocket) :=
  [.connect true, .start .aToB, .start .bToA, .readRemote (.ok [1, 2, 3]), .writeStream,
    .readRemote (.ok []), .observe .aToB, .finish, .drop, .worker .turn, .worker .turn]

theorem relay_tail_lost_download :
    ∃ r, Runs (relaySystem bufferedSocket freshSocket 8 8) download r ∧
      r.conn.accepted = r.remoteSent ∧ (r.copies .bToA).copied = r.remoteSent.length ∧
        r.conn.enqueued ++ r.conn.sendBuffer.contents = r.conn.accepted ∧ ¬ TailKept r := by
  have run : exec (relaySystem bufferedSocket freshSocket 8 8) download = some _ := rfl
  exact ⟨_, runs_of_exec run,
    relay_tail_lost bufferedSocket freshSocket 8 8 (runs_of_exec run) ⟨rfl, rfl, rfl⟩⟩

/-- None of the three bytes reaches the socket. -/
theorem download_not_enqueued :
    ∃ r, Runs (relaySystem bufferedSocket freshSocket 8 8) download r ∧ RemovedAfterRelay r ∧
      r.conn.accepted = [1, 2, 3] ∧ r.conn.enqueued = [] ∧ ¬ TailKept r := by
  have run : exec (relaySystem bufferedSocket freshSocket 8 8) download = some _ := rfl
  refine ⟨_, runs_of_exec run, ⟨rfl, rfl, rfl⟩, rfl, rfl, ?_⟩
  rintro ⟨_, closed, _⟩
  exact absurd closed (by decide)

end Download
end Ombrac.TunTcpRelay
