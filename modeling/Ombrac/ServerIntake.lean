import Ombrac.BoundedChannel
import Ombrac.LabelledSystem
import Ombrac.ListUpdates
import Ombrac.Semaphore
import Ombrac.ServerLimits

set_option autoImplicit false

/-!
# From the QUIC endpoint to the connection processor

The transport's accept loop hands every incoming connection to a task that awaits its handshake and
then queues it in a bounded channel. The acceptor takes from the channel, and a connection that
finds no permit is refused at once. Connections are numbered in the order in which they come in.
-/
namespace Ombrac.ServerIntake
open LabelledSystem BoundedChannel ListUpdates

def acceptQueue : ℕ := 128

/-- `taken` is what `accept` has returned, `gone` what never got there: failed handshakes, and what
was on its way when the channel was closed. -/
structure Intake where
  incoming : ℕ
  handshaking : List ℕ
  sending : List ℕ
  receiver : Channel ℕ
  endpointLoop : Bool
  acceptLoop : Bool
  semaphore : Semaphore ℕ
  connectionsAccepted : UInt64
  connectionsRejected : UInt64
  taken : List ℕ
  served : List ℕ
  refused : List ℕ
  gone : List ℕ

inductive Event where
  | incoming
  | handshake (connection : ℕ) (succeeded : Bool)
  | send (connection : ℕ)
  | accept
  | dropPermit (connection : ℕ)
  | shutdown
  | dropServer
  | closeEndpoint

namespace Intake

def withConfig (config : ServerLimits.ConnectionConfig) : Intake where
  incoming := 0
  handshaking := []
  sending := []
  receiver := .new acceptQueue
  endpointLoop := true
  acceptLoop := true
  semaphore := .new config.connections
  connectionsAccepted := 0
  connectionsRejected := 0
  taken := []
  served := []
  refused := []
  gone := []

def handleIncomingConnection (s : Intake) (connection : ℕ) : Intake :=
  let s := { s with taken := s.taken ++ [connection] }
  match s.semaphore.tryAcquire connection with
  | some semaphore => { s with
      semaphore := semaphore
      connectionsAccepted := s.connectionsAccepted + 1
      served := s.served ++ [connection] }
  | none => { s with
      connectionsRejected := s.connectionsRejected + 1
      refused := s.refused ++ [connection] }

end Intake

/-- The acceptor is dropped after its loop has ended, and only then does the endpoint close. -/
def intakeStep (s : Intake) : Event → Option Intake
  | .incoming =>
    if s.endpointLoop = true then
      some { s with incoming := s.incoming + 1, handshaking := s.handshaking ++ [s.incoming] }
    else none
  | .handshake connection succeeded =>
    if connection ∈ s.handshaking then
      let s := { s with handshaking := s.handshaking.erase connection }
      if succeeded = true then some { s with sending := s.sending ++ [connection] }
      else some { s with gone := s.gone ++ [connection] }
    else none
  | .send connection =>
    if connection ∈ s.sending then
      if s.receiver.closed = true then
        some { s with
          sending := s.sending.erase connection, gone := s.gone ++ [connection] }
      else if s.receiver.Full then none
      else
        some { s with
          sending := s.sending.erase connection, receiver := s.receiver.push connection }
    else none
  | .accept =>
    if s.acceptLoop = true then
      s.receiver.queue.head?.map fun connection =>
        { s with receiver := s.receiver.pop }.handleIncomingConnection connection
    else none
  | .dropPermit connection =>
    (s.semaphore.release connection).map fun semaphore => { s with semaphore := semaphore }
  | .shutdown => some { s with acceptLoop := false }
  | .dropServer =>
    if s.acceptLoop = false then
      some { s with receiver := s.receiver.close, gone := s.gone ++ s.receiver.queue }
    else none
  | .closeEndpoint =>
    if s.receiver.closed = true then some { s with endpointLoop := false } else none

def intakeSystem (config : ServerLimits.ConnectionConfig) : System Intake Event :=
  ⟨.withConfig config, intakeStep⟩

/-! ## Where the connections are -/

section Places
variable {config : ServerLimits.ConnectionConfig} {s u : Intake}

def occurrences (s : Intake) (connection : ℕ) : ℕ :=
  s.handshaking.count connection + s.sending.count connection +
    s.receiver.queue.count connection + s.served.count connection +
    s.refused.count connection + s.gone.count connection

structure Accounted (config : ServerLimits.ConnectionConfig) (s : Intake) : Prop where
  once : ∀ connection, occurrences s connection = (List.range s.incoming).count connection
  order : s.taken ++ s.receiver.queue <+: s.receiver.accepted
  whole : s.receiver.closed = false → s.taken ++ s.receiver.queue = s.receiver.accepted
  room : s.receiver.capacity = acceptQueue ∧ s.receiver.queue.length ≤ acceptQueue
  inOrder : s.served.Sublist s.taken
  decided : ∀ connection,
    s.taken.count connection = s.served.count connection + s.refused.count connection
  accepted : s.connectionsAccepted = UInt64.ofNat s.served.length
  rejected : s.connectionsRejected = UInt64.ofNat s.refused.length
  total : s.semaphore.total = config.connections
  holding : s.semaphore.holding ⊆ s.served

theorem count_erase_add {l : List ℕ} {a : ℕ} (member : a ∈ l) (x : ℕ) :
    (l.erase a).count x + [a].count x = l.count x := by
  have perm := (List.perm_cons_erase member).count_eq x
  rw [← List.singleton_append, List.count_append] at perm
  omega

theorem counter_succ {counter : UInt64} {l : List ℕ} (same : counter = UInt64.ofNat l.length)
    (a : ℕ) : counter + 1 = UInt64.ofNat (l ++ [a]).length := by
  rw [same, List.length_append, List.length_singleton, UInt64.ofNat_add]
  rfl

theorem accounted_withConfig : Accounted config (.withConfig config) where
  once _ := rfl
  order := List.prefix_refl _
  whole _ := rfl
  room := ⟨rfl, Nat.zero_le _⟩
  inOrder := List.Sublist.refl _
  decided _ := rfl
  accepted := rfl
  rejected := rfl
  total := rfl
  holding _ member := by cases member

theorem accept_accounted (inv : Accounted config s) {connection : ℕ} {rest : List ℕ}
    (queued : s.receiver.queue = connection :: rest) :
    Accounted config
      ({ s with receiver := s.receiver.pop }.handleIncomingConnection connection) := by
  have popped : s.receiver.pop.queue = rest := by simp [Channel.pop, queued]
  have front : ∀ x, s.receiver.queue.count x = [connection].count x + rest.count x := by
    intro x
    rw [queued, ← List.singleton_append, List.count_append]
  have same : (s.taken ++ [connection]) ++ s.receiver.pop.queue =
      s.taken ++ s.receiver.queue := by
    rw [popped, List.append_assoc, List.singleton_append, ← queued]
  have order : (s.taken ++ [connection]) ++ s.receiver.pop.queue <+: s.receiver.accepted :=
    same ▸ inv.order
  have whole := fun opened => same.trans (inv.whole opened)
  have room : s.receiver.pop.capacity = acceptQueue ∧
      s.receiver.pop.queue.length ≤ acceptQueue := by
    refine ⟨inv.room.1, le_trans ?_ inv.room.2⟩
    rw [popped, queued]
    exact Nat.le_succ _
  simp only [Intake.handleIncomingConnection]
  cases permit : s.semaphore.tryAcquire connection with
  | some semaphore =>
    refine { inv with
      once := fun x => ?_
      order := order
      whole := whole
      room := room
      inOrder := inv.inOrder.append (List.Sublist.refl _)
      decided := fun x => ?_
      accepted := counter_succ inv.accepted connection
      total := (Semaphore.total_tryAcquire permit).trans inv.total
      holding := ?_ }
    · have once := inv.once x
      simp only [occurrences, popped, List.count_append, front] at once ⊢
      omega
    · have decided := inv.decided x
      simp only [List.count_append]
      omega
    · simp only [Semaphore.holding_tryAcquire permit]
      exact List.append_subset.2 ⟨List.subset_append_of_subset_left _ inv.holding,
        List.subset_append_right _ _⟩
  | none =>
    refine { inv with
      once := fun x => ?_
      order := order
      whole := whole
      room := room
      inOrder := inv.inOrder.trans (List.sublist_append_left _ _)
      decided := fun x => ?_
      rejected := counter_succ inv.rejected connection }
    · have once := inv.once x
      simp only [occurrences, popped, List.count_append, front] at once ⊢
      omega
    · have decided := inv.decided x
      simp only [List.count_append]
      omega

theorem push_accounted (inv : Accounted config s) {connection : ℕ}
    (member : connection ∈ s.sending) (opened : s.receiver.closed = false)
    (free : ¬ s.receiver.Full) :
    Accounted config { s with
      sending := s.sending.erase connection, receiver := s.receiver.push connection } := by
  have whole : s.taken ++ (s.receiver.queue ++ [connection]) =
      s.receiver.accepted ++ [connection] := by
    rw [← inv.whole opened, List.append_assoc]
  refine { inv with
    once := fun x => ?_
    order := ⟨[], by rw [List.append_nil]; exact whole⟩
    whole := fun _ => whole
    room := ⟨inv.room.1, ?_⟩ }
  · have once := inv.once x
    have moved := count_erase_add member x
    simp only [occurrences, Channel.push, List.count_append] at once ⊢
    omega
  · rw [Channel.push, List.length_append, List.length_singleton, ← inv.room.1]
    exact Nat.lt_of_not_le free

theorem intakeStep_accounted (inv : Accounted config s) {e : Event}
    (h : intakeStep s e = some u) : Accounted config u := by
  cases e with
  | incoming =>
    obtain ⟨_, ⟨⟩⟩ := Option.ite_none_right_eq_some.1 h
    refine { inv with once := fun x => ?_ }
    have once := inv.once x
    simp only [occurrences, List.count_append, List.range_succ] at once ⊢
    omega
  | handshake connection succeeded =>
    obtain ⟨member, h⟩ := Option.ite_none_right_eq_some.1 h
    split_ifs at h with ok
    · obtain rfl := Option.some.inj h
      refine { inv with once := fun x => ?_ }
      have once := inv.once x
      have moved := count_erase_add member x
      simp only [occurrences, List.count_append] at once ⊢
      omega
    · obtain rfl := Option.some.inj h
      refine { inv with once := fun x => ?_ }
      have once := inv.once x
      have moved := count_erase_add member x
      simp only [occurrences, List.count_append] at once ⊢
      omega
  | send connection =>
    obtain ⟨member, h⟩ := Option.ite_none_right_eq_some.1 h
    split_ifs at h with closed full
    · obtain rfl := Option.some.inj h
      refine { inv with once := fun x => ?_ }
      have once := inv.once x
      have moved := count_erase_add member x
      simp only [occurrences, List.count_append] at once ⊢
      omega
    · obtain rfl := Option.some.inj h
      exact push_accounted inv member (by simpa using closed) full
  | accept =>
    obtain ⟨_, taken⟩ := Option.ite_none_right_eq_some.1 h
    obtain ⟨connection, first, rfl⟩ := Option.map_eq_some_iff.1 taken
    obtain ⟨rest, queued⟩ := List.head?_eq_some_iff.1 first
    exact accept_accounted inv queued
  | dropPermit connection =>
    obtain ⟨semaphore, released, rfl⟩ := Option.map_eq_some_iff.1 h
    refine { inv with
      total := (Semaphore.total_release released).trans inv.total
      holding := ?_ }
    simp only [(Semaphore.holding_release released).2]
    exact List.Subset.trans List.erase_subset inv.holding
  | shutdown =>
    obtain rfl := Option.some.inj h
    exact { inv with }
  | dropServer =>
    obtain ⟨_, ⟨⟩⟩ := Option.ite_none_right_eq_some.1 h
    refine { inv with
      once := fun x => ?_
      order := ?_
      whole := nofun
      room := ⟨inv.room.1, Nat.zero_le _⟩ }
    · have once := inv.once x
      simp only [occurrences, Channel.close, List.count_append, List.count_nil] at once ⊢
      omega
    · simp only [Channel.close, List.append_nil]
      exact (List.prefix_append _ _).trans inv.order
  | closeEndpoint =>
    obtain ⟨_, ⟨⟩⟩ := Option.ite_none_right_eq_some.1 h
    exact { inv with }

theorem accounted_runs {es : List Event} (run : Runs (intakeSystem config) es s) :
    Accounted config s :=
  run.invariant (I := Accounted config) accounted_withConfig
    fun _ _ _ inv step => intakeStep_accounted inv step

/-- Who is refused has found no permit. -/
theorem refused_full (inv : Accounted config s) (h : intakeStep s .accept = some u)
    (turned : u.refused ≠ s.refused) : s.semaphore.holding.length = config.connections := by
  obtain ⟨_, taken⟩ := Option.ite_none_right_eq_some.1 h
  obtain ⟨connection, first, rfl⟩ := Option.map_eq_some_iff.1 taken
  simp only [Intake.handleIncomingConnection] at turned
  cases permit : s.semaphore.tryAcquire connection with
  | some semaphore =>
    rw [permit] at turned
    exact absurd rfl turned
  | none =>
    have total := inv.total
    have none_left : ¬ 0 < s.semaphore.permits := by
      intro free
      simp [Semaphore.tryAcquire, free] at permit
    rw [Semaphore.total] at total
    omega

/-- Of two connections the second finds no permit. -/
def twoConnections : List Event :=
  [.incoming, .incoming, .handshake 1 true, .handshake 0 true, .send 1, .send 0, .accept, .accept]

end Places
end Ombrac.ServerIntake
