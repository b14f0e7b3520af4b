import Mathlib.Data.List.Nodup
import Ombrac.ExclusivePlaces
import Ombrac.SharedTasks
import Ombrac.TunFakeDns

set_option autoImplicit false

/-!
# Where the fake addresses are

The fake DNS again, without its clock and with the allocation taken apart: a pop of the queue, a
load of the cursor and a compare-exchange on it are steps of their own. Either cache may lose an
entry at any time and for any cause. A loss in `ip_to_domain`, a replaced value included, starts
one run of the eviction listener, and these runs are numbered in the order of their start.
-/
namespace Ombrac.FakeAddressPool
open LabelledSystem SharedTasks ExclusivePlaces ProtocolPacket TunAddress TunFakeDns

/-- A run of the eviction listener. -/
inductive Run (ν : Type) where
  | notified (ip : Ipv4Addr) (name : ν)
  | invalidated (ip : Ipv4Addr)

def Run.ip {ν : Type} : Run ν → Ipv4Addr
  | .notified ip _ | .invalidated ip => ip

/-- A call of `handle_dns_query`, up to its next access. -/
inductive Query (ν : Type) where
  | idle
  | looking (name : ν)
  | popping (name : ν)
  | loading (name : ν)
  | exchanging (name : ν) (current : ℕ)
  | inserting (name : ν) (ip : Ipv4Addr)
  | recording (name : ν) (ip : Ipv4Addr)

structure Pool (ν : Type) where
  recycledIps : List Ipv4Addr
  cursor : ℕ
  domainToIp : ν → Option Ipv4Addr
  ipToDomain : Ipv4Addr → Option ν
  runs : ℕ → Option (Run ν)
  started : ℕ
  handed : List Ipv4Addr
  computed : List ℕ
  answers : List (ν × Ipv4Addr)

inductive Action where
  | ask (queryBytes : Bytes)
  | get
  | pop
  | load
  | exchange
  | insertAddress
  | insertDomain

inductive Change (ν : Type) where
  | evictAddress (ip : Ipv4Addr)
  | evictDomain (name : ν)
  | invalidate (j : ℕ)
  | recycle (j : ℕ)

namespace Pool
variable {ν : Type}

def new : Pool ν where
  recycledIps := []
  cursor := 2
  domainToIp := fun _ => none
  ipToDomain := fun _ => none
  runs := fun _ => none
  started := 0
  handed := []
  computed := []
  answers := []

def answer (p : Pool ν) (name : ν) (ip : Ipv4Addr) : Pool ν :=
  { p with answers := p.answers ++ [(name, ip)] }

def hand (p : Pool ν) (ip : Ipv4Addr) : Pool ν := { p with handed := p.handed ++ [ip] }

/-- An entry of `ip_to_domain` is removed and its listener started. -/
def notify (p : Pool ν) (ip : Ipv4Addr) (name : ν) : Pool ν :=
  { p with
    ipToDomain := Function.update p.ipToDomain ip none
    runs := Function.update p.runs p.started (some (.notified ip name))
    started := p.started + 1 }

/-- `ip_to_domain.insert`; the listener is told of a value that it replaces. -/
def insertAddress (p : Pool ν) (ip : Ipv4Addr) (name : ν) : Pool ν :=
  let p := match p.ipToDomain ip with
    | some old => p.notify ip old
    | none => p
  { p with ipToDomain := Function.update p.ipToDomain ip (some name) }

end Pool

section System
variable {ν : Type} [DecidableEq ν] (net : Ipv4Net)
  (fromVec : Bytes → Option (List (Question ν)))

def queryStep (p : Pool ν) (q : Query ν) : Action → Option (Pool ν × Query ν)
  | .ask queryBytes =>
    match q with
    | .idle =>
      match asked (fromVec queryBytes) with
      | .nothing | .refused => some (p, .idle)
      | .address name => some (p, .looking name)
    | _ => none
  | .get =>
    match q with
    | .looking name =>
      match p.domainToIp name with
      | some ip => some (p.answer name ip, .idle)
      | none => some (p, .popping name)
    | _ => none
  | .pop =>
    match q with
    | .popping name =>
      match p.recycledIps with
      | ip :: rest => some ({ p with recycledIps := rest }.hand ip, .inserting name ip)
      | [] => some (p, .loading name)
    | _ => none
  | .load =>
    match q with
    | .loading name =>
      -- the pool is exhausted, and the query goes without an answer
      if maxHosts net ≤ p.cursor then some (p, .idle) else some (p, .exchanging name p.cursor)
    | _ => none
  | .exchange =>
    match q with
    | .exchanging name current =>
      if p.cursor = current then
        some ({ p with
          cursor := current + 1
          computed := p.computed ++ [current] }.hand (addressAt net current),
          .inserting name (addressAt net current))
      else some (p, .loading name)
    | _ => none
  | .insertAddress =>
    match q with
    | .inserting name ip => some (p.insertAddress ip name, .recording name ip)
    | _ => none
  | .insertDomain =>
    match q with
    | .recording name ip => some ({ p with
        domainToIp := Function.update p.domainToIp name (some ip) }.answer name ip, .idle)
    | _ => none

def poolChange (p : Pool ν) : Change ν → Option (Pool ν)
  | .evictAddress ip => (p.ipToDomain ip).map (p.notify ip)
  | .evictDomain name => some { p with domainToIp := Function.update p.domainToIp name none }
  | .invalidate j =>
    match p.runs j with
    | some (.notified ip name) => some { p with
        domainToIp := Function.update p.domainToIp name none
        runs := Function.update p.runs j (some (.invalidated ip)) }
    | _ => none
  | .recycle j =>
    match p.runs j with
    | some (.invalidated ip) => some { p with
        recycledIps := p.recycledIps ++ [ip]
        runs := Function.update p.runs j none }
    | _ => none

def fakeAddressPool : Program (Pool ν) (Query ν) Action (Change ν) where
  shared := .new
  phase := .idle
  step _ := queryStep net fromVec
  world := poolChange

end System

/-! ## Places -/

section Places
variable {ν : Type} (net : Ipv4Net)

def Lies (s : State (Pool ν) (Query ν)) (ip : Ipv4Addr) : Place → Prop
  | .fresh => ∃ current, s.shared.cursor ≤ current ∧ current < maxHosts net ∧
      addressAt net current = ip
  | .recycled => ip ∈ s.shared.recycledIps
  | .held i => ∃ name, s.phase i = .inserting name ip
  | .mapped => s.shared.ipToDomain ip ≠ none
  | .leaving j => ∃ run, s.shared.runs j = some run ∧ run.ip = ip

def InPool (ip : Ipv4Addr) : Prop :=
  ∃ current, 2 ≤ current ∧ current < maxHosts net ∧ addressAt net current = ip

structure Placed (s : State (Pool ν) (Query ν)) (place : Ipv4Addr → Option Place) : Prop where
  exclusive : Exclusive (Lies net s) place
  all : ∀ ip, (place ip).isSome = true ↔ InPool net ip
  distinct : s.shared.recycledIps.Nodup
  unstarted : ∀ j, s.shared.started ≤ j → s.shared.runs j = none

variable {net} {s v : State (Pool ν) (Query ν)} {place : Ipv4Addr → Option Place}

theorem Placed.congr (h : Placed net s place)
    (same : ∀ ip p, Lies net v ip p ↔ Lies net s ip p)
    (queue : v.shared.recycledIps = s.shared.recycledIps)
    (unstarted : ∀ j, v.shared.started ≤ j → v.shared.runs j = none) : Placed net v place :=
  ⟨h.exclusive.congr same, h.all, queue ▸ h.distinct, unstarted⟩

/-- One address moves. -/
theorem Placed.move (h : Placed net s place) (ip : Ipv4Addr) (old new : Place)
    (here : Lies net s ip old) (left : ¬ Lies net v ip old) (came : Lies net v ip new)
    (own : ∀ p, p ≠ old → p ≠ new → (Lies net v ip p ↔ Lies net s ip p))
    (others : ∀ x, x ≠ ip → ∀ p, Lies net v x p ↔ Lies net s x p)
    (distinct : v.shared.recycledIps.Nodup)
    (unstarted : ∀ j, v.shared.started ≤ j → v.shared.runs j = none) :
    Placed net v (Function.update place ip (some new)) := by
  refine ⟨h.exclusive.move here left came own others, fun x => ?_, distinct, unstarted⟩
  rw [isSome_update (h.exclusive.isSome_of_lies here)]
  exact h.all x

theorem held_move_self (s : State (Pool ν) (Query ν)) (i : ℕ) (next : Pool ν × Query ν)
    (ip : Ipv4Addr) :
    Lies net (s.move i next) ip (.held i) ↔ ∃ name, next.2 = .inserting name ip := by
  simp only [Lies, State.move_phase]

theorem held_move_of_ne (s : State (Pool ν) (Query ν)) {i j : ℕ} (other : j ≠ i)
    (next : Pool ν × Query ν) (ip : Ipv4Addr) :
    Lies net (s.move i next) ip (.held j) ↔ Lies net s ip (.held j) := by
  simp only [Lies, State.move_phase_of_ne s other]

/-- A query that neither had the address in its hands nor takes it. -/
theorem held_move_other {i : ℕ} {next : Pool ν × Query ν} {ip : Ipv4Addr}
    (before : ∀ name, s.phase i ≠ .inserting name ip) (after : ∀ name, next.2 ≠ .inserting name ip)
    (j : ℕ) : Lies net (s.move i next) ip (.held j) ↔ Lies net s ip (.held j) := by
  by_cases same : j = i
  · subst same
    rw [held_move_self]
    refine iff_of_false ?_ ?_
    · rintro ⟨name, holds⟩
      exact after name holds
    · rintro ⟨name, holds⟩
      exact before name holds
  · exact held_move_of_ne s same next ip

/-- A query's step that leaves every address in its place. -/
theorem Placed.stay (h : Placed net s place) {i : ℕ} {next : Pool ν × Query ν}
    (queue : next.1.recycledIps = s.shared.recycledIps)
    (cursor : next.1.cursor = s.shared.cursor)
    (mapped : next.1.ipToDomain = s.shared.ipToDomain)
    (runs : next.1.runs = s.shared.runs) (started : next.1.started = s.shared.started)
    (before : ∀ name ip, s.phase i ≠ .inserting name ip)
    (after : ∀ name ip, next.2 ≠ .inserting name ip) : Placed net (s.move i next) place := by
  refine h.congr (fun ip p => ?_) queue ?_
  · cases p with
    | fresh => simp only [Lies, State.move_shared, cursor]
    | recycled => simp only [Lies, State.move_shared, queue]
    | held j => exact held_move_other (fun name => before name ip) (fun name => after name ip) j
    | mapped => simp only [Lies, State.move_shared, mapped]
    | leaving j => simp only [Lies, State.move_shared, runs]
  · intro j later
    change next.1.runs j = none
    rw [runs]
    exact h.unstarted j (started ▸ later)

theorem placed_new : ∃ place, Placed net
    (⟨.new, fun _ => .idle⟩ : State (Pool ν) (Query ν)) place := by
  classical
  refine ⟨fun ip => if InPool net ip then some .fresh else none, fun ip p => ?_, fun ip => ?_,
    List.nodup_nil, fun _ _ => rfl⟩
  · cases p with
    | fresh =>
      constructor
      · rintro ⟨current, low, high, same⟩
        exact if_pos ⟨current, low, high, same⟩
      · intro there
        split_ifs at there with inside
        exact inside
    | recycled => simp [Lies, Pool.new]
    | held i => simp [Lies]
    | mapped => simp [Lies, Pool.new]
    | leaving j => simp [Lies, Pool.new]
  · by_cases inside : InPool net ip
    · simp [inside]
    · simp [inside]

/-- A recycled address is popped. -/
theorem pop_placed (h : Placed net s place) {i : ℕ} {name : ν} {ip : Ipv4Addr}
    {rest : List Ipv4Addr} (phase : s.phase i = .popping name)
    (queue : s.shared.recycledIps = ip :: rest) :
    ∃ place, Placed net (s.move i ({ s.shared with recycledIps := rest }.hand ip,
      .inserting name ip)) place := by
  have distinct := h.distinct
  rw [queue] at distinct
  obtain ⟨gone, rest_distinct⟩ := List.nodup_cons.1 distinct
  refine ⟨_, h.move ip .recycled (.held i) ?_ gone ?_ ?_ ?_
    rest_distinct h.unstarted⟩
  · simp [Lies, queue]
  · rw [held_move_self]
    exact ⟨name, rfl⟩
  · intro p not_old not_new
    cases p with
    | fresh | mapped | leaving j => exact Iff.rfl
    | recycled => exact absurd rfl not_old
    | held j =>
      have other : j ≠ i := fun same => not_new (same ▸ rfl)
      exact held_move_of_ne s other _ ip
  · intro x other p
    cases p with
    | fresh | mapped | leaving j => exact Iff.rfl
    | recycled =>
      change x ∈ rest ↔ x ∈ s.shared.recycledIps
      rw [queue, List.mem_cons, or_iff_right other]
    | held j =>
      refine held_move_other (by simp [phase]) (fun name' holds => ?_) j
      exact other (Query.inserting.inj holds).2.symm

/-- A new address is computed. -/
theorem exchange_placed (h : Placed net s place) {i : ℕ} {name : ν}
    (phase : s.phase i = .exchanging name s.shared.cursor)
    (inside : s.shared.cursor < maxHosts net) :
    ∃ place, Placed net (s.move i ({ s.shared with
      cursor := s.shared.cursor + 1
      computed := s.shared.computed ++ [s.shared.cursor] }.hand (addressAt net s.shared.cursor),
      .inserting name (addressAt net s.shared.cursor))) place := by
  refine ⟨_, h.move (addressAt net s.shared.cursor) .fresh (.held i)
    ⟨_, le_refl _, inside, rfl⟩ ?_ ?_ ?_ ?_ h.distinct h.unstarted⟩
  · rintro ⟨current, later, small, same⟩
    obtain rfl := addressAt_injective net small inside same
    exact absurd later (Nat.not_succ_le_self _)
  · rw [held_move_self]
    exact ⟨name, rfl⟩
  · intro p not_old not_new
    cases p with
    | recycled | mapped | leaving j => exact Iff.rfl
    | fresh => exact absurd rfl not_old
    | held j =>
      have other : j ≠ i := fun same => not_new (same ▸ rfl)
      exact held_move_of_ne s other _ _
  · intro x other p
    cases p with
    | recycled | mapped | leaving j => exact Iff.rfl
    | fresh =>
      constructor
      · rintro ⟨current, later, small, same⟩
        exact ⟨current, Nat.le_of_succ_le later, small, same⟩
      · rintro ⟨current, later, small, same⟩
        refine ⟨current, Nat.lt_of_le_of_ne later ?_, small, same⟩
        rintro rfl
        exact other same.symm
    | held j =>
      refine held_move_other (by simp [phase]) (fun name' holds => ?_) j
      exact other (Query.inserting.inj holds).2.symm

theorem Placed.unmapped (h : Placed net s place) {i : ℕ} {name : ν} {ip : Ipv4Addr}
    (phase : s.phase i = .inserting name ip) : s.shared.ipToDomain ip = none := by
  have here : Lies net s ip (.held i) := ⟨name, phase⟩
  by_contra there
  cases h.exclusive.eq here (q := .mapped) there

theorem insertAddress_of_unmapped {p : Pool ν} {ip : Ipv4Addr} (absent : p.ipToDomain ip = none)
    (name : ν) : p.insertAddress ip name =
      { p with ipToDomain := Function.update p.ipToDomain ip (some name) } := by
  simp only [Pool.insertAddress, absent]

/-- The address that a query holds becomes a key of `ip_to_domain`, which had no entry there. -/
theorem insertAddress_placed (h : Placed net s place) {i : ℕ} {name : ν} {ip : Ipv4Addr}
    (phase : s.phase i = .inserting name ip) :
    ∃ place, Placed net (s.move i (s.shared.insertAddress ip name, .recording name ip)) place := by
  have here : Lies net s ip (.held i) := ⟨name, phase⟩
  rw [insertAddress_of_unmapped (h.unmapped phase)]
  refine ⟨_, h.move ip (.held i) .mapped here ?_ ?_ ?_ ?_ h.distinct h.unstarted⟩
  · rw [held_move_self]
    rintro ⟨name', impossible⟩
    cases impossible
  · change Function.update s.shared.ipToDomain ip (some name) ip ≠ none
    rw [Function.update_self]
    exact Option.some_ne_none name
  · intro p not_old not_new
    cases p with
    | fresh | recycled | leaving j => exact Iff.rfl
    | mapped => exact absurd rfl not_new
    | held j =>
      have other : j ≠ i := fun same => not_old (same ▸ rfl)
      exact held_move_of_ne s other _ ip
  · intro x other p
    cases p with
    | fresh | recycled | leaving j => exact Iff.rfl
    | mapped =>
      change Function.update s.shared.ipToDomain ip (some name) x ≠ none ↔ _
      rw [Function.update_of_ne other]
      exact Iff.rfl
    | held j =>
      refine held_move_other (fun name' holds => ?_) (by simp) j
      exact other (Query.inserting.inj (holds.symm.trans phase)).2

/-- An entry of `ip_to_domain` goes to a run of the listener. -/
theorem notify_placed (h : Placed net s place) {ip : Ipv4Addr} {name : ν}
    (mapped : s.shared.ipToDomain ip = some name) :
    ∃ place, Placed net { s with shared := s.shared.notify ip name } place := by
  have unused := h.unstarted s.shared.started (le_refl _)
  refine ⟨_, h.move ip .mapped (.leaving s.shared.started) ?_ ?_ ?_ ?_ ?_ h.distinct ?_⟩
  · change s.shared.ipToDomain ip ≠ none
    rw [mapped]
    exact Option.some_ne_none name
  · change ¬ Function.update s.shared.ipToDomain ip none ip ≠ none
    rw [Function.update_self]
    exact not_not.2 rfl
  · exact ⟨.notified ip name, Function.update_self .., rfl⟩
  · intro p not_old not_new
    cases p with
    | fresh | recycled | held j => exact Iff.rfl
    | mapped => exact absurd rfl not_old
    | leaving j =>
      have other : j ≠ s.shared.started := fun same => not_new (same ▸ rfl)
      change (∃ run, Function.update s.shared.runs s.shared.started _ j = some run ∧ run.ip = ip) ↔ _
      rw [Function.update_of_ne other]
      exact Iff.rfl
  · intro x other p
    cases p with
    | fresh | recycled | held j => exact Iff.rfl
    | mapped =>
      change Function.update s.shared.ipToDomain ip none x ≠ none ↔ _
      rw [Function.update_of_ne other]
      exact Iff.rfl
    | leaving j =>
      change (∃ run, Function.update s.shared.runs s.shared.started _ j = some run ∧ run.ip = x) ↔ _
      by_cases same : j = s.shared.started
      · subst same
        rw [Function.update_self]
        refine iff_of_false ?_ ?_
        · rintro ⟨run, there, own⟩
          obtain rfl := Option.some.inj there
          exact other own.symm
        · rintro ⟨run, there, _⟩
          cases unused.symm.trans there
      · rw [Function.update_of_ne same]
        exact Iff.rfl
  · intro j later
    change s.shared.started + 1 ≤ j at later
    change Function.update s.shared.runs s.shared.started _ j = none
    rw [Function.update_of_ne (by omega)]
    exact h.unstarted j (by omega)

/-- A run of the listener invalidates the domain and keeps its address. -/
theorem invalidate_placed (h : Placed net s place) {j : ℕ} {ip : Ipv4Addr} {name : ν}
    (running : s.shared.runs j = some (.notified ip name)) (domainToIp : ν → Option Ipv4Addr) :
    Placed net { s with shared := { s.shared with
      domainToIp := domainToIp
      runs := Function.update s.shared.runs j (some (.invalidated ip)) } } place := by
  refine h.congr (fun x p => ?_) rfl fun k later => ?_
  · cases p with
    | fresh | recycled | held i | mapped => exact Iff.rfl
    | leaving k =>
      change (∃ run, Function.update s.shared.runs j _ k = some run ∧ run.ip = x) ↔ ∃ run, _
      by_cases same : k = j
      · subst same
        rw [Function.update_self, running]
        constructor
        · rintro ⟨run, there, own⟩
          obtain rfl := Option.some.inj there
          exact ⟨_, rfl, own⟩
        · rintro ⟨run, there, own⟩
          obtain rfl := Option.some.inj there
          exact ⟨_, rfl, own⟩
      · rw [Function.update_of_ne same]
  · change Function.update s.shared.runs j _ k = none
    have other : k ≠ j := by
      rintro rfl
      cases (h.unstarted k later).symm.trans running
    rw [Function.update_of_ne other]
    exact h.unstarted k later

/-- A run of the listener ends and its address is free again. -/
theorem recycle_placed (h : Placed net s place) {j : ℕ} {ip : Ipv4Addr}
    (running : s.shared.runs j = some (.invalidated ip)) :
    ∃ place, Placed net { s with shared := { s.shared with
      recycledIps := s.shared.recycledIps ++ [ip]
      runs := Function.update s.shared.runs j none } } place := by
  have here : Lies net s ip (.leaving j) := ⟨_, running, rfl⟩
  have absent : ip ∉ s.shared.recycledIps := by
    intro there
    cases h.exclusive.eq here (q := .recycled) there
  refine ⟨_, h.move ip (.leaving j) .recycled here ?_ ?_ ?_ ?_ ?_ ?_⟩
  · rintro ⟨run, there, _⟩
    change Function.update s.shared.runs j none j = some run at there
    rw [Function.update_self] at there
    cases there
  · exact List.mem_append_right _ (List.mem_singleton_self ip)
  · intro p not_old not_new
    cases p with
    | fresh | held i | mapped => exact Iff.rfl
    | recycled => exact absurd rfl not_new
    | leaving k =>
      have other : k ≠ j := fun same => not_old (same ▸ rfl)
      change (∃ run, Function.update s.shared.runs j none k = some run ∧ run.ip = ip) ↔ _
      rw [Function.update_of_ne other]
      exact Iff.rfl
  · intro x other p
    cases p with
    | fresh | held i | mapped => exact Iff.rfl
    | recycled =>
      change x ∈ s.shared.recycledIps ++ [ip] ↔ x ∈ s.shared.recycledIps
      rw [List.mem_append, List.mem_singleton, or_iff_left other]
    | leaving k =>
      change (∃ run, Function.update s.shared.runs j none k = some run ∧ run.ip = x) ↔ ∃ run, _
      by_cases same : k = j
      · subst same
        rw [Function.update_self, running]
        refine iff_of_false ?_ ?_
        · rintro ⟨run, there, _⟩
          cases there
        · rintro ⟨run, there, own⟩
          obtain rfl := Option.some.inj there
          exact other own.symm
      · rw [Function.update_of_ne same]
  · change (s.shared.recycledIps ++ [ip]).Nodup
    rw [← List.concat_eq_append]
    exact h.distinct.concat absent
  · intro k later
    change Function.update s.shared.runs j none k = none
    by_cases same : k = j
    · subst same
      exact Function.update_self ..
    · rw [Function.update_of_ne same]
      exact h.unstarted k later

end Places

/-! ## What is handed out -/

section Handed
variable {ν : Type} (net : Ipv4Net)

structure Sound (p : Pool ν) : Prop where
  cursor : 2 ≤ p.cursor
  handed : ∀ ip ∈ p.handed, InPool net ip
  computed : ∀ current ∈ p.computed, 2 ≤ current ∧ current < maxHosts net
  known : ∀ name ip, p.domainToIp name = some ip → InPool net ip
  answered : ∀ x ∈ p.answers, InPool net x.2

def Holds : Query ν → Prop
  | .exchanging _ current => 2 ≤ current ∧ current < maxHosts net
  | .inserting _ ip | .recording _ ip => InPool net ip
  | _ => True

structure Invariant (s : State (Pool ν) (Query ν)) : Prop where
  placed : ∃ place, Placed net s place
  sound : Sound net s.shared
  holds : ∀ i, Holds net (s.phase i)

variable {net} {s : State (Pool ν) (Query ν)} {p : Pool ν}

theorem sound_new : Sound net (.new : Pool ν) where
  cursor := le_refl 2
  handed _ h := by cases h
  computed _ h := by cases h
  known _ _ h := by cases h
  answered _ h := by cases h

theorem Sound.answer (h : Sound net p) (name : ν) {ip : Ipv4Addr} (inside : InPool net ip) :
    Sound net (p.answer name ip) := by
  refine ⟨h.cursor, h.handed, h.computed, h.known, fun x member => ?_⟩
  rcases List.mem_append.1 member with old | last
  · exact h.answered x old
  · obtain rfl := List.mem_singleton.1 last
    exact inside

theorem Sound.hand (h : Sound net p) {ip : Ipv4Addr} (inside : InPool net ip) :
    Sound net (p.hand ip) := by
  refine ⟨h.cursor, fun x member => ?_, h.computed, h.known, h.answered⟩
  rcases List.mem_append.1 member with old | last
  · exact h.handed x old
  · obtain rfl := List.mem_singleton.1 last
    exact inside

theorem Sound.remember [DecidableEq ν] (h : Sound net p) (name : ν) (found : Option Ipv4Addr)
    (inside : ∀ ip, found = some ip → InPool net ip) :
    Sound net { p with domainToIp := Function.update p.domainToIp name found } := by
  refine ⟨h.cursor, h.handed, h.computed, fun other ip there => ?_, h.answered⟩
  by_cases same : other = name
  · subst same
    change Function.update p.domainToIp other found other = some ip at there
    rw [Function.update_self] at there
    exact inside ip there
  · change Function.update p.domainToIp name found other = some ip at there
    rw [Function.update_of_ne same] at there
    exact h.known other ip there

theorem Sound.insertAddress (h : Sound net p) (ip : Ipv4Addr) (name : ν) :
    Sound net (p.insertAddress ip name) := by
  unfold Pool.insertAddress
  split
  · exact ⟨h.cursor, h.handed, h.computed, h.known, h.answered⟩
  · exact ⟨h.cursor, h.handed, h.computed, h.known, h.answered⟩

theorem holds_move {i : ℕ} {next : Pool ν × Query ν} (h : ∀ j, Holds net (s.phase j))
    (own : Holds net next.2) (j : ℕ) : Holds net ((s.move i next).phase j) := by
  by_cases same : j = i
  · subst same
    rw [State.move_phase]
    exact own
  · rw [State.move_phase_of_ne s same]
    exact h j

/-- A step of a query that moves no address. -/
theorem Invariant.stay (inv : Invariant net s) {i : ℕ} {next : Pool ν × Query ν}
    (places : next.1.recycledIps = s.shared.recycledIps ∧ next.1.cursor = s.shared.cursor ∧
      next.1.ipToDomain = s.shared.ipToDomain ∧ next.1.runs = s.shared.runs ∧
      next.1.started = s.shared.started)
    (sound : Sound net next.1) (own : Holds net next.2)
    (before : ∀ name ip, s.phase i ≠ .inserting name ip)
    (after : ∀ name ip, next.2 ≠ .inserting name ip) : Invariant net (s.move i next) := by
  obtain ⟨place, placed⟩ := inv.placed
  obtain ⟨queue, cursor, mapped, runs, started⟩ := places
  exact ⟨⟨place, placed.stay queue cursor mapped runs started before after⟩, sound,
    holds_move inv.holds own⟩

theorem pop_invariant (inv : Invariant net s) {i : ℕ} {name : ν} {ip : Ipv4Addr}
    {rest : List Ipv4Addr} (phase : s.phase i = .popping name)
    (queue : s.shared.recycledIps = ip :: rest) :
    Invariant net (s.move i ({ s.shared with recycledIps := rest }.hand ip,
      .inserting name ip)) := by
  obtain ⟨place, placed⟩ := inv.placed
  have sound := inv.sound
  have inside : InPool net ip := by
    refine (placed.all ip).1 (placed.exclusive.isSome_of_lies (p := .recycled) ?_)
    change ip ∈ s.shared.recycledIps
    rw [queue]
    exact List.mem_cons_self
  have popped : Sound net { s.shared with recycledIps := rest } :=
    ⟨sound.cursor, sound.handed, sound.computed, sound.known, sound.answered⟩
  exact ⟨pop_placed placed phase queue, popped.hand inside, holds_move inv.holds inside⟩

theorem exchange_invariant (inv : Invariant net s) {i : ℕ} {name : ν}
    (phase : s.phase i = .exchanging name s.shared.cursor) :
    Invariant net (s.move i ({ s.shared with
      cursor := s.shared.cursor + 1
      computed := s.shared.computed ++ [s.shared.cursor] }.hand (addressAt net s.shared.cursor),
      .inserting name (addressAt net s.shared.cursor))) := by
  obtain ⟨place, placed⟩ := inv.placed
  have sound := inv.sound
  have own := inv.holds i
  rw [phase] at own
  have inside : InPool net (addressAt net s.shared.cursor) := ⟨s.shared.cursor, own.1, own.2, rfl⟩
  have advanced : Sound net { s.shared with
      cursor := s.shared.cursor + 1
      computed := s.shared.computed ++ [s.shared.cursor] } := by
    refine ⟨Nat.le_succ_of_le sound.cursor, sound.handed, fun current member => ?_,
      sound.known, sound.answered⟩
    rcases List.mem_append.1 member with old | last
    · exact sound.computed current old
    · obtain rfl := List.mem_singleton.1 last
      exact own
  exact ⟨exchange_placed placed phase own.2, advanced.hand inside, holds_move inv.holds inside⟩

variable [DecidableEq ν] {fromVec : Bytes → Option (List (Question ν))}

theorem queryStep_invariant (inv : Invariant net s) {i : ℕ} {action : Action}
    {next : Pool ν × Query ν}
    (step : queryStep net fromVec s.shared (s.phase i) action = some next) :
    Invariant net (s.move i next) := by
  have sound := inv.sound
  have own := inv.holds i
  cases action with
  | ask queryBytes =>
    simp only [queryStep] at step
    split at step
    · rename_i phase
      split at step <;> obtain rfl := Option.some.inj step
      · exact inv.stay ⟨rfl, rfl, rfl, rfl, rfl⟩ sound trivial (by simp [phase]) (by simp)
      · exact inv.stay ⟨rfl, rfl, rfl, rfl, rfl⟩ sound trivial (by simp [phase]) (by simp)
      · exact inv.stay ⟨rfl, rfl, rfl, rfl, rfl⟩ sound trivial (by simp [phase]) (by simp)
    · cases step
  | get =>
    simp only [queryStep] at step
    split at step
    · rename_i name phase
      split at step <;> obtain rfl := Option.some.inj step
      · rename_i ip known
        exact inv.stay ⟨rfl, rfl, rfl, rfl, rfl⟩ (sound.answer name (sound.known name ip known))
          trivial (by simp [phase]) (by simp)
      · exact inv.stay ⟨rfl, rfl, rfl, rfl, rfl⟩ sound trivial (by simp [phase]) (by simp)
    · cases step
  | pop =>
    simp only [queryStep] at step
    split at step
    · rename_i name phase
      split at step <;> obtain rfl := Option.some.inj step
      · rename_i ip rest queue
        exact pop_invariant inv phase queue
      · exact inv.stay ⟨rfl, rfl, rfl, rfl, rfl⟩ sound trivial (by simp [phase]) (by simp)
    · cases step
  | load =>
    simp only [queryStep] at step
    split at step
    · rename_i name phase
      split_ifs at step with exhausted <;> obtain rfl := Option.some.inj step
      · exact inv.stay ⟨rfl, rfl, rfl, rfl, rfl⟩ sound trivial (by simp [phase]) (by simp)
      · exact inv.stay ⟨rfl, rfl, rfl, rfl, rfl⟩ sound ⟨sound.cursor, Nat.not_le.1 exhausted⟩
          (by simp [phase]) (by simp)
    · cases step
  | exchange =>
    simp only [queryStep] at step
    split at step
    · rename_i name current phase
      split_ifs at step with unchanged <;> obtain rfl := Option.some.inj step
      · subst unchanged
        exact exchange_invariant inv phase
      · exact inv.stay ⟨rfl, rfl, rfl, rfl, rfl⟩ sound trivial (by simp [phase]) (by simp)
    · cases step
  | insertAddress =>
    simp only [queryStep] at step
    split at step
    · rename_i name ip phase
      obtain rfl := Option.some.inj step
      obtain ⟨place, placed⟩ := inv.placed
      rw [phase] at own
      exact ⟨insertAddress_placed placed phase, sound.insertAddress ip name,
        holds_move inv.holds own⟩
    · cases step
  | insertDomain =>
    simp only [queryStep] at step
    split at step
    · rename_i name ip phase
      obtain rfl := Option.some.inj step
      rw [phase] at own
      have remembered := sound.remember name (some ip) fun other same => Option.some.inj same ▸ own
      exact inv.stay ⟨rfl, rfl, rfl, rfl, rfl⟩ (remembered.answer name own) trivial
        (by simp [phase]) (by simp)
    · cases step

theorem poolChange_invariant (inv : Invariant net s) {change : Change ν} {shared : Pool ν}
    (step : poolChange s.shared change = some shared) :
    Invariant net { s with shared := shared } := by
  obtain ⟨place, placed⟩ := inv.placed
  have sound := inv.sound
  cases change with
  | evictAddress ip =>
    obtain ⟨name, mapped, rfl⟩ := Option.map_eq_some_iff.1 step
    exact ⟨notify_placed placed mapped,
      ⟨sound.cursor, sound.handed, sound.computed, sound.known, sound.answered⟩, inv.holds⟩
  | evictDomain name =>
    obtain rfl := Option.some.inj step
    refine ⟨⟨place, placed.congr (fun ip p => ?_) rfl placed.unstarted⟩,
      sound.remember name none (by simp), inv.holds⟩
    cases p <;> exact Iff.rfl
  | invalidate j =>
    simp only [poolChange] at step
    split at step
    · rename_i ip name running
      obtain rfl := Option.some.inj step
      have forgotten := sound.remember name none (by simp)
      exact ⟨⟨place, invalidate_placed placed running _⟩,
        ⟨forgotten.cursor, forgotten.handed, forgotten.computed, forgotten.known,
          forgotten.answered⟩, inv.holds⟩
    · cases step
  | recycle j =>
    simp only [poolChange] at step
    split at step
    · rename_i ip running
      obtain rfl := Option.some.inj step
      exact ⟨recycle_placed placed running,
        ⟨sound.cursor, sound.handed, sound.computed, sound.known, sound.answered⟩, inv.holds⟩
    · cases step

theorem runs_invariant {es : List (Event Action (Change ν))}
    (run : Runs (fakeAddressPool net fromVec).system es s) : Invariant net s := by
  refine run.invariant ⟨placed_new, sound_new, fun _ => trivial⟩ fun u e v inv step => ?_
  cases e with
  | task i action =>
    obtain ⟨next, taken, rfl⟩ := Program.task_step step
    exact queryStep_invariant inv taken
  | world change =>
    obtain ⟨shared, taken, rfl⟩ := Program.world_step step
    exact poolChange_invariant inv taken

end Handed

/-! ## Conservation -/

section Arithmetic
variable (net : Ipv4Net)

theorem network_add_size_le : net.network + net.size ≤ 2 ^ 32 := by
  have bits := net.addr.bits.toNat_lt
  obtain ⟨count, whole⟩ : net.size ∣ 2 ^ 32 := Nat.pow_dvd_pow 2 (Nat.sub_le 32 _)
  have positive : 0 < net.size := Nat.two_pow_pos _
  have below : net.addr.bits.toNat / net.size < count :=
    Nat.div_lt_of_lt_mul (by rw [← whole]; exact bits)
  calc net.network + net.size = (net.addr.bits.toNat / net.size + 1) * net.size := by
        rw [Nat.succ_mul]
        rfl
    _ ≤ count * net.size := Nat.mul_le_mul_right _ below
    _ = 2 ^ 32 := by rw [Nat.mul_comm, whole]

variable {net} {current : ℕ}

/-- Networks of one or two addresses hand out nothing, and the others keep back the last. -/
theorem add_two_lt_size (low : 2 ≤ current) (high : current < maxHosts net) :
    current + 2 < net.size := by
  unfold maxHosts at high
  split_ifs at high with tiny
  · have size : net.size ≤ 2 ^ 1 := Nat.pow_le_pow_right (by omega) (by omega)
    omega
  · omega

theorem sum_lt (low : 2 ≤ current) (high : current < maxHosts net) :
    net.network + 1 + current < 2 ^ 32 := by
  have fits := network_add_size_le net
  have small := add_two_lt_size low high
  omega

theorem addressAt_toNat (low : 2 ≤ current) (high : current < maxHosts net) :
    (addressAt net current).bits.toNat = net.network + 1 + current := by
  have fits := sum_lt low high
  simp only [addressAt, Nat.toUInt32, UInt32.toNat_ofNat']
  exact Nat.mod_eq_of_lt fits

end Arithmetic

section Conservation
variable {ν : Type} (net : Ipv4Net)

def Handable (ip : Ipv4Addr) : Prop :=
  net.network + 2 < ip.bits.toNat ∧ ip.bits.toNat < net.network + net.size - 1

def KeptFor (s : State (Pool ν) (Query ν)) (ip : Ipv4Addr) (name : ν) : Place → Prop
  | .held i => s.phase i = .inserting name ip
  | .mapped => s.shared.ipToDomain ip = some name
  | .leaving j => s.shared.runs j = some (.notified ip name)
  | .fresh | .recycled => False

structure Conserved (s : State (Pool ν) (Query ν)) : Prop where
  handed : ∀ ip ∈ s.shared.handed, Handable net ip
  answered : ∀ x ∈ s.shared.answers, Handable net x.2
  computed : ∀ current ∈ s.shared.computed, net.network + 1 + current < 2 ^ 32
  once : s.shared.recycledIps.Nodup
  somewhere : ∀ ip, InPool net ip → ∃! p, Lies net s ip p
  nowhere : ∀ ip, ¬ InPool net ip → ∀ p, ¬ Lies net s ip p
  apart : ∀ ip name other p q, KeptFor s ip name p → KeptFor s ip other q → p = q ∧ name = other

variable {net} {s : State (Pool ν) (Query ν)} {ip : Ipv4Addr}

theorem InPool.handable (inside : InPool net ip) : Handable net ip := by
  obtain ⟨current, low, high, rfl⟩ := inside
  have small := add_two_lt_size low high
  unfold Handable
  rw [addressAt_toNat low high]
  omega

theorem KeptFor.lies {name : ν} {p : Place} (kept : KeptFor s ip name p) : Lies net s ip p := by
  cases p with
  | fresh | recycled => cases kept
  | held i => exact ⟨name, kept⟩
  | mapped =>
    intro absent
    cases absent.symm.trans kept
  | leaving j => exact ⟨_, kept, rfl⟩

theorem KeptFor.eq {name other : ν} {p : Place} (kept : KeptFor s ip name p)
    (also : KeptFor s ip other p) : name = other := by
  cases p with
  | fresh | recycled => cases kept
  | held i => exact (Query.inserting.inj (kept.symm.trans also)).1
  | mapped => exact Option.some.inj (kept.symm.trans also)
  | leaving j => exact (Run.notified.inj (Option.some.inj (kept.symm.trans also))).2

theorem Invariant.conserved (inv : Invariant net s) : Conserved net s := by
  obtain ⟨place, placed⟩ := inv.placed
  refine ⟨fun ip member => (inv.sound.handed ip member).handable,
    fun x member => (inv.sound.answered x member).handable, fun current member => ?_,
    placed.distinct, fun ip inside => ?_, fun ip outside p there => ?_,
    fun ip name other p q kept also => ?_⟩
  · obtain ⟨low, high⟩ := inv.sound.computed current member
    exact sum_lt low high
  · exact placed.exclusive.existsUnique ((placed.all ip).2 inside)
  · exact outside ((placed.all ip).1 (placed.exclusive.isSome_of_lies there))
  · obtain rfl := placed.exclusive.eq kept.lies also.lies
    exact ⟨rfl, kept.eq also⟩

variable [DecidableEq ν] {fromVec : Bytes → Option (List (Question ν))}

/-- In every state of every run each address of the pool is in one place, and what is handed out
is a host of the network. -/
theorem fake_addresses_conserved {es : List (Event Action (Change ν))}
    (run : Runs (fakeAddressPool net fromVec).system es s) : Conserved net s :=
  (runs_invariant run).conserved

end Conservation

section Races

/-- 10.0.0.0/29, which has four addresses to hand out. -/
def tinyNet : Ipv4Net := ⟨⟨0x0A000000⟩, ⟨29, by decide⟩⟩

def namedByLength (queryBytes : Bytes) : Option (List (Question ℕ)) :=
  some [⟨queryBytes.length, .a⟩]

/-- Two queries race for the cursor; the first one's mapping is evicted and its address goes to a
third query, which does not wait for the second. -/
def racing : List (Event Action (Change ℕ)) :=
  [.task 0 (.ask [0]), .task 1 (.ask [0, 0]), .task 0 .get, .task 1 .get, .task 0 .pop,
    .task 1 .pop, .task 0 .load, .task 1 .load, .task 0 .exchange, .task 1 .exchange,
    .task 0 .insertAddress, .world (.evictAddress (addressAt tinyNet 2)), .task 0 .insertDomain,
    .task 1 .load, .world (.invalidate 0), .world (.recycle 0), .task 2 (.ask [0, 0, 0]),
    .task 2 .get, .task 2 .pop, .task 2 .insertAddress, .task 1 .exchange]

theorem fake_addresses_conserved_racing :
    ∃ s, Runs (fakeAddressPool tinyNet namedByLength).system racing s ∧
      s.shared.handed = [addressAt tinyNet 2, addressAt tinyNet 2, addressAt tinyNet 3] ∧
      s.shared.ipToDomain (addressAt tinyNet 2) = some 3 ∧ Conserved tinyNet s := by
  have ran : ∃ s, exec (fakeAddressPool tinyNet namedByLength).system racing = some s ∧
      s.shared.handed = [addressAt tinyNet 2, addressAt tinyNet 2, addressAt tinyNet 3] ∧
      s.shared.ipToDomain (addressAt tinyNet 2) = some 3 := ⟨_, rfl, rfl, rfl⟩
  obtain ⟨s, run, handed, mapped⟩ := ran
  exact ⟨s, runs_of_exec run, handed, mapped, fake_addresses_conserved (runs_of_exec run)⟩

end Races
end Ombrac.FakeAddressPool
