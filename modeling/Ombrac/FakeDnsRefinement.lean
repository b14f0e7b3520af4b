import Ombrac.FakeAddressPool

set_option autoImplicit false

/-!
# The timed fake DNS runs in the pool

Every run of the fake DNS with its clock is a run of the pool. The clock is no step there: an idle
mapping may stay until a lookup misses it, and is evicted just before that. An allocation is a pop,
a load and an exchange that nothing interrupts.
-/
namespace Ombrac.FakeDnsRefinement
open LabelledSystem SharedTasks ProtocolPacket TunAddress IdleCache TunFakeDns FakeAddressPool

variable {ν : Type}

def queryOf : Call ν → Query ν
  | .idle => .idle
  | .allocating name => .popping name
  | .inserting name ip => .inserting name ip
  | .recording name ip => .recording name ip

def runOf : Listener ν → Option (Run ν)
  | .idle => none
  | .notified ip name => some (.notified ip name)
  | .invalidated ip => some (.invalidated ip)

/-- `number` tells the pool's run that each busy listener is. -/
structure Numbered (runs : ℕ → Option (Run ν)) (started : ℕ) (listeners : ℕ → Listener ν)
    (number : ℕ → ℕ) : Prop where
  runs : ∀ j, listeners j ≠ .idle → runs (number j) = runOf (listeners j)
  below : ∀ j, listeners j ≠ .idle → number j < started
  distinct : ∀ j k, listeners j ≠ .idle → listeners k ≠ .idle → number j = number k → j = k

/-- The pool may still have mappings that the clock has hidden. -/
structure Shown (d : FakeDns ν) (p : Pool ν) : Prop where
  queue : p.recycledIps = d.recycledIps
  cursor : p.cursor = d.cursor
  domains : ∀ name ip, d.domainToIp.visible d.now name = some ip → p.domainToIp name = some ip
  addresses : ∀ ip, p.ipToDomain ip = (d.ipToDomain.entries ip).map Entry.value
  listeners : ∃ number, Numbered p.runs p.started d.listeners number
  answers : p.answers = d.answers.map fun a => (a.name, a.ip)

structure Simulates (d : FakeDns ν) (s : State (Pool ν) (Query ν)) : Prop where
  shown : Shown d s.shared
  calls : ∀ i, s.phase i = queryOf (d.calls i)

theorem simulates_new : Simulates (.new : FakeDns ν) ⟨.new, fun _ => .idle⟩ where
  shown := by
    refine ⟨rfl, rfl, fun name ip seen => ?_, fun _ => rfl, ⟨id, ?_, ?_, ?_⟩, rfl⟩
    · cases seen
    · exact fun j busy => absurd rfl busy
    · exact fun j busy => absurd rfl busy
    · exact fun j k busy => absurd rfl busy
  calls _ := rfl

section Steps
variable {d : FakeDns ν} {p : Pool ν} {s : State (Pool ν) (Query ν)}

theorem Shown.answer (h : Shown d p) (name : ν) (ip : Ipv4Addr) :
    Shown (d.answer name ip) (p.answer name ip) := by
  refine ⟨h.queue, h.cursor, h.domains, h.addresses, h.listeners, ?_⟩
  simp only [Pool.answer, FakeDns.answer, h.answers, List.map_append, List.map_cons, List.map_nil]

theorem Shown.setCall (h : Shown d p) (i : ℕ) (call : Call ν) : Shown (d.setCall i call) p :=
  ⟨h.queue, h.cursor, h.domains, h.addresses, h.listeners, h.answers⟩

/-- A call moves with the query that runs it. -/
theorem Simulates.move (h : Simulates d s) {d' : FakeDns ν} {i : ℕ} {next : Pool ν × Query ν}
    {call : Call ν} (shown : Shown d' next.1) (own : next.2 = queryOf call)
    (calls : d'.calls = Function.update d.calls i call) : Simulates d' (s.move i next) := by
  refine ⟨shown, fun j => ?_⟩
  rw [calls]
  by_cases same : j = i
  · subst same
    rw [State.move_phase, Function.update_self]
    exact own
  · rw [State.move_phase_of_ne s same, Function.update_of_ne same]
    exact h.calls j

/-- The query is idle before and after. -/
theorem Simulates.answered (h : Simulates d s) {d' : FakeDns ν} {i : ℕ} {p : Pool ν}
    (idle : d.calls i = .idle) (shown : Shown d' p) (calls : d'.calls = d.calls) :
    Simulates d' (s.move i (p, .idle)) := by
  have kept : d'.calls = Function.update d.calls i .idle := by
    rw [calls, ← idle, Function.update_eq_self]
  exact h.move shown rfl kept

/-- A change of the world. -/
theorem Simulates.change (h : Simulates d s) {d' : FakeDns ν} {p : Pool ν} (shown : Shown d' p)
    (calls : d'.calls = d.calls) : Simulates d' { s with shared := p } :=
  ⟨shown, fun j => calls ▸ h.calls j⟩

theorem Shown.advance (h : Shown d p) (time : ℕ) : Shown (d.advance time) p :=
  ⟨h.queue, h.cursor, fun name ip seen => h.domains name ip
    (Cache.visible_of_le (Nat.le_add_right ..) seen), h.addresses, h.listeners, h.answers⟩

/-- A read of `ip_to_domain` may renew an entry there, which the pool does not see. -/
theorem Shown.getDomainByIp (h : Shown d p) (ip : Ipv4Addr) :
    Shown { d with ipToDomain := (d.ipToDomain.get d.now ip).1 } p :=
  ⟨h.queue, h.cursor, h.domains, fun x => (h.addresses x).trans (Cache.get_values ..).symm,
    h.listeners, h.answers⟩

/-! ## Runs of the listener -/

section Listeners
variable {runs : ℕ → Option (Run ν)} {started : ℕ} {listeners : ℕ → Listener ν} {number : ℕ → ℕ}

theorem Numbered.notify (h : Numbered runs started listeners number) {j : ℕ}
    (idle : listeners j = .idle) (ip : Ipv4Addr) (name : ν) :
    Numbered (Function.update runs started (some (.notified ip name))) (started + 1)
      (Function.update listeners j (.notified ip name)) (Function.update number j started) := by
  have others : ∀ k, k ≠ j → Function.update listeners j (.notified ip name) k ≠ .idle →
      Function.update number j started k = number k ∧ listeners k ≠ .idle ∧ number k < started := by
    intro k other busy
    rw [Function.update_of_ne other] at busy
    exact ⟨Function.update_of_ne other .., busy, h.below k busy⟩
  refine ⟨fun k busy => ?_, fun k busy => ?_, fun k l busy busy' same => ?_⟩
  · by_cases own : k = j
    · subst own
      simp only [Function.update_self, runOf]
    · obtain ⟨kept, busy, below⟩ := others k own busy
      rw [kept, Function.update_of_ne (Nat.ne_of_lt below), Function.update_of_ne own]
      exact h.runs k busy
  · by_cases own : k = j
    · subst own
      rw [Function.update_self]
      exact Nat.lt_succ_self started
    · obtain ⟨kept, _, below⟩ := others k own busy
      rw [kept]
      exact Nat.lt_succ_of_lt below
  · by_cases own : k = j
    · by_cases own' : l = j
      · exact own.trans own'.symm
      · obtain ⟨kept, _, below⟩ := others l own' busy'
        rw [own, Function.update_self, kept] at same
        omega
    · obtain ⟨kept, busy, below⟩ := others k own busy
      by_cases own' : l = j
      · rw [own', Function.update_self, kept] at same
        omega
      · obtain ⟨kept', busy', _⟩ := others l own' busy'
        rw [kept, kept'] at same
        exact h.distinct k l busy busy' same

/-- A busy listener goes on, or is done. -/
theorem Numbered.proceed (h : Numbered runs started listeners number) {j : ℕ}
    (busy : listeners j ≠ .idle) (listener : Listener ν) :
    Numbered (Function.update runs (number j) (runOf listener)) started
      (Function.update listeners j listener) number := by
  have still : ∀ k, Function.update listeners j listener k ≠ .idle → listeners k ≠ .idle := by
    intro k now
    by_cases own : k = j
    · exact own ▸ busy
    · rwa [Function.update_of_ne own] at now
  refine ⟨fun k now => ?_, fun k now => h.below k (still k now), fun k l now now' =>
    h.distinct k l (still k now) (still l now')⟩
  by_cases own : k = j
  · subst own
    rw [Function.update_self, Function.update_self]
  · have apart : number k ≠ number j := fun same => own (h.distinct k j (still k now) busy same)
    rw [Function.update_of_ne apart, Function.update_of_ne own]
    exact h.runs k (still k now)

end Listeners

/-! ## Steps -/

theorem Shown.renew [DecidableEq ν] (h : Shown d p) {name : ν} {ip : Ipv4Addr}
    (found : d.domainToIp.visible d.now name = some ip) :
    Shown { d with domainToIp := d.domainToIp.insert d.now name ip } p := by
  refine ⟨h.queue, h.cursor, fun other x seen => ?_, h.addresses, h.listeners, h.answers⟩
  rcases Cache.visible_insert seen with ⟨rfl, rfl⟩ | ⟨_, before⟩
  · exact h.domains other x found
  · exact h.domains other x before

theorem addresses_update {entries : Ipv4Addr → Option (Entry ν)} {names : Ipv4Addr → Option ν}
    (h : ∀ ip, names ip = (entries ip).map Entry.value) (ip : Ipv4Addr)
    (entry : Option (Entry ν)) (x : Ipv4Addr) :
    Function.update names ip (entry.map Entry.value) x =
      (Function.update entries ip entry x).map Entry.value := by
  by_cases same : x = ip
  · subst same
    rw [Function.update_self, Function.update_self]
  · rw [Function.update_of_ne same, Function.update_of_ne same]
    exact h x

/-- A mapping that the clock has hidden may be evicted. -/
theorem Shown.evictDomain [DecidableEq ν] (h : Shown d p) {name : ν}
    (absent : d.domainToIp.visible d.now name = none) :
    Shown d { p with domainToIp := Function.update p.domainToIp name none } := by
  refine ⟨h.queue, h.cursor, fun other x seen => ?_, h.addresses, h.listeners, h.answers⟩
  have apart : other ≠ name := by
    rintro rfl
    cases absent.symm.trans seen
  exact (Function.update_of_ne apart ..).trans (h.domains other x seen)

section Matching
variable [DecidableEq ν] {net : Ipv4Net} {fromVec : Bytes → Option (List (Question ν))}

def Matched (net : Ipv4Net) (fromVec : Bytes → Option (List (Question ν)))
    (s : State (Pool ν) (Query ν)) (d : FakeDns ν) : Prop :=
  ∃ more s', execFrom (fakeAddressPool net fromVec).system s more = some s' ∧ Simulates d s'

theorem Matched.stay (h : Simulates d s) : Matched net fromVec s d := ⟨[], s, rfl, h⟩

theorem Matched.task {i : ℕ} {action : Action} {next : Pool ν × Query ν}
    (step : queryStep net fromVec s.shared (s.phase i) action = some next)
    (rest : Matched net fromVec (s.move i next) d) : Matched net fromVec s d := by
  obtain ⟨more, s', run, simulates⟩ := rest
  exact ⟨_, s', (Program.execFrom_task (P := fakeAddressPool net fromVec) step more).trans run,
    simulates⟩

/-- The next step of a query that goes on at once. -/
theorem Matched.next {i : ℕ} {action : Action} {next last : Pool ν × Query ν}
    (step : queryStep net fromVec next.1 next.2 action = some last)
    (rest : Matched net fromVec (s.move i last) d) : Matched net fromVec (s.move i next) d := by
  obtain ⟨more, s', run, simulates⟩ := rest
  exact ⟨_, s', (Program.execFrom_next (P := fakeAddressPool net fromVec) step more).trans run,
    simulates⟩

theorem Matched.world {change : Change ν} {shared : Pool ν}
    (step : poolChange s.shared change = some shared)
    (rest : Matched net fromVec { s with shared := shared } d) : Matched net fromVec s d := by
  obtain ⟨more, s', run, simulates⟩ := rest
  exact ⟨_, s', (Program.execFrom_world (P := fakeAddressPool net fromVec) step more).trans run,
    simulates⟩

theorem lookup_hit_matched (h : Simulates d s) {i : ℕ} (idle : d.calls i = .idle)
    {queryBytes : Bytes} {name : ν} (asks : asked (fromVec queryBytes) = .address name)
    {ip : Ipv4Addr} (seen : d.domainToIp.visible d.now name = some ip) :
    Matched net fromVec s (d.lookup i name) := by
  have phase : s.phase i = .idle := (h.calls i).trans (congrArg queryOf idle)
  have found : d.lookup i name = ({ d with
      domainToIp := d.domainToIp.insert d.now name ip }).answer name ip := by
    simp only [FakeDns.lookup, Cache.get, seen, Cache.insert]
  have ask : queryStep net fromVec s.shared (s.phase i) (.ask queryBytes) =
      some (s.shared, .looking name) := by
    simp only [queryStep, phase, asks]
  have get : queryStep net fromVec s.shared (.looking name) .get =
      some (s.shared.answer name ip, .idle) := by
    simp only [queryStep, h.shown.domains name ip seen]
  rw [found]
  refine .task ask (.next get (.stay ?_))
  exact h.answered idle ((h.shown.renew seen).answer name ip) rfl

/-- What the lookup does not see has been evicted. -/
theorem lookup_miss_matched (h : Simulates d s) {i : ℕ} (idle : d.calls i = .idle)
    {queryBytes : Bytes} {name : ν} (asks : asked (fromVec queryBytes) = .address name)
    (absent : d.domainToIp.visible d.now name = none) :
    Matched net fromVec s (d.lookup i name) := by
  have missed : d.lookup i name = d.setCall i (.allocating name) := by
    simp only [FakeDns.lookup, Cache.get, absent]
  have shown := h.shown.evictDomain absent
  generalize without : { s.shared with
    domainToIp := Function.update s.shared.domainToIp name none } = p at shown
  have gone : p.domainToIp name = none := by
    rw [← without]
    exact Function.update_self ..
  have evicted := h.change shown rfl
  have phase : s.phase i = .idle := (h.calls i).trans (congrArg queryOf idle)
  have ask : queryStep net fromVec p (s.phase i) (.ask queryBytes) = some (p, .looking name) := by
    simp only [queryStep, phase, asks]
  have get : queryStep net fromVec p (.looking name) .get = some (p, .popping name) := by
    simp only [queryStep, gone]
  have evict : poolChange s.shared (.evictDomain name) = some p := congrArg some without
  rw [missed]
  refine .world evict (.task ask (.next get (.stay ?_)))
  exact evicted.move (shown.setCall i _) rfl rfl

theorem query_matched (h : Simulates d s) {i : ℕ} {queryBytes : Bytes} {d' : FakeDns ν}
    (step : fakeDnsStep net fromVec d (.query i queryBytes) = some d') :
    Matched net fromVec s d' := by
  cases call : d.calls i with
  | idle =>
    simp only [fakeDnsStep, call] at step
    cases asks : asked (fromVec queryBytes) with
    | nothing | refused =>
      simp only [asks] at step
      obtain rfl := Option.some.inj step
      exact .stay h
    | address name =>
      simp only [asks] at step
      obtain rfl := Option.some.inj step
      cases seen : d.domainToIp.visible d.now name with
      | some ip => exact lookup_hit_matched h call asks seen
      | none => exact lookup_miss_matched h call asks seen
  | _ => simp [fakeDnsStep, call] at step

/-- An allocation that nothing interrupts. -/
theorem allocate_matched (h : Simulates d s) {i : ℕ} {name : ν}
    (allocates : d.calls i = .allocating name) :
    Matched net fromVec s (d.allocateUniqueIp net i name) := by
  have phase : s.phase i = .popping name := (h.calls i).trans (congrArg queryOf allocates)
  have shown := h.shown
  unfold FakeDns.allocateUniqueIp
  cases queue : d.recycledIps with
  | cons ip rest =>
    have pop : queryStep net fromVec s.shared (s.phase i) .pop =
        some ({ s.shared with recycledIps := rest }.hand ip, .inserting name ip) := by
      simp only [queryStep, phase, shown.queue, queue]
    refine .task pop (.stay (h.move ?_ rfl rfl))
    exact ⟨rfl, shown.cursor, shown.domains, shown.addresses, shown.listeners, shown.answers⟩
  | nil =>
    have pop : queryStep net fromVec s.shared (s.phase i) .pop =
        some (s.shared, .loading name) := by
      simp only [queryStep, phase, shown.queue, queue]
    dsimp only
    split_ifs with small
    · have load : queryStep net fromVec s.shared (.loading name) .load =
          some (s.shared, .exchanging name d.cursor) := by
        simp only [queryStep, shown.cursor, if_neg (Nat.not_le.2 small)]
      have exchange : queryStep net fromVec s.shared (.exchanging name d.cursor) .exchange =
          some ({ s.shared with
            cursor := d.cursor + 1
            computed := s.shared.computed ++ [d.cursor] }.hand (addressAt net d.cursor),
            .inserting name (addressAt net d.cursor)) := if_pos shown.cursor
      refine .task pop (.next load (.next exchange (.stay (h.move ?_ rfl rfl))))
      exact ⟨shown.queue.trans queue, rfl, shown.domains, shown.addresses, shown.listeners,
        shown.answers⟩
    · have load : queryStep net fromVec s.shared (.loading name) .load =
          some (s.shared, .idle) := by
        simp only [queryStep, shown.cursor, if_pos (Nat.not_lt.1 small)]
      exact .task pop (.next load (.stay (h.move (shown.setCall i .idle) rfl rfl)))

theorem insertAddress_matched (h : Simulates d s) (inv : FakeAddressPool.Invariant net s) {i : ℕ}
    {name : ν} {ip : Ipv4Addr} (holds : d.calls i = .inserting name ip) :
    Matched net fromVec s ({ d with
      ipToDomain := d.ipToDomain.insert d.now ip name }.setCall i (.recording name ip)) := by
  have phase : s.phase i = .inserting name ip := (h.calls i).trans (congrArg queryOf holds)
  obtain ⟨place, placed⟩ := inv.placed
  have insert : queryStep net fromVec s.shared (s.phase i) .insertAddress =
      some ({ s.shared with
        ipToDomain := Function.update s.shared.ipToDomain ip (some name) },
        .recording name ip) := by
    simp only [queryStep, phase, insertAddress_of_unmapped (placed.unmapped phase)]
  have shown := h.shown
  refine .task insert (.stay (h.move ?_ rfl rfl))
  exact ⟨shown.queue, shown.cursor, shown.domains,
    addresses_update shown.addresses ip (some ⟨name, d.now⟩), shown.listeners, shown.answers⟩

theorem insertDomain_matched (h : Simulates d s) {i : ℕ} {name : ν} {ip : Ipv4Addr}
    (records : d.calls i = .recording name ip) :
    Matched net fromVec s (({ d with
      domainToIp := d.domainToIp.insert d.now name ip }.setCall i .idle).answer name ip) := by
  have phase : s.phase i = .recording name ip := (h.calls i).trans (congrArg queryOf records)
  have insert : queryStep net fromVec s.shared (s.phase i) .insertDomain =
      some ({ s.shared with
        domainToIp := Function.update s.shared.domainToIp name (some ip) }.answer name ip,
        .idle) := by
    simp only [queryStep, phase]
  have shown := h.shown
  have inserted : Shown { d with domainToIp := d.domainToIp.insert d.now name ip } { s.shared with
      domainToIp := Function.update s.shared.domainToIp name (some ip) } := by
    refine ⟨shown.queue, shown.cursor, fun other x seen => ?_, shown.addresses, shown.listeners,
      shown.answers⟩
    change Function.update s.shared.domainToIp name (some ip) other = some x
    rcases Cache.visible_insert seen with ⟨rfl, rfl⟩ | ⟨apart, before⟩
    · exact Function.update_self ..
    · rw [Function.update_of_ne apart]
      exact shown.domains other x before
  exact .task insert (.stay (h.move ((inserted.setCall i .idle).answer name ip) rfl rfl))

theorem evictAddress_matched (h : Simulates d s) {j : ℕ} {ip : Ipv4Addr} {name : ν}
    (idle : d.listeners j = .idle) (expired : d.ipToDomain.expired d.now ip = some name) :
    Matched net fromVec s ({ d with
      ipToDomain := d.ipToDomain.invalidate ip }.setListener j (.notified ip name)) := by
  obtain ⟨accessed, there, _⟩ := Cache.expired_eq_some.1 expired
  have shown := h.shown
  have mapped : s.shared.ipToDomain ip = some name := by
    rw [shown.addresses ip, there, Option.map_some]
  have evict : poolChange s.shared (.evictAddress ip) = some (s.shared.notify ip name) := by
    simp only [poolChange, mapped, Option.map_some]
  obtain ⟨number, numbered⟩ := shown.listeners
  refine .world evict (.stay (h.change ?_ rfl))
  exact ⟨shown.queue, shown.cursor, shown.domains, addresses_update shown.addresses ip none,
    ⟨_, numbered.notify idle ip name⟩, shown.answers⟩

theorem invalidate_matched (h : Simulates d s) {j : ℕ} {ip : Ipv4Addr} {name : ν}
    (notified : d.listeners j = .notified ip name) :
    Matched net fromVec s ({ d with
      domainToIp := d.domainToIp.invalidate name }.setListener j (.invalidated ip)) := by
  have shown := h.shown
  obtain ⟨number, numbered⟩ := shown.listeners
  have busy : d.listeners j ≠ .idle := by
    intro idle
    cases idle.symm.trans notified
  have running : s.shared.runs (number j) = some (.notified ip name) :=
    (numbered.runs j busy).trans (congrArg runOf notified)
  have invalidate : poolChange s.shared (.invalidate (number j)) = some { s.shared with
      domainToIp := Function.update s.shared.domainToIp name none
      runs := Function.update s.shared.runs (number j) (some (.invalidated ip)) } := by
    simp only [poolChange, running]
  refine .world invalidate (.stay (h.change ?_ rfl))
  refine ⟨shown.queue, shown.cursor, fun other x seen => ?_, shown.addresses,
    ⟨number, numbered.proceed busy (.invalidated ip)⟩, shown.answers⟩
  obtain ⟨apart, before⟩ := Cache.visible_invalidate seen
  change Function.update s.shared.domainToIp name none other = some x
  rw [Function.update_of_ne apart]
  exact shown.domains other x before

theorem recycle_matched (h : Simulates d s) {j : ℕ} {ip : Ipv4Addr}
    (invalidated : d.listeners j = .invalidated ip) :
    Matched net fromVec s
      ({ d with recycledIps := d.recycledIps ++ [ip] }.setListener j .idle) := by
  have shown := h.shown
  obtain ⟨number, numbered⟩ := shown.listeners
  have busy : d.listeners j ≠ .idle := by
    intro idle
    cases idle.symm.trans invalidated
  have running : s.shared.runs (number j) = some (.invalidated ip) :=
    (numbered.runs j busy).trans (congrArg runOf invalidated)
  have recycle : poolChange s.shared (.recycle (number j)) = some { s.shared with
      recycledIps := s.shared.recycledIps ++ [ip]
      runs := Function.update s.shared.runs (number j) none } := by
    simp only [poolChange, running]
  refine .world recycle (.stay (h.change ?_ rfl))
  exact ⟨congrArg (· ++ [ip]) shown.queue, shown.cursor, shown.domains, shown.addresses,
    ⟨number, numbered.proceed busy .idle⟩, shown.answers⟩

theorem fakeDnsStep_matched (h : Simulates d s) (inv : FakeAddressPool.Invariant net s)
    {e : TunFakeDns.Event} {d' : FakeDns ν} (step : fakeDnsStep net fromVec d e = some d') :
    Matched net fromVec s d' := by
  cases e with
  | advance time =>
    obtain rfl := Option.some.inj step
    exact .stay ⟨h.shown.advance time, h.calls⟩
  | query i queryBytes => exact query_matched h step
  | allocate i =>
    simp only [fakeDnsStep] at step
    split at step
    · rename_i name allocates
      obtain rfl := Option.some.inj step
      exact allocate_matched h allocates
    · cases step
  | insertAddress i =>
    simp only [fakeDnsStep] at step
    split at step
    · rename_i name ip holds
      obtain rfl := Option.some.inj step
      exact insertAddress_matched h inv holds
    · cases step
  | insertDomain i =>
    simp only [fakeDnsStep] at step
    split at step
    · rename_i name ip records
      obtain rfl := Option.some.inj step
      exact insertDomain_matched h records
    · cases step
  | getDomainByIp ip =>
    cases ip with
    | v4 ip =>
      obtain rfl := Option.some.inj step
      exact .stay ⟨h.shown.getDomainByIp ip, h.calls⟩
    | v6 ip =>
      obtain rfl := Option.some.inj step
      exact .stay h
  | evictAddress j ip =>
    simp only [fakeDnsStep] at step
    split at step
    · rename_i name idle expired
      obtain rfl := Option.some.inj step
      exact evictAddress_matched h idle expired
    · cases step
  | invalidate j =>
    simp only [fakeDnsStep] at step
    split at step
    · rename_i ip name notified
      obtain rfl := Option.some.inj step
      exact invalidate_matched h notified
    · cases step
  | recycle j =>
    simp only [fakeDnsStep] at step
    split at step
    · rename_i ip invalidated
      obtain rfl := Option.some.inj step
      exact recycle_matched h invalidated
    · cases step

/-- A run with the clock is a run of the pool. -/
theorem fakeDns_simulated {es : List TunFakeDns.Event}
    (run : Runs (fakeDnsSystem net fromVec) es d) :
    ∃ fs s, Runs (fakeAddressPool net fromVec).system fs s ∧ Simulates d s := by
  refine run.simulated simulates_new ?_
  intro fs u e v t matched simulates step
  exact fakeDnsStep_matched simulates (FakeAddressPool.runs_invariant matched) step

/-- So the clock's runs hand out hosts of the network only, and none of them twice at a time. -/
theorem fakeDns_conserved {es : List TunFakeDns.Event}
    (run : Runs (fakeDnsSystem net fromVec) es d) :
    d.recycledIps.Nodup ∧ (∀ ip ∈ d.recycledIps, Handable net ip) ∧
      ∀ a ∈ d.answers, Handable net a.ip := by
  obtain ⟨fs, s, matched, simulates⟩ := fakeDns_simulated run
  have inv := FakeAddressPool.runs_invariant matched
  obtain ⟨place, placed⟩ := inv.placed
  have queue := simulates.shown.queue
  refine ⟨queue ▸ placed.distinct, fun ip member => ?_, fun a member => ?_⟩
  · have there : Lies net s ip .recycled := by
      change ip ∈ s.shared.recycledIps
      rwa [queue]
    exact ((placed.all ip).1 (placed.exclusive.isSome_of_lies there)).handable
  · have answered : (a.name, a.ip) ∈ s.shared.answers := by
      rw [simulates.shown.answers]
      exact List.mem_map_of_mem member
    exact (inv.sound.answered _ answered).handable

end Matching
end Steps
end Ombrac.FakeDnsRefinement
