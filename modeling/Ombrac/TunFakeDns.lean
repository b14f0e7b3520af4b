import Ombrac.IdleCache
import Ombrac.LabelledSystem
import Ombrac.TunAddress

set_option autoImplicit false

/-!
# The fake DNS of the TUN endpoint

Any number of calls of `handle_dns_query` and runs of the eviction listener interleave, one access
to a cache, the queue or the cursor at a time; the clock, in nanoseconds, may advance in between.
An expired entry of `ip_to_domain` is evicted at some time after its expiry, and the listener told;
one of `domain_to_ip` is never seen again, evicted or not. Domain names are the DNS library's, and
so is the parser of queries.
-/
namespace Ombrac.TunFakeDns
open LabelledSystem ProtocolPacket TunAddress IdleCache

def second : ℕ := 1000000000

def dnsResponseTtl : ℕ := 5 * second

def cacheTtl : ℕ := dnsResponseTtl + 7 * 24 * 60 * 60 * second

inductive RecordType where
  | a
  | other (code : UInt16)
  deriving DecidableEq, Repr

structure Question (ν : Type) where
  name : ν
  queryType : RecordType

/-- What `handle_dns_query` does with a query before it looks at its caches. -/
inductive Asked (ν : Type) where
  | nothing
  | refused
  | address (name : ν)

def asked {ν : Type} : Option (List (Question ν)) → Asked ν
  | none | some [] => .nothing
  | some (question :: _) =>
    if question.queryType = .a then .address question.name else .refused

/-- The number of hosts: networks of one or two addresses have no network or broadcast address. -/
def maxHosts (net : Ipv4Net) : ℕ := if 31 ≤ net.prefixLen.val then net.size else net.size - 2

def addressAt (net : Ipv4Net) (current : ℕ) : Ipv4Addr := ⟨(net.network + 1 + current).toUInt32⟩

inductive Call (ν : Type) where
  | idle
  | allocating (name : ν)
  | inserting (name : ν) (ip : Ipv4Addr)
  | recording (name : ν) (ip : Ipv4Addr)

inductive Listener (ν : Type) where
  | idle
  | notified (ip : Ipv4Addr) (name : ν)
  | invalidated (ip : Ipv4Addr)

structure Answer (ν : Type) where
  name : ν
  ip : Ipv4Addr
  time : ℕ
  deriving DecidableEq

structure FakeDns (ν : Type) where
  now : ℕ
  domainToIp : Cache cacheTtl ν Ipv4Addr
  ipToDomain : Cache cacheTtl Ipv4Addr ν
  recycledIps : List Ipv4Addr
  cursor : ℕ
  calls : ℕ → Call ν
  listeners : ℕ → Listener ν
  answers : List (Answer ν)

inductive Event where
  | advance (time : ℕ)
  | query (i : ℕ) (queryBytes : Bytes)
  | allocate (i : ℕ)
  | insertAddress (i : ℕ)
  | insertDomain (i : ℕ)
  | getDomainByIp (ip : IpAddr)
  | evictAddress (j : ℕ) (ip : Ipv4Addr)
  | invalidate (j : ℕ)
  | recycle (j : ℕ)

namespace FakeDns
variable {ν : Type}

/-- The cursor starts at 2, so the first host addresses are never handed out. -/
def new : FakeDns ν where
  now := 0
  domainToIp := .new
  ipToDomain := .new
  recycledIps := []
  cursor := 2
  calls := fun _ => .idle
  listeners := fun _ => .idle
  answers := []

def setCall (s : FakeDns ν) (i : ℕ) (call : Call ν) : FakeDns ν :=
  { s with calls := Function.update s.calls i call }

def setListener (s : FakeDns ν) (j : ℕ) (listener : Listener ν) : FakeDns ν :=
  { s with listeners := Function.update s.listeners j listener }

def advance (s : FakeDns ν) (time : ℕ) : FakeDns ν := { s with now := s.now + time }

def answer (s : FakeDns ν) (name : ν) (ip : Ipv4Addr) : FakeDns ν :=
  { s with answers := s.answers ++ [⟨name, ip, s.now⟩] }

def lookup [DecidableEq ν] (s : FakeDns ν) (i : ℕ) (name : ν) : FakeDns ν :=
  match s.domainToIp.get s.now name with
  | (domainToIp, some ip) => { s with domainToIp := domainToIp }.answer name ip
  | (domainToIp, none) => { s with domainToIp := domainToIp }.setCall i (.allocating name)

def allocateUniqueIp (net : Ipv4Net) (s : FakeDns ν) (i : ℕ) (name : ν) : FakeDns ν :=
  match s.recycledIps with
  | ip :: rest => { s with recycledIps := rest }.setCall i (.inserting name ip)
  | [] =>
    if s.cursor < maxHosts net then
      { s with cursor := s.cursor + 1 }.setCall i (.inserting name (addressAt net s.cursor))
    else s.setCall i .idle

end FakeDns

section System
variable {ν : Type}

def fakeDnsStep [DecidableEq ν] (net : Ipv4Net)
    (fromVec : Bytes → Option (List (Question ν))) (s : FakeDns ν) : Event → Option (FakeDns ν)
  | .advance time => some (s.advance time)
  | .query i queryBytes =>
    match s.calls i with
    | .idle =>
      match asked (fromVec queryBytes) with
      | .nothing | .refused => some s
      | .address name => some (s.lookup i name)
    | _ => none
  | .allocate i =>
    match s.calls i with
    | .allocating name => some (s.allocateUniqueIp net i name)
    | _ => none
  | .insertAddress i =>
    match s.calls i with
    | .inserting name ip => some ({ s with
        ipToDomain := s.ipToDomain.insert s.now ip name }.setCall i (.recording name ip))
    | _ => none
  | .insertDomain i =>
    match s.calls i with
    | .recording name ip => some (({ s with
        domainToIp := s.domainToIp.insert s.now name ip }.setCall i .idle).answer name ip)
    | _ => none
  | .getDomainByIp (.v4 ip) => some { s with ipToDomain := (s.ipToDomain.get s.now ip).1 }
  | .getDomainByIp (.v6 _) => some s
  | .evictAddress j ip =>
    match s.listeners j, s.ipToDomain.expired s.now ip with
    | .idle, some name => some ({ s with
        ipToDomain := s.ipToDomain.invalidate ip }.setListener j (.notified ip name))
    | _, _ => none
  | .invalidate j =>
    match s.listeners j with
    | .notified ip name => some ({ s with
        domainToIp := s.domainToIp.invalidate name }.setListener j (.invalidated ip))
    | _ => none
  | .recycle j =>
    match s.listeners j with
    | .invalidated ip => some ({ s with
        recycledIps := s.recycledIps ++ [ip] }.setListener j .idle)
    | _ => none

def fakeDnsSystem [DecidableEq ν] (net : Ipv4Net) (fromVec : Bytes → Option (List (Question ν))) :
    System (FakeDns ν) Event :=
  ⟨.new, fakeDnsStep net fromVec⟩

/-! ## Answers stay valid -/

/-- `get_domain_by_ip` returns the domain of every answer whose TTL has not passed, and its
address is not to be handed out again. -/
def Valid (s : FakeDns ν) : Prop :=
  ∀ a ∈ s.answers, s.now ≤ a.time + dnsResponseTtl →
    s.ipToDomain.visible s.now a.ip = some a.name ∧ a.ip ∉ s.recycledIps

/-- The entry of `ip_to_domain` stays visible for the TTL from `time` on if it is not read. -/
def Lasting (s : FakeDns ν) (name : ν) (ip : Ipv4Addr) (time : ℕ) : Prop :=
  ∃ accessed, s.ipToDomain.entries ip = some ⟨name, accessed⟩ ∧
    time + dnsResponseTtl < accessed + cacheTtl

/-- A query is answered only with an address whose entry in `ip_to_domain` is lasting. -/
def Guarded (fromVec : Bytes → Option (List (Question ν))) (s : FakeDns ν) : Event → Prop
  | .query _ queryBytes => ∀ name ip, asked (fromVec queryBytes) = .address name →
      s.domainToIp.visible s.now name = some ip → Lasting s name ip s.now
  | .insertDomain i => ∀ name ip, s.calls i = .recording name ip → Lasting s name ip s.now
  | _ => True

inductive Place where
  | fresh
  | recycled
  | held (i : ℕ)
  | mapped
  | leaving (j : ℕ)
  deriving DecidableEq

structure Places (net : Ipv4Net) (s : FakeDns ν) (place : Ipv4Addr → Place) : Prop where
  distinct : s.recycledIps.Nodup
  recycled : ∀ ip ∈ s.recycledIps, place ip = .recycled
  held : ∀ i name ip, s.calls i = .inserting name ip → place ip = .held i
  mapped : ∀ ip, s.ipToDomain.entries ip ≠ none → place ip = .mapped
  leaving : ∀ j ip, (∃ name, s.listeners j = .notified ip name) ∨
    s.listeners j = .invalidated ip → place ip = .leaving j
  fresh : ∀ current, s.cursor ≤ current → current < maxHosts net →
    place (addressAt net current) = .fresh

structure Invariant (net : Ipv4Net) (s : FakeDns ν) : Prop where
  places : ∃ place, Places net s place
  past : ∀ a ∈ s.answers, a.time ≤ s.now

section Step
variable {net : Ipv4Net} {fromVec : Bytes → Option (List (Question ν))} {s u : FakeDns ν}

/-! ## No address is in two places -/

theorem maxHosts_le (net : Ipv4Net) : maxHosts net ≤ 4294967296 := by
  have size_le : net.size ≤ 2 ^ 32 := Nat.pow_le_pow_right (by omega) (by omega)
  unfold maxHosts
  split_ifs <;> omega

theorem addressAt_injective (net : Ipv4Net) {c d : ℕ} (hc : c < maxHosts net)
    (hd : d < maxHosts net) (same : addressAt net c = addressAt net d) : c = d := by
  have bound := maxHosts_le net
  have bits := congrArg (fun ip => ip.bits.toNat) same
  simp only [addressAt, Nat.toUInt32, UInt32.toNat_ofNat'] at bits
  omega

theorem places_new (net : Ipv4Net) : Places net (FakeDns.new : FakeDns ν) fun _ => .fresh := by
  constructor
  · exact List.nodup_nil
  · intro ip member
    cases member
  · intro i name ip holds
    cases holds
  · intro ip there
    exact absurd rfl there
  · intro j ip left
    rcases left with ⟨name, notified⟩ | invalidated
    · cases notified
    · cases invalidated
  · intro current _ _
    rfl

/-- Moving `ip` leaves an address of another place where it is. -/
theorem stays {place : Ipv4Addr → Place} {ip x : Ipv4Addr} {p q : Place} (r : Place)
    (there : place x = p) (here : place ip = q) (apart : p ≠ q) :
    Function.update place ip r x = p := by
  rw [Function.update_of_ne]
  · exact there
  · rintro rfl
    exact apart (there.symm.trans here)

variable {place : Ipv4Addr → Place}

/-- A call that does not come to hold an address. -/
theorem Places.setCall (h : Places net s place) (i : ℕ) (call : Call ν)
    (empty : ∀ name ip, call ≠ .inserting name ip) : Places net (s.setCall i call) place := by
  refine ⟨h.distinct, h.recycled, fun j name ip holds => ?_, h.mapped, h.leaving, h.fresh⟩
  by_cases same : j = i
  · subst same
    simp only [FakeDns.setCall, Function.update_self] at holds
    exact absurd holds (empty name ip)
  · simp only [FakeDns.setCall, Function.update_of_ne same] at holds
    exact h.held j name ip holds

/-- A free address, taken out of its place, is held by the call. -/
theorem Places.hold (h : Places net s place) (i : ℕ) (name : ν) (ip : Ipv4Addr)
    (free : place ip = .fresh ∨ place ip = .recycled) (ips : List Ipv4Addr) (cursor : ℕ)
    (distinct : ips.Nodup) (recycled : ∀ x ∈ ips, x ≠ ip ∧ place x = .recycled)
    (fresh : ∀ current, cursor ≤ current → current < maxHosts net →
      addressAt net current ≠ ip ∧ place (addressAt net current) = .fresh) :
    Places net ({ s with recycledIps := ips, cursor := cursor }.setCall i (.inserting name ip))
      (Function.update place ip (.held i)) := by
  have other : ∀ x p, place x = p → p ≠ .fresh → p ≠ .recycled →
      Function.update place ip (.held i) x = p := by
    intro x p there not_fresh not_recycled
    rcases free with at_fresh | at_recycled
    · exact stays _ there at_fresh not_fresh
    · exact stays _ there at_recycled not_recycled
  constructor
  · exact distinct
  · intro x member
    obtain ⟨apart, there⟩ := recycled x member
    rw [Function.update_of_ne apart]
    exact there
  · intro j name' x holds
    by_cases same : j = i
    · subst same
      simp only [FakeDns.setCall, Function.update_self] at holds
      obtain ⟨_, rfl⟩ := Call.inserting.inj holds
      exact Function.update_self ..
    · simp only [FakeDns.setCall, Function.update_of_ne same] at holds
      exact other x _ (h.held j name' x holds) (by simp) (by simp)
  · intro x there
    exact other x _ (h.mapped x there) (by simp) (by simp)
  · intro j x left
    exact other x _ (h.leaving j x left) (by simp) (by simp)
  · intro current later small
    obtain ⟨apart, there⟩ := fresh current later small
    rw [Function.update_of_ne apart]
    exact there

theorem allocate_places (h : Places net s place) (i : ℕ) (name : ν) :
    ∃ place, Places net (s.allocateUniqueIp net i name) place := by
  unfold FakeDns.allocateUniqueIp
  split
  · rename_i ip rest queue
    have distinct := h.distinct
    have recycled := h.recycled
    rw [queue] at distinct recycled
    obtain ⟨absent, rest_distinct⟩ := List.nodup_cons.1 distinct
    refine ⟨_, h.hold i name ip (.inr (recycled ip List.mem_cons_self)) rest s.cursor
      rest_distinct ?_ ?_⟩
    · intro x member
      refine ⟨?_, recycled x (List.mem_cons_of_mem _ member)⟩
      rintro rfl
      exact absent member
    · intro current later small
      have there := h.fresh current later small
      refine ⟨?_, there⟩
      rintro rfl
      cases there.symm.trans (recycled _ List.mem_cons_self)
  · rename_i queue
    split_ifs with small
    · have there := h.fresh s.cursor le_rfl small
      refine ⟨_, h.hold i name (addressAt net s.cursor) (.inl there) s.recycledIps (s.cursor + 1)
        h.distinct ?_ ?_⟩
      · rw [queue]
        intro x member
        cases member
      · intro current later within
        refine ⟨fun same => ?_, h.fresh current (by omega) within⟩
        have equal := addressAt_injective net within small same
        omega
    · exact ⟨_, h.setCall i .idle (by simp)⟩

theorem allocate_frame (net : Ipv4Net) (s : FakeDns ν) (i : ℕ) (name : ν) :
    ∃ ips cursor call, s.allocateUniqueIp net i name =
      { s with recycledIps := ips, cursor := cursor }.setCall i call := by
  unfold FakeDns.allocateUniqueIp
  split
  · exact ⟨_, _, _, rfl⟩
  · split_ifs
    · exact ⟨s.recycledIps, _, _, rfl⟩
    · exact ⟨s.recycledIps, s.cursor, _, rfl⟩

theorem insertAddress_places (h : Places net s place) {i : ℕ} {name : ν} {ip : Ipv4Addr}
    (holds : s.calls i = .inserting name ip) :
    Places net ({ s with
      ipToDomain := s.ipToDomain.insert s.now ip name }.setCall i (.recording name ip))
      (Function.update place ip .mapped) := by
  have here := h.held i name ip holds
  constructor
  · exact h.distinct
  · intro x member
    exact stays _ (h.recycled x member) here (by simp)
  · intro j name' x holds'
    by_cases same : j = i
    · subst same
      simp [FakeDns.setCall] at holds'
    · simp only [FakeDns.setCall, Function.update_of_ne same] at holds'
      refine stays _ (h.held j name' x holds') here ?_
      rintro equal
      exact same (Place.held.inj equal)
  · intro x there
    by_cases same : x = ip
    · subst same
      exact Function.update_self ..
    · rw [Function.update_of_ne same]
      apply h.mapped x
      simpa [FakeDns.setCall, Cache.insert, same] using there
  · intro j x left
    exact stays _ (h.leaving j x left) here (by simp)
  · intro current later small
    exact stays _ (h.fresh current later small) here (by simp)

theorem getDomainByIp_places (h : Places net s place) (ip : Ipv4Addr) :
    Places net { s with ipToDomain := (s.ipToDomain.get s.now ip).1 } place := by
  refine ⟨h.distinct, h.recycled, h.held, fun x there => h.mapped x fun absent => there ?_,
    h.leaving, h.fresh⟩
  exact (Cache.get_entries_none ..).2 absent

theorem evictAddress_places (h : Places net s place) {j : ℕ} {name : ν} {ip : Ipv4Addr}
    (idle : s.listeners j = .idle) (there : s.ipToDomain.entries ip ≠ none) :
    Places net ({ s with
      ipToDomain := s.ipToDomain.invalidate ip }.setListener j (.notified ip name))
      (Function.update place ip (.leaving j)) := by
  have here := h.mapped ip there
  constructor
  · exact h.distinct
  · intro x member
    exact stays _ (h.recycled x member) here (by simp)
  · intro i name' x holds
    exact stays _ (h.held i name' x holds) here (by simp)
  · intro x mapped
    by_cases same : x = ip
    · subst same
      simp [FakeDns.setListener, Cache.invalidate] at mapped
    · rw [Function.update_of_ne same]
      apply h.mapped x
      simpa [FakeDns.setListener, Cache.invalidate, same] using mapped
  · intro l x left
    by_cases same : l = j
    · subst same
      simp only [FakeDns.setListener, Function.update_self] at left
      rcases left with ⟨name', notified⟩ | invalidated
      · obtain ⟨rfl, _⟩ := Listener.notified.inj notified
        exact Function.update_self ..
      · cases invalidated
    · simp only [FakeDns.setListener, Function.update_of_ne same] at left
      exact stays _ (h.leaving l x left) here (by simp)
  · intro current later small
    exact stays _ (h.fresh current later small) here (by simp)

theorem invalidate_places [DecidableEq ν] (h : Places net s place) {j : ℕ} {name : ν}
    {ip : Ipv4Addr} (notified : s.listeners j = .notified ip name) :
    Places net ({ s with
      domainToIp := s.domainToIp.invalidate name }.setListener j (.invalidated ip)) place := by
  refine ⟨h.distinct, h.recycled, h.held, h.mapped, fun l x left => ?_, h.fresh⟩
  by_cases same : l = j
  · subst same
    simp only [FakeDns.setListener, Function.update_self] at left
    rcases left with ⟨name', again⟩ | invalidated
    · cases again
    · obtain rfl := Listener.invalidated.inj invalidated
      exact h.leaving l ip (.inl ⟨name, notified⟩)
  · simp only [FakeDns.setListener, Function.update_of_ne same] at left
    exact h.leaving l x left

theorem recycle_places (h : Places net s place) {j : ℕ} {ip : Ipv4Addr}
    (invalidated : s.listeners j = .invalidated ip) :
    Places net ({ s with recycledIps := s.recycledIps ++ [ip] }.setListener j .idle)
      (Function.update place ip .recycled) := by
  have here := h.leaving j ip (.inr invalidated)
  constructor
  · have absent : ip ∉ s.recycledIps := by
      intro member
      cases here.symm.trans (h.recycled ip member)
    exact List.nodup_append.2 ⟨h.distinct, by simp, fun x member y last => by
      obtain rfl := List.mem_singleton.1 last
      rintro rfl
      exact absent member⟩
  · intro x member
    rcases List.mem_append.1 member with old | last
    · exact stays _ (h.recycled x old) here (by simp)
    · obtain rfl := List.mem_singleton.1 last
      exact Function.update_self ..
  · intro i name x holds
    exact stays _ (h.held i name x holds) here (by simp)
  · intro x there
    exact stays _ (h.mapped x there) here (by simp)
  · intro l x left
    by_cases same : l = j
    · subst same
      simp [FakeDns.setListener] at left
    · simp only [FakeDns.setListener, Function.update_of_ne same] at left
      refine stays _ (h.leaving l x left) here ?_
      intro equal
      exact same (Place.leaving.inj equal)
  · intro current later small
    exact stays _ (h.fresh current later small) here (by simp)

theorem lookup_frame [DecidableEq ν] (s : FakeDns ν) (i : ℕ) (name : ν) :
    (∃ ip domainToIp, s.domainToIp.visible s.now name = some ip ∧
        s.lookup i name = { s with domainToIp := domainToIp }.answer name ip) ∨
      s.domainToIp.visible s.now name = none ∧
        ∃ domainToIp, s.lookup i name =
          { s with domainToIp := domainToIp }.setCall i (.allocating name) := by
  unfold FakeDns.lookup Cache.get
  split
  · rename_i seen
    split at seen
    · rename_i ip found
      obtain ⟨rfl, same⟩ := Prod.mk.inj seen
      obtain rfl := Option.some.inj same
      exact .inl ⟨_, _, found, rfl⟩
    · cases (Prod.mk.inj seen).2
  · rename_i seen
    split at seen
    · cases (Prod.mk.inj seen).2
    · rename_i absent
      obtain ⟨rfl, _⟩ := Prod.mk.inj seen
      exact .inr ⟨absent, _, rfl⟩

inductive Stepped [DecidableEq ν] (net : Ipv4Net) (fromVec : Bytes → Option (List (Question ν)))
    (s : FakeDns ν) : Event → FakeDns ν → Prop where
  | advance (time : ℕ) : Stepped net fromVec s (.advance time) (s.advance time)
  | unasked {i : ℕ} {queryBytes : Bytes}
      (other : ∀ name, asked (fromVec queryBytes) ≠ .address name) :
      Stepped net fromVec s (.query i queryBytes) s
  | hit {i : ℕ} {queryBytes : Bytes} {name : ν} {ip : Ipv4Addr}
      (asks : asked (fromVec queryBytes) = .address name)
      (found : s.domainToIp.visible s.now name = some ip)
      (domainToIp : Cache cacheTtl ν Ipv4Addr) :
      Stepped net fromVec s (.query i queryBytes)
        ({ s with domainToIp := domainToIp }.answer name ip)
  | miss {i : ℕ} {queryBytes : Bytes} {name : ν}
      (asks : asked (fromVec queryBytes) = .address name)
      (absent : s.domainToIp.visible s.now name = none)
      (domainToIp : Cache cacheTtl ν Ipv4Addr) :
      Stepped net fromVec s (.query i queryBytes)
        ({ s with domainToIp := domainToIp }.setCall i (.allocating name))
  | allocate (i : ℕ) (name : ν) :
      Stepped net fromVec s (.allocate i) (s.allocateUniqueIp net i name)
  | insertAddress {i : ℕ} {name : ν} {ip : Ipv4Addr} (holds : s.calls i = .inserting name ip) :
      Stepped net fromVec s (.insertAddress i) ({ s with
        ipToDomain := s.ipToDomain.insert s.now ip name }.setCall i (.recording name ip))
  | insertDomain {i : ℕ} {name : ν} {ip : Ipv4Addr} (records : s.calls i = .recording name ip) :
      Stepped net fromVec s (.insertDomain i) (({ s with
        domainToIp := s.domainToIp.insert s.now name ip }.setCall i .idle).answer name ip)
  | getDomain (ip : Ipv4Addr) : Stepped net fromVec s (.getDomainByIp (.v4 ip))
      { s with ipToDomain := (s.ipToDomain.get s.now ip).1 }
  | getNothing (ip : Ipv6Addr) : Stepped net fromVec s (.getDomainByIp (.v6 ip)) s
  | evictAddress {j : ℕ} {ip : Ipv4Addr} {name : ν} (idle : s.listeners j = .idle)
      (expired : s.ipToDomain.expired s.now ip = some name) :
      Stepped net fromVec s (.evictAddress j ip) ({ s with
        ipToDomain := s.ipToDomain.invalidate ip }.setListener j (.notified ip name))
  | invalidate {j : ℕ} {ip : Ipv4Addr} {name : ν} (notified : s.listeners j = .notified ip name) :
      Stepped net fromVec s (.invalidate j) ({ s with
        domainToIp := s.domainToIp.invalidate name }.setListener j (.invalidated ip))
  | recycle {j : ℕ} {ip : Ipv4Addr} (invalidated : s.listeners j = .invalidated ip) :
      Stepped net fromVec s (.recycle j) ({ s with
        recycledIps := s.recycledIps ++ [ip] }.setListener j .idle)

theorem stepped_of_step [DecidableEq ν] {e : Event}
    (step : fakeDnsStep net fromVec s e = some u) : Stepped net fromVec s e u := by
  cases e with
  | advance time =>
    obtain rfl := Option.some.inj step
    exact .advance time
  | query i queryBytes =>
    simp only [fakeDnsStep] at step
    split at step
    · split at step
      · rename_i nothing
        obtain rfl := Option.some.inj step
        exact .unasked fun name asks => by cases nothing.symm.trans asks
      · rename_i refused
        obtain rfl := Option.some.inj step
        exact .unasked fun name asks => by cases refused.symm.trans asks
      · rename_i name asks
        obtain rfl := Option.some.inj step
        rcases lookup_frame s i name with ⟨ip, domainToIp, found, hit⟩ | ⟨absent, domainToIp, miss⟩
        · rw [hit]
          exact .hit asks found domainToIp
        · rw [miss]
          exact .miss asks absent domainToIp
    · cases step
  | allocate i =>
    simp only [fakeDnsStep] at step
    split at step
    · obtain rfl := Option.some.inj step
      exact .allocate i _
    · cases step
  | insertAddress i =>
    simp only [fakeDnsStep] at step
    split at step
    · rename_i holds
      obtain rfl := Option.some.inj step
      exact .insertAddress holds
    · cases step
  | insertDomain i =>
    simp only [fakeDnsStep] at step
    split at step
    · rename_i records
      obtain rfl := Option.some.inj step
      exact .insertDomain records
    · cases step
  | getDomainByIp ip =>
    cases ip with
    | v4 ip =>
      obtain rfl := Option.some.inj step
      exact .getDomain ip
    | v6 ip =>
      obtain rfl := Option.some.inj step
      exact .getNothing ip
  | evictAddress j ip =>
    simp only [fakeDnsStep] at step
    split at step
    · rename_i idle expired
      obtain rfl := Option.some.inj step
      exact .evictAddress idle expired
    · cases step
  | invalidate j =>
    simp only [fakeDnsStep] at step
    split at step
    · rename_i notified
      obtain rfl := Option.some.inj step
      exact .invalidate notified
    · cases step
  | recycle j =>
    simp only [fakeDnsStep] at step
    split at step
    · rename_i invalidated
      obtain rfl := Option.some.inj step
      exact .recycle invalidated
    · cases step

theorem fakeDnsStep_places [DecidableEq ν] (h : Places net s place) {e : Event}
    (step : fakeDnsStep net fromVec s e = some u) : ∃ place, Places net u place := by
  cases stepped_of_step step with
  | advance time => exact ⟨_, h.distinct, h.recycled, h.held, h.mapped, h.leaving, h.fresh⟩
  | unasked _ => exact ⟨_, h⟩
  | hit _ _ domainToIp => exact ⟨_, h.distinct, h.recycled, h.held, h.mapped, h.leaving, h.fresh⟩
  | @miss i _ name _ _ domainToIp =>
    have same : Places net { s with domainToIp := domainToIp } place :=
      ⟨h.distinct, h.recycled, h.held, h.mapped, h.leaving, h.fresh⟩
    exact ⟨_, same.setCall i _ (by simp)⟩
  | allocate i name => exact allocate_places h i name
  | insertAddress holds => exact ⟨_, insertAddress_places h holds⟩
  | @insertDomain i name ip _ =>
    have same : Places net { s with domainToIp := s.domainToIp.insert s.now name ip } place :=
      ⟨h.distinct, h.recycled, h.held, h.mapped, h.leaving, h.fresh⟩
    have idle := same.setCall i .idle (by simp)
    exact ⟨_, idle.distinct, idle.recycled, idle.held, idle.mapped, idle.leaving, idle.fresh⟩
  | getDomain ip => exact ⟨_, getDomainByIp_places h ip⟩
  | getNothing _ => exact ⟨_, h⟩
  | evictAddress idle expired =>
    obtain ⟨accessed, found, _⟩ := Cache.expired_eq_some.1 expired
    exact ⟨_, evictAddress_places h idle (by simp [found])⟩
  | invalidate notified => exact ⟨_, invalidate_places h notified⟩
  | recycle invalidated => exact ⟨_, recycle_places h invalidated⟩

/-! ## Every answer is lasting -/

/-- Answers within their TTL have lasting entries. -/
def Secure (s : FakeDns ν) : Prop :=
  ∀ a ∈ s.answers, s.now ≤ a.time + dnsResponseTtl → Lasting s a.name a.ip a.time

/-- A lasting entry is what it takes: without a further read, it is visible to the end of the
TTL. -/
theorem secure_iff (h : Places net s place) :
    (∀ time, Valid (s.advance time)) ↔ Secure s := by
  constructor
  · intro valid a member within
    obtain ⟨time, ends⟩ : ∃ time, s.now + time = a.time + dnsResponseTtl :=
      Nat.exists_eq_add_of_le within |>.imp fun _ ends => ends.symm
    have last := valid time a member ends.le
    obtain ⟨accessed, found, live⟩ := Cache.visible_eq_some.1 last.1
    refine ⟨accessed, found, ?_⟩
    rw [← ends]
    exact live
  · intro secure time a member within
    have within : s.now + time ≤ a.time + dnsResponseTtl := within
    obtain ⟨accessed, found, live⟩ := secure a member (by omega)
    constructor
    · refine Cache.visible_eq_some.2 ⟨accessed, found, ?_⟩
      change s.now + time < accessed + cacheTtl
      omega
    · intro free
      have mapped := h.mapped a.ip (by simp [found])
      cases mapped.symm.trans (h.recycled a.ip free)

theorem Lasting.of_same {name : ν} {ip : Ipv4Addr} {time : ℕ} (h : Lasting s name ip time)
    (same : u.ipToDomain.entries ip = s.ipToDomain.entries ip) : Lasting u name ip time := by
  obtain ⟨accessed, found, live⟩ := h
  exact ⟨accessed, same.trans found, live⟩

/-- A step that answers nothing and keeps the entries of the addresses answered with. -/
theorem Secure.step (secure : Secure s) (answers : u.answers = s.answers) (now : s.now ≤ u.now)
    (keeps : ∀ a ∈ s.answers, Lasting s a.name a.ip a.time → s.now ≤ a.time + dnsResponseTtl →
      Lasting u a.name a.ip a.time) : Secure u := by
  intro a member within
  rw [answers] at member
  have before : s.now ≤ a.time + dnsResponseTtl := by omega
  exact keeps a member (secure a member before) before

theorem secure_answer (secure : Secure s) (name : ν) (ip : Ipv4Addr) :
    Secure (s.answer name ip) ↔ Lasting s name ip s.now := by
  constructor
  · intro all
    exact all ⟨name, ip, s.now⟩ (by simp [FakeDns.answer]) (Nat.le_add_right ..)
  · intro last a member within
    rcases List.mem_append.1 member with old | new
    · exact secure a old within
    · obtain rfl := List.mem_singleton.1 new
      exact last

theorem ttl_lt_cacheTtl : dnsResponseTtl < cacheTtl :=
  Nat.lt_add_of_pos_right (Nat.mul_pos (by decide) (by unfold second; decide))

/-- Out of a secure state exactly the unguarded answers are not secure. -/
theorem fakeDnsStep_secure [DecidableEq ν] (h : Places net s place)
    (past : ∀ a ∈ s.answers, a.time ≤ s.now) (secure : Secure s) {e : Event}
    (step : fakeDnsStep net fromVec s e = some u) : Secure u ↔ Guarded fromVec s e := by
  cases stepped_of_step step with
  | advance time =>
    exact iff_of_true (secure.step rfl (Nat.le_add_right ..) fun _ _ last _ => last) trivial
  | unasked other =>
    refine iff_of_true secure ?_
    intro name ip asks
    exact absurd asks (other name)
  | @hit _ _ name ip asks found domainToIp =>
    have same : Secure { s with domainToIp := domainToIp } := secure
    refine (secure_answer same name ip).trans ?_
    constructor
    · intro last name' ip' asks' found'
      obtain rfl := Asked.address.inj (asks.symm.trans asks')
      obtain rfl := Option.some.inj (found.symm.trans found')
      exact last
    · intro guard
      exact guard name ip asks found
  | miss asks absent _ =>
    refine iff_of_true secure ?_
    intro name' ip' asks' found'
    obtain rfl := Asked.address.inj (asks.symm.trans asks')
    cases absent.symm.trans found'
  | allocate i name =>
    obtain ⟨ips, cursor, call, allocated⟩ := allocate_frame net s i name
    rw [allocated]
    exact iff_of_true secure trivial
  | @insertAddress i name ip holds =>
    refine iff_of_true (secure.step rfl le_rfl fun a member last _ => last.of_same ?_) trivial
    -- an address that is held has no entry, so it is not one that was answered with
    have apart : a.ip ≠ ip := by
      rintro rfl
      obtain ⟨accessed, found, _⟩ := last
      have mapped := h.mapped a.ip (by simp [found])
      cases mapped.symm.trans (h.held i name a.ip holds)
    simp [FakeDns.setCall, Cache.insert, apart]
  | @insertDomain i name ip records =>
    have same : Secure ({ s with
      domainToIp := s.domainToIp.insert s.now name ip }.setCall i .idle) := secure
    refine (secure_answer same name ip).trans ?_
    constructor
    · intro last name' ip' records'
      obtain ⟨rfl, rfl⟩ := Call.recording.inj (records.symm.trans records')
      exact last
    · intro guard
      exact guard name ip records
  | getNothing _ => exact iff_of_true secure trivial
  | getDomain ip =>
    refine iff_of_true (secure.step rfl le_rfl fun a member last _ => ?_) trivial
    obtain ⟨accessed, found, live⟩ := last
    rcases s.ipToDomain.get_entries s.now ip found with same | renewed
    · exact ⟨accessed, same, live⟩
    · have given := past a member
      have longer := ttl_lt_cacheTtl
      exact ⟨s.now, renewed, by omega⟩
  | @evictAddress j ip name _ expired =>
    refine iff_of_true (secure.step rfl le_rfl fun a member last within => last.of_same ?_) trivial
    have apart : a.ip ≠ ip := by
      rintro rfl
      obtain ⟨accessed, found, live⟩ := last
      obtain ⟨accessed', found', idle⟩ := Cache.expired_eq_some.1 expired
      obtain ⟨_, rfl⟩ := Entry.mk.inj (Option.some.inj (found.symm.trans found'))
      omega
    simp [FakeDns.setListener, Cache.invalidate, apart]
  | invalidate _ => exact iff_of_true secure trivial
  | recycle _ => exact iff_of_true secure trivial

/-- A step makes at most one answer, at its time. -/
theorem fakeDnsStep_answers [DecidableEq ν] {e : Event}
    (step : fakeDnsStep net fromVec s e = some u) : s.now ≤ u.now ∧
      (u.answers = s.answers ∨ ∃ name ip, u.answers = s.answers ++ [⟨name, ip, s.now⟩]) := by
  cases stepped_of_step step with
  | advance time => exact ⟨Nat.le_add_right .., .inl rfl⟩
  | @hit _ _ name ip _ _ _ => exact ⟨le_rfl, .inr ⟨name, ip, rfl⟩⟩
  | @insertDomain _ name ip _ => exact ⟨le_rfl, .inr ⟨name, ip, rfl⟩⟩
  | allocate i name =>
    obtain ⟨ips, cursor, call, allocated⟩ := allocate_frame net s i name
    rw [allocated]
    exact ⟨le_rfl, .inl rfl⟩
  | _ => exact ⟨le_rfl, .inl rfl⟩

theorem fakeDnsStep_invariant [DecidableEq ν] (inv : Invariant net s) {e : Event}
    (step : fakeDnsStep net fromVec s e = some u) : Invariant net u := by
  obtain ⟨⟨place, places⟩, past⟩ := inv
  obtain ⟨now, answers⟩ := fakeDnsStep_answers step
  refine ⟨fakeDnsStep_places places step, fun a member => ?_⟩
  rcases answers with same | ⟨name, ip, more⟩
  · exact (past a (same ▸ member)).trans now
  · rw [more] at member
    rcases List.mem_append.1 member with old | new
    · exact (past a old).trans now
    · obtain rfl := List.mem_singleton.1 new
      exact now

end Step

/-- Along any run, every answer is valid now and, however the clock advances from here, for the
rest of its TTL, if and only if every answer was given while its entry in `ip_to_domain` was
lasting. -/
theorem answers_valid_iff [DecidableEq ν] (net : Ipv4Net)
    (fromVec : Bytes → Option (List (Question ν))) (es : List Event) :
    (∀ s, Visits (fakeDnsSystem net fromVec) es s → ∀ time, Valid (s.advance time)) ↔
      ∀ s e u, Takes (fakeDnsSystem net fromVec) es s e u → Guarded fromVec s e := by
  apply safe_iff_guarded (I := Invariant net)
  · exact ⟨⟨_, places_new net⟩, fun a member => by cases member⟩
  · intro time a member
    cases member
  · exact fun _ _ _ inv _ step => fakeDnsStep_invariant inv step
  · intro s e u inv valid step
    obtain ⟨⟨place', places'⟩, _⟩ := fakeDnsStep_invariant inv step
    obtain ⟨⟨place, places⟩, past⟩ := inv
    rw [secure_iff places']
    exact fakeDnsStep_secure places past ((secure_iff places).1 valid) step

end System

section Idle

def oneDomain : Bytes → Option (List (Question Unit)) := fun _ => some [⟨(), .a⟩]

/-- The domain is queried, nobody connects to it, and it is queried again one second before the
first answer's entries have been idle for `CACHE_TTL`. -/
def queriedTwice : List Event :=
  [.query 0 [], .allocate 0, .insertAddress 0, .insertDomain 0, .advance (cacheTtl - second),
    .query 0 []]

/-- One second after the second answer its address has no domain. -/
theorem second_answer_expires :
    ∃ s, Runs (fakeDnsSystem defaultFakednsCidr oneDomain) (queriedTwice ++ [.advance second]) s ∧
      ¬ Valid s := by
  have run : exec (fakeDnsSystem defaultFakednsCidr oneDomain) (queriedTwice ++ [.advance second]) =
    some _ := rfl
  refine ⟨_, runs_of_exec run, fun valid => ?_⟩
  have last := valid ⟨(), addressAt defaultFakednsCidr 2, cacheTtl - second⟩ (by decide) (by decide)
  exact absurd last.1 (by decide)

end Idle
end Ombrac.TunFakeDns
