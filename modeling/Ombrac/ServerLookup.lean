import Mathlib.Logic.Function.Basic
import Ombrac.LabelledSystem
import Ombrac.ProtocolPacket

set_option autoImplicit false

/-!
# Name lookups of the server's datagram tunnel

`lookup_host` reads the cache in one step and stores its own resolution in a later one, so any
number of calls interleave. A call is tagged with its caller; the logs of resolutions and answers
are for the statements only.
-/
namespace Ombrac.ServerLookup
open LabelledSystem ProtocolPacket

/-! ## Resolution of a name -/

inductive RData where
  | a (ip : Ipv4Addr)
  | aaaa (ip : Ipv6Addr)
  | other
  deriving DecidableEq, Repr

/-- What the outside says to one call: the global resolver, the two queries (`none` failed). -/
structure DnsReply where
  resolver : Except IoError Unit
  aaaa : Option (List RData)
  a : Option (List RData)

def firstAaaa (answers : List RData) : Option Ipv6Addr :=
  answers.findSome? fun | .aaaa ip => some ip | _ => none

def firstA (answers : List RData) : Option Ipv4Addr :=
  answers.findSome? fun | .a ip => some ip | _ => none

/-- `dns::resolve_domain`; `parseIp` is the standard library's `IpAddr` parser. -/
def resolveDomain (parseIp : String → Option IpAddr) (reply : DnsReply) (domain : Bytes)
    (port : UInt16) : Except IoError SocketAddr :=
  match String.fromUTF8? ⟨domain.toArray⟩ with
  | none => .error ⟨.invalidInput, "domain name contains invalid utf-8 characters"⟩
  | some domainStr =>
    match parseIp domainStr with
    | some ip => .ok (.new ip port)
    | none =>
      match reply.resolver with
      | .error e => .error e
      | .ok () =>
        match reply.aaaa.bind firstAaaa with
        | some ip => .ok (.new (.v6 ip) port)
        | none =>
          match reply.a.bind firstA with
          | some ip => .ok (.new (.v4 ip) port)
          | none => .error
              ⟨.notFound, s!"dns resolution failed for {domainStr}: no records found"⟩

theorem resolveDomain_port {parseIp : String → Option IpAddr} {reply : DnsReply} {domain : Bytes}
    {port : UInt16} {addr : SocketAddr} (h : resolveDomain parseIp reply domain port = .ok addr) :
    addr.port = port := by
  unfold resolveDomain at h
  split at h
  · cases h
  · split at h
    · exact Except.ok.inj h ▸ SocketAddr.new_port _ _
    · split at h
      · cases h
      · split at h
        · exact Except.ok.inj h ▸ SocketAddr.new_port _ _
        · split at h
          · exact Except.ok.inj h ▸ SocketAddr.new_port _ _
          · cases h

/-! ## Calls of `lookup_host` -/

structure Lookups (τ : Type) where
  dnsCache : Bytes → Option SocketAddr
  resolving : List (τ × Bytes × UInt16)
  resolved : List (Bytes × IpAddr)
  answered : List (τ × Address × SocketAddr)

namespace Lookups
variable {τ : Type}

def new : Lookups τ := ⟨fun _ => none, [], [], []⟩

def answer (s : Lookups τ) (caller : τ) (address : Address) (addr : SocketAddr) : Lookups τ :=
  { s with answered := s.answered ++ [(caller, address, addr)] }

/-- `lookup_host` up to its first wait: a literal address and a cached one are answered at once. -/
def call (s : Lookups τ) (caller : τ) (address : Address) : Lookups τ × Option SocketAddr :=
  match address with
  | .socketV4 addr => (s.answer caller address (.v4 addr), some (.v4 addr))
  | .socketV6 addr => (s.answer caller address (.v6 addr), some (.v6 addr))
  | .domain domain port =>
    match s.dnsCache domain with
    | some addr => (s.answer caller address addr, some addr)
    | none => ({ s with resolving := s.resolving ++ [(caller, domain, port)] }, none)

def finish (s : Lookups τ) (caller : τ) (domain : Bytes) (port : UInt16)
    (result : Except IoError SocketAddr) : Lookups τ :=
  match result with
  | .error _ => s
  | .ok addr =>
    { s with
      dnsCache := Function.update s.dnsCache domain (some addr)
      resolved := s.resolved ++ [(domain, addr.ip)] }.answer caller (.domain domain port) addr

def evict (s : Lookups τ) (domain : Bytes) : Lookups τ :=
  { s with dnsCache := Function.update s.dnsCache domain none }

/-- A call is answered at once, or is one more that waits for a resolution. -/
theorem call_cases (s : Lookups τ) (caller : τ) (address : Address) :
    (∃ addr, (s.call caller address).2 = some addr ∧
      (s.call caller address).1.resolving = s.resolving) ∨
    ∃ domain port, address = .domain domain port ∧ (s.call caller address).2 = none ∧
      (s.call caller address).1.resolving = s.resolving ++ [(caller, domain, port)] := by
  cases address with
  | socketV4 addr => exact .inl ⟨_, rfl, rfl⟩
  | socketV6 addr => exact .inl ⟨_, rfl, rfl⟩
  | domain domain port =>
    simp only [call]
    split
    · exact .inl ⟨_, rfl, rfl⟩
    · exact .inr ⟨domain, port, rfl, rfl, rfl⟩

theorem finish_resolving (s : Lookups τ) (caller : τ) (domain : Bytes) (port : UInt16)
    (result : Except IoError SocketAddr) :
    (s.finish caller domain port result).resolving = s.resolving := by
  cases result <;> rfl

end Lookups

inductive LookupEvent (τ : Type) where
  | call (caller : τ) (address : Address)
  | resolve (i : ℕ) (reply : DnsReply)
  | evict (domain : Bytes)

def lookupStep (parseIp : String → Option IpAddr) {τ : Type} (s : Lookups τ) :
    LookupEvent τ → Option (Lookups τ)
  | .call caller address => some (s.call caller address).1
  | .resolve i reply =>
    match s.resolving[i]? with
    | none => none
    | some (caller, domain, port) =>
      some ({ s with resolving := s.resolving.eraseIdx i }.finish caller domain port
        (resolveDomain parseIp reply domain port))
  | .evict domain => some (s.evict domain)

def lookupSystem (parseIp : String → Option IpAddr) (τ : Type) :
    System (Lookups τ) (LookupEvent τ) :=
  ⟨.new, lookupStep parseIp⟩

/-! ## Ports of the answers -/

def AnswerOwnPort {τ : Type} (s : Lookups τ) (x : τ × Address × SocketAddr) : Prop :=
  match x.2.1 with
  | .domain domain port => x.2.2.port = port ∧ (domain, x.2.2.ip) ∈ s.resolved
  | _ => True

/-- Every answer for a domain has the port asked for, and an IP resolved for that domain. -/
def AnswersOwnPort {τ : Type} (s : Lookups τ) : Prop := ∀ x ∈ s.answered, AnswerOwnPort s x

/-- An address found in the cache carries the port asked for. -/
def HitOwnPort {τ : Type} (s : Lookups τ) : Address → Prop
  | .domain domain port => ∀ addr, s.dnsCache domain = some addr → addr.port = port
  | _ => True

def CallsHitOwnPort {τ : Type} (s : Lookups τ) : LookupEvent τ → Prop
  | .call _ address => HitOwnPort s address
  | _ => True

def CacheResolved {τ : Type} (s : Lookups τ) : Prop :=
  ∀ domain addr, s.dnsCache domain = some addr → (domain, addr.ip) ∈ s.resolved

section Calls
variable {τ : Type} {parseIp : String → Option IpAddr} {s : Lookups τ}

theorem call_cacheResolved (h : CacheResolved s) (caller : τ) (address : Address) :
    CacheResolved (s.call caller address).1 := by
  cases address with
  | socketV4 addr => exact h
  | socketV6 addr => exact h
  | domain domain port =>
    simp only [Lookups.call]
    split
    · exact h
    · exact h

theorem finish_cacheResolved (h : CacheResolved s) (caller : τ) (domain : Bytes) (port : UInt16)
    (result : Except IoError SocketAddr) :
    CacheResolved (s.finish caller domain port result) := by
  cases result with
  | error e => exact h
  | ok fresh =>
    intro other addr cached
    simp only [Lookups.finish, Lookups.answer, List.mem_append, List.mem_singleton] at cached ⊢
    by_cases same : other = domain
    · subst same
      obtain rfl : fresh = addr := by simpa using cached
      exact .inr rfl
    · exact .inl (h other addr (by simpa [same] using cached))

theorem evict_cacheResolved (h : CacheResolved s) (domain : Bytes) :
    CacheResolved (s.evict domain) := by
  intro other addr cached
  by_cases same : other = domain
  · subst same
    simp [Lookups.evict] at cached
  · exact h other addr (by simpa [Lookups.evict, same] using cached)

theorem lookupStep_cacheResolved (h : CacheResolved s) {e : LookupEvent τ} {t : Lookups τ}
    (step : lookupStep parseIp s e = some t) : CacheResolved t := by
  cases e with
  | call caller address =>
    obtain rfl := Option.some.inj step
    exact call_cacheResolved h caller address
  | resolve i reply =>
    simp only [lookupStep] at step
    split at step
    · cases step
    · obtain rfl := Option.some.inj step
      exact finish_cacheResolved (s := { s with resolving := s.resolving.eraseIdx i }) h _ _ _ _
  | evict domain =>
    obtain rfl := Option.some.inj step
    exact evict_cacheResolved h domain

theorem lookupStep_answered {e : LookupEvent τ} {t : Lookups τ}
    (step : lookupStep parseIp s e = some t) : s.answered ⊆ t.answered := by
  cases e with
  | call caller address =>
    obtain rfl := Option.some.inj step
    cases address with
    | socketV4 addr => exact List.subset_append_left _ _
    | socketV6 addr => exact List.subset_append_left _ _
    | domain domain port =>
      simp only [Lookups.call]
      split
      · exact List.subset_append_left _ _
      · exact List.Subset.refl _
  | resolve i reply =>
    simp only [lookupStep] at step
    split at step
    · cases step
    · obtain rfl := Option.some.inj step
      unfold Lookups.finish
      split
      · exact List.Subset.refl _
      · exact List.subset_append_left _ _
  | evict domain =>
    obtain rfl := Option.some.inj step
    exact List.Subset.refl _

theorem answer_ownPort (h : AnswersOwnPort s) (caller : τ) (address : Address)
    (addr : SocketAddr) : AnswersOwnPort (s.answer caller address addr) ↔
      AnswerOwnPort s (caller, address, addr) := by
  constructor
  · intro all
    exact all (caller, address, addr) (by simp [Lookups.answer])
  · intro last x member
    simp only [Lookups.answer, List.mem_append, List.mem_singleton] at member
    rcases member with old | rfl
    · exact h x old
    · exact last

/-- A call keeps the answers right exactly when what it finds in the cache has its port. -/
theorem call_ownPort (cache : CacheResolved s) (h : AnswersOwnPort s) (caller : τ)
    (address : Address) :
    AnswersOwnPort (s.call caller address).1 ↔ HitOwnPort s address := by
  cases address with
  | socketV4 addr => exact (answer_ownPort h _ _ _).trans Iff.rfl
  | socketV6 addr => exact (answer_ownPort h _ _ _).trans Iff.rfl
  | domain domain port =>
    simp only [Lookups.call, HitOwnPort]
    cases cached : s.dnsCache domain with
    | none => exact ⟨fun _ addr impossible => (by cases impossible), fun _ => h⟩
    | some addr =>
      have resolved := cache domain addr cached
      refine (answer_ownPort h _ _ _).trans ?_
      simp [AnswerOwnPort, resolved]

theorem finish_ownPort (h : AnswersOwnPort s) (caller : τ) (domain : Bytes) (port : UInt16)
    {result : Except IoError SocketAddr} (own : ∀ addr, result = .ok addr → addr.port = port) :
    AnswersOwnPort (s.finish caller domain port result) := by
  cases result with
  | error e => exact h
  | ok addr =>
    refine (answer_ownPort ?_ _ _ _).2 ⟨own addr rfl, by simp⟩
    intro x member
    have old := h x member
    unfold AnswerOwnPort at old ⊢
    split
    · rename_i eq
      rw [eq] at old
      exact ⟨old.1, List.mem_append_left _ old.2⟩
    · trivial

theorem lookupStep_ownPort (cache : CacheResolved s) (h : AnswersOwnPort s) {e : LookupEvent τ}
    {t : Lookups τ} (step : lookupStep parseIp s e = some t) :
    AnswersOwnPort t ↔ CallsHitOwnPort s e := by
  cases e with
  | call caller address =>
    obtain rfl := Option.some.inj step
    exact call_ownPort cache h caller address
  | resolve i reply =>
    simp only [lookupStep] at step
    split at step
    · cases step
    · obtain rfl := Option.some.inj step
      refine iff_of_true ?_ trivial
      apply finish_ownPort
      · exact h
      · intro addr result
        exact resolveDomain_port result
  | evict domain =>
    obtain rfl := Option.some.inj step
    exact iff_of_true h trivial

/-- Along any interleaving of calls, all answers have their own port exactly when no call finds
in the cache an address stored with another one. -/
theorem lookups_ownPort_iff (es : List (LookupEvent τ)) :
    (∀ u, Visits (lookupSystem parseIp τ) es u → AnswersOwnPort u) ↔
      ∀ u e v, Takes (lookupSystem parseIp τ) es u e v → CallsHitOwnPort u e := by
  apply safe_iff_guarded (I := CacheResolved)
  · intro domain addr cached
    cases cached
  · intro x member
    cases member
  · exact fun u e v cache _ step => lookupStep_cacheResolved cache step
  · exact fun u e v cache own step => lookupStep_ownPort cache own step

end Calls
end Ombrac.ServerLookup
