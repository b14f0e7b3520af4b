import Mathlib.Data.List.Basic
import Mathlib.Logic.Function.Basic
import Mathlib.Tactic.SplitIfs

set_option autoImplicit false

/-!
# A cache whose entries expire when idle

An entry is visible until it has been neither read nor written for `timeToIdle`; an expired entry
stays until it is evicted, which the user of the cache does in a step of its own.
-/
namespace Ombrac.IdleCache

structure Entry (β : Type*) where
  value : β
  accessed : ℕ
  deriving DecidableEq

structure Cache (timeToIdle : ℕ) (κ β : Type*) where
  entries : κ → Option (Entry β)

namespace Cache
variable {timeToIdle : ℕ} {κ β : Type*}

def new : Cache timeToIdle κ β := ⟨fun _ => none⟩

def setEntry [DecidableEq κ] (c : Cache timeToIdle κ β) (k : κ) (entry : Option (Entry β)) :
    Cache timeToIdle κ β :=
  ⟨Function.update c.entries k entry⟩

def visible (c : Cache timeToIdle κ β) (now : ℕ) (k : κ) : Option β :=
  (c.entries k).bind fun entry =>
    if now < entry.accessed + timeToIdle then some entry.value else none

/-- A read that finds an entry renews it. -/
def get [DecidableEq κ] (c : Cache timeToIdle κ β) (now : ℕ) (k : κ) :
    Cache timeToIdle κ β × Option β :=
  match c.visible now k with
  | some value => (c.setEntry k (some ⟨value, now⟩), some value)
  | none => (c, none)

def insert [DecidableEq κ] (c : Cache timeToIdle κ β) (now : ℕ) (k : κ) (value : β) :
    Cache timeToIdle κ β :=
  c.setEntry k (some ⟨value, now⟩)

def invalidate [DecidableEq κ] (c : Cache timeToIdle κ β) (k : κ) : Cache timeToIdle κ β :=
  c.setEntry k none

def expired (c : Cache timeToIdle κ β) (now : ℕ) (k : κ) : Option β :=
  (c.entries k).bind fun entry =>
    if now < entry.accessed + timeToIdle then none else some entry.value

@[simp] theorem setEntry_entries [DecidableEq κ] (c : Cache timeToIdle κ β) (k : κ)
    (entry : Option (Entry β)) : (c.setEntry k entry).entries = Function.update c.entries k entry :=
  rfl

theorem visible_eq_some {c : Cache timeToIdle κ β} {now : ℕ} {k : κ} {value : β} :
    c.visible now k = some value ↔
      ∃ accessed, c.entries k = some ⟨value, accessed⟩ ∧ now < accessed + timeToIdle := by
  unfold visible
  rw [Option.bind_eq_some_iff]
  constructor
  · rintro ⟨⟨value', accessed⟩, found, h⟩
    split_ifs at h with live
    obtain rfl := Option.some.inj h
    exact ⟨accessed, found, live⟩
  · rintro ⟨accessed, found, live⟩
    exact ⟨⟨value, accessed⟩, found, if_pos live⟩

theorem expired_eq_some {c : Cache timeToIdle κ β} {now : ℕ} {k : κ} {value : β} :
    c.expired now k = some value ↔
      ∃ accessed, c.entries k = some ⟨value, accessed⟩ ∧ accessed + timeToIdle ≤ now := by
  unfold expired
  rw [Option.bind_eq_some_iff]
  constructor
  · rintro ⟨⟨value', accessed⟩, found, h⟩
    split_ifs at h with live
    obtain rfl := Option.some.inj h
    exact ⟨accessed, found, Nat.not_lt.1 live⟩
  · rintro ⟨accessed, found, idle⟩
    exact ⟨⟨value, accessed⟩, found, if_neg (Nat.not_lt.2 idle)⟩

theorem visible_of_le {c : Cache timeToIdle κ β} {now later : ℕ} {k : κ} {value : β}
    (h : now ≤ later) (seen : c.visible later k = some value) : c.visible now k = some value := by
  obtain ⟨accessed, found, live⟩ := visible_eq_some.1 seen
  exact visible_eq_some.2 ⟨accessed, found, Nat.lt_of_le_of_lt h live⟩

theorem visible_setEntry_of_ne [DecidableEq κ] (c : Cache timeToIdle κ β) {k l : κ}
    (other : l ≠ k) (entry : Option (Entry β)) (now : ℕ) :
    (c.setEntry k entry).visible now l = c.visible now l := by
  simp only [visible, setEntry_entries, Function.update_of_ne other]

theorem visible_insert [DecidableEq κ] {c : Cache timeToIdle κ β} {written now : ℕ} {k l : κ}
    {value seen : β} (h : (c.insert written k value).visible now l = some seen) :
    (l = k ∧ seen = value) ∨ l ≠ k ∧ c.visible now l = some seen := by
  by_cases same : l = k
  · subst same
    obtain ⟨accessed, there, _⟩ := visible_eq_some.1 h
    rw [insert, setEntry_entries, Function.update_self] at there
    obtain ⟨rfl, _⟩ := Entry.mk.inj (Option.some.inj there)
    exact .inl ⟨rfl, rfl⟩
  · exact .inr ⟨same, (visible_setEntry_of_ne c same _ now).symm.trans h⟩

theorem visible_invalidate [DecidableEq κ] {c : Cache timeToIdle κ β} {now : ℕ} {k l : κ}
    {seen : β} (h : (c.invalidate k).visible now l = some seen) :
    l ≠ k ∧ c.visible now l = some seen := by
  have apart : l ≠ k := by
    rintro rfl
    obtain ⟨accessed, there, _⟩ := visible_eq_some.1 h
    rw [invalidate, setEntry_entries, Function.update_self] at there
    cases there
  exact ⟨apart, (visible_setEntry_of_ne c apart _ now).symm.trans h⟩

/-- A read changes nothing but the time of the entry it finds. -/
theorem get_entries [DecidableEq κ] (c : Cache timeToIdle κ β) (now : ℕ) (k : κ) {l : κ}
    {entry : Entry β} (found : c.entries l = some entry) :
    ((c.get now k).1.entries l = some entry) ∨
      (c.get now k).1.entries l = some ⟨entry.value, now⟩ := by
  unfold get
  split
  · rename_i value seen
    by_cases same : l = k
    · subst same
      obtain ⟨accessed, there, _⟩ := visible_eq_some.1 seen
      obtain rfl := Option.some.inj (there.symm.trans found)
      exact .inr (by simp)
    · exact .inl (by simpa [same] using found)
  · exact .inl found

theorem get_entries_none [DecidableEq κ] (c : Cache timeToIdle κ β) (now : ℕ) (k : κ) {l : κ} :
    (c.get now k).1.entries l = none ↔ c.entries l = none := by
  unfold get
  split
  · rename_i value seen
    by_cases same : l = k
    · subst same
      obtain ⟨accessed, there, _⟩ := visible_eq_some.1 seen
      simp [there]
    · simp [same]
  · rfl

theorem get_values [DecidableEq κ] (c : Cache timeToIdle κ β) (now : ℕ) (k l : κ) :
    ((c.get now k).1.entries l).map Entry.value = (c.entries l).map Entry.value := by
  cases found : c.entries l with
  | none => rw [(get_entries_none c now k).2 found]
  | some entry =>
    rcases get_entries c now k found with same | renewed
    · rw [same]
    · rw [renewed]
      rfl

end Cache
end Ombrac.IdleCache
