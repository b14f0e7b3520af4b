import Ombrac.ListUpdates
import Ombrac.ReassemblySlots
import Ombrac.SharedTasks

set_option autoImplicit false

/-!
# Concurrent calls of `process`

Call `t` has fragment `packet t`. It gets or inserts the buffer of its key, adds its fragment
under the buffer's lock and assembles if that made the buffer complete, and then, still under the
lock, removes the key from the cache. Between the first two steps the buffer may have been
assembled and removed by another call, and at any time the cache may evict it.
-/
namespace Ombrac.ConcurrentReassembly
open LabelledSystem ListUpdates SharedTasks ProtocolPacket UdpReassembly ReassemblySlots

/-- One `Arc<Mutex<ReassemblyBuffer>>`, with the calls that filled its slots. -/
structure Cell where
  key : CacheKey
  buffer : ReassemblyBuffer
  locked : Bool
  slots : ℕ → Option ℕ
  spent : Bool

/-- Where an accepted fragment went, and whether the buffer had been assembled before. -/
structure Place where
  buffer : ℕ
  index : ℕ
  spent : Bool

structure Assembly where
  call : ℕ
  buffer : ℕ
  contributors : List ℕ
  delivery : UdpReassembler.Delivery

structure Reassembler where
  cache : CacheKey → Option ℕ
  cells : List Cell
  accepted : ℕ → Option Place
  assemblies : List Assembly

inductive Process where
  | entering
  | holding (cacheKey : CacheKey) (buffer : ℕ)
  | invalidating (cacheKey : CacheKey) (buffer : ℕ) (assembled : Option UdpReassembler.Delivery)
  | returned (result : Except IoError (Option UdpReassembler.Delivery))

inductive Action where
  | getWith
  | addFragment
  | invalidate
  deriving DecidableEq

namespace Cell

def new (key : CacheKey) : Cell := ⟨key, .new key.1 0 none, false, fun _ => none, false⟩

end Cell

namespace Reassembler

def new : Reassembler := ⟨fun _ => none, [], fun _ => none, []⟩

def insert (r : Reassembler) (key : CacheKey) : Reassembler :=
  { r with
    cache := Function.update r.cache key (some r.cells.length)
    cells := r.cells ++ [.new key] }

def setCell (r : Reassembler) (b : ℕ) (cell : Cell) : Reassembler :=
  { r with cells := r.cells.set b cell }

def accept (r : Reassembler) (t : ℕ) (place : Place) : Reassembler :=
  { r with accepted := Function.update r.accepted t (some place) }

def evict (r : Reassembler) (key : CacheKey) : Reassembler :=
  { r with cache := Function.update r.cache key none }

end Reassembler

section Steps
variable (packet : ℕ → UdpPacket)

def getWith (t : ℕ) (r : Reassembler) : Reassembler × Process :=
  match packet t with
  | .unfragmented sessionId address data =>
    (r, .returned (.ok (some (sessionId, address, data))))
  | .fragmented sessionId fragmentId .. =>
    let cacheKey := (sessionId, fragmentId)
    match r.cache cacheKey with
    | some b => (r, .holding cacheKey b)
    | none => (r.insert cacheKey, .holding cacheKey r.cells.length)

/-- The fragment was accepted into the cell; assemble if that completed it. -/
def assembleIfComplete (t : ℕ) (cacheKey : CacheKey) (b : ℕ) (cell : Cell) (r : Reassembler) :
    Reassembler × Process :=
  if cell.buffer.isComplete then
    let (assembled, buffer) := cell.buffer.assembleAndTake
    let calls := contributors cell.buffer.totalCount.toNat cell.slots
    ({ r.setCell b ⟨cell.key, buffer, true, fun _ => none, true⟩ with
        assemblies := r.assemblies ++ (assembled.map fun d => ⟨t, b, calls, d⟩).toList },
      .invalidating cacheKey b assembled)
  else (r.setCell b cell, .returned (.ok none))

def addFragment (t : ℕ) (cacheKey : CacheKey) (b : ℕ) (cell : Cell) (r : Reassembler) :
    Reassembler × Process :=
  match cell.buffer.addFragment (packet t) with
  | (false, buffer) => (r.setCell b { cell with buffer := buffer }, .returned (.ok none))
  | (true, buffer) =>
    let index := indexOf (packet t)
    assembleIfComplete t cacheKey b
      { cell with buffer := buffer, slots := Function.update cell.slots index (some t) }
      (r.accept t ⟨b, index, cell.spent⟩)

def invalidate (cacheKey : CacheKey) (b : ℕ) (cell : Cell)
    (assembled : Option UdpReassembler.Delivery) (r : Reassembler) : Reassembler × Process :=
  ((r.evict cacheKey).setCell b { cell with locked := false }, .returned (.ok assembled))

def processStep (t : ℕ) (r : Reassembler) (p : Process) : Action → Option (Reassembler × Process)
  | .getWith =>
    match p with
    | .entering => some (getWith packet t r)
    | _ => none
  | .addFragment =>
    match p with
    | .holding cacheKey b =>
      match r.cells[b]? with
      | some cell => if cell.locked then none else some (addFragment packet t cacheKey b cell r)
      | none => none
    | _ => none
  | .invalidate =>
    match p with
    | .invalidating cacheKey b assembled =>
      r.cells[b]?.map fun cell => invalidate cacheKey b cell assembled r
    | _ => none

/-- Any number of calls, and a cache that may drop an entry at any time. -/
def reassembly : Program Reassembler Process Action CacheKey where
  shared := .new
  phase := .entering
  step := processStep packet
  world r key := some (r.evict key)

end Steps

/-! ## The invariant -/

section Invariant
variable {packet : ℕ → UdpPacket} {r : Reassembler}

/-- The delivery is made of one accepted fragment for each index, all of one key and count. -/
def AssembledFrom (packet : ℕ → UdpPacket) (r : Reassembler) (x : Assembly) : Prop :=
  ∃ (key : CacheKey) (count : UInt16) (address : Address),
    0 < count ∧ x.contributors.length = count.toNat ∧
      (∀ i t, x.contributors[i]? = some t → Carries key count i (packet t) ∧
        r.accepted t = some ⟨x.buffer, i, false⟩) ∧
      x.delivery = (key.1, address, (x.contributors.map fun t => dataOf (packet t)).flatten)

structure Consistent (packet : ℕ → UdpPacket) (r : Reassembler) : Prop where
  cache : ∀ key b, r.cache key = some b → ∃ cell, r.cells[b]? = some cell ∧ cell.key = key
  filled : ∀ (b : ℕ) cell, r.cells[b]? = some cell →
    Filled packet cell.key cell.buffer cell.slots cell.spent
  places : ∀ (b : ℕ) cell, r.cells[b]? = some cell → ∀ i t, cell.slots i = some t →
    r.accepted t = some ⟨b, i, cell.spent⟩
  spent : ∀ x ∈ r.assemblies, ∃ cell, r.cells[x.buffer]? = some cell ∧ cell.spent = true
  assembled : ∀ x ∈ r.assemblies, AssembledFrom packet r x
  once : (r.assemblies.map Assembly.buffer).Nodup

def FragmentOf (key : CacheKey) (packet : UdpPacket) : Prop :=
  ∃ fragmentIndex count address data,
    packet = .fragmented key.1 key.2 fragmentIndex count address data

def Delivers (packet : ℕ → UdpPacket) (r : Reassembler) (t : ℕ) (d : UdpReassembler.Delivery) :
    Prop :=
  packet t = .unfragmented d.1 d.2.1 d.2.2 ∨ ∃ x ∈ r.assemblies, x.call = t ∧ x.delivery = d

def Knows (packet : ℕ → UdpPacket) (t : ℕ) (r : Reassembler) : Process → Prop
  | .entering => r.accepted t = none
  | .holding cacheKey b => r.accepted t = none ∧ FragmentOf cacheKey (packet t) ∧
      ∃ cell, r.cells[b]? = some cell ∧ cell.key = cacheKey
  | .invalidating _ _ assembled => ∀ d, assembled = some d → Delivers packet r t d
  | .returned result => ∀ d, result = .ok (some d) → Delivers packet r t d

theorem consistent_new : Consistent packet .new where
  cache _ _ h := by cases h
  filled _ _ h := by cases h
  places _ _ h := by cases h
  spent _ h := by cases h
  assembled _ h := by cases h
  once := List.nodup_nil

structure Grows (t : ℕ) (r r' : Reassembler) : Prop where
  accepted : ∀ u, u ≠ t → r'.accepted u = r.accepted u
  cells : ∀ (b : ℕ) cell, r.cells[b]? = some cell →
    ∃ cell', r'.cells[b]? = some cell' ∧ cell'.key = cell.key
  assemblies : ∀ x ∈ r.assemblies, x ∈ r'.assemblies

theorem Grows.knows {t u : ℕ} {r' : Reassembler} (h : Grows t r r') (other : u ≠ t) (p : Process)
    (knows : Knows packet u r p) : Knows packet u r' p := by
  have delivers : ∀ d, Delivers packet r u d → Delivers packet r' u d := by
    rintro d (whole | ⟨x, member, own⟩)
    · exact .inl whole
    · exact .inr ⟨x, h.assemblies x member, own⟩
  cases p with
  | entering => exact (h.accepted u other).trans knows
  | holding cacheKey b =>
    obtain ⟨fresh, fragment, cell, there, own⟩ := knows
    obtain ⟨cell', there', key⟩ := h.cells b cell there
    exact ⟨(h.accepted u other).trans fresh, fragment, cell', there', key.trans own⟩
  | invalidating cacheKey b assembled => exact fun d some_d => delivers d (knows d some_d)
  | returned result => exact fun d some_d => delivers d (knows d some_d)

theorem cells_set {b : ℕ} {cell cell' : Cell} (there : r.cells[b]? = some cell)
    (key : cell'.key = cell.key) (a : ℕ) (x : Cell) (found : r.cells[a]? = some x) :
    ∃ x', (r.cells.set b cell')[a]? = some x' ∧ x'.key = x.key := by
  by_cases same : a = b
  · subst same
    obtain rfl := Option.some.inj (there.symm.trans found)
    exact ⟨cell', getElem?_set_of_some there, key⟩
  · exact ⟨x, (List.getElem?_set_ne (Ne.symm same)).trans found, rfl⟩

theorem AssembledFrom.mono {r' : Reassembler} {x : Assembly} (h : AssembledFrom packet r x)
    (kept : ∀ t place, r.accepted t = some place → r'.accepted t = some place) :
    AssembledFrom packet r' x := by
  obtain ⟨key, count, address, positive, length, each, delivery⟩ := h
  refine ⟨key, count, address, positive, length, fun i t found => ?_, delivery⟩
  obtain ⟨carries, accepted⟩ := each i t found
  exact ⟨carries, kept t _ accepted⟩

theorem Consistent.evict (h : Consistent packet r) (key : CacheKey) :
    Consistent packet (r.evict key) := by
  refine ⟨?_, h.filled, h.places, h.spent, h.assembled, h.once⟩
  intro other b there
  change Function.update r.cache key none other = some b at there
  exact h.cache other b (update_none_eq_some there).2

theorem Consistent.insert (h : Consistent packet r) (key : CacheKey) :
    Consistent packet (r.insert key) := by
  refine ⟨?_, ?_, ?_, ?_, h.assembled, h.once⟩
  · intro other b there
    change Function.update r.cache key (some r.cells.length) other = some b at there
    obtain ⟨rfl, rfl⟩ | ⟨_, before⟩ := update_some_eq_some there
    · exact ⟨.new other, List.getElem?_concat_length, rfl⟩
    · obtain ⟨cell, found, own⟩ := h.cache other b before
      exact ⟨cell, getElem?_concat_of_some found, own⟩
  · intro b cell found
    rcases getElem?_concat_eq_some found with there | ⟨_, rfl⟩
    · exact h.filled b cell there
    · exact filled_new packet key
  · intro b cell found i t slot
    rcases getElem?_concat_eq_some found with there | ⟨_, rfl⟩
    · exact h.places b cell there i t slot
    · cases slot
  · intro x member
    obtain ⟨cell, there, spent⟩ := h.spent x member
    exact ⟨cell, getElem?_concat_of_some there, spent⟩

/-- One buffer changes, and at most one more fragment is accepted. -/
theorem Consistent.replace (h : Consistent packet r) {b : ℕ} {cell : Cell}
    (there : r.cells[b]? = some cell) (cell' : Cell) (key : cell'.key = cell.key)
    (filled : Filled packet cell'.key cell'.buffer cell'.slots cell'.spent)
    {accepted : ℕ → Option Place}
    (kept : ∀ t place, r.accepted t = some place → accepted t = some place)
    (places : ∀ i t, cell'.slots i = some t → accepted t = some ⟨b, i, cell'.spent⟩)
    (spent : cell.spent = true → cell'.spent = true) :
    Consistent packet { r with cells := r.cells.set b cell', accepted := accepted } := by
  refine ⟨?_, ?_, ?_, ?_, ?_, h.once⟩
  · intro other a found
    obtain ⟨x, found, own⟩ := h.cache other a found
    obtain ⟨x', found', same⟩ := cells_set there key a x found
    exact ⟨x', found', same.trans own⟩
  · intro a x found
    rcases getElem?_set_eq_some found with ⟨_, rfl⟩ | ⟨_, old⟩
    · exact filled
    · exact h.filled a x old
  · intro a x found i t slot
    rcases getElem?_set_eq_some found with ⟨rfl, rfl⟩ | ⟨_, old⟩
    · exact places i t slot
    · exact kept t _ (h.places a x old i t slot)
  · intro x member
    obtain ⟨y, found, used⟩ := h.spent x member
    by_cases same : x.buffer = b
    · subst same
      obtain rfl := Option.some.inj (there.symm.trans found)
      exact ⟨cell', getElem?_set_of_some there, spent used⟩
    · exact ⟨y, (List.getElem?_set_ne (Ne.symm same)).trans found, used⟩
  · exact fun x member => (h.assembled x member).mono kept

/-- An assembly of a buffer that was not spent before. -/
theorem Consistent.append (h : Consistent packet r) {x : Assembly} {cell : Cell}
    (there : r.cells[x.buffer]? = some cell) (spent : cell.spent = true)
    (first : ∀ y ∈ r.assemblies, y.buffer ≠ x.buffer) (assembled : AssembledFrom packet r x) :
    Consistent packet { r with assemblies := r.assemblies ++ [x] } := by
  refine ⟨h.cache, h.filled, h.places, ?_, ?_, ?_⟩
  · intro y member
    rcases List.mem_append.1 member with old | last
    · exact h.spent y old
    · obtain rfl := List.mem_singleton.1 last
      exact ⟨cell, there, spent⟩
  · intro y member
    rcases List.mem_append.1 member with old | last
    · exact h.assembled y old
    · obtain rfl := List.mem_singleton.1 last
      exact assembled
  · rw [List.map_append, List.map_singleton, ← List.concat_eq_append]
    refine h.once.concat fun member => ?_
    obtain ⟨y, old, same⟩ := List.mem_map.1 member
    exact first y old same

structure Stepped (packet : ℕ → UdpPacket) (t : ℕ) (r : Reassembler)
    (next : Reassembler × Process) : Prop where
  consistent : Consistent packet next.1
  knows : Knows packet t next.1 next.2
  grows : Grows t r next.1

theorem Grows.refl (t : ℕ) (r : Reassembler) : Grows t r r :=
  ⟨fun _ _ => rfl, fun _ cell there => ⟨cell, there, rfl⟩, fun _ member => member⟩

theorem getWith_stepped (h : Consistent packet r) {t : ℕ} (fresh : r.accepted t = none) :
    Stepped packet t r (getWith packet t r) := by
  unfold getWith
  cases shape : packet t with
  | unfragmented sessionId address data =>
    refine ⟨h, ?_, .refl t r⟩
    intro d returned
    obtain rfl := Option.some.inj (Except.ok.inj returned)
    exact .inl shape
  | fragmented sessionId fragmentId fragmentIndex count address data =>
    have fragment : FragmentOf (sessionId, fragmentId) (packet t) :=
      ⟨fragmentIndex, count, address, data, shape⟩
    dsimp only
    cases cached : r.cache (sessionId, fragmentId) with
    | some b => exact ⟨h, ⟨fresh, fragment, h.cache _ b cached⟩, .refl t r⟩
    | none =>
      refine ⟨h.insert _, ⟨fresh, fragment, .new _, List.getElem?_concat_length, rfl⟩, ?_⟩
      exact ⟨fun _ _ => rfl, fun b cell there => ⟨cell, getElem?_concat_of_some there, rfl⟩,
        fun _ member => member⟩

theorem grows_setCell {t b : ℕ} {cell cell' : Cell} (there : r.cells[b]? = some cell)
    (key : cell'.key = cell.key) : Grows t r (r.setCell b cell') :=
  ⟨fun _ _ => rfl, cells_set there key, fun _ member => member⟩

/-- A fragment was refused: the buffer may have adopted its count or its address. -/
theorem refused_stepped (h : Consistent packet r) {t b : ℕ} {cell : Cell}
    (there : r.cells[b]? = some cell) {buffer : ReassemblyBuffer}
    (holds : Filled packet cell.key buffer cell.slots cell.spent) :
    Stepped packet t r (r.setCell b { cell with buffer := buffer }, .returned (.ok none)) := by
  have replaced : Consistent packet { r with
      cells := r.cells.set b { cell with buffer := buffer }, accepted := r.accepted } :=
    h.replace there { cell with buffer := buffer } rfl holds (fun _ _ same => same)
      (h.places b cell there) id
  refine ⟨replaced, fun d impossible => ?_, grows_setCell there rfl⟩
  cases impossible

theorem filled_pos {n i : ℕ} {slots : ℕ → Option ℕ} (hi : i < n) (t : ℕ) :
    0 < filled n (Function.update slots i (some t)) := by
  refine Finset.card_pos.2 ⟨i, ?_⟩
  rw [Finset.mem_filter, Function.update_self]
  exact ⟨Finset.mem_range.2 hi, rfl⟩

section Accepted
variable {t b i : ℕ} {cell : Cell} {accepted : ℕ → Option Place}

theorem kept_update (fresh : r.accepted t = none) (place : Place) (u : ℕ) (old : Place)
    (known : r.accepted u = some old) :
    Function.update r.accepted t (some place) u = some old := by
  rw [Function.update_of_ne]
  · exact known
  · rintro rfl
    cases fresh.symm.trans known

theorem places_update (h : Consistent packet r) (there : r.cells[b]? = some cell)
    (fresh : r.accepted t = none) (j u : ℕ)
    (slot : Function.update cell.slots i (some t) j = some u) :
    Function.update r.accepted t (some ⟨b, i, cell.spent⟩) u = some ⟨b, j, cell.spent⟩ := by
  obtain ⟨rfl, rfl⟩ | ⟨_, before⟩ := update_some_eq_some slot
  · exact Function.update_self ..
  · exact kept_update fresh _ u _ (h.places b cell there j u before)

/-- What is assembled out of a full buffer that was not spent. -/
theorem assembledFrom_full {buffer : ReassemblyBuffer} {slots : ℕ → Option ℕ}
    (holds : Filled packet cell.key buffer slots false)
    (full : ∀ i < buffer.totalCount.toNat, (slots i).isSome = true)
    (positive : 0 < buffer.totalCount)
    (places : ∀ j u, slots j = some u → r.accepted u = some ⟨b, j, false⟩) (address : Address) :
    AssembledFrom packet r ⟨t, b, contributors buffer.totalCount.toNat slots, cell.key.1, address,
      ((contributors buffer.totalCount.toNat slots).map fun t => dataOf (packet t)).flatten⟩ := by
  refine ⟨cell.key, buffer.totalCount, address, positive, contributors_length full, ?_, rfl⟩
  intro j u found
  have inside : j < buffer.totalCount.toNat := by
    have bound := (List.getElem?_eq_some_iff.1 found).1
    rwa [contributors_length full] at bound
  have slot : slots j = some u := (contributors_getElem? full inside).symm.trans found
  exact ⟨holds.own j u slot, places j u slot⟩

/-- A fragment was accepted into slot `i`. -/
theorem accepted_stepped (h : Consistent packet r) (there : r.cells[b]? = some cell)
    (fresh : r.accepted t = none) {buffer : ReassemblyBuffer}
    (inside : i < buffer.totalCount.toNat)
    (holds : Filled packet cell.key buffer (Function.update cell.slots i (some t)) cell.spent)
    (cacheKey : CacheKey) :
    Stepped packet t r (assembleIfComplete t cacheKey b
      { cell with buffer := buffer, slots := Function.update cell.slots i (some t) }
      (r.accept t ⟨b, i, cell.spent⟩)) := by
  have kept := kept_update fresh ⟨b, i, cell.spent⟩
  have places := places_update h there fresh (i := i)
  have others : ∀ u, u ≠ t →
      Function.update r.accepted t (some ⟨b, i, cell.spent⟩) u = r.accepted u :=
    fun u other => Function.update_of_ne other ..
  unfold assembleIfComplete
  dsimp only
  split_ifs with complete
  · obtain ⟨unspent, full, address, known⟩ := holds.complete (filled_pos inside t) complete
    rw [unspent] at holds places kept others
    have positive : 0 < buffer.totalCount := by
      simp only [ReassemblyBuffer.isComplete, Bool.and_eq_true, decide_eq_true_eq] at complete
      exact complete.1.1
    obtain ⟨left, taken, _, spent⟩ := holds.assemble complete full known
    have replaced : Consistent packet { r with
        cells := r.cells.set b ⟨cell.key, left, true, fun _ => none, true⟩
        accepted := Function.update r.accepted t (some ⟨b, i, false⟩) } :=
      h.replace there ⟨cell.key, left, true, fun _ => none, true⟩ rfl spent kept
        (fun _ _ slot => by cases slot) fun _ => rfl
    have first : ∀ y ∈ r.assemblies, y.buffer ≠ b := by
      rintro y member rfl
      obtain ⟨other, found, used⟩ := h.spent y member
      obtain rfl := Option.some.inj (there.symm.trans found)
      cases unspent.symm.trans used
    have appended := replaced.append (x := ⟨t, b, _, _⟩) (getElem?_set_of_some there) rfl first
      (assembledFrom_full holds full positive places address)
    simp only [taken, Option.map_some, Option.toList_some, unspent]
    refine ⟨appended, ?_, others, cells_set there rfl, fun x member => ?_⟩
    · intro d assembled
      exact .inr ⟨_, List.mem_append_right _ (List.mem_singleton_self _), rfl,
        Option.some.inj assembled⟩
    · exact List.mem_append_left _ member
  · have replaced : Consistent packet { r with
        cells := r.cells.set b { cell with
          buffer := buffer, slots := Function.update cell.slots i (some t) }
        accepted := Function.update r.accepted t (some ⟨b, i, cell.spent⟩) } :=
      h.replace there { cell with
        buffer := buffer, slots := Function.update cell.slots i (some t) } rfl holds kept places id
    refine ⟨replaced, fun d impossible => ?_, ?_⟩
    · cases impossible
    · exact ⟨others, cells_set there rfl, fun _ member => member⟩

end Accepted

theorem addFragment_stepped (h : Consistent packet r) {t b : ℕ} {cell : Cell}
    (there : r.cells[b]? = some cell) (fresh : r.accepted t = none)
    (fragment : FragmentOf cell.key (packet t)) (cacheKey : CacheKey) :
    Stepped packet t r (addFragment packet t cacheKey b cell r) := by
  obtain ⟨fragmentIndex, count, address, data, shape⟩ := fragment
  have index : indexOf (packet t) = fragmentIndex.toNat := by rw [shape]; rfl
  unfold addFragment
  rcases (h.filled b cell there).add t shape with
    ⟨buffer, refused, holds⟩ | ⟨_, buffer, stored, inside, holds⟩
  · rw [refused]
    exact refused_stepped h there holds
  · rw [stored, index]
    exact accepted_stepped h there fresh inside holds cacheKey

theorem invalidate_stepped (h : Consistent packet r) {t b : ℕ} {cell : Cell}
    (there : r.cells[b]? = some cell) {cacheKey : CacheKey}
    {assembled : Option UdpReassembler.Delivery}
    (knows : ∀ d, assembled = some d → Delivers packet r t d) :
    Stepped packet t r (invalidate cacheKey b cell assembled r) := by
  have replaced : Consistent packet { r.evict cacheKey with
      cells := r.cells.set b { cell with locked := false }, accepted := r.accepted } :=
    (h.evict cacheKey).replace there { cell with locked := false } rfl (h.filled b cell there)
      (fun _ _ same => same) (h.places b cell there) id
  refine ⟨replaced, ?_, fun _ _ => rfl, cells_set there rfl, fun _ member => member⟩
  intro d returned
  exact knows d (Except.ok.inj returned)

theorem processStep_stepped (h : Consistent packet r) {t : ℕ} {p : Process}
    (knows : Knows packet t r p) {action : Action} {next : Reassembler × Process}
    (step : processStep packet t r p action = some next) : Stepped packet t r next := by
  cases action with
  | getWith =>
    cases p with
    | entering =>
      obtain rfl := Option.some.inj step
      exact getWith_stepped h knows
    | _ => cases step
  | addFragment =>
    cases p with
    | holding cacheKey b =>
      obtain ⟨fresh, fragment, cell, there, rfl⟩ := knows
      simp only [processStep, there] at step
      split_ifs at step with free
      obtain rfl := Option.some.inj step
      exact addFragment_stepped h there fresh fragment _
    | _ => cases step
  | invalidate =>
    cases p with
    | invalidating cacheKey b assembled =>
      obtain ⟨cell, there, rfl⟩ := Option.map_eq_some_iff.1 step
      exact invalidate_stepped h there knows
    | _ => cases step

theorem reassembly_invariant {es : List (Event Action CacheKey)} {s : State Reassembler Process}
    (run : Runs (reassembly packet).system es s) :
    SharedTasks.Invariant (Consistent packet) (Knows packet) s := by
  refine run.invariant ⟨consistent_new, fun _ => rfl⟩ ?_
  intro u e v inv step
  cases e with
  | task t action =>
    obtain ⟨next, taken, rfl⟩ := Program.task_step step
    have stepped := processStep_stepped inv.shared (inv.task t) taken
    exact inv.move stepped.consistent stepped.knows fun w p other =>
      stepped.grows.knows other p
  | world key =>
    obtain ⟨shared, taken, rfl⟩ := Program.world_step step
    obtain rfl := Option.some.inj taken
    refine inv.world (inv.shared.evict key) fun w p knows => ?_
    cases p <;> exact knows

end Invariant

/-! ## All or nothing -/

structure AllOrNothing (packet : ℕ → UdpPacket) (r : Reassembler) : Prop where
  /-- No buffer delivers twice. -/
  once : (r.assemblies.map Assembly.buffer).Nodup
  /-- A fragment is part of one delivery, and there once. -/
  disjoint : ∀ x ∈ r.assemblies, ∀ y ∈ r.assemblies, ∀ t, t ∈ x.contributors →
    t ∈ y.contributors → x = y
  distinct : ∀ x ∈ r.assemblies, x.contributors.Nodup
  /-- A delivery is the concatenation, in order, of one accepted fragment for each index. -/
  assembled : ∀ x ∈ r.assemblies, ∃ (key : CacheKey) (count : UInt16) (address : Address),
    0 < count ∧ x.contributors.length = count.toNat ∧
      (∀ i t, x.contributors[i]? = some t →
        Carries key count i (packet t) ∧ (r.accepted t).isSome = true) ∧
      x.delivery = (key.1, address, (x.contributors.map fun t => dataOf (packet t)).flatten)

section AllOrNothing
variable {packet : ℕ → UdpPacket} {r : Reassembler}

theorem Consistent.placed (h : Consistent packet r) {x : Assembly} (member : x ∈ r.assemblies)
    {i t : ℕ} (found : x.contributors[i]? = some t) :
    r.accepted t = some ⟨x.buffer, i, false⟩ := by
  obtain ⟨_, _, _, _, _, each, _⟩ := h.assembled x member
  exact (each i t found).2

theorem eq_of_buffer (h : Consistent packet r) {x y : Assembly} (hx : x ∈ r.assemblies)
    (hy : y ∈ r.assemblies) (same : x.buffer = y.buffer) : x = y :=
  List.inj_on_of_nodup_map h.once hx hy same

theorem Consistent.allOrNothing (h : Consistent packet r) : AllOrNothing packet r where
  once := h.once
  disjoint x hx y hy t inX inY := by
    obtain ⟨i, found⟩ := List.mem_iff_getElem?.1 inX
    obtain ⟨j, found'⟩ := List.mem_iff_getElem?.1 inY
    have places := (h.placed hx found).symm.trans (h.placed hy found')
    exact eq_of_buffer h hx hy (congrArg Place.buffer (Option.some.inj places))
  distinct x hx := by
    rw [List.nodup_iff_getElem?_ne_getElem?]
    intro i j less bound same
    have bound' : i < x.contributors.length := less.trans bound
    have first := h.placed hx (List.getElem?_eq_getElem bound')
    have second := h.placed hx (same.symm.trans (List.getElem?_eq_getElem bound'))
    have index := congrArg Place.index (Option.some.inj (first.symm.trans second))
    exact absurd index (Nat.ne_of_lt less)
  assembled x hx := by
    obtain ⟨key, count, address, positive, length, each, delivery⟩ := h.assembled x hx
    refine ⟨key, count, address, positive, length, fun i t found => ?_, delivery⟩
    obtain ⟨carries, accepted⟩ := each i t found
    exact ⟨carries, by rw [accepted]; rfl⟩

end AllOrNothing

/-- However the steps of the calls interleave, whatever their packets are and whatever the cache
evicts: deliveries are all or nothing, and a call returns one of them only if it made it, or the
whole packet that it was given. -/
theorem reassembly_all_or_nothing {packet : ℕ → UdpPacket} {es : List (Event Action CacheKey)}
    {s : State Reassembler Process} (run : Runs (reassembly packet).system es s) :
    AllOrNothing packet s.shared ∧
      ∀ t d, s.phase t = .returned (.ok (some d)) →
        packet t = .unfragmented d.1 d.2.1 d.2.2 ∨
          ∃ x ∈ s.shared.assemblies, x.call = t ∧ x.delivery = d := by
  have inv := reassembly_invariant run
  refine ⟨inv.shared.allOrNothing, fun t d returned => ?_⟩
  have knows := inv.task t
  rw [returned] at knows
  exact knows d rfl

/-- Two fragments of one packet, and the first of them once more. -/
def twoFragments : ℕ → UdpPacket
  | 0 => .fragmented 7 9 1 2 none [3]
  | _ => .fragmented 7 9 0 2 (some (.domain [100] 53)) [1, 2]

/-- All three calls get the same buffer, and the last one fills a slot of it after its delivery. -/
theorem reassembly_all_or_nothing_late :
    ∃ s, Runs (reassembly twoFragments).system
        [.task 0 .getWith, .task 1 .getWith, .task 2 .getWith, .task 0 .addFragment,
          .task 1 .addFragment, .task 1 .invalidate, .task 2 .addFragment] s ∧
      s.shared.assemblies.map Assembly.contributors = [[1, 0]] ∧
      AllOrNothing twoFragments s.shared := by
  have ran : ∃ s, exec (reassembly twoFragments).system
      [.task 0 .getWith, .task 1 .getWith, .task 2 .getWith, .task 0 .addFragment,
        .task 1 .addFragment, .task 1 .invalidate, .task 2 .addFragment] = some s ∧
      s.shared.assemblies.map Assembly.contributors = [[1, 0]] := ⟨_, rfl, rfl⟩
  obtain ⟨s, run, delivered⟩ := ran
  exact ⟨s, runs_of_exec run, delivered, (reassembly_all_or_nothing (runs_of_exec run)).1⟩

end Ombrac.ConcurrentReassembly
