import Mathlib.Data.Nat.Basic
import Ombrac.LabelledSystem

set_option autoImplicit false

/-!
# The pool of packet buffers

A buffer is known by its length and its capacity. How far `BytesMut` allocates beyond what was
asked for is left open: each operation comes with the capacity that it ends up with.
-/
namespace Ombrac.PacketBuffers
open LabelledSystem

structure BytesMut where
  len : ℕ
  capacity : ℕ
  fits : len ≤ capacity
  deriving DecidableEq

namespace BytesMut

def withCapacity (capacity allocated : ℕ) : Option BytesMut :=
  if capacity ≤ allocated then some ⟨0, allocated, Nat.zero_le _⟩ else none

/-- What `reserve` guarantees: room for that many bytes, and nothing where there is room. -/
def Reserves (b : BytesMut) (additional grown : ℕ) : Prop :=
  b.len + additional ≤ grown ∧ (b.len + additional ≤ b.capacity → grown = b.capacity)

instance (b : BytesMut) (additional grown : ℕ) : Decidable (b.Reserves additional grown) :=
  inferInstanceAs (Decidable (_ ∧ _))

def reserve (b : BytesMut) (additional grown : ℕ) : Option BytesMut :=
  if h : b.Reserves additional grown then
    some ⟨b.len, grown, (Nat.le_add_right _ _).trans h.1⟩
  else none

def clear (b : BytesMut) : BytesMut := ⟨0, b.capacity, Nat.zero_le _⟩

def putSlice (b : BytesMut) (n grown : ℕ) : Option BytesMut :=
  if h : b.Reserves n grown then some ⟨b.len + n, grown, h.1⟩ else none

def splitTo (b : BytesMut) (at_index : ℕ) : Option BytesMut :=
  if at_index ≤ b.len then
    some ⟨b.len - at_index, b.capacity - at_index, Nat.sub_le_sub_right b.fits _⟩
  else none

end BytesMut

/-- The oldest buffer of the queue comes first. -/
structure BufferPool where
  pool : List BytesMut
  maxPoolSize : ℕ
  defaultBufferSize : ℕ

structure Outcome where
  allocated : ℕ
  grown : ℕ

namespace BufferPool

def new (maxPoolSize defaultBufferSize : ℕ) : BufferPool := ⟨[], maxPoolSize, defaultBufferSize⟩

def requiredCapacity (p : BufferPool) (capacity : ℕ) : ℕ := max capacity p.defaultBufferSize

def pop (p : BufferPool) (requiredCapacity allocated : ℕ) : Option BytesMut :=
  match p.pool with
  | [] => BytesMut.withCapacity requiredCapacity allocated
  | buffer :: _ => some buffer

/-- The growth is what the capacity lacks, and `reserve` counts it from the length. -/
def grow (buffer : BytesMut) (requiredCapacity grown : ℕ) : Option BytesMut :=
  if buffer.capacity < requiredCapacity then
    buffer.reserve (requiredCapacity - buffer.capacity) grown
  else some buffer

def get (p : BufferPool) (capacity : ℕ) (o : Outcome) : Option (BytesMut × BufferPool) :=
  ((p.pop (p.requiredCapacity capacity) o.allocated).bind fun buffer =>
    grow buffer (p.requiredCapacity capacity) o.grown).map fun buffer =>
      (buffer.clear, { p with pool := p.pool.tail })

def release (p : BufferPool) (buffer : BytesMut) : BufferPool :=
  if p.pool.length < p.maxPoolSize then { p with pool := p.pool ++ [buffer] } else p

end BufferPool

structure State where
  pool : BufferPool
  held : List BytesMut

inductive Op where
  | get (capacity : ℕ)
  | write (i n : ℕ)
  | split (i at_index : ℕ)
  | drop (i : ℕ)

def poolStep (s : State) : Op × Outcome → Option State
  | (.get capacity, o) =>
    (s.pool.get capacity o).map fun (buffer, pool) => ⟨pool, s.held ++ [buffer]⟩
  | (.write i n, o) =>
    (s.held[i]?.bind fun buffer => buffer.putSlice n o.grown).map fun buffer =>
      { s with held := s.held.set i buffer }
  | (.split i at_index, _) =>
    (s.held[i]?.bind fun buffer => buffer.splitTo at_index).map fun buffer =>
      { s with held := s.held.set i buffer }
  | (.drop i, _) =>
    s.held[i]?.map fun buffer => ⟨s.pool.release buffer, s.held.eraseIdx i⟩

def poolSystem (maxPoolSize defaultBufferSize : ℕ) : System State (Op × Outcome) :=
  ⟨⟨.new maxPoolSize defaultBufferSize, []⟩, poolStep⟩

def Meets (p : BufferPool) (capacity : ℕ) (o : Outcome) : Prop :=
  ∀ buffer rest, p.get capacity o = some (buffer, rest) →
    buffer.len = 0 ∧ p.requiredCapacity capacity ≤ buffer.capacity

/-- The buffer that is reused, if there is one, is large enough or full. -/
def Reusable (p : BufferPool) (capacity : ℕ) : Prop :=
  ∀ buffer ∈ p.pool.head?, p.requiredCapacity capacity ≤ buffer.capacity ∨
    buffer.len = buffer.capacity

section Get
variable {p q : BufferPool} {capacity : ℕ} {buffer next : BytesMut} {required grown : ℕ}

theorem get_eq_some {o : Outcome} : p.get capacity o = some (buffer, q) ↔
    ∃ popped next, p.pop (p.requiredCapacity capacity) o.allocated = some popped ∧
      BufferPool.grow popped (p.requiredCapacity capacity) o.grown = some next ∧
      buffer = next.clear ∧ q = { p with pool := p.pool.tail } := by
  simp only [BufferPool.get, Option.map_eq_some_iff, Option.bind_eq_some_iff, Prod.mk.injEq]
  constructor
  · rintro ⟨next, ⟨popped, found, grew⟩, rfl, rfl⟩
    exact ⟨popped, next, found, grew, rfl, rfl⟩
  · rintro ⟨popped, next, found, grew, rfl, rfl⟩
    exact ⟨next, ⟨popped, found, grew⟩, rfl, rfl⟩

/-- Counted from the end of a full buffer, what the capacity lacks is enough. -/
theorem grow_capacity (good : required ≤ buffer.capacity ∨ buffer.len = buffer.capacity)
    (grew : BufferPool.grow buffer required grown = some next) : required ≤ next.capacity := by
  unfold BufferPool.grow BytesMut.reserve at grew
  split_ifs at grew with small reserves
  · obtain rfl := Option.some.inj grew
    have room := reserves.1
    dsimp only
    omega
  · obtain rfl := Option.some.inj grew
    exact Nat.not_lt.1 small

/-- A small buffer that is not full may come out too small. -/
theorem grow_short (small : buffer.capacity < required) (partly : buffer.len < buffer.capacity) :
    ∃ grown next, BufferPool.grow buffer required grown = some next ∧
      next.capacity < required := by
  by_cases room : buffer.len + (required - buffer.capacity) ≤ buffer.capacity
  · exact ⟨buffer.capacity, _, (if_pos small).trans (dif_pos ⟨room, fun _ => rfl⟩), small⟩
  · refine ⟨buffer.len + (required - buffer.capacity), _,
      (if_pos small).trans (dif_pos ⟨le_rfl, fun enough => absurd enough room⟩), ?_⟩
    dsimp only
    omega

theorem meets_of_reusable (reusable : Reusable p capacity) (o : Outcome) : Meets p capacity o := by
  intro buffer q got
  obtain ⟨popped, next, found, grew, rfl, _⟩ := get_eq_some.1 got
  have good : p.requiredCapacity capacity ≤ popped.capacity ∨ popped.len = popped.capacity := by
    unfold BufferPool.pop at found
    split at found
    · unfold BytesMut.withCapacity at found
      split_ifs at found with allocated
      obtain rfl := Option.some.inj found
      exact .inl allocated
    · rename_i front _ queue
      obtain rfl := Option.some.inj found
      exact reusable front (by rw [queue]; rfl)
  have large := grow_capacity good grew
  exact ⟨rfl, large⟩

/-- Of a buffer that cannot be reused, `get` may return too small a one. -/
theorem exists_not_meets (bad : ¬ Reusable p capacity) :
    ∃ o result, p.get capacity o = some result ∧ ¬ Meets p capacity o := by
  obtain ⟨front, bad⟩ := not_forall.1 bad
  obtain ⟨head, bad⟩ := Classical.not_imp.1 bad
  obtain ⟨small, partly⟩ := not_or.1 bad
  obtain ⟨grown, next, grew, short⟩ :=
    grow_short (Nat.not_le.1 small) (front.fits.lt_of_ne partly)
  have popped : p.pop (p.requiredCapacity capacity) 0 = some front := by
    unfold BufferPool.pop
    cases queue : p.pool with
    | nil =>
      rw [queue] at head
      cases head
    | cons first rest =>
      rw [queue] at head
      exact head
  have got := (get_eq_some (o := ⟨0, grown⟩)).2 ⟨front, next, popped, grew, rfl, rfl⟩
  exact ⟨_, _, got, fun meets => absurd (meets _ _ got).2 (Nat.not_le.2 short)⟩

end Get

/-- In every history of operations, all calls of `get` meet their postcondition whatever the
allocator does exactly if each finds the pool empty, or a buffer in front that is large enough or
full. -/
theorem get_postcondition_iff (maxPoolSize defaultBufferSize : ℕ) (ops : List Op) :
    (∀ es, es.map Prod.fst <+: ops → ∀ s capacity o t,
        Takes (poolSystem maxPoolSize defaultBufferSize) es s (.get capacity, o) t →
          Meets s.pool capacity o) ↔
      ∀ es, es.map Prod.fst <+: ops → ∀ s capacity o t,
        Takes (poolSystem maxPoolSize defaultBufferSize) es s (.get capacity, o) t →
          Reusable s.pool capacity := by
  constructor
  · rintro meets es history s capacity o t ⟨before, pre, run, _⟩
    by_contra bad
    obtain ⟨o', result, got, short⟩ := exists_not_meets bad
    have step : poolStep s (.get capacity, o') = some _ := Option.map_eq_some_iff.2 ⟨_, got, rfl⟩
    -- the operations are the same with the other outcome of the last
    have same : (before ++ [(Op.get capacity, o')]).map Prod.fst <+: ops := by
      have whole := (pre.map Prod.fst).trans history
      rwa [List.map_append] at whole ⊢
    exact short (meets _ same _ _ _ _ (run.takes step))
  · intro reusable es history s capacity o t take
    exact meets_of_reusable (reusable es history s capacity o t take) o

def partlyFilled : List Op := [.get 64, .write 0 10, .drop 0, .get 2048]

/-- The buffer grows to the 1994 bytes that were asked of `reserve`. -/
theorem reused_buffer_short :
    ¬ ∀ (maxPoolSize defaultBufferSize : ℕ) (ops : List Op) (es : List (Op × Outcome)),
        es.map Prod.fst <+: ops → ∀ s capacity o t,
      Takes (poolSystem maxPoolSize defaultBufferSize) es s (.get capacity, o) t →
        Meets s.pool capacity o := by
  intro meets
  have ran : exec (poolSystem 4 64)
    [(.get 64, ⟨64, 0⟩), (.write 0 10, ⟨0, 64⟩), (.drop 0, ⟨0, 0⟩)] = some _ := rfl
  have take := (runs_of_exec ran).takes (e := (.get 2048, ⟨0, 1994⟩)) (v := _) rfl
  have large := meets 4 64 partlyFilled _ ⟨[], rfl⟩ _ _ _ _ take _ _ rfl
  exact absurd large.2 (by decide)

end Ombrac.PacketBuffers
