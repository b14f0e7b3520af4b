import Mathlib.Data.List.Flatten
import Mathlib.Tactic.Ring

set_option autoImplicit false

/-! # Chunks of a slice: consecutive pieces of `n` elements, the last one possibly shorter -/
namespace Ombrac.SliceChunks

variable {α : Type*}

def chunkCount (n : ℕ) (xs : List α) : ℕ := (xs.length + n - 1) / n

def chunks (n : ℕ) (xs : List α) : List (List α) :=
  (List.range (chunkCount n xs)).map fun i => (xs.drop (i * n)).take n

theorem chunks_prefix_flatten (n : ℕ) (xs : List α) (k : ℕ) :
    ((List.range k).map fun i => (xs.drop (i * n)).take n).flatten = xs.take (k * n) := by
  induction k with
  | zero => simp
  | succ k ih =>
    rw [List.range_succ, List.map_append, List.flatten_append, ih, Nat.succ_mul, List.take_add]
    simp

theorem length_le_chunkCount_mul (n : ℕ) (hn : 0 < n) (xs : List α) :
    xs.length ≤ chunkCount n xs * n := by
  have h := Nat.div_add_mod (xs.length + n - 1) n
  have hm := Nat.mod_lt (xs.length + n - 1) hn
  unfold chunkCount
  rw [Nat.mul_comm]
  omega

@[simp] theorem chunks_length (n : ℕ) (xs : List α) : (chunks n xs).length = chunkCount n xs := by
  simp [chunks]

/-- As many chunks as their room needs. -/
theorem chunkCount_le_iff (n : ℕ) (hn : 0 < n) (xs : List α) (k : ℕ) :
    chunkCount n xs ≤ k ↔ xs.length ≤ k * n := by
  rw [chunkCount, ← Nat.lt_succ_iff, Nat.div_lt_iff_lt_mul hn, Nat.succ_mul]
  omega

theorem lt_chunkCount_iff (n : ℕ) (hn : 0 < n) (xs : List α) (i : ℕ) :
    i < chunkCount n xs ↔ i * n < xs.length := by
  rw [← not_le, chunkCount_le_iff n hn, not_le]

/-- No chunk is empty, and none longer than asked for. -/
theorem mem_chunks_length {n : ℕ} (hn : 0 < n) {xs chunk : List α} (h : chunk ∈ chunks n xs) :
    1 ≤ chunk.length ∧ chunk.length ≤ n := by
  obtain ⟨i, hi, rfl⟩ := List.mem_map.1 h
  have inside := (lt_chunkCount_iff n hn xs i).1 (List.mem_range.1 hi)
  rw [List.length_take, List.length_drop]
  omega

/-- Nothing is lost, doubled or moved: the chunks in order are the slice. -/
theorem chunks_flatten (n : ℕ) (hn : 0 < n) (xs : List α) : (chunks n xs).flatten = xs := by
  rw [chunks, chunks_prefix_flatten]
  exact List.take_of_length_le (length_le_chunkCount_mul n hn xs)

end Ombrac.SliceChunks
