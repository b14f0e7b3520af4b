import Ombrac.TunTcpRelay

set_option autoImplicit false

/-!
# `copy_bidirectional` between any two endpoints

The endpoints are given by what their reads and writes return. The two copies take turns in any
order; the first that finishes cancels the other, which notices between two chunks.
-/
namespace Ombrac.CopyBidirectional
open ProtocolPacket NetstackTcp TunTcpRelay

structure CopyBidirectionalStats where
  aToBBytes : ℕ
  bToABytes : ℕ
  deriving DecidableEq

/-- `read` and `written` are histories of what a direction's reader returned and its writer
accepted. -/
structure Copying where
  cancelled : Bool
  copies : Direction → Copy
  read : Direction → Bytes
  written : Direction → Bytes

inductive CopyEvent where
  | start (d : Direction)
  | observe (d : Direction)
  | read (d : Direction) (result : Except IoError Bytes)
  | wrote (d : Direction) (result : Except IoError ℕ)

def bytesWritten (rest : Bytes) : Except IoError ℕ → Bytes
  | .ok n => rest.take n
  | .error _ => []

def fits (rest : Bytes) : Except IoError ℕ → Bool
  | .ok n => n ≤ rest.length
  | .error _ => true

def CopyEvent.input (d : Direction) : CopyEvent → Bytes
  | .read d' result => if d' = d then bytesRead result else []
  | .start _ | .observe _ | .wrote _ _ => []

namespace Copying

def new : Copying where
  cancelled := false
  copies := fun _ => ⟨.start, 0⟩
  read := fun _ => []
  written := fun _ => []

def setCopy (c : Copying) (d : Direction) (copy : Copy) : Copying :=
  { c with
    copies := Function.update c.copies d copy
    cancelled := c.cancelled || copy.isFinished }

def step (c : Copying) : CopyEvent → Option Copying
  | .start d =>
    match (c.copies d).stage with
    | .start =>
      some (c.setCopy d
        (if c.cancelled then (c.copies d).finish (.ok ())
          else { c.copies d with stage := .reading }))
    | _ => none
  | .observe d =>
    match (c.copies d).stage with
    | .reading =>
      if c.cancelled then some (c.setCopy d ((c.copies d).finish (.ok ()))) else none
    | _ => none
  | .read d result =>
    match (c.copies d).stage with
    | .reading =>
      if c.cancelled = false ∧ (bytesRead result).length ≤ defaultBufSize then
        some ({ c with read := Function.update c.read d (c.read d ++ bytesRead result) }.setCopy d
          ((c.copies d).afterRead result))
      else none
    | _ => none
  | .wrote d result =>
    match (c.copies d).stage with
    | .writing chunk rest =>
      if fits rest result then
        some ({ c with
          written := Function.update c.written d (c.written d ++ bytesWritten rest result) }.setCopy d
          ((c.copies d).afterWrite chunk rest result))
      else none
    | _ => none

def stats (c : Copying) : CopyBidirectionalStats :=
  ⟨(c.copies .aToB).copied, (c.copies .bToA).copied⟩

/-- What `copy_bidirectional` returns once both copies have finished; an error of `a`'s reader or
`b`'s writer comes first. -/
def result (c : Copying) : Option (Except IoError Unit) :=
  match (c.copies .aToB).stage, (c.copies .bToA).stage with
  | .finished (.error e), .finished _ => some (.error e)
  | .finished (.ok _), .finished r => some r
  | _, _ => none

end Copying

/-! ## What has been written is what has been read -/

/-- The chunk under way is `rest`, as far as it is not written. Only a copy that failed has left
bytes behind. -/
def Faithful (copy : Copy) (read written : Bytes) : Prop :=
  match copy.stage with
  | .start | .reading | .finished (.ok _) => written = read ∧ copy.copied = written.length
  | .writing chunk rest => written ++ rest = read ∧ copy.copied + chunk = read.length ∧
      rest.length ≤ chunk ∧ chunk ≤ defaultBufSize
  | .finished (.error _) => written <+: read ∧ copy.copied ≤ written.length ∧
      written.length ≤ copy.copied + defaultBufSize

/-- What was read and is not written yet; a copy that failed has dropped it. -/
def pending (copy : Copy) : Option Bytes :=
  match copy.stage with
  | .start | .reading | .finished (.ok _) => some []
  | .writing _ rest => some rest
  | .finished (.error _) => none

section Copies
variable {copy : Copy} {read written : Bytes}

theorem Faithful.pending (h : Faithful copy read written) {rest : Bytes}
    (kept : pending copy = some rest) : written ++ rest = read := by
  unfold Faithful at h
  unfold CopyBidirectional.pending at kept
  split at h
  · rename_i start
    rw [start] at kept
    obtain rfl := Option.some.inj kept
    rw [List.append_nil, h.1]
  · rename_i reading
    rw [reading] at kept
    obtain rfl := Option.some.inj kept
    rw [List.append_nil, h.1]
  · rename_i ended
    rw [ended] at kept
    obtain rfl := Option.some.inj kept
    rw [List.append_nil, h.1]
  · rename_i writing
    rw [writing] at kept
    obtain rfl := Option.some.inj kept
    exact h.1
  · rename_i failed
    rw [failed] at kept
    cases kept

theorem Faithful.written_prefix_read (h : Faithful copy read written) : written <+: read := by
  unfold Faithful at h
  split at h
  · rw [h.1]
  · rw [h.1]
  · rw [h.1]
  · exact ⟨_, h.1⟩
  · exact h.1

/-- A copy has counted all it has written but for a part of one chunk. -/
theorem Faithful.counted (h : Faithful copy read written) :
    copy.copied ≤ written.length ∧ written.length ≤ copy.copied + defaultBufSize := by
  unfold Faithful at h
  split at h
  · omega
  · omega
  · omega
  · obtain ⟨rfl, counted, part, small⟩ := h
    rw [List.length_append] at counted
    omega
  · exact h.2

theorem Faithful.finish (h : Faithful copy read written)
    (between : copy.stage = .start ∨ copy.stage = .reading) :
    Faithful (copy.finish (.ok ())) read written := by
  rcases between with start | reading
  · simpa only [Faithful, start, Copy.finish] using h
  · simpa only [Faithful, reading, Copy.finish] using h

theorem Faithful.afterRead (h : Faithful copy read written) (reading : copy.stage = .reading)
    {result : Except IoError Bytes} (small : (bytesRead result).length ≤ defaultBufSize) :
    Faithful (copy.afterRead result) (read ++ bytesRead result) written := by
  obtain ⟨rfl, counted⟩ : written = read ∧ copy.copied = written.length := by
    simpa only [Faithful, reading] using h
  cases result with
  | error e =>
    simp only [Copy.afterRead, bytesRead, List.append_nil]
    split_ifs
    · exact ⟨rfl, counted⟩
    · change written <+: written ∧ copy.copied ≤ written.length ∧
        written.length ≤ copy.copied + defaultBufSize
      exact ⟨List.prefix_refl _, by omega, by omega⟩
  | ok bytes =>
    cases bytes with
    | nil =>
      simp only [bytesRead, List.append_nil]
      exact ⟨rfl, counted⟩
    | cons b bytes =>
      refine ⟨rfl, ?_, le_refl _, small⟩
      rw [List.length_append, ← counted]
      rfl

theorem Faithful.afterWrite (h : Faithful copy read written) {chunk : ℕ} {rest : Bytes}
    (writing : copy.stage = .writing chunk rest) {result : Except IoError ℕ}
    (room : fits rest result = true) :
    Faithful (copy.afterWrite chunk rest result) read (written ++ bytesWritten rest result) := by
  obtain ⟨all, counted, part, small⟩ : written ++ rest = read ∧ copy.copied + chunk = read.length ∧
      rest.length ≤ chunk ∧ chunk ≤ defaultBufSize := by
    simpa only [Faithful, writing] using h
  have total : written.length + rest.length = read.length := by
    rw [← all, List.length_append]
  have failed : ∀ e, Faithful (copy.finish (.error e)) read written := by
    intro e
    change written <+: read ∧ copy.copied ≤ written.length ∧
      written.length ≤ copy.copied + defaultBufSize
    exact ⟨⟨rest, all⟩, by omega, by omega⟩
  cases result with
  | error e =>
    simp only [bytesWritten, List.append_nil]
    exact failed e
  | ok n =>
    cases n with
    | zero =>
      simp only [bytesWritten, List.take_zero, List.append_nil]
      exact failed _
    | succ n =>
      have bound : n + 1 ≤ rest.length := of_decide_eq_true room
      have split : written ++ rest.take (n + 1) ++ rest.drop (n + 1) = read := by
        rw [List.append_assoc, List.take_append_drop]
        exact all
      simp only [Copy.afterWrite, bytesWritten]
      cases left : rest.drop (n + 1) with
      | nil =>
        rw [left, List.append_nil] at split
        refine ⟨split, ?_⟩
        rw [split]
        exact counted
      | cons b bytes =>
        refine ⟨left ▸ split, counted, ?_, small⟩
        rw [← left, List.length_drop]
        omega

end Copies

def Copying.Faithful (c : Copying) : Prop :=
  ∀ d, CopyBidirectional.Faithful (c.copies d) (c.read d) (c.written d)

theorem Copying.faithful_new : new.Faithful := fun _ => ⟨rfl, rfl⟩

section Steps
variable {c c' : Copying}

structure Copying.Moved (c : Copying) (e : CopyEvent) (c' : Copying) (d : Direction) (copy : Copy)
    (output : Bytes) : Prop where
  input : ∀ d', d' ≠ d → e.input d' = []
  copies : c'.copies = Function.update c.copies d copy
  read : c'.read = Function.update c.read d (c.read d ++ e.input d)
  written : c'.written = Function.update c.written d (c.written d ++ output)
  faithful : CopyBidirectional.Faithful (c.copies d) (c.read d) (c.written d) →
    CopyBidirectional.Faithful copy (c.read d ++ e.input d) (c.written d ++ output)

/-- A step that neither reads nor writes. -/
theorem Copying.Moved.of_copy {e : CopyEvent} (d : Direction) (copy : Copy)
    (nothing : ∀ d', e.input d' = [])
    (faithful : CopyBidirectional.Faithful (c.copies d) (c.read d) (c.written d) →
      CopyBidirectional.Faithful copy (c.read d) (c.written d)) :
    c.Moved e (c.setCopy d copy) d copy [] where
  input d' _ := nothing d'
  copies := rfl
  read := by rw [nothing, List.append_nil, Function.update_eq_self]; rfl
  written := by rw [List.append_nil, Function.update_eq_self]; rfl
  faithful := by rwa [nothing, List.append_nil, List.append_nil]

theorem Copying.step_moved {e : CopyEvent} (moved : c.step e = some c') :
    ∃ d copy output, c.Moved e c' d copy output := by
  cases e with
  | start d =>
    simp only [Copying.step] at moved
    split at moved
    · rename_i start
      obtain rfl := Option.some.inj moved
      refine ⟨d, _, [], .of_copy d _ (fun _ => rfl) fun faithful => ?_⟩
      split_ifs
      · exact faithful.finish (.inl start)
      · simpa only [CopyBidirectional.Faithful, start] using faithful
    · cases moved
  | observe d =>
    simp only [Copying.step] at moved
    split at moved
    · rename_i reading
      split_ifs at moved
      obtain rfl := Option.some.inj moved
      exact ⟨d, _, [], .of_copy d _ (fun _ => rfl) fun faithful => faithful.finish (.inr reading)⟩
    · cases moved
  | read d result =>
    simp only [Copying.step] at moved
    split at moved
    · rename_i reading
      split_ifs at moved with free
      obtain rfl := Option.some.inj moved
      have input : (CopyEvent.read d result).input d = bytesRead result := if_pos rfl
      refine ⟨d, _, [], fun d' ne => if_neg (Ne.symm ne), rfl, ?_, ?_, fun faithful => ?_⟩
      · rw [input]
        rfl
      · rw [List.append_nil, Function.update_eq_self]
        rfl
      · rw [input, List.append_nil]
        exact faithful.afterRead reading free.2
    · cases moved
  | wrote d result =>
    simp only [Copying.step] at moved
    split at moved
    · rename_i rest writing
      split_ifs at moved with room
      obtain rfl := Option.some.inj moved
      refine ⟨d, _, bytesWritten rest result, fun _ _ => rfl, rfl, ?_, rfl, fun faithful => ?_⟩
      · rw [CopyEvent.input, List.append_nil, Function.update_eq_self]
        rfl
      · rw [CopyEvent.input, List.append_nil]
        exact faithful.afterWrite writing room
    · cases moved

theorem Copying.Faithful.step (h : c.Faithful) {e : CopyEvent} (moved : c.step e = some c') :
    c'.Faithful := by
  obtain ⟨d, copy, output, here⟩ := Copying.step_moved moved
  intro d'
  rw [here.copies, here.read, here.written]
  by_cases same : d' = d
  · subst same
    simp only [Function.update_self]
    exact here.faithful (h d')
  · simp only [Function.update_of_ne same]
    exact h d'

theorem Copying.step_read {e : CopyEvent} (moved : c.step e = some c') (d : Direction) :
    c'.read d = c.read d ++ e.input d := by
  obtain ⟨d', copy, output, here⟩ := Copying.step_moved moved
  rw [here.read]
  by_cases same : d = d'
  · subst same
    rw [Function.update_self]
  · rw [Function.update_of_ne same, here.input d same, List.append_nil]

theorem Copying.step_written {e : CopyEvent} (moved : c.step e = some c') (d : Direction) :
    c.written d <+: c'.written d := by
  obtain ⟨d', copy, output, here⟩ := Copying.step_moved moved
  rw [here.written]
  by_cases same : d = d'
  · subst same
    rw [Function.update_self]
    exact List.prefix_append _ _
  · rw [Function.update_of_ne same]

end Steps

end Ombrac.CopyBidirectional
