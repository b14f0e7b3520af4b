import Ombrac.CopyBidirectional
import Ombrac.LabelledSystem

set_option autoImplicit false

/-!
# What `copy_bidirectional` has done when it returns

The scripts of the two endpoints are the results of the reads and writes along a run; the two
directions take turns in any order and each may find the other's cancellation at any read.
-/
namespace Ombrac.CopyFaithful
open ProtocolPacket NetstackTcp TunTcpRelay CopyBidirectional LabelledSystem

def copying : System Copying CopyEvent := ⟨.new, Copying.step⟩

def direction : CopyEvent → Direction
  | .start d | .observe d | .read d _ | .wrote d _ => d

def script (d : Direction) (es : List CopyEvent) : List CopyEvent :=
  es.filter fun e => direction e = d

/-- `Ok(0)` is end of file. -/
def chunk : CopyEvent → Option Bytes
  | .read _ (.ok (b :: bytes)) => some (b :: bytes)
  | _ => none

def chunks (d : Direction) (es : List CopyEvent) : List Bytes := (script d es).filterMap chunk

def isReset (e : IoError) : Bool := e.kind = .connectionReset ∨ e.kind = .connectionAborted

def isEnd : CopyEvent → Bool
  | .read _ (.ok []) => true
  | .read _ (.error e) => isReset e
  | _ => false

/-- What `write_all` fails with: a writer that accepts nothing counts as an error. -/
def writeError : CopyEvent → Option IoError
  | .wrote _ (.error e) => some e
  | .wrote _ (.ok 0) => some Copy.writeZero
  | _ => none

def readError : CopyEvent → Option IoError
  | .read _ (.error e) => if isReset e then none else some e
  | _ => none

def Ended (d : Direction) (es : List CopyEvent) : Prop := ∃ e ∈ script d es, isEnd e = true

def FailedInWriteAll (d : Direction) (es : List CopyEvent) : Prop :=
  ∃ e ∈ script d es, writeError e ≠ none

def FailedWith (d : Direction) (es : List CopyEvent) (error : IoError) : Prop :=
  ∃ e ∈ script d es, readError e = some error ∨ writeError e = some error

/-- The leading chunks that `n` bytes cover. -/
def completed : List Bytes → ℕ → List Bytes
  | [], _ => []
  | chunk :: chunks, n =>
    if chunk.length ≤ n then chunk :: completed chunks (n - chunk.length) else []

def bytes (stats : CopyBidirectionalStats) : Direction → ℕ
  | .aToB => stats.aToBBytes
  | .bToA => stats.bToABytes

theorem bytes_stats (c : Copying) (d : Direction) : bytes c.stats d = (c.copies d).copied := by
  cases d <;> rfl

theorem completed_flatten (chunks : List Bytes) :
    completed chunks chunks.flatten.length = chunks := by
  induction chunks with
  | nil => rfl
  | cons chunk chunks ih =>
    rw [List.flatten_cons, List.length_append, completed, if_pos (Nat.le_add_right _ _),
      Nat.add_sub_cancel_left, ih]

theorem completed_append_part (done : List Bytes) {current : Bytes} {n : ℕ}
    (part : n < current.length) :
    completed (done ++ [current]) (done.flatten.length + n) = done := by
  induction done with
  | nil =>
    rw [List.nil_append, completed, if_neg (by simpa using part)]
  | cons chunk done ih =>
    rw [List.cons_append, List.flatten_cons, List.length_append, Nat.add_assoc, completed,
      if_pos (Nat.le_add_right _ _), Nat.add_sub_cancel_left, ih]

section Append
variable {d : Direction} {es : List CopyEvent} {e : CopyEvent}

theorem script_self (here : direction e = d) : script d (es ++ [e]) = script d es ++ [e] := by
  simp [script, here]

theorem script_other (elsewhere : direction e ≠ d) : script d (es ++ [e]) = script d es := by
  simp [script, elsewhere]

end Append

/-! ## One direction -/

structure AllWritten (chunks : List Bytes) (output : Bytes) (copied : ℕ) : Prop where
  written : output = chunks.flatten
  counted : copied = output.length

structure Underway (chunks : List Bytes) (output : Bytes) (copied size : ℕ) (rest : Bytes) :
    Prop where
  split : ∃ done part, chunks = done ++ [part ++ rest] ∧ output = done.flatten ++ part ∧
    copied = done.flatten.length ∧ size = (part ++ rest).length
  left : rest ≠ []

def Unfailed (es : List CopyEvent) : Prop := ∀ e ∈ es, readError e = none ∧ writeError e = none

def NotEnded (es : List CopyEvent) : Prop := ∀ e ∈ es, isEnd e = false

def Progress (es : List CopyEvent) (copy : Copy) (output : Bytes) : Prop :=
  match copy.stage with
  | .start | .reading =>
    AllWritten (es.filterMap chunk) output copy.copied ∧ NotEnded es ∧ Unfailed es
  | .writing size rest =>
    Underway (es.filterMap chunk) output copy.copied size rest ∧ NotEnded es ∧ Unfailed es
  | .finished (.ok _) => AllWritten (es.filterMap chunk) output copy.copied ∧ Unfailed es
  | .finished (.error error) =>
    (AllWritten (es.filterMap chunk) output copy.copied ∧ ∃ e ∈ es, readError e = some error) ∨
    ((∃ size rest, Underway (es.filterMap chunk) output copy.copied size rest) ∧ NotEnded es ∧
      ∃ e ∈ es, writeError e = some error)

section Direction
variable {es : List CopyEvent} {e : CopyEvent} {copy : Copy} {output : Bytes}

theorem NotEnded.append (h : NotEnded es) (last : isEnd e = false) : NotEnded (es ++ [e]) := by
  intro e' mem
  rcases List.mem_append.1 mem with old | new
  · exact h e' old
  · rwa [List.mem_singleton.1 new]

theorem Unfailed.append (h : Unfailed es) (last : readError e = none ∧ writeError e = none) :
    Unfailed (es ++ [e]) := by
  intro e' mem
  rcases List.mem_append.1 mem with old | new
  · exact h e' old
  · rwa [List.mem_singleton.1 new]

/-- A step that reads no chunk and writes nothing. -/
theorem chunks_append_none (h : chunk e = none) :
    (es ++ [e]).filterMap chunk = es.filterMap chunk := by
  simp [h]

theorem chunks_append_some {bytes : Bytes} (h : chunk e = some bytes) :
    (es ++ [e]).filterMap chunk = es.filterMap chunk ++ [bytes] := by
  simp [h]

/-- A copy that found its token cancelled. -/
theorem Progress.cancel (h : Progress es copy output)
    (between : copy.stage = .start ∨ copy.stage = .reading) (silent : chunk e = none)
    (fine : readError e = none ∧ writeError e = none) :
    Progress (es ++ [e]) (copy.finish (.ok ())) output := by
  have here : AllWritten (es.filterMap chunk) output copy.copied ∧ NotEnded es ∧ Unfailed es := by
    rcases between with start | reading
    · simpa only [Progress, start] using h
    · simpa only [Progress, reading] using h
  change AllWritten _ output copy.copied ∧ _
  rw [chunks_append_none silent]
  exact ⟨here.1, here.2.2.append fine⟩

theorem Progress.enter (h : Progress es copy output) (start : copy.stage = .start) (d : Direction) :
    Progress (es ++ [.start d]) { copy with stage := .reading } output := by
  obtain ⟨all, going, unfailed⟩ :
      AllWritten (es.filterMap chunk) output copy.copied ∧ NotEnded es ∧ Unfailed es := by
    simpa only [Progress, start] using h
  change AllWritten _ output copy.copied ∧ _
  rw [chunks_append_none rfl]
  exact ⟨all, going.append rfl, unfailed.append ⟨rfl, rfl⟩⟩

theorem Progress.afterRead (h : Progress es copy output) (reading : copy.stage = .reading)
    (d : Direction) (result : Except IoError Bytes) :
    Progress (es ++ [.read d result]) (copy.afterRead result) output := by
  obtain ⟨all, going, unfailed⟩ :
      AllWritten (es.filterMap chunk) output copy.copied ∧ NotEnded es ∧ Unfailed es := by
    simpa only [Progress, reading] using h
  cases result with
  | error error =>
    by_cases reset : error.kind = .connectionReset ∨ error.kind = .connectionAborted
    · rw [Copy.afterRead, if_pos reset]
      refine h.cancel (.inr reading) rfl ⟨?_, rfl⟩
      simp [readError, isReset, reset]
    · rw [Copy.afterRead, if_neg reset]
      refine .inl ⟨?_, .read d (.error error), by simp, by simp [readError, isReset, reset]⟩
      rw [chunks_append_none rfl]
      exact all
  | ok bytes =>
    cases bytes with
    | nil => exact h.cancel (.inr reading) rfl ⟨rfl, rfl⟩
    | cons b bytes =>
      refine ⟨⟨⟨es.filterMap chunk, [], ?_, ?_, ?_, rfl⟩, by simp⟩, going.append rfl,
        unfailed.append ⟨rfl, rfl⟩⟩
      · exact chunks_append_some rfl
      · rw [List.append_nil]
        exact all.written
      · exact all.counted.trans (congrArg _ all.written)

theorem Progress.afterWrite (h : Progress es copy output) {size : ℕ} {rest : Bytes}
    (writing : copy.stage = .writing size rest) (d : Direction) {result : Except IoError ℕ}
    (room : fits rest result = true) :
    Progress (es ++ [.wrote d result]) (copy.afterWrite size rest result)
      (output ++ bytesWritten rest result) := by
  obtain ⟨underway, going, unfailed⟩ : Underway (es.filterMap chunk) output copy.copied size rest ∧
      NotEnded es ∧ Unfailed es := by
    simpa only [Progress, writing] using h
  have same : (es ++ [CopyEvent.wrote d result]).filterMap chunk = es.filterMap chunk :=
    chunks_append_none (by cases result <;> rfl)
  have fail : ∀ error, writeError (.wrote d result) = some error → bytesWritten rest result = [] →
      Progress (es ++ [.wrote d result]) (copy.finish (.error error))
        (output ++ bytesWritten rest result) := by
    intro error failed nothing
    rw [nothing, List.append_nil]
    refine .inr ⟨⟨size, rest, ?_⟩, going.append (by cases result <;> rfl), _, by simp, failed⟩
    rw [same]
    exact underway
  cases result with
  | error error => exact fail error rfl rfl
  | ok n =>
    cases n with
    | zero => exact fail Copy.writeZero rfl rfl
    | succ n =>
      obtain ⟨⟨done, part, chunks, written, counted, total⟩, nonempty⟩ := underway
      have split : rest.take (n + 1) ++ rest.drop (n + 1) = rest := List.take_append_drop _ _
      simp only [Copy.afterWrite, bytesWritten]
      cases left : rest.drop (n + 1) with
      | nil =>
        rw [left, List.append_nil] at split
        have flat : output ++ rest.take (n + 1) = (es.filterMap chunk).flatten := by
          rw [split, chunks, written, List.flatten_append]
          simp
        refine ⟨⟨?_, ?_⟩, going.append rfl, unfailed.append ⟨rfl, rfl⟩⟩
        · rw [same]
          exact flat
        · change copy.copied + size = _
          rw [flat, chunks, counted, total, List.flatten_append, List.length_append]
          simp
      | cons b bytes =>
        rw [left] at split
        refine ⟨⟨⟨done, part ++ rest.take (n + 1), ?_, ?_, counted, ?_⟩, by simp⟩,
          going.append rfl, unfailed.append ⟨rfl, rfl⟩⟩
        · rw [same, chunks, List.append_assoc, split]
        · rw [written, List.append_assoc]
        · rw [total, List.append_assoc, split]

end Direction

/-! ## Both directions -/

def Faithful (es : List CopyEvent) (c : Copying) : Prop :=
  ∀ d, Progress (script d es) (c.copies d) (c.written d)

theorem faithful_new : Faithful [] .new := fun _ =>
  ⟨⟨rfl, rfl⟩, by simp [NotEnded, script], by simp [Unfailed, script]⟩

section Steps
variable {es : List CopyEvent} {c c' : Copying} {e : CopyEvent}

/-- Only the direction of a step moves. -/
theorem step_other (moved : c.step e = some c') {d : Direction} (elsewhere : direction e ≠ d) :
    c'.copies d = c.copies d ∧ c'.written d = c.written d := by
  have ne : d ≠ direction e := Ne.symm elsewhere
  cases e with
  | start d' =>
    simp only [Copying.step] at moved
    split at moved
    · obtain rfl := Option.some.inj moved
      exact ⟨Function.update_of_ne ne _ _, rfl⟩
    · cases moved
  | observe d' | read d' =>
    simp only [Copying.step] at moved
    split at moved
    · split_ifs at moved
      obtain rfl := Option.some.inj moved
      exact ⟨Function.update_of_ne ne _ _, rfl⟩
    · cases moved
  | wrote d' =>
    simp only [Copying.step] at moved
    split at moved
    · split_ifs at moved
      obtain rfl := Option.some.inj moved
      exact ⟨Function.update_of_ne ne _ _, Function.update_of_ne ne _ _⟩
    · cases moved

theorem step_self (h : Faithful es c) (moved : c.step e = some c') {d : Direction}
    (here : direction e = d) :
    Progress (script d es ++ [e]) (c'.copies d) (c'.written d) := by
  have before := h d
  subst here
  cases e with
  | start d =>
    simp only [Copying.step] at moved
    split at moved
    · rename_i start
      obtain rfl := Option.some.inj moved
      simp only [Copying.setCopy, direction, Function.update_self]
      split_ifs
      · exact before.cancel (.inl start) rfl ⟨rfl, rfl⟩
      · exact before.enter start d
    · cases moved
  | observe d =>
    simp only [Copying.step] at moved
    split at moved
    · rename_i reading
      split_ifs at moved
      obtain rfl := Option.some.inj moved
      simp only [Copying.setCopy, direction, Function.update_self]
      exact before.cancel (.inr reading) rfl ⟨rfl, rfl⟩
    · cases moved
  | read d result =>
    simp only [Copying.step] at moved
    split at moved
    · rename_i reading
      split_ifs at moved
      obtain rfl := Option.some.inj moved
      simp only [Copying.setCopy, direction, Function.update_self]
      exact before.afterRead reading d result
    · cases moved
  | wrote d result =>
    simp only [Copying.step] at moved
    split at moved
    · rename_i size rest writing
      split_ifs at moved with room
      obtain rfl := Option.some.inj moved
      simp only [Copying.setCopy, direction, Function.update_self]
      exact before.afterWrite writing d room
    · cases moved

theorem Faithful.step (h : Faithful es c) (moved : c.step e = some c') :
    Faithful (es ++ [e]) c' := by
  intro d
  by_cases here : direction e = d
  · rw [script_self here]
    exact step_self h moved here
  · obtain ⟨copy, written⟩ := step_other moved here
    rw [script_other here, copy, written]
    exact h d

theorem step_chunks (read : ∀ d, c.read d = (chunks d es).flatten) (moved : c.step e = some c')
    (d : Direction) : c'.read d = (chunks d (es ++ [e])).flatten := by
  rw [Copying.step_read moved, read d]
  by_cases here : direction e = d
  · rw [chunks, chunks, script_self here, List.filterMap_append, List.flatten_append]
    congr 1
    subst here
    cases e with
    | start d | observe d | wrote d => rfl
    | read d result =>
      change (if d = d then bytesRead result else []) = _
      rw [if_pos rfl]
      cases result with
      | error error => rfl
      | ok bytes => cases bytes <;> simp [bytesRead, chunk]
  · have nothing : e.input d = [] := by
      cases e with
      | start d' | observe d' | wrote d' => rfl
      | read d' result => exact if_neg here
    rw [nothing, List.append_nil, chunks, chunks, script_other here]

end Steps

theorem faithful_runs {es : List CopyEvent} {c : Copying} (run : Runs copying es c) :
    Faithful es c ∧ ∀ d, c.read d = (chunks d es).flatten := by
  induction run with
  | initial => exact ⟨faithful_new, fun _ => rfl⟩
  | next _ moved ih => exact ⟨ih.1.step moved, step_chunks ih.2 moved⟩

/-! ## A direction that has finished -/

section Finished
variable {es : List CopyEvent} {copy : Copy} {output : Bytes} {size copied : ℕ} {rest : Bytes}
variable {chunks : List Bytes} {result : Except IoError Unit}

theorem AllWritten.counts (h : AllWritten chunks output copied) :
    copied = (completed chunks output.length).flatten.length := by
  rw [h.written, completed_flatten, h.counted, h.written]

theorem Underway.counts (h : Underway chunks output copied size rest) :
    copied = (completed chunks output.length).flatten.length := by
  obtain ⟨⟨done, part, rfl, rfl, counted, _⟩, left⟩ := h
  have short : part.length < (part ++ rest).length := by
    have := List.length_pos_of_ne_nil left
    rw [List.length_append]
    omega
  rw [List.length_append, completed_append_part done short, counted]

theorem Underway.written_prefix_chunks (h : Underway chunks output copied size rest) :
    output <+: chunks.flatten := by
  obtain ⟨⟨done, part, rfl, rfl, _, _⟩, _⟩ := h
  exact ⟨rest, by simp⟩

theorem Progress.written_prefix_chunks (h : Progress es copy output)
    (finished : copy.stage = .finished result) : output <+: (es.filterMap chunk).flatten := by
  rw [Progress, finished] at h
  cases result with
  | ok _ => rw [h.1.written]
  | error error =>
    rcases h with ⟨all, _⟩ | ⟨⟨_, _, underway⟩, _, _⟩
    · rw [all.written]
    · exact underway.written_prefix_chunks

theorem Progress.unwritten (h : Progress es copy output)
    (finished : copy.stage = .finished result) (lost : output ≠ (es.filterMap chunk).flatten) :
    (∃ e ∈ es, writeError e ≠ none) ∧ NotEnded es := by
  rw [Progress, finished] at h
  cases result with
  | ok _ => exact absurd h.1.written lost
  | error error =>
    rcases h with ⟨all, _⟩ | ⟨_, going, e, mem, failed⟩
    · exact absurd all.written lost
    · exact ⟨⟨e, mem, by simp [failed]⟩, going⟩

theorem Progress.counts (h : Progress es copy output)
    (finished : copy.stage = .finished result) :
    copy.copied = (completed (es.filterMap chunk) output.length).flatten.length := by
  rw [Progress, finished] at h
  cases result with
  | ok _ => exact h.1.counts
  | error error =>
    rcases h with ⟨all, _⟩ | ⟨⟨_, _, underway⟩, _, _⟩
    · exact all.counts
    · exact underway.counts

theorem Progress.unfailed (h : Progress es copy output) (finished : copy.stage = .finished (.ok ())) :
    copy.copied = output.length ∧ Unfailed es := by
  rw [Progress, finished] at h
  exact ⟨h.1.counted, h.2⟩

theorem Progress.failed (h : Progress es copy output) {error : IoError}
    (finished : copy.stage = .finished (.error error)) :
    ∃ e ∈ es, readError e = some error ∨ writeError e = some error := by
  rw [Progress, finished] at h
  rcases h with ⟨_, e, mem, failed⟩ | ⟨_, _, e, mem, failed⟩
  · exact ⟨e, mem, .inl failed⟩
  · exact ⟨e, mem, .inr failed⟩

end Finished

/-- Both directions have finished when `copy_bidirectional` returns; the error of `a` to `b` comes
first. -/
theorem result_cases {c : Copying} {r : Except IoError Unit} (returned : c.result = some r) :
    (∃ error, (c.copies .aToB).stage = .finished (.error error) ∧ r = .error error ∧
      ∃ other, (c.copies .bToA).stage = .finished other) ∨
    ((c.copies .aToB).stage = .finished (.ok ()) ∧ (c.copies .bToA).stage = .finished r) := by
  unfold Copying.result at returned
  split at returned
  · rename_i first second
    exact .inl ⟨_, first, (Option.some.inj returned).symm, _, second⟩
  · rename_i first second
    exact .inr ⟨first, Option.some.inj returned ▸ second⟩
  · cases returned

theorem result_finished {c : Copying} {r : Except IoError Unit} (returned : c.result = some r)
    (d : Direction) : ∃ own, (c.copies d).stage = .finished own := by
  rcases result_cases returned with ⟨_, first, _, _, second⟩ | ⟨first, second⟩
  · cases d with
    | aToB => exact ⟨_, first⟩
    | bToA => exact ⟨_, second⟩
  · cases d with
    | aToB => exact ⟨_, first⟩
    | bToA => exact ⟨_, second⟩

/-- What has been transferred when `copy_bidirectional` returns. -/
theorem copy_bidirectional_transfers {es : List CopyEvent} {c : Copying}
    {r : Except IoError Unit} (run : Runs copying es c) (returned : c.result = some r) :
    (∀ d, c.read d = (chunks d es).flatten ∧ c.written d <+: c.read d) ∧
    (∀ d, c.written d ≠ c.read d → FailedInWriteAll d es) ∧
    (∀ d, Ended d es → c.written d = c.read d) ∧
    (r = .ok () → ∀ d, bytes c.stats d = (c.written d).length) ∧
    ∀ error, r = .error error →
      (∀ d, bytes c.stats d = (completed (chunks d es) (c.written d).length).flatten.length) ∧
      (FailedWith .aToB es error ∨
        (∀ other, ¬ FailedWith .aToB es other) ∧ FailedWith .bToA es error) := by
  obtain ⟨progress, read⟩ := faithful_runs run
  have finished := result_finished returned
  refine ⟨fun d => ⟨read d, ?_⟩, fun d lost => ?_, fun d ended => ?_, fun ok d => ?_,
    fun error failed => ⟨fun d => ?_, ?_⟩⟩
  · obtain ⟨own, stage⟩ := finished d
    rw [read d]
    exact (progress d).written_prefix_chunks stage
  · obtain ⟨own, stage⟩ := finished d
    rw [read d] at lost
    exact ((progress d).unwritten stage lost).1
  · obtain ⟨own, stage⟩ := finished d
    obtain ⟨e, mem, ends⟩ := ended
    by_contra lost
    rw [read d] at lost
    have going := ((progress d).unwritten stage lost).2 e mem
    rw [ends] at going
    cases going
  · rw [bytes_stats]
    rcases result_cases returned with ⟨error, _, failed, _⟩ | ⟨first, second⟩
    · cases ok.symm.trans failed
    · rw [ok] at second
      cases d with
      | aToB => exact ((progress .aToB).unfailed first).1
      | bToA => exact ((progress .bToA).unfailed second).1
  · obtain ⟨own, stage⟩ := finished d
    rw [bytes_stats]
    exact (progress d).counts stage
  · rcases result_cases returned with ⟨own, first, same, _⟩ | ⟨first, second⟩
    · obtain rfl : error = own := by
        cases failed.symm.trans same
        rfl
      exact .inl ((progress .aToB).failed first)
    · rw [failed] at second
      refine .inr ⟨?_, (progress .bToA).failed second⟩
      rintro other ⟨e, mem, failure⟩
      obtain ⟨noRead, noWrite⟩ := ((progress .aToB).unfailed first).2 e mem
      rw [noRead, noWrite] at failure
      rcases failure with impossible | impossible
      · cases impossible
      · cases impossible

def cutShort : List CopyEvent :=
  [.start .aToB, .start .bToA, .read .aToB (.ok [1, 2]), .wrote .aToB (.ok 2),
    .read .aToB (.ok [3, 4, 5]), .read .bToA (.ok [6, 7]), .wrote .aToB (.ok 1),
    .wrote .aToB (.error ⟨.brokenPipe, "write error"⟩), .wrote .bToA (.ok 2), .observe .bToA]

theorem copy_bidirectional_transfers_cutShort :
    ∃ c : Copying, c.result = some (.error ⟨.brokenPipe, "write error"⟩) ∧
      c.written .aToB = [1, 2, 3] ∧ c.stats = ⟨2, 2⟩ ∧ FailedInWriteAll .aToB cutShort := by
  obtain ⟨c, reached, returned, read, written, stats⟩ :
      ∃ c, exec copying cutShort = some c ∧
        c.result = some (.error ⟨.brokenPipe, "write error"⟩) ∧
        c.read .aToB = [1, 2, 3, 4, 5] ∧ c.written .aToB = [1, 2, 3] ∧ c.stats = ⟨2, 2⟩ :=
    ⟨_, rfl, rfl, rfl, rfl, rfl⟩
  refine ⟨c, returned, written, stats, ?_⟩
  have failed := (copy_bidirectional_transfers (runs_of_exec reached) returned).2.1
  exact failed .aToB (by rw [read, written]; decide)

end Ombrac.CopyFaithful
