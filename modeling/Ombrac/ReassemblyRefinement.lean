import Ombrac.ConcurrentReassembly

set_option autoImplicit false

/-!
# Calls of `process` one after another

While no call overlaps another and the cache evicts nothing, the buffers behind their locks are
those of the sequential reassembler, and the calls return what it returns.
-/
namespace Ombrac.ReassemblyRefinement
open LabelledSystem ListUpdates SharedTasks ProtocolPacket UdpReassembly ConcurrentReassembly

def bufferAt (p : Reassembler) (key : CacheKey) : Option ReassemblyBuffer :=
  (p.cache key).bind fun b => p.cells[b]?.map Cell.buffer

/-- No call is in between its steps. -/
structure Shown (r : UdpReassembler) (p : Reassembler) : Prop where
  buffers : ∀ key, r.cache key = bufferAt p key
  free : ∀ (b : ℕ) cell, p.cells[b]? = some cell → cell.locked = false

structure Entered (r : UdpReassembler) (key : CacheKey) (p : Reassembler) (b : ℕ) (cell : Cell) :
    Prop where
  cached : p.cache key = some b
  there : p.cells[b]? = some cell
  buffer : cell.buffer = r.getWith key
  others : ∀ other, other ≠ key → r.cache other = bufferAt p other
  free : ∀ (b : ℕ) cell, p.cells[b]? = some cell → cell.locked = false

section Calls
variable {packet : ℕ → UdpPacket} {r : UdpReassembler} {p : Reassembler} {key : CacheKey} {b : ℕ}
  {cell cell' : Cell}

theorem entered_of_cached (h : Shown r p) (consistent : Consistent packet p)
    (cached : p.cache key = some b) : ∃ cell, Entered r key p b cell := by
  obtain ⟨cell, there, _⟩ := consistent.cache key b cached
  refine ⟨cell, cached, there, ?_, fun other _ => h.buffers other, h.free⟩
  rw [UdpReassembler.getWith, h.buffers key, bufferAt, cached, Option.bind_some, there,
    Option.map_some, Option.getD_some]

theorem entered_of_absent (h : Shown r p) (consistent : Consistent packet p)
    (absent : p.cache key = none) :
    Entered r key (p.insert key) p.cells.length (.new key) := by
  refine ⟨Function.update_self .., List.getElem?_concat_length, ?_, fun other apart => ?_,
    fun a x found => ?_⟩
  · rw [UdpReassembler.getWith, h.buffers key, bufferAt, absent]
    rfl
  · have same : (p.insert key).cache other = p.cache other := Function.update_of_ne apart ..
    rw [h.buffers other, bufferAt, bufferAt, same]
    cases cached : p.cache other with
    | none => rfl
    | some a =>
      obtain ⟨x, found, _⟩ := consistent.cache other a cached
      have kept : (p.insert key).cells[a]? = some x := getElem?_concat_of_some found
      simp only [Option.bind_some, found, kept]
  · rcases getElem?_concat_eq_some found with old | ⟨_, rfl⟩
    · exact h.free a x old
    · rfl

/-- The other keys' buffers are in other cells. -/
theorem Entered.bufferAt_of_ne (h : Entered r key p b cell) (consistent : Consistent packet p)
    {p' : Reassembler} {other : CacheKey} (apart : other ≠ key)
    (cache : p'.cache other = p.cache other) (cells : p'.cells = p.cells.set b cell') :
    r.cache other = bufferAt p' other := by
  rw [h.others other apart, bufferAt, bufferAt, cache, cells]
  cases cached : p.cache other with
  | none => rfl
  | some a =>
    obtain ⟨x, found, own⟩ := consistent.cache other a cached
    obtain ⟨y, found', own'⟩ := consistent.cache key b h.cached
    have apart' : b ≠ a := by
      rintro rfl
      obtain rfl := Option.some.inj (found.symm.trans found')
      exact apart (own.symm.trans own')
    simp only [Option.bind_some, List.getElem?_set_ne apart']

theorem Entered.free_set (h : Entered r key p b cell) (free : cell'.locked = false)
    (a : ℕ) (x : Cell) (found : (p.cells.set b cell')[a]? = some x) : x.locked = false := by
  rcases getElem?_set_eq_some found with ⟨_, rfl⟩ | ⟨_, old⟩
  · exact free
  · exact h.free a x old

theorem Entered.put (h : Entered r key p b cell) (consistent : Consistent packet p)
    (cell' : Cell) {p' : Reassembler} (cache : p'.cache = p.cache) (cells : p'.cells = p.cells.set b cell')
    (free : cell'.locked = false) : Shown (r.put key cell'.buffer) p' := by
  refine ⟨fun other => ?_, ?_⟩
  · by_cases same : other = key
    · subst same
      have there : p'.cells[b]? = some cell' := by
        rw [cells]
        exact getElem?_set_of_some h.there
      rw [bufferAt, cache, h.cached, Option.bind_some, there, Option.map_some]
      exact Function.update_self ..
    · rw [← h.bufferAt_of_ne consistent same (congrFun cache other) cells]
      exact Function.update_of_ne same ..
  · rw [cells]
    exact h.free_set free

theorem Entered.invalidate (h : Entered r key p b cell) (consistent : Consistent packet p)
    (cell' : Cell) {p' : Reassembler} (cache : p'.cache = Function.update p.cache key none)
    (cells : p'.cells = p.cells.set b cell') (free : cell'.locked = false) :
    Shown (r.invalidate key) p' := by
  refine ⟨fun other => ?_, ?_⟩
  · by_cases same : other = key
    · subst same
      rw [bufferAt, cache, Function.update_self, Option.bind_none]
      exact Function.update_self ..
    · have kept : p'.cache other = p.cache other := by
        rw [cache]
        exact Function.update_of_ne same ..
      rw [← h.bufferAt_of_ne consistent same kept cells]
      exact Function.update_of_ne same ..
  · rw [cells]
    exact h.free_set free

/-! ## A call alone -/

variable {t : ℕ} {s : State Reassembler Process} {entry last : Reassembler × Process}
  {processed : Except IoError (Option UdpReassembler.Delivery) × UdpReassembler}

/-- From `entry` on, and without interruption, the call comes to return what `process` does. -/
def Alone (packet : ℕ → UdpPacket) (t : ℕ) (s : State Reassembler Process)
    (entry : Reassembler × Process)
    (processed : Except IoError (Option UdpReassembler.Delivery) × UdpReassembler) : Prop :=
  ∃ es p', execFrom (reassembly packet).system (s.move t entry) es =
    some (s.move t (p', .returned processed.1)) ∧ Shown processed.2 p'

theorem Alone.done {result : Except IoError (Option UdpReassembler.Delivery)} (h : Shown r p) :
    Alone packet t s (p, .returned result) (result, r) :=
  ⟨[], p, rfl, h⟩

theorem Alone.next {action : Action}
    (step : processStep packet t entry.1 entry.2 action = some last)
    (rest : Alone packet t s last processed) : Alone packet t s entry processed := by
  obtain ⟨es, p', run, shown⟩ := rest
  exact ⟨_, p', (Program.execFrom_next (P := reassembly packet) step es).trans run, shown⟩

theorem invalidating_step (there : p.cells[b]? = some cell) (cacheKey : CacheKey)
    (assembled : Option UdpReassembler.Delivery) :
    processStep packet t p (.invalidating cacheKey b assembled) .invalidate =
      some (invalidate cacheKey b cell assembled p) := by
  simp only [processStep, there, Option.map_some]

/-- The call has got its buffer, and its fragment is `packet t`. -/
theorem holding_alone {sessionId : UInt64} {fragmentId : UInt32}
    (h : Entered r (sessionId, fragmentId) p b cell) (consistent : Consistent packet p)
    {fragmentIndex count : UInt16} {address : Option Address} {data : Bytes}
    (shape : packet t = .fragmented sessionId fragmentId fragmentIndex count address data) :
    Alone packet t s (p, .holding (sessionId, fragmentId) b) (r.process (packet t)) := by
  have unlocked := h.free b cell h.there
  have step : processStep packet t p (.holding (sessionId, fragmentId) b) .addFragment =
      some (addFragment packet t (sessionId, fragmentId) b cell p) := by
    simp only [processStep, h.there, unlocked, Bool.false_eq_true, if_false]
  refine .next step ?_
  have getWith : r.getWith (sessionId, fragmentId) = cell.buffer := h.buffer.symm
  cases stored : cell.buffer.addFragment (packet t) with
  | mk added buffer =>
    cases added with
    | false =>
      have processed : r.process (packet t) =
          (.ok none, r.put (sessionId, fragmentId) buffer) := by
        rw [shape] at stored ⊢
        simp only [UdpReassembler.process, getWith, stored, Bool.not_false, if_true]
      simp only [addFragment, stored, processed]
      exact .done (h.put consistent { cell with buffer := buffer } rfl rfl unlocked)
    | true =>
      simp only [addFragment, stored, assembleIfComplete]
      split_ifs with complete
      · have processed : r.process (packet t) =
            (.ok buffer.assembleAndTake.1, r.invalidate (sessionId, fragmentId)) := by
          rw [shape] at stored ⊢
          simp only [UdpReassembler.process, getWith, stored, Bool.not_true, Bool.false_eq_true,
            if_false, complete, if_true]
        rw [processed]
        refine .next (invalidating_step (getElem?_set_of_some h.there) _ _) ?_
        exact .done (h.invalidate consistent ⟨cell.key, _, false, _, _⟩ rfl (List.set_set ..) rfl)
      · have processed : r.process (packet t) =
            (.ok none, r.put (sessionId, fragmentId) buffer) := by
          rw [shape] at stored ⊢
          simp only [UdpReassembler.process, getWith, stored, Bool.not_true, Bool.false_eq_true,
            if_false, complete]
        rw [processed]
        exact .done (h.put consistent { cell with buffer := buffer, slots := _ } rfl rfl unlocked)

theorem process_alone (h : Shown r s.shared) (consistent : Consistent packet s.shared) :
    Alone packet t s (s.shared, .entering) (r.process (packet t)) := by
  have enter : processStep packet t s.shared .entering .getWith =
      some (getWith packet t s.shared) := rfl
  refine .next enter ?_
  unfold getWith
  cases shape : packet t with
  | unfragmented sessionId address data => exact .done h
  | fragmented sessionId fragmentId fragmentIndex count address data =>
    have processed := congrArg r.process shape
    dsimp only
    cases cached : s.shared.cache (sessionId, fragmentId) with
    | some b =>
      obtain ⟨cell, entered⟩ := entered_of_cached h consistent cached
      rw [← processed]
      exact holding_alone entered consistent shape
    | none =>
      rw [← processed]
      exact holding_alone (entered_of_absent h consistent cached) (consistent.insert _) shape

end Calls

/-! ## Calls in turn -/

section Turns
variable {packet : ℕ → UdpPacket}

/-- From any state of a run in which no call is in between its steps. -/
theorem processAll_from (ts : List ℕ) (distinct : ts.Nodup)
    {es : List (Event Action CacheKey)} {s : State Reassembler Process} {r : UdpReassembler}
    (run : Runs (reassembly packet).system es s) (shown : Shown r s.shared)
    (entering : ∀ t ∈ ts, s.phase t = .entering) :
    ∃ more s', execFrom (reassembly packet).system s more = some s' ∧
      Shown (r.processAll (ts.map packet)).2 s'.shared ∧
      ts.map s'.phase = (r.processAll (ts.map packet)).1.map .returned ∧
      ∀ u, u ∉ ts → s'.phase u = s.phase u := by
  induction ts generalizing es s r with
  | nil => exact ⟨[], s, rfl, shown, rfl, fun _ _ => rfl⟩
  | cons t ts ih =>
    obtain ⟨absent, distinct⟩ := List.nodup_cons.1 distinct
    have alone := process_alone (t := t) shown (reassembly_invariant run).shared
    rw [← entering t List.mem_cons_self] at alone
    obtain ⟨first, p, ran, shown⟩ := alone
    rw [State.move_self] at ran
    have others : ∀ u ∈ ts, (s.move t (p, .returned (r.process (packet t)).1)).phase u =
        .entering := by
      intro u member
      rw [State.move_phase_of_ne]
      · exact entering u (List.mem_cons_of_mem t member)
      · rintro rfl
        exact absent member
    obtain ⟨rest, s', after, last, returned, kept⟩ :=
      ih distinct (run.exec_from ran) shown others
    refine ⟨first ++ rest, s', ?_, last, ?_, ?_⟩
    · rw [execFrom_append, ran, Option.bind_some]
      exact after
    · have own : s'.phase t = .returned (r.process (packet t)).1 :=
        (kept t absent).trans (State.move_phase ..)
      rw [List.map_cons, own, returned]
      rfl
    · intro u outside
      obtain ⟨apart, outside⟩ := not_or.1 (fun member => outside (List.mem_cons.2 member))
      exact (kept u outside).trans (State.move_phase_of_ne s apart _)

theorem shown_new : Shown .new .new :=
  ⟨fun _ => rfl, fun _ _ found => by cases found⟩

/-- What the sequential reassembler makes of the packets, the calls do that are made in turn. -/
theorem processAll_runs (ts : List ℕ) (distinct : ts.Nodup) :
    ∃ es s, Runs (reassembly packet).system es s ∧
      Shown (UdpReassembler.new.processAll (ts.map packet)).2 s.shared ∧
      ts.map s.phase = (UdpReassembler.new.processAll (ts.map packet)).1.map .returned := by
  obtain ⟨es, s, ran, shown, returned, _⟩ :=
    processAll_from ts distinct .initial shown_new fun _ _ => rfl
  exact ⟨es, s, Runs.initial.exec_from ran, shown, returned⟩

end Turns
end Ombrac.ReassemblyRefinement
