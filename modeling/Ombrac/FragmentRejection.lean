import Ombrac.LabelledSystem
import Ombrac.UdpReassembly

set_option autoImplicit false

/-!
# What a rejected fragment leaves behind

`add_fragment` returns early from a chain of checks and updates. A buffer is followed through the
calls that get hold of it: each adds its fragment and, where that completes the buffer, takes the
packet out.
-/
namespace Ombrac.FragmentRejection
open LabelledSystem ProtocolPacket UdpReassembly

def receive (b : ReassemblyBuffer) (packet : UdpPacket) :
    Option UdpReassembler.Delivery × ReassemblyBuffer :=
  let (added, b) := b.addFragment packet
  if !added then (none, b)
  else if b.isComplete then b.assembleAndTake
  else (none, b)

structure Followed where
  buffer : ReassemblyBuffer
  delivered : List UdpReassembler.Delivery

def Followed.receive (s : Followed) (packet : UdpPacket) : Followed :=
  ⟨(FragmentRejection.receive s.buffer packet).2,
    s.delivered ++ (FragmentRejection.receive s.buffer packet).1.toList⟩

/-- A call of `process` for a fragment is that on the buffer of its key. -/
theorem process_receive (r : UdpReassembler) (sessionId : UInt64) (fragmentId : UInt32)
    (fragmentIndex fragmentCount : UInt16) (address : Option Address) (data : Bytes) :
    let packet : UdpPacket :=
      .fragmented sessionId fragmentId fragmentIndex fragmentCount address data
    let (delivery, buffer) := receive (r.getWith (sessionId, fragmentId)) packet
    (r.process packet).1 = .ok delivery ∧
      ((r.process packet).2 = r.put (sessionId, fragmentId) buffer ∨
        (r.process packet).2 = r.invalidate (sessionId, fragmentId)) := by
  dsimp only
  unfold receive UdpReassembler.process
  dsimp only
  split_ifs
  · exact ⟨rfl, .inl rfl⟩
  · exact ⟨rfl, .inr rfl⟩
  · exact ⟨rfl, .inl rfl⟩

def bufferSystem (sessionId : UInt64) : System Followed UdpPacket :=
  ⟨⟨.new sessionId 0 none, []⟩, fun s packet => some (s.receive packet)⟩

def Rejects (b : ReassemblyBuffer) (packet : UdpPacket) : Prop := (b.addFragment packet).1 = false

def Unchanged (b : ReassemblyBuffer) (packet : UdpPacket) : Prop :=
  (b.addFragment packet).2 = b

/-- The fragment has a valid count and either is the first that the buffer sees, with an index
that the count does not reach, or brings an address that is not known yet to a slot that is
filled. -/
def Harmful (b : ReassemblyBuffer) : UdpPacket → Prop
  | .unfragmented .. => False
  | .fragmented _ _ fragmentIndex fragmentCount address _ =>
    (fragmentCount ≠ 0 ∧ fragmentCount ≤ maxFragmentCount) ∧
      ((b.totalCount = 0 ∧ fragmentCount ≤ fragmentIndex) ∨
        (b.totalCount = fragmentCount ∧ fragmentIndex = 0 ∧ b.address = none ∧ address ≠ none ∧
          b.fragments[0]? ≠ some none))

def accepted (s : Followed) : List UdpPacket → List UdpPacket
  | [] => []
  | packet :: packets =>
    if (s.buffer.addFragment packet).1 then packet :: accepted (s.receive packet) packets
    else accepted (s.receive packet) packets

/-! ## The ways to be rejected -/

section Buffer
variable {b c : ReassemblyBuffer} {packet : UdpPacket}

def Blank (b : ReassemblyBuffer) : Prop := b.totalCount = 0 → b.address = none

inductive Refused (b : ReassemblyBuffer) : UdpPacket → ReassemblyBuffer → Prop
  | unchanged {packet : UdpPacket} (harmless : ¬ Harmful b packet) : Refused b packet b
  | adopted {sessionId : UInt64} {fragmentId : UInt32} {fragmentIndex fragmentCount : UInt16}
      {address : Option Address} {data : Bytes} (fresh : b.totalCount = 0)
      (nonzero : fragmentCount ≠ 0) (valid : fragmentCount ≤ maxFragmentCount)
      (beyond : fragmentCount ≤ fragmentIndex) :
      Refused b (.fragmented sessionId fragmentId fragmentIndex fragmentCount address data) { b with
        totalCount := fragmentCount
        fragments := List.replicate fragmentCount.toNat none }
  | addressed {sessionId : UInt64} {fragmentId : UInt32} {addr : Address} {data : Bytes}
      (nonzero : b.totalCount ≠ 0) (valid : b.totalCount ≤ maxFragmentCount)
      (unknown : b.address = none) (filled : b.fragments[0]? ≠ some none) :
      Refused b (.fragmented sessionId fragmentId 0 b.totalCount (some addr) data)
        { b with address := some addr }

theorem storeFragment_refused {fragmentIndex : UInt16} {data : Bytes}
    (h : b.storeFragment fragmentIndex data = (false, c)) :
    c = b ∧ b.fragments[fragmentIndex.toNat]? ≠ some none := by
  unfold ReassemblyBuffer.storeFragment at h
  dsimp only at h
  split_ifs at h with free
  · cases h
  · exact ⟨(Prod.mk.inj h).2.symm, free⟩

/-- The slots of a count that was just adopted are free. -/
theorem replicate_free {count index : UInt16} :
    (List.replicate count.toNat (none : Option Bytes))[index.toNat]? ≠ some none ↔
      count ≤ index := by
  rw [List.getElem?_replicate, UInt16.le_iff_toNat_le]
  split_ifs with inside
  · exact iff_of_false (not_not.2 rfl) (Nat.not_le.2 inside)
  · exact iff_of_true nofun (Nat.not_lt.1 inside)

section Fragment
variable {sessionId : UInt64} {fragmentId : UInt32} {fragmentIndex fragmentCount : UInt16}
  {address : Option Address} {data : Bytes}

/-- The first fragment that the buffer sees is rejected for its index alone. -/
theorem fresh_refused (blank : Blank b) (fresh : b.totalCount = 0) (nonzero : fragmentCount ≠ 0)
    (valid : ¬ (fragmentCount = 0 ∨ maxFragmentCount < fragmentCount))
    (h : b.addFragment (.fragmented sessionId fragmentId fragmentIndex fragmentCount address data) =
      (false, c)) :
    fragmentCount ≤ fragmentIndex ∧ c = { b with
      totalCount := fragmentCount
      fragments := List.replicate fragmentCount.toNat none } := by
  simp only [ReassemblyBuffer.addFragment, if_neg valid, ReassemblyBuffer.adoptCount,
    if_pos fresh, ReassemblyBuffer.takeAddress, blank fresh] at h
  by_cases first : fragmentIndex = 0
  · subst first
    simp only [if_pos] at h
    have beyond := replicate_free.1 (storeFragment_refused h).2
    exact absurd (UInt16.le_antisymm beyond UInt16.zero_le) nonzero
  · simp only [if_neg first] at h
    obtain ⟨rfl, taken⟩ := storeFragment_refused h
    exact ⟨replicate_free.1 taken, by simp only [blank fresh]⟩

/-- A later fragment is rejected before anything changes, or after its address was stored. -/
theorem known_refused (known : b.totalCount ≠ 0)
    (valid : ¬ (fragmentCount = 0 ∨ maxFragmentCount < fragmentCount))
    (h : b.addFragment (.fragmented sessionId fragmentId fragmentIndex fragmentCount address data) =
      (false, c)) :
    (c = b ∧ ¬ (b.totalCount = fragmentCount ∧ fragmentIndex = 0 ∧ b.address = none ∧
        address ≠ none ∧ b.fragments[0]? ≠ some none)) ∨
      (b.totalCount = fragmentCount ∧ fragmentIndex = 0 ∧ b.address = none ∧ address ≠ none ∧
        b.fragments[0]? ≠ some none ∧ c = { b with address := address }) := by
  simp only [ReassemblyBuffer.addFragment, if_neg valid, ReassemblyBuffer.adoptCount,
    if_neg known] at h
  by_cases same : b.totalCount = fragmentCount
  · subst same
    simp only [ne_eq, not_true_eq_false, if_false, ReassemblyBuffer.takeAddress] at h
    by_cases first : fragmentIndex = 0
    · subst first
      simp only [if_pos] at h
      cases unknown : b.address with
      | none =>
        simp only [unknown] at h
        obtain ⟨rfl, taken⟩ := storeFragment_refused h
        cases address with
        | none => exact .inl ⟨by rw [← unknown], fun harmful => harmful.2.2.2.1 rfl⟩
        | some addr => exact .inr ⟨rfl, rfl, rfl, nofun, taken, rfl⟩
      | some existing =>
        refine .inl ⟨?_, fun harmful => by cases harmful.2.2.1⟩
        simp only [unknown] at h
        cases address with
        | none => exact (Prod.mk.inj h).2.symm
        | some addr =>
          by_cases matches_it : existing = addr
          · simp only [matches_it, not_true_eq_false, if_false] at h
            exact (storeFragment_refused h).1
          · simp only [matches_it, not_false_eq_true, if_true] at h
            exact (Prod.mk.inj h).2.symm
    · simp only [if_neg first] at h
      exact .inl ⟨(storeFragment_refused h).1, fun harmful => first harmful.2.1⟩
  · simp only [ne_eq, same, not_false_eq_true, if_true] at h
    exact .inl ⟨(Prod.mk.inj h).2.symm, fun harmful => same harmful.1⟩

end Fragment

theorem addFragment_refused (blank : Blank b) (h : b.addFragment packet = (false, c)) :
    Refused b packet c := by
  cases packet with
  | unfragmented =>
    obtain rfl := (Prod.mk.inj h).2
    exact .unchanged not_false
  | fragmented sessionId fragmentId fragmentIndex fragmentCount address data =>
    by_cases invalid : fragmentCount = 0 ∨ maxFragmentCount < fragmentCount
    · simp only [ReassemblyBuffer.addFragment, if_pos invalid] at h
      obtain rfl := (Prod.mk.inj h).2
      refine .unchanged ?_
      rintro ⟨⟨nonzero, valid⟩, _⟩
      rcases invalid with zero | many
      · exact nonzero zero
      · exact absurd valid (UInt16.not_le.2 many)
    · obtain ⟨nonzero, few⟩ := not_or.1 invalid
      have valid : fragmentCount ≤ maxFragmentCount := UInt16.not_lt.1 few
      by_cases fresh : b.totalCount = 0
      · obtain ⟨beyond, rfl⟩ := fresh_refused blank fresh nonzero invalid h
        exact .adopted fresh nonzero valid beyond
      · rcases known_refused fresh invalid h with
          ⟨rfl, harmless⟩ | ⟨rfl, rfl, unknown, some_address, filled, rfl⟩
        · refine .unchanged ?_
          rintro ⟨_, ⟨zero, _⟩ | harmful⟩
          · exact fresh zero
          · exact harmless harmful
        · obtain ⟨addr, rfl⟩ := Option.ne_none_iff_exists'.1 some_address
          exact .addressed fresh valid unknown filled

theorem storeFragment_filled {index : UInt16} {data : Bytes}
    (filled : b.fragments[index.toNat]? ≠ some none) : b.storeFragment index data = (false, b) := by
  unfold ReassemblyBuffer.storeFragment
  exact if_neg filled

theorem rejects_of_harmful (harmful : Harmful b packet) : Rejects b packet := by
  cases packet with
  | unfragmented => exact harmful.elim
  | fragmented sessionId fragmentId fragmentIndex fragmentCount address data =>
    obtain ⟨⟨nonzero, valid⟩, ways⟩ := harmful
    have accepted_count : ¬ (fragmentCount = 0 ∨ maxFragmentCount < fragmentCount) :=
      not_or.2 ⟨nonzero, UInt16.not_lt.2 valid⟩
    unfold Rejects
    rcases ways with ⟨fresh, beyond⟩ | ⟨rfl, rfl, unknown, _, filled⟩
    · have later : fragmentIndex ≠ 0 := by
        rintro rfl
        exact nonzero (UInt16.le_antisymm beyond UInt16.zero_le)
      simp only [ReassemblyBuffer.addFragment, if_neg accepted_count, ReassemblyBuffer.adoptCount,
        if_pos fresh, ReassemblyBuffer.takeAddress, if_neg later]
      rw [storeFragment_filled (replicate_free.2 beyond)]
    · simp only [ReassemblyBuffer.addFragment, if_neg accepted_count, ReassemblyBuffer.adoptCount,
        if_neg nonzero, ne_eq, not_true_eq_false, if_false, ReassemblyBuffer.takeAddress, if_pos,
        unknown]
      rw [storeFragment_filled filled]

/-- A rejected fragment changes the buffer exactly if it is harmful. -/
theorem Refused.unchanged_iff (refused : Refused b packet c) : c = b ↔ ¬ Harmful b packet := by
  cases refused with
  | unchanged harmless => exact iff_of_true rfl harmless
  | adopted fresh nonzero valid beyond =>
    refine iff_of_false (fun same => ?_) (not_not.2 ⟨⟨nonzero, valid⟩, .inl ⟨fresh, beyond⟩⟩)
    exact nonzero ((congrArg ReassemblyBuffer.totalCount same).trans fresh)
  | addressed nonzero valid unknown filled =>
    refine iff_of_false (fun same => ?_)
      (not_not.2 ⟨⟨nonzero, valid⟩, .inr ⟨rfl, rfl, unknown, nofun, filled⟩⟩)
    cases (congrArg ReassemblyBuffer.address same).trans unknown

/-! ## Blank buffers -/

theorem adoptCount_total {count : UInt16} (h : b.adoptCount count = some c) :
    c.totalCount = count := by
  unfold ReassemblyBuffer.adoptCount at h
  split_ifs at h with fresh same
  · obtain rfl := Option.some.inj h
    rfl
  · obtain rfl := Option.some.inj h
    exact not_not.1 same

theorem takeAddress_total {index : UInt16} {address : Option Address}
    (h : b.takeAddress index address = some c) : c.totalCount = b.totalCount := by
  unfold ReassemblyBuffer.takeAddress at h
  split_ifs at h
  · split at h
    · obtain rfl := Option.some.inj h
      rfl
    · split at h
      · split_ifs at h
        obtain rfl := Option.some.inj h
        rfl
      · cases h
  · obtain rfl := Option.some.inj h
    rfl

theorem storeFragment_total (index : UInt16) (data : Bytes) :
    (b.storeFragment index data).2.totalCount = b.totalCount := by
  unfold ReassemblyBuffer.storeFragment
  dsimp only
  split_ifs <;> rfl

/-- An accepted fragment has given the buffer its count. -/
theorem addFragment_accepted (h : b.addFragment packet = (true, c)) : c.totalCount ≠ 0 := by
  cases packet with
  | unfragmented => cases h
  | fragmented sessionId fragmentId fragmentIndex fragmentCount address data =>
    simp only [ReassemblyBuffer.addFragment] at h
    split_ifs at h with invalid
    · cases h
    · split at h
      · cases h
      rename_i b₁ adopted
      split at h
      · cases h
      · rename_i b₂ taken
        have total := storeFragment_total (b := b₂) fragmentIndex data
        rw [h, takeAddress_total taken, adoptCount_total adopted] at total
        exact total ▸ (not_or.1 invalid).1

theorem addFragment_blank (blank : Blank b) : Blank (b.addFragment packet).2 := by
  cases h : b.addFragment packet with
  | mk added c =>
    cases added with
    | true => exact fun zero => absurd zero (addFragment_accepted h)
    | false =>
      cases addFragment_refused blank h with
      | unchanged => exact blank
      | adopted _ nonzero _ _ => exact fun zero => absurd zero nonzero
      | addressed nonzero _ _ _ => exact fun zero => absurd zero nonzero

theorem assembleAndTake_blank (blank : Blank b) : Blank b.assembleAndTake.2 := by
  unfold ReassemblyBuffer.assembleAndTake
  split_ifs
  · exact blank
  · exact blank

theorem receive_blank (blank : Blank b) : Blank (receive b packet).2 := by
  have added : Blank (b.addFragment packet).2 := addFragment_blank blank
  unfold receive
  dsimp only
  split_ifs
  · exact added
  · exact assembleAndTake_blank added
  · exact added

end Buffer

/-! ## Runs -/

section Runs
variable {sessionId : UInt64} {es : List UdpPacket} {s : Followed}

theorem followed_blank (run : Runs (bufferSystem sessionId) es s) : Blank s.buffer := by
  refine run.invariant (I := fun s => Blank s.buffer) (fun _ => rfl) fun u e v blank step => ?_
  obtain rfl := Option.some.inj step
  exact receive_blank blank

/-- The harmful fragments are those that are rejected and change the buffer. -/
theorem rejects_unchanged_iff {b : ReassemblyBuffer} {packet : UdpPacket} (blank : Blank b) :
    (Rejects b packet → Unchanged b packet) ↔ ¬ Harmful b packet := by
  have rejected_iff (rejected : Rejects b packet) : Unchanged b packet ↔ ¬ Harmful b packet := by
    have refused : b.addFragment packet = (false, (b.addFragment packet).2) :=
      Prod.ext rejected rfl
    exact (addFragment_refused blank refused).unchanged_iff
  constructor
  · intro unchanged harmful
    have rejected := rejects_of_harmful harmful
    exact (rejected_iff rejected).1 (unchanged rejected) harmful
  · exact fun harmless rejected => (rejected_iff rejected).2 harmless

/-- A rejected fragment that leaves the buffer as it was might not have come. -/
theorem receive_unchanged {packet : UdpPacket} (rejected : Rejects s.buffer packet)
    (unchanged : Unchanged s.buffer packet) : s.receive packet = s := by
  have refused : s.buffer.addFragment packet = (false, s.buffer) := Prod.ext rejected unchanged
  simp only [Followed.receive, receive, refused, Bool.not_false, if_true, Option.toList_none,
    List.append_nil]

theorem execFrom_accepted (sessionId : UInt64) (packets : List UdpPacket)
    (unchanged : ∀ before packet after, packets = before ++ packet :: after →
      ∀ u, execFrom (bufferSystem sessionId) s before = some u → Rejects u.buffer packet →
        Unchanged u.buffer packet) :
    execFrom (bufferSystem sessionId) s (accepted s packets) =
      execFrom (bufferSystem sessionId) s packets := by
  induction packets generalizing s with
  | nil => rfl
  | cons packet packets ih =>
    have rest := ih (s := s.receive packet) fun before p after whole u run =>
      unchanged (packet :: before) p after (congrArg _ whole) u run
    unfold accepted
    split_ifs with added
    · exact rest
    · have rejected : Rejects s.buffer packet := by simpa [Rejects] using added
      have same := receive_unchanged rejected (unchanged [] packet packets rfl s rfl rejected)
      rw [same] at rest ⊢
      refine rest.trans ?_
      change _ = execFrom (bufferSystem sessionId) (s.receive packet) packets
      rw [same]

/-- In a run, the rejected fragments change nothing, and the run is that of the accepted ones
alone, exactly if no fragment is harmful to the buffer it meets. -/
theorem rejected_unchanged_iff (sessionId : UInt64) (es : List UdpPacket) :
    ((∀ s packet u, Takes (bufferSystem sessionId) es s packet u → Rejects s.buffer packet →
        Unchanged s.buffer packet) ∧
      exec (bufferSystem sessionId) (accepted (bufferSystem sessionId).initial es) =
        exec (bufferSystem sessionId) es) ↔
      ∀ s packet u, Takes (bufferSystem sessionId) es s packet u → ¬ Harmful s.buffer packet := by
  have each : ∀ s packet u, Takes (bufferSystem sessionId) es s packet u →
      ((Rejects s.buffer packet → Unchanged s.buffer packet) ↔ ¬ Harmful s.buffer packet) := by
    intro s packet u take
    obtain ⟨_, _, run, _⟩ := take
    exact rejects_unchanged_iff (followed_blank run)
  constructor
  · rintro ⟨unchanged, _⟩ s packet u take
    exact (each s packet u take).1 (unchanged s packet u take)
  · intro harmless
    have unchanged := fun s packet u take => (each s packet u take).2 (harmless s packet u take)
    refine ⟨unchanged, execFrom_accepted sessionId es fun before packet after whole u run => ?_⟩
    refine unchanged u packet (u.receive packet) ⟨before, ?_, runs_of_exec run, rfl⟩
    rw [whole]
    exact ⟨after, by simp⟩

end Runs

section Example

def stray : UdpPacket := .fragmented 7 9 5 2 none []

def valid : List UdpPacket :=
  [.fragmented 7 9 0 3 (some (.domain [100] 53)) [1], .fragmented 7 9 1 3 none [2],
    .fragmented 7 9 2 3 none [3]]

/-- The rejected fragment fixes the count, and every fragment of the packet is refused. -/
theorem stray_index_blocks :
    (¬ ∀ sessionId es s packet u, Takes (bufferSystem sessionId) es s packet u →
      Rejects s.buffer packet → Unchanged s.buffer packet) ∧
      (exec (bufferSystem 7) (stray :: valid)).map Followed.delivered = some [] ∧
      (exec (bufferSystem 7) valid).map Followed.delivered =
        some [(7, .domain [100] 53, [1, 2, 3])] := by
  refine ⟨fun unchanged => ?_, rfl, rfl⟩
  have first : Takes (bufferSystem 7) [stray] (bufferSystem 7).initial stray
      ((bufferSystem 7).initial.receive stray) := ⟨[], List.prefix_rfl, .initial, rfl⟩
  cases congrArg ReassemblyBuffer.totalCount (unchanged 7 [stray] _ stray _ first rfl)

end Example
end Ombrac.FragmentRejection
