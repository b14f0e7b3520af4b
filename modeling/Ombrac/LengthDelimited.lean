import Mathlib.Data.List.Infix
import Mathlib.Tactic.Ring

set_option autoImplicit false

/-!
# Length-delimited frames

A frame is sent behind its length, four bytes with the most significant first. A decoder is given
what a stream hands over, cut anywhere; it may hold back the bytes of a frame under way.
-/
namespace Ombrac.LengthDelimited

def lengthPrefix (n : ℕ) : List UInt8 :=
  [(n / 16777216).toUInt8, (n / 65536).toUInt8, (n / 256).toUInt8, n.toUInt8]

def encodeFrame (frame : List UInt8) : List UInt8 := lengthPrefix frame.length ++ frame

def declaredLength : List UInt8 → Option ℕ
  | a :: b :: c :: d :: _ =>
    some (a.toNat * 16777216 + b.toNat * 65536 + c.toNat * 256 + d.toNat)
  | _ => none

/-- The frame that a stream of these bytes starts with, if it is there as a whole and is allowed
its length. -/
def firstFrame (maxLength : ℕ) (bytes : List UInt8) : Option (List UInt8) :=
  (declaredLength bytes).bind fun n =>
    if n ≤ maxLength ∧ n ≤ (bytes.drop 4).length then some ((bytes.drop 4).take n) else none

theorem declaredLength_lengthPrefix {n : ℕ} (small : n < 2 ^ 32) (rest : List UInt8) :
    declaredLength (lengthPrefix n ++ rest) = some n := by
  simp only [lengthPrefix, List.cons_append, List.nil_append, declaredLength, Nat.toUInt8,
    UInt8.toNat_ofNat']
  congr 1
  omega

/-- The first four bytes are those of the length they declare. -/
theorem lengthPrefix_declared {bytes : List UInt8} {n : ℕ} (h : declaredLength bytes = some n) :
    n < 2 ^ 32 ∧ lengthPrefix n ++ bytes.drop 4 = bytes := by
  unfold declaredLength at h
  split at h
  · rename_i a b c d rest
    obtain rfl := Option.some.inj h
    have ha := a.toNat_lt
    have hb := b.toNat_lt
    have hc := c.toNat_lt
    have hd := d.toNat_lt
    refine ⟨by omega, ?_⟩
    have byte : ∀ (m : ℕ) (x : UInt8), m % 256 = x.toNat → m.toUInt8 = x := by
      intro m x same
      apply UInt8.toNat_inj.1
      rw [← same]
      exact UInt8.toNat_ofNat' ..
    simp only [lengthPrefix, List.cons_append, List.nil_append, List.drop_succ_cons, List.drop_zero,
      List.cons.injEq, and_true]
    refine ⟨byte _ _ ?_, byte _ _ ?_, byte _ _ ?_, byte _ _ ?_⟩ <;> omega
  · cases h

theorem firstFrame_encodeFrame {maxLength : ℕ} (small : maxLength < 2 ^ 32) {frame : List UInt8}
    (fits : frame.length ≤ maxLength) (rest : List UInt8) :
    firstFrame maxLength (encodeFrame frame ++ rest) = some frame := by
  have declared : declaredLength (encodeFrame frame ++ rest) = some frame.length := by
    rw [encodeFrame, List.append_assoc]
    exact declaredLength_lengthPrefix (by omega) _
  have body : (encodeFrame frame ++ rest).drop 4 = frame ++ rest := by
    simp [encodeFrame, lengthPrefix]
  rw [firstFrame, declared, Option.bind_some, body, if_pos, List.take_left]
  refine ⟨fits, ?_⟩
  rw [List.length_append]
  exact Nat.le_add_right ..

theorem firstFrame_eq_some {maxLength : ℕ} {bytes frame : List UInt8}
    (h : firstFrame maxLength bytes = some frame) :
    frame.length ≤ maxLength ∧ ∃ rest, bytes = encodeFrame frame ++ rest := by
  obtain ⟨n, declared, h⟩ := Option.bind_eq_some_iff.1 h
  obtain ⟨_, whole⟩ := lengthPrefix_declared declared
  split_ifs at h with fits
  obtain rfl := Option.some.inj h
  have length : ((bytes.drop 4).take n).length = n := by
    rw [List.length_take]
    exact Nat.min_eq_left fits.2
  refine ⟨length.le.trans fits.1, (bytes.drop 4).drop n, ?_⟩
  rw [encodeFrame, length, List.append_assoc, List.take_append_drop]
  exact whole.symm

/-- What follows a frame does not change it. -/
theorem firstFrame_append {maxLength : ℕ} (small : maxLength < 2 ^ 32) {bytes frame : List UInt8}
    (h : firstFrame maxLength bytes = some frame) (more : List UInt8) :
    firstFrame maxLength (bytes ++ more) = some frame := by
  obtain ⟨fits, rest, rfl⟩ := firstFrame_eq_some h
  rw [List.append_assoc]
  exact firstFrame_encodeFrame small fits _

theorem encodeFrame_ne_nil (frame : List UInt8) : encodeFrame frame ≠ [] := by
  simp [encodeFrame, lengthPrefix]

/-- A stream starts with one frame only. -/
theorem encodeFrame_prefix {maxLength : ℕ} (small : maxLength < 2 ^ 32) {a b x y : List UInt8}
    (fits_a : a.length ≤ maxLength) (fits_b : b.length ≤ maxLength)
    (pre : encodeFrame a ++ x <+: encodeFrame b ++ y) : a = b ∧ x <+: y := by
  obtain ⟨more, whole⟩ := pre
  have first := firstFrame_append small (firstFrame_encodeFrame small fits_a x) more
  rw [whole, firstFrame_encodeFrame small fits_b] at first
  obtain rfl := Option.some.inj first
  rw [List.append_assoc] at whole
  exact ⟨rfl, more, List.append_cancel_left whole⟩

theorem declaredLength_append {bytes : List UInt8} {n : ℕ} (h : declaredLength bytes = some n)
    (more : List UInt8) : declaredLength (bytes ++ more) = some n := by
  obtain ⟨small, whole⟩ := lengthPrefix_declared h
  rw [← whole, List.append_assoc]
  exact declaredLength_lengthPrefix small _

theorem declaredLength_encodeFrame {maxLength : ℕ} (small : maxLength < 2 ^ 32)
    {frame : List UInt8} (fits : frame.length ≤ maxLength) (rest : List UInt8) :
    declaredLength (encodeFrame frame ++ rest) = some frame.length := by
  rw [encodeFrame, List.append_assoc]
  exact declaredLength_lengthPrefix (by omega) _

/-! ## Decoders -/

inductive Decoded (σ : Type) where
  | more (state : σ) (rest : List UInt8)
  | frame (payload rest : List UInt8)
  | oversized

/-- What a decoder may make of `bytes`, those that its state holds included: without a whole frame
nothing is lost, a frame is taken with its prefix and what follows is left, and only a declared
length above the bound is refused. -/
def Decoded.Of {σ : Type} (maxLength : ℕ) (held : σ → List UInt8) (bytes : List UInt8) :
    Decoded σ → Prop
  | .more state rest => held state ++ rest = bytes ∧ firstFrame maxLength bytes = none
  | .frame payload rest => bytes = encodeFrame payload ++ rest ∧ payload.length ≤ maxLength
  | .oversized => ∃ n, declaredLength bytes = some n ∧ maxLength < n

/-- A decoder is at `head` between frames. -/
structure FrameDecoder (maxLength : ℕ) where
  State : Type
  head : State
  held : State → List UInt8
  decode : State → List UInt8 → Decoded State
  held_head : held head = []
  decode_of : ∀ state buffer, (decode state buffer).Of maxLength held (held state ++ buffer)

structure Framed {maxLength : ℕ} (decoder : FrameDecoder maxLength) where
  state : decoder.State
  buffer : List UInt8

namespace Framed
variable {maxLength : ℕ} {decoder : FrameDecoder maxLength}

def new : Framed decoder := ⟨decoder.head, []⟩

def receive (framed : Framed decoder) (segment : List UInt8) : Decoded decoder.State :=
  decoder.decode framed.state (framed.buffer ++ segment)

def Holds (framed : Framed decoder) (received : List UInt8) : Prop :=
  decoder.held framed.state ++ framed.buffer = received

theorem holds_new : (new : Framed decoder).Holds [] := by
  simp [Holds, new, decoder.held_head]

variable {framed : Framed decoder} {received : List UInt8}

theorem Holds.receive_of (h : framed.Holds received) (segment : List UInt8) :
    (framed.receive segment).Of maxLength decoder.held (received ++ segment) := by
  rw [← h, List.append_assoc]
  exact decoder.decode_of framed.state _

theorem Holds.more (h : framed.Holds received) {segment rest : List UInt8}
    {state : decoder.State} (decoded : framed.receive segment = .more state rest) :
    Holds ⟨state, rest⟩ (received ++ segment) := by
  have spec := h.receive_of segment
  rw [decoded] at spec
  exact spec.1

/-- However the stream was cut, the frame that comes is the first one of all that was received. -/
theorem Holds.frame (h : framed.Holds received) (small : maxLength < 2 ^ 32)
    {segment frame rest : List UInt8} (decoded : framed.receive segment = .frame frame rest) :
    firstFrame maxLength (received ++ segment) = some frame := by
  have spec := h.receive_of segment
  rw [decoded] at spec
  rw [spec.1]
  exact firstFrame_encodeFrame small spec.2 rest

end Framed

/-! ## A decoder that takes the prefix as soon as it is there -/

section PrefixFirst
variable {maxLength : ℕ}

abbrev Under (maxLength : ℕ) := {n : ℕ // n ≤ maxLength}

def heldPrefix : Option (Under maxLength) → List UInt8
  | none => []
  | some n => lengthPrefix n

def decodeData (n : Under maxLength) (buffer : List UInt8) : Decoded (Option (Under maxLength)) :=
  if n.val ≤ buffer.length then .frame (buffer.take n) (buffer.drop n) else .more (some n) buffer

def decodeBuffer (state : Option (Under maxLength)) (buffer : List UInt8) :
    Decoded (Option (Under maxLength)) :=
  match state with
  | some n => decodeData n buffer
  | none =>
    match declaredLength buffer with
    | none => .more none buffer
    | some n => if h : n ≤ maxLength then decodeData ⟨n, h⟩ (buffer.drop 4) else .oversized

theorem decodeData_of (small : maxLength < 2 ^ 32) (n : Under maxLength) (buffer : List UInt8) :
    (decodeData n buffer).Of maxLength heldPrefix (lengthPrefix n ++ buffer) := by
  have bound := n.property
  have declared := declaredLength_lengthPrefix (show n.val < 2 ^ 32 by omega) buffer
  have body : (lengthPrefix n ++ buffer).drop 4 = buffer := by simp [lengthPrefix]
  unfold decodeData
  split_ifs with whole
  · have length : (buffer.take n).length = n := by
      rw [List.length_take]
      exact Nat.min_eq_left whole
    refine ⟨?_, length.le.trans bound⟩
    rw [encodeFrame, length, List.append_assoc, List.take_append_drop]
  · refine ⟨rfl, ?_⟩
    rw [firstFrame, declared, Option.bind_some, body, if_neg]
    exact fun fits => whole fits.2

theorem decodeBuffer_of (small : maxLength < 2 ^ 32) (state : Option (Under maxLength))
    (buffer : List UInt8) :
    (decodeBuffer state buffer).Of maxLength heldPrefix (heldPrefix state ++ buffer) := by
  cases state with
  | some n => exact decodeData_of small n buffer
  | none =>
    unfold decodeBuffer
    cases declared : declaredLength buffer with
    | none =>
      refine ⟨rfl, ?_⟩
      rw [firstFrame, heldPrefix, List.nil_append, declared, Option.bind_none]
    | some n =>
      have whole := (lengthPrefix_declared declared).2
      dsimp only
      split_ifs with allowed
      · have spec := decodeData_of small ⟨n, allowed⟩ (buffer.drop 4)
        rw [whole] at spec
        exact spec
      · exact ⟨n, declared, Nat.lt_of_not_le allowed⟩

def prefixFirst (small : maxLength < 2 ^ 32) : FrameDecoder maxLength where
  State := Option (Under maxLength)
  head := none
  held := heldPrefix
  decode := decodeBuffer
  held_head := rfl
  decode_of := decodeBuffer_of small

end PrefixFirst
end Ombrac.LengthDelimited
