import Mathlib.Data.List.Infix
import Mathlib.Tactic.Ring

set_option autoImplicit false

/-!
# Binary formats

A format carries its own law: a value that fits is written, and reading gives it back together
with whatever follows. Formats are put together as the serialised types are, so a type's round
trip needs no proof beyond the law of its parts. Two facts hold of every format, that different
values have different encodings and that no encoding goes on to another.
-/
namespace Ombrac.BinaryFormat

inductive Fault where
  | unexpectedEnd | invalidInteger | unexpectedVariant | invalidUtf8 | tooLarge | noVariant
  deriving DecidableEq, Repr

abbrev Reader (α : Type) := List UInt8 → Except Fault (α × List UInt8)

namespace Reader
variable {α β : Type}

def done (a : α) : Reader α := fun bytes => .ok (a, bytes)

def fail (fault : Fault) : Reader α := fun _ => .error fault

def andThen (read : Reader α) (next : α → Reader β) : Reader β := fun bytes => do
  let (a, bytes) ← read bytes
  next a bytes

def map (read : Reader α) (g : α → β) : Reader β := read.andThen fun a => done (g a)

theorem andThen_assoc {γ : Type} (read : Reader α) (next : α → Reader β) (last : β → Reader γ) :
    (read.andThen next).andThen last = read.andThen fun a => (next a).andThen last := by
  funext bytes
  unfold andThen
  cases read bytes <;> rfl

theorem done_andThen (a : α) (next : α → Reader β) : (done a).andThen next = next a := rfl

/-- Two continuations that agree on what is read. -/
theorem andThen_congr {read : Reader α} {next next' : α → Reader β}
    (same : ∀ bytes a rest, read bytes = .ok (a, rest) → next a = next' a) :
    read.andThen next = read.andThen next' := by
  funext bytes
  unfold andThen
  cases h : read bytes with
  | error fault => rfl
  | ok result => exact congrFun (same bytes result.1 result.2 h) result.2

end Reader

def Reads {α : Type} (read : Reader α) (bytes : List UInt8) (a : α) : Prop :=
  ∀ rest, read (bytes ++ rest) = .ok (a, rest)

namespace Reads
variable {α β : Type}

theorem done (a : α) : Reads (Reader.done a) [] a := fun _ => rfl

theorem andThen {read : Reader α} {next : α → Reader β} {x y : List UInt8} {a : α} {b : β}
    (first : Reads read x a) (second : Reads (next a) y b) :
    Reads (read.andThen next) (x ++ y) b := by
  intro rest
  rw [List.append_assoc, Reader.andThen, first]
  exact second rest

/-- What comes second reads nothing more. -/
theorem andThen_nil {read : Reader α} {next : α → Reader β} {x : List UInt8} {a : α} {b : β}
    (first : Reads read x a) (second : Reads (next a) [] b) : Reads (read.andThen next) x b := by
  have all := first.andThen second
  rw [List.append_nil] at all
  exact all

theorem map {read : Reader α} {x : List UInt8} {a : α} (h : Reads read x a) (g : α → β) :
    Reads (read.map g) x (g a) :=
  h.andThen_nil (done (g a))

end Reads

structure Format (α : Type) where
  Fits : α → Prop
  encode : α → Except Fault (List UInt8)
  decode : Reader α
  round_trip : ∀ a, Fits a → ∃ bytes, encode a = .ok bytes ∧ Reads decode bytes a

namespace Format
variable {α β : Type} (f : Format α)

variable {f} in
theorem reads_of_encode {a : α} (fits : f.Fits a) {bytes : List UInt8}
    (h : f.encode a = .ok bytes) : Reads f.decode bytes a := by
  obtain ⟨written, encoded, reads⟩ := f.round_trip a fits
  obtain rfl := Except.ok.inj (h.symm.trans encoded)
  exact reads

variable {f} in
/-- If one encoding starts another, both are the same encoding of the same value. -/
theorem prefix_free {a b : α} (fits_a : f.Fits a) (fits_b : f.Fits b) {x y : List UInt8}
    (ha : f.encode a = .ok x) (hb : f.encode b = .ok y) (pre : x <+: y) : a = b ∧ x = y := by
  obtain ⟨rest, rfl⟩ := pre
  have from_a := reads_of_encode fits_a ha rest
  have from_b := reads_of_encode fits_b hb []
  rw [List.append_nil, from_a] at from_b
  obtain ⟨same, nothing⟩ := Prod.mk.inj (Except.ok.inj from_b)
  refine ⟨same, ?_⟩
  rw [nothing, List.append_nil]

variable {f} in
theorem encode_injective {a b : α} (fits_a : f.Fits a) (fits_b : f.Fits b) {x : List UInt8}
    (ha : f.encode a = .ok x) (hb : f.encode b = .ok x) : a = b :=
  (prefix_free fits_a fits_b ha hb (List.prefix_refl x)).1

/-! ## Products and conversions -/

def unit : Format Unit where
  Fits _ := True
  encode _ := .ok []
  decode := .done ()
  round_trip _ _ := ⟨[], rfl, .done ()⟩

def pair (g : Format β) : Format (α × β) where
  Fits p := f.Fits p.1 ∧ g.Fits p.2
  encode p := do
    let x ← f.encode p.1
    let y ← g.encode p.2
    return x ++ y
  decode := f.decode.andThen fun a => g.decode.map fun b => (a, b)
  round_trip := by
    rintro ⟨a, b⟩ ⟨fits_a, fits_b⟩
    obtain ⟨x, ha, reads_a⟩ := f.round_trip a fits_a
    obtain ⟨y, hb, reads_b⟩ := g.round_trip b fits_b
    refine ⟨x ++ y, ?_, reads_a.andThen (reads_b.map _)⟩
    rw [ha, hb]
    rfl

/-- `b` is written as `out b`; what `back` does not restore does not fit. -/
def convert (out : β → α) (back : α → β) : Format β where
  Fits b := f.Fits (out b) ∧ back (out b) = b
  encode b := f.encode (out b)
  decode := f.decode.map back
  round_trip := by
    rintro b ⟨fits, restored⟩
    obtain ⟨x, written, reads⟩ := f.round_trip (out b) fits
    have back_again := reads.map back
    rw [restored] at back_again
    exact ⟨x, written, back_again⟩

end Format

/-! ## Bytes and integers -/

def littleEndian : ℕ → ℕ → List UInt8
  | 0, _ => []
  | width + 1, n => n.toUInt8 :: littleEndian width (n / 256)

def ofLittleEndian : List UInt8 → ℕ
  | [] => 0
  | b :: bytes => b.toNat + 256 * ofLittleEndian bytes

@[simp] theorem length_littleEndian (width n : ℕ) : (littleEndian width n).length = width := by
  induction width generalizing n with
  | zero => rfl
  | succ width ih => simp [littleEndian, ih]

theorem ofLittleEndian_littleEndian {width n : ℕ} (small : n < 256 ^ width) :
    ofLittleEndian (littleEndian width n) = n := by
  induction width generalizing n with
  | zero =>
    rw [pow_zero] at small
    simp only [littleEndian, ofLittleEndian]
    omega
  | succ width ih =>
    rw [pow_succ] at small
    have head : n.toUInt8.toNat = n % 256 := UInt8.toNat_ofNat' ..
    simp only [littleEndian, ofLittleEndian]
    rw [head, ih (Nat.div_lt_of_lt_mul (by omega))]
    omega

theorem ofLittleEndian_lt (bytes : List UInt8) : ofLittleEndian bytes < 256 ^ bytes.length := by
  induction bytes with
  | nil => exact Nat.one_pos
  | cons b bytes ih =>
    have head : b.toNat < 256 := b.toNat_lt
    rw [ofLittleEndian, List.length_cons, pow_succ]
    omega

theorem littleEndian_ofLittleEndian (bytes : List UInt8) :
    littleEndian bytes.length (ofLittleEndian bytes) = bytes := by
  induction bytes with
  | nil => rfl
  | cons b bytes ih =>
    have head : b.toNat < 256 := b.toNat_lt
    have low : (b.toNat + 256 * ofLittleEndian bytes).toUInt8 = b := by
      apply UInt8.toNat_inj.1
      rw [UInt8.toNat_ofNat']
      omega
    have high : (b.toNat + 256 * ofLittleEndian bytes) / 256 = ofLittleEndian bytes := by omega
    rw [List.length_cons, ofLittleEndian, littleEndian, low, high, ih]

abbrev Octets (n : ℕ) := {bytes : List UInt8 // bytes.length = n}

def readOctets (n : ℕ) : Reader (Octets n) := fun bytes =>
  if h : n ≤ bytes.length then
    .ok (⟨bytes.take n, List.length_take.trans (Nat.min_eq_left h)⟩, bytes.drop n)
  else .error .unexpectedEnd

theorem reads_octets {n : ℕ} (octets : Octets n) : Reads (readOctets n) octets.val octets := by
  obtain ⟨bytes, rfl⟩ := octets
  intro rest
  have enough : bytes.length ≤ (bytes ++ rest).length := by
    rw [List.length_append]
    exact Nat.le_add_right ..
  simp only [readOctets, dif_pos enough, List.take_left, List.drop_left]

def octets (n : ℕ) : Format (Octets n) where
  Fits _ := True
  encode bytes := .ok bytes.val
  decode := readOctets n
  round_trip bytes _ := ⟨bytes.val, rfl, reads_octets bytes⟩

def bigEndian (width n : ℕ) : Octets width :=
  ⟨(littleEndian width n).reverse, List.length_reverse.trans (length_littleEndian width n)⟩

def ofBigEndian {width : ℕ} (bytes : Octets width) : ℕ := ofLittleEndian bytes.val.reverse

theorem ofBigEndian_bigEndian {width n : ℕ} (small : n < 256 ^ width) :
    ofBigEndian (bigEndian width n) = n := by
  rw [ofBigEndian, bigEndian, List.reverse_reverse]
  exact ofLittleEndian_littleEndian small

def readByte : Reader UInt8
  | [] => .error .unexpectedEnd
  | b :: bytes => .ok (b, bytes)

theorem reads_byte (b : UInt8) : Reads readByte [b] b := fun _ => rfl

def uint8 : Format UInt8 where
  Fits _ := True
  encode b := .ok [b]
  decode := readByte
  round_trip b _ := ⟨[b], rfl, reads_byte b⟩

/-! ### Integers of variable length

An integer below 251 is one byte; a larger one comes behind a marker of its width. -/

inductive Width where
  | short | word | long
  deriving DecidableEq, Repr

namespace Width

def bytes : Width → ℕ
  | short => 2
  | word => 4
  | long => 8

def marker : Width → UInt8
  | short => 251
  | word => 252
  | long => 253

def ofMarker (b : UInt8) : Option Width :=
  if b = 251 then some short else if b = 252 then some word else if b = 253 then some long else none

theorem ofMarker_marker (w : Width) : ofMarker w.marker = some w := by
  cases w <;> rfl

/-- The width that an integer above 250 is written in. -/
def narrowest (n : ℕ) : Width :=
  if n < 256 ^ 2 then short else if n < 256 ^ 4 then word else long

theorem narrowest_le {n : ℕ} {w : Width} (small : n < 256 ^ w.bytes) :
    (narrowest n).bytes ≤ w.bytes ∧ n < 256 ^ (narrowest n).bytes := by
  unfold narrowest
  split_ifs with h₂ h₄
  · refine ⟨?_, h₂⟩
    cases w <;> decide
  · refine ⟨?_, h₄⟩
    cases w with
    | short => exact absurd small h₂
    | word => exact le_refl _
    | long => decide
  · cases w with
    | short => exact absurd small h₂
    | word => exact absurd small h₄
    | long => exact ⟨le_refl _, small⟩

end Width

def encodeVarint (n : ℕ) : List UInt8 :=
  if n < 251 then [n.toUInt8]
  else (Width.narrowest n).marker :: littleEndian (Width.narrowest n).bytes n

/-- What the first byte says; a marker of a greater width than the integer's own type is
refused. -/
def varintAfter (w : Width) (b : UInt8) : Reader ℕ :=
  if b < 251 then .done b.toNat
  else
    match Width.ofMarker b with
    | none => .fail .invalidInteger
    | some v =>
      if v.bytes ≤ w.bytes then (readOctets v.bytes).map fun body => ofLittleEndian body.val
      else .fail .invalidInteger

def decodeVarint (w : Width) : Reader ℕ := Reader.andThen readByte (varintAfter w)

theorem reads_varint {w : Width} {n : ℕ} (small : n < 256 ^ w.bytes) :
    Reads (decodeVarint w) (encodeVarint n) n := by
  unfold encodeVarint
  split_ifs with single
  · have value : n.toUInt8.toNat = n := by
      rw [Nat.toUInt8, UInt8.toNat_ofNat']
      omega
    have below : n.toUInt8 < 251 := UInt8.lt_iff_toNat_lt.2 (value.trans_lt single)
    refine (reads_byte _).andThen_nil ?_
    rw [varintAfter, if_pos below, value]
    exact .done n
  · obtain ⟨narrow, fits⟩ := Width.narrowest_le small
    have above : ¬(Width.narrowest n).marker < 251 := by
      cases Width.narrowest n <;> decide
    refine Reads.andThen (reads_byte _) ?_
    rw [varintAfter, if_neg above, Width.ofMarker_marker]
    dsimp only
    rw [if_pos narrow]
    have body := reads_octets ⟨littleEndian (Width.narrowest n).bytes n, length_littleEndian _ _⟩
    have value := body.map fun body => ofLittleEndian body.val
    rw [ofLittleEndian_littleEndian fits] at value
    exact value

def varint (w : Width) : Format ℕ where
  Fits n := n < 256 ^ w.bytes
  encode n := if n < 256 ^ w.bytes then .ok (encodeVarint n) else .error .tooLarge
  decode := decodeVarint w
  round_trip _ fits := ⟨_, if_pos fits, reads_varint fits⟩

def uint16 : Format UInt16 := (varint .short).convert UInt16.toNat UInt16.ofNat

def uint32 : Format UInt32 := (varint .word).convert UInt32.toNat UInt32.ofNat

def uint64 : Format UInt64 := (varint .long).convert UInt64.toNat UInt64.ofNat

@[simp] theorem uint16_fits (n : UInt16) : uint16.Fits n :=
  ⟨n.toNat_lt, UInt16.ofNat_toNat⟩

@[simp] theorem uint32_fits (n : UInt32) : uint32.Fits n :=
  ⟨n.toNat_lt, UInt32.ofNat_toNat⟩

@[simp] theorem uint64_fits (n : UInt64) : uint64.Fits n :=
  ⟨n.toNat_lt, UInt64.ofNat_toNat⟩

/-! ## Byte strings, options and enumerations -/

def length : Format ℕ := varint .long

def readMany {α : Type} (element : Reader α) : ℕ → Reader (List α)
  | 0 => .done []
  | n + 1 => element.andThen fun a => (readMany element n).map fun as => a :: as

theorem readMany_length {α : Type} {element : Reader α} {n : ℕ} {bytes rest : List UInt8}
    {as : List α} (h : readMany element n bytes = .ok (as, rest)) : as.length = n := by
  induction n generalizing bytes rest as with
  | zero =>
    cases h
    rfl
  | succ n ih =>
    simp only [readMany, Reader.andThen, Reader.map] at h
    cases first : element bytes with
    | error fault =>
      rw [first] at h
      cases h
    | ok head =>
      rw [first] at h
      change (readMany element n head.2 >>= _) = _ at h
      cases others : readMany element n head.2 with
      | error fault =>
        rw [others] at h
        cases h
      | ok tail =>
        rw [others] at h
        cases h
        rw [List.length_cons, ih others]

theorem reads_many_bytes (bytes : List UInt8) :
    Reads (readMany readByte bytes.length) bytes bytes := by
  induction bytes with
  | nil => exact .done []
  | cons b bytes ih =>
    rw [← List.singleton_append]
    exact Reads.andThen (reads_byte b) (ih.map _)

/-- Bytes written in one go behind their length and read back as a sequence of single bytes. -/
def byteString : Format (List UInt8) where
  Fits bytes := length.Fits bytes.length
  encode bytes := do
    let size ← length.encode bytes.length
    return size ++ bytes
  decode := length.decode.andThen (readMany uint8.decode)
  round_trip := by
    intro bytes fits
    obtain ⟨size, written, reads⟩ := length.round_trip bytes.length fits
    refine ⟨size ++ bytes, ?_, reads.andThen (reads_many_bytes bytes)⟩
    rw [written]
    rfl

def utf8Bytes (s : String) : List UInt8 := s.toUTF8.data.toList

def readUtf8 (n : ℕ) : Reader String :=
  (readOctets n).andThen fun octets =>
    match String.fromUTF8? octets.val.toByteArray with
    | some s => .done s
    | none => .fail .invalidUtf8

theorem fromUTF8_utf8Bytes (s : String) :
    String.fromUTF8? (utf8Bytes s).toByteArray = some s := by
  have same : (utf8Bytes s).toByteArray = s.toByteArray := by
    ext1
    simp [utf8Bytes]
  rw [same, String.fromUTF8?, dif_pos s.isValidUTF8]
  rfl

theorem reads_utf8 (s : String) : Reads (readUtf8 (utf8Bytes s).length) (utf8Bytes s) s := by
  have octets := reads_octets ⟨utf8Bytes s, rfl⟩
  refine octets.andThen_nil ?_
  dsimp only
  rw [fromUTF8_utf8Bytes]
  exact .done s

def string : Format String where
  Fits s := length.Fits (utf8Bytes s).length
  encode s := do
    let size ← length.encode (utf8Bytes s).length
    return size ++ utf8Bytes s
  decode := length.decode.andThen readUtf8
  round_trip := by
    intro s fits
    obtain ⟨size, written, reads⟩ := length.round_trip (utf8Bytes s).length fits
    refine ⟨size ++ utf8Bytes s, ?_, reads.andThen (reads_utf8 s)⟩
    rw [written]
    rfl

def encodeOptional {α : Type} (f : Format α) : Option α → Except Fault (List UInt8)
  | none => .ok [0]
  | some a => do
    let x ← f.encode a
    return 1 :: x

def optional {α : Type} (f : Format α) : Format (Option α) where
  Fits a := ∀ x ∈ a, f.Fits x
  encode := encodeOptional f
  decode := Reader.andThen readByte fun tag =>
    if tag = 0 then .done none
    else if tag = 1 then f.decode.map some
    else .fail .unexpectedVariant
  round_trip := by
    intro a fits
    cases a with
    | none => exact ⟨[0], rfl, (reads_byte 0).andThen_nil (.done none)⟩
    | some a =>
      obtain ⟨x, written, reads⟩ := f.round_trip a (fits a rfl)
      refine ⟨1 :: x, ?_, Reads.andThen (reads_byte 1) (reads.map some)⟩
      rw [encodeOptional, written]
      rfl

/-- One variant of an enumeration; `payload` finds what a value of this variant carries. -/
structure Variant (α : Type) where
  Payload : Type
  format : Format Payload
  build : Payload → α
  payload : α → Option Payload
  build_payload : ∀ a p, payload a = some p → build p = a

namespace Variant
variable {α : Type}

def discriminant : Format ℕ := varint .word

/-- The first variant that `a` is of is written behind its index, which starts at `i`. -/
def encodeFrom (a : α) (i : ℕ) : List (Variant α) → Except Fault (List UInt8)
  | [] => .error .noVariant
  | v :: variants =>
    match v.payload a with
    | some p => do
      let index ← discriminant.encode i
      let body ← v.format.encode p
      return index ++ body
    | none => encodeFrom a (i + 1) variants

def FitsFrom (a : α) (i : ℕ) : List (Variant α) → Prop
  | [] => False
  | v :: variants =>
    match v.payload a with
    | some p => discriminant.Fits i ∧ v.format.Fits p
    | none => FitsFrom a (i + 1) variants

def decodeAt (variants : List (Variant α)) (otherwise : Option α) (index : ℕ) : Reader α :=
  match variants[index]?, otherwise with
  | some v, _ => v.format.decode.map v.build
  | none, some a => .done a
  | none, none => .fail .unexpectedVariant

theorem encodeFrom_reads {a : α} {i : ℕ} {variants : List (Variant α)}
    (fits : FitsFrom a i variants) : ∃ j index body,
      encodeFrom a i variants = .ok (index ++ body) ∧ Reads discriminant.decode index (i + j) ∧
      ∀ otherwise, Reads (decodeAt variants otherwise j) body a := by
  induction variants generalizing i with
  | nil => exact fits.elim
  | cons v variants ih =>
    unfold FitsFrom at fits
    cases own : v.payload a with
    | none =>
      rw [own] at fits
      obtain ⟨j, index, body, encoded, tag, reads⟩ := ih fits
      refine ⟨j + 1, index, body, ?_, ?_, reads⟩
      · rw [encodeFrom, own]
        exact encoded
      · rw [show i + (j + 1) = i + 1 + j by omega]
        exact tag
    | some p =>
      rw [own] at fits
      obtain ⟨index, tagged, tag⟩ := discriminant.round_trip i fits.1
      obtain ⟨body, written, reads⟩ := v.format.round_trip p fits.2
      refine ⟨0, index, body, ?_, tag, fun otherwise => ?_⟩
      · rw [encodeFrom, own]
        dsimp only
        rw [tagged, written]
        rfl
      · rw [← v.build_payload a p own]
        exact reads.map v.build

end Variant

def enumeration {α : Type} (variants : List (Variant α)) (otherwise : Option α) : Format α where
  Fits a := Variant.FitsFrom a 0 variants
  encode a := Variant.encodeFrom a 0 variants
  decode := Variant.discriminant.decode.andThen (Variant.decodeAt variants otherwise)
  round_trip := by
    intro a fits
    obtain ⟨j, index, body, encoded, tag, reads⟩ := Variant.encodeFrom_reads fits
    rw [Nat.zero_add] at tag
    exact ⟨index ++ body, encoded, tag.andThen (reads otherwise)⟩

/-! ## Formats that refuse what does not fit -/

theorem bind_ok {α β ε : Type} {x : Except ε α} {g : α → Except ε β} {b : β}
    (h : (x >>= g) = .ok b) : ∃ a, x = .ok a ∧ g a = .ok b := by
  cases x with
  | error e => cases h
  | ok a => exact ⟨a, rfl, h⟩

namespace Format

def Strict {α : Type} (f : Format α) : Prop := ∀ a bytes, f.encode a = .ok bytes → f.Fits a

theorem Strict.pair {α β : Type} {f : Format α} {g : Format β} (hf : f.Strict) (hg : g.Strict) :
    (f.pair g).Strict := by
  intro p bytes h
  obtain ⟨x, first, h⟩ := bind_ok h
  obtain ⟨y, second, _⟩ := bind_ok h
  exact ⟨hf p.1 x first, hg p.2 y second⟩

theorem strict_unit : Format.unit.Strict := fun _ _ _ => trivial

theorem strict_varint (w : Width) : (varint w).Strict := by
  intro n bytes h
  by_contra large
  have refused : (varint w).encode n = .error .tooLarge := if_neg large
  rw [refused] at h
  cases h

theorem strict_string : string.Strict := by
  intro s bytes h
  obtain ⟨size, written, _⟩ := bind_ok h
  exact strict_varint _ _ _ written

theorem strict_byteString : byteString.Strict := by
  intro name bytes h
  obtain ⟨size, written, _⟩ := bind_ok h
  exact strict_varint _ _ _ written

theorem strict_enumeration {α : Type} {variants : List (Variant α)} {otherwise : Option α}
    (strict : ∀ v ∈ variants, v.format.Strict) : (enumeration variants otherwise).Strict := by
  intro a bytes h
  change Variant.encodeFrom a 0 variants = .ok bytes at h
  change Variant.FitsFrom a 0 variants
  generalize 0 = i at h ⊢
  induction variants generalizing i with
  | nil => cases h
  | cons v variants ih =>
    unfold Variant.encodeFrom at h
    unfold Variant.FitsFrom
    cases own : v.payload a with
    | none =>
      rw [own] at h
      exact ih (fun u mem => strict u (List.mem_cons_of_mem v mem)) (i + 1) h
    | some p =>
      rw [own] at h
      obtain ⟨index, tagged, h⟩ := bind_ok h
      obtain ⟨body, written, _⟩ := bind_ok h
      exact ⟨strict_varint _ _ _ tagged, strict v List.mem_cons_self p body written⟩

end Format
/-! ## The sizes of encodings -/

def varintLength (n : ℕ) : ℕ :=
  if n < 251 then 1 else if n < 256 ^ 2 then 3 else if n < 256 ^ 4 then 5 else 9

theorem length_encodeVarint (n : ℕ) : (encodeVarint n).length = varintLength n := by
  unfold encodeVarint varintLength Width.narrowest
  split_ifs <;> simp [Width.bytes]

theorem varintLength_le {w : Width} {n : ℕ} (small : n < 256 ^ w.bytes) :
    varintLength n ≤ w.bytes + 1 := by
  unfold varintLength
  cases w <;> simp only [Width.bytes] at small ⊢ <;> split_ifs <;> omega

theorem varintLength_of_short {n : ℕ} (short : n < 251) : varintLength n = 1 := if_pos short

namespace Format
variable {α β : Type} {f : Format α} {g : Format β}

def Writes (f : Format α) (a : α) (n : ℕ) : Prop :=
  ∃ bytes, f.encode a = .ok bytes ∧ bytes.length = n

theorem Writes.length_eq {a : α} {n : ℕ} (h : f.Writes a n) {bytes : List UInt8}
    (encoded : f.encode a = .ok bytes) : bytes.length = n := by
  obtain ⟨written, same, size⟩ := h
  obtain rfl := Except.ok.inj (encoded.symm.trans same)
  exact size

theorem Writes.pair {a : α} {b : β} {m n : ℕ} (ha : f.Writes a m) (hb : g.Writes b n) :
    (f.pair g).Writes (a, b) (m + n) := by
  obtain ⟨x, first, rfl⟩ := ha
  obtain ⟨y, second, rfl⟩ := hb
  refine ⟨x ++ y, ?_, List.length_append⟩
  change (do let x ← f.encode a; let y ← g.encode b; return x ++ y) = _
  rw [first, second]
  rfl

theorem Writes.convert {out : β → α} {back : α → β} {b : β} {n : ℕ} (h : f.Writes (out b) n) :
    (f.convert out back).Writes b n := h

theorem writes_octets {n : ℕ} (bytes : Octets n) : (octets n).Writes bytes n :=
  ⟨bytes.val, rfl, bytes.property⟩

theorem writes_varint {w : Width} {n : ℕ} (small : n < 256 ^ w.bytes) :
    (varint w).Writes n (varintLength n) :=
  ⟨encodeVarint n, if_pos small, length_encodeVarint n⟩

theorem writes_uint16 (n : UInt16) : uint16.Writes n (varintLength n.toNat) :=
  writes_varint n.toNat_lt

theorem writes_uint32 (n : UInt32) : uint32.Writes n (varintLength n.toNat) :=
  writes_varint n.toNat_lt

theorem writes_uint64 (n : UInt64) : uint64.Writes n (varintLength n.toNat) :=
  writes_varint n.toNat_lt

theorem writes_byteString {bytes : List UInt8} (small : bytes.length < 256 ^ 8) :
    byteString.Writes bytes (varintLength bytes.length + bytes.length) := by
  obtain ⟨size, written, length⟩ : length.Writes bytes.length _ := writes_varint small
  refine ⟨size ++ bytes, ?_, ?_⟩
  · change (do let size ← BinaryFormat.length.encode bytes.length; return size ++ bytes) = _
    rw [written]
    rfl
  · rw [List.length_append, length]

theorem writes_optional_none : (optional f).Writes none 1 := ⟨[0], rfl, rfl⟩

theorem Writes.optional_some {a : α} {n : ℕ} (h : f.Writes a n) :
    (optional f).Writes (some a) (1 + n) := by
  obtain ⟨x, written, rfl⟩ := h
  refine ⟨1 :: x, ?_, by rw [List.length_cons, Nat.add_comm]⟩
  change encodeOptional f (some a) = _
  rw [encodeOptional, written]
  rfl

end Format

/-- What `encodeFrom` writes for a value of the variant at hand. -/
theorem Variant.writes_here {α : Type} {a : α} {i n : ℕ} {v : Variant α} {variants : List (Variant α)}
    {p : v.Payload} (own : v.payload a = some p) (small : i < 251) (h : v.format.Writes p n) :
    ∃ bytes, Variant.encodeFrom a i (v :: variants) = .ok bytes ∧ bytes.length = 1 + n := by
  obtain ⟨index, tagged, one⟩ : Variant.discriminant.Writes i (varintLength i) :=
    Format.writes_varint (by change i < 256 ^ 4; omega)
  obtain ⟨body, written, rfl⟩ := h
  refine ⟨index ++ body, ?_, ?_⟩
  · rw [Variant.encodeFrom, own]
    dsimp only
    rw [tagged, written]
    rfl
  · rw [List.length_append, one, varintLength_of_short small]

theorem Variant.encodeFrom_skip {α : Type} {a : α} {i : ℕ} {v : Variant α}
    {variants : List (Variant α)} (other : v.payload a = none) :
    Variant.encodeFrom a i (v :: variants) = Variant.encodeFrom a (i + 1) variants := by
  rw [Variant.encodeFrom, other]

end Ombrac.BinaryFormat
