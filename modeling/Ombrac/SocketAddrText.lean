import Mathlib.Data.Nat.Digits.Lemmas
import Ombrac.AddressText

set_option autoImplicit false

/-!
# The text of a socket address

What the standard library prints for a socket address, and that its parser reads it back.
-/
namespace Ombrac.SocketAddrText
open ProtocolPacket BinaryFormat AddressText

/-! ## Display -/

def numberText (radix n : ℕ) : Bytes := (Nat.toDigits radix n).map Char.toUInt8

def dot : UInt8 := '.'.toUInt8
def colon : UInt8 := ':'.toUInt8

def ipv4Text (ip : Ipv4Addr) : Bytes :=
  let n := ip.bits.toNat
  numberText 10 (n / 2 ^ 24) ++ dot :: (numberText 10 (n / 2 ^ 16 % 256) ++
    dot :: (numberText 10 (n / 2 ^ 8 % 256) ++ dot :: numberText 10 (n % 256)))

def segments (ip : Ipv6Addr) : List ℕ :=
  (List.range 8).map fun i => ip.bits.toNat / 65536 ^ (7 - i) % 65536

structure Span where
  start : ℕ
  len : ℕ

/-- The longest span of zeros, of those seen and those among the segments from `i` on; `current` is
the one that ends at `i`. -/
def longestZeros (longest current : Span) (i : ℕ) : List ℕ → Span
  | [] => longest
  | segment :: rest =>
    if segment = 0 then
      let current : Span := ⟨if current.len = 0 then i else current.start, current.len + 1⟩
      longestZeros (if longest.len < current.len then current else longest) current (i + 1) rest
    else longestZeros longest ⟨0, 0⟩ (i + 1) rest

def segmentsText : ℕ → List ℕ → Bytes
  | _, [] => []
  | 0, segment :: rest => numberText 16 segment ++ segmentsText 1 rest
  | i + 1, segment :: rest => colon :: (numberText 16 segment ++ segmentsText (i + 2) rest)

def fmtSubslice (chunk : List ℕ) : Bytes := segmentsText 0 chunk

def toIpv4Mapped (ip : Ipv6Addr) : Option Ipv4Addr :=
  if (segments ip).take 6 = [0, 0, 0, 0, 0, 0xffff] then some ⟨UInt32.ofNat ip.bits.toNat⟩ else none

def ipv6Text (ip : Ipv6Addr) : Bytes :=
  match toIpv4Mapped ip with
  | some ipv4 => colon :: colon :: (numberText 16 0xffff ++ colon :: ipv4Text ipv4)
  | none =>
    let segments := segments ip
    let zeroes := longestZeros ⟨0, 0⟩ ⟨0, 0⟩ 0 segments
    if 1 < zeroes.len then
      fmtSubslice (segments.take zeroes.start) ++
        colon :: colon :: fmtSubslice (segments.drop (zeroes.start + zeroes.len))
    else fmtSubslice segments

def socketAddrV4Text (addr : SocketAddrV4) : Bytes :=
  ipv4Text addr.ip ++ colon :: numberText 10 addr.port.toNat

def socketAddrV6Text (addr : SocketAddrV6) : Bytes :=
  let scope := if addr.scopeId = 0 then [] else '%'.toUInt8 :: numberText 10 addr.scopeId.toNat
  '['.toUInt8 :: (ipv6Text addr.ip ++ (scope ++
    ']'.toUInt8 :: colon :: numberText 10 addr.port.toNat))

/-! ## Numbers -/

def digitsOf (radix n : ℕ) : List ℕ := if n = 0 then [0] else (Nat.digits radix n).reverse

section Number
variable {radix n : ℕ}

theorem toDigit_digitChar (n : Fin 16) (radix : Fin 17) (small : n.val < radix.val) :
    toDigit radix n.val.digitChar.toUInt8 = some n.val := by
  decide +revert

theorem numberText_eq_map (base : 1 < radix) :
    numberText radix n = (digitsOf radix n).map fun d => d.digitChar.toUInt8 := by
  have positive : ∀ n, 0 < n → numberText radix n =
      (Nat.digits radix n).reverse.map fun d => d.digitChar.toUInt8 := by
    intro n
    induction n using Nat.strong_induction_on with
    | _ n ih =>
      intro positive
      rw [numberText, Nat.toDigits_eq_if base, Nat.digits_def' base positive]
      split_ifs with small
      · rw [Nat.div_eq_of_lt small, Nat.mod_eq_of_lt small, Nat.digits_zero]
        rfl
      · have less := Nat.div_lt_self positive base
        have more : 0 < n / radix := Nat.div_pos (Nat.le_of_not_lt small) (by omega)
        rw [List.map_append, ← numberText, ih _ less more, List.reverse_cons, List.map_append]
        rfl
  unfold digitsOf
  split_ifs with zero
  · rw [zero, numberText, Nat.toDigits_zero]
    rfl
  · exact positive n (Nat.pos_of_ne_zero zero)

theorem digitsOf_ne_nil : digitsOf radix n ≠ [] := by
  unfold digitsOf
  split_ifs with zero
  · exact List.cons_ne_nil _ _
  · rwa [Ne, List.reverse_eq_nil_iff, Nat.digits_eq_nil_iff_eq_zero]

theorem digitsOf_lt (base : 1 < radix) : ∀ d ∈ digitsOf radix n, d < radix := by
  unfold digitsOf
  split_ifs
  · intro d there
    rw [List.mem_singleton] at there
    omega
  · intro d there
    exact Nat.digits_lt_base base (List.mem_reverse.1 there)

theorem digitsValue_reverse (digits : List ℕ) :
    digitsValue radix digits.reverse = Nat.ofDigits radix digits := by
  rw [digitsValue, List.foldl_reverse]
  induction digits with
  | nil => rfl
  | cons digit digits ih =>
    rw [List.foldr_cons, ih, Nat.ofDigits_cons, mul_comm, add_comm]

theorem digitsOf_value : digitsValue radix (digitsOf radix n) = n := by
  unfold digitsOf
  split_ifs with zero
  · rw [zero, digitsValue, List.foldl_cons, List.foldl_nil, zero_mul]
  · rw [digitsValue_reverse, Nat.ofDigits_digits]

theorem digitsOf_length {most : ℕ} (base : 1 < radix) (positive : 0 < most)
    (small : n < radix ^ most) : (digitsOf radix n).length ≤ most := by
  have text := Nat.toDigits_length radix n most positive small
  have length := congrArg List.length (numberText_eq_map (n := n) base)
  rw [numberText, List.length_map, List.length_map] at length
  omega

theorem digitsOf_head (head : (digitsOf radix n).head? = some 0) :
    (digitsOf radix n).length = 1 := by
  unfold digitsOf at head ⊢
  split_ifs at head ⊢ with zero
  · rfl
  · have nonempty : Nat.digits radix n ≠ [] := Nat.digits_ne_nil_iff_ne_zero.2 zero
    rw [List.head?_reverse, List.getLast?_eq_some_getLast nonempty] at head
    exact absurd (Option.some.inj head) (Nat.getLast_digit_ne_zero radix zero)

theorem numberText_digit (base : 1 < radix) (base' : radix ≤ 16) {b : UInt8}
    (there : b ∈ numberText radix n) : toDigit radix b ≠ none := by
  rw [numberText_eq_map base] at there
  obtain ⟨d, among, rfl⟩ := List.mem_map.1 there
  have small := digitsOf_lt base d among
  rw [toDigit_digitChar ⟨d, by omega⟩ ⟨radix, by omega⟩ small]
  exact Option.some_ne_none d

def NoDigit (radix : ℕ) (text : Bytes) : Prop := ∀ b ∈ text.head?, toDigit radix b = none

theorem noDigit_nil : NoDigit radix [] := fun _ there => absurd there (Option.not_mem_none _)

theorem noDigit_cons {b : UInt8} {rest : Bytes} (other : toDigit radix b = none) :
    NoDigit radix (b :: rest) := by
  rintro b' there
  obtain rfl := Option.some.inj there
  exact other

theorem readDigits_noDigit {text : Bytes} (ended : NoDigit radix text) :
    readDigits radix text = ([], text) := by
  cases text with
  | nil => rfl
  | cons b rest => rw [readDigits, ended b rfl]

theorem readDigits_map (base : radix ≤ 16) {digits : List ℕ} (small : ∀ d ∈ digits, d < radix)
    {rest : Bytes} (ended : NoDigit radix rest) :
    readDigits radix (digits.map (fun d => d.digitChar.toUInt8) ++ rest) = (digits, rest) := by
  induction digits with
  | nil => exact readDigits_noDigit ended
  | cons d digits ih =>
    have less := small d List.mem_cons_self
    rw [List.map_cons, List.cons_append, readDigits,
      toDigit_digitChar ⟨d, by omega⟩ ⟨radix, by omega⟩ less]
    dsimp only
    rw [ih fun d' there => small d' (List.mem_cons_of_mem _ there)]

/-- A printed number is read back. -/
theorem readNumber_text {bound : ℕ} {maxDigits : Option ℕ} {allowZeroPrefix : Bool} {rest : Bytes}
    (base : 1 < radix) (base' : radix ≤ 16) (small : n < bound)
    (fits : ∀ most ∈ maxDigits, 0 < most ∧ bound ≤ radix ^ most) (ended : NoDigit radix rest) :
    readNumber bound radix maxDigits allowZeroPrefix (numberText radix n ++ rest) =
      some (n, rest) := by
  have short : (maxDigits.any fun most => decide (most < (digitsOf radix n).length)) = false := by
    cases maxDigits with
    | none => rfl
    | some most =>
      obtain ⟨positive, enough⟩ := fits most rfl
      have length := digitsOf_length base positive (small.trans_le enough)
      exact decide_eq_false (Nat.not_lt_of_le length)
  have plain : ¬ (!allowZeroPrefix && decide ((digitsOf radix n).head? = some 0) &&
      decide (1 < (digitsOf radix n).length)) = true := by
    simp only [Bool.and_eq_true, decide_eq_true_eq, not_and, and_imp]
    intro _ head
    rw [digitsOf_head head]
    exact lt_irrefl 1
  unfold readNumber
  rw [numberText_eq_map base, readDigits_map base' (digitsOf_lt base) ended]
  dsimp only
  rw [if_neg digitsOf_ne_nil, short, if_neg Bool.false_ne_true, if_neg plain, digitsOf_value,
    if_pos small]

end Number

theorem readGivenChar_self (c : Char) (rest : Bytes) :
    readGivenChar c (c.toUInt8 :: rest) = some ((), rest) := if_pos rfl

theorem readGivenChar_colon (rest : Bytes) : readGivenChar ':' (colon :: rest) = some ((), rest) :=
  readGivenChar_self ':' rest

theorem readGivenChar_other {c : Char} {b : UInt8} (other : b ≠ c.toUInt8) (rest : Bytes) :
    readGivenChar c (b :: rest) = none := if_neg other

theorem readSeparator_zero {α : Type} (sep : Char) (inner : Parser α) (p : Bytes) :
    readSeparator sep 0 inner p = inner p := if_pos rfl

theorem readSeparator_self {α : Type} (sep : Char) (inner : Parser α) (i : ℕ) (p : Bytes) :
    readSeparator sep (i + 1) inner (sep.toUInt8 :: p) = inner p := by
  rw [readSeparator, if_neg (Nat.succ_ne_zero i), readGivenChar_self]
  rfl

/-! ## IPv4 addresses -/

section Ipv4
variable {rest : Bytes}

theorem readIpv4Group_text {n : ℕ} (small : n < 256) (ended : NoDigit 10 rest) (i : ℕ) :
    readIpv4Group 0 (numberText 10 n ++ rest) = some (n, rest) ∧
      readIpv4Group (i + 1) (dot :: (numberText 10 n ++ rest)) = some (n, rest) := by
  have number :
      readNumber (2 ^ 8) 10 (some 3) false (numberText 10 n ++ rest) = some (n, rest) := by
    refine readNumber_text (by decide) (by decide) small (fun most there => ?_) ended
    obtain rfl := Option.some.inj there
    decide
  exact ⟨number, (readSeparator_self '.' _ i _).trans number⟩

theorem readIpv4Addr_text (ip : Ipv4Addr) (ended : NoDigit 10 rest) :
    readIpv4Addr (ipv4Text ip ++ rest) = some (ip, rest) := by
  obtain ⟨bits⟩ := ip
  have size := bits.toNat_lt
  have behind : ∀ text, NoDigit 10 (dot :: text) := fun text => noDigit_cons (by decide)
  unfold readIpv4Addr ipv4Text
  simp only [List.append_assoc, List.cons_append]
  rw [(readIpv4Group_text (by omega) (behind _) 0).1]
  change (readIpv4Group 1 _ >>= _) = _
  rw [(readIpv4Group_text (Nat.mod_lt _ (by decide)) (behind _) 0).2]
  change (readIpv4Group 2 _ >>= _) = _
  rw [(readIpv4Group_text (Nat.mod_lt _ (by decide)) (behind _) 1).2]
  change (readIpv4Group 3 _ >>= _) = _
  rw [(readIpv4Group_text (Nat.mod_lt _ (by decide)) ended 2).2]
  change some (Ipv4Addr.mk (UInt32.ofNat _), rest) = _
  have whole : ((bits.toNat / 2 ^ 24 * 256 + bits.toNat / 2 ^ 16 % 256) * 256 +
      bits.toNat / 2 ^ 8 % 256) * 256 + bits.toNat % 256 = bits.toNat := by omega
  rw [whole, UInt32.ofNat_toNat]

theorem readNumber_rest {bound radix : ℕ} {maxDigits : Option ℕ} {allowZeroPrefix : Bool}
    {p : Bytes} {n : ℕ}
    (read : readNumber bound radix maxDigits allowZeroPrefix p = some (n, rest)) :
    rest = (readDigits radix p).2 := by
  unfold readNumber at read
  dsimp only at read
  split_ifs at read
  exact (congrArg Prod.snd (Option.some.inj read)).symm

theorem readNumber_noDigit {bound radix : ℕ} {maxDigits : Option ℕ} {allowZeroPrefix : Bool}
    (ended : NoDigit radix rest) :
    readNumber bound radix maxDigits allowZeroPrefix rest = none := by
  unfold readNumber
  rw [readDigits_noDigit ended]
  rfl

theorem readIpv4Addr_noDigit (ended : NoDigit 10 rest) : readIpv4Addr rest = none := by
  unfold readIpv4Addr
  rw [readIpv4Group, readSeparator_zero, readNumber_noDigit ended]
  rfl

/-- Behind the decimal digits comes no dot. -/
theorem readIpv4Addr_noDot (noDot : ∀ b ∈ (readDigits 10 rest).2.head?, b ≠ dot) :
    readIpv4Addr rest = none := by
  unfold readIpv4Addr
  cases first : readIpv4Group 0 rest with
  | none => rfl
  | some value =>
    obtain ⟨n, behind⟩ := value
    rw [readIpv4Group, readSeparator_zero] at first
    rw [← readNumber_rest first] at noDot
    change (readIpv4Group 1 behind >>= _) = none
    have refused : readGivenChar '.' behind = none := by
      cases behind with
      | nil => rfl
      | cons b behind => exact readGivenChar_other (noDot b rfl) behind
    rw [readIpv4Group, readSeparator, if_neg one_ne_zero, refused]
    rfl

end Ipv4

/-! ## IPv6 addresses -/

theorem NoDigit.decimal {text : Bytes} (ended : NoDigit 16 text) : NoDigit 10 text := by
  intro b there
  have other := ended b there
  unfold toDigit at other ⊢
  dsimp only at other ⊢
  split_ifs at other ⊢ <;> first | rfl | omega

/-- What may stand behind the last of some segments. -/
structure SegmentsEnd (rest : Bytes) : Prop where
  noDigit : NoDigit 16 rest
  noDot : ∀ b ∈ rest.head?, b ≠ dot
  colons : ∀ text, rest = colon :: text → NoDigit 16 text

section Ipv6
variable {rest : Bytes} {n : ℕ}

/-- A hexadecimal segment is not the first group of an IPv4 address. -/
theorem readIpv4Addr_segment (noDigit : NoDigit 16 rest) (noDot : ∀ b ∈ rest.head?, b ≠ dot) :
    readIpv4Addr (numberText 16 n ++ rest) = none := by
  have absent : dot ∉ numberText 16 n := fun there =>
    numberText_digit (by decide) (by decide) there (by decide)
  refine readIpv4Addr_noDot ?_
  generalize numberText 16 n = text at absent
  induction text with
  | nil =>
    rw [List.nil_append, readDigits_noDigit noDigit.decimal]
    exact noDot
  | cons b text ih =>
    obtain ⟨other, absent⟩ := List.ne_and_not_mem_of_not_mem_cons absent
    rw [List.cons_append, readDigits]
    cases toDigit 10 b with
    | none =>
      rintro b' there
      obtain rfl := Option.some.inj there
      exact other.symm
    | some digit => exact ih absent

theorem readSeparator_end {α : Type} {inner : Parser α}
    (refuses : ∀ text, NoDigit 16 text → inner text = none) (ended : SegmentsEnd rest) (i : ℕ) :
    readSeparator ':' i inner rest = none := by
  cases i with
  | zero => exact (readSeparator_zero ':' inner rest).trans (refuses rest ended.noDigit)
  | succ i =>
    cases rest with
    | nil => rfl
    | cons b text =>
      by_cases same : b = colon
      · obtain rfl := same
        exact (readSeparator_self ':' inner i text).trans (refuses text (ended.colons text rfl))
      · rw [readSeparator, if_neg (Nat.succ_ne_zero i), readGivenChar_other same]
        rfl

theorem readGroups_end (ended : SegmentsEnd rest) (i places : ℕ) :
    readGroups i places rest = ([], false, rest) := by
  cases places with
  | zero => rfl
  | succ places =>
    have ipv4 : readSeparator ':' i readIpv4Addr rest = none :=
      readSeparator_end (fun _ noDigit => readIpv4Addr_noDigit noDigit.decimal) ended i
    have group : readSeparator ':' i (readNumber (2 ^ 16) 16 (some 4) true) rest = none :=
      readSeparator_end (fun _ noDigit => readNumber_noDigit noDigit) ended i
    rw [readGroups, ipv4, ite_self, group]

def segmentText (i n : ℕ) : Bytes :=
  if i = 0 then numberText 16 n else colon :: numberText 16 n

theorem segmentsText_cons (i : ℕ) (segments : List ℕ) :
    segmentsText i (n :: segments) = segmentText i n ++ segmentsText (i + 1) segments := by
  cases i <;> rfl

theorem readGroups_segment (small : n < 65536) (noDigit : NoDigit 16 rest)
    (noDot : ∀ b ∈ rest.head?, b ≠ dot) (i places : ℕ) :
    readGroups i (places + 1) (segmentText i n ++ rest) =
      (n :: (readGroups (i + 1) places rest).1, (readGroups (i + 1) places rest).2) := by
  have inner : ∀ {α : Type} (inner : Parser α),
      readSeparator ':' i inner (segmentText i n ++ rest) = inner (numberText 16 n ++ rest) := by
    intro α inner
    cases i with
    | zero => exact readSeparator_zero ':' inner _
    | succ i => exact readSeparator_self ':' inner i _
  have number :
      readNumber (2 ^ 16) 16 (some 4) true (numberText 16 n ++ rest) = some (n, rest) := by
    refine readNumber_text (by decide) (by decide) small (fun most there => ?_) noDigit
    obtain rfl := Option.some.inj there
    decide
  rw [readGroups, inner, readIpv4Addr_segment noDigit noDot, ite_self, inner, number]

theorem segmentsText_head (segments : List ℕ) (ended : SegmentsEnd rest) (i : ℕ) :
    NoDigit 16 (segmentsText (i + 1) segments ++ rest) ∧
      ∀ b ∈ (segmentsText (i + 1) segments ++ rest).head?, b ≠ dot := by
  cases segments with
  | nil => exact ⟨ended.noDigit, ended.noDot⟩
  | cons segment segments =>
    refine ⟨noDigit_cons (by decide), fun b there => ?_⟩
    obtain rfl := Option.some.inj there
    decide

/-- Printed segments are read back where there is a place for each. -/
theorem readGroups_segments (ended : SegmentsEnd rest) (segments : List ℕ)
    (small : ∀ segment ∈ segments, segment < 65536) (i places : ℕ)
    (room : segments.length ≤ places) :
    readGroups i places (segmentsText i segments ++ rest) = (segments, false, rest) := by
  induction segments generalizing i places with
  | nil => exact readGroups_end ended i places
  | cons segment segments ih =>
    obtain ⟨places, rfl⟩ : ∃ k, places = k + 1 := ⟨places - 1, by
      rw [List.length_cons] at room
      omega⟩
    obtain ⟨noDigit, noDot⟩ := segmentsText_head segments ended i
    rw [segmentsText_cons, List.append_assoc,
      readGroups_segment (small segment List.mem_cons_self) noDigit noDot,
      ih (fun other there => small other (List.mem_cons_of_mem _ there)) (i + 1) places
        (Nat.le_of_succ_le_succ room)]

def Zeros (segments : List ℕ) (span : Span) : Prop :=
  ∀ j, span.start ≤ j → j < span.start + span.len → segments[j]? = some 0

/-- The span at hand ends before the segment that is looked at next. -/
def EndsAt (span : Span) (i : ℕ) : Prop := span.len = 0 ∨ span.start + span.len = i

theorem Zeros.grow {segments : List ℕ} {current : Span} {i : ℕ} (zeros : Zeros segments current)
    (ends : EndsAt current i) (zero : segments[i]? = some 0) :
    Zeros segments ⟨if current.len = 0 then i else current.start, current.len + 1⟩ ∧
      EndsAt ⟨if current.len = 0 then i else current.start, current.len + 1⟩ (i + 1) := by
  unfold EndsAt at ends ⊢
  split_ifs with empty
  · refine ⟨fun j least less => ?_, .inr (by dsimp only; omega)⟩
    dsimp only at least less
    obtain rfl : j = i := by omega
    exact zero
  · refine ⟨fun j least less => ?_, .inr (by dsimp only; omega)⟩
    dsimp only at least less
    by_cases last : j = i
    · exact last ▸ zero
    · exact zeros j least (by omega)

theorem longestZeros_zeros {segments : List ℕ} (rest : List ℕ) :
    ∀ {longest current : Span} {i : ℕ}, segments.drop i = rest → Zeros segments longest →
      Zeros segments current → EndsAt current i →
      Zeros segments (longestZeros longest current i rest) := by
  induction rest with
  | nil => exact fun _ zeros _ _ => zeros
  | cons segment rest ih =>
    intro longest current i behind zeros zeros' ends
    have here : segments[i]? = some segment := by
      rw [← List.head?_drop, behind]
      rfl
    have next : segments.drop (i + 1) = rest := by
      rw [← List.tail_drop, behind]
      rfl
    by_cases zero : segment = 0
    · subst zero
      obtain ⟨grown, ends'⟩ := zeros'.grow ends here
      rw [longestZeros, if_pos rfl]
      refine ih next ?_ grown ends'
      by_cases longer : longest.len < current.len + 1
      · exact (if_pos longer).symm ▸ grown
      · exact (if_neg longer).symm ▸ zeros
    · rw [longestZeros, if_neg zero]
      exact ih next zeros (fun j _ less => absurd less (by dsimp only; omega)) (.inl rfl)

theorem Zeros.split {segments : List ℕ} {span : Span} (zeros : Zeros segments span)
    (some_zero : 0 < span.len) :
    span.start + span.len ≤ segments.length ∧
      segments.take span.start ++ List.replicate span.len 0 ++
        segments.drop (span.start + span.len) = segments := by
  have last := zeros (span.start + span.len - 1) (by omega) (by omega)
  have bound := (List.getElem?_eq_some_iff.1 last).1
  have within : span.start + span.len ≤ segments.length := by omega
  have middle : (segments.drop span.start).take span.len = List.replicate span.len 0 := by
    refine List.ext_getElem? fun j => ?_
    rw [List.getElem?_take, List.getElem?_replicate]
    split_ifs with less
    · rw [List.getElem?_drop]
      exact zeros _ (by omega) (by omega)
    · rfl
  refine ⟨within, ?_⟩
  rw [← middle, List.append_assoc, ← List.drop_drop, List.take_append_drop, List.take_append_drop]

theorem segments_small (ip : Ipv6Addr) : ∀ segment ∈ segments ip, segment < 65536 := by
  intro segment there
  obtain ⟨i, _, rfl⟩ := List.mem_map.1 there
  exact Nat.mod_lt _ (by decide)

/-- So many digits, from the power `top` down, are the number without what is above and below. -/
theorem digitsValue_range (radix n top : ℕ) : ∀ places, places ≤ top + 1 →
    digitsValue radix ((List.range places).map fun i => n / radix ^ (top - i) % radix) =
      n / radix ^ (top + 1 - places) % radix ^ places := by
  intro places
  induction places with
  | zero => exact fun _ => (Nat.mod_one _).symm
  | succ places ih =>
    intro within
    have above : n / radix ^ (top + 1 - places) = n / radix ^ (top - places) / radix := by
      rw [Nat.div_div_eq_div_mul, ← pow_succ, Nat.sub_add_comm (by omega)]
    rw [List.range_succ, List.map_append, digitsValue, List.foldl_append, ← digitsValue,
      ih (by omega), above, Nat.add_sub_add_right, pow_succ', Nat.mod_mul]
    change n / radix ^ (top - places) / radix % radix ^ places * radix + _ = _
    rw [Nat.add_comm, Nat.mul_comm]

theorem segments_value (ip : Ipv6Addr) : digitsValue 65536 (segments ip) = ip.bits.toNat := by
  have size : ip.bits.toNat < 65536 ^ 8 := ip.bits.isLt
  refine (digitsValue_range 65536 ip.bits.toNat 7 8 le_rfl).trans ?_
  rw [Nat.sub_self, pow_zero, Nat.div_one, Nat.mod_eq_of_lt size]

theorem ofGroups_segments (ip : Ipv6Addr) : ofGroups (segments ip) = ip := by
  rw [ofGroups, segments_value, BitVec.ofNat_toNat, BitVec.setWidth_eq]

theorem segmentsEnd_colons (text : Bytes) : SegmentsEnd (colon :: colon :: text) where
  noDigit := noDigit_cons (by decide)
  noDot b there := by
    obtain rfl := Option.some.inj there
    decide
  colons behind same := by
    obtain rfl := (List.cons.inj same).2
    exact noDigit_cons (by decide)

/-- Fewer than eight segments, and those behind the two colons. -/
theorem readIpv6Addr_colons {head tail : List ℕ} {text : Bytes}
    {embedded : Bool} (small : ∀ segment ∈ head, segment < 65536) (few : head.length < 8)
    (read : readGroups 0 (8 - (head.length + 1)) text = (tail, embedded, rest)) :
    readIpv6Addr (fmtSubslice head ++ colon :: colon :: text) =
      some (ofGroups (head ++ List.replicate (8 - head.length - tail.length) 0 ++ tail), rest) := by
  have first := readGroups_segments (segmentsEnd_colons text) head small 0 8 few.le
  unfold readIpv6Addr fmtSubslice
  rw [first]
  dsimp only
  rw [if_neg few.ne, if_neg Bool.false_ne_true]
  simp only [readGivenChar_colon, Option.bind_eq_bind, Option.bind_some, read]
  rfl

theorem readIpv6Addr_mapped (ended : SegmentsEnd rest) {ip : Ipv6Addr}
    (mapped : (segments ip).take 6 = [0, 0, 0, 0, 0, 0xffff]) :
    readIpv6Addr (colon :: colon :: (numberText 16 0xffff ++ colon ::
      (ipv4Text ⟨UInt32.ofNat ip.bits.toNat⟩ ++ rest))) = some (ip, rest) := by
  obtain ⟨bits⟩ := ip
  have size := bits.isLt
  have upper : bits.toNat / 2 ^ 32 = 0xffff := by
    have value := segments_value ⟨bits⟩
    have low : (segments ⟨bits⟩).drop 6 =
      [bits.toNat / 65536 ^ 1 % 65536, bits.toNat / 65536 ^ 0 % 65536] := rfl
    rw [← List.take_append_drop 6 (segments ⟨bits⟩), mapped, low] at value
    simp only [digitsValue, List.cons_append, List.nil_append, List.foldl_cons,
      List.foldl_nil] at value
    omega
  have lower : (UInt32.ofNat bits.toNat).toNat = bits.toNat % 2 ^ 32 := UInt32.toNat_ofNat'
  have tail : readGroups 0 7 (numberText 16 0xffff ++ colon ::
      (ipv4Text ⟨UInt32.ofNat bits.toNat⟩ ++ rest)) =
        ([0xffff, bits.toNat % 2 ^ 32 / 65536, bits.toNat % 2 ^ 32 % 65536], true, rest) := by
    have ipv4 := readIpv4Addr_text ⟨UInt32.ofNat bits.toNat⟩ ended.noDigit.decimal
    have dotted : readGroups 1 6 (colon :: (ipv4Text ⟨UInt32.ofNat bits.toNat⟩ ++ rest)) =
        ([bits.toNat % 2 ^ 32 / 65536, bits.toNat % 2 ^ 32 % 65536], true, rest) := by
      have separated := readSeparator_self ':' readIpv4Addr 0
        (ipv4Text ⟨UInt32.ofNat bits.toNat⟩ ++ rest)
      rw [readGroups, if_neg (by decide), ← lower, show colon = ':'.toUInt8 from rfl, separated,
        ipv4]
    obtain ⟨noDigit, noDot⟩ : NoDigit 16 (colon :: (ipv4Text ⟨UInt32.ofNat bits.toNat⟩ ++ rest)) ∧
        ∀ b ∈ (colon :: (ipv4Text ⟨UInt32.ofNat bits.toNat⟩ ++ rest)).head?, b ≠ dot := by
      refine ⟨noDigit_cons (by decide), fun b there => ?_⟩
      obtain rfl := Option.some.inj there
      decide
    have first := readGroups_segment (show 0xffff < 65536 by decide) noDigit noDot 0 6
    exact first.trans (by rw [dotted])
  have read := readIpv6Addr_colons (fun _ there => absurd there List.not_mem_nil)
    (show ([] : List ℕ).length < 8 by decide) tail
  refine read.trans ?_
  have whole : digitsValue 65536 ([] ++ List.replicate (8 - ([] : List ℕ).length - 3) 0 ++
      [0xffff, bits.toNat % 2 ^ 32 / 65536, bits.toNat % 2 ^ 32 % 65536]) = bits.toNat := by
    simp only [digitsValue, List.nil_append, List.length_nil, List.replicate, List.cons_append,
      List.foldl_cons, List.foldl_nil]
    omega
  change some (Ipv6Addr.mk (BitVec.ofNat 128 (digitsValue 65536 ([] ++ List.replicate
    (8 - ([] : List ℕ).length - 3) 0 ++ _))), rest) = _
  rw [whole, BitVec.ofNat_toNat, BitVec.setWidth_eq]

/-- A printed IPv6 address is read back, with the zeros that were left out. -/
theorem readIpv6Addr_text (ip : Ipv6Addr) (ended : SegmentsEnd rest) :
    readIpv6Addr (ipv6Text ip ++ rest) = some (ip, rest) := by
  have small := segments_small ip
  have eight : (segments ip).length = 8 := rfl
  unfold ipv6Text toIpv4Mapped
  split_ifs with mapped
  · simp only [List.cons_append, List.append_assoc]
    exact readIpv6Addr_mapped ended mapped
  · dsimp only
    have zeros : Zeros (segments ip) (longestZeros ⟨0, 0⟩ ⟨0, 0⟩ 0 (segments ip)) := by
      have blank : Zeros (segments ip) ⟨0, 0⟩ := fun _ _ less => absurd less (Nat.not_lt_zero _)
      exact longestZeros_zeros _ rfl blank blank (.inl rfl)
    generalize longestZeros ⟨0, 0⟩ ⟨0, 0⟩ 0 (segments ip) = zeroes at zeros
    split_ifs with long
    · obtain ⟨within, whole⟩ := zeros.split (by omega)
      have taken : ((segments ip).take zeroes.start).length = zeroes.start :=
        List.length_take_of_le (by omega)
      have left : ((segments ip).drop (zeroes.start + zeroes.len)).length =
          8 - (zeroes.start + zeroes.len) := by rw [List.length_drop, eight]
      have tail := readGroups_segments ended ((segments ip).drop (zeroes.start + zeroes.len))
        (fun segment there => small segment (List.mem_of_mem_drop there)) 0
        (8 - (((segments ip).take zeroes.start).length + 1)) (by omega)
      rw [← fmtSubslice] at tail
      simp only [List.append_assoc, List.cons_append]
      rw [readIpv6Addr_colons (fun segment there => small segment (List.mem_of_mem_take there))
        (by omega) tail]
      have gap : 8 - ((segments ip).take zeroes.start).length -
          ((segments ip).drop (zeroes.start + zeroes.len)).length = zeroes.len := by omega
      rw [gap, whole, ofGroups_segments]
    · have read := readGroups_segments ended (segments ip) small 0 8 eight.le
      unfold readIpv6Addr fmtSubslice
      rw [read]
      dsimp only
      rw [if_pos eight, ofGroups_segments]

end Ipv6

/-! ## Socket addresses -/

section SocketAddr
variable {rest : Bytes}

theorem readPort_text (port : UInt16) (ended : NoDigit 10 rest) :
    readPort (colon :: (numberText 10 port.toNat ++ rest)) = some (port, rest) := by
  unfold readPort
  rw [readGivenChar_colon]
  change (readNumber (2 ^ 16) 10 none true _ >>= _) = _
  rw [readNumber_text (by decide) (by decide) port.toNat_lt
    (fun _ there => absurd there (Option.not_mem_none _)) ended]
  change some (UInt16.ofNat port.toNat, rest) = _
  rw [UInt16.ofNat_toNat]

theorem readScopeId_text (scopeId : UInt32) (ended : NoDigit 10 rest) :
    readScopeId ('%'.toUInt8 :: (numberText 10 scopeId.toNat ++ rest)) = some (scopeId, rest) := by
  unfold readScopeId
  rw [readGivenChar_self]
  change (readNumber (2 ^ 32) 10 none true _ >>= _) = _
  rw [readNumber_text (by decide) (by decide) scopeId.toNat_lt
    (fun _ there => absurd there (Option.not_mem_none _)) ended]
  change some (UInt32.ofNat scopeId.toNat, rest) = _
  rw [UInt32.ofNat_toNat]

theorem segmentsEnd_cons {b : UInt8} (noDigit : toDigit 16 b = none) (noDot : b ≠ dot)
    (noColon : b ≠ colon) : SegmentsEnd (b :: rest) where
  noDigit := noDigit_cons noDigit
  noDot b' there := by
    obtain rfl := Option.some.inj there
    exact noDot
  colons _ same := absurd (List.cons.inj same).1 noColon

/-- `parse` of what `Display` prints. -/
theorem parseSocketAddr_v4Text (addr : SocketAddrV4) :
    parseSocketAddr (socketAddrV4Text addr) = some (.v4 addr) := by
  have port := readPort_text addr.port noDigit_nil
  rw [List.append_nil] at port
  have read : readSocketAddrV4 (socketAddrV4Text addr) = some (addr, []) := by
    unfold readSocketAddrV4 socketAddrV4Text
    rw [readIpv4Addr_text addr.ip (noDigit_cons (by decide))]
    change (readPort (colon :: numberText 10 addr.port.toNat) >>= _) = _
    rw [port]
    rfl
  unfold parseSocketAddr readSocketAddr
  rw [read]

theorem readSocketAddrV6_text (addr : SocketAddrV6) (plain : addr.flowinfo = 0) :
    readSocketAddrV6 (socketAddrV6Text addr) = some (addr, []) := by
  obtain ⟨ip, port, flowinfo, scopeId⟩ := addr
  obtain rfl : flowinfo = 0 := plain
  have port_read := readPort_text port noDigit_nil
  rw [List.append_nil] at port_read
  unfold readSocketAddrV6 socketAddrV6Text
  dsimp only
  rw [readGivenChar_self]
  change (readIpv6Addr (ipv6Text ip ++ _) >>= _) = _
  split_ifs with zero
  · obtain rfl := zero
    have scope : readScopeId (']'.toUInt8 :: colon :: numberText 10 port.toNat) = none := rfl
    rw [List.nil_append,
      readIpv6Addr_text ip (segmentsEnd_cons (by decide) (by decide) (by decide))]
    simp only [Option.bind_eq_bind, Option.bind_some, scope, Option.getD_none, readGivenChar_self,
      port_read]
    rfl
  · have ended : NoDigit 10 (']'.toUInt8 :: colon :: numberText 10 port.toNat) :=
      noDigit_cons (by decide)
    have scope := readScopeId_text scopeId ended
    rw [List.cons_append,
      readIpv6Addr_text ip (segmentsEnd_cons (by decide) (by decide) (by decide))]
    simp only [Option.bind_eq_bind, Option.bind_some, scope, Option.getD_some, readGivenChar_self,
      port_read]
    rfl

theorem parseSocketAddr_v6Text (addr : SocketAddrV6) (plain : addr.flowinfo = 0) :
    parseSocketAddr (socketAddrV6Text addr) = some (.v6 addr) := by
  have other : readSocketAddrV4 (socketAddrV6Text addr) = none := by
    unfold readSocketAddrV4 socketAddrV6Text
    dsimp only
    rw [readIpv4Addr_noDigit (noDigit_cons (by decide))]
    rfl
  unfold parseSocketAddr readSocketAddr
  rw [other, readSocketAddrV6_text addr plain]
  rfl

end SocketAddr

end Ombrac.SocketAddrText
