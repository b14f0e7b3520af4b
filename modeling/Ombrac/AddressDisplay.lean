import Ombrac.SocketAddrPort

set_option autoImplicit false

/-!
# Addresses to text and back

`Display` prints a socket address as the standard library does, a domain with its port behind a
colon. Reading the text tries the grammar of socket addresses first, then that of domains, and the
second takes ports with a sign that the first refuses.
-/
namespace Ombrac.AddressDisplay
open ProtocolPacket BinaryFormat AddressText SocketAddrText SocketAddrPort

/-! ## Display -/

def isContinuation (b : UInt8) : Bool := 0x80 ≤ b && b ≤ 0xbf

def secondFollows (first second : UInt8) : Bool :=
  if first = 0xe0 then 0xa0 ≤ second && second ≤ 0xbf
  else if first = 0xed then 0x80 ≤ second && second ≤ 0x9f
  else if first = 0xf0 then 0x90 ≤ second && second ≤ 0xbf
  else if first = 0xf4 then 0x80 ≤ second && second ≤ 0x8f
  else 0xe1 ≤ first && first ≤ 0xf3 && isContinuation second

/-- The bytes of an invalid sequence that are replaced together. -/
def invalidLen : Bytes → ℕ
  | first :: second :: rest =>
    if secondFollows first second then
      if 0xf0 ≤ first && rest.head?.any isContinuation then 3 else 2
    else 1
  | _ => 1

def lossyChars : ℕ → Bytes → List Char
  | 0, _ => []
  | _ + 1, [] => []
  | n + 1, b :: rest =>
    match (b :: rest).toByteArray.utf8DecodeChar? 0 with
    | some c => c :: lossyChars n ((b :: rest).drop c.utf8Size)
    | none => Char.ofNat 0xfffd :: lossyChars n ((b :: rest).drop (invalidLen (b :: rest)))

def fromUtf8Lossy (text : Bytes) : String := String.ofList (lossyChars text.length text)

def asciiString (text : Bytes) : String := String.ofList (text.map Char.ofUInt8)

def display : Address → String
  | .domain domain port =>
    fromUtf8Lossy domain ++ ":" ++ asciiString (numberText 10 port.toNat)
  | .socketV4 addr => asciiString (socketAddrV4Text addr)
  | .socketV6 addr => asciiString (socketAddrV6Text addr)

/-! ## Texts and their bytes -/

def encoded (chars : List Char) : Bytes := chars.flatMap String.utf8EncodeChar

theorem utf8Bytes_ofList (chars : List Char) : utf8Bytes (String.ofList chars) = encoded chars := by
  unfold utf8Bytes encoded
  rw [String.toUTF8_eq_toByteArray, String.toByteArray_ofList, List.utf8Encode,
    List.data_toByteArray]

theorem utf8Bytes_eq_encoded (value : String) : utf8Bytes value = encoded value.toList := by
  rw [← utf8Bytes_ofList, String.ofList_toList]

theorem utf8Bytes_append (value value' : String) :
    utf8Bytes (value ++ value') = utf8Bytes value ++ utf8Bytes value' := by
  simp only [utf8Bytes_eq_encoded, String.toList_append, encoded, List.flatMap_append]

theorem lossyChars_encoded (chars : List Char) : ∀ n, (encoded chars).length ≤ n →
    lossyChars n (encoded chars) = chars := by
  induction chars with
  | nil =>
    intro n _
    cases n <;> rfl
  | cons c chars ih =>
    intro n room
    have first : encoded (c :: chars) = String.utf8EncodeChar c ++ encoded chars := rfl
    have size : (String.utf8EncodeChar c).length = c.utf8Size := String.length_utf8EncodeChar c
    have positive := c.utf8Size_pos
    have decoded : (encoded (c :: chars)).toByteArray.utf8DecodeChar? 0 = some c := by
      rw [first, List.toByteArray_append]
      exact ByteArray.utf8DecodeChar?_utf8EncodeChar_append
    have behind : (encoded (c :: chars)).drop c.utf8Size = encoded chars := by
      rw [first, ← size, List.drop_left]
    have length := congrArg List.length first
    rw [List.length_append] at length
    cases same : encoded (c :: chars) with
    | nil =>
      rw [same, List.length_nil] at length
      omega
    | cons b rest =>
      rw [same] at decoded behind length room
      cases n with
      | zero => exact absurd room (Nat.not_succ_le_zero _)
      | succ n =>
        rw [lossyChars, decoded]
        dsimp only
        rw [behind, ih n (by omega)]

theorem fromUtf8Lossy_encoded (chars : List Char) :
    utf8Bytes (fromUtf8Lossy (encoded chars)) = encoded chars := by
  unfold fromUtf8Lossy
  rw [lossyChars_encoded chars _ le_rfl, utf8Bytes_ofList]

def Ascii (text : Bytes) : Prop := ∀ b ∈ text, b < 128

theorem utf8Bytes_asciiString {text : Bytes} (ascii : Ascii text) :
    utf8Bytes (asciiString text) = text := by
  unfold asciiString
  rw [utf8Bytes_ofList]
  induction text with
  | nil => rfl
  | cons b text ih =>
    have small : (Char.ofUInt8 b).val.toNat ≤ 127 :=
      Nat.le_of_lt_succ (UInt8.lt_iff_toNat_lt.1 (ascii b List.mem_cons_self))
    have single : String.utf8EncodeChar (Char.ofUInt8 b) = [b] := by
      have size : (Char.ofUInt8 b).utf8Size = 1 :=
        Char.utf8Size_eq_one_iff.2 (UInt32.le_iff_toNat_le.2 small)
      rw [String.utf8EncodeChar_eq_singleton size, List.cons.injEq]
      exact ⟨UInt8.toUInt8_toUInt32 b, rfl⟩
    have rest := ih fun b' there => ascii b' (List.mem_cons_of_mem b there)
    rw [List.map_cons, encoded, List.flatMap_cons, single, ← encoded, rest]
    rfl

/-- The byte of a colon stands for a colon only. -/
theorem colon_mem_utf8EncodeChar {c : Char} (there : colon ∈ String.utf8EncodeChar c) :
    c = ':' := by
  have bytes : ∀ n, colon = UInt8.ofNat n ↔ n % 256 = 58 := fun n =>
    UInt8.toNat_inj.symm.trans eq_comm
  unfold String.utf8EncodeChar at there
  dsimp only at there
  split_ifs at there with one two three
  · have value := (bytes _).1 (List.mem_singleton.1 there)
    refine Char.ext (UInt32.toNat.inj ?_)
    change c.val.toNat = 58
    omega
  all_goals
    simp only [List.mem_cons, List.not_mem_nil, or_false, bytes] at there
    omega

theorem numberText_ascii {radix : ℕ} (base : 1 < radix) (base' : radix ≤ 16) (n : ℕ) :
    Ascii (numberText radix n) := by
  intro b there
  have digit := numberText_digit base base' there
  unfold toDigit at digit
  dsimp only at digit
  rw [UInt8.lt_iff_toNat_lt]
  change b.toNat < 128
  split_ifs at digit
  all_goals first | omega | exact absurd rfl digit

theorem ipv4Text_ascii (ip : Ipv4Addr) : Ascii (ipv4Text ip) := by
  unfold ipv4Text
  have number := numberText_ascii (show 1 < 10 by decide) (by decide)
  simp only [Ascii, List.forall_mem_append, List.forall_mem_cons]
  exact ⟨number _, by decide, number _, by decide, number _, by decide, number _⟩

theorem segmentsText_ascii (segments : List ℕ) : ∀ i, Ascii (segmentsText i segments) := by
  have number := numberText_ascii (show 1 < 16 by decide) (by decide)
  induction segments with
  | nil => exact fun _ _ there => absurd there List.not_mem_nil
  | cons segment segments ih =>
    intro i
    cases i with
    | zero => exact List.forall_mem_append.2 ⟨number segment, ih 1⟩
    | succ i =>
      exact List.forall_mem_cons.2
        ⟨by decide, List.forall_mem_append.2 ⟨number segment, ih (i + 2)⟩⟩

theorem ipv6Text_ascii (ip : Ipv6Addr) : Ascii (ipv6Text ip) := by
  have chunk : ∀ segments, Ascii (fmtSubslice segments) := fun segments =>
    segmentsText_ascii segments 0
  unfold ipv6Text
  split
  · simp only [Ascii, List.forall_mem_append, List.forall_mem_cons]
    exact ⟨by decide, by decide, numberText_ascii (by decide) (by decide) _, by decide,
      ipv4Text_ascii _⟩
  · dsimp only
    split_ifs
    · simp only [Ascii, List.forall_mem_append, List.forall_mem_cons]
      exact ⟨chunk _, by decide, by decide, chunk _⟩
    · exact chunk _

theorem utf8Bytes_display_v4 (addr : SocketAddrV4) :
    utf8Bytes (display (.socketV4 addr)) = socketAddrV4Text addr := by
  refine utf8Bytes_asciiString ?_
  simp only [socketAddrV4Text, Ascii, List.forall_mem_append, List.forall_mem_cons]
  exact ⟨ipv4Text_ascii _, by decide, numberText_ascii (by decide) (by decide) _⟩

theorem utf8Bytes_display_v6 (addr : SocketAddrV6) :
    utf8Bytes (display (.socketV6 addr)) = socketAddrV6Text addr := by
  have number := numberText_ascii (show 1 < 10 by decide) (by decide)
  refine utf8Bytes_asciiString ?_
  simp only [socketAddrV6Text, Ascii, List.forall_mem_append, List.forall_mem_cons]
  refine ⟨by decide, ipv6Text_ascii _, ?_, by decide, by decide, number _⟩
  split_ifs
  · exact fun _ there => absurd there List.not_mem_nil
  · exact List.forall_mem_cons.2 ⟨by decide, number _⟩

/-! ## The last colon -/

theorem rsplitOnce_none_iff {text : Bytes} : rsplitOnce ':' text = none ↔ colon ∉ text := by
  induction text with
  | nil => exact iff_of_true rfl List.not_mem_nil
  | cons b text ih =>
    rw [List.mem_cons, not_or, ← ih, rsplitOnce]
    cases rsplitOnce ':' text with
    | some parts => exact iff_of_false (Option.some_ne_none _) fun h => Option.some_ne_none _ h.2
    | none =>
      dsimp only
      rw [ite_eq_right_iff, and_iff_left rfl]
      exact ⟨fun h same => Option.some_ne_none _ (h same.symm), fun h same => absurd same.symm h⟩

theorem rsplitOnce_last {back : Bytes} (absent : colon ∉ back) (front : Bytes) :
    rsplitOnce ':' (front ++ colon :: back) = some (front, back) := by
  induction front with
  | nil =>
    rw [List.nil_append, rsplitOnce, rsplitOnce_none_iff.2 absent]
    rfl
  | cons b front ih => rw [List.cons_append, rsplitOnce, ih]

theorem rsplitOnce_some {text front back : Bytes}
    (split : rsplitOnce ':' text = some (front, back)) :
    text = front ++ colon :: back ∧ colon ∉ back := by
  induction text generalizing front with
  | nil => cases split
  | cons b text ih =>
    rw [rsplitOnce] at split
    cases rest : rsplitOnce ':' text with
    | some parts =>
      rw [rest] at split
      cases split
      obtain ⟨rfl, absent⟩ := ih rest
      exact ⟨rfl, absent⟩
    | none =>
      rw [rest] at split
      dsimp only at split
      split_ifs at split with same
      cases split
      obtain rfl := same
      exact ⟨rfl, rsplitOnce_none_iff.1 rest⟩

/-- What stands before a colon of a text is a text. -/
theorem encoded_before_colon {chars : List Char} : ∀ {front back : Bytes},
    encoded chars = front ++ colon :: back → ∃ chars', front = encoded chars' := by
  induction chars with
  | nil =>
    exact fun h => absurd h.symm (List.append_ne_nil_of_right_ne_nil _ (List.cons_ne_nil _ _))
  | cons c chars ih =>
    intro front back same
    rw [encoded, List.flatMap_cons, ← encoded] at same
    obtain ⟨rest, rfl, behind⟩ | ⟨rest, first, behind⟩ := List.append_eq_append_iff.1 same
    · obtain ⟨chars', rfl⟩ := ih behind
      exact ⟨c :: chars', rfl⟩
    · cases rest with
      | nil =>
        rw [List.append_nil] at first
        exact ⟨[c], first.symm.trans (List.flatMap_singleton _ c).symm⟩
      | cons b rest =>
        obtain rfl := (List.cons.inj behind).1
        have there : colon ∈ String.utf8EncodeChar c :=
          first ▸ List.mem_append_right front List.mem_cons_self
        obtain rfl := colon_mem_utf8EncodeChar there
        have size := congrArg List.length first
        change 1 = _ at size
        rw [List.length_append, List.length_cons] at size
        exact ⟨[], List.length_eq_zero_iff.1 (by omega)⟩

/-! ## Signed ports -/

/-- A text without the plus sign before a digit or something else. -/
def withoutSign : Bytes → Bytes
  | sign :: digit :: rest => if sign = '+'.toUInt8 then digit :: rest else sign :: digit :: rest
  | value => value

theorem parseU16_eq (value : Bytes) :
    parseU16 value = (digitsText (withoutSign value)).bind fun n =>
      if n < 2 ^ 16 then some (UInt16.ofNat n) else none := by
  unfold digitsText
  obtain _ | ⟨sign, _ | ⟨digit, rest⟩⟩ := value
  · rfl
  · unfold parseU16 withoutSign
    dsimp only
    obtain ⟨_ | ⟨digit, digits⟩, _ | ⟨b, rest⟩⟩ := readDigits 10 [sign] <;> rfl
  · unfold parseU16 withoutSign
    dsimp only
    generalize (if sign = '+'.toUInt8 then digit :: rest else sign :: digit :: rest) = unsigned
    obtain ⟨_ | ⟨digit, digits⟩, _ | ⟨b, rest⟩⟩ := readDigits 10 unsigned <;> rfl

theorem withoutSign_eq (value : Bytes) :
    withoutSign value = value ∨ value = '+'.toUInt8 :: withoutSign value := by
  match value with
  | [] => exact .inl rfl
  | [_] => exact .inl rfl
  | sign :: digit :: rest =>
    rw [withoutSign]
    split_ifs with plus
    · exact .inr (by rw [plus])
    · exact .inl rfl

theorem parseU16_some {value : Bytes} {port : UInt16} (parsed : parseU16 value = some port) :
    digitsText (withoutSign value) = some port.toNat := by
  rw [parseU16_eq] at parsed
  obtain ⟨n, digits, same⟩ := Option.bind_eq_some_iff.1 parsed
  split_ifs at same with small
  rw [digits, ← Option.some.inj same, UInt16.toNat_ofNat_of_lt' small]

theorem withoutSign_digits {digits : Bytes} {n : ℕ} (number : digitsText digits = some n) :
    withoutSign digits = digits := by
  have absent := digitsText_not_mem number (show toDigit 10 '+'.toUInt8 = none by decide)
  obtain same | signed := withoutSign_eq digits
  · exact same
  · rw [signed] at absent
    exact absurd List.mem_cons_self absent

theorem parseU16_digits {digits : Bytes} {port : UInt16}
    (number : digitsText digits = some port.toNat) : parseU16 digits = some port := by
  rw [parseU16_eq, withoutSign_digits number, number]
  change (if port.toNat < 2 ^ 16 then _ else _) = _
  rw [if_pos port.toNat_lt, UInt16.ofNat_toNat]

/-! ## Printing and reading -/

/-- The port has a plus sign without which the text is a socket address. -/
def signedSocketAddr (value : Bytes) : Bool :=
  match rsplitOnce ':' value with
  | some (host, sign :: port) =>
    sign = '+'.toUInt8 && (digitsText port).isSome &&
      (parseSocketAddr (host ++ colon :: port)).isSome
  | _ => false

section Stable
variable {value : String} {addr : Address}

theorem tryFromStr_socketAddr {a : SocketAddr}
    (parsed : parseSocketAddr (utf8Bytes value) = some a) :
    tryFromStr value = .ok (.ofSocketAddr a) := by
  unfold tryFromStr
  rw [parsed]

/-- A socket address is read back from its text. -/
theorem tryFromStr_display_socketAddr {a : SocketAddr} (plain : ∀ b, a = .v6 b → b.flowinfo = 0) :
    tryFromStr (display (.ofSocketAddr a)) = .ok (.ofSocketAddr a) := by
  refine tryFromStr_socketAddr ?_
  cases a with
  | v4 a =>
    exact (congrArg parseSocketAddr (utf8Bytes_display_v4 a)).trans (parseSocketAddr_v4Text a)
  | v6 a =>
    exact (congrArg parseSocketAddr (utf8Bytes_display_v6 a)).trans
      (parseSocketAddr_v6Text a (plain a rfl))

theorem signedSocketAddr_false {a : SocketAddr} {text : Bytes}
    (parsed : parseSocketAddr text = some a) : signedSocketAddr text = false := by
  obtain ⟨_, front, digits, n, rfl, number⟩ := parseSocketAddr_some parsed
  have absent := digitsText_not_mem number (show toDigit 10 colon = none by decide)
  have plus := digitsText_not_mem number (show toDigit 10 '+'.toUInt8 = none by decide)
  unfold signedSocketAddr
  rw [rsplitOnce_last absent]
  cases digits with
  | nil => rfl
  | cons sign digits =>
    have other := (List.ne_and_not_mem_of_not_mem_cons plus).1.symm
    dsimp only
    rw [decide_eq_false other]
    rfl

theorem tryFromStr_domain_some (refused : parseSocketAddr (utf8Bytes value) = none)
    (parsed : tryFromStr value = .ok addr) :
    ∃ name port text, addr = .domain name port ∧
      rsplitOnce ':' (utf8Bytes value) = some (name, text) ∧ parseU16 text = some port ∧
      name ≠ [] ∧ name.length ≤ maxDomainLength := by
  unfold tryFromStr at parsed
  rw [refused] at parsed
  dsimp only at parsed
  split at parsed
  · cases parsed
  · rename_i name port found
    split_ifs at parsed with empty long
    cases parsed
    obtain ⟨⟨front, text⟩, split, found⟩ := Option.bind_eq_some_iff.1 found
    obtain ⟨port', number, last⟩ := Option.bind_eq_some_iff.1 found
    cases last
    exact ⟨name, port, text, rfl, split, number, empty, Nat.le_of_not_lt long⟩

theorem tryFromStr_domain {name text : Bytes} {port : UInt16}
    (refused : parseSocketAddr (utf8Bytes value) = none)
    (split : rsplitOnce ':' (utf8Bytes value) = some (name, text))
    (number : parseU16 text = some port) (nonempty : name ≠ [])
    (short : name.length ≤ maxDomainLength) : tryFromStr value = .ok (.domain name port) := by
  have found : domainPort (utf8Bytes value) = some (name, port) := by
    unfold domainPort
    rw [split]
    exact congrArg (Option.bind · _) number
  unfold tryFromStr
  rw [refused, found]
  dsimp only
  rw [if_neg nonempty, if_neg (Nat.not_lt_of_le short)]

theorem utf8Bytes_display_domain {name text : Bytes}
    (before : utf8Bytes value = name ++ colon :: text) (port : UInt16) :
    utf8Bytes (display (.domain name port)) = name ++ colon :: numberText 10 port.toNat := by
  obtain ⟨chars, rfl⟩ := encoded_before_colon ((utf8Bytes_eq_encoded value).symm.trans before)
  unfold display
  rw [utf8Bytes_append, utf8Bytes_append, fromUtf8Lossy_encoded,
    utf8Bytes_asciiString (numberText_ascii (by decide) (by decide) _), List.append_assoc]
  rfl

/-- Of the texts that are no socket address those with a plus sign too many are signed. -/
theorem signedSocketAddr_iff {text name port : Bytes} {n : ℕ}
    (refused : parseSocketAddr text = none) (split : rsplitOnce ':' text = some (name, port))
    (number : digitsText (withoutSign port) = some n) :
    signedSocketAddr text ↔ (parseSocketAddr (name ++ colon :: withoutSign port)).isSome := by
  obtain ⟨before, _⟩ := rsplitOnce_some split
  unfold signedSocketAddr
  rw [split]
  obtain plain | signed := withoutSign_eq port
  · rw [plain, ← before, refused]
    rw [plain] at number
    have plus := digitsText_not_mem number (show toDigit 10 '+'.toUInt8 = none by decide)
    cases port with
    | nil => exact Iff.rfl
    | cons sign port =>
      have other := (List.ne_and_not_mem_of_not_mem_cons plus).1.symm
      dsimp only
      rw [decide_eq_false other]
      exact Iff.rfl
  · generalize withoutSign port = digits at signed number
    obtain rfl := signed
    dsimp only
    rw [number, decide_eq_true rfl, Option.isSome_some, Bool.true_and, Bool.true_and]

/-- An address that was read is read back from its text exactly if it was not written as a socket
address with a plus sign before its port. -/
theorem display_stable_iff (parsed : tryFromStr value = .ok addr) :
    tryFromStr (display addr) = .ok addr ↔ ¬ signedSocketAddr (utf8Bytes value) := by
  cases whole : parseSocketAddr (utf8Bytes value) with
  | some a =>
    have same := Except.ok.inj ((tryFromStr_socketAddr whole).symm.trans parsed)
    rw [← same, signedSocketAddr_false whole]
    exact iff_of_true (tryFromStr_display_socketAddr (parseSocketAddr_some whole).1)
      Bool.false_ne_true
  | none =>
    obtain ⟨name, port, text, rfl, split, number, nonempty, short⟩ :=
      tryFromStr_domain_some whole parsed
    have value_digits := parseU16_some number
    have printed_digits := digitsText_number port.toNat
    have printed := utf8Bytes_display_domain (rsplitOnce_some split).1 port
    -- The printed port has the value of the given one, so that one text is a socket address if the
    -- other is.
    have same := parseSocketAddr_sameValue printed_digits value_digits name
    rw [signedSocketAddr_iff whole split value_digits, ← same, ← printed]
    cases again : parseSocketAddr (utf8Bytes (display (.domain name port))) with
    | some a =>
      refine iff_of_false (fun stable => ?_) (not_not_intro rfl)
      have other := Except.ok.inj ((tryFromStr_socketAddr again).symm.trans stable)
      cases a <;> cases other
    | none =>
      have absent := digitsText_not_mem printed_digits (show toDigit 10 colon = none by decide)
      refine iff_of_true ?_ Bool.false_ne_true
      refine tryFromStr_domain again ?_ (parseU16_digits printed_digits) nonempty short
      rw [printed, rsplitOnce_last absent]

end Stable

theorem display_stable_iff_domain :
    tryFromStr (display (.domain (utf8Bytes "example.com") 443)) =
        .ok (.domain (utf8Bytes "example.com") 443) ↔
      ¬ signedSocketAddr (utf8Bytes "example.com:+443") :=
  display_stable_iff rfl

/-- The port of `1.2.3.4:+80` is refused by the first grammar, and printed without its sign. -/
theorem signed_port_unstable :
    ¬ ∀ value addr, tryFromStr value = .ok addr → tryFromStr (display addr) = .ok addr := by
  intro stable
  have parsed : tryFromStr "1.2.3.4:+80" = .ok (.domain (utf8Bytes "1.2.3.4") 80) := rfl
  have again := stable _ _ parsed
  cases again

end Ombrac.AddressDisplay
