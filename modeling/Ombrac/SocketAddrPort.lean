import Ombrac.DelimitedParser
import Ombrac.SocketAddrText

set_option autoImplicit false

/-!
# The port of a socket address

No part of the parser reads over the colon before the port without reading the port itself, so that
a text is a socket address or not by the value of its port alone.
-/
namespace Ombrac.SocketAddrPort
open ProtocolPacket BinaryFormat AddressText SocketAddrText DelimitedParser

/-! ## Ports -/

def digitsText (text : Bytes) : Option ℕ :=
  match readDigits 10 text with
  | (digit :: digits, []) => some (digitsValue 10 (digit :: digits))
  | _ => none

theorem readDigits_all {text : Bytes} (whole : (readDigits 10 text).2 = []) :
    ∀ b ∈ text, toDigit 10 b ≠ none := by
  induction text with
  | nil => exact fun _ there => absurd there List.not_mem_nil
  | cons b text ih =>
    rw [readDigits] at whole
    cases digit : toDigit 10 b with
    | none =>
      rw [digit] at whole
      cases whole
    | some d =>
      rw [digit] at whole
      refine List.forall_mem_cons.2 ⟨?_, ih whole⟩
      rw [digit]
      exact Option.some_ne_none d

theorem digitsText_eq {text : Bytes} {n : ℕ} (digits : digitsText text = some n) :
    (readDigits 10 text).2 = [] ∧ (readDigits 10 text).1 ≠ [] ∧
      digitsValue 10 (readDigits 10 text).1 = n := by
  unfold digitsText at digits
  split at digits
  · rename_i digit ds same
    rw [same]
    exact ⟨rfl, List.cons_ne_nil _ _, Option.some.inj digits⟩
  · cases digits

theorem digitsText_not_mem {text : Bytes} {n : ℕ} (digits : digitsText text = some n) {b : UInt8}
    (other : toDigit 10 b = none) : b ∉ text :=
  fun there => readDigits_all (digitsText_eq digits).1 b there other

theorem digitsText_number (n : ℕ) : digitsText (numberText 10 n) = some n := by
  have small : ∀ d ∈ digitsOf 10 n, d < 10 := digitsOf_lt (by decide)
  have read := readDigits_map (by decide) small noDigit_nil
  rw [List.append_nil, ← numberText_eq_map (by decide)] at read
  unfold digitsText
  rw [read]
  cases same : digitsOf 10 n with
  | nil => exact absurd same digitsOf_ne_nil
  | cons digit digits =>
    dsimp only
    rw [← same, digitsOf_value]

theorem readPort_digits {digits : Bytes} {n : ℕ} (number : digitsText digits = some n) :
    readPort (colon :: digits) = if n < 2 ^ 16 then some (UInt16.ofNat n, []) else none := by
  obtain ⟨whole, some_digit, value⟩ := digitsText_eq number
  unfold readPort
  rw [readGivenChar_colon]
  change (readNumber (2 ^ 16) 10 none true digits >>= _) = _
  unfold readNumber
  dsimp only
  rw [if_neg some_digit, Option.any_none, if_neg Bool.false_ne_true, Bool.not_true, Bool.false_and,
    Bool.false_and, if_neg Bool.false_ne_true, value, whole]
  split_ifs <;> rfl

/-! ## Where the parsers stop -/

section Stops
variable {d : UInt8}

theorem stops_givenChar {c : Char} (other : d ≠ c.toUInt8) : Stops d (readGivenChar c) where
  suffix := by
    intro input a rest read
    cases input with
    | nil => cases read
    | cons b input =>
      change (if b = c.toUInt8 then some ((), input) else none) = _ at read
      split_ifs at read
      cases read
      exact List.suffix_cons b _
  stop input behind := by
    cases input with
    | nil => exact readGivenChar_other other behind
    | cons b input =>
      unfold readGivenChar
      dsimp only [List.cons_append]
      split_ifs <;> rfl

theorem readDigits_suffix (radix : ℕ) (input : Bytes) : (readDigits radix input).2 <:+ input := by
  induction input with
  | nil => exact List.suffix_refl _
  | cons b input ih =>
    rw [readDigits]
    cases toDigit radix b with
    | none => exact List.suffix_refl _
    | some digit => exact ih.trans (List.suffix_cons b input)

theorem readDigits_stop {radix : ℕ} (other : toDigit radix d = none) (input behind : Bytes) :
    readDigits radix (input ++ d :: behind) =
      ((readDigits radix input).1, (readDigits radix input).2 ++ d :: behind) := by
  induction input with
  | nil => exact readDigits_noDigit (noDigit_cons other)
  | cons b input ih =>
    rw [List.cons_append, readDigits, readDigits]
    cases toDigit radix b with
    | none => rfl
    | some digit =>
      dsimp only
      rw [ih]

theorem stops_number {bound radix : ℕ} {maxDigits : Option ℕ} {allowZeroPrefix : Bool}
    (other : toDigit radix d = none) :
    Stops d (readNumber bound radix maxDigits allowZeroPrefix) where
  suffix read := readNumber_rest read ▸ readDigits_suffix radix _
  stop input behind := by
    unfold readNumber
    dsimp only
    rw [readDigits_stop other]
    dsimp only
    split_ifs <;> rfl

theorem stops_separator {α : Type} {sep : Char} {inner : Parser α} (stops : Stops d inner)
    (other : d ≠ sep.toUInt8) (i : ℕ) : Stops d (readSeparator sep i inner) := by
  cases i with
  | zero => exact stops
  | succ i => exact (stops_givenChar other).andThen fun _ => stops

theorem stops_ipv4Addr (other : d ≠ dot) (noDigit : toDigit 10 d = none) :
    Stops d readIpv4Addr := by
  have group : ∀ i, Stops d (readIpv4Group i) := stops_separator (stops_number noDigit) other
  exact (group 0).andThen fun a => (group 1).andThen fun b => (group 2).andThen fun c =>
    (group 3).andThen fun e =>
      .done (Ipv4Addr.mk (UInt32.ofNat (((a * 256 + b) * 256 + c) * 256 + e)))

/-- The groups and whether the last are an IPv4 address, as one value. -/
def groupsParser (i places : ℕ) : Parser (List ℕ × Bool) := fun p =>
  some (((readGroups i places p).1, (readGroups i places p).2.1), (readGroups i places p).2.2)

theorem stops_groups (other : d ≠ dot) (other' : d ≠ colon) (noDigit : toDigit 10 d = none)
    (noDigit' : toDigit 16 d = none) (places : ℕ) : ∀ i, Stops d (groupsParser i places) := by
  induction places with
  | zero => exact fun i => .done ([], false)
  | succ places ih =>
    intro i
    have ipv4 : Stops d (fun p =>
        if places = 0 then none else readSeparator ':' i readIpv4Addr p) := by
      split_ifs
      · exact .fail
      · exact stops_separator (stops_ipv4Addr other noDigit) other' i
    have number : Stops d (readSeparator ':' i (readNumber (2 ^ 16) 16 (some 4) true)) :=
      stops_separator (stops_number noDigit') other' i
    have ways := (ipv4.andThen fun ip =>
        .done ([ip.bits.toNat / 65536, ip.bits.toNat % 65536], true)).orElse
      ((number.andThen fun group => (ih (i + 1)).andThen fun groups =>
        .done (group :: groups.1, groups.2)).orElse (.done ([], false)))
    refine cast (congrArg (Stops d) (funext fun p => ?_)) ways
    simp only [groupsParser, readGroups, andThen]
    cases (if places = 0 then none else readSeparator ':' i readIpv4Addr p) with
    | some ip => rfl
    | none =>
      cases readSeparator ':' i (readNumber (2 ^ 16) 16 (some 4) true) p with
      | some group => rfl
      | none => rfl

theorem stops_ipv6Addr (other : d ≠ dot) (other' : d ≠ colon) (noDigit : toDigit 10 d = none)
    (noDigit' : toDigit 16 d = none) : Stops d readIpv6Addr := by
  have groups := stops_groups other other' noDigit noDigit'
  have char : Stops d (readGivenChar ':') := stops_givenChar other'
  have behind : ∀ head : List ℕ × Bool, Stops d (fun p =>
      if head.1.length = 8 then some (ofGroups head.1, p)
      else if head.2 then none
      else (andThen (readGivenChar ':') fun _ => andThen (readGivenChar ':') fun _ =>
        andThen (groupsParser 0 (8 - (head.1.length + 1))) fun tail p =>
          some (ofGroups (head.1 ++ List.replicate (8 - head.1.length - tail.1.length) 0 ++ tail.1),
            p)) p) := by
    intro head
    split_ifs
    · exact .done _
    · exact .fail
    · exact char.andThen fun _ => char.andThen fun _ => (groups _ 0).andThen fun _ => .done _
  exact (groups 8 0).andThen behind

def readBracketed : Parser (Ipv6Addr × UInt32) :=
  andThen (readGivenChar '[') fun _ => andThen readIpv6Addr fun ip =>
    andThen (orDefault 0 readScopeId) fun scopeId p => some ((ip, scopeId), p)

theorem stops_bracketed : Stops ']'.toUInt8 readBracketed := by
  have ip : Stops ']'.toUInt8 readIpv6Addr :=
    stops_ipv6Addr (by decide) (by decide) (by decide) (by decide)
  have scope : Stops ']'.toUInt8 readScopeId :=
    (stops_givenChar (by decide)).andThen fun _ => (stops_number (by decide)).andThen fun scope =>
      .done (UInt32.ofNat scope)
  exact (stops_givenChar (by decide)).andThen fun _ => ip.andThen fun ip =>
    (scope.orDefault 0).andThen fun scopeId => .done (ip, scopeId)

theorem readSocketAddrV6_eq : readSocketAddrV6 =
    andThen readBracketed fun host => andThen (readGivenChar ']') fun _ =>
      andThen readPort fun port p => some (⟨host.1, port, 0, host.2⟩, p) := by
  funext p
  unfold readSocketAddrV6 readBracketed andThen orDefault
  simp only [Option.bind_eq_bind, Option.bind_assoc, Option.bind_some]
  rfl

end Stops

/-! ## The port of a socket address -/

section Port
variable {digits digits' : Bytes} {n : ℕ}

theorem readPort_alike (number : digitsText digits = some n) (number' : digitsText digits' = some n)
    (text : Bytes) :
    Alike (colon :: digits) (colon :: digits') (readPort (text ++ colon :: digits))
      (readPort (text ++ colon :: digits')) := by
  cases text with
  | nil =>
    rw [List.nil_append, List.nil_append, readPort_digits number, readPort_digits number']
    split_ifs
    · exact .read _
    · exact .refused
  | cons b text =>
    by_cases same : b = colon
    · obtain rfl := same
      have stops : Stops colon (andThen (readNumber (2 ^ 16) 10 none true) fun port p =>
          some (UInt16.ofNat port, p)) :=
        (stops_number (by decide)).andThen fun port => .done (UInt16.ofNat port)
      exact stops.alike text
    · have refused : ∀ rest, readPort (b :: rest) = none := by
        intro rest
        unfold readPort
        rw [readGivenChar_other same]
        rfl
      rw [List.cons_append, List.cons_append, refused, refused]
      exact .refused

theorem readSocketAddrV4_alike (number : digitsText digits = some n)
    (number' : digitsText digits' = some n) (host : Bytes) :
    Alike (colon :: digits) (colon :: digits') (readSocketAddrV4 (host ++ colon :: digits))
      (readSocketAddrV4 (host ++ colon :: digits')) := by
  have stops : Stops colon readIpv4Addr := stops_ipv4Addr (by decide) (by decide)
  unfold readSocketAddrV4
  rw [stops.stop, stops.stop]
  cases readIpv4Addr host with
  | none => exact .refused
  | some value =>
    obtain ⟨ip, rest⟩ := value
    have port := (readPort_alike number number' rest).map fun port => SocketAddrV4.mk ip port
    rwa [Option.map_eq_bind, Option.map_eq_bind] at port

theorem readSocketAddrV6_alike (number : digitsText digits = some n)
    (number' : digitsText digits' = some n) (host : Bytes) :
    Alike (colon :: digits) (colon :: digits') (readSocketAddrV6 (host ++ colon :: digits))
      (readSocketAddrV6 (host ++ colon :: digits')) := by
  have bracket : toDigit 10 ']'.toUInt8 = none := by decide
  rw [readSocketAddrV6_eq]
  by_cases closed : ']'.toUInt8 ∈ host
  · -- What is read before the first closing bracket does not depend on the port.
    obtain ⟨inner, outer, rfl, absent⟩ := List.eq_append_cons_of_mem closed
    unfold andThen
    rw [List.append_assoc, List.append_assoc, List.cons_append, List.cons_append,
      stops_bracketed.stop, stops_bracketed.stop]
    cases read : readBracketed inner with
    | none => exact .refused
    | some value =>
      obtain ⟨⟨ip, scopeId⟩, rest⟩ := value
      have absent' := stops_bracketed.not_mem absent read
      cases rest with
      | nil =>
        have port := (readPort_alike number number' outer).map fun port =>
          SocketAddrV6.mk ip port 0 scopeId
        rwa [Option.map_eq_bind, Option.map_eq_bind] at port
      | cons b rest =>
        have other := (List.ne_and_not_mem_of_not_mem_cons absent').1.symm
        simp only [Option.map_some, Option.bind_some, List.cons_append, readGivenChar_other other,
          Option.bind_none]
        exact .refused
  · have refused : ∀ {port : Bytes}, digitsText port = some n →
        andThen readBracketed (fun host => andThen (readGivenChar ']') fun _ =>
          andThen readPort fun port p => some (SocketAddrV6.mk host.1 port 0 host.2, p))
            (host ++ colon :: port) = none := by
      intro port number
      have absent : ']'.toUInt8 ∉ host ++ colon :: port := by
        rw [List.mem_append, List.mem_cons, not_or, not_or]
        exact ⟨closed, by decide, digitsText_not_mem number bracket⟩
      unfold andThen
      cases read : readBracketed (host ++ colon :: port) with
      | none => rfl
      | some value =>
        obtain ⟨address, rest⟩ := value
        have absent' := stops_bracketed.not_mem absent read
        cases rest with
        | nil => rfl
        | cons b rest =>
          have other := (List.ne_and_not_mem_of_not_mem_cons absent').1.symm
          simp only [Option.bind_some, readGivenChar_other other, Option.bind_none]
    rw [refused number, refused number']
    exact .refused

def wholeOf (read : Option (SocketAddr × Bytes)) : Option SocketAddr :=
  read.bind fun addr => if addr.2 = [] then some addr.1 else none

theorem parseSocketAddr_eq (value : Bytes) :
    parseSocketAddr value = wholeOf (readSocketAddr value) := by
  unfold parseSocketAddr
  obtain _ | ⟨addr, _ | ⟨b, rest⟩⟩ := readSocketAddr value <;> rfl

/-- Whether a text is a socket address depends on the value of its port, not on how that is
written. -/
theorem parseSocketAddr_sameValue (number : digitsText digits = some n)
    (number' : digitsText digits' = some n) (host : Bytes) :
    parseSocketAddr (host ++ colon :: digits) = parseSocketAddr (host ++ colon :: digits') := by
  have whole : ∀ {x y : Option (SocketAddr × Bytes)},
      Alike (colon :: digits) (colon :: digits') x y → wholeOf x = wholeOf y := by
    intro x y alike
    cases alike with
    | refused => rfl
    | read addr => rfl
    | before addr rest => cases rest <;> rfl
  rw [parseSocketAddr_eq, parseSocketAddr_eq]
  refine whole ?_
  have v4 := readSocketAddrV4_alike number number' host
  have v6 := readSocketAddrV6_alike number number' host
  unfold readSocketAddr
  generalize readSocketAddrV4 (host ++ colon :: digits) = x at v4 ⊢
  generalize readSocketAddrV4 (host ++ colon :: digits') = y at v4 ⊢
  cases v4 with
  | refused => exact v6.map SocketAddr.v6
  | read addr => exact .read _
  | before addr rest => exact .before _ rest

theorem readPort_whole {text : Bytes} {port : UInt16} (read : readPort text = some (port, [])) :
    ∃ digits n, text = colon :: digits ∧ digitsText digits = some n := by
  obtain ⟨⟨_, digits⟩, first, read⟩ := Option.bind_eq_some_iff.1 read
  obtain ⟨⟨n, rest⟩, number, last⟩ := Option.bind_eq_some_iff.1 read
  have ended : rest = [] := congrArg Prod.snd (Option.some.inj last)
  subst ended
  refine ⟨digits, n, ?_, ?_⟩
  · cases text with
    | nil => cases first
    | cons b text =>
      by_cases same : b = colon
      · subst same
        rw [readGivenChar_colon] at first
        cases first
        rfl
      · rw [readGivenChar_other same] at first
        cases first
  · unfold readNumber at number
    dsimp only at number
    split_ifs at number with none_digit
    have value := congrArg Prod.fst (Option.some.inj number)
    have whole := congrArg Prod.snd (Option.some.inj number)
    dsimp only at value whole
    unfold digitsText
    cases read : readDigits 10 digits with
    | mk front rest =>
      rw [read] at none_digit value whole
      subst whole
      cases front with
      | nil => exact absurd rfl none_digit
      | cons digit front => exact congrArg some value

theorem readSocketAddrV4_port {text : Bytes} {addr : SocketAddrV4}
    (read : readSocketAddrV4 text = some (addr, [])) :
    ∃ rest port, rest <:+ text ∧ readPort rest = some (port, []) := by
  have stops : Stops colon readIpv4Addr := stops_ipv4Addr (by decide) (by decide)
  obtain ⟨⟨ip, rest⟩, host, read⟩ := Option.bind_eq_some_iff.1 read
  obtain ⟨⟨port, rest'⟩, port_read, last⟩ := Option.bind_eq_some_iff.1 read
  cases last
  exact ⟨rest, port, stops.suffix host, port_read⟩

theorem readSocketAddrV6_port {text : Bytes} {addr : SocketAddrV6}
    (read : readSocketAddrV6 text = some (addr, [])) :
    addr.flowinfo = 0 ∧ ∃ rest port, rest <:+ text ∧ readPort rest = some (port, []) := by
  have stops : Stops colon (readGivenChar ']') := stops_givenChar (by decide)
  rw [readSocketAddrV6_eq] at read
  obtain ⟨⟨host, behind⟩, bracketed, read⟩ := Option.bind_eq_some_iff.1 read
  obtain ⟨⟨_, rest⟩, closed, read⟩ := Option.bind_eq_some_iff.1 read
  obtain ⟨⟨port, rest'⟩, port_read, last⟩ := Option.bind_eq_some_iff.1 read
  cases last
  exact ⟨rfl, rest, port, (stops.suffix closed).trans (stops_bracketed.suffix bracketed), port_read⟩

/-- A socket address ends with a colon and digits, and has no flow information. -/
theorem parseSocketAddr_some {text : Bytes} {addr : SocketAddr}
    (parsed : parseSocketAddr text = some addr) :
    (∀ a, addr = .v6 a → a.flowinfo = 0) ∧
      ∃ front digits n, text = front ++ colon :: digits ∧ digitsText digits = some n := by
  have ends : (∃ rest port, rest <:+ text ∧ readPort rest = some (port, [])) →
      ∃ front digits n, text = front ++ colon :: digits ∧ digitsText digits = some n := by
    rintro ⟨rest, port, ⟨front, rfl⟩, read⟩
    obtain ⟨digits, n, rfl, number⟩ := readPort_whole read
    exact ⟨front, digits, n, rfl, number⟩
  have read : readSocketAddr text = some (addr, []) := by
    unfold parseSocketAddr at parsed
    split at parsed
    · rename_i read
      rw [read, Option.some.inj parsed]
    · cases parsed
  unfold readSocketAddr at read
  cases v4 : readSocketAddrV4 text with
  | some value =>
    obtain ⟨a, rest⟩ := value
    rw [v4] at read
    cases read
    exact ⟨fun a same => (by cases same), ends (readSocketAddrV4_port v4)⟩
  | none =>
    rw [v4] at read
    obtain ⟨⟨a, rest⟩, v6, same⟩ := Option.map_eq_some_iff.1 read
    cases same
    obtain ⟨plain, port⟩ := readSocketAddrV6_port v6
    refine ⟨fun a same => ?_, ends port⟩
    cases same
    exact plain

end Port

end Ombrac.SocketAddrPort
