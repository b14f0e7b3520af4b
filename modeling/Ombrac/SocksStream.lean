import Ombrac.SocksCodec

set_option autoImplicit false

/-!
# The SOCKS5 address on a stream

An address is also read from a stream, in exact counts, where each read takes what has arrived. It
comes out as from a buffer with the same bytes.
-/
namespace Ombrac.SocksStream
open ProtocolPacket BinaryFormat SocksProtocol SocksCodec

/-- A stream in the pieces in which it arrives; behind the last it ends. -/
structure Segmented where
  pieces : List Bytes
  nonempty : ∀ piece ∈ pieces, piece ≠ []

/-! ## The stream in one piece -/

theorem readExact_whole {body : Bytes} {n : ℕ} (size : body.length = n) (behind : Bytes) :
    SocksProtocol.readExact n (body ++ behind) = .ok (body, behind) := by
  rw [SocksProtocol.readExact, if_pos (Nat.le_of_not_lt (length_append_not_lt size behind)),
    List.take_left' size, List.drop_left' size]

theorem readExact_few {buf : Bytes} {n : ℕ} (short : buf.length < n) :
    SocksProtocol.readExact n buf = .error earlyEof := if_neg (Nat.not_le_of_lt short)

/-- A stream in one piece is read as the buffer is, but for the texts of the errors. -/
theorem addressRead_toOption (buf : Bytes) :
    (addressRead buf).toOption = (addressFromBuf buf).toOption := by
  cases buf with
  | nil => rfl
  | cons atyp buf =>
    unfold addressRead addressFromBuf
    dsimp only
    split_ifs
    · by_cases short : buf.length < 6
      · rw [readExact_few short, fromIpv4, if_pos short]
        rfl
      · obtain ⟨body, behind, size, rfl⟩ := exists_body short
        rw [readExact_whole size, fromIpv4_append size]
        rfl
    · by_cases short : buf.length < 18
      · rw [readExact_few short, fromIpv6, if_pos short]
        rfl
      · obtain ⟨body, behind, size, rfl⟩ := exists_body short
        rw [readExact_whole size, fromIpv6_append size]
        rfl
    · cases buf with
      | nil => rfl
      | cons len buf =>
        dsimp only
        by_cases empty : len.toNat = 0
        · rw [if_pos empty, fromDomain, if_pos empty]
        · rw [if_neg empty]
          by_cases short : buf.length < len.toNat + 2
          · rw [readExact_few short, fromDomain, if_neg empty, if_pos short]
            rfl
          · obtain ⟨body, behind, size, rfl⟩ := exists_body short
            rw [readExact_whole size, fromDomain_append empty size]
            rfl
    · rfl

namespace Segmented

def bytes (s : Segmented) : Bytes := s.pieces.flatten

/-- One read into a buffer with some room: as much as fits of the first piece, and nothing at the
end. -/
def read (room : ℕ) : Segmented → Bytes × Segmented
  | ⟨[], nonempty⟩ => ([], ⟨[], nonempty⟩)
  | ⟨piece :: pieces, nonempty⟩ =>
    if left : piece.drop room = [] then
      (piece, ⟨pieces, fun other there => nonempty other (List.mem_cons_of_mem piece there)⟩)
    else
      (piece.take room, ⟨piece.drop room :: pieces, fun other there =>
        (List.mem_cons.1 there).elim (fun same => same ▸ left) fun there =>
          nonempty other (List.mem_cons_of_mem piece there)⟩)

def readU8 (s : Segmented) : Except IoError (UInt8 × Segmented) :=
  match s.read 1 with
  | ([], _) => .error unexpectedEof
  | (b :: _, rest) => .ok (b, rest)

/-- `read_exact`, which reads until its buffer is full. -/
def readExact (n : ℕ) (s : Segmented) : Except IoError (Bytes × Segmented) :=
  if n = 0 then .ok ([], s)
  else
    match s.read n with
    | ([], _) => .error earlyEof
    | (b :: got, rest) => do
      let (more, rest) ← rest.readExact (n - (got.length + 1))
      return (b :: got ++ more, rest)
termination_by n

def readAddress (s : Segmented) : Except IoError (SocksAddress × Segmented) := do
  let (atyp, s) ← s.readU8
  if atyp = atypIpv4 then
    let (buf, s) ← s.readExact 6
    let ip : Ipv4Addr := ⟨UInt32.ofNat (bigEndianValue (buf.take 4))⟩
    return (.ipv4 ⟨ip, portOf (buf.drop 4)⟩, s)
  else if atyp = atypIpv6 then
    let (buf, s) ← s.readExact 18
    let ip : Ipv6Addr := ⟨BitVec.ofNat 128 (bigEndianValue (buf.take 16))⟩
    return (.ipv6 ⟨ip, portOf (buf.drop 16), 0, 0⟩, s)
  else if atyp = atypDomain then
    let (size, s) ← s.readU8
    let len := size.toNat
    if len = 0 then .error (invalidData "empty domain")
    else
      let (buf, s) ← s.readExact (len + 2)
      return (.domain (buf.take len) (portOf (buf.drop len)), s)
  else .error ⟨.invalidData, "invalid address type: " ++ toString atyp.toNat⟩

/-! ## Exact counts -/

/-- A read takes bytes off the front, and none only at the end. -/
theorem read_spec {room : ℕ} (some_room : room ≠ 0) (s : Segmented) :
    s.bytes = (s.read room).1 ++ (s.read room).2.bytes ∧ (s.read room).1.length ≤ room ∧
      ((s.read room).1 = [] → s.bytes = []) := by
  obtain ⟨pieces, nonempty⟩ := s
  cases pieces with
  | nil => exact ⟨rfl, Nat.zero_le room, fun _ => rfl⟩
  | cons piece pieces =>
    have present : piece ≠ [] := nonempty piece List.mem_cons_self
    unfold read
    dsimp only
    split_ifs with left
    · exact ⟨rfl, List.drop_eq_nil_iff.1 left, fun none => absurd none present⟩
    · refine ⟨?_, List.length_take_le room piece, fun none => ?_⟩
      · change piece ++ pieces.flatten = piece.take room ++ (piece.drop room ++ pieces.flatten)
        rw [← List.append_assoc, List.take_append_drop]
      · exact absurd ((List.take_eq_nil_iff.1 none).resolve_left some_room) present

theorem readU8_cons {s : Segmented} {b : UInt8} {behind : Bytes} (here : s.bytes = b :: behind) :
    ∃ rest, s.readU8 = .ok (b, rest) ∧ rest.bytes = behind := by
  obtain ⟨whole, few, ended⟩ := read_spec one_ne_zero s
  unfold readU8
  cases same : s.read 1 with
  | mk got rest =>
    rw [same] at whole few ended
    dsimp only at whole few ended
    cases got with
    | nil => exact absurd (ended rfl) (here ▸ List.cons_ne_nil b behind)
    | cons b' got =>
      rw [List.length_cons] at few
      obtain rfl : got = [] := List.length_eq_zero_iff.1 (by omega)
      obtain ⟨rfl, rfl⟩ := List.cons.inj (here.symm.trans whole)
      exact ⟨rest, rfl, rfl⟩

theorem readU8_nil {s : Segmented} (ended : s.bytes = []) :
    s.readU8 = .error unexpectedEof := by
  obtain ⟨pieces, nonempty⟩ := s
  cases pieces with
  | nil => rfl
  | cons piece pieces =>
    exact absurd (List.append_eq_nil_iff.1 ended).1 (nonempty piece List.mem_cons_self)

/-- So many bytes are read wherever they are cut. -/
theorem readExact_append {behind : Bytes} (n : ℕ) : ∀ {s : Segmented} {body : Bytes},
    body.length = n → s.bytes = body ++ behind →
      ∃ rest, s.readExact n = .ok (body, rest) ∧ rest.bytes = behind := by
  induction n using Nat.strong_induction_on with
  | _ n ih =>
    intro s body size here
    rw [readExact]
    by_cases none : n = 0
    · obtain rfl := List.length_eq_zero_iff.1 (size.trans none)
      exact ⟨s, if_pos none, here⟩
    · obtain ⟨whole, few, ended⟩ := read_spec none s
      rw [if_neg none]
      cases same : s.read n with
      | mk got rest =>
        rw [same] at whole few ended
        dsimp only at whole few ended
        cases got with
        | nil =>
          obtain ⟨rfl, _⟩ := List.append_eq_nil_iff.1 (here.symm.trans (ended rfl))
          exact absurd size.symm none
        | cons b got =>
          rw [List.length_cons] at few
          obtain ⟨more, rfl, left⟩ : ∃ more, body = b :: got ++ more ∧
              rest.bytes = more ++ behind := by
            obtain ⟨more, same_body, left⟩ | ⟨beyond, same_got, left⟩ :=
              List.append_eq_append_iff.1 (whole.symm.trans here)
            · exact ⟨more, same_body, left⟩
            · have lengths := congrArg List.length same_got
              rw [List.length_cons, List.length_append] at lengths
              obtain rfl : beyond = [] := List.length_eq_zero_iff.1 (by omega)
              rw [List.append_nil] at same_got
              exact ⟨[], by rw [same_got, List.append_nil], left.symm⟩
          rw [List.length_append, List.length_cons] at size
          obtain ⟨rest', read, left'⟩ := ih (n - (got.length + 1)) (by omega) (by omega) left
          refine ⟨rest', ?_, left'⟩
          dsimp only
          rw [read]
          rfl

theorem readExact_short (n : ℕ) : ∀ {s : Segmented}, s.bytes.length < n →
    s.readExact n = .error earlyEof := by
  induction n using Nat.strong_induction_on with
  | _ n ih =>
    intro s short
    have some_room : n ≠ 0 := by omega
    obtain ⟨whole, few, _⟩ := read_spec some_room s
    rw [readExact, if_neg some_room]
    cases same : s.read n with
    | mk got rest =>
      rw [same] at whole few
      dsimp only at whole few
      cases got with
      | nil => rfl
      | cons b got =>
        have lengths := congrArg List.length whole
        rw [List.length_append, List.length_cons] at lengths
        rw [List.length_cons] at few
        dsimp only
        rw [ih (n - (got.length + 1)) (by omega) (by omega)]
        rfl

/-! ## The address -/

section Address
variable {s : Segmented} {addr : SocksAddress}

theorem readAddress_of_parses {behind : Bytes} (parses : Parses s.bytes addr behind) :
    ∃ rest, s.readAddress = .ok (addr, rest) ∧ rest.bytes = behind := by
  generalize here : s.bytes = buf at parses
  cases parses with
  | ipv4 size =>
    obtain ⟨s', atyp, here'⟩ := readU8_cons here
    obtain ⟨rest, body, left⟩ := readExact_append 6 size here'
    refine ⟨rest, ?_, left⟩
    unfold readAddress
    rw [atyp]
    change (s'.readExact 6 >>= _) = _
    rw [body]
    rfl
  | ipv6 size =>
    obtain ⟨s', atyp, here'⟩ := readU8_cons here
    obtain ⟨rest, body, left⟩ := readExact_append 18 size here'
    refine ⟨rest, ?_, left⟩
    unfold readAddress
    rw [atyp]
    change (s'.readExact 18 >>= _) = _
    rw [body]
    rfl
  | @domain len _ nonempty size =>
    obtain ⟨s', atyp, here'⟩ := readU8_cons here
    obtain ⟨s'', length, here''⟩ := readU8_cons here'
    obtain ⟨rest, body, left⟩ := readExact_append (len.toNat + 2) size here''
    refine ⟨rest, ?_, left⟩
    unfold readAddress
    rw [atyp]
    change (s'.readU8 >>= _) = _
    rw [length]
    change (if len.toNat = 0 then _ else s''.readExact (len.toNat + 2) >>= _) = _
    rw [if_neg nonempty, body]
    rfl

theorem parses_of_readAddress {rest : Segmented} (read : s.readAddress = .ok (addr, rest)) :
    Parses s.bytes addr rest.bytes := by
  unfold readAddress at read
  cases here : s.bytes with
  | nil =>
    rw [readU8_nil here] at read
    cases read
  | cons atyp behind =>
    obtain ⟨s₁, first, here₁⟩ := readU8_cons here
    rw [first] at read
    change (if atyp = atypIpv4 then s₁.readExact 6 >>= _ else if atyp = atypIpv6 then
      s₁.readExact 18 >>= _ else if atyp = atypDomain then s₁.readU8 >>= _ else _) = _ at read
    split_ifs at read with ipv4 ipv6 domain
    · obtain rfl := ipv4
      by_cases short : behind.length < 6
      · rw [readExact_short 6 (here₁.symm ▸ short)] at read
        cases read
      · obtain ⟨body, left, size, rfl⟩ := exists_body short
        obtain ⟨s₂, ok, rfl⟩ := readExact_append 6 size here₁
        rw [ok] at read
        cases read
        exact .ipv4 size _
    · obtain rfl := ipv6
      by_cases short : behind.length < 18
      · rw [readExact_short 18 (here₁.symm ▸ short)] at read
        cases read
      · obtain ⟨body, left, size, rfl⟩ := exists_body short
        obtain ⟨s₂, ok, rfl⟩ := readExact_append 18 size here₁
        rw [ok] at read
        cases read
        exact .ipv6 size _
    · obtain rfl := domain
      cases behind with
      | nil =>
        rw [readU8_nil here₁] at read
        cases read
      | cons len behind =>
        obtain ⟨s₂, length, here₂⟩ := readU8_cons here₁
        rw [length] at read
        change (if len.toNat = 0 then _ else s₂.readExact (len.toNat + 2) >>= _) = _ at read
        by_cases empty : len.toNat = 0
        · rw [if_pos empty] at read
          cases read
        · rw [if_neg empty] at read
          by_cases short : behind.length < len.toNat + 2
          · rw [readExact_short _ (here₂.symm ▸ short)] at read
            cases read
          · obtain ⟨body, left, size, rfl⟩ := exists_body short
            obtain ⟨s₃, ok, rfl⟩ := readExact_append (len.toNat + 2) size here₂
            rw [ok] at read
            cases read
            exact .domain empty size _

/-- A stream that is cut gives what it gives in one piece. -/
theorem readAddress_toOption (s : Segmented) :
    s.readAddress.toOption.map (fun read => (read.1, read.2.bytes)) =
      (addressRead s.bytes).toOption := by
  rw [addressRead_toOption]
  cases read : s.readAddress with
  | ok value =>
    rw [(parses_of_readAddress read).addressFromBuf]
    rfl
  | error e =>
    cases read' : addressFromBuf s.bytes with
    | ok value =>
      obtain ⟨rest, ok, _⟩ := readAddress_of_parses (parses_of_addressFromBuf read')
      exact absurd (read.symm.trans ok) nofun
    | error e' => rfl

end Address

end Segmented

/-- On the same bytes, however they arrive, both parsers fail or both give the same address and
leave the same rest. -/
theorem parsers_agree (s : Segmented) :
    (∃ addr rest, s.readAddress = .ok (addr, rest) ∧
        addressFromBuf s.bytes = .ok (addr, rest.bytes)) ∨
      ∃ e e', s.readAddress = .error e ∧ addressFromBuf s.bytes = .error e' := by
  cases read : s.readAddress with
  | ok value =>
    obtain ⟨addr, rest⟩ := value
    exact .inl ⟨addr, rest, rfl, (Segmented.parses_of_readAddress read).addressFromBuf⟩
  | error e =>
    cases read' : addressFromBuf s.bytes with
    | ok value =>
      obtain ⟨rest, ok, _⟩ := Segmented.readAddress_of_parses (parses_of_addressFromBuf read')
      exact absurd (read.symm.trans ok) nofun
    | error e' => exact .inr ⟨e, e', rfl, rfl⟩

end Ombrac.SocksStream
