import Ombrac.BinaryFormat
import Ombrac.ProtocolPacket

set_option autoImplicit false

/-!
# Addresses from text

`Address::try_from` of a text first reads it as a socket address, with the grammar of the standard
library, then as a domain and a port behind the last colon. Text is its UTF-8 bytes.
-/
namespace Ombrac.AddressText
open ProtocolPacket BinaryFormat

/-! ## The standard library's socket addresses -/

/-- A failing parser leaves its caller where it was. -/
abbrev Parser (α : Type) := Bytes → Option (α × Bytes)

def readGivenChar (c : Char) : Parser Unit
  | [] => none
  | b :: rest => if b = c.toUInt8 then some ((), rest) else none

/-- `char::to_digit`. -/
def toDigit (radix : ℕ) (b : UInt8) : Option ℕ :=
  let n := b.toNat
  let value :=
    if 48 ≤ n ∧ n ≤ 57 then n - 48
    else if 97 ≤ n ∧ n ≤ 122 then n - 87
    else if 65 ≤ n ∧ n ≤ 90 then n - 55
    else radix
  if value < radix then some value else none

def readDigits (radix : ℕ) : Bytes → List ℕ × Bytes
  | [] => ([], [])
  | b :: rest =>
    match toDigit radix b with
    | some digit => (digit :: (readDigits radix rest).1, (readDigits radix rest).2)
    | none => ([], b :: rest)

def digitsValue (radix : ℕ) (digits : List ℕ) : ℕ :=
  digits.foldl (fun value digit => value * radix + digit) 0

/-- A number below `bound`, of at most `maxDigits` digits where that is given. -/
def readNumber (bound radix : ℕ) (maxDigits : Option ℕ) (allowZeroPrefix : Bool) : Parser ℕ :=
  fun p =>
    let (digits, rest) := readDigits radix p
    if digits = [] then none
    else if maxDigits.any fun most => most < digits.length then none
    else if !allowZeroPrefix && digits.head? = some 0 && 1 < digits.length then none
    else if digitsValue radix digits < bound then some (digitsValue radix digits, rest)
    else none

def readSeparator {α : Type} (sep : Char) (index : ℕ) (inner : Parser α) : Parser α := fun p =>
  if index = 0 then inner p else (readGivenChar sep p).bind fun (_, p) => inner p

def readIpv4Group (index : ℕ) : Parser ℕ :=
  readSeparator '.' index (readNumber (2 ^ 8) 10 (some 3) false)

def readIpv4Addr : Parser Ipv4Addr := fun p => do
  let (a, p) ← readIpv4Group 0 p
  let (b, p) ← readIpv4Group 1 p
  let (c, p) ← readIpv4Group 2 p
  let (d, p) ← readIpv4Group 3 p
  return (⟨UInt32.ofNat (((a * 256 + b) * 256 + c) * 256 + d)⟩, p)

/-- Up to as many groups as there are places, after `i` others; the last two may be an IPv4 address,
which the flag tells. -/
def readGroups (i : ℕ) : ℕ → Bytes → List ℕ × Bool × Bytes
  | 0, p => ([], false, p)
  | places + 1, p =>
    match if places = 0 then none else readSeparator ':' i readIpv4Addr p with
    | some (ip, p) => ([ip.bits.toNat / 65536, ip.bits.toNat % 65536], true, p)
    | none =>
      match readSeparator ':' i (readNumber (2 ^ 16) 16 (some 4) true) p with
      | some (group, p) =>
        let (groups, embedded, p) := readGroups (i + 1) places p
        (group :: groups, embedded, p)
      | none => ([], false, p)

def ofGroups (groups : List ℕ) : Ipv6Addr := ⟨BitVec.ofNat 128 (digitsValue 65536 groups)⟩

/-- Eight groups, or fewer with `::` for the zeros between them. -/
def readIpv6Addr : Parser Ipv6Addr := fun p =>
  let (head, embedded, p) := readGroups 0 8 p
  if head.length = 8 then some (ofGroups head, p)
  else if embedded then none
  else do
    let (_, p) ← readGivenChar ':' p
    let (_, p) ← readGivenChar ':' p
    let (tail, _, p) := readGroups 0 (8 - (head.length + 1)) p
    return (ofGroups (head ++ List.replicate (8 - head.length - tail.length) 0 ++ tail), p)

def readPort : Parser UInt16 := fun p => do
  let (_, p) ← readGivenChar ':' p
  let (port, p) ← readNumber (2 ^ 16) 10 none true p
  return (UInt16.ofNat port, p)

def readScopeId : Parser UInt32 := fun p => do
  let (_, p) ← readGivenChar '%' p
  let (scope, p) ← readNumber (2 ^ 32) 10 none true p
  return (UInt32.ofNat scope, p)

def readSocketAddrV4 : Parser SocketAddrV4 := fun p => do
  let (ip, p) ← readIpv4Addr p
  let (port, p) ← readPort p
  return (⟨ip, port⟩, p)

def readSocketAddrV6 : Parser SocketAddrV6 := fun p => do
  let (_, p) ← readGivenChar '[' p
  let (ip, p) ← readIpv6Addr p
  let (scopeId, p) := (readScopeId p).getD (0, p)
  let (_, p) ← readGivenChar ']' p
  let (port, p) ← readPort p
  return (⟨ip, port, 0, scopeId⟩, p)

def readSocketAddr : Parser SocketAddr := fun p =>
  match readSocketAddrV4 p with
  | some (addr, p) => some (.v4 addr, p)
  | none => (readSocketAddrV6 p).map fun (addr, p) => (.v6 addr, p)

/-- `parse::<SocketAddr>`, which reads the whole text. -/
def parseSocketAddr (value : Bytes) : Option SocketAddr :=
  match readSocketAddr value with
  | some (addr, []) => some addr
  | _ => none

/-! ## Domains and ports -/

/-- `parse::<u16>`; a sign may stand before a digit. -/
def parseU16 (value : Bytes) : Option UInt16 :=
  let unsigned :=
    match value with
    | sign :: digit :: rest => if sign = '+'.toUInt8 then digit :: rest else value
    | _ => value
  match readDigits 10 unsigned with
  | (digit :: digits, []) =>
    if digitsValue 10 (digit :: digits) < 2 ^ 16 then
      some (UInt16.ofNat (digitsValue 10 (digit :: digits)))
    else none
  | _ => none

def rsplitOnce (sep : Char) : Bytes → Option (Bytes × Bytes)
  | [] => none
  | b :: rest =>
    match rsplitOnce sep rest with
    | some (front, back) => some (b :: front, back)
    | none => if b = sep.toUInt8 then some ([], rest) else none

def maxDomainLength : ℕ := 255

def invalidInput (message : String) : IoError := ⟨.invalidInput, message⟩

/-- The domain and the port that a text names. -/
def domainPort (value : Bytes) : Option (Bytes × UInt16) := do
  let (domain, port) ← rsplitOnce ':' value
  let port ← parseU16 port
  return (domain, port)

/-- `TryFrom<&str> for Address`. -/
def tryFromStr (value : String) : Except IoError Address :=
  match parseSocketAddr (utf8Bytes value) with
  | some addr => .ok (.ofSocketAddr addr)
  | none =>
    match domainPort (utf8Bytes value) with
    | none => .error (invalidInput ("invalid address format: " ++ value))
    | some (domain, port) =>
      if domain = [] then .error (invalidInput "domain name cannot be empty")
      else if maxDomainLength < domain.length then
        .error (invalidInput ("domain name is too long: " ++ toString domain.length ++
          " bytes (max " ++ toString maxDomainLength ++ ")"))
      else .ok (.domain domain port)

def tryFromString (value : String) : Except IoError Address := tryFromStr value

def fromStringPort (name : String) (port : UInt16) : Address := .domain (utf8Bytes name) port

def fromStrPort (name : String) (port : UInt16) : Address := .domain (utf8Bytes name) port

theorem tryFromStr_domain {value : String} {name : Bytes} {port : UInt16}
    (h : tryFromStr value = .ok (.domain name port)) :
    1 ≤ name.length ∧ name.length ≤ maxDomainLength := by
  unfold tryFromStr at h
  split at h
  · rename_i addr _
    cases addr <;> cases h
  · split at h
    · cases h
    · split_ifs at h with empty long
      cases h
      exact ⟨List.length_pos_of_ne_nil empty, Nat.le_of_not_lt long⟩

end Ombrac.AddressText
