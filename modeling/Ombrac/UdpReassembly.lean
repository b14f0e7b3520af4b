import Mathlib.Logic.Function.Basic
import Ombrac.ProtocolPacket

set_option autoImplicit false

/-!
# The fragment buffer and the reassembler

The buffer is translated with its early returns: a rejected fragment leaves behind whatever the
lines before the return already changed. Expiry of the cache is not part of this model.
-/
namespace Ombrac.UdpReassembly
open ProtocolPacket

def maxFragmentCount : UInt16 := 256

abbrev CacheKey := UInt64 × UInt32

structure ReassemblyBuffer where
  fragments : List (Option Bytes)
  receivedCount : UInt16
  totalCount : UInt16
  address : Option Address
  sessionId : UInt64
  deriving DecidableEq, Repr

namespace ReassemblyBuffer

def new (sessionId : UInt64) (fragmentCount : UInt16) (address : Option Address) :
    ReassemblyBuffer :=
  ⟨List.replicate fragmentCount.toNat none, 0, fragmentCount, address, sessionId⟩

/-- The first fragment seen fixes the count; `none` is the return on a different count. -/
def adoptCount (b : ReassemblyBuffer) (fragmentCount : UInt16) : Option ReassemblyBuffer :=
  if b.totalCount = 0 then
    some { b with
      totalCount := fragmentCount, fragments := List.replicate fragmentCount.toNat none }
  else if b.totalCount ≠ fragmentCount then none
  else some b

/-- Only index 0 carries an address; `none` is the return on a missing or different one. -/
def takeAddress (b : ReassemblyBuffer) (fragmentIndex : UInt16) (address : Option Address) :
    Option ReassemblyBuffer :=
  if fragmentIndex = 0 then
    match b.address with
    | none => some { b with address := address }
    | some existing =>
      match address with
      | some newAddr => if existing ≠ newAddr then none else some b
      | none => none
  else some b

def storeFragment (b : ReassemblyBuffer) (fragmentIndex : UInt16) (data : Bytes) :
    Bool × ReassemblyBuffer :=
  let index := fragmentIndex.toNat
  if b.fragments[index]? = some none then
    (true, { b with
      fragments := b.fragments.set index (some data), receivedCount := b.receivedCount + 1 })
  else (false, b)

def addFragment (b : ReassemblyBuffer) : UdpPacket → Bool × ReassemblyBuffer
  | .unfragmented .. => (false, b)
  | .fragmented _ _ fragmentIndex fragmentCount address data =>
    if fragmentCount = 0 ∨ maxFragmentCount < fragmentCount then (false, b)
    else
      match b.adoptCount fragmentCount with
      | none => (false, b)
      | some b =>
        match b.takeAddress fragmentIndex address with
        | none => (false, b)
        | some b => b.storeFragment fragmentIndex data

def isComplete (b : ReassemblyBuffer) : Bool :=
  decide (0 < b.totalCount) && b.receivedCount == b.totalCount && b.address.isSome

/-- The loop over `fragments.iter_mut()`: each slot is taken and appended, an empty one ends it. -/
def takeFragments (combined : Bytes) : List (Option Bytes) → Option Bytes × List (Option Bytes)
  | [] => (some combined, [])
  | none :: rest => (none, none :: rest)
  | some data :: rest =>
    let (result, left) := takeFragments (combined ++ data) rest
    (result, none :: left)

def assembleAndTake (b : ReassemblyBuffer) :
    Option (UInt64 × Address × Bytes) × ReassemblyBuffer :=
  if !b.isComplete then (none, b)
  else
    let (combined, left) := takeFragments [] b.fragments
    (combined.bind fun data => b.address.map fun addr => (b.sessionId, addr, data),
      { b with fragments := left })

theorem takeFragments_full (combined : Bytes) (pieces : List Bytes) :
    (takeFragments combined (pieces.map some)).1 = some (combined ++ pieces.flatten) := by
  induction pieces generalizing combined with
  | nil => simp [takeFragments]
  | cons piece pieces ih => simp [takeFragments, ih]

end ReassemblyBuffer

structure UdpReassembler where
  cache : CacheKey → Option ReassemblyBuffer

namespace UdpReassembler

abbrev Delivery := UInt64 × Address × Bytes

def new : UdpReassembler := ⟨fun _ => none⟩

def put (r : UdpReassembler) (key : CacheKey) (b : ReassemblyBuffer) : UdpReassembler :=
  ⟨Function.update r.cache key (some b)⟩

def invalidate (r : UdpReassembler) (key : CacheKey) : UdpReassembler :=
  ⟨Function.update r.cache key none⟩

/-- `cache.get_with(key, ReassemblyBuffer::new(session_id, 0, None))`. -/
def getWith (r : UdpReassembler) (key : CacheKey) : ReassemblyBuffer :=
  (r.cache key).getD (.new key.1 0 none)

def process (r : UdpReassembler) (packet : UdpPacket) :
    Except IoError (Option Delivery) × UdpReassembler :=
  match packet with
  | .unfragmented sessionId address data => (.ok (some (sessionId, address, data)), r)
  | .fragmented sessionId fragmentId .. =>
    let cacheKey := (sessionId, fragmentId)
    let (added, buffer) := (r.getWith cacheKey).addFragment packet
    if !added then (.ok none, r.put cacheKey buffer)
    else if buffer.isComplete then
      (.ok buffer.assembleAndTake.1, r.invalidate cacheKey)
    else (.ok none, r.put cacheKey buffer)

def processAll (r : UdpReassembler) :
    List UdpPacket → List (Except IoError (Option Delivery)) × UdpReassembler
  | [] => ([], r)
  | packet :: packets =>
    let (result, r) := r.process packet
    let (results, r) := r.processAll packets
    (result :: results, r)

end UdpReassembler
end Ombrac.UdpReassembly
