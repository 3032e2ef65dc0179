import AvifStill.Box.Basic

/-!
# Where items are stored

The location table gives each item a list of extents, which lie in the file or in a box of their
own. All fields have widths that the table chooses itself, and three versions of the table differ in
which fields there are.
-/

namespace AvifStill.Item

/-- One stretch of an item's data; a length of zero runs to the end of its source. -/
structure Extent where
  offset : Nat
  length : Nat
  deriving DecidableEq, Repr

/-- The byte string that an item's extents refer to. -/
inductive Source where
  | file
  | itemData
  deriving DecidableEq, Repr

structure Location where
  item : Nat
  source : Source
  baseOffset : Nat
  extents : List Extent
  deriving DecidableEq, Repr

namespace Location

/-- The widths in bytes of a table's fields. -/
structure Widths where
  offset : Nat
  length : Nat
  base : Nat
  index : Nat
  deriving DecidableEq, Repr

/-- The widths packed into 16 bits; the first version has no extent indices. -/
def Widths.ofWord (version word : Nat) : Widths where
  offset := word / 4096
  length := word / 256 % 16
  base := word / 16 % 16
  index := if version = 0 then 0 else word % 16

/-- A number of a given width, which may not exceed 64 bits. -/
def scanField (width : Nat) : Scan Nat :=
  if 8 < width then Scan.fail (.parse .integerTooWide) else Scan.nat truncated width

def scanExtent (widths : Widths) : Scan Extent := do
  let _ ← scanField widths.index
  let offset ← scanField widths.offset
  let length ← scanField widths.length
  return ⟨offset, length⟩

/-- Which source the extents refer to; the first version knows the file only. -/
def scanSource (version : Nat) : Scan Source :=
  if version = 0 then pure .file
  else do
    let construction ← Scan.nat truncated 2
    match construction % 16 with
    | 0 => return .file
    | 1 => return .itemData
    | _ => Scan.fail (.unsupported .constructionMethod)

/-- Item identifiers and counts are wider in the last version. -/
def idWidth (version : Nat) : Nat :=
  if version < 2 then 2 else 4

def scanEntry (version : Nat) (widths : Widths) : Scan Location := do
  let item ← Scan.nat truncated (idWidth version)
  let source ← scanSource version
  let _ ← Scan.nat truncated 2
  let baseOffset ← scanField widths.base
  let count ← Scan.nat truncated 2
  let extents ← Scan.times count (scanExtent widths)
  return ⟨item, source, baseOffset, extents⟩

/-- Reads the location table. -/
def scanTable : Scan (List Location) := do
  let version ← Scan.nat truncated 1
  let _ ← Scan.nat truncated 3
  if 2 < version then Scan.fail (.parse .locationVersion)
  else
    let widths := Widths.ofWord version (← Scan.nat truncated 2)
    let count ← Scan.nat truncated (idWidth version)
    Scan.times count (scanEntry version widths)

/-- The bytes of one extent; positions are 64-bit words. -/
def extentData (source : Bytes) (baseOffset : Nat) (extent : Extent) : Except Fault Bytes :=
  let start := baseOffset + extent.offset
  if UInt64.size ≤ start then .error (.parse .offsetOverflow)
  else if extent.length ≠ 0 ∧ UInt64.size ≤ start + extent.length then
    .error (.parse .lengthOverflow)
  else
    let stop := if extent.length = 0 then source.length else start + extent.length
    match source.slice? start stop with
    | some bytes => .ok bytes
    | none => .error (.parse .dataOutOfBounds)

/-- The data of an item: its extents one after another. -/
def data (location : Location) (file itemData : Bytes) : Except Fault Bytes := do
  let source :=
    match location.source with
    | .file => file
    | .itemData => itemData
  return (← location.extents.mapM (extentData source location.baseOffset)).flatten

end Location

end AvifStill.Item
