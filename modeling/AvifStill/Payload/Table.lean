import AvifStill.Item.Entry
import AvifStill.Item.Location
import AvifStill.Payload.Window

/-!
# The strict item directory

What a strict reader gathers from the item directory of a file before it takes out any data. Tables
that may occur once only, fields that may hold only certain values and reserved values are checked
here.
-/

namespace AvifStill.Payload

open Window Item

/-- A position counted from one in the property list, given to an item; zero stands for none. -/
structure Link where
  item : Nat
  index : Nat
  isEssential : Bool

structure Table where
  primary : Option Nat
  entries : Option (List Entry)
  references : List Reference
  locations : Option (List Location)
  /-- For each property the name of an auxiliary image, if it is one. -/
  properties : List (Option Bytes)
  links : List Link
  itemData : Option Bytes

namespace Table

def empty : Table := ⟨none, none, [], none, [], [], none⟩

def scanHandler : Scan Unit := do
  skip 8
  let kind ← Scan.fourCC .container
  require (kind == .pict)
  skipRest

def scanPrimary : Scan Nat := do
  let version ← nat 1
  skip 3
  require (version ≤ 1)
  nat (if version = 0 then 2 else 4)

/-- An entry of the item list; items may not be protected. -/
def scanEntry : Scan Entry := do
  let version ← nat 1
  skip 3
  require (version == 2 || version == 3)
  let item ← nat (if version = 2 then 2 else 4)
  let protection ← nat 2
  require (protection == 0)
  let kind ← Scan.fourCC .container
  skipRest
  return ⟨item, kind, []⟩

/-- The item list: all boxes in it have to be entries, whatever number it announces. -/
def scanEntries : Scan (List Entry) := do
  let version ← nat 1
  skip 3
  require (version ≤ 1)
  skip (if version = 0 then 2 else 4)
  fold .isFault
    (fun entries head => do
      require (head.kind == .infe)
      return entries ++ [← scanEntry])
    []

/-- References of one kind; an item may not refer to itself. -/
def scanReference (idWidth : Nat) (kind : FourCC) : Scan (List Reference) := do
  let source ← nat idWidth
  let count ← nat 2
  let targets ← Scan.times count (nat idWidth)
  require (!targets.contains source)
  return targets.map fun target => ⟨kind, source, target⟩

def scanReferences : Scan (List Reference) := do
  let version ← nat 1
  skip 3
  require (version ≤ 1)
  fold .isFault
    (fun references head => do
      return references ++ (← scanReference (if version = 0 then 2 else 4) head.kind))
    []

/-- A field width: none, 32 or 64 bits. -/
def isFieldWidth (width : Nat) : Bool :=
  width == 0 || width == 4 || width == 8

def scanExtent (widths : Location.Widths) (baseOffset : Nat) : Scan Extent := do
  skip widths.index
  let offset ← nat widths.offset
  let length ← nat widths.length
  let start := baseOffset + offset
  require (start < UInt64.size && (length == 0 || start + length < UInt64.size))
  return ⟨offset, length⟩

def scanSource (version : Nat) : Scan Source :=
  if version = 0 then pure .file
  else do
    let construction ← nat 2
    require (construction % 16 ≤ 1)
    return if construction % 16 = 0 then .file else .itemData

/-- A location: data may not be stored in another file, and there has to be an extent. -/
def scanLocation (version : Nat) (widths : Location.Widths) : Scan Location := do
  let item ← nat (Location.idWidth version)
  let source ← scanSource version
  let reference ← nat 2
  require (reference == 0)
  let baseOffset ← nat widths.base
  let count ← nat 2
  require (1 ≤ count)
  let extents ← Scan.times count (scanExtent widths baseOffset)
  return ⟨item, source, baseOffset, extents⟩

/-- The location table, which has to fill its box. -/
def scanLocations : Scan (List Location) := do
  let version ← nat 1
  skip 3
  require (version ≤ 2)
  let widths := Location.Widths.ofWord version (← nat 2)
  require (isFieldWidth widths.offset && isFieldWidth widths.length && isFieldWidth widths.base &&
    isFieldWidth widths.index)
  let count ← nat (Location.idWidth version)
  let locations ← Scan.times count (scanLocation version widths)
  let unread ← Scan.rest
  require unread.isEmpty
  return locations

/-- Reads some bytes at least, and skips the rest. -/
def atLeast (count : Nat) : Scan Unit := do
  skip count
  skipRest

/-- Channel depths: as many as announced, of which sixteen are read. -/
def scanChannels : Scan Unit := do
  require ((← nat 1) == 0)
  skip 3
  let count ← nat 1
  skip (min count 16)
  skipRest

/-- An image size, neither side of which may be zero; what follows is left for the next box. -/
def scanExtents : Scan Unit := do
  skip 4
  let width ← nat 4
  let height ← nat 4
  require (width != 0 && height != 0)

/-- A grid of tiles, whose size fields may be wide; what follows is left for the next box. -/
def scanGrid : Scan Unit := do
  require ((← nat 1) == 0)
  skip 3
  let flags ← nat 1
  skip 2
  skip (if flags % 2 = 0 then 4 else 8)

/-- A codec configuration: marker bit and version. -/
def scanConfig : Scan Unit := do
  let marker ← nat 1
  require (marker == 0x81)
  skip 3
  skipRest

/-- A clean aperture: no denominator may be zero. -/
def scanClap : Scan Unit := do
  for _ in [0, 1, 2, 3] do
    skip 4
    let denominator ← nat 4
    require (denominator != 0)
  skipRest

/-- A colour volume, whose fields its first byte announces. -/
def scanColorVolume : Scan Unit := do
  let flags ← nat 1
  skip (if flags / 32 % 2 = 1 then 24 else 0)
  skip (if flags / 16 % 2 = 1 then 4 else 0)
  skip (if flags / 8 % 2 = 1 then 4 else 0)
  skip (if flags / 4 % 2 = 1 then 4 else 0)
  skipRest

def scanOperatingPoint : Scan Unit := do
  require ((← nat 1) ≤ 31)
  skipRest

/-- Layer sizes, whose width the first byte announces. -/
def scanLayerSizes : Scan Unit := do
  let flags ← nat 1
  skip (if flags % 2 = 1 then 12 else 6)
  skipRest

/-- The name of an auxiliary image, up to a zero byte. -/
def scanAuxiliary : Scan Bytes := do
  require ((← nat 1) == 0)
  skip 3
  let name ← Scan.rest
  return name.splitAtZero.1

/-- Reads a property; only the names of auxiliary images are of use. -/
def scanProperty (kind : FourCC) : Scan (Option Bytes) :=
  if kind = .auxC then some <$> scanAuxiliary
  else do
    if kind = .pixi then scanChannels
    else if kind = .ispe then scanExtents
    else if kind = .grid then scanGrid
    else if kind = .av1C then scanConfig
    else if kind = .irot ∨ kind = .imir then atLeast 1
    else if kind = .clap then scanClap
    else if kind = .pasp then atLeast 8
    else if kind = .clli then atLeast 4
    else if kind = .mdcv then atLeast 24
    else if kind = .cclv then scanColorVolume
    else if kind = .amve then atLeast 8
    else if kind = .a1op then scanOperatingPoint
    else if kind = .lsel then atLeast 2
    else if kind = .a1lx then scanLayerSizes
    else skipRest
    return none

def scanProperties : Scan (List (Option Bytes)) :=
  fold .isNextBox (fun properties head => do return properties ++ [← scanProperty head.kind]) []

/-- A link to an item: a position, and whether the property is essential. -/
def scanIndex (wide : Bool) (item : Nat) : Scan Link := do
  if wide then
    let value ← nat 2
    return ⟨item, value % 32768, value / 32768 == 1⟩
  else
    let value ← nat 1
    return ⟨item, value % 128, value / 128 == 1⟩

def scanItemLinks (version : Nat) (wide : Bool) : Scan (List Link) := do
  let item ← nat (if version = 0 then 2 else 4)
  let count ← nat 1
  Scan.times count (scanIndex wide item)

def scanLinks : Scan (List Link) := do
  let version ← nat 1
  let flags ← nat 3
  let count ← nat 4
  return (← Scan.times count (scanItemLinks version (flags % 2 == 1))).flatten

/-- Properties and links; of several lists the last one counts, in which no property that is
missing may be essential. -/
def scanPropertyTable : Scan (List (Option Bytes) × List Link) := do
  let (properties, links) ← fold .isNextBox
    (fun (properties, links) head => do
      if head.kind = .ipco then return (← scanProperties, links)
      else if head.kind = .ipma then return (properties, ← scanLinks)
      else Scan.fail .container)
    ([], [])
  require (links.all fun link => link.index != 0 || !link.isEssential)
  return (properties, links.filter fun link => link.index != 0)

/-- A group of items: its number, and as many items as it announces. -/
def scanGroup : Scan Unit := do
  skip 8
  let count ← nat 4
  atLeast (4 * count)

/-- Groups of items, of which nothing is kept. -/
def scanGroups : Scan Unit :=
  fold .isFault (fun _ _ => scanGroup) ()

/-- Takes in one box of the directory. -/
def step (table : Table) (head : Head) : Scan Table := do
  if head.kind = .hdlr then
    scanHandler
    return table
  else if head.kind = .pitm then
    require table.primary.isNone
    return { table with primary := some (← scanPrimary) }
  else if head.kind = .iinf then
    require table.entries.isNone
    return { table with entries := some (← scanEntries) }
  else if head.kind = .iref then
    return { table with references := table.references ++ (← scanReferences) }
  else if head.kind = .iloc then
    require table.locations.isNone
    return { table with locations := some (← scanLocations) }
  else if head.kind = .iprp then
    let (properties, links) ← scanPropertyTable
    return { table with properties, links }
  else if head.kind = .idat then
    require table.itemData.isNone
    return { table with itemData := some (← Scan.rest) }
  else if head.kind = .grpl then
    scanGroups
    return table
  else
    skipBox head
    return table

/-- Reads the directory from the content of its box. -/
def scan : Scan Table := do
  require ((← nat 1) == 0)
  skip 3
  fold .isFault step .empty

end Table

end AvifStill.Payload
