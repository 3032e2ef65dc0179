import AvifStill.Av1.Config
import AvifStill.Box.Basic
import AvifStill.Transform

/-!
# Item properties

Properties describe items: size, codec configuration, colour, transforms. They are stored once, in a
list, and associated with items by their position in it, counted from one.
-/

namespace AvifStill.Item

inductive Property where
  | extent (width height : UInt32)
  | config (config : Av1.Config)
  | codePoints (cicp : Cicp)
  | profile (icc : Bytes)
  | auxiliary (name : Bytes)
  | clap (clap : CleanAperture)
  | rotation (turns : UInt8)
  | mirror (axis : UInt8)
  | other
  deriving DecidableEq, Repr

namespace Property

/-- A code of 16 bits as one of eight; codes that do not fit become the largest. -/
def scanCode : Scan UInt8 := do
  return UInt8.ofNat (min (← Scan.nat truncated 2) 255)

def scanCodePoints : Scan Property := do
  let primaries ← scanCode
  let transfer ← scanCode
  let matrix ← scanCode
  let range ← Scan.byte truncated
  return .codePoints ⟨⟨primaries⟩, ⟨transfer⟩, ⟨matrix⟩, Av1.Config.testBit range 0x80⟩

def scanColor : Scan Property := do
  let kind ← Scan.fourCC truncated
  if kind = .nclx then scanCodePoints
  else if kind = .prof ∨ kind = .rICC then .profile <$> Scan.rest
  else pure .other

def scanClap : Scan Property := do
  let widthNumerator ← Scan.word truncated
  let widthDenominator ← Scan.word truncated
  let heightNumerator ← Scan.word truncated
  let heightDenominator ← Scan.word truncated
  let offsetXNumerator ← Scan.word truncated
  let offsetXDenominator ← Scan.word truncated
  let offsetYNumerator ← Scan.word truncated
  let offsetYDenominator ← Scan.word truncated
  return .clap {
    widthNumerator, widthDenominator, heightNumerator, heightDenominator, offsetXNumerator,
    offsetXDenominator, offsetYNumerator, offsetYDenominator }

/-- Reads the content of a property; what follows the fields in use is not looked at. -/
def scan (kind : FourCC) : Scan Property :=
  if kind = .ispe then do
    let _ ← Scan.nat truncated 4
    let width ← Scan.word truncated
    let height ← Scan.word truncated
    return .extent width height
  else if kind = .av1C then do
    let record ← Scan.bytes truncated 4
    .config <$> monadLift (Av1.Config.ofBytes? record)
  else if kind = .colr then scanColor
  else if kind = .auxC then do
    let _ ← Scan.nat truncated 4
    .auxiliary <$> Scan.text
  else if kind = .clap then scanClap
  else if kind = .irot then do
    return .rotation ((← Scan.byte truncated) &&& 3)
  else if kind = .imir then do
    return .mirror ((← Scan.byte truncated) &&& 1)
  else pure .other

end Property

/-- The property positions of one item, as one association lists them. -/
structure Association where
  item : Nat
  indices : List Nat
  deriving DecidableEq, Repr

namespace Association

/-- A position with the flag that marks it as essential left out. -/
def scanIndex (wide : Bool) : Scan Nat := do
  if wide then return (← Scan.nat truncated 2) % 32768
  else return (← Scan.nat truncated 1) % 128

def scan (version : Nat) (wide : Bool) : Scan Association := do
  let item ← Scan.nat truncated (if version < 1 then 2 else 4)
  let count ← Scan.nat truncated 1
  let indices ← Scan.times count (scanIndex wide)
  return ⟨item, indices⟩

/-- Reads an association table. -/
def scanTable : Scan (List Association) := do
  let version ← Scan.nat truncated 1
  let flags ← Scan.nat truncated 3
  let count ← Scan.nat truncated 4
  Scan.times count (scan version (flags % 2 == 1))

end Association

/-- The properties of a file and their association with items. -/
structure PropertyTable where
  properties : List Property
  associations : List Association
  deriving DecidableEq, Repr

namespace PropertyTable

def empty : PropertyTable := ⟨[], []⟩

def append (left right : PropertyTable) : PropertyTable :=
  ⟨left.properties ++ right.properties, left.associations ++ right.associations⟩

/-- Reads the list of properties. -/
def readProperties (content : Bytes) : Except Fault (List Property) :=
  (Box.split content).foldM
    (fun properties box => do return properties ++ [← (Property.scan box.kind).run' box.content])
    []

/-- Reads the association tables among some boxes. -/
def readAssociations (content : Bytes) : Except Fault (List Association) :=
  (Box.split content).foldM
    (fun associations box =>
      if box.kind = .ipma then do
        return associations ++ (← Association.scanTable.run' box.content)
      else .ok associations)
    []

/-- Reads a property table: the list has to come first. -/
def read (content : Bytes) : Except Fault PropertyTable := do
  let (list, rest) ← Box.scan content
  if list.kind ≠ .ipco then throw (.parse .propertiesNotFirst)
  else
    let properties ← readProperties list.content
    let associations ← readAssociations rest
    return ⟨properties, associations⟩

/-- The properties of an item, in the order of their associations. -/
def ofItem (table : PropertyTable) (item : Nat) : List Property :=
  (table.associations.filter fun association => association.item == item).flatMap
    fun association => association.indices.filterMap fun index =>
      if index = 0 then none else table.properties[index - 1]?

end PropertyTable

end AvifStill.Item
