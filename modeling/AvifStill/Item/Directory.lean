import AvifStill.Item.Entry
import AvifStill.Item.Location
import AvifStill.Item.Property

/-!
# The item directory of a file

Everything a file says about its items, and the questions a reader asks: which item is the image,
which one its alpha, which ones its metadata.
-/

namespace AvifStill.Item

structure Directory where
  primary : Nat
  locations : List Location
  entries : List Entry
  references : List Reference
  table : PropertyTable
  itemData : Bytes
  deriving DecidableEq, Repr

/-- The name of alpha images. -/
def alphaName : Bytes := .ofText "urn:mpeg:mpegB:cicp:systems:auxiliary:alpha"

/-- An older name of alpha images, which is still read. -/
def olderAlphaName : Bytes := .ofText "urn:mpeg:hevc:2015:auxid:1"

/-- The content type of XMP items. -/
def xmpContentType : Bytes := .ofText "application/rdf+xml"

namespace Directory

def empty : Directory := ⟨0, [], [], [], .empty, []⟩

/-- The handler has to be the one of pictures. -/
def scanHandler : Scan Unit := do
  let _ ← Scan.nat truncated 8
  let kind ← Scan.fourCC truncated
  if kind ≠ .pict then Scan.fail (.parse .handlerNotPicture) else pure ()

def scanPrimary : Scan Nat := do
  let version ← Scan.nat truncated 1
  let _ ← Scan.nat truncated 3
  Scan.nat truncated (if version = 0 then 2 else 4)

/-- What has been read of a directory, and whether its handler was among it. -/
structure Progress where
  directory : Directory
  hasHandler : Bool

/--
Takes in one box. Of a repeated box the last one counts, but properties and associations add up.
Boxes of other kinds are skipped.
-/
def step (progress : Progress) (box : Box) : Except Fault Progress := do
  let directory := progress.directory
  if box.kind = .hdlr then
    scanHandler.run' box.content
    return { progress with hasHandler := true }
  else if box.kind = .pitm then
    let primary ← scanPrimary.run' box.content
    return { progress with directory := { directory with primary } }
  else if box.kind = .iloc then
    let locations ← Location.scanTable.run' box.content
    return { progress with directory := { directory with locations } }
  else if box.kind = .iinf then
    let entries ← Entry.scanTable.run' box.content
    return { progress with directory := { directory with entries } }
  else if box.kind = .iref then
    let references ← Reference.scanTable.run' box.content
    return { progress with directory := { directory with references } }
  else if box.kind = .iprp then
    let table ← PropertyTable.read box.content
    return { progress with directory := { directory with table := directory.table.append table } }
  else if box.kind = .idat then
    return { progress with directory := { directory with itemData := box.content } }
  else return progress

/-- Reads a directory from the content of its box. -/
def read (content : Bytes) : Except Fault Directory := do
  let (_, boxes) ← Scan.bytes truncated 4 content
  let progress ← (Box.split boxes).foldM step ⟨.empty, false⟩
  if progress.hasHandler then return progress.directory else throw (.parse .noHandler)

/-- The first entry of an item. -/
def entry? (directory : Directory) (item : Nat) : Option Entry :=
  directory.entries.find? fun entry => entry.item == item

/-- The data of an item; its first location counts. -/
def data (directory : Directory) (file : Bytes) (item : Nat) : Except Fault Bytes :=
  match directory.locations.find? fun location => location.item == item with
  | some location => location.data file directory.itemData
  | none => .error (.parse .noLocation)

/-- Whether an item is described as an alpha image. -/
def isAlpha (directory : Directory) (item : Nat) : Bool :=
  (directory.table.ofItem item).any fun property =>
    property == .auxiliary alphaName || property == .auxiliary olderAlphaName

/-- The first coded item that is an alpha image of another. -/
def alphaItem? (directory : Directory) (item : Nat) : Option Nat :=
  ((directory.references.filter fun reference =>
      reference.kind == .auxl && reference.target == item).map (·.source)).find?
    fun source =>
      ((directory.entry? source).any fun entry => entry.kind == .av01) && directory.isAlpha source

/-- Whether a metadata item is said to describe an item. -/
def describes (directory : Directory) (source target : Nat) : Bool :=
  directory.references.any fun reference =>
    reference.kind == .cdsc && reference.source == source && reference.target == target

/-- The first item of a kind that describes an item, or the first of that kind at all. -/
def metadataItem? (directory : Directory) (item : Nat) (wanted : Entry → Bool) : Option Nat :=
  let candidates := (directory.entries.filter wanted).map (·.item)
  (candidates.find? fun candidate => directory.describes candidate item).or candidates.head?

/-- The data of the first metadata item of a kind, if it can be read. -/
def metadata? (directory : Directory) (file : Bytes) (item : Nat) (wanted : Entry → Bool) :
    Option Bytes :=
  (directory.metadataItem? item wanted).bind fun found => (directory.data file found).toOption

end Directory

/-- The brands of a file. -/
structure Brands where
  major : FourCC
  compatible : List FourCC
  deriving DecidableEq, Repr

namespace Brands

/-- Codes of four bytes each; a shorter rest is left out. -/
def codes : Bytes → List FourCC
  | first :: second :: third :: fourth :: rest => ⟨first, second, third, fourth⟩ :: codes rest
  | _ => []

def read (content : Bytes) : Except Fault Brands := do
  let (major, rest) ← Scan.fourCC truncated content
  let (_, rest) ← Scan.bytes truncated 4 rest
  return ⟨major, codes rest⟩

def has (brands : Brands) (brand : FourCC) : Bool :=
  brands.major == brand || brands.compatible.contains brand

/-- Whether the file is an image or an image sequence of the right family. -/
def isAvif (brands : Brands) : Bool :=
  brands.has .avif || brands.has .avis

end Brands

/-- What has been seen of a file's outermost boxes. -/
structure Outline where
  brands : Option Brands
  directory : Option Directory
  hasMovie : Bool

namespace Outline

/-- Takes in one outermost box; the brands have to come first. -/
def step (outline : Outline) (box : Box) : Except Fault Outline :=
  if box.kind = .ftyp then do
    let brands ← Brands.read box.content
    if brands.isAvif then return { outline with brands := some brands }
    else throw (.parse .notAvif)
  else if outline.brands = none then .error (.parse .notAvif)
  else if box.kind = .metadata then do
    return { outline with directory := some (← Directory.read box.content) }
  else if box.kind = .moov then .ok { outline with hasMovie := true }
  else .ok outline

end Outline

/-- Reads the item directory of a file. -/
def Directory.ofFile (file : Bytes) : Except Fault Directory := do
  if file = [] then throw (.parse .emptyInput)
  let outline ← (Box.split file).foldM Outline.step ⟨none, none, false⟩
  match outline.brands, outline.directory with
  | none, _ => throw (.parse .notAvif)
  | some _, some directory => return directory
  | some brands, none =>
      if outline.hasMovie ∨ brands.has .avis then throw (.unsupported .imageSequence)
      else throw (.parse .noMeta)

end AvifStill.Item
