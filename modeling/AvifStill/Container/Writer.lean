import AvifStill.Box.Basic
import AvifStill.Container.Basic
import AvifStill.Fault
import AvifStill.Item.Directory

/-!
# Writing containers

A file is written as brands, the item directory and the media data, in which metadata comes first,
then alpha, then colour. The directory gives positions in the file, which depend on its own length;
since their fields have a fixed width, the directory is laid out once with zero positions to measure
it.
-/

namespace AvifStill

open Item

/--
The rule under which a file can be written: its sizes and positions take four bytes, so the whole
file has to be short enough for them.
-/
abbrev Bytes.IsAddressable (file : Bytes) : Prop := file.length < Bytes.capacity 4

namespace Container

/-- A stored item: its number and data. -/
structure Stored where
  item : Nat
  data : Bytes

/-- The value of a colour box for primaries. -/
def boxPrimaries? (primaries : ColorPrimaries) : Option ColorPrimaries.Name :=
  match primaries.code with
  | 1 => some .bt709
  | 2 => some .unspecified
  | 6 => some .bt601
  | 9 => some .bt2020
  | 11 => some .smpte431
  | 12 => some .smpte432
  | _ => none

/-- The value of a colour box for a transfer curve. -/
def boxTransfer? (transfer : TransferCharacteristics) : Option TransferCharacteristics.Name :=
  match transfer.code with
  | 1 => some .bt709
  | 2 => some .unspecified
  | 4 => some .bt470M
  | 5 => some .bt470BG
  | 6 => some .bt601
  | 7 => some .smpte240
  | 8 => some .linear
  | 9 => some .log100
  | 10 => some .log100Sqrt10
  | 11 => some .iec61966
  | 12 => some .bt1361
  | 13 => some .srgb
  | 14 => some .bt2020TenBit
  | 15 => some .bt2020TwelveBit
  | 16 => some .smpte2084
  | 17 => some .smpte428
  | 18 => some .hlg
  | _ => none

/-- The value of a colour box for a matrix. -/
def boxMatrix? (matrix : MatrixCoefficients) : Option MatrixCoefficients.Name :=
  match matrix.code with
  | 0 => some .identity
  | 1 => some .bt709
  | 2 => some .unspecified
  | 6 => some .bt601
  | 8 => some .yCgCo
  | 9 => some .bt2020NonConstant
  | 10 => some .bt2020Constant
  | _ => none

/-- The values of a colour box for code points, if it has one for each of the three. -/
def boxCodes? (cicp : Cicp) : Option NamedCodes := do
  let primaries ← boxPrimaries? cicp.primaries
  let transfer ← boxTransfer? cicp.transfer
  let matrix ← boxMatrix? cicp.matrix
  return ⟨primaries, transfer, matrix⟩

/-- Whether code points have a written form; profiles with others leave them to the coded data. -/
def isWritable (cicp : Cicp) : Bool :=
  (boxCodes? cicp).isSome

/-- The code points that a file without any is taken to have, so they are not written. -/
def impliedCodePoints : Cicp := ⟨⟨1⟩, ⟨13⟩, ⟨6⟩, true⟩

def colorBox (kind : FourCC) (content : Bytes) : Box :=
  ⟨.colr, kind.toBytes ++ content⟩

def codesBox (codes : NamedCodes) (fullRange : Bool) : Box :=
  colorBox .nclx
    (Bytes.ofNat 2 codes.primaries.number.toNat ++ Bytes.ofNat 2 codes.transfer.number.toNat ++
      Bytes.ofNat 2 codes.matrix.number.toNat ++ [if fullRange then 0x80 else 0])

/-- The colour description: a profile if there is one, else code points where they are needed. -/
def colorBox? (container : Container) : Option Box :=
  match container.icc, container.cicp with
  | some icc, _ => some (colorBox .prof icc)
  | none, some cicp =>
      match boxCodes? cicp with
      | some codes =>
          if cicp ≠ impliedCodePoints then some (codesBox codes cicp.fullRange) else none
      | none => none
  | none, none => none

def word (value : UInt32) : Bytes := Bytes.ofNat 4 value.toNat

def clapBox (clap : CleanAperture) : Box :=
  ⟨.clap, word clap.widthNumerator ++ word clap.widthDenominator ++ word clap.heightNumerator ++
    word clap.heightDenominator ++ word clap.offsetXNumerator ++ word clap.offsetXDenominator ++
    word clap.offsetYNumerator ++ word clap.offsetYDenominator⟩

/-- The codec configuration as written, from the depth and what is known of the format. -/
def configBox (depth : Nat) (profile : UInt8) (monochrome subsamplingX subsamplingY : Bool) : Box :=
  ⟨.av1C, ({
    profile, level := 31, tier := false, highBitDepth := decide (10 ≤ depth),
    twelveBit := decide (12 ≤ depth), monochrome, subsamplingX, subsamplingY,
    samplePosition := 0 } : Av1.Config).toBytes⟩

/-- The least profile of a depth. -/
def leastProfile (depth : Nat) : UInt8 :=
  if 12 ≤ depth then 2 else 0

def channelsBox (channels depth : Nat) : Box :=
  .full .pixi 0 (UInt8.ofNat channels :: List.replicate channels (UInt8.ofNat depth))

/-- A property with the flag that marks it as essential. -/
structure Written where
  box : Box
  essential : Bool

/-- The properties of the colour image, in order. -/
def colorProperties (container : Container) : List Written :=
  let color := container.color
  let config := color.config
  let depth := config.depth
  [⟨.full .ispe 0 (word color.width ++ word color.height), false⟩,
    ⟨configBox depth (max config.profile (leastProfile depth)) config.monochrome
      config.subsamplingX config.subsamplingY, true⟩,
    ⟨channelsBox 3 depth, false⟩] ++
  ((colorBox? container).map fun box => ⟨box, false⟩).toList ++
  (container.transforms.rotation.map fun turns => ⟨⟨.irot, [turns &&& 3]⟩, true⟩).toList ++
  (container.transforms.mirror.map fun axis => ⟨⟨.imir, [axis &&& 1]⟩, true⟩).toList ++
  (container.transforms.clap.map fun clap => ⟨clapBox clap, true⟩).toList

/-- The properties of the alpha image that it does not share with the colour image. -/
def alphaProperties (container : Container) : List Box :=
  let depth := container.color.config.depth
  if container.alpha.isSome then
    [configBox depth (leastProfile depth) true true true, channelsBox 1 depth,
      .full .auxC 0 (alphaName ++ [0])]
  else []

/-- A position in the property list, marked if essential. -/
def indexByte (index : Nat) (essential : Bool) : UInt8 :=
  UInt8.ofNat (if essential then index + 128 else index)

/-- The properties of both images and their association with them. -/
def propertiesBox (container : Container) : Box :=
  let color := colorProperties container
  let alpha := alphaProperties container
  let list : Box :=
    ⟨.ipco, (color.map (·.box) ++ alpha).flatMap Box.toBytes⟩
  let colorLinks := Bytes.ofNat 2 1 ++ UInt8.ofNat color.length ::
    color.mapIdx fun index written => indexByte (index + 1) written.essential
  let alphaLinks :=
    if container.alpha.isSome then
      Bytes.ofNat 2 2 ++ [4, indexByte 1 false, indexByte (color.length + 1) true,
        indexByte (color.length + 3) false, indexByte (color.length + 2) false]
    else []
  let links : Box := .full .ipma 0
    (Bytes.ofNat 4 (if container.alpha.isSome then 2 else 1) ++ colorLinks ++ alphaLinks)
  ⟨.iprp, list.toBytes ++ links.toBytes⟩

/-- The items with their data, in the order in which the data is stored. -/
def storedItems (container : Container) : List Stored :=
  (container.exifItem.map fun exif => ⟨3, exif⟩).toList ++
  (container.xmp.map fun xmp => ⟨if container.exifItem.isSome then 4 else 3, xmp⟩).toList ++
  (container.alpha.map fun alpha => ⟨2, alpha.data⟩).toList ++
  [⟨1, container.color.data⟩]

def entryBox (item : Nat) (kind : FourCC) (contentType : Bytes) : Box :=
  .full .infe 2 (Bytes.ofNat 2 item ++ Bytes.ofNat 2 0 ++ kind.toBytes ++ [0] ++ contentType)

/-- The item list. -/
def entriesBox (container : Container) : Box :=
  let entries : List Box :=
    [entryBox 1 .av01 []] ++
    (container.exifItem.map fun _ => entryBox 3 .exif []).toList ++
    (container.xmp.map fun _ =>
      entryBox (if container.exifItem.isSome then 4 else 3) .mime (xmpContentType ++ [0])).toList ++
    (container.alpha.map fun _ => entryBox 2 .av01 []).toList
  .full .iinf 0 (Bytes.ofNat 2 entries.length ++ entries.flatMap Box.toBytes)

def referenceBox (kind : FourCC) (source target : Nat) : Box :=
  ⟨kind, Bytes.ofNat 2 source ++ Bytes.ofNat 2 1 ++ Bytes.ofNat 2 target⟩

/-- The references, if there are any. -/
def referencesBox? (container : Container) : Option Box :=
  let references : List Box :=
    (container.exifItem.map fun _ => referenceBox .cdsc 3 1).toList ++
    (container.xmp.map fun _ =>
      referenceBox .cdsc (if container.exifItem.isSome then 4 else 3) 1).toList ++
    (container.alpha.map fun _ => referenceBox .auxl 2 1).toList ++
    (if container.alpha.isSome ∧ container.premultiplied then [referenceBox .prem 1 2] else [])
  if references.isEmpty then none
  else some (.full .iref 0 (references.flatMap Box.toBytes))

/-- The location table for data stored from a position in the file on. -/
def locationsBox (items : List Stored) (start : Nat) : Box :=
  let entries := items.foldl
    (fun (written, position) stored =>
      (written ++ Bytes.ofNat 2 stored.item ++ Bytes.ofNat 2 0 ++ Bytes.ofNat 2 1 ++
        Bytes.ofNat 4 position ++ Bytes.ofNat 4 stored.data.length,
        position + stored.data.length))
    (([], start) : Bytes × Nat)
  .full .iloc 0 ([0x44, 0x00] ++ Bytes.ofNat 2 items.length ++ entries.1)

/-- The handler of pictures, without a name. -/
def handlerBox : Box :=
  .full .hdlr 0 (Bytes.ofNat 4 0 ++ FourCC.pict.toBytes ++ List.replicate 12 0 ++ [0])

/-- The item directory, for data stored from a position in the file on. -/
def directoryBox (container : Container) (start : Nat) : Box :=
  .full .metadata 0
    (([handlerBox, .full .pitm 0 (Bytes.ofNat 2 1),
        locationsBox (storedItems container) start, entriesBox container] ++
      (referencesBox? container).toList ++ [propertiesBox container]).flatMap Box.toBytes)

def brandsBox : Box :=
  ⟨.ftyp, FourCC.avif.toBytes ++ Bytes.ofNat 4 0 ++ FourCC.mif1.toBytes ++ FourCC.miaf.toBytes⟩

/-- The position in the file at which the stored data starts. -/
def dataStart (container : Container) : Nat :=
  brandsBox.toBytes.length + (directoryBox container 0).toBytes.length + 8

/-- The bytes of a file. -/
def toBytes (container : Container) : Bytes :=
  brandsBox.toBytes ++ (directoryBox container (dataStart container)).toBytes ++
    Box.toBytes ⟨.mdat, (storedItems container).flatMap (·.data)⟩

/-- Whether an alpha image has the size and depth of the colour image. -/
def alphaFits (container : Container) : Bool :=
  container.alpha.all fun alpha =>
    alpha.width == container.color.width && alpha.height == container.color.height &&
      alpha.config.depth == container.color.config.depth

/-- Writes a file. The image may not be empty, and alpha has to fit it. -/
def serialize (container : Container) : Except Fault Bytes :=
  if ¬alphaFits container then .error (.invalidInput .alphaItem)
  else if container.color.width = 0 ∨ container.color.height = 0 then .error .write
  else .ok (toBytes container)

end Container

end AvifStill
