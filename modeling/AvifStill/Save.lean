import AvifStill.Color.Description
import AvifStill.Container.Writer
import AvifStill.Icc.Conversion
import AvifStill.Metadata
import AvifStill.Options
import AvifStill.Tile
import AvifStill.Transcode

/-!
# Saving images

Turns a raster into a file: its colour is resolved and the samples are converted where needed, the
frames are handed to the encoder, colour before alpha, and the payloads are written with the
metadata. Everything that can fail before the encoder is called is done first.
-/

namespace AvifStill

open Av1 Color

/-- A point that a save has reached. -/
inductive Milestone where
  | colorEncoded
  | alphaEncoded
  | assembled
  deriving DecidableEq, Repr

/-- The fraction of the work that is done. -/
def Milestone.fraction : Milestone → Float32
  | colorEncoded => 0.5
  | alphaEncoded => 0.75
  | assembled => 1.0

/-- A saved image: the file, and what was written into it. -/
structure SavedImage where
  file : Bytes
  colorSize : Nat
  alphaSize : Nat
  icc : Option Bytes
  /-- The declared code points, where no profile is embedded. -/
  cicp : Option Cicp
  exif : Option Bytes
  xmp : Option Bytes
  color : Description

namespace SavedImage

variable {σ : Type}

/-- Everything that is settled before the encoder is called. -/
structure Plan where
  options : EncodeOptions
  width : UInt32
  height : UInt32
  color : Encoded
  planes : EncodedPlanes
  settings : Settings

/-- The size of a raster as 32-bit words; in the fault, sizes that do not fit become the largest. -/
def frameSize (raster : Raster) : Except Fault (UInt32 × UInt32) :=
  if raster.width = 0 ∨ raster.height = 0 then .error (.invalidInput .noPixels)
  else if UInt32.size ≤ raster.width ∨ UInt32.size ≤ raster.height then
    .error (.imageTooLarge (min raster.width (UInt32.size - 1))
      (min raster.height (UInt32.size - 1)))
  else .ok (UInt32.ofNat raster.width, UInt32.ofNat raster.height)

/-- The raster in the depth class and colour in which it is encoded. -/
def hostRaster (raster : Raster) (options : EncodeOptions) (color : Encoded) :
    Except Fault Raster :=
  let adapted := raster.adaptDepth options.depth
  match color.conversion with
  | some conversion => adapted.convert conversion.source conversion.target
  | none => .ok adapted

/-- The chroma format of a raster's frame; gray rasters have none. -/
def frameFormat (raster : Raster) (options : EncodeOptions) : ChromaFormat :=
  if raster.isGrayscale then .monochrome else options.format

/-- What the encoder is told about the colour frame. -/
def colorSettings (options : EncodeOptions) (cicp : Cicp) (tiles : Tile.Layout) : Settings where
  leastQuantizer := options.leastQuantizer
  mostQuantizer := options.mostQuantizer
  speed := options.speed
  codec := options.codec
  threads := options.threads
  tileColumnsLog2 := tiles.columnsLog2
  tileRowsLog2 := tiles.rowsLog2
  timescale := 1
  cicp := cicp
  isAlpha := false

/-- What the encoder is told about the alpha frame. -/
def alphaSettings (plan : Plan) : Settings :=
  { plan.settings with
    leastQuantizer := 0
    mostQuantizer := plan.options.alphaQuantizer
    isAlpha := true }

/-- Settles everything that comes before the encoder. -/
def plan (raster : Raster) (color : RasterColor) (options : EncodeOptions) : Except Fault Plan := do
  let options ← options.validate
  let (width, height) ← frameSize raster
  let resolved ← Encoded.resolve color raster.isGrayscale options.savesIcc
  let host ← hostRaster raster options resolved
  let matrix ← YuvMatrix.ofCicp resolved.cicp.matrix resolved.cicp.primaries
  let planes ← (Strategy.ofRaster host).encode host
    ⟨options.depth, frameFormat raster options, matrix⟩
  return {
    options := options
    width := width
    height := height
    color := resolved
    planes := planes
    settings := colorSettings options resolved.cicp (Tile.plan width height) }

/-- The payloads of an image. -/
structure Encodings where
  color : Payload
  alpha : Option Payload

/-- The Exif block that is written: long enough, and asked for. -/
def writtenExif (options : EncodeOptions) (metadata : Metadata) : Option Bytes :=
  if options.savesExif then
    metadata.exif.filter fun exif => (Metadata.exifToItem? exif).isSome
  else none

/-- The XMP block that is written: not empty, and asked for. -/
def writtenXmp (options : EncodeOptions) (metadata : Metadata) : Option Bytes :=
  if options.savesXmp then metadata.xmp.filter fun xmp => !xmp.isEmpty else none

def codedImage (plan : Plan) (payload : Payload) : CodedImage :=
  ⟨payload.data, payload.config, plan.width, plan.height⟩

/-- The container of a planned image with its payloads. -/
def containerOf (plan : Plan) (metadata : Metadata) (encodings : Encodings) : Container where
  color := codedImage plan encodings.color
  alpha := encodings.alpha.map (codedImage plan)
  cicp := some plan.color.cicp
  icc := plan.color.icc
  transforms := .none
  exifItem := (writtenExif plan.options metadata).bind Metadata.exifToItem?
  xmp := writtenXmp plan.options metadata
  premultiplied := false

/-- Writes the file of a planned image. -/
def assemble (plan : Plan) (metadata : Metadata) (encodings : Encodings) :
    Except Fault SavedImage := do
  let file ← (containerOf plan metadata encodings).serialize
  return {
    file := file
    colorSize := encodings.color.data.length
    alphaSize := (encodings.alpha.map fun payload => payload.data.length).getD 0
    icc := plan.color.icc
    cicp := if plan.color.icc.isNone then some plan.color.cicp else none
    exif := writtenExif plan.options metadata
    xmp := writtenXmp plan.options metadata
    color := plan.color.description }

/-- The outcome of a save, the points it reached and the state it left the encoder in. -/
structure Run (σ : Type) where
  result : Except Fault SavedImage
  reached : List Milestone
  state : σ

/-- Has the alpha frame encoded, if there is one. -/
def encodeAlpha (encoder : Encoder σ) (plan : Plan) (state : σ) :
    Except Fault (Option Payload) × σ :=
  match plan.planes.alpha with
  | none => (.ok none, state)
  | some alpha =>
      let (result, state) := encoder.encode alpha (alphaSettings plan) state
      (result.map some, state)

/-- Carries out a plan. -/
def execute (encoder : Encoder σ) (plan : Plan) (metadata : Metadata) (state : σ) : Run σ :=
  match encoder.encode plan.planes.color plan.settings state with
  | (.error fault, state) => ⟨.error fault, [], state⟩
  | (.ok color, state) =>
      match encodeAlpha encoder plan state with
      | (.error fault, state) => ⟨.error fault, [.colorEncoded], state⟩
      | (.ok alpha, state) =>
          match assemble plan metadata ⟨color, alpha⟩ with
          | .error fault => ⟨.error fault, [.colorEncoded, .alphaEncoded], state⟩
          | .ok saved => ⟨.ok saved, [.colorEncoded, .alphaEncoded, .assembled], state⟩

/-- Saves a raster. -/
def save (raster : Raster) (color : RasterColor) (options : EncodeOptions) (metadata : Metadata)
    (encoder : Encoder σ) (state : σ) : Run σ :=
  match plan raster color options with
  | .error fault => ⟨.error fault, [], state⟩
  | .ok plan => execute encoder plan metadata state

end SavedImage

end AvifStill
