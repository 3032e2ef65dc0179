import AvifStill.Color.Description
import AvifStill.Container.Reader
import AvifStill.Metadata
import AvifStill.Options
import AvifStill.Transcode

/-!
# Loading images

Reads a file, has its items decoded, works out their colour and turns the frames into a raster as it
is to be shown. The decoder is a parameter; its state is returned on success and on failure, so that
it is known which items were handed to it.
-/

namespace AvifStill

open Av1 Color

/-- An image as loaded. -/
structure LoadedImage where
  raster : Raster
  color : Description
  /-- The profile of the raster: the embedded one, or one built from code points. -/
  icc : Option Bytes
  metadata : Metadata
  /-- The transforms of the file, whether applied or not. -/
  transforms : Transforms
  /-- The crop that was made. -/
  crop : Option CropRect

namespace LoadedImage

variable {σ : Type}

/-- A decoded frame has to be valid and to have the size of its item. -/
def checkFrame (item : CodedImage) (frame : Frame) : Except Fault Frame := do
  frame.validate
  if frame.width ≠ item.width.toNat ∨ frame.height ≠ item.height.toNat then
    throw (.decode (.frameSize frame.width frame.height item.width.toNat item.height.toNat))
  return frame

/-- Has one item decoded. -/
def decodeItem (decoder : Decoder σ) (item : CodedImage) (state : σ) : Except Fault Frame × σ :=
  let (result, state) := decoder.decode item.data item.config state
  (result.bind (checkFrame item), state)

/-- The frames of a file. -/
structure Frames where
  color : Frame
  alpha : Option Frame

/-- Has the items of a file decoded, colour first. -/
def decodeItems (decoder : Decoder σ) (file : Container) (state : σ) : Except Fault Frames × σ :=
  match decodeItem decoder file.color state with
  | (.error fault, state) => (.error fault, state)
  | (.ok color, state) =>
      match file.alpha with
      | none => (.ok ⟨color, none⟩, state)
      | some item =>
          let (alpha, state) := decodeItem decoder item state
          (alpha.map fun alpha => ⟨color, some alpha⟩, state)

/-- What a file without code points of its own is taken to have. -/
def unspecified : Cicp := ⟨⟨2⟩, ⟨2⟩, ⟨6⟩, true⟩

/--
The code points of an image: those of the file, else those of the coded frame. The range is always
the one of the frame.
-/
def codePoints (file : Container) (frame : Frame) : Cicp :=
  { (file.cicp.or frame.cicp).getD unspecified with fullRange := frame.range.isFull }

/-- The matrix by which the planes become colour; gray images need none and take BT.709. -/
def matrixFor (cicp : Cicp) (isGray : Bool) : Except Fault YuvMatrix :=
  if isGray then .ok .bt709 else YuvMatrix.ofCicp cicp.matrix cicp.primaries

/-- The raster of a file's frames, before its transforms. -/
def rasterOf (file : Container) (frames : Frames) (decoded : Decoded) (cicp : Cicp) :
    Except Fault Raster := do
  let isGray := frames.color.format.isMonochrome || decoded.loadsGray
  let matrix ← matrixFor cicp isGray
  let strategy := Strategy.select frames.alpha.isSome isGray (8 < frames.color.depth)
  let raster ← strategy.decode ⟨frames.color, frames.alpha, matrix⟩
  let raster := if decoded.description.isGray && !isGray then raster.toGrayscale else raster
  return if file.premultiplied then raster.unpremultiply else raster

/-- The image of a file whose frames have been decoded. -/
def ofFrames (options : DecodeOptions) (file : Container) (frames : Frames) :
    Except Fault LoadedImage := do
  let cicp := codePoints file frames.color
  let decoded ← Decoded.resolve file.icc cicp frames.color.format.isMonochrome
  let raster ← rasterOf file frames decoded cicp
  let (raster, crop) :=
    if options.appliesTransforms && !file.transforms.isEmpty then file.transforms.apply raster
    else (raster, none)
  return {
    raster := raster
    color := decoded.description
    icc := decoded.icc
    metadata := {
      exif := file.exifItem.bind fun item => (Metadata.exifOfItem item).toOption
      xmp := file.xmp }
    transforms := file.transforms
    crop := crop }

/-- The container of a file, if its image is not too large. -/
def open? (options : DecodeOptions) (file : Bytes) : Except Fault Container := do
  let container ← Container.parse file
  options.checkSize container.color.width container.color.height
  return container

/-- Loads a file. -/
def load (options : DecodeOptions) (decoder : Decoder σ) (file : Bytes) (state : σ) :
    Except Fault LoadedImage × σ :=
  match open? options file with
  | .error fault => (.error fault, state)
  | .ok container =>
      match decodeItems decoder container state with
      | (.error fault, state) => (.error fault, state)
      | (.ok frames, state) => (ofFrames options container frames, state)

end LoadedImage

end AvifStill
