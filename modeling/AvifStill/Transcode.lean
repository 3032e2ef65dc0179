import AvifStill.Frame
import AvifStill.Raster
import AvifStill.Yuv

/-!
# Between rasters and frames

A raster of one layout and depth corresponds to one strategy. Gray and alpha samples are copied with
range expansion and depth rescaling; colour goes through `Yuv`. An 8-bit raster pairs with 8-bit
frames, a 16-bit one with 10- and 12-bit frames, so a caller first brings a raster to the depth
class of the frame it wants.
-/

namespace AvifStill

open Color Numeric

namespace HostDepth

/-- A full-range coded sample as a sample of a raster. -/
def ofCodedSample (depth : HostDepth) (value codedDepth : Nat) : depth.Sample :=
  match depth with
  | .eight => clamp .eight value
  | .sixteen => clamp .sixteen (Sample.codecToHost16 value codedDepth)

/-- A sample of a raster as a coded sample. -/
def toCodedSample (depth : HostDepth) (sample : depth.Sample) (codedDepth : Nat) : UInt16 :=
  match depth with
  | .eight => UInt16.ofNat sample.val
  | .sixteen => UInt16.ofNat (Sample.host16ToCodec sample.val codedDepth)

/-- A sample of a raster on another depth's scale. -/
def convert (source target : HostDepth) (sample : source.Sample) : target.Sample :=
  match source, target with
  | .eight, .sixteen => clamp .sixteen (Sample.widen8 sample.val)
  | .sixteen, .eight => clamp .eight (Sample.narrow16 sample.val)
  | .eight, .eight => sample
  | .sixteen, .sixteen => sample

/-- The gray sample of a pixel's colour. -/
def lumaSample (depth : HostDepth) {others : Nat} (pixel : Vector depth.Sample (others + 3)) :
    depth.Sample :=
  depth.ofSingle (Sample.luma (singleOfNat (Pixel.red pixel).val)
    (singleOfNat (Pixel.green pixel).val) (singleOfNat (Pixel.blue pixel).val) + 0.5)

end HostDepth

namespace Raster

/-- Brings a raster to the depth class that pairs with a coded depth, channel by channel. -/
def adaptDepth (raster : Raster) (codedDepth : Nat) : Raster :=
  let depth := HostDepth.ofCoded codedDepth
  if raster.depth = depth then raster
  else {
    layout := raster.layout
    depth := depth
    pixels := raster.pixels.map fun pixel => pixel.map (raster.depth.convert depth) }

/-- Reduces colour to Rec. 709 luma; gray rasters stay as they are. -/
def toGrayscale : Raster → Raster
  | ⟨.rgb, depth, pixels⟩ =>
      ⟨.gray, depth, pixels.map fun pixel => #v[depth.lumaSample pixel]⟩
  | ⟨.rgba, depth, pixels⟩ =>
      ⟨.grayAlpha, depth, pixels.map fun pixel => #v[depth.lumaSample pixel, Pixel.alpha pixel]⟩
  | raster => raster

end Raster

/-- What a decoder produced for one image. -/
structure DecodeInput where
  color : Frame
  alpha : Option Frame
  matrix : YuvMatrix

/-- The frame shape asked for when encoding. -/
structure EncodeTarget where
  depth : Nat
  format : ChromaFormat
  matrix : YuvMatrix

/-- The frames of one image. -/
structure EncodedPlanes where
  color : Frame
  alpha : Option Frame

/-- One way between rasters and frames: the layout and depth of the rasters it handles. -/
structure Strategy where
  layout : ChannelLayout
  depth : HostDepth
  deriving DecidableEq, Repr

namespace Strategy

/-- The strategy for a kind of image. -/
def select (hasAlpha isGray isWide : Bool) : Strategy where
  layout := .ofFlags hasAlpha isGray
  depth := if isWide then .sixteen else .eight

/-- The strategy that handles a raster, selected by what kind of image it is. -/
def ofRaster (raster : Raster) : Strategy :=
  select raster.hasAlpha raster.isGrayscale (raster.depth.bits == 16)

/-- The flags of a raster tell its layout and depth. -/
theorem ofRaster_eq (raster : Raster) : ofRaster raster = ⟨raster.layout, raster.depth⟩ := by
  have layout := raster.layout.ofFlags_hasAlpha_isGray
  have depth : (if raster.depth.bits == 16 then .sixteen else .eight) = raster.depth := by
    cases raster.depth <;> rfl
  rw [ofRaster, select, depth, Raster.hasAlpha, Raster.isGrayscale, layout]

/-- The luma plane of a frame as samples of a raster, in full range. -/
def hostPlane (depth : HostDepth) (frame : Frame) : Grid depth.Sample :=
  frame.luma.map fun value =>
    depth.ofCodedSample (frame.range.expand frame.depth value.toNat) frame.depth

/-- The alpha plane, which keeps its own depth and range but has to have the image's size. -/
def alphaPlane (depth : HostDepth) (input : DecodeInput) : Except Fault (Grid depth.Sample) :=
  match input.alpha with
  | none => .error (.invalidInput .noAlphaPlane)
  | some alpha =>
      if (alpha.width, alpha.height) = (input.color.width, input.color.height) then
        .ok (hostPlane depth alpha)
      else .error (.decode .alphaSize)

/-- The colour of a frame as normalized components. -/
def rgbPixel (depth : HostDepth) (color : Rgb) : Vector depth.Sample 3 :=
  #v[depth.ofUnit color.red, depth.ofUnit color.green, depth.ofUnit color.blue]

/-- The pixels of a decoded image in each layout. -/
def decodePixels (depth : HostDepth) (input : DecodeInput) :
    (layout : ChannelLayout) → Except Fault (Grid (Pixel layout depth))
  | .gray => .ok ((hostPlane depth input.color).map fun value => #v[value])
  | .grayAlpha => do
      let gray := hostPlane depth input.color
      let alpha ← alphaPlane depth input
      return gray.zipWith (fun value opacity => (#v[value, opacity] : Vector depth.Sample 2)) alpha
  | .rgb => do
      let colors ← Yuv.decode input.color input.matrix
      return colors.map (rgbPixel depth)
  | .rgba => do
      let colors ← Yuv.decode input.color input.matrix
      let alpha ← alphaPlane depth input
      return colors.zipWith (fun color opacity => (rgbPixel depth color).push opacity) alpha

/-- Turns frames into a raster of the strategy's layout and depth. -/
def decode (strategy : Strategy) (input : DecodeInput) : Except Fault Raster :=
  if HostDepth.ofCoded input.color.depth ≠ strategy.depth then
    .error (.invalidInput .depthForStrategy)
  else if strategy.layout.hasAlpha ∧ input.alpha.isNone then
    .error (.invalidInput .noAlphaPlane)
  else
    (decodePixels strategy.depth input strategy.layout).map fun pixels =>
      ⟨strategy.layout, strategy.depth, pixels⟩

/-- A full-range monochrome frame whose samples a function gives. -/
def monochrome (width height depth : Nat) (sample : Nat → Nat → UInt16) : Except Fault Frame := do
  let frame ← Frame.blank width height depth .monochrome .full
  return { frame with luma := .build width height sample }

/-- One channel of a raster as a monochrome frame. -/
def channelFrame {layout : ChannelLayout} {depth : HostDepth} (pixels : Grid (Pixel layout depth))
    (codedDepth : Nat) (channel : Pixel layout depth → depth.Sample) : Except Fault Frame :=
  monochrome pixels.width pixels.height codedDepth fun column row =>
    depth.toCodedSample (channel (pixels.cell column row)) codedDepth

/-- The colour of a raster as a frame. -/
def colorFrame {layout : ChannelLayout} {depth : HostDepth} (pixels : Grid (Pixel layout depth))
    (target : EncodeTarget) (color : Pixel layout depth → Rgb) : Except Fault Frame :=
  Yuv.encode pixels.width pixels.height target.depth target.format target.matrix
    fun column row => color (pixels.cell column row)

/-- Normalized components of a pixel's colour. -/
def unitRgb (depth : HostDepth) {others : Nat} (pixel : Vector depth.Sample (others + 3)) : Rgb :=
  ⟨depth.toUnit (Pixel.red pixel), depth.toUnit (Pixel.green pixel),
    depth.toUnit (Pixel.blue pixel)⟩

/-- The frames of a raster's pixels in each layout. -/
def encodePixels (target : EncodeTarget) (depth : HostDepth) :
    (layout : ChannelLayout) → Grid (Pixel layout depth) → Except Fault EncodedPlanes
  | .gray, pixels => do
      let color ← channelFrame pixels target.depth Pixel.gray
      return ⟨color, none⟩
  | .grayAlpha, pixels => do
      let color ← channelFrame pixels target.depth Pixel.gray
      let alpha ← channelFrame pixels target.depth Pixel.alpha
      return ⟨color, some alpha⟩
  | .rgb, pixels => do
      let color ← colorFrame pixels target (unitRgb depth)
      return ⟨color, none⟩
  | .rgba, pixels => do
      let color ← colorFrame pixels target (unitRgb depth)
      let alpha ← channelFrame pixels target.depth Pixel.alpha
      return ⟨color, some alpha⟩

/-- Turns a raster of the strategy's layout and depth into full-range frames. -/
def encode (strategy : Strategy) (raster : Raster) (target : EncodeTarget) :
    Except Fault EncodedPlanes :=
  if raster.layout ≠ strategy.layout ∨ raster.depth ≠ strategy.depth then
    .error (.invalidInput .rasterForStrategy)
  else if HostDepth.ofCoded target.depth ≠ strategy.depth then
    .error (.invalidInput .hostDepth)
  else encodePixels target raster.depth raster.layout raster.pixels

end Strategy

end AvifStill
