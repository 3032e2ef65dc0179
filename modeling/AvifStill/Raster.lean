import AvifStill.Grid
import AvifStill.Numeric.Binary

/-!
# Rasters

A raster is an image as a caller holds it: packed gray or RGB pixels, with or without alpha, at 8 or
16 bits per sample, always full range. Layout and depth are part of a pixel's type, so a sample is
never out of range and a pixel never has the wrong number of channels; `Raster.samples?` is the view
that forgets both.
-/

namespace AvifStill

inductive ChannelLayout where
  | gray
  | grayAlpha
  | rgb
  | rgba
  deriving DecidableEq, Repr

namespace ChannelLayout

def channels : ChannelLayout → Nat
  | gray => 1
  | grayAlpha => 2
  | rgb => 3
  | rgba => 4

def hasAlpha : ChannelLayout → Bool
  | gray => false
  | grayAlpha => true
  | rgb => false
  | rgba => true

def isGray : ChannelLayout → Bool
  | gray => true
  | grayAlpha => true
  | rgb => false
  | rgba => false

/-- The layout with or without alpha and colour. -/
def ofFlags (hasAlpha isGray : Bool) : ChannelLayout :=
  match hasAlpha, isGray with
  | false, true => gray
  | true, true => grayAlpha
  | false, false => rgb
  | true, false => rgba

@[simp]
theorem ofFlags_hasAlpha_isGray (layout : ChannelLayout) :
    ofFlags layout.hasAlpha layout.isGray = layout := by
  cases layout <;> rfl

end ChannelLayout

/-- Bits per sample of a raster. -/
inductive HostDepth where
  | eight
  | sixteen
  deriving DecidableEq, Repr

namespace HostDepth

def bits : HostDepth → Nat
  | eight => 8
  | sixteen => 16

/-- The largest sample. -/
def max : HostDepth → Nat
  | eight => 255
  | sixteen => 65535

/-- Coded depths above eight bits pair with 16-bit rasters. -/
def ofCoded (depth : Nat) : HostDepth :=
  if 8 < depth then sixteen else eight

/-- A sample of a raster: a whole number up to the largest one. -/
abbrev Sample (depth : HostDepth) := Fin (depth.max + 1)

instance (depth : HostDepth) : Inhabited depth.Sample := ⟨⟨0, Nat.succ_pos _⟩⟩

/-- The sample closest to a whole number. -/
def clamp (depth : HostDepth) (value : Nat) : depth.Sample :=
  ⟨min value depth.max, Nat.lt_succ_of_le (Nat.min_le_right ..)⟩

/-- The sample below a single-precision number, within range; zero for no number. -/
def ofSingle (depth : HostDepth) (value : Float32) : depth.Sample :=
  depth.clamp value.toUInt64.toNat

/-- The sample of a colour component between zero and one. -/
def ofUnit (depth : HostDepth) (value : Float32) : depth.Sample :=
  depth.ofSingle (value * Numeric.singleOfNat depth.max + 0.5)

/-- The colour component of a sample. -/
def toUnit (depth : HostDepth) (sample : depth.Sample) : Float32 :=
  Numeric.singleOfNat sample.val / Numeric.singleOfNat depth.max

end HostDepth

/-- One pixel: a sample per channel, alpha last. -/
abbrev Pixel (layout : ChannelLayout) (depth : HostDepth) := Vector depth.Sample layout.channels

instance (layout : ChannelLayout) (depth : HostDepth) : Inhabited (Pixel layout depth) :=
  ⟨Vector.replicate _ default⟩

namespace Pixel

variable {Sample : Type} {others : Nat}

def gray (pixel : Vector Sample (others + 1)) : Sample := pixel[0]

def red (pixel : Vector Sample (others + 3)) : Sample := pixel[0]

def green (pixel : Vector Sample (others + 3)) : Sample := pixel[1]

def blue (pixel : Vector Sample (others + 3)) : Sample := pixel[2]

/-- The last sample, for layouts with alpha. -/
def alpha (pixel : Vector Sample (others + 1)) : Sample := pixel[others]

end Pixel

structure Raster where
  layout : ChannelLayout
  depth : HostDepth
  pixels : Grid (Pixel layout depth)

namespace Raster

def width (raster : Raster) : Nat := raster.pixels.width

def height (raster : Raster) : Nat := raster.pixels.height

def hasAlpha (raster : Raster) : Bool := raster.layout.hasAlpha

def isGrayscale (raster : Raster) : Bool := raster.layout.isGray

/-- Bytes of a packed row. -/
def rowBytes (raster : Raster) : Nat :=
  raster.width * raster.layout.channels * (raster.depth.bits / 8)

/-- The samples of a visible pixel. -/
def samples? (raster : Raster) (column row : Nat) : Option (List Nat) :=
  (raster.pixels.cell? column row).map fun pixel => pixel.toList.map Fin.val

/-- All visible samples, interleaved, in reading order. -/
def toList (raster : Raster) : List Nat :=
  raster.pixels.toList.flatMap fun pixel => pixel.toList.map Fin.val

/-- A pixel from interleaved samples, starting at an index; samples past the end are zero. -/
def pixelAt (layout : ChannelLayout) (depth : HostDepth) (samples : Array Nat) (index : Nat) :
    Pixel layout depth :=
  Vector.ofFn fun channel => depth.clamp (samples.getD (index * layout.channels + channel) 0)

/-- A raster from interleaved samples, if there are enough of them for its rows. -/
def ofSamples? (layout : ChannelLayout) (depth : HostDepth) (width height stride : Nat)
    (samples : Array Nat) : Option Raster :=
  let cells := Array.ofFn fun index : Fin (samples.size / layout.channels) =>
    pixelAt layout depth samples index
  (Grid.ofCells? width height stride cells).map fun pixels => ⟨layout, depth, pixels⟩

/-- A raster of another size whose pixels are taken from given places of this one. -/
def remap (raster : Raster) (width height : Nat) (place : Nat → Nat → Nat × Nat) : Raster where
  layout := raster.layout
  depth := raster.depth
  pixels := raster.pixels.remap width height place

/-- A premultiplied sample divided by its alpha, rounded to nearest. -/
def straight (max sample alpha : Nat) : Nat :=
  min ((sample * max + alpha / 2) / alpha) max

/-- Divides the colour of one pixel by its last sample; with none or full alpha it stays. -/
def straightPixel (layout : ChannelLayout) (depth : HostDepth) (pixel : Pixel layout depth) :
    Pixel layout depth :=
  match pixel.back? with
  | none => pixel
  | some alpha =>
      if alpha.val = 0 ∨ alpha.val = depth.max then pixel
      else Vector.ofFn fun channel =>
        if channel.val + 1 = layout.channels then pixel[channel]
        else depth.clamp (straight depth.max pixel[channel].val alpha.val)

/--
Divides colour by alpha, for images stored with premultiplied colour. Rasters without alpha are left
alone.
-/
def unpremultiply (raster : Raster) : Raster :=
  if raster.hasAlpha then {
    layout := raster.layout
    depth := raster.depth
    pixels := raster.pixels.map (straightPixel raster.layout raster.depth) }
  else raster

theorem unpremultiply_of_hasAlpha {raster : Raster} (hasAlpha : raster.hasAlpha = true) :
    raster.unpremultiply =
      ⟨raster.layout, raster.depth,
        raster.pixels.map (straightPixel raster.layout raster.depth)⟩ :=
  if_pos hasAlpha

theorem unpremultiply_of_isOpaque {raster : Raster} (isOpaque : raster.hasAlpha = false) :
    raster.unpremultiply = raster :=
  if_neg (ne_true_of_eq_false isOpaque)

theorem layout_unpremultiply (raster : Raster) : raster.unpremultiply.layout = raster.layout := by
  unfold unpremultiply
  split <;> rfl

end Raster

end AvifStill
