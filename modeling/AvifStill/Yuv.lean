import AvifStill.Color.YuvMatrix
import AvifStill.Frame

/-!
# Frames and normalized colour

Converts coded frames to red, green and blue between zero and one and back. Reduced chroma is
interpolated between sample centres on the way out and averaged over its block on the way in. All
arithmetic is single precision in a fixed order of operations.
-/

namespace AvifStill

open Color Numeric

/-- Normalized colour components. -/
structure Rgb where
  red : Float32
  green : Float32
  blue : Float32

instance : Inhabited Rgb := ⟨⟨0.0, 0.0, 0.0⟩⟩

namespace Yuv

/-- Where the code values of one depth and range lie. -/
structure Levels where
  lumaOffset : Float32
  lumaScale : Float32
  chromaCenter : Float32
  chromaScale : Float32
  max : Float32

def Levels.ofDepth (depth : Nat) (range : SampleRange) : Levels :=
  let max := singleOfNat (Sample.maxValue depth)
  let center := singleOfNat (1 <<< (depth - 1))
  let step := singleOfNat (1 <<< (depth - 8))
  match range with
  | .full => ⟨0.0, max, center, max, max⟩
  | .limited => ⟨16.0 * step, 219.0 * step, center, 224.0 * step, max⟩

/-- The two chroma samples on one axis that a luma position lies between, and its place there. -/
structure Taps where
  first : Nat
  second : Nat
  weight : Float32

/--
The taps of a position. Reduced chroma samples sit between pairs of luma samples, and the outermost
ones extend to the edge.
-/
def Taps.ofPosition (position shift size : Nat) : Taps :=
  if shift = 0 then ⟨position, position, 0.0⟩
  else
    let raw := (singleOfNat position + 0.5) * 0.5 - 0.5
    let floored : Float32 := if raw < 0.0 then 0.0 else raw
    let last := singleOfNat size - 1.0
    let center := if last < floored then last else floored
    let first := center.toUInt64.toNat
    ⟨first, min (first + 1) (size - 1), center - singleOfNat first⟩

/-- A chroma plane between four samples, each taken from where it would be stored. -/
def bilinear (plane : Plane) (across down : Taps) : Float32 :=
  let sample (column row : Nat) : Float32 := (plane.addressed column row).toFloat32
  let left := 1.0 - across.weight
  let upper := 1.0 - down.weight
  sample across.first down.first * left * upper
    + sample across.second down.first * across.weight * upper
    + sample across.first down.second * left * down.weight
    + sample across.second down.second * across.weight * down.weight

/-- The two chroma values at a luma position. -/
def chromaAt (cb cr : Plane) (format : ChromaFormat) (column row : Nat) : Float32 × Float32 :=
  let across := Taps.ofPosition column format.shifts.1 cb.width
  let down := Taps.ofPosition row format.shifts.2 cb.height
  (bilinear cb across down, bilinear cr across down)

/-- The colour of one luma sample and, if there is chroma, its two chroma values. -/
def toRgb (matrix : YuvMatrix) (levels : Levels) (luma : Float32)
    (chroma : Option (Float32 × Float32)) : Rgb :=
  match matrix with
  | .identity =>
      let level (value : Float32) : Float32 := (value - levels.lumaOffset) / levels.lumaScale
      match chroma with
      | none => ⟨level luma, level luma, level luma⟩
      | some (cb, cr) => ⟨level cr, level luma, level cb⟩
  | .weighted weights =>
      let green := 1.0 - weights.red - weights.blue
      let redFromCr := 2.0 * (1.0 - weights.red)
      let greenFromCb := -2.0 * weights.blue * (1.0 - weights.blue) / green
      let greenFromCr := -2.0 * weights.red * (1.0 - weights.red) / green
      let blueFromCb := 2.0 * (1.0 - weights.blue)
      let (cb, cr) := chroma.getD (levels.chromaCenter, levels.chromaCenter)
      let y := (luma - levels.lumaOffset) / levels.lumaScale
      let u := (cb - levels.chromaCenter) / levels.chromaScale
      let v := (cr - levels.chromaCenter) / levels.chromaScale
      ⟨y + redFromCr * v, y + greenFromCb * u + greenFromCr * v, y + blueFromCb * u⟩

def clampRgb (color : Rgb) : Rgb :=
  ⟨clampSingle 0.0 1.0 color.red, clampSingle 0.0 1.0 color.green,
    clampSingle 0.0 1.0 color.blue⟩

/-- The colour of a frame, held in the unit interval. Chroma counts when both planes are there. -/
def decode (frame : Frame) (matrix : YuvMatrix) : Except Fault (Grid Rgb) := do
  frame.validate
  let levels := Levels.ofDepth frame.depth frame.range
  return .build frame.width frame.height fun column row =>
    let chroma :=
      match frame.cb, frame.cr with
      | some cb, some cr => some (chromaAt cb cr frame.format column row)
      | _, _ => none
    clampRgb (toRgb matrix levels (frame.luma.cell column row).toFloat32 chroma)

/-- Luma of a colour under the given weights; the identity matrix keeps green there. -/
def lumaOf (matrix : YuvMatrix) (color : Rgb) : Float32 :=
  match matrix with
  | .identity => color.green
  | .weighted weights =>
      let green := 1.0 - weights.red - weights.blue
      weights.red * color.red + green * color.green + weights.blue * color.blue

/-- The colour differences of a colour; the identity matrix keeps blue and red there. -/
def chromaOf (matrix : YuvMatrix) (color : Rgb) : Float32 × Float32 :=
  match matrix with
  | .identity => (color.blue, color.red)
  | .weighted weights =>
      let luma := lumaOf matrix color
      ((color.blue - luma) / (2.0 * (1.0 - weights.blue)),
        (color.red - luma) / (2.0 * (1.0 - weights.red)))

/-- The code value of a component between zero and one. -/
def quantize (levels : Levels) (value : Float32) : UInt16 :=
  (clampSingle 0.0 levels.max (value * levels.max + 0.5)).toUInt16

/-- The code value of a colour difference. -/
def quantizeChroma (levels : Levels) (value : Float32) : UInt16 :=
  (clampSingle 0.0 levels.max (value * levels.chromaScale + levels.chromaCenter + 0.5)).toUInt16

/-- The positions of an axis that one chroma sample covers. -/
def block (index shift size : Nat) : List Nat :=
  let start := index <<< shift
  List.range' start (min (start + (1 <<< shift)) size - start)

/-- The positions of some rows in some columns, in reading order. -/
def places (columns rows : List Nat) : List (Nat × Nat) :=
  rows.flatMap fun row => columns.map fun column => (column, row)

/-- The positions of the pixels that each chroma sample covers. -/
def blocks (format : ChromaFormat) (width height : Nat) : Grid (List (Nat × Nat)) :=
  let size := format.chromaSize width height
  .build size.1 size.2 fun column row =>
    places (block column format.shifts.1 width) (block row format.shifts.2 height)

/-- The mean colour differences of some pixels. -/
def meanChroma (matrix : YuvMatrix) (pixel : Nat → Nat → Rgb) (covered : List (Nat × Nat)) :
    Float32 × Float32 :=
  let sums := covered.foldl
    (fun (sums : Float32 × Float32 × Float32) place =>
      let chroma := chromaOf matrix (pixel place.1 place.2)
      (sums.1 + chroma.1, sums.2.1 + chroma.2, sums.2.2 + 1.0))
    (0.0, 0.0, 0.0)
  (sums.1 / sums.2.2, sums.2.1 / sums.2.2)

/-- Writes the luma of some pixels. -/
def writeLuma (levels : Levels) (matrix : YuvMatrix) (pixel : Nat → Nat → Rgb) (luma : Plane)
    (covered : List (Nat × Nat)) : Plane :=
  covered.foldl
    (fun luma place =>
      luma.set place.1 place.2 (quantize levels (lumaOf matrix (pixel place.1 place.2))))
    luma

/--
A full-range frame of the colours that a function gives. Luma is written along with the chroma
sample that covers it. The identity matrix needs a chroma sample for every pixel.
-/
def encode (width height depth : Nat) (format : ChromaFormat) (matrix : YuvMatrix)
    (pixel : Nat → Nat → Rgb) : Except Fault Frame := do
  if matrix.isIdentity ∧ format ≠ .yuv444 then
    throw (.invalidInput .identitySubsampled)
  let frame ← Frame.blank width height depth format .full
  let levels := Levels.ofDepth depth .full
  if format.isMonochrome then
    let all := places (List.range width) (List.range height)
    return { frame with luma := writeLuma levels matrix pixel frame.luma all }
  let blocks := blocks format width height
  let means := blocks.map (meanChroma matrix pixel)
  let level (value : Float32) : UInt16 :=
    if matrix.isIdentity then quantize levels value else quantizeChroma levels value
  return { frame with
    luma := blocks.toList.foldl (writeLuma levels matrix pixel) frame.luma
    cb := some (means.map fun mean => level mean.1)
    cr := some (means.map fun mean => level mean.2) }

end Yuv

end AvifStill
