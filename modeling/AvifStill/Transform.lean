import AvifStill.Numeric.Binary
import AvifStill.Raster

/-!
# Display transforms

A file may ask that an image be cropped to a clean aperture, turned by quarter turns and mirrored,
in that order, before it is shown.
-/

namespace AvifStill

/--
The clean aperture: width, height and offsets of its centre as fractions. Offsets are signed, but
stored like the others as 32-bit words.
-/
structure CleanAperture where
  widthNumerator : UInt32
  widthDenominator : UInt32
  heightNumerator : UInt32
  heightDenominator : UInt32
  offsetXNumerator : UInt32
  offsetXDenominator : UInt32
  offsetYNumerator : UInt32
  offsetYDenominator : UInt32
  deriving DecidableEq, Repr

structure CropRect where
  x : Nat
  y : Nat
  width : Nat
  height : Nat
  deriving DecidableEq, Repr

/-- The transforms signalled for an image. -/
structure Transforms where
  clap : Option CleanAperture
  /-- Counterclockwise quarter turns. -/
  rotation : Option UInt8
  /-- 0 exchanges top and bottom, 1 left and right. -/
  mirror : Option UInt8
  deriving DecidableEq, Repr

namespace CleanAperture

/-- The size of the aperture on one axis, rounded and no larger than the image. -/
def croppedSize (numerator denominator : UInt32) (size : Nat) : Nat :=
  let rounded := numerator.toFloat / denominator.toFloat + 0.5
  (Numeric.truncateDouble 0 size rounded).toNat

theorem croppedSize_le (numerator denominator : UInt32) (size : Nat) :
    croppedSize numerator denominator size ≤ size := by
  have bounds := Numeric.truncateDouble_bounds (Int.le_refl 0) (Int.natCast_nonneg size)
    (numerator.toFloat / denominator.toFloat + 0.5)
  unfold croppedSize
  simp only
  omega

/-- The aperture's first column or row, held inside the image. -/
def croppedOffset (numerator denominator : UInt32) (size cropped : Nat) : Nat :=
  let slack := (Float.ofNat size - Float.ofNat cropped) / 2.0
  let offset := Float.ofInt numerator.toInt32.toInt / denominator.toFloat + slack + 0.5
  (Numeric.truncateDouble 0 (size - cropped : Nat) offset).toNat

theorem croppedOffset_le (numerator denominator : UInt32) (size cropped : Nat) :
    croppedOffset numerator denominator size cropped ≤ size - cropped := by
  have bounds := Numeric.truncateDouble_bounds (Int.le_refl 0) (Int.natCast_nonneg (size - cropped))
    (Float.ofInt numerator.toInt32.toInt / denominator.toFloat +
      (Float.ofNat size - Float.ofNat cropped) / 2.0 + 0.5)
  unfold croppedOffset
  simp only
  omega

/-- The rectangle to crop to; none for a zero denominator or an empty aperture. -/
def cropRect? (clap : CleanAperture) (width height : Nat) : Option CropRect :=
  if clap.widthDenominator = 0 ∨ clap.heightDenominator = 0 ∨ clap.offsetXDenominator = 0 ∨
      clap.offsetYDenominator = 0 then none
  else
    let newWidth := croppedSize clap.widthNumerator clap.widthDenominator width
    let newHeight := croppedSize clap.heightNumerator clap.heightDenominator height
    if newWidth = 0 ∨ newHeight = 0 then none
    else some {
      x := croppedOffset clap.offsetXNumerator clap.offsetXDenominator width newWidth
      y := croppedOffset clap.offsetYNumerator clap.offsetYDenominator height newHeight
      width := newWidth
      height := newHeight }

/-- The rectangle is not empty and lies inside the image. -/
theorem cropRect?_inside {clap : CleanAperture} {width height : Nat} {rect : CropRect}
    (found : clap.cropRect? width height = some rect) :
    0 < rect.width ∧ 0 < rect.height ∧ rect.x + rect.width ≤ width ∧
      rect.y + rect.height ≤ height := by
  unfold cropRect? at found
  split at found
  · cases found
  · simp only at found
    split at found
    · cases found
    · cases found
      have := croppedSize_le clap.widthNumerator clap.widthDenominator width
      have := croppedSize_le clap.heightNumerator clap.heightDenominator height
      have := croppedOffset_le clap.offsetXNumerator clap.offsetXDenominator width
        (croppedSize clap.widthNumerator clap.widthDenominator width)
      have := croppedOffset_le clap.offsetYNumerator clap.offsetYDenominator height
        (croppedSize clap.heightNumerator clap.heightDenominator height)
      simp only
      omega

end CleanAperture

namespace Raster

def crop (raster : Raster) (rect : CropRect) : Raster :=
  raster.remap rect.width rect.height fun column row => (column + rect.x, row + rect.y)

/-- Turns a raster counterclockwise by quarter turns; only the turns modulo four count. -/
def rotate (raster : Raster) (turns : UInt8) : Raster :=
  match turns.toNat % 4 with
  | 1 => raster.remap raster.height raster.width fun column row => (raster.width - 1 - row, column)
  | 2 =>
      raster.remap raster.width raster.height fun column row =>
        (raster.width - 1 - column, raster.height - 1 - row)
  | 3 => raster.remap raster.height raster.width fun column row => (row, raster.height - 1 - column)
  | _ => raster

/-- Exchanges top and bottom (0) or left and right (1). -/
def mirror (raster : Raster) (axis : UInt8) : Raster :=
  match axis.toNat with
  | 0 => raster.remap raster.width raster.height fun column row => (column, raster.height - 1 - row)
  | 1 => raster.remap raster.width raster.height fun column row => (raster.width - 1 - column, row)
  | _ => raster

end Raster

namespace Transforms

def none : Transforms := ⟨.none, .none, .none⟩

def isEmpty (transforms : Transforms) : Bool :=
  transforms.clap.isNone && transforms.rotation.isNone && transforms.mirror.isNone

/-- The rectangle that the clean aperture asks for in an image of this size. -/
def cropRect? (transforms : Transforms) (width height : Nat) : Option CropRect :=
  transforms.clap.bind fun clap => clap.cropRect? width height

/-- Crops, turns and mirrors, and tells which crop was made. -/
def apply (transforms : Transforms) (raster : Raster) : Raster × Option CropRect :=
  let rect := transforms.cropRect? raster.width raster.height
  let cropped := rect.elim raster raster.crop
  let turned := transforms.rotation.elim cropped cropped.rotate
  (transforms.mirror.elim turned turned.mirror, rect)

end Transforms

end AvifStill
