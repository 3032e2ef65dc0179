import AvifStill.Cicp
import AvifStill.Numeric.Binary

/-!
# Sample scales

A sample is a whole number from zero to the largest value of its depth. This module moves samples
between depths and from the studio range to the full range. Rescaling runs in single precision with
the operations in a fixed order, so that it agrees to the last bit wherever it is used; the range
expansion is integer arithmetic.
-/

namespace AvifStill

open Numeric

namespace Sample

/-- The largest sample of a bit depth. -/
def maxValue (depth : Nat) : Nat :=
  (1 <<< depth) - 1

/-- A sample's value divided by one scale's largest value and multiplied by another's, rounded. -/
def rescale (value fromMax toMax : Nat) : Nat :=
  let scaled := singleOfNat value / singleOfNat fromMax * singleOfNat toMax + 0.5
  min scaled.toUInt64.toNat toMax

/--
Stretches the studio range between black and white over the full range. The quotient is taken toward
zero; below black that only matters before the clamp.
-/
def stretch (black white full value : Nat) : Nat :=
  let span : Int := (white : Int) - black
  let expanded := (((value : Int) - black) * full + span.tdiv 2).tdiv span
  (max 0 (min expanded full)).toNat

/-- A studio-range luma or alpha sample in full range; only depths 8, 10 and 12 have that range. -/
def limitedToFull (depth value : Nat) : Nat :=
  match depth with
  | 8 => stretch 16 235 255 value
  | 10 => stretch 64 940 1023 value
  | 12 => stretch 256 3760 4095 value
  | _ => value

/-- A coded sample to a 16-bit host sample. -/
def codecToHost16 (value depth : Nat) : Nat :=
  rescale value (maxValue depth) 65535

/-- A 16-bit host sample to a coded sample; coded samples are stored in 16 bits. -/
def host16ToCodec (value depth : Nat) : Nat :=
  rescale value 65535 (maxValue depth) % 65536

/-- An 8-bit host sample on the 16-bit scale. -/
def widen8 (value : Nat) : Nat :=
  value * 257

/-- A 16-bit host sample on the 8-bit scale. -/
def narrow16 (value : Nat) : Nat :=
  rescale value 65535 255

/-- Rec. 709 luma of a full-range colour, on the scale of its samples. -/
def luma (red green blue : Float32) : Float32 :=
  0.2126 * red + 0.7152 * green + 0.0722 * blue

end Sample

/-- A luma or alpha sample of this range in full range. -/
def SampleRange.expand (range : SampleRange) (depth value : Nat) : Nat :=
  match range with
  | .full => value
  | .limited => Sample.limitedToFull depth value

end AvifStill
