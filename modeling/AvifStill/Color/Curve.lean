import AvifStill.Cicp
import AvifStill.Color.CurveTable
import AvifStill.Fault
import AvifStill.Numeric.Binary

/-!
# Transfer curves

The shapes of transfer curves that can be named by a code, and the tone curves by which a profile
stores them.
-/

namespace AvifStill.Color

open Numeric

/-- A tone curve of a profile: sampled, or by the parameters of a closed form. -/
inductive ToneCurve where
  | table (entries : List UInt16)
  | parametric (parameters : List Float32)

namespace ToneCurve

/-- The largest exponent that a one-entry table can hold. -/
def mostExponent : Float32 := 255.0 + 255.0 / 256.0

/-- A power curve, stored as a one-entry table with eight fraction bits. -/
def ofExponent (exponent : Float32) : ToneCurve :=
  if mostExponent < exponent then .table [65535]
  else if exponent < 0.0 then .table [0]
  else .table [(exponent * 256.0 + 0.5).toUInt16]

/-- Whether two numbers differ by less than a thousandth. -/
def close (left right : Float32) : Bool :=
  (left - right).abs < 1e-3

/-- Whether a sampled curve stays within half a percent of its straight line. -/
def isStraight (entries : List UInt16) : Bool :=
  let last := singleOfNat (entries.length - 1)
  entries.zipIdx.all fun (entry, index) =>
    let expected := singleOfNat index / last * 65535.0
    (entry.toFloat32 - expected).abs <= 65535.0 / 512.0

/--
Whether a curve is the identity. An empty table is; a single entry is an exponent; a parametric
curve is judged by its exponent, scale and offset.
-/
def isLinear : ToneCurve → Bool
  | table [] => true
  | table [exponent] => exponent == 0x0100
  | table entries => isStraight entries
  | parametric [exponent] => close exponent 1.0
  | parametric (exponent :: scale :: offset :: _) =>
      close exponent 1.0 && close scale 1.0 && decide (offset.abs < 1e-3)
  | parametric _ => false

end ToneCurve

/-- The shape of a transfer curve; `unknown` is the curve of a profile that cannot be read. -/
inductive TransferCurve where
  | gamma (exponent : Float32)
  | hlg
  | pq
  | srgb
  | rec709
  | linear
  | unknown

namespace TransferCurve

open ToneCurve (close)

/-- The curve of a code; unspecified codes are read as sRGB, codes without a curve are refused. -/
def ofCicp (transfer : TransferCharacteristics) : Except Fault TransferCurve :=
  match transfer.code with
  | 0 | 2 | 13 => .ok srgb
  | 1 => .ok rec709
  | 4 => .ok (gamma 2.2)
  | 5 => .ok (gamma 2.8)
  | 8 => .ok linear
  | 16 => .ok pq
  | 18 => .ok hlg
  | code => .error (.unsupportedTransfer code)

/-- The code of a curve, where there is one. -/
def toCicp? : TransferCurve → Option TransferCharacteristics
  | gamma exponent =>
      if close exponent 2.2 then some ⟨4⟩
      else if close exponent 2.8 then some ⟨5⟩
      else if close exponent 1.0 then some ⟨8⟩
      else none
  | hlg => some ⟨18⟩
  | pq => some ⟨16⟩
  | srgb => some ⟨13⟩
  | rec709 => some ⟨1⟩
  | linear => some ⟨8⟩
  | unknown => none

/-- How profile descriptions end for a curve. -/
def suffix : TransferCurve → String
  | gamma exponent =>
      if close exponent 2.8 then "Gamma2.8 RGB"
      else if close exponent 1.0 then "linear RGB"
      else "Gamma2.2 RGB"
  | hlg => "HLG RGB"
  | pq => "PQ RGB"
  | srgb => "sRGB-TRC RGB"
  | rec709 => "Rec709 RGB"
  | linear => "linear RGB"
  | unknown => "RGB"

def isLinear : TransferCurve → Bool
  | linear => true
  | gamma exponent => close exponent 1.0
  | _ => false

/-- The peak luminance in cd/m², which only the perceptual quantizer fixes. -/
def peakLuminance? : TransferCurve → Option Nat
  | pq => some 10000
  | _ => none

/-- The sRGB curve as exponent, scale, offset, slope and limit of its linear part. -/
def srgbParameters : List Float32 :=
  [2.4, 1.0 / 1.055, 0.055 / 1.055, 1.0 / 12.92, 0.04045]

/-- The BT.709 curve as exponent, scale, offset, slope and limit of its linear part. -/
def rec709Parameters : List Float32 :=
  [2.2, 1.0 / 1.099, 0.099 / 1.099, 1.0 / 4.5, 0.081]

/-- The tone curve that stores a curve in a profile; an unknown curve has none. -/
def toToneCurve? : TransferCurve → Option ToneCurve
  | gamma exponent => some (.ofExponent exponent)
  | linear => some (.ofExponent 1.0)
  | hlg => some (.table hybridLogGammaTable)
  | pq => some (.table perceptualQuantizerTable)
  | srgb => some (.parametric srgbParameters)
  | rec709 => some (.parametric rec709Parameters)
  | unknown => none

end TransferCurve

end AvifStill.Color
