import AvifStill.Cicp
import AvifStill.Color.ClosedForm
import AvifStill.Color.Curve
import AvifStill.Color.Samples

/-!
# Between signal and light

What the samples of an image mean as light, both between zero and one, and back: by the curves that
transfer codes name, and by the tone curves of profiles. Light is counted in a number of equal steps
on the way back.
-/

namespace AvifStill.Color

open Numeric

/-- A curve between signal and light that a transfer code names. -/
structure LightCurve where
  toLight : Float → Float
  toSignal : Float → Float

namespace LightCurve

def linear : LightCurve := ⟨id, id⟩

def power (exponent : Float) : LightCurve where
  toLight signal := Float.pow signal exponent
  toSignal light := Float.pow light (1.0 / exponent)

/-- A power with an offset above some light, and a line from zero below it. -/
def withLine (slope least offset exponent : Float) : LightCurve where
  toLight signal :=
    if signal < slope * least then signal / slope
    else Float.pow ((signal + offset) / (1.0 + offset)) exponent
  toSignal light :=
    if light < least then light * slope
    else (1.0 + offset) * Float.pow light (1.0 / exponent) - offset

def srgb : LightCurve := withLine 12.92 0.0030412825601275209 0.0550107189475866 2.4

def rec709 : LightCurve := withLine 4.5 0.018053968510807 0.09929682680944 (1.0 / 0.45)

/-- SMPTE 240M. -/
def smpte240 : LightCurve := withLine 4.0 0.022821585529445 0.111572195921731 (1.0 / 0.45)

/-- A logarithmic curve over some powers of ten; the least light stands for all below it. -/
def logarithmic (powers least : Float) : LightCurve where
  toLight signal :=
    if signal <= 0.0 then least / 2.0 else Float.pow 10.0 (powers * (signal - 1.0))
  toSignal light := if light < least then 0.0 else 1.0 + Float.log10 light / powers

/-- The perceptual quantizer, whose largest signal is 10000 cd/m². -/
def perceptualQuantizer : LightCurve where
  toLight signal :=
    let root := Float.pow signal (1.0 / 78.84375)
    let above := if root < 0.8359375 then 0.0 else root - 0.8359375
    Float.pow (above / (18.8515625 - 18.6875 * root)) (1.0 / 0.1593017578125)
  toSignal light :=
    let root := Float.pow light 0.1593017578125
    if light <= 0.0 then 0.0
    else Float.pow ((0.8359375 + 18.8515625 * root) / (1.0 + 18.6875 * root)) 78.84375

/-- Hybrid log-gamma with the system gamma of a display of 1000 cd/m². -/
def hybridLogGamma : LightCurve where
  toLight signal :=
    let scene :=
      if signal <= 0.5 then signal * signal / 3.0
      else (Float.exp ((signal - 0.55991073) / 0.17883277) + 0.28466892) / 12.0
    Float.pow scene 1.2
  toSignal light :=
    let scene := Float.pow light (1.0 / 1.2)
    if scene <= 1.0 / 12.0 then Float.sqrt (3.0 * scene)
    else 0.17883277 * Float.log (12.0 * scene - 0.28466892) + 0.55991073

/-- SMPTE ST 428-1. -/
def smpte428 : LightCurve where
  toLight signal := Float.pow signal 2.6 / 0.91655527974030934
  toSignal light := Float.pow (0.91655527974030934 * light) (1.0 / 2.6)

/-- The curve of a transfer code, where it names one. -/
def ofCode? (transfer : TransferCharacteristics) : Option LightCurve :=
  match transfer.code with
  | 1 | 6 | 11 | 12 | 14 | 15 => some rec709
  | 4 => some (power 2.2)
  | 5 => some (power 2.8)
  | 7 => some smpte240
  | 8 => some linear
  | 9 => some (logarithmic 2.0 0.01)
  | 10 => some (logarithmic 2.5 0.00316227766)
  | 13 => some srgb
  | 16 => some perceptualQuantizer
  | 17 => some smpte428
  | 18 => some hybridLogGamma
  | _ => none

end LightCurve

namespace ToneCurve

/-- The exponent that a single entry stands for. -/
def exponentOf (entry : UInt16) : Float :=
  Float.ofNat entry.toNat / 256.0

def closedForm? (parameters : List Float32) : Option ClosedForm :=
  ClosedForm.ofParameters? (parameters.map widen)

/-- From signal to light; a list of parameters without a meaning has no curve. -/
def toLight? : ToneCurve → Option (Float → Float)
  | table [] => some id
  | table [entry] => some fun signal => Float.pow signal (exponentOf entry)
  | table entries => some (Samples.ofList entries).interpolate
  | parametric parameters => do
      let form ← closedForm? parameters
      return fun signal => clampUnit (form.evaluate signal)

/--
From steps of light to signal. Samples are inverted at as many values as there are samples, but at
256 at least; a closed form without an inverse is sampled first, at each step.
-/
def toSignal? (steps : Nat) : ToneCurve → Option (Nat → Float)
  | table [] => some fun step => Float.ofNat step / Float.ofNat steps
  | table [entry] => some fun step =>
      Float.pow (Float.ofNat step / Float.ofNat steps) (1.0 / exponentOf entry)
  | table entries =>
      let samples := Samples.ofList entries
      some fun step => samples.inverseAt (max 256 entries.length) step steps
  | parametric parameters => do
      let form ← closedForm? parameters
      match form.inverse? with
      | some inverse => return fun step => inverse.evaluate (Float.ofNat step / Float.ofNat steps)
      | none =>
          let samples := Samples.ofList (form.sampled steps)
          return fun step => samples.inverseAt (steps + 1) step steps

end ToneCurve

end AvifStill.Color
