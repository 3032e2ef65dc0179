import AvifStill.Numeric.Binary

/-!
# Curves in closed form

The parametric curves of profiles: a power from some limit on and a straight line below it. Shorter
lists of parameters leave the line, the limit or the constants to follow from the others.
-/

namespace AvifStill.Color

open Numeric

structure ClosedForm where
  exponent : Float
  scale : Float
  offset : Float
  /-- The slope of the line. -/
  slope : Float
  /-- From here on the power holds. -/
  limit : Float
  /-- What is added to the power. -/
  lift : Float
  /-- The line's value at zero. -/
  base : Float

namespace ClosedForm

/-- The curve of one, three, four, five or seven parameters; no others have a meaning. -/
def ofParameters? : List Float → Option ClosedForm
  | [exponent] => some ⟨exponent, 1.0, 0.0, 1.0, 0.0, 0.0, 0.0⟩
  | [exponent, scale, offset] =>
      some ⟨exponent, scale, offset, 0.0, -offset / scale, 0.0, 0.0⟩
  | [exponent, scale, offset, constant] =>
      some ⟨exponent, scale, offset, 0.0, -offset / scale, constant, constant⟩
  | [exponent, scale, offset, slope, limit] =>
      some ⟨exponent, scale, offset, slope, limit, 0.0, 0.0⟩
  | [exponent, scale, offset, slope, limit, lift, base] =>
      some ⟨exponent, scale, offset, slope, limit, lift, base⟩
  | _ => none

def evaluate (form : ClosedForm) (value : Float) : Float :=
  if value < form.limit then form.slope * value + form.base
  else Float.pow (form.scale * value + form.offset) form.exponent + form.lift

/-- Whether all parameters are numbers. -/
def isFinite (form : ClosedForm) : Bool :=
  [form.exponent, form.scale, form.offset, form.slope, form.limit, form.lift, form.base].all
    Float.isFinite

/--
The inverse, which has the same form. There is none if the power and the line do not meet at the
limit, or if the line is flat where it is needed.
-/
def inverse? (form : ClosedForm) : Option ClosedForm :=
  let power := Float.pow (form.scale * form.limit + form.offset) form.exponent + form.lift
  let line := form.slope * form.limit + form.base
  let scale := Float.pow (1.0 / form.scale) form.exponent
  let hasLine := !decide (power <= 0.0)
  let inverse : ClosedForm := {
    exponent := 1.0 / form.exponent
    scale
    offset := -scale * form.lift
    slope := if hasLine then 1.0 / form.slope else 1.0
    limit := power
    lift := -form.offset / form.scale
    base := if hasLine then -form.base / form.slope else 0.0 }
  if 0.1 < (power - line).abs ∨ ¬inverse.isFinite then none else some inverse

/-- The curve as samples on the unit interval, one for each step and one more. -/
def sampled (form : ClosedForm) (steps : Nat) : List UInt16 :=
  (List.range (steps + 1)).map fun step =>
    (clampUnit (form.evaluate (Float.ofNat step / Float.ofNat steps)) * 65535.0).toUInt16

end ClosedForm

end AvifStill.Color
