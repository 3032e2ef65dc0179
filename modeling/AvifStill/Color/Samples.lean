/-!
# Sampled curves

A curve given by samples at equal distances, straight between them. Positions and values are whole
numbers up to 65535.

A curve is read backwards by halving an interval of positions, which finds the place of a value on
a rising curve. Where the halving ends between two samples the line through them is followed, beyond
them too; so curves that fall, or that do not reach from one end to the other, also have an inverse.
Of a flat stretch at either end only the inner end counts.
-/

namespace AvifStill.Color

structure Samples where
  entries : Array UInt16
  /-- How many samples at the front are zero. -/
  zeros : Nat
  /-- How many samples at the end are the largest value. -/
  fulls : Nat

namespace Samples

def ofList (entries : List UInt16) : Samples :=
  ⟨entries.toArray, (entries.takeWhile (· == 0)).length,
    (entries.reverse.takeWhile (· == 65535)).length⟩

def last (samples : Samples) : Nat := samples.entries.size - 1

def entry (samples : Samples) (index : Nat) : Nat :=
  (samples.entries.getD index 0).toNat

/-- The value between the two samples around a position. -/
def valueAt (samples : Samples) (position : Nat) : Nat :=
  let scaled := position * samples.last
  let index := scaled / 65535
  let part := scaled % 65535
  (samples.entry (index + 1) * part + samples.entry index * (65535 - part)) / 65535

/-- Follows the line through the two samples around a position to where it has a value. -/
def follow (samples : Samples) (value position : Nat) : Nat :=
  let index := position * samples.last / 65535
  let start : Int := samples.entry index
  let rise : Int := samples.entry (index + 1) - start
  let isOnSample := position * samples.last % 65535 = 0
  let isFlat := 100 * rise.natAbs * samples.last < 65535
  if isOnSample ∨ isFlat then position + 1
  else
    let width : Int := 2 * samples.last * rise
    let doubled : Int := 131070 * (index * rise + value - start) + samples.last * rise
    (max 0 (min 65535 (doubled.fdiv width))).toNat

/-- Halves an interval of positions counted from one; `tried` is the position tried last. -/
def search (samples : Samples) (value low high tried : Nat) : Nat :=
  if low < high then
    let middle := (low + high) / 2
    let reached := samples.valueAt (middle - 1)
    if reached = value then middle - 1
    else if value < reached then search samples value low (middle - 1) middle
    else search samples value (middle + 1) high middle
  else samples.follow value (tried - 1)
termination_by high - low

/-- The position of a value. -/
def invert (samples : Samples) (value : Nat) : Nat :=
  let low := if 1 < samples.zeros then (samples.zeros - 1) * 65535 / samples.last - 1 else 1
  let high :=
    if 1 < samples.fulls then (samples.last - samples.fulls) * 65535 / samples.last + 1
    else 65536
  let startsAtZero := samples.zeros = 1 ∧ samples.fulls ≤ 1
  if (value = 0 ∧ ¬startsAtZero) ∨ high ≤ low then 0 else samples.search value low high 1

/-- The inverse sampled at a number of values, by the number of the sample. -/
def inverseEntry (samples : Samples) (count index : Nat) : Nat :=
  samples.invert ((2 * index * 65535 + (count - 1)) / (2 * (count - 1)))

/-- The inverse between its samples, at a number of steps of light out of all. -/
def inverseAt (samples : Samples) (count step steps : Nat) : Float :=
  let scaled := step * (count - 1)
  let index := scaled / steps
  let part := scaled % steps
  let upper := if part = 0 then 0 else samples.inverseEntry count (index + 1)
  let lower := samples.inverseEntry count index
  Float.ofNat (upper * part + lower * (steps - part)) / Float.ofNat (steps * 65535)

/-- The curve itself on the unit interval. -/
def interpolate (samples : Samples) (value : Float) : Float :=
  let position := value * Float.ofNat samples.last
  let index := position.toUInt64.toNat
  let fraction := position - Float.ofNat index
  let lower := Float.ofNat (samples.entry index)
  let upper := Float.ofNat (samples.entry (min (index + 1) samples.last))
  (lower + (upper - lower) * fraction) / 65535.0

end Samples

end AvifStill.Color
