/-!
# Binary numbers and their two storage formats

Sample and colour arithmetic runs in single precision, chromaticities in double precision, and
profile fields are fixed-point integers. This module moves numbers between those forms exactly: a
bit pattern is decoded into sign, significand and exponent, and all rounding is done on natural
numbers. Keeping the conversions in `Nat` and `Int` makes them open to calculation, where the
machine's own conversions are not.
-/

namespace AvifStill.Numeric

/-- A storage format: significand bits (with the leading one) and exponent bits. -/
structure Format where
  precision : Nat
  exponentBits : Nat

namespace Format

def single : Format := ⟨24, 8⟩

def double : Format := ⟨53, 11⟩

/-- The exponent of the last significand bit of the smallest numbers. -/
def leastExponent (format : Format) : Int :=
  3 - (1 <<< (format.exponentBits - 1) : Nat) - (format.precision : Int)

/-- The bit pattern of positive infinity; larger patterns are not numbers. -/
def infinityBits (format : Format) : Nat :=
  ((1 <<< format.exponentBits) - 1) <<< (format.precision - 1)

/-- The weight of the sign bit. -/
def signWeight (format : Format) : Nat :=
  1 <<< (format.exponentBits + format.precision - 1)

end Format

/-- The number a bit pattern stands for; `finite s m e` is `m * 2 ^ e`, negated if `s`. -/
inductive Binary where
  | finite (negative : Bool) (significand : Nat) (exponent : Int)
  | infinite (negative : Bool)
  | nan
  deriving DecidableEq, Repr

namespace Binary

/-- The number behind a bit pattern. -/
def decode (format : Format) (bits : Nat) : Binary :=
  let negative := decide (format.signWeight ≤ bits)
  let magnitude := bits % format.signWeight
  let fraction := 1 <<< (format.precision - 1)
  if format.infinityBits < magnitude then .nan
  else if magnitude = format.infinityBits then .infinite negative
  else
    let field := magnitude / fraction
    if field = 0 then .finite negative magnitude format.leastExponent
    else .finite negative (magnitude % fraction + fraction) (format.leastExponent + field - 1)

/-- The quotient of two natural numbers, rounded to nearest with a half going to the even one. -/
def divideToEven (numerator denominator : Nat) : Nat :=
  let quotient := numerator / denominator
  let remainder := numerator % denominator
  if 2 * remainder < denominator then quotient
  else if denominator < 2 * remainder then quotient + 1
  else quotient + quotient % 2

/--
The bit pattern of `significand * 2 ^ exponent`, rounded to nearest even. The exponent field counts
up from the least exponent, so a significand that rounds up to the next power of two carries into
the field by itself, and numbers past the largest finite one become infinity.
-/
def encodeMagnitude (format : Format) (significand : Nat) (exponent : Int) : Nat :=
  if significand = 0 then 0
  else
    let unit := max format.leastExponent
      (exponent + (significand.log2 : Int) + 1 - (format.precision : Int))
    let rounded :=
      if unit ≤ exponent then significand <<< (exponent - unit).toNat
      else divideToEven significand (1 <<< (unit - exponent).toNat)
    min ((unit - format.leastExponent).toNat <<< (format.precision - 1) + rounded)
      format.infinityBits

/-- The bit pattern nearest to a number. -/
def encode (format : Format) : Binary → Nat
  | .finite negative significand exponent =>
      (if negative then format.signWeight else 0) + encodeMagnitude format significand exponent
  | .infinite negative => (if negative then format.signWeight else 0) + format.infinityBits
  | .nan => format.infinityBits + (1 <<< (format.precision - 2))

/-- The largest integer not above the number, held within `low` and `high`; zero for no number. -/
def floorWithin (low high : Int) : Binary → Int
  | .finite negative significand exponent =>
      let signed : Int := if negative then -(significand : Int) else significand
      let floor :=
        if 0 ≤ exponent then signed <<< exponent.toNat
        else signed >>> (-exponent).toNat
      max low (min high floor)
  | .infinite negative => if negative then low else high
  | .nan => 0

/-- The number without its fraction, held within `low` and `high`; zero for no number. -/
def truncateWithin (low high : Int) : Binary → Int
  | .finite negative significand exponent =>
      let signed : Int := if negative then -(significand : Int) else significand
      let whole :=
        if 0 ≤ exponent then signed <<< exponent.toNat
        else signed.tdiv (1 <<< (-exponent).toNat : Nat)
      max low (min high whole)
  | .infinite negative => if negative then low else high
  | .nan => 0

/-- Bounds on both sides of zero hold also for what is no number. -/
theorem truncateWithin_bounds {low high : Int} (below : low ≤ 0) (above : 0 ≤ high)
    (value : Binary) :
    low ≤ value.truncateWithin low high ∧ value.truncateWithin low high ≤ high := by
  unfold truncateWithin
  split
  · simp only
    omega
  · split <;> omega
  · omega

def ofSingle (value : Float32) : Binary :=
  decode .single value.toBits.toNat

def ofDouble (value : Float) : Binary :=
  decode .double value.toBits.toNat

end Binary

/-- A single-precision number in double precision; nothing is lost. -/
def widen (value : Float32) : Float :=
  Float.ofBits (UInt64.ofNat ((Binary.ofSingle value).encode .double))

/-- The single-precision number nearest to a double-precision one. -/
def narrow (value : Float) : Float32 :=
  Float32.ofBits (UInt32.ofNat ((Binary.ofDouble value).encode .single))

/-- A natural number below `2 ^ 64` as the nearest single-precision number. -/
def singleOfNat (value : Nat) : Float32 :=
  (UInt64.ofNat value).toFloat32

/-- Cuts off the fraction of a double-precision number. -/
def truncateDouble (low high : Int) (value : Float) : Int :=
  (Binary.ofDouble value).truncateWithin low high

theorem truncateDouble_bounds {low high : Int} (below : low ≤ 0) (above : 0 ≤ high)
    (value : Float) :
    low ≤ truncateDouble low high value ∧ truncateDouble low high value ≤ high :=
  Binary.truncateWithin_bounds below above _

/-- Rounds a double-precision number down. -/
def floorDouble (low high : Int) (value : Float) : Int :=
  (Binary.ofDouble value).floorWithin low high

/--
Rounds a single-precision number to the nearest whole number, a half going away from zero. From
`2 ^ 23` on every number of the format is whole.
-/
def roundSingle (value : Float32) : Float32 :=
  let magnitude := value.abs
  if magnitude < 8388608.0 then
    let whole := magnitude.toUInt32.toFloat32
    let rounded := if magnitude - whole < 0.5 then whole else whole + 1.0
    if value < 0.0 then -rounded else rounded
  else value

/-- Holds a single-precision number between two bounds; no number passes through. -/
def clampSingle (low high value : Float32) : Float32 :=
  if value < low then low else if high < value then high else value

/-- Holds a double-precision number within the unit interval; no number counts as zero. -/
def clampUnit (value : Float) : Float :=
  if 1.0 < value then 1.0 else if 0.0 <= value then value else 0.0

end AvifStill.Numeric
