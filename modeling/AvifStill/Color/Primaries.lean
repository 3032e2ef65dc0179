import AvifStill.Cicp
import AvifStill.Numeric.Binary

/-!
# Primaries

Chromaticities of the red, green and blue primaries and of the white point, the table of those that
have a code, and the search for the code that fits a given set: an entry that agrees to three
decimal places, or else the nearest of three common ones.
-/

namespace AvifStill.Color

open Numeric

/-- A point of the CIE 1931 chromaticity diagram. -/
structure Chromaticity where
  x : Float32
  y : Float32

structure Primaries where
  red : Chromaticity
  green : Chromaticity
  blue : Chromaticity
  white : Chromaticity

namespace Primaries

/-- The eight coordinates, x before y. -/
def coordinates (primaries : Primaries) : List Float32 :=
  [primaries.red.x, primaries.red.y, primaries.green.x, primaries.green.y,
    primaries.blue.x, primaries.blue.y, primaries.white.x, primaries.white.y]

/-- Numeric equality of all coordinates. -/
def agree (left right : Primaries) : Bool :=
  (left.coordinates.zip right.coordinates).all fun pair => pair.1 == pair.2

/-- The sum of the squared differences of all coordinates. -/
def distance (left right : Primaries) : Float32 :=
  (left.coordinates.zip right.coordinates).foldl
    (fun sum pair => sum + (pair.1 - pair.2) * (pair.1 - pair.2)) 0.0

end Primaries

/-- A colour in XYZ coordinates. -/
structure Xyz where
  x : Float
  y : Float
  z : Float

namespace Xyz

/-- The determinant of the matrix with three colours as columns. -/
def determinant (first second third : Xyz) : Float :=
  first.x * (second.y * third.z - second.z * third.y)
    - second.x * (first.y * third.z - first.z * third.y)
    + third.x * (first.y * second.z - first.z * second.y)

/-- The colour of unit luminance with a chromaticity. -/
def ofChromaticity (point : Chromaticity) : Xyz :=
  let x := widen point.x
  let y := widen point.y
  ⟨x / y, 1.0, (1.0 - x - y) / y⟩

end Xyz

/-- Below this magnitude primaries count as lying on a line: the spacing of numbers at one. -/
def leastDeterminant : Float :=
  Float.ofBits 0x3cb0000000000000

/-- The luma weights of red and blue. -/
structure LumaWeights where
  red : Float32
  blue : Float32

/--
The luma weights implied by primaries: by Cramer's rule, the luminance each primary contributes to
white. Primaries on a line have none, and get those of BT.709.
-/
def Primaries.lumaWeights (primaries : Primaries) : LumaWeights :=
  let red := Xyz.ofChromaticity primaries.red
  let green := Xyz.ofChromaticity primaries.green
  let blue := Xyz.ofChromaticity primaries.blue
  let white := Xyz.ofChromaticity primaries.white
  let whole := Xyz.determinant red green blue
  if whole.abs < leastDeterminant then ⟨0.2126, 0.0722⟩
  else
    ⟨narrow (Xyz.determinant white green blue / whole),
      narrow (Xyz.determinant red green white / whole)⟩

/-- Primaries that have a code and a name. -/
structure NamedPrimaries where
  code : ColorPrimaries
  name : String
  values : Primaries

def bt709 : Primaries :=
  ⟨⟨0.64, 0.33⟩, ⟨0.30, 0.60⟩, ⟨0.15, 0.06⟩, ⟨0.3127, 0.3290⟩⟩

def bt601 : Primaries :=
  ⟨⟨0.630, 0.340⟩, ⟨0.310, 0.595⟩, ⟨0.155, 0.070⟩, ⟨0.3127, 0.3290⟩⟩

/-- All codes with defined chromaticities, in the order in which they are searched. -/
def knownPrimaries : List NamedPrimaries :=
  [⟨⟨1⟩, "BT.709", bt709⟩,
    ⟨⟨2⟩, "Unspecified", bt709⟩,
    ⟨⟨4⟩, "BT.470-6 System M",
      ⟨⟨0.67, 0.33⟩, ⟨0.21, 0.71⟩, ⟨0.14, 0.08⟩, ⟨0.310, 0.316⟩⟩⟩,
    ⟨⟨5⟩, "BT.470-6 System BG",
      ⟨⟨0.64, 0.33⟩, ⟨0.29, 0.60⟩, ⟨0.15, 0.06⟩, ⟨0.3127, 0.3290⟩⟩⟩,
    ⟨⟨6⟩, "BT.601", bt601⟩,
    ⟨⟨7⟩, "SMPTE 240M", bt601⟩,
    ⟨⟨8⟩, "Generic film",
      ⟨⟨0.681, 0.319⟩, ⟨0.243, 0.692⟩, ⟨0.145, 0.049⟩, ⟨0.310, 0.316⟩⟩⟩,
    ⟨⟨9⟩, "BT.2020",
      ⟨⟨0.708, 0.292⟩, ⟨0.170, 0.797⟩, ⟨0.131, 0.046⟩, ⟨0.3127, 0.3290⟩⟩⟩,
    ⟨⟨10⟩, "XYZ",
      ⟨⟨1.0, 0.0⟩, ⟨0.0, 1.0⟩, ⟨0.0, 0.0⟩, ⟨0.3333, 0.3333⟩⟩⟩,
    ⟨⟨11⟩, "SMPTE RP 431-2",
      ⟨⟨0.680, 0.320⟩, ⟨0.265, 0.690⟩, ⟨0.150, 0.060⟩, ⟨0.314, 0.351⟩⟩⟩,
    ⟨⟨12⟩, "SMPTE EG 432-1 (DCI P3)",
      ⟨⟨0.680, 0.320⟩, ⟨0.265, 0.690⟩, ⟨0.150, 0.060⟩, ⟨0.3127, 0.3290⟩⟩⟩,
    ⟨⟨22⟩, "EBU Tech. 3213-E",
      ⟨⟨0.630, 0.340⟩, ⟨0.295, 0.605⟩, ⟨0.155, 0.077⟩, ⟨0.3127, 0.3290⟩⟩⟩]

namespace NamedPrimaries

/-- The entry of a code, if the code has defined chromaticities. -/
def ofCode? (code : ColorPrimaries) : Option NamedPrimaries :=
  knownPrimaries.find? fun entry => entry.code == code

/-- Whether two coordinates agree to three decimal places. -/
def nearby (left right : Float32) : Bool :=
  (roundSingle (left * 1000.0) - roundSingle (right * 1000.0)).abs < 0.5

/-- The first entry that agrees with a set to three decimal places. -/
def find? (primaries : Primaries) : Option NamedPrimaries :=
  knownPrimaries.find? fun entry =>
    (entry.values.coordinates.zip primaries.coordinates).all fun pair => nearby pair.1 pair.2

end NamedPrimaries

namespace Primaries

/-- The chromaticities of a code; codes without any are read as BT.709. -/
def ofCode (code : ColorPrimaries) : Primaries :=
  match NamedPrimaries.ofCode? code with
  | some entry => entry.values
  | none => bt709

/-- The name of a code's primaries, empty if it has none. -/
def nameOfCode (code : ColorPrimaries) : String :=
  match NamedPrimaries.ofCode? code with
  | some entry => entry.name
  | none => ""

/-- The codes considered when no entry agrees; of two that are equally near the first wins. -/
def commonCodes : List ColorPrimaries :=
  [⟨9⟩, ⟨12⟩]

/-- The nearest of BT.709 and the common codes. -/
def nearestCommon (primaries : Primaries) : ColorPrimaries :=
  (commonCodes.foldl
    (fun (best : ColorPrimaries × Float32) candidate =>
      let distance := primaries.distance (ofCode candidate)
      if distance < best.2 then (candidate, distance) else best)
    (⟨1⟩, primaries.distance (ofCode ⟨1⟩))).1

/-- The code that describes a set best. -/
def bestCode (primaries : Primaries) : ColorPrimaries :=
  match NamedPrimaries.find? primaries with
  | some entry => entry.code
  | none => primaries.nearestCommon

end Primaries

end AvifStill.Color
