import AvifStill.Color.Primaries

/-!
# Chromatic adaptation

Matrices on XYZ colours, and the Bradford method of moving colours from one white point to another.
Profiles hold the colorants of primaries adapted to a fixed white point, so building one adapts
forward and reading primaries from one adapts back. Sums are taken in a fixed order, since the last
bit of a colorant ends up in files.
-/

namespace AvifStill.Color

open Numeric

/-- A matrix on colours, by rows. -/
structure Matrix3 where
  first : Xyz
  second : Xyz
  third : Xyz

namespace Xyz

def zero : Xyz := ⟨0.0, 0.0, 0.0⟩

/-- Whether a colour is numerically zero. -/
def isZero (color : Xyz) : Bool :=
  color.x == 0.0 && color.y == 0.0 && color.z == 0.0

def sum (color : Xyz) : Float := color.x + color.y + color.z

/-- The product of two colours' components, added up from left to right. -/
def dot (left right : Xyz) : Float :=
  left.x * right.x + left.y * right.y + left.z * right.z

end Xyz

namespace Matrix3

def identity : Matrix3 := ⟨⟨1.0, 0.0, 0.0⟩, ⟨0.0, 1.0, 0.0⟩, ⟨0.0, 0.0, 1.0⟩⟩

def ofColumns (first second third : Xyz) : Matrix3 :=
  ⟨⟨first.x, second.x, third.x⟩, ⟨first.y, second.y, third.y⟩, ⟨first.z, second.z, third.z⟩⟩

def transpose (matrix : Matrix3) : Matrix3 :=
  ofColumns matrix.first matrix.second matrix.third

/-- A colour multiplied by a matrix. -/
def apply (matrix : Matrix3) (color : Xyz) : Xyz :=
  ⟨matrix.first.dot color, matrix.second.dot color, matrix.third.dot color⟩

/-- A colour multiplied by a matrix, where the first component adds up its first product last. -/
def applyRotated (matrix : Matrix3) (color : Xyz) : Xyz :=
  let row := matrix.first
  ⟨row.y * color.y + row.z * color.z + row.x * color.x, matrix.second.dot color,
    matrix.third.dot color⟩

def multiply (left right : Matrix3) : Matrix3 :=
  let columns := right.transpose
  let row (values : Xyz) : Xyz :=
    ⟨values.dot columns.first, values.dot columns.second, values.dot columns.third⟩
  ⟨row left.first, row left.second, row left.third⟩

/-- Each column scaled by a component of a colour. -/
def scaleColumns (matrix : Matrix3) (scale : Xyz) : Matrix3 :=
  let row (values : Xyz) : Xyz := ⟨values.x * scale.x, values.y * scale.y, values.z * scale.z⟩
  ⟨row matrix.first, row matrix.second, row matrix.third⟩

/-- Each row scaled by a component of a colour. -/
def scaleRows (matrix : Matrix3) (scale : Xyz) : Matrix3 :=
  let row (factor : Float) (values : Xyz) : Xyz :=
    ⟨factor * values.x, factor * values.y, factor * values.z⟩
  ⟨row scale.x matrix.first, row scale.y matrix.second, row scale.z matrix.third⟩

/-- The determinant by the rule of diagonals. -/
def determinant (matrix : Matrix3) : Float :=
  let (a, b, c) := (matrix.first, matrix.second, matrix.third)
  a.x * b.y * c.z + a.y * b.z * c.x + a.z * b.x * c.y - a.z * b.y * c.x - a.y * b.x * c.z -
    a.x * b.z * c.y

/-- The inverse, by cofactors; a singular matrix gets the identity. -/
def inverse (matrix : Matrix3) : Matrix3 :=
  let whole := matrix.determinant
  if whole == 0.0 then identity
  else
    let factor := 1.0 / whole
    let (p, q, r) := (matrix.first, matrix.second, matrix.third)
    ⟨⟨(q.y * r.z - q.z * r.y) * factor, (p.z * r.y - p.y * r.z) * factor,
        (p.y * q.z - p.z * q.y) * factor⟩,
      ⟨(q.z * r.x - q.x * r.z) * factor, (p.x * r.z - p.z * r.x) * factor,
        (p.z * q.x - p.x * q.z) * factor⟩,
      ⟨(q.x * r.y - q.y * r.x) * factor, (p.y * r.x - p.x * r.y) * factor,
        (p.x * q.y - p.y * q.x) * factor⟩⟩

/-- The Bradford matrix from colours to cone responses. -/
def bradford : Matrix3 :=
  ⟨⟨0.8951, 0.2664, -0.1614⟩, ⟨-0.7502, 1.7135, 0.0367⟩, ⟨0.0389, -0.0685, 1.0296⟩⟩

/-- The Bradford matrix back to colours, to seven places. -/
def bradfordInverse : Matrix3 :=
  ⟨⟨0.9869929, -0.1470543, 0.1599627⟩, ⟨0.4323053, 0.5183603, 0.0492912⟩,
    ⟨-0.0085287, 0.0400428, 0.9684867⟩⟩

end Matrix3

/-- Moves a colour from one white point to another. -/
def adapt (color source target : Xyz) : Xyz :=
  let sourceCone := Matrix3.bradford.apply source
  let targetCone := Matrix3.bradford.apply target
  let cone := Matrix3.bradford.apply color
  Matrix3.bradfordInverse.apply
    ⟨cone.x * targetCone.x / sourceCone.x, cone.y * targetCone.y / sourceCone.y,
      cone.z * targetCone.z / sourceCone.z⟩

/-- The matrix that moves colours from one white point to another. -/
def adaptation (source target : Xyz) : Matrix3 :=
  let sourceCone := Matrix3.bradford.applyRotated source
  let targetCone := Matrix3.bradford.applyRotated target
  let ratio : Xyz := ⟨targetCone.x / sourceCone.x, targetCone.y / sourceCone.y,
    targetCone.z / sourceCone.z⟩
  Matrix3.bradford.inverse.multiply (Matrix3.bradford.scaleRows ratio)

/-- The colour of unit luminance with a chromaticity, with the reciprocal in single precision. -/
def primaryColor (point : Chromaticity) : Xyz :=
  let reciprocal : Float32 := if point.y == 0.0 then 0.0 else 1.0 / point.y
  let (x, y, factor) := (widen point.x, widen point.y, widen reciprocal)
  ⟨x * factor, 1.0, (1.0 - x - y) * factor⟩

/-- The colour of unit luminance of a white point, with the reciprocal in double precision. -/
def whiteColor (point : Chromaticity) : Xyz :=
  let (x, y) := (widen point.x, widen point.y)
  let reciprocal : Float := if y == 0.0 then 0.0 else 1.0 / y
  ⟨x * reciprocal, 1.0, (1.0 - x - y) * reciprocal⟩

/-- The white point of profiles, all in single precision. -/
def profileWhite : Xyz :=
  let x : Float32 := 0.34567
  let y : Float32 := 0.35850
  let reciprocal := 1.0 / y
  ⟨widen (x * reciprocal), 1.0, widen ((1.0 - x - y) * reciprocal)⟩

/-- A colour rounded to single precision. -/
def roundColor (color : Xyz) : Xyz :=
  ⟨widen (narrow color.x), widen (narrow color.y), widen (narrow color.z)⟩

/-- The colorants of a profile for primaries: scaled to give white together, and adapted. -/
def colorants (primaries : Primaries) : Matrix3 :=
  let unscaled := Matrix3.ofColumns (primaryColor primaries.red) (primaryColor primaries.green)
    (primaryColor primaries.blue)
  let white := whiteColor primaries.white
  let scale := unscaled.inverse.applyRotated white
  (adaptation (roundColor white) profileWhite).multiply (unscaled.scaleColumns scale)

end AvifStill.Color
