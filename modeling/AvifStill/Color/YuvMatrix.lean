import AvifStill.Color.Primaries
import AvifStill.Fault

/-!
# Matrices between RGB and YUV

How the planes of a coded frame relate to red, green and blue: directly, or through luma weights
that a code names or that follow from the primaries.
-/

namespace AvifStill.Color

/-- The relation between planes and colour components. -/
inductive YuvMatrix where
  /-- The planes hold green, blue and red as they are. -/
  | identity
  /-- The first plane holds luma with these weights, the others colour differences. -/
  | weighted (weights : LumaWeights)

namespace YuvMatrix

def bt601 : YuvMatrix := weighted ⟨0.299, 0.114⟩

def bt709 : YuvMatrix := weighted ⟨0.2126, 0.0722⟩

/-- BT.2020 with non-constant luminance. -/
def bt2020 : YuvMatrix := weighted ⟨0.2627, 0.0593⟩

/--
The matrix of a code. Unspecified coefficients are read as BT.601; two codes take the weights from
the primaries.
-/
def ofCicp (matrix : MatrixCoefficients) (primaries : ColorPrimaries) : Except Fault YuvMatrix :=
  match matrix.code with
  | 0 => .ok identity
  | 1 => .ok bt709
  | 2 | 5 | 6 => .ok bt601
  | 4 => .ok (weighted ⟨0.30, 0.11⟩)
  | 7 => .ok (weighted ⟨0.212, 0.087⟩)
  | 9 | 10 => .ok bt2020
  | 12 | 13 => .ok (weighted (Primaries.ofCode primaries).lumaWeights)
  | _ => .error (.unsupported .matrixCoefficients)

def isIdentity : YuvMatrix → Bool
  | identity => true
  | weighted _ => false

/-- The luma weights; the identity has none. -/
def weights : YuvMatrix → LumaWeights
  | identity => ⟨0.0, 0.0⟩
  | weighted weights => weights

end YuvMatrix

end AvifStill.Color
