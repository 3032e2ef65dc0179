import AvifStill.Proofs.ChromaBlocks
import AvifStill.Proofs.CodePoints

/-!
# Luma weights of saved colour

A raster in colour that is saved under code points gets a matrix with luma weights, which follow
from the declared primaries unless these are BT.709. For every code but one the weights can be
worked out and are positive. The primaries of XYZ have two points on an axis: the divisions by their
height give no numbers, which the check for primaries on a line lets through, and every sample of
such an image is coded as zero.
-/

namespace AvifStill

open Color Numeric

namespace Color

namespace Primaries

/-- The determinant of the colours of unit luminance. -/
def determinant (primaries : Primaries) : Float :=
  Xyz.determinant (.ofChromaticity primaries.red) (.ofChromaticity primaries.green)
    (.ofChromaticity primaries.blue)

/-- Whether luma weights can be worked out without dividing by zero. -/
def IsSolvable (primaries : Primaries) : Prop :=
  (∀ point ∈ [primaries.red, primaries.green, primaries.blue, primaries.white],
    (point.y == 0.0) = false) ∧
    primaries.determinant.isFinite = true ∧ (primaries.determinant == 0.0) = false

instance (primaries : Primaries) : Decidable primaries.IsSolvable :=
  inferInstanceAs (Decidable (_ ∧ _ ∧ _))

/-- Of all entries only XYZ does not have weights. -/
theorem isSolvable_iff_of_mem : ∀ entry ∈ knownPrimaries,
    (ofCode entry.code).IsSolvable ↔ entry.code ≠ ⟨10⟩ := by
  decide +kernel

theorem code_bestCode_iff {primaries : Primaries} :
    primaries.bestCode = ⟨10⟩ ↔
      ∃ entry ∈ NamedPrimaries.find? primaries, entry.code = ⟨10⟩ := by
  have common : primaries.nearestCommon ≠ ⟨10⟩ := by
    simp only [nearestCommon, commonCodes, List.foldl_cons, List.foldl_nil]
    split <;> split <;> simp
  unfold bestCode
  cases NamedPrimaries.find? primaries with
  | none => simp [common]
  | some entry => simp

end Primaries

/-- Whether luma is a mean of all three components, each with a weight that is a number. -/
def LumaWeights.ArePositive (weights : LumaWeights) : Prop :=
  ∀ weight ∈ [weights.red, weights.blue, 1.0 - weights.red - weights.blue],
    weight.isFinite = true ∧ 0.0 < weight

instance (weights : LumaWeights) : Decidable weights.ArePositive :=
  inferInstanceAs (Decidable (∀ weight ∈ _, _ ∧ _))

/-- The weights with which colour in the primaries of a code is written. -/
def LumaWeights.ofCode (code : ColorPrimaries) : LumaWeights :=
  if code.code = 1 then ⟨0.2126, 0.0722⟩ else (Primaries.ofCode code).lumaWeights

namespace LumaWeights

theorem arePositive_iff_of_mem : ∀ entry ∈ knownPrimaries,
    (ofCode entry.code).ArePositive ↔ entry.code ≠ ⟨10⟩ := by
  decide +kernel

theorem isNaN_ofCode : (ofCode ⟨10⟩).red.isNaN = true ∧ (ofCode ⟨10⟩).blue.isNaN = true := by
  decide +kernel

end LumaWeights

end Color

/-! ## Samples without weights -/

/-- Whether all samples of a frame are zero. -/
def Frame.IsZero (frame : Frame) : Prop :=
  ∀ plane ∈ frame.luma :: (frame.cb.toList ++ frame.cr.toList), ∀ column row sample,
    plane.cell? column row = some sample → sample = 0

namespace Yuv

section Undefined

variable {weights : LumaWeights}

theorem isNaN_lumaOf (isNaN : weights.red.isNaN = true) (color : Rgb) :
    (lumaOf (.weighted weights) color).isNaN = true :=
  isNaN_add_left (isNaN_add_left (isNaN_mul_left isNaN _) _) _

theorem isNaN_chromaOf (isNaN : weights.red.isNaN = true) (color : Rgb) :
    (chromaOf (.weighted weights) color).1.isNaN = true ∧
      (chromaOf (.weighted weights) color).2.isNaN = true := by
  have luma := isNaN_lumaOf isNaN color
  exact ⟨isNaN_div_left (isNaN_sub_right _ luma) _, isNaN_div_left (isNaN_sub_right _ luma) _⟩

theorem isNaN_foldl (values : List Float32) {start : Float32} (isNaN : start.isNaN = true) :
    (values.foldl (· + ·) start).isNaN = true := by
  induction values generalizing start with
  | nil => exact isNaN
  | cons value values ih => exact ih (isNaN_add_left isNaN value)

/-- Nothing has no mean either. -/
theorem isNaN_mean {values : List Float32} (all : ∀ value ∈ values, value.isNaN = true) :
    (mean values).isNaN = true := by
  cases values with
  | nil => decide +kernel
  | cons value values =>
      have first := all value (List.mem_cons_self ..)
      exact isNaN_div_left (isNaN_foldl values (isNaN_add_right 0.0 first)) _

theorem quantize_of_isNaN (levels : Levels) {value : Float32} (isNaN : value.isNaN = true) :
    quantize levels value = 0 := by
  have scaled := isNaN_add_left (isNaN_mul_left isNaN levels.max) 0.5
  rw [quantize, clampSingle_of_isNaN scaled, toUInt16_of_isNaN scaled]

theorem quantizeChroma_of_isNaN (levels : Levels) {value : Float32} (isNaN : value.isNaN = true) :
    quantizeChroma levels value = 0 := by
  have scaled := isNaN_add_left (isNaN_add_left (isNaN_mul_left isNaN levels.chromaScale)
    levels.chromaCenter) 0.5
  rw [quantizeChroma, clampSingle_of_isNaN scaled, toUInt16_of_isNaN scaled]

theorem eq_zero_of_isChroma {width height : Nat} {format : ChromaFormat} {levels : Levels}
    {plane : Plane} {values : Nat × Nat → Float32}
    (size : (plane.width, plane.height) = format.chromaSize width height)
    (all : ∀ place, (values place).isNaN = true)
    (means : ∀ column row covered, (blocks format width height).cell? column row = some covered →
      plane.cell? column row =
        some (chromaLevel levels (.weighted weights) (mean (covered.map values))))
    {column row : Nat} {sample : UInt16} (found : plane.cell? column row = some sample) :
    sample = 0 := by
  have inside := (plane.isSome_cell?_iff column row).mp (by rw [found]; rfl)
  have covers : (blocks format width height).width = plane.width ∧
      (blocks format width height).height = plane.height :=
    ⟨(congrArg Prod.fst size).symm, (congrArg Prod.snd size).symm⟩
  rw [← covers.1, ← covers.2, ← Grid.isSome_cell?_iff] at inside
  rcases Option.isSome_iff_exists.mp inside with ⟨covered, isCovered⟩
  have undefined : (mean (covered.map values)).isNaN = true := by
    apply isNaN_mean
    intro value isMember
    rcases List.mem_map.mp isMember with ⟨place, -, rfl⟩
    exact all place
  have level := (means column row covered isCovered).symm.trans found
  rw [← Option.some.inj level]
  exact quantizeChroma_of_isNaN levels undefined

/-- Without weights an image is coded as zeros, whatever its colours are. -/
theorem isZero_of_encode (isNaN : weights.red.isNaN = true) {width height depth : Nat}
    {format : ChromaFormat} {pixel : Nat → Nat → Rgb} {frame : Frame}
    (done : encode width height depth format (.weighted weights) pixel = .ok frame) :
    frame.IsZero := by
  have isFrame := isFrameOf_of_encode done
  intro plane isPlane column row sample found
  rcases List.mem_cons.mp isPlane with rfl | isChroma
  · have inside := (frame.luma.isSome_cell?_iff column row).mp (by rw [found]; rfl)
    have level := isFrame.luma column (isFrame.made.sizeWidth ▸ inside.1) row
      (isFrame.made.sizeHeight ▸ inside.2)
    rw [← Option.some.inj (level.symm.trans found)]
    exact quantize_of_isNaN _ (isNaN_lumaOf isNaN _)
  · by_cases isMonochrome : format = .monochrome
    · rcases isFrame.monochrome isMonochrome with ⟨noCb, noCr⟩
      rw [noCb, noCr] at isChroma
      cases isChroma
    · rcases isFrame.chroma isMonochrome with ⟨cb, cr, isCb, isCr, sizeCb, sizeCr, means⟩
      rw [isCb, isCr] at isChroma
      simp only [Option.toList_some, List.singleton_append, List.mem_cons, List.not_mem_nil,
        or_false] at isChroma
      have colors (place : Nat × Nat) := isNaN_chromaOf isNaN (pixel place.1 place.2)
      rcases isChroma with rfl | rfl
      · exact eq_zero_of_isChroma sizeCb (fun place => (colors place).1)
          (fun column row covered isCovered => (means column row covered isCovered).1) found
      · exact eq_zero_of_isChroma sizeCr (fun place => (colors place).2)
          (fun column row covered isCovered => (means column row covered isCovered).2) found

end Undefined

end Yuv

/-! ## The matrix of a saved raster -/

namespace Color.Encoded

open SavedImage

variable {color : RasterColor} {encoded : Encoded}

/-- The primaries that the samples of a raster are in. -/
def actualPrimaries (color : RasterColor) : Primaries :=
  color.primaries?.getD (.ofCode ⟨1⟩)

/-- The luma weights that colour is saved with, and whether they are usable. -/
structure HasWeights (encoded : Encoded) (color : RasterColor) (weights : LumaWeights) : Prop where
  built : YuvMatrix.ofCicp encoded.cicp.matrix encoded.cicp.primaries = .ok (.weighted weights)
  /-- The matrix is the one that the frames of a raster in this colour are made with. -/
  used : ∀ (raster : Raster) (options : EncodeOptions) (planned : Plan),
    raster.isGrayscale = false → options.savesIcc = false →
    plan raster color options = .ok planned →
      ∃ host, planned.Steps raster color options host (.weighted weights)
  /-- No division is by zero, except with the primaries of XYZ. -/
  solvable : (Primaries.ofCode encoded.cicp.primaries).IsSolvable ↔ encoded.cicp.primaries ≠ ⟨10⟩
  positive : weights.ArePositive ↔ encoded.cicp.primaries ≠ ⟨10⟩
  /-- These are declared for a raster whose own primaries agree with them. -/
  chosen : encoded.cicp.primaries = ⟨10⟩ ↔
    ∃ entry ∈ NamedPrimaries.find? (actualPrimaries color), entry.code = ⟨10⟩
  /-- Then the weights are no numbers, and every image becomes the same. -/
  undefined : encoded.cicp.primaries = ⟨10⟩ →
    weights.red.isNaN = true ∧ weights.blue.isNaN = true ∧
      ∀ width height depth format pixel frame,
        Yuv.encode width height depth format (.weighted weights) pixel = .ok frame → frame.IsZero

theorem ofCicp_of_resolve_compact (done : resolve color false false = .ok encoded) :
    YuvMatrix.ofCicp encoded.cicp.matrix encoded.cicp.primaries =
      .ok (.weighted (.ofCode encoded.cicp.primaries)) := by
  rcases done_of_bind done with ⟨conversion, -, done⟩
  cases done
  unfold LumaWeights.ofCode
  split
  · rfl
  · rfl

/--
Colour that is saved under code points always has a matrix with luma weights, and these are usable
exactly if the declared primaries are not those of XYZ.
-/
theorem hasWeights_of_resolve (done : resolve color false false = .ok encoded) :
    encoded.HasWeights color (.ofCode encoded.cicp.primaries) := by
  have built := ofCicp_of_resolve_compact done
  rcases exists_entry_of_resolve done with ⟨entry, isMember, isCode⟩
  constructor
  case built => exact built
  case used =>
    intro raster options planned isColor bare isPlanned
    rcases steps_of_plan isPlanned with ⟨host, matrix, steps⟩
    have same : planned.color = encoded := by
      apply color_of_plan _ isPlanned
      rw [isColor, bare]
      exact done
    have isMatrix := steps.isMatrix
    rw [same, built] at isMatrix
    cases isMatrix
    exact ⟨host, steps⟩
  case solvable =>
    rw [← isCode]
    exact Primaries.isSolvable_iff_of_mem entry isMember
  case positive =>
    rw [← isCode]
    exact LumaWeights.arePositive_iff_of_mem entry isMember
  case chosen =>
    rcases done_of_bind done with ⟨conversion, -, done⟩
    cases done
    exact Primaries.code_bestCode_iff
  case undefined =>
    intro isXyz
    rw [isXyz]
    rcases LumaWeights.isNaN_ofCode with ⟨red, blue⟩
    exact ⟨red, blue, fun _ _ _ _ _ _ encoded => Yuv.isZero_of_encode red encoded⟩

/-- Samples that are XYZ coordinates. -/
def xyzColor : RasterColor :=
  ⟨none, some (.ofCode ⟨10⟩), false⟩

/-- Such samples can be saved under code points, and are lost. -/
theorem hasWeights_xyzColor : ∃ encoded, resolve xyzColor false false = .ok encoded ∧
    encoded.cicp = ⟨⟨10⟩, ⟨13⟩, ⟨12⟩, true⟩ ∧
      encoded.HasWeights xyzColor (.ofCode encoded.cicp.primaries) := by
  have found : ((resolve xyzColor false false).toOption.map (·.cicp)) =
      some ⟨⟨10⟩, ⟨13⟩, ⟨12⟩, true⟩ := by
    decide +kernel
  rcases Option.map_eq_some_iff.mp found with ⟨encoded, isSome, same⟩
  have done : resolve xyzColor false false = .ok encoded := ok_of_toOption isSome
  exact ⟨encoded, done, same, hasWeights_of_resolve done⟩

end Color.Encoded

end AvifStill
