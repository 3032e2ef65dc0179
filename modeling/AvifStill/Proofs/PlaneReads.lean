import AvifStill.Proofs.Numeric.Exact
import AvifStill.Proofs.Planes

/-!
# Reads of planes

The colour of a frame is read off one luma sample a pixel and, where both chroma planes are there,
four samples of each of them. A cautious copy of the conversion, which gives up at a read outside a
plane, is put beside it: whether it gives up is known from the sizes of the planes alone. Frames
that have chroma are read inside for sides up to `2 ^ 25`, where single precision can still tell the
last chroma sample from the next. Of monochrome frames the check asks nothing, so one that carries
chroma planes all the same is read as if they had been asked for.
-/

namespace AvifStill

open Color Numeric

namespace Grid

variable {α : Type} [Inhabited α]

/-- A grid of computed cells, unless one of them cannot be computed. -/
def build? (width height : Nat) (content? : Nat → Nat → Option α) : Option (Grid α) :=
  if ∀ column < width, ∀ row < height, (content? column row).isSome then
    some (.build width height fun column row => (content? column row).getD default)
  else none

theorem build?_eq_some {width height : Nat} {content? : Nat → Nat → Option α}
    {content : Nat → Nat → α}
    (computed : ∀ column < width, ∀ row < height, content? column row = some (content column row)) :
    build? width height content? = some (build width height content) := by
  have same : build width height (fun column row => (content? column row).getD default) =
      build width height content := by
    apply build_congr
    intro column inWidth row inHeight
    rw [computed column inWidth row inHeight, Option.getD_some]
  rw [build?, if_pos, same]
  intro column inWidth row inHeight
  rw [computed column inWidth row inHeight, Option.isSome_some]

theorem build?_eq_none {width height column row : Nat} {content? : Nat → Nat → Option α}
    (inWidth : column < width) (inHeight : row < height) (missing : content? column row = none) :
    build? width height content? = none := by
  rw [build?, if_neg]
  intro computed
  have isSome := computed column inWidth row inHeight
  rw [missing] at isSome
  cases isSome

end Grid

namespace Yuv

/-! ## A cautious conversion -/

/-- A step that gives up under a condition hands that on. -/
theorem bind_of_guard {α β : Type} {condition : Prop} [Decidable condition] (value : α)
    (next : α → Option β) :
    ((if condition then some value else none) >>= next) = if condition then next value else none := by
  split <;> rfl

/-- Whether the samples on one axis are there. -/
def Taps.Within (taps : Taps) (size : Nat) : Prop :=
  taps.first < size ∧ taps.second < size

instance (taps : Taps) (size : Nat) : Decidable (taps.Within size) :=
  inferInstanceAs (Decidable (_ ∧ _))

/-- A cautious `bilinear`. -/
def bilinear? (plane : Plane) (across down : Taps) : Option Float32 := do
  let upperLeft ← plane.cell? across.first down.first
  let upperRight ← plane.cell? across.second down.first
  let lowerLeft ← plane.cell? across.first down.second
  let lowerRight ← plane.cell? across.second down.second
  let left := 1.0 - across.weight
  let upper := 1.0 - down.weight
  return upperLeft.toFloat32 * left * upper
    + upperRight.toFloat32 * across.weight * upper
    + lowerLeft.toFloat32 * left * down.weight
    + lowerRight.toFloat32 * across.weight * down.weight

theorem bilinear?_eq (plane : Plane) (across down : Taps) :
    bilinear? plane across down =
      if across.Within plane.width ∧ down.Within plane.height then
        some (bilinear plane across down)
      else none := by
  simp only [bilinear?, Grid.cell?_eq_ite, bind_of_guard, ← ite_and]
  by_cases within : across.Within plane.width ∧ down.Within plane.height
  · obtain ⟨⟨first, second⟩, ⟨upper, lower⟩⟩ := within
    rw [if_pos ⟨⟨first, upper⟩, ⟨second, upper⟩, ⟨first, lower⟩, ⟨second, lower⟩⟩,
      if_pos ⟨⟨first, second⟩, ⟨upper, lower⟩⟩]
    simp only [bilinear, plane.addressed_eq_cell first upper, plane.addressed_eq_cell second upper,
      plane.addressed_eq_cell first lower, plane.addressed_eq_cell second lower]
    rfl
  · have outside : ¬((across.first < plane.width ∧ down.first < plane.height) ∧
        (across.second < plane.width ∧ down.first < plane.height) ∧
          (across.first < plane.width ∧ down.second < plane.height) ∧
            across.second < plane.width ∧ down.second < plane.height) :=
      fun inside => within ⟨⟨inside.1.1, inside.2.1.1⟩, ⟨inside.1.2, inside.2.2.2.2⟩⟩
    rw [if_neg outside, if_neg within]

/-- Whether the chroma samples around a luma position lie inside both planes. -/
def Reaches (cb cr : Plane) (format : ChromaFormat) (column row : Nat) : Prop :=
  let across := Taps.ofPosition column format.shifts.1 cb.width
  let down := Taps.ofPosition row format.shifts.2 cb.height
  (across.Within cb.width ∧ down.Within cb.height) ∧ across.Within cr.width ∧ down.Within cr.height

instance (cb cr : Plane) (format : ChromaFormat) (column row : Nat) :
    Decidable (Reaches cb cr format column row) :=
  inferInstanceAs (Decidable (_ ∧ _))

/-- A cautious `chromaAt`. -/
def chromaAt? (cb cr : Plane) (format : ChromaFormat) (column row : Nat) :
    Option (Float32 × Float32) := do
  let across := Taps.ofPosition column format.shifts.1 cb.width
  let down := Taps.ofPosition row format.shifts.2 cb.height
  return (← bilinear? cb across down, ← bilinear? cr across down)

theorem chromaAt?_eq (cb cr : Plane) (format : ChromaFormat) (column row : Nat) :
    chromaAt? cb cr format column row =
      if Reaches cb cr format column row then some (chromaAt cb cr format column row)
      else none := by
  simp only [chromaAt?, bilinear?_eq, bind_of_guard, ← ite_and]
  rfl

/-- The colour of a frame at a position. -/
def colorAt (frame : Frame) (matrix : YuvMatrix) (column row : Nat) : Rgb :=
  let chroma :=
    match frame.cb, frame.cr with
    | some cb, some cr => some (chromaAt cb cr frame.format column row)
    | _, _ => none
  clampRgb (toRgb matrix (Levels.ofDepth frame.depth frame.range)
    (frame.luma.cell column row).toFloat32 chroma)

/-- A cautious `colorAt`. -/
def colorAt? (frame : Frame) (matrix : YuvMatrix) (column row : Nat) : Option Rgb := do
  let luma ← frame.luma.cell? column row
  let chroma ←
    match frame.cb, frame.cr with
    | some cb, some cr => (chromaAt? cb cr frame.format column row).map some
    | _, _ => some none
  return clampRgb (toRgb matrix (Levels.ofDepth frame.depth frame.range) luma.toFloat32 chroma)

/-- The colours of a frame, whether it is valid or not. -/
def picture (frame : Frame) (matrix : YuvMatrix) : Grid Rgb :=
  .build frame.width frame.height (colorAt frame matrix)

/-- A cautious `picture`. -/
def picture? (frame : Frame) (matrix : YuvMatrix) : Option (Grid Rgb) :=
  Grid.build? frame.width frame.height (colorAt? frame matrix)

theorem decode_of_valid {frame : Frame} (matrix : YuvMatrix) (valid : frame.validate = .ok ()) :
    decode frame matrix = .ok (picture frame matrix) :=
  bind_of_done valid

/-- Whether all chroma samples that are read lie inside their planes. -/
def IsCovered (frame : Frame) : Prop :=
  ∀ cb cr, frame.cb = some cb → frame.cr = some cr →
    ∀ column < frame.width, ∀ row < frame.height, Reaches cb cr frame.format column row

theorem picture?_of_isCovered {frame : Frame} (matrix : YuvMatrix) (covered : IsCovered frame) :
    picture? frame matrix = some (picture frame matrix) := by
  apply Grid.build?_eq_some
  intro column inWidth row inHeight
  unfold colorAt? colorAt
  rw [frame.luma.cell?_eq_some_cell inWidth inHeight]
  split
  · rename_i cb cr hasCb hasCr
    rw [chromaAt?_eq, if_pos (covered cb cr hasCb hasCr column inWidth row inHeight)]
    rfl
  · rfl

theorem picture?_of_not_isCovered {frame : Frame} (matrix : YuvMatrix)
    (uncovered : ¬IsCovered frame) : picture? frame matrix = none := by
  simp only [IsCovered, not_forall] at uncovered
  obtain ⟨cb, cr, hasCb, hasCr, column, inWidth, row, inHeight, outside⟩ := uncovered
  apply Grid.build?_eq_none inWidth inHeight
  unfold colorAt?
  rw [frame.luma.cell?_eq_some_cell inWidth inHeight, hasCb, hasCr]
  simp only [chromaAt?_eq, if_neg outside]
  rfl

/-! ## Taps inside a plane -/

/-- Reduced chroma samples are inside while their number is represented exactly. -/
theorem within_ofPosition {position shift size : Nat} (reduced : shift ≠ 0) (positive : 0 < size)
    (small : size ≤ 2 ^ 24) : (Taps.ofPosition position shift size).Within size := by
  have last : Denotes (singleOfNat size - 1.0) (size - 1 : ℕ) := by
    rw [one_eq_singleOfNat]
    exact denotes_sub positive small
  have held (number : Float32) :
      (if singleOfNat size - 1.0 < number then singleOfNat size - 1.0
        else number).toUInt64.toNat ≤ size - 1 := by
    -- What is held at the last sample is known exactly; of all else only that it is not above.
    split
    · have whole := toNat_toUInt64 last (by norm_cast; omega)
      rw [whole, Nat.floor_natCast]
    · rename_i notAbove
      exact_mod_cast toNat_toUInt64_le last notAbove
  simp only [Taps.Within, Taps.ofPosition, if_neg reduced]
  constructor
  · exact Nat.lt_of_le_pred positive (held _)
  · omega

theorem within_ofPosition_zero (position size other : Nat) :
    (Taps.ofPosition position 0 size).Within other ↔ position < other := by
  simp [Taps.ofPosition, Taps.Within]

/-- The taps of every position of a side are inside the reduced side. -/
theorem within_reduced {position side shift : Nat} (inside : position < side)
    (small : side ≤ 2 ^ 25) (once : shift ≤ 1) :
    (Taps.ofPosition position shift (ChromaFormat.reduced side shift)).Within
      (ChromaFormat.reduced side shift) := by
  rcases Nat.le_one_iff_eq_zero_or_eq_one.mp once with rfl | rfl
  · rw [within_ofPosition_zero]
    simpa [ChromaFormat.reduced] using inside
  · have size : ChromaFormat.reduced side 1 = (side + 1) / 2 := by
      simp [ChromaFormat.reduced, Nat.shiftRight_eq_div_pow]
    apply within_ofPosition one_ne_zero
    · rw [size]
      omega
    · rw [size]
      omega

theorem shifts_le_one (format : ChromaFormat) : format.shifts.1 ≤ 1 ∧ format.shifts.2 ≤ 1 := by
  cases format <;> decide

/-- Frames with chroma are read inside, unless a side is too long for single precision. -/
theorem isCovered_of_color {frame : Frame} (valid : frame.validate = .ok ())
    (isColor : frame.format.isMonochrome = false) (narrow : frame.width ≤ 2 ^ 25)
    (low : frame.height ≤ 2 ^ 25) : IsCovered frame := by
  intro cb cr hasCb hasCr column inWidth row inHeight
  obtain ⟨sizeCb, sizeCr⟩ := Frame.chromaSize_of_validate valid isColor hasCb hasCr
  simp only [ChromaFormat.chromaSize, Prod.mk.injEq] at sizeCb sizeCr
  have across := within_reduced inWidth narrow (shifts_le_one frame.format).1
  have down := within_reduced inHeight low (shifts_le_one frame.format).2
  simp only [Reaches, sizeCb, sizeCr]
  exact ⟨⟨across, down⟩, across, down⟩

/-- The chroma planes of a monochrome frame are read at the positions of the luma samples. -/
theorem isCovered_monochrome_iff {frame : Frame} (isMonochrome : frame.format = .monochrome) :
    IsCovered frame ↔ ∀ cb cr, frame.cb = some cb → frame.cr = some cr →
      frame.width = 0 ∨ frame.height = 0 ∨
        (frame.width ≤ cb.width ∧ frame.height ≤ cb.height) ∧
          frame.width ≤ cr.width ∧ frame.height ≤ cr.height := by
  refine forall₄_congr fun cb cr hasCb hasCr => ?_
  have reaches (column row : Nat) : Reaches cb cr frame.format column row ↔
      (column < cb.width ∧ row < cb.height) ∧ column < cr.width ∧ row < cr.height := by
    simp only [Reaches, isMonochrome, ChromaFormat.shifts, within_ofPosition_zero]
  simp only [reaches]
  constructor
  · intro covered
    by_contra short
    have last := covered (frame.width - 1) (by omega) (frame.height - 1) (by omega)
    omega
  · intro sizes column inWidth row inHeight
    omega

/-! ## Frames without chroma -/

theorem toFloat32_eq (sample : UInt16) : sample.toFloat32 = singleOfNat sample.toNat := by
  have word : (UInt64.ofNat sample.toNat).toNat = sample.toNat :=
    UInt64.toNat_ofNat_of_lt (sample.toNat_lt.trans (by decide))
  have converted : sample.toFloat32 = ⟨Float32.Model.ofNat sample.toNat⟩ := rfl
  have single : singleOfNat sample.toNat =
      ⟨Float32.Model.ofNat (UInt64.ofNat sample.toNat).toNat⟩ := rfl
  rw [converted, single, word]

/-- Levels at whole numbers that single precision represents exactly. -/
structure Levels.AreWhole (levels : Levels) : Prop where
  lumaOffset : ∃ number ≤ 2 ^ 24, levels.lumaOffset = singleOfNat number
  lumaScale : ∃ number ≤ 2 ^ 24, 0 < number ∧ levels.lumaScale = singleOfNat number
  chromaCenter : ∃ number ≤ 2 ^ 24, levels.chromaCenter = singleOfNat number
  chromaScale : ∃ number ≤ 2 ^ 24, 0 < number ∧ levels.chromaScale = singleOfNat number

theorem Levels.areWhole_ofDepth {depth : Nat} (coded : Frame.IsCodedDepth depth)
    (range : SampleRange) : (Levels.ofDepth depth range).AreWhole := by
  have center : 1 <<< (depth - 1) ≤ 2 ^ 24 := by
    rcases coded with rfl | rfl | rfl <;> decide
  have full : 0 < Sample.maxValue depth ∧ Sample.maxValue depth ≤ 2 ^ 24 := by
    rcases coded with rfl | rfl | rfl <;> decide
  cases range with
  | full =>
      exact ⟨⟨0, by norm_num, zero_eq_singleOfNat⟩, ⟨_, full.2, full.1, rfl⟩, ⟨_, center, rfl⟩,
        ⟨_, full.2, full.1, rfl⟩⟩
  | limited =>
      -- Only here are levels computed, by products of whole numbers.
      refine ⟨⟨16 * 1 <<< (depth - 8), ?_, ?_⟩, ⟨219 * 1 <<< (depth - 8), ?_, ?_, ?_⟩,
        ⟨_, center, rfl⟩, ⟨224 * 1 <<< (depth - 8), ?_, ?_, ?_⟩⟩
      all_goals rcases coded with rfl | rfl | rfl <;> decide +kernel

end Yuv

namespace Color.YuvMatrix

/-- What the chroma values are multiplied by where they are added to luma. -/
def coefficients : YuvMatrix → List Float32
  | identity => []
  | weighted weights =>
      let green := 1.0 - weights.red - weights.blue
      [2.0 * (1.0 - weights.red), -2.0 * weights.blue * (1.0 - weights.blue) / green,
        -2.0 * weights.red * (1.0 - weights.red) / green, 2.0 * (1.0 - weights.blue)]

/-- Whether chroma that is neutral has no effect: all coefficients are numbers. -/
def IsRegular (matrix : YuvMatrix) : Prop :=
  ∀ coefficient ∈ matrix.coefficients, coefficient.isFinite = true

instance (matrix : YuvMatrix) : Decidable matrix.IsRegular :=
  inferInstanceAs (Decidable (∀ coefficient ∈ matrix.coefficients, coefficient.isFinite = true))

theorem isRegular_lumaWeights : ∀ entry ∈ knownPrimaries, entry.code.code ≠ 10 →
    (weighted entry.values.lumaWeights).IsRegular := by
  decide +kernel

/-- The matrices of all codes are regular, apart from the one that follows from XYZ primaries. -/
theorem isRegular_of_ofCicp {code : MatrixCoefficients} {primaries : ColorPrimaries}
    {matrix : YuvMatrix} (found : ofCicp code primaries = .ok matrix)
    (notXyz : primaries.code ≠ 10) : matrix.IsRegular := by
  have derived : (weighted (Primaries.ofCode primaries).lumaWeights).IsRegular := by
    unfold Primaries.ofCode
    split
    · rename_i entry isEntry
      have same := List.find?_some isEntry
      apply isRegular_lumaWeights entry (List.mem_of_find?_eq_some isEntry)
      rw [eq_of_beq same]
      exact notXyz
    · have first : ⟨⟨1⟩, "BT.709", Color.bt709⟩ ∈ knownPrimaries := List.mem_cons_self
      have regular := isRegular_lumaWeights _ first (by decide)
      exact regular
  unfold ofCicp at found
  split at found
  all_goals cases found
  case h_10 => exact derived
  case h_11 => exact derived
  all_goals decide +kernel

end Color.YuvMatrix

namespace Yuv

/-- The colour whose components are all one value. -/
def gray (level : Float32) : Rgb :=
  ⟨level, level, level⟩

theorem toRgb_none {levels : Levels} {matrix : YuvMatrix} (whole : levels.AreWhole)
    (regular : matrix.IsRegular) (sample : UInt16) :
    toRgb matrix levels sample.toFloat32 none =
      gray ((sample.toFloat32 - levels.lumaOffset) / levels.lumaScale) := by
  cases matrix with
  | identity => rfl
  | weighted weights =>
      obtain ⟨offset, offsetSmall, isOffset⟩ := whole.lumaOffset
      obtain ⟨scale, scaleSmall, scalePositive, isScale⟩ := whole.lumaScale
      obtain ⟨center, centerSmall, isCenter⟩ := whole.chromaCenter
      obtain ⟨chroma, chromaSmall, chromaPositive, isChroma⟩ := whole.chromaScale
      -- Neutral chroma is a zero, and so is its product; luma changes only if it is minus zero.
      have notZero := unpack_sub_div_ne (sample.toNat_lt.le.trans (by norm_num)) offsetSmall
        scalePositive scaleSmall
      have neutral := unpack_sub_self_div centerSmall chromaPositive chromaSmall
      rw [← toFloat32_eq, ← isOffset, ← isScale] at notZero
      rw [← isCenter, ← isChroma] at neutral
      have unchanged (coefficient : Float32)
          (isMember : coefficient ∈ (YuvMatrix.weighted weights).coefficients) :
          (sample.toFloat32 - levels.lumaOffset) / levels.lumaScale +
            coefficient * ((levels.chromaCenter - levels.chromaCenter) / levels.chromaScale) =
              (sample.toFloat32 - levels.lumaOffset) / levels.lumaScale := by
        obtain ⟨sign, product⟩ := exists_mul_zero (regular coefficient isMember) neutral
        exact add_of_zero product notZero
      simp only [YuvMatrix.coefficients, List.forall_mem_cons] at unchanged
      obtain ⟨redFromCr, greenFromCb, greenFromCr, blueFromCb, -⟩ := unchanged
      simp only [toRgb, Option.getD_none, redFromCr, greenFromCb, greenFromCr, blueFromCb, gray]

/-- The colours of a frame that are all taken from its luma. -/
def grayPicture (frame : Frame) : Grid Rgb :=
  let levels := Levels.ofDepth frame.depth frame.range
  .build frame.width frame.height fun column row =>
    clampRgb (gray (((frame.luma.cell column row).toFloat32 - levels.lumaOffset) / levels.lumaScale))

section MissingPlane

variable {frame : Frame} (missing : frame.cb = none ∨ frame.cr = none)
include missing

theorem isCovered_of_missing : IsCovered frame := by
  intro cb cr hasCb hasCr
  simp [hasCb, hasCr] at missing

theorem picture_of_missing (matrix : YuvMatrix) :
    picture frame matrix = picture { frame with cb := none, cr := none } matrix := by
  have same (column row : Nat) : colorAt frame matrix column row =
      colorAt { frame with cb := none, cr := none } matrix column row := by
    unfold colorAt
    split
    · rename_i hasCb hasCr
      simp [hasCb, hasCr] at missing
    · rfl
  exact Grid.build_congr fun column _ row _ => same column row

theorem picture_eq_grayPicture {matrix : YuvMatrix} (coded : Frame.IsCodedDepth frame.depth)
    (regular : matrix.IsRegular) : picture frame matrix = grayPicture frame := by
  rw [picture_of_missing missing]
  have whole := Levels.areWhole_ofDepth coded frame.range
  exact Grid.build_congr fun _ _ _ _ => congrArg clampRgb (toRgb_none whole regular _)

end MissingPlane

/-! ## What a conversion gives -/

/-- What the colours of a valid frame are, and which samples they are read off. -/
structure IsPictureOf (colors : Grid Rgb) (frame : Frame) (matrix : YuvMatrix) : Prop where
  width : colors.width = frame.width
  height : colors.height = frame.height
  count : colors.toList.length = frame.width * frame.height
  /-- The cautious conversion comes to the same colours where every sample is in its plane, -/
  inside : IsCovered frame → picture? frame matrix = some colors
  /-- and gives up only where one is not. -/
  outside : ¬IsCovered frame → picture? frame matrix = none
  color : frame.format ≠ .monochrome → frame.width ≤ 2 ^ 25 → frame.height ≤ 2 ^ 25 →
    IsCovered frame
  monochrome : frame.format = .monochrome →
    (IsCovered frame ↔ ∀ cb cr, frame.cb = some cb → frame.cr = some cr →
      frame.width = 0 ∨ frame.height = 0 ∨
        (frame.width ≤ cb.width ∧ frame.height ≤ cb.height) ∧
          frame.width ≤ cr.width ∧ frame.height ≤ cr.height)
  /-- Chroma planes count in a monochrome frame as if it had one chroma sample for each pixel. -/
  full : frame.format = .monochrome → colors = picture { frame with format := .yuv444 } matrix
  luma : frame.cb = none ∨ frame.cr = none →
    IsCovered frame ∧ colors = picture { frame with cb := none, cr := none } matrix
  gray : frame.cb = none ∨ frame.cr = none → matrix.IsRegular → colors = grayPicture frame

/-- A valid frame has a colour for each pixel, and its reads are known from the sizes of its planes. -/
theorem isPictureOf_decode {frame : Frame} (matrix : YuvMatrix) (valid : frame.validate = .ok ()) :
    ∃ colors, decode frame matrix = .ok colors ∧ IsPictureOf colors frame matrix := by
  refine ⟨picture frame matrix, decode_of_valid matrix valid, ?_⟩
  exact {
    width := rfl
    height := rfl
    count := Grid.length_toList _
    inside := picture?_of_isCovered matrix
    outside := picture?_of_not_isCovered matrix
    color := by
      intro isColor narrow low
      have notMonochrome : frame.format.isMonochrome = false := by
        cases format : frame.format <;> simp_all [ChromaFormat.isMonochrome]
      exact isCovered_of_color valid notMonochrome narrow low
    monochrome := isCovered_monochrome_iff
    full := by
      intro isMonochrome
      unfold picture colorAt chromaAt
      simp only [isMonochrome]
      rfl
    luma := fun missing => ⟨isCovered_of_missing missing, picture_of_missing missing matrix⟩
    gray := fun missing regular =>
      picture_eq_grayPicture missing (Frame.coded_of_validate valid) regular }

/-- A monochrome frame of one pixel that carries chroma. -/
def strayChroma : Frame where
  depth := 8
  format := .monochrome
  range := .full
  cicp := none
  luma := .build 1 1 fun _ _ => 100
  cb := some (.build 1 1 fun _ _ => 255)
  cr := some (.build 1 1 fun _ _ => 0)

theorem isPictureOf_strayChroma : strayChroma.validate = .ok () ∧
    (∃ colors, decode strayChroma .bt709 = .ok colors ∧ IsPictureOf colors strayChroma .bt709) ∧
      decode strayChroma .bt709 ≠ decode { strayChroma with cb := none, cr := none } .bt709 := by
  refine ⟨rfl, isPictureOf_decode .bt709 rfl, ?_⟩
  rw [decode_of_valid .bt709 rfl, decode_of_valid .bt709 rfl]
  intro same
  have red := congrArg (fun colors => (colors.cell 0 0).red) (Except.ok.inj same)
  revert red
  decide +kernel

/-- Where the weights of red and blue add up to one, nothing is left to divide by for green. -/
theorem not_isRegular_halves : ¬(YuvMatrix.weighted ⟨0.5, 0.5⟩).IsRegular := by
  decide +kernel

/-- In a row longer than `2 ^ 25` the outermost chroma sample can be missed. -/
theorem exists_not_isCovered : ∃ frame : Frame, frame.validate = .ok () ∧
    frame.format = .yuv420 ∧ frame.width = 2 ^ 25 + 7 ∧ frame.height = 1 ∧ ¬IsCovered frame := by
  obtain ⟨plane, isPlane⟩ : ∃ plane : Plane, plane = .build (2 ^ 24 + 4) 1 fun _ _ => 0 := ⟨_, rfl⟩
  have width : plane.width = 2 ^ 24 + 4 := by rw [isPlane, Grid.width_build]
  have height : plane.height = 1 := by rw [isPlane, Grid.height_build]
  have size : (plane.width, plane.height) = ChromaFormat.yuv420.chromaSize (2 ^ 25 + 7) 1 := by
    rw [width, height]
    decide
  refine ⟨⟨8, .yuv420, .full, none, .build (2 ^ 25 + 7) 1 fun _ _ => 0, some plane, some plane⟩,
    ?_, rfl, rfl, rfl, ?_⟩
  · exact Frame.validate_color (Or.inl rfl) rfl rfl rfl size size
  · intro covered
    have last := (covered plane plane rfl rfl (2 ^ 25 + 6) (Nat.lt_succ_self _) 0 Nat.one_pos).1.1.1
    -- The last sample has an odd number of 25 bits, which is rounded up to the number of samples.
    have missed : (Taps.ofPosition (2 ^ 25 + 6) 1 (2 ^ 24 + 4)).first = 2 ^ 24 + 4 := by
      decide +kernel
    simp only [ChromaFormat.shifts, width, missed] at last
    omega

end Yuv

end AvifStill
