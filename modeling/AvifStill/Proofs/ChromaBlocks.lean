import AvifStill.Proofs.Numeric.Exact
import AvifStill.Proofs.Planes

/-!
# Blocks of chroma samples

Luma is written along with the chroma sample that covers it, so a plane is only complete if the
blocks of the chroma samples leave nothing out. They share out the positions of the image: each
position is in one block, and no block is empty. The mean of a block is then the sum of its
colour differences, in reading order, over their number.
-/

namespace AvifStill

open Color Numeric

namespace Yuv

/-! ## Blocks on one axis -/

theorem mem_block_iff {position index shift size : Nat} :
    position ∈ block index shift size ↔ position < size ∧ position >>> shift = index := by
  have positive := Nat.two_pow_pos shift
  rw [Nat.shiftRight_eq_div_pow, Nat.div_eq_iff positive]
  simp only [block, List.mem_range'_1, Nat.shiftLeft_eq, Nat.one_mul]
  generalize 2 ^ shift = unit at positive
  generalize index * unit = start
  omega

theorem nodup_block (index shift size : Nat) : (block index shift size).Nodup :=
  List.nodup_range'

theorem length_block_le (index shift size : Nat) : (block index shift size).length ≤ 2 ^ shift := by
  simp only [block, List.length_range', Nat.shiftLeft_eq, Nat.one_mul]
  exact Nat.sub_le_iff_le_add'.mpr (Nat.min_le_left _ _)

theorem lt_reduced_iff {index shift size : Nat} :
    index < ChromaFormat.reduced size shift ↔ index <<< shift < size := by
  have positive := Nat.two_pow_pos shift
  rw [ChromaFormat.reduced, Nat.shiftRight_eq_div_pow, Nat.shiftLeft_eq, Nat.shiftLeft_eq,
    ← Nat.succ_le_iff, Nat.le_div_iff_mul_le positive, Nat.succ_mul]
  omega

theorem block_ne_nil {index shift size : Nat} (inside : index < ChromaFormat.reduced size shift) :
    block index shift size ≠ [] := by
  have first : index <<< shift ∈ block index shift size := by
    rw [mem_block_iff]
    exact ⟨lt_reduced_iff.mp inside, Nat.shiftLeft_shiftRight index shift⟩
  exact List.ne_nil_of_mem first

theorem shiftRight_lt_reduced {position shift size : Nat} (inside : position < size) :
    position >>> shift < ChromaFormat.reduced size shift := by
  rw [lt_reduced_iff, Nat.shiftLeft_eq, Nat.shiftRight_eq_div_pow]
  exact (Nat.div_mul_le_self _ _).trans_lt inside

/-! ## Blocks of an image -/

@[simp]
theorem mem_places {columns rows : List Nat} {place : Nat × Nat} :
    place ∈ places columns rows ↔ place.1 ∈ columns ∧ place.2 ∈ rows := by
  rcases place with ⟨column, row⟩
  simp [places, and_comm]

theorem nodup_places {columns rows : List Nat} (distinctColumns : columns.Nodup)
    (distinctRows : rows.Nodup) : (places columns rows).Nodup := by
  rw [places, List.nodup_flatMap]
  constructor
  · intro row _
    exact distinctColumns.map fun _ _ same => congrArg Prod.fst same
  · apply distinctRows.imp
    intro row other different place inRow inOther
    simp only [List.mem_map] at inRow inOther
    obtain ⟨column, -, rfl⟩ := inRow
    obtain ⟨otherColumn, -, same⟩ := inOther
    exact different (congrArg Prod.snd same).symm

theorem length_places (columns rows : List Nat) :
    (places columns rows).length = columns.length * rows.length := by
  simp [places, Nat.mul_comm]

/-- How lists of positions share out an image among the chroma samples of a format. -/
structure IsShareOut (shares : Grid (List (Nat × Nat))) (format : ChromaFormat)
    (width height : Nat) : Prop where
  size : (shares.width, shares.height) = format.chromaSize width height
  /-- A sample covers the pixels of its block that lie inside the image. -/
  covers : ∀ column row covered, shares.cell? column row = some covered → ∀ place,
    place ∈ covered ↔ (place.1 < width ∧ place.2 < height) ∧
      place.1 >>> format.shifts.1 = column ∧ place.2 >>> format.shifts.2 = row
  nodup : ∀ column row covered, shares.cell? column row = some covered → covered.Nodup
  nonempty : ∀ column row covered, shares.cell? column row = some covered → covered ≠ []
  /-- Every position is covered by one sample. -/
  once : ∀ place : Nat × Nat, place.1 < width → place.2 < height →
    ∃! sample : Nat × Nat, ∃ covered,
      shares.cell? sample.1 sample.2 = some covered ∧ place ∈ covered

section Blocks

variable {format : ChromaFormat} {width height column row : Nat} {covered : List (Nat × Nat)}

theorem of_cell?_blocks (found : (blocks format width height).cell? column row = some covered) :
    (column < ChromaFormat.reduced width format.shifts.1 ∧
      row < ChromaFormat.reduced height format.shifts.2) ∧
        covered = places (block column format.shifts.1 width)
          (block row format.shifts.2 height) := by
  simp only [blocks, Grid.cell?_build] at found
  split at found
  · rename_i inside
    exact ⟨inside, (Option.some.inj found).symm⟩
  · cases found

theorem mem_of_cell?_blocks (found : (blocks format width height).cell? column row = some covered)
    (place : Nat × Nat) :
    place ∈ covered ↔ (place.1 < width ∧ place.2 < height) ∧
      place.1 >>> format.shifts.1 = column ∧ place.2 >>> format.shifts.2 = row := by
  rw [(of_cell?_blocks found).2, mem_places, mem_block_iff, mem_block_iff]
  tauto

/-- Blocks have at most two pixels on each axis. -/
theorem length_of_cell?_blocks
    (found : (blocks format width height).cell? column row = some covered) :
    covered.length ≤ 4 := by
  have across := length_block_le column format.shifts.1 width
  have down := length_block_le row format.shifts.2 height
  have sides : 2 ^ format.shifts.1 * 2 ^ format.shifts.2 ≤ 4 := by
    cases format <;> decide
  rw [(of_cell?_blocks found).2, length_places]
  exact (Nat.mul_le_mul across down).trans sides

theorem isShareOut_blocks (format : ChromaFormat) (width height : Nat) :
    IsShareOut (blocks format width height) format width height where
  size := rfl
  covers _ _ _ found := mem_of_cell?_blocks found
  nodup := by
    intro column row covered found
    rw [(of_cell?_blocks found).2]
    exact nodup_places (nodup_block ..) (nodup_block ..)
  nonempty := by
    intro column row covered found
    obtain ⟨inside, rfl⟩ := of_cell?_blocks found
    obtain ⟨x, inColumns⟩ := List.exists_mem_of_ne_nil _ (block_ne_nil inside.1)
    obtain ⟨y, inRows⟩ := List.exists_mem_of_ne_nil _ (block_ne_nil inside.2)
    have isMember : (x, y) ∈ places (block column format.shifts.1 width)
        (block row format.shifts.2 height) := mem_places.mpr ⟨inColumns, inRows⟩
    exact List.ne_nil_of_mem isMember
  once := by
    intro place inWidth inHeight
    refine ⟨(place.1 >>> format.shifts.1, place.2 >>> format.shifts.2), ?_, ?_⟩
    · obtain ⟨covered, found⟩ := Option.isSome_iff_exists.mp
        (((blocks format width height).isSome_cell?_iff _ _).mpr
          ⟨shiftRight_lt_reduced inWidth, shiftRight_lt_reduced inHeight⟩)
      exact ⟨covered, found, (mem_of_cell?_blocks found place).mpr ⟨⟨inWidth, inHeight⟩, rfl, rfl⟩⟩
    · rintro sample ⟨covered, found, isMember⟩
      have same := ((mem_of_cell?_blocks found place).mp isMember).2
      exact Prod.ext same.1.symm same.2.symm

/-- The blocks together are all positions of the image. -/
theorem mem_flatten_blocks {place : Nat × Nat} :
    place ∈ (blocks format width height).toList.flatten ↔ place.1 < width ∧ place.2 < height := by
  simp only [List.mem_flatten, Grid.mem_toList]
  constructor
  · rintro ⟨covered, ⟨column, row, found⟩, isMember⟩
    exact ((mem_of_cell?_blocks found place).mp isMember).1
  · rintro ⟨inWidth, inHeight⟩
    obtain ⟨sample, ⟨covered, found, isMember⟩, -⟩ :=
      (isShareOut_blocks format width height).once place inWidth inHeight
    exact ⟨covered, ⟨_, _, found⟩, isMember⟩

end Blocks

/-! ## Samples -/

section Samples

variable {levels : Levels} {matrix : YuvMatrix} {pixel : Nat → Nat → Rgb}

/-- Writing changes the cells at the positions that are covered, and no others. -/
theorem cell?_writeLuma (luma : Plane) (covered : List (Nat × Nat)) (column row : Nat) :
    (writeLuma levels matrix pixel luma covered).cell? column row =
      if (column, row) ∈ covered then
        (luma.cell? column row).map fun _ => quantize levels (lumaOf matrix (pixel column row))
      else luma.cell? column row := by
  induction covered generalizing luma with
  | nil => rfl
  | cons place covered ih =>
      have step : writeLuma levels matrix pixel luma (place :: covered) =
          writeLuma levels matrix pixel (luma.set place.1 place.2
            (quantize levels (lumaOf matrix (pixel place.1 place.2)))) covered := rfl
      rw [step, ih, Grid.cell?_set]
      -- What is written does not depend on how often, so a place may come again later.
      by_cases here : (column, row) = place
      · subst here
        cases luma.cell? column row <;> simp
      · have apart : ¬(column = place.1 ∧ row = place.2) := by
          rintro ⟨rfl, rfl⟩
          exact here rfl
        simp [here, apart]

/-- The sum of some numbers, in their order, over how many they are. -/
def mean (values : List Float32) : Float32 :=
  values.foldl (· + ·) 0.0 / singleOfNat values.length

theorem foldl_count {α : Type} (values : List α) {number : Nat} (few : number + values.length ≤ 4) :
    values.foldl (fun count _ => count + 1.0) (singleOfNat number) =
      singleOfNat (number + values.length) := by
  have next : ∀ number < 4, singleOfNat number + 1.0 = singleOfNat (number + 1) := by
    decide +kernel
  induction values generalizing number with
  | nil => rfl
  | cons value values ih =>
      simp only [List.length_cons] at few
      rw [List.foldl_cons, next number (by omega), ih (by omega), List.length_cons]
      congr 1
      omega

theorem meanChroma_eq {covered : List (Nat × Nat)} (few : covered.length ≤ 4) :
    meanChroma matrix pixel covered =
      (mean (covered.map fun place => (chromaOf matrix (pixel place.1 place.2)).1),
        mean (covered.map fun place => (chromaOf matrix (pixel place.1 place.2)).2)) := by
  have sums (first second count : Float32) : covered.foldl
      (fun (sums : Float32 × Float32 × Float32) place =>
        let chroma := chromaOf matrix (pixel place.1 place.2)
        (sums.1 + chroma.1, sums.2.1 + chroma.2, sums.2.2 + 1.0)) (first, second, count) =
      ((covered.map fun place => (chromaOf matrix (pixel place.1 place.2)).1).foldl (· + ·) first,
        (covered.map fun place => (chromaOf matrix (pixel place.1 place.2)).2).foldl (· + ·) second,
        covered.foldl (fun count _ => count + 1.0) count) := by
    clear few
    induction covered generalizing first second count with
    | nil => rfl
    | cons place covered ih => exact ih _ _ _
  have count := @foldl_count _ covered 0 (by omega)
  simp only [meanChroma, sums, mean, List.length_map]
  rw [zero_eq_singleOfNat, count, Nat.zero_add]

end Samples

/-! ## The frame of an image -/

/-- The code value of a mean; the planes of the identity matrix are all coded alike. -/
def chromaLevel (levels : Levels) (matrix : YuvMatrix) (value : Float32) : UInt16 :=
  if matrix.isIdentity then quantize levels value else quantizeChroma levels value

/-- What the samples of a frame that is made of the colours of an image are. -/
structure IsFrameOf (frame : Frame) (width height depth : Nat) (format : ChromaFormat)
    (matrix : YuvMatrix) (pixel : Nat → Nat → Rgb) : Prop where
  made : frame.IsMadeOf width height depth
  sameFormat : frame.format = format
  luma : ∀ column < width, ∀ row < height, frame.luma.cell? column row =
    some (quantize (Levels.ofDepth depth .full) (lumaOf matrix (pixel column row)))
  shares : IsShareOut (blocks format width height) format width height
  monochrome : format = .monochrome → frame.cb = none ∧ frame.cr = none
  /-- Every chroma sample is the mean of the colour differences of the pixels in its block. -/
  chroma : format ≠ .monochrome → ∃ cb cr, frame.cb = some cb ∧ frame.cr = some cr ∧
    (cb.width, cb.height) = format.chromaSize width height ∧
    (cr.width, cr.height) = format.chromaSize width height ∧
    ∀ column row covered, (blocks format width height).cell? column row = some covered →
      cb.cell? column row = some (chromaLevel (Levels.ofDepth depth .full) matrix
        (mean (covered.map fun place => (chromaOf matrix (pixel place.1 place.2)).1))) ∧
      cr.cell? column row = some (chromaLevel (Levels.ofDepth depth .full) matrix
        (mean (covered.map fun place => (chromaOf matrix (pixel place.1 place.2)).2)))

section Encode

variable {width height depth : Nat} {format : ChromaFormat} {matrix : YuvMatrix}
  {pixel : Nat → Nat → Rgb}

/-- A plane is complete when the positions that are covered are those of the image. -/
theorem cell?_writeLuma_build {levels : Levels} {covered : List (Nat × Nat)}
    (all : ∀ place, place ∈ covered ↔ place.1 < width ∧ place.2 < height) {column row : Nat}
    (inWidth : column < width) (inHeight : row < height) :
    (writeLuma levels matrix pixel (.build width height fun _ _ => 0) covered).cell? column row =
      some (quantize levels (lumaOf matrix (pixel column row))) := by
  rw [cell?_writeLuma, if_pos ((all (column, row)).mpr ⟨inWidth, inHeight⟩), Grid.cell?_build,
    if_pos ⟨inWidth, inHeight⟩, Option.map_some]

theorem isFrameOf_of_encode {frame : Frame}
    (done : encode width height depth format matrix pixel = .ok frame) :
    IsFrameOf frame width height depth format matrix pixel := by
  have made := Strategy.of_encode done
  unfold encode at done
  simp only at done
  split at done
  · cases done
  rcases done_of_bind done with ⟨blank, isBlank, done⟩
  rcases Frame.of_blank isBlank with ⟨-, rfl⟩
  simp only at done
  split at done
  · rename_i isMonochrome
    cases done
    exact {
      made := made.1
      sameFormat := made.2
      luma := fun column inWidth row inHeight =>
        cell?_writeLuma_build (by simp) inWidth inHeight
      shares := isShareOut_blocks format width height
      monochrome := by
        intro _
        simp [Frame.blankChroma, isMonochrome]
      chroma := by
        intro isColor
        cases format <;> simp_all [ChromaFormat.isMonochrome] }
  · rename_i isColor
    cases done
    refine ⟨made.1, made.2, ?_, isShareOut_blocks format width height, ?_, ?_⟩
    · intro column inWidth row inHeight
      rw [foldl_writeLuma]
      exact cell?_writeLuma_build (fun _ => mem_flatten_blocks) inWidth inHeight
    · rintro rfl
      exact absurd rfl isColor
    · intro _
      refine ⟨_, _, rfl, rfl, rfl, rfl, ?_⟩
      intro column row covered found
      simp only [Grid.cell?_map, found, Option.map_some, meanChroma_eq (length_of_cell?_blocks found)]
      exact ⟨rfl, rfl⟩

theorem encode_of_reduced (reduced : matrix.isIdentity = true ∧ format ≠ .yuv444) :
    encode width height depth format matrix pixel =
      .error (.invalidInput .identitySubsampled) := by
  unfold encode
  rw [if_pos reduced]
  rfl

theorem encode_of_overflow (suits : ¬(matrix.isIdentity = true ∧ format ≠ .yuv444))
    (wide : 0 < width) (high : 0 < height) (coded : Frame.IsCodedDepth depth)
    (overflows : UInt64.size ≤ width * height) :
    encode width height depth format matrix pixel = .error (.invalidInput .frameOverflow) := by
  have shape : Frame.checkShape width height depth = .error (.invalidInput .frameOverflow) := by
    rw [Frame.checkShape, if_neg (by omega), if_neg (not_not_intro coded), if_pos overflows]
  unfold encode
  rw [if_neg suits]
  exact bind_of_failed (bind_of_failed shape)

/--
An image has a frame, unless the identity matrix is asked for with reduced chroma or there are more
pixels than can be addressed.
-/
theorem encode_cases (wide : 0 < width) (high : 0 < height) (coded : Frame.IsCodedDepth depth)
    (format : ChromaFormat) (matrix : YuvMatrix) (pixel : Nat → Nat → Rgb) :
    (encode width height depth format matrix pixel = .error (.invalidInput .identitySubsampled) ↔
      matrix.isIdentity = true ∧ format ≠ .yuv444) ∧
    (encode width height depth format matrix pixel = .error (.invalidInput .frameOverflow) ↔
      ¬(matrix.isIdentity = true ∧ format ≠ .yuv444) ∧ UInt64.size ≤ width * height) ∧
    (¬(matrix.isIdentity = true ∧ format ≠ .yuv444) → width * height < UInt64.size →
      ∃ frame, encode width height depth format matrix pixel = .ok frame ∧
        IsFrameOf frame width height depth format matrix pixel) := by
  by_cases reduced : matrix.isIdentity = true ∧ format ≠ .yuv444
  · rw [encode_of_reduced reduced]
    simp [reduced]
  rcases Nat.lt_or_ge (width * height) UInt64.size with fits | overflows
  · have suits : matrix.isIdentity = true → format = .yuv444 := by simpa using reduced
    obtain ⟨frame, made⟩ := Strategy.exists_yuv ⟨wide.ne', high.ne', coded, fits⟩ suits pixel
    refine ⟨?_, ?_, fun _ _ => ⟨frame, made, isFrameOf_of_encode made⟩⟩
    · simp [made, reduced]
    · simp [made, Nat.not_le.mpr fits]
  · rw [encode_of_overflow reduced wide high coded overflows]
    refine ⟨by simp [reduced], by simp [reduced, overflows], ?_⟩
    intro _ fits
    exact absurd fits (Nat.not_lt.mpr overflows)

/-- A red image with an odd side, whose last block is half as wide as the others. -/
theorem encode_cases_odd : 0 < 3 ∧ 0 < 2 ∧ Frame.IsCodedDepth 8 ∧
    ∃ frame, encode 3 2 8 .yuv420 .bt709 (fun _ _ => ⟨1.0, 0.0, 0.0⟩) = .ok frame ∧
      IsFrameOf frame 3 2 8 .yuv420 .bt709 (fun _ _ => ⟨1.0, 0.0, 0.0⟩) := by
  have cases := @encode_cases 3 2 8 (by decide) (by decide) (by decide) .yuv420 .bt709
    fun _ _ => ⟨1.0, 0.0, 0.0⟩
  exact ⟨by decide, by decide, by decide, cases.2.2 (by decide) (by decide)⟩

/-- Failing for another reason than the identity matrix is possible. -/
theorem not_forall_encode : ¬∀ (width height depth : Nat) (format : ChromaFormat)
    (matrix : YuvMatrix) (pixel : Nat → Nat → Rgb), 0 < width → 0 < height →
      Frame.IsCodedDepth depth → ¬(matrix.isIdentity = true ∧ format ≠ .yuv444) →
        ∃ frame, encode width height depth format matrix pixel = .ok frame := by
  intro succeeds
  obtain ⟨frame, done⟩ := succeeds (2 ^ 32) (2 ^ 32) 8 .yuv444 .bt709 (fun _ _ => default)
    (by decide) (by decide) (by decide) (by decide)
  rw [encode_of_overflow (by decide) (by decide) (by decide) (by decide) (by decide)] at done
  cases done

end Encode

end Yuv

end AvifStill
