import AvifStill.Proofs.Sample
import AvifStill.Proofs.Transcode

/-!
# Limited range

Samples of the limited range are stretched over the full one. The quotient is taken toward zero,
which below black is not rounding, but there the result is cut off anyhow. So the expansion is exact
up to rounding, and since the full range has more steps than the limited one has levels, it keeps
levels apart. The planes of a raster do so too, but for one case: alpha that is deeper than the colour
of an 8-bit raster is cut off at 255 after it was expanded.
-/

namespace AvifStill

namespace Sample

/-! ## Stretching -/

/-- A stretched sample before it is cut off. -/
def stretched (black white full value : ℕ) : ℤ :=
  (((value : ℤ) - black) * full + (white - black : ℕ) / 2) / (white - black : ℕ)

theorem max_zero_tdiv (dividend : ℤ) {divisor : ℤ} (positive : 0 < divisor) :
    max 0 (dividend.tdiv divisor) = max 0 (dividend / divisor) := by
  rcases le_total 0 dividend with nonneg | nonpos
  · rw [Int.tdiv_eq_ediv_of_nonneg nonneg]
  · -- The quotients may differ, but neither is above zero.
    have toward := Int.tdiv_nonneg (neg_nonneg.mpr nonpos) positive.le
    rw [Int.neg_tdiv] at toward
    have down := Int.ediv_le_ediv positive nonpos
    rw [Int.zero_ediv] at down
    rw [max_eq_left (neg_nonneg.mp toward), max_eq_left down]

theorem stretched_nonneg {black value : ℕ} (le : black ≤ value) (white full : ℕ) :
    0 ≤ stretched black white full value := by
  apply Int.ediv_nonneg
  · have above : 0 ≤ ((value : ℤ) - black) * full :=
      mul_nonneg (by omega) (Int.natCast_nonneg full)
    omega
  · omega

section Stretch

variable {black white value other : ℕ} (lt : black < white) (full : ℕ)
include lt

theorem stretch_eq (value : ℕ) : (stretch black white full value : ℤ) =
    min (full : ℤ) (max 0 (stretched black white full value)) := by
  have span : ((white : ℤ) - black) = (white - black : ℕ) := (Nat.cast_sub lt.le).symm
  have positive : 0 < ((white - black : ℕ) : ℤ) := by omega
  simp only [stretch, span]
  rw [Int.toNat_of_nonneg (le_max_left ..), max_min_distrib_left, max_zero_tdiv _ positive,
    max_eq_right (Int.natCast_nonneg full), min_comm, Int.tdiv_eq_ediv_of_nonneg positive.le]
  rfl

theorem stretched_eq_floor (value : ℕ) : stretched black white full value =
    ⌊((value - black) * full / (white - black) + 1 / 2 : ℚ)⌋ := by
  have exact := floor_intCast_div_add_half (((value : ℤ) - black) * full) (Nat.sub_pos_of_lt lt)
  rw [stretched, ← exact, Nat.cast_sub lt.le]
  push_cast
  rfl

theorem stretched_mono : Monotone (stretched black white full) := by
  intro value other le
  apply Int.ediv_le_ediv
  · omega
  · gcongr

theorem stretched_nonpos (le : value ≤ black) : stretched black white full value ≤ 0 := by
  apply Int.lt_add_one_iff.mp
  apply Int.ediv_lt_of_lt_mul
  · omega
  · have below : ((value : ℤ) - black) * full ≤ 0 :=
      mul_nonpos_of_nonpos_of_nonneg (by omega) (Int.natCast_nonneg full)
    omega

theorem le_stretched (le : white ≤ value) : full ≤ stretched black white full value := by
  apply Int.le_ediv_of_mul_le
  · omega
  · have scaled : (full : ℤ) * (white - black : ℕ) ≤ (value - black) * full := by
      rw [mul_comm]
      gcongr
      omega
    omega

theorem stretched_le (le : value ≤ white) : stretched black white full value ≤ full := by
  apply Int.lt_add_one_iff.mp
  apply Int.ediv_lt_of_lt_mul
  · omega
  · have scaled : (value - black) * full ≤ (full : ℤ) * (white - black : ℕ) := by
      rw [mul_comm (full : ℤ)]
      gcongr
      omega
    rw [add_mul, one_mul]
    omega

/-- Levels are kept apart if there are at least as many steps as levels. -/
theorem stretched_lt_stretched (steps : white - black ≤ full) (less : value < other) :
    stretched black white full value < stretched black white full other := by
  have positive : 0 < ((white - black : ℕ) : ℤ) := by omega
  have apart : ((value : ℤ) - black) * full + (white - black : ℕ) ≤ (other - black) * full := by
    calc ((value : ℤ) - black) * full + (white - black : ℕ)
        ≤ (value - black) * full + full := by gcongr
      _ = (value + 1 - black) * full := by ring
      _ ≤ (other - black) * full := by
          gcongr
          exact_mod_cast less
  apply Int.add_one_le_iff.mp
  rw [stretched, ← Int.add_mul_ediv_right _ _ positive.ne']
  apply Int.ediv_le_ediv positive
  omega

end Stretch

/-! ## Words -/

/-- The number, if it is a signed word of 32 bits. -/
def signed? (number : ℤ) : Option ℤ :=
  if -2 ^ 31 ≤ number ∧ number < 2 ^ 31 then some number else none

/-- A cautious `stretch`, which gives up where a word overflows. -/
def stretch? (black white full value : ℕ) : Option ℕ := do
  let above ← signed? ((value : ℤ) - black)
  let scaled ← signed? (above * full)
  let span ← signed? ((white : ℤ) - black)
  let raised ← signed? (scaled + span.tdiv 2)
  let expanded ← if span = 0 then none else signed? (raised.tdiv span)
  return (max 0 (min expanded full)).toNat

/-- A cautious `limitedToFull`. -/
def limitedToFull? (depth value : ℕ) : Option ℕ :=
  match depth with
  | 8 => stretch? 16 235 255 value
  | 10 => stretch? 64 940 1023 value
  | 12 => stretch? 256 3760 4095 value
  | _ => some value

theorem signed?_eq_some {number : ℤ} (low : -2 ^ 31 ≤ number) (high : number < 2 ^ 31) :
    signed? number = some number :=
  if_pos ⟨low, high⟩

theorem stretch?_eq {black white full value : ℕ} (lt : black < white) (narrow : white < 2 ^ 12)
    (small : full < 2 ^ 12) (stored : value < 2 ^ 16) :
    stretch? black white full value = some (stretch black white full value) := by
  have high : ((value : ℤ) - black) * full ≤ 2 ^ 16 * 2 ^ 12 := by
    gcongr
    · omega
    · exact_mod_cast small.le
  have low : -(2 ^ 12 * 2 ^ 12) ≤ ((value : ℤ) - black) * full := by
    calc (-(2 ^ 12 * 2 ^ 12) : ℤ) ≤ -(black * full) := by
          gcongr
          · exact_mod_cast (lt.trans narrow).le
          · exact_mod_cast small.le
      _ = (0 - black) * full := by ring
      _ ≤ (value - black) * full := by
          gcongr
          omega
  have half : 0 ≤ ((white : ℤ) - black).tdiv 2 ∧ ((white : ℤ) - black).tdiv 2 ≤ 2 ^ 12 := by
    rw [Int.tdiv_eq_ediv_of_nonneg (by omega)]
    omega
  have quotient := Int.natAbs_tdiv_le_natAbs
    (((value : ℤ) - black) * full + ((white : ℤ) - black).tdiv 2) (white - black)
  have nonzero : (white : ℤ) - black ≠ 0 := by omega
  have above : signed? ((value : ℤ) - black) = _ := signed?_eq_some (by omega) (by omega)
  have scaled : signed? (((value : ℤ) - black) * full) = _ := signed?_eq_some (by omega) (by omega)
  have span : signed? ((white : ℤ) - black) = _ := signed?_eq_some (by omega) (by omega)
  have raised : signed? (((value : ℤ) - black) * full + ((white : ℤ) - black).tdiv 2) = _ :=
    signed?_eq_some (by omega) (by omega)
  have expanded : signed? ((((value : ℤ) - black) * full + ((white : ℤ) - black).tdiv 2).tdiv
      (white - black)) = _ := signed?_eq_some (by omega) (by omega)
  simp only [stretch?, above, scaled, span, raised, expanded, if_neg nonzero, Option.bind_eq_bind,
    Option.bind_some]
  rfl

/-! ## The expansion -/

/-- Black of the limited range. -/
def black (depth : ℕ) : ℕ := 16 * 2 ^ (depth - 8)

/-- White of the limited range. -/
def white (depth : ℕ) : ℕ := 235 * 2 ^ (depth - 8)

/-- What the expansion of a depth does to samples. -/
structure IsExpansion (depth : ℕ) (expand : ℕ → ℕ) : Prop where
  exact : ∀ value, (expand value : ℤ) = min (maxValue depth : ℤ)
    (max 0 ⌊((value - black depth) * maxValue depth / (white depth - black depth) + 1 / 2 : ℚ)⌋)
  /-- Signed words of 32 bits are enough for all samples that can be stored. -/
  words : ∀ value < 2 ^ 16, limitedToFull? depth value = some (expand value)
  mono : Monotone expand
  zero : ∀ value ≤ black depth, expand value = 0
  full : ∀ value, white depth ≤ value → expand value = maxValue depth
  strict : StrictMonoOn expand (Set.Icc (black depth) (white depth))

section Expansion

variable {depth : ℕ} (coded : Frame.IsCodedDepth depth)
include coded

theorem limitedToFull_eq (value : ℕ) :
    limitedToFull depth value = stretch (black depth) (white depth) (maxValue depth) value := by
  rcases coded with rfl | rfl | rfl <;> rfl

theorem limitedToFull?_eq (value : ℕ) :
    limitedToFull? depth value = stretch? (black depth) (white depth) (maxValue depth) value := by
  rcases coded with rfl | rfl | rfl <;> rfl

theorem scale_of_isCodedDepth : black depth < white depth ∧ white depth < 2 ^ 12 ∧
    maxValue depth < 2 ^ 12 ∧ white depth - black depth ≤ maxValue depth := by
  rcases coded with rfl | rfl | rfl <;> decide

theorem isExpansion_limitedToFull : IsExpansion depth (limitedToFull depth) := by
  obtain ⟨lt, narrow, small, steps⟩ := scale_of_isCodedDepth coded
  have cut (value : ℕ) : (limitedToFull depth value : ℤ) = min (maxValue depth : ℤ)
      (max 0 (stretched (black depth) (white depth) (maxValue depth) value)) := by
    rw [limitedToFull_eq coded, stretch_eq lt]
  constructor
  · intro value
    rw [cut, stretched_eq_floor lt]
  · intro value stored
    rw [limitedToFull?_eq coded, limitedToFull_eq coded]
    exact stretch?_eq lt narrow small stored
  · intro value other le
    have grows := stretched_mono lt (maxValue depth) le
    have first := cut value
    have second := cut other
    omega
  · intro value le
    have nonpos := stretched_nonpos lt (maxValue depth) le
    have equal := cut value
    omega
  · intro value le
    have reached := le_stretched lt (maxValue depth) le
    have equal := cut value
    omega
  · intro value inside other otherInside less
    -- Between black and white nothing is cut off.
    have nonneg := stretched_nonneg inside.1 (white depth) (maxValue depth)
    have apart := stretched_lt_stretched lt (maxValue depth) steps less
    have bounded := stretched_le lt (maxValue depth) otherInside.2
    have first := cut value
    have second := cut other
    omega

end Expansion

end Sample

/-! ## Planes -/

namespace HostDepth

variable {level higher codedDepth : ℕ}

/-- Rasters of 16 bits keep samples of every coded depth apart, those of 8 bits up to 255. -/
theorem ofCodedSample_lt_iff (depth : HostDepth) (coded : Frame.IsCodedDepth codedDepth)
    (lt : level < higher) (fits : higher ≤ Sample.maxValue codedDepth) :
    (depth.ofCodedSample level codedDepth).val ≤ (depth.ofCodedSample higher codedDepth).val ∧
      ((depth.ofCodedSample level codedDepth).val < (depth.ofCodedSample higher codedDepth).val ↔
        depth = .sixteen ∨ level < 255) := by
  cases depth with
  | eight =>
      have cut (value : ℕ) : (eight.ofCodedSample value codedDepth).val = min value 255 := rfl
      simp only [cut, reduceCtorEq, false_or]
      omega
  | sixteen =>
      have kept (value : ℕ) : (sixteen.ofCodedSample value codedDepth).val =
          Sample.codecToHost16 value codedDepth := val_clamp (Sample.rescale_le ..)
      have apart := Sample.rescale_lt_rescale (Sample.finer_of_isCodedDepth coded).2 (by norm_num)
        lt fits
      rw [kept, kept]
      exact ⟨apart.le, iff_of_true apart (.inl rfl)⟩

end HostDepth

namespace Frame

/-- The frame has a nominal level of the limited range at a place. -/
def ShowsLevel (frame : Frame) (place : ℕ × ℕ) (level : ℕ) : Prop :=
  (frame.luma.cell? place.1 place.2).map UInt16.toNat = some level ∧
    level ∈ Set.Icc (Sample.black frame.depth) (Sample.white frame.depth)

/-- Nominal levels are read off in order, and apart where a condition on the lower one holds. -/
def LevelsAreRead (frame : Frame) (read : ℕ → ℕ → Option ℕ) (apart : ℕ → Prop) : Prop :=
  ∀ place other level higher, frame.ShowsLevel place level → frame.ShowsLevel other higher →
    level < higher → ∃ sample larger, read place.1 place.2 = some sample ∧
      read other.1 other.2 = some larger ∧ sample ≤ larger ∧ (sample < larger ↔ apart level)

theorem levelsAreRead_hostPlane {frame : Frame} (coded : IsCodedDepth frame.depth)
    (limited : frame.range = .limited) (depth : HostDepth) :
    frame.LevelsAreRead
      (fun column row => ((Strategy.hostPlane depth frame).cell? column row).map Fin.val)
      fun level => depth = .sixteen ∨ Sample.limitedToFull frame.depth level < 255 := by
  have expansion := Sample.isExpansion_limitedToFull coded
  have read {place : ℕ × ℕ} {level : ℕ} (shows : frame.ShowsLevel place level) :
      ((Strategy.hostPlane depth frame).cell? place.1 place.2).map Fin.val =
        some (depth.ofCodedSample (Sample.limitedToFull frame.depth level) frame.depth).val := by
    obtain ⟨value, found, rfl⟩ := Option.map_eq_some_iff.mp shows.1
    rw [Strategy.hostPlane, Grid.cell?_map, found, limited]
    rfl
  intro place other level higher shows otherShows less
  have lt := expansion.strict shows.2 otherShows.2 less
  have fits : Sample.limitedToFull frame.depth higher ≤ Sample.maxValue frame.depth := by
    have exact := expansion.exact higher
    omega
  exact ⟨_, _, read shows, read otherShows, depth.ofCodedSample_lt_iff coded lt fits⟩

theorem LevelsAreRead.congr {frame : Frame} {read : ℕ → ℕ → Option ℕ} {apart condition : ℕ → Prop}
    (areRead : frame.LevelsAreRead read apart)
    (same : ∀ level, level ∈ Set.Ico (Sample.black frame.depth) (Sample.white frame.depth) →
      (apart level ↔ condition level)) : frame.LevelsAreRead read condition := by
  intro place other level higher shows otherShows less
  obtain ⟨sample, larger, isSample, isLarger, le, lt_iff⟩ :=
    areRead place other level higher shows otherShows less
  have inside : level ∈ Set.Ico (Sample.black frame.depth) (Sample.white frame.depth) :=
    ⟨shows.2.1, less.trans_le otherShows.2.2⟩
  exact ⟨sample, larger, isSample, isLarger, le, lt_iff.trans (same level inside)⟩

end Frame

/-- Below white the expansion of eight bits does not reach its end. -/
theorem Sample.limitedToFull_eight_lt {level : ℕ} (inside : level ∈ Set.Ico (black 8) (white 8)) :
    limitedToFull 8 level < 255 := by
  have expansion := isExpansion_limitedToFull (.inl rfl : Frame.IsCodedDepth 8)
  have less := expansion.strict (Set.Ico_subset_Icc_self inside) (Set.right_mem_Icc.mpr (by decide))
    inside.2
  rwa [expansion.full _ le_rfl] at less

namespace Raster

/-- The gray sample of a visible pixel, for gray layouts. -/
def gray? : Raster → ℕ → ℕ → Option ℕ
  | ⟨.gray, _, pixels⟩, column, row =>
      (pixels.cell? column row).map fun pixel => (Pixel.gray pixel).val
  | ⟨.grayAlpha, _, pixels⟩, column, row =>
      (pixels.cell? column row).map fun pixel => (Pixel.gray pixel).val
  | _, _, _ => none

/-- The nominal levels of limited-range planes have kept their order and stayed apart. -/
structure KeepsLevels (raster : Raster) (input : DecodeInput) : Prop where
  gray : raster.isGrayscale = true → input.color.range = .limited →
    input.color.LevelsAreRead raster.gray? fun _ => True
  /-- Of alpha that is too deep for an 8-bit raster, only what expands to less than 255 is apart. -/
  alpha : ∀ alpha, input.alpha = some alpha → raster.hasAlpha = true →
    Frame.IsCodedDepth alpha.depth → alpha.range = .limited →
      alpha.LevelsAreRead raster.alpha? fun level =>
        8 < input.color.depth ∨ alpha.depth = 8 ∨ Sample.limitedToFull alpha.depth level < 255

end Raster

namespace Strategy

variable {strategy : Strategy} {input : DecodeInput} {raster : Raster}

theorem gray?_of_decode (done : strategy.decode input = .ok raster)
    (isGray : strategy.layout.isGray = true) (column row : ℕ) :
    raster.gray? column row =
      ((hostPlane strategy.depth input.color).cell? column row).map Fin.val := by
  obtain ⟨-, pixels, found, isRaster⟩ := of_decode done
  subst isRaster
  rcases strategy with ⟨layout, depth⟩
  cases layout with
  | gray =>
      have shown := gray_of_decodePixels found column row
      exact (Option.map_map ..).symm.trans (congrArg (Option.map Fin.val) shown)
  | grayAlpha =>
      obtain ⟨alpha, isAlpha⟩ := exists_alpha_of_decode done rfl
      have shown := (grayAlpha_of_decodePixels found isAlpha column row).1
      exact (Option.map_map ..).symm.trans (congrArg (Option.map Fin.val) shown)
  | rgb => cases isGray
  | rgba => cases isGray

theorem keepsLevels_of_decode (coded : Frame.IsCodedDepth input.color.depth)
    (done : strategy.decode input = .ok raster) : raster.KeepsLevels input := by
  obtain ⟨depth, pixels, -, isRaster⟩ := of_decode done
  have layout : raster.layout = strategy.layout := by rw [isRaster]
  have wide : strategy.depth = .sixteen ↔ 8 < input.color.depth := by
    rw [← depth, HostDepth.ofCoded_eq_sixteen_iff]
  constructor
  · intro isGray limited
    have read : raster.gray? = fun column row =>
        ((hostPlane strategy.depth input.color).cell? column row).map Fin.val := by
      funext column row
      exact gray?_of_decode done (layout ▸ isGray) column row
    rw [read]
    apply (Frame.levelsAreRead_hostPlane coded limited strategy.depth).congr
    intro level inside
    rw [wide, iff_true]
    by_cases deep : 8 < input.color.depth
    · exact .inl deep
    · have eight : input.color.depth = 8 := by
        unfold Frame.IsCodedDepth at coded
        omega
      rw [eight] at inside ⊢
      exact .inr (Sample.limitedToFull_eight_lt inside)
  · intro alpha isAlpha hasAlpha alphaCoded limited
    have read : raster.alpha? = fun column row =>
        ((hostPlane strategy.depth alpha).cell? column row).map Fin.val := by
      funext column row
      exact alpha?_of_decode done isAlpha (layout ▸ hasAlpha) column row
    rw [read]
    apply (Frame.levelsAreRead_hostPlane alphaCoded limited strategy.depth).congr
    intro level inside
    rw [wide]
    refine or_congr_right (or_iff_right_of_imp ?_).symm
    intro eight
    rw [eight] at inside ⊢
    exact Sample.limitedToFull_eight_lt inside

end Strategy

/--
The expansion of the limited range is exact up to rounding and keeps nominal levels apart, and gray
and alpha planes keep them apart as far as the raster does.
-/
theorem keepsLevels_limitedRange {depth : ℕ} (coded : Frame.IsCodedDepth depth)
    (strategy : Strategy) (input : DecodeInput) :
    Sample.IsExpansion depth (Sample.limitedToFull depth) ∧
      (input.color.depth = depth →
        (∀ raster, strategy.decode input = .ok raster → raster.KeepsLevels input) ∧
          (strategy.layout.isGray = true → strategy.depth = .ofCoded depth →
            strategy.layout.hasAlpha = input.alpha.isSome →
              (∀ alpha, input.alpha = some alpha →
                (alpha.width, alpha.height) = (input.color.width, input.color.height)) →
                ∃ raster, strategy.decode input = .ok raster)) := by
  refine ⟨Sample.isExpansion_limitedToFull coded, ?_⟩
  rintro rfl
  refine ⟨fun _ => Strategy.keepsLevels_of_decode coded, ?_⟩
  intro isGray host hasAlpha size
  apply Strategy.exists_decode host.symm _ hasAlpha.symm size
  intro isColor
  rw [isGray] at isColor
  cases isColor

/-- Two gray pixels of eight bits under an alpha frame of ten bits with two nominal levels. -/
def tenBitVeil : DecodeInput where
  color := ⟨8, .monochrome, .full, none, .build 2 1 fun _ _ => 100, none, none⟩
  alpha := some ⟨10, .monochrome, .limited, none,
    .build 2 1 fun column _ => if column = 0 then 500 else 600, none, none⟩
  matrix := .bt709

/-- The raster has lost the levels, both of which expand to more than 255. -/
theorem keepsLevels_tenBitVeil : ∃ raster,
    Strategy.decode ⟨.grayAlpha, .eight⟩ tenBitVeil = .ok raster ∧ raster.KeepsLevels tenBitVeil ∧
      raster.alpha? 0 0 = some 255 ∧ raster.alpha? 1 0 = some 255 := by
  have decoded := (keepsLevels_limitedRange (.inl rfl) ⟨.grayAlpha, .eight⟩ tenBitVeil).2 rfl
  obtain ⟨raster, done⟩ := decoded.2 rfl rfl rfl (by rintro alpha ⟨rfl⟩; rfl)
  refine ⟨raster, done, decoded.1 raster done, ?_, ?_⟩
  all_goals
    cases done
    rfl

end AvifStill
