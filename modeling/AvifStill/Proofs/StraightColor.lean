import AvifStill.Proofs.Dihedral
import AvifStill.Proofs.Sample
import AvifStill.Proofs.TileLimits
import AvifStill.Proofs.Transcode

/-!
# Straight colour

Colour that is stored multiplied by alpha is divided by it again when an image is loaded. The
division rounds to the nearest sample and stops at the largest one. It is computed with words, of
which a 16-bit sample needs nearly all bits, so a cautious copy of it, which gives up where an exact
result is no word, stands beside it. Samples that were rounded when they were multiplied come back
to within the step that the multiplication lost.
-/

namespace AvifStill.Raster

open Tile (add? mul?)

/-! ## One sample -/

/-- A cautious `straight`. -/
def straight? (max sample alpha : UInt32) : Option UInt32 := do
  let scaled ← mul? sample max
  let raised ← add? scaled (alpha / 2)
  if alpha = 0 then none else return min (raised / alpha) max

variable {max sample alpha : ℕ}

theorem floor_div_add_half (dividend : ℕ) {divisor : ℕ} (positive : 0 < divisor) :
    ⌊(dividend / divisor + 1 / 2 : ℚ)⌋₊ = (dividend + divisor / 2) / divisor := by
  have rounded := Sample.floor_intCast_div_add_half dividend positive
  rw [Int.cast_natCast] at rounded
  rw [← Int.floor_toNat, rounded]
  norm_cast

/-- The division is exact up to the rounding. -/
theorem straight_eq_floor (max sample : ℕ) (positive : 0 < alpha) :
    straight max sample alpha = min max ⌊(sample * max / alpha + 1 / 2 : ℚ)⌋₊ := by
  have exact := floor_div_add_half (sample * max) positive
  rw [Nat.cast_mul] at exact
  rw [exact, straight, min_comm]

theorem straight_mono (max alpha : ℕ) : Monotone fun sample => straight max sample alpha := by
  intro sample other le
  unfold straight
  dsimp only
  gcongr

theorem le_straight (inRange : sample ≤ max) (positive : 0 < alpha) (le : alpha ≤ max) :
    sample ≤ straight max sample alpha := by
  apply le_min _ inRange
  rw [Nat.le_div_iff_mul_le positive]
  calc sample * alpha ≤ sample * max := Nat.mul_le_mul_left sample le
    _ ≤ sample * max + alpha / 2 := Nat.le_add_right ..

theorem straight_of_le (positive : 0 < alpha) (le : alpha ≤ sample) :
    straight max sample alpha = max := by
  apply min_eq_right
  rw [Nat.le_div_iff_mul_le positive]
  calc max * alpha ≤ max * sample := Nat.mul_le_mul_left max le
    _ = sample * max := Nat.mul_comm ..
    _ ≤ sample * max + alpha / 2 := Nat.le_add_right ..

/-- A straight sample multiplied by its alpha and rounded. -/
def premultiplied (max sample alpha : ℕ) : ℕ :=
  ⌊(sample * alpha / max + 1 / 2 : ℚ)⌋₊

theorem near_floor_add_half {number : ℚ} (nonneg : 0 ≤ number) :
    |(⌊number + 1 / 2⌋₊ : ℚ) - number| ≤ 1 / 2 := by
  have whole : (⌊number + 1 / 2⌋₊ : ℚ) = round number := by
    rw [round_eq, natCast_floor_eq_intCast_floor (by positivity)]
  rw [whole, abs_sub_comm]
  exact abs_sub_round number

theorem premultiplied_le (positive : 0 < max) (inRange : sample ≤ max) :
    premultiplied max sample alpha ≤ alpha := by
  have exact := floor_div_add_half (sample * alpha) positive
  rw [Nat.cast_mul] at exact
  rw [premultiplied, exact, ← Nat.lt_succ_iff, Nat.div_lt_iff_lt_mul positive]
  have scaled : sample * alpha ≤ max * alpha := Nat.mul_le_mul_right alpha inRange
  rw [Nat.succ_mul, Nat.mul_comm alpha]
  omega

/-- Half a step that the multiplication lost is `max / (2 * alpha)` steps after the division. -/
theorem straight_premultiplied_near (inRange : sample ≤ max) (positive : 0 < alpha)
    (le : alpha ≤ max) : |(straight max (premultiplied max sample alpha) alpha : ℚ) - sample| ≤
      max / (2 * alpha) + 1 / 2 := by
  have alphaPositive : (0 : ℚ) < alpha := by exact_mod_cast positive
  have maxPositive : (0 : ℚ) < max := by exact_mod_cast positive.trans_le le
  have lost : |(premultiplied max sample alpha : ℚ) - sample * alpha / max| ≤ 1 / 2 :=
    near_floor_add_half (by positivity)
  generalize premultiplied max sample alpha = stored at lost
  have rounded : |(⌊(stored * max / alpha + 1 / 2 : ℚ)⌋₊ : ℚ) - stored * max / alpha| ≤ 1 / 2 :=
    near_floor_add_half (by positivity)
  have divided : |(stored * max / alpha : ℚ) - sample| ≤ max / (2 * alpha) := by
    calc |(stored * max / alpha : ℚ) - sample|
        = |(stored : ℚ) - sample * alpha / max| * (max / alpha) := by
          rw [← abs_of_pos (div_pos maxPositive alphaPositive), ← abs_mul]
          congr 1
          field_simp
      _ ≤ 1 / 2 * (max / alpha) := by gcongr
      _ = max / (2 * alpha) := by field_simp
  have cut : |((min max ⌊(stored * max / alpha + 1 / 2 : ℚ)⌋₊ : ℕ) : ℚ) - sample| ≤
      |(⌊(stored * max / alpha + 1 / 2 : ℚ)⌋₊ : ℚ) - sample| := by
    have inside : (sample : ℚ) ≤ max := by exact_mod_cast inRange
    rcases le_total max ⌊(stored * max / alpha + 1 / 2 : ℚ)⌋₊ with beyond | within
    · have beyond' : (max : ℚ) ≤ ⌊(stored * max / alpha + 1 / 2 : ℚ)⌋₊ := by exact_mod_cast beyond
      rw [min_eq_left beyond, abs_of_nonneg (sub_nonneg.mpr inside),
        abs_of_nonneg (sub_nonneg.mpr (inside.trans beyond'))]
      gcongr
    · rw [min_eq_right within]
  calc |(straight max stored alpha : ℚ) - sample|
      ≤ |(⌊(stored * max / alpha + 1 / 2 : ℚ)⌋₊ : ℚ) - sample| := by
        rw [straight_eq_floor max stored positive]
        exact cut
    _ ≤ |(⌊(stored * max / alpha + 1 / 2 : ℚ)⌋₊ : ℚ) - stored * max / alpha| +
          |(stored * max / alpha : ℚ) - sample| := abs_sub_le ..
    _ ≤ 1 / 2 + max / (2 * alpha) := add_le_add rounded divided
    _ = max / (2 * alpha) + 1 / 2 := add_comm ..

/-- All numbers on the way are words. -/
theorem straight?_eq (small : max ≤ 65535) (inRange : sample ≤ max) (positive : 0 < alpha)
    (le : alpha ≤ max) : straight? (.ofNat max) (.ofNat sample) (.ofNat alpha) =
      some (.ofNat (straight max sample alpha)) := by
  have word {number : ℕ} (bound : number ≤ 65535) : (UInt32.ofNat number).toNat = number :=
    UInt32.toNat_ofNat_of_lt' (bound.trans_lt (by decide))
  have maxWord := word small
  have sampleWord := word (inRange.trans small)
  have alphaWord := word (le.trans small)
  have product : sample * max ≤ 65535 * 65535 := Nat.mul_le_mul (inRange.trans small) small
  have scaled : (UInt32.ofNat sample).toNat * (UInt32.ofNat max).toNat < UInt32.size := by
    rw [sampleWord, maxWord]
    exact product.trans_lt (by decide)
  have scaledWord : (UInt32.ofNat sample * UInt32.ofNat max).toNat = sample * max := by
    rw [UInt32.toNat_mul, Nat.mod_eq_of_lt scaled, sampleWord, maxWord]
  have halfWord : (UInt32.ofNat alpha / 2).toNat = alpha / 2 := by
    rw [UInt32.toNat_div, alphaWord]
    rfl
  have raised : (UInt32.ofNat sample * UInt32.ofNat max).toNat + (UInt32.ofNat alpha / 2).toNat <
      UInt32.size := by
    rw [scaledWord, halfWord, UInt32.size]
    omega
  have nonzero : UInt32.ofNat alpha ≠ 0 := by
    intro zero
    rw [zero] at alphaWord
    exact positive.ne alphaWord
  have computed : straight? (.ofNat max) (.ofNat sample) (.ofNat alpha) =
      some (min ((UInt32.ofNat sample * UInt32.ofNat max + UInt32.ofNat alpha / 2) /
        UInt32.ofNat alpha) (UInt32.ofNat max)) := by
    simp only [straight?, mul?, add?, if_pos scaled, if_pos raised, if_neg nonzero,
      Option.bind_eq_bind, Option.bind_some]
    rfl
  rw [computed, Option.some.injEq]
  apply UInt32.toNat.inj
  have resultWord : (UInt32.ofNat (straight max sample alpha)).toNat = straight max sample alpha :=
    word ((min_le_right _ _).trans small)
  rw [resultWord, UInt32.toNat_min, UInt32.toNat_div, UInt32.toNat_add, Nat.mod_eq_of_lt raised,
    scaledWord, halfWord, alphaWord, maxWord]
  rfl

/-! ## Pixels -/

/-- What division by one alpha does to the samples of a scale. -/
structure IsDivision (max alpha : ℕ) (divide : ℕ → ℕ) : Prop where
  exact : ∀ sample, divide sample = min max ⌊(sample * max / alpha + 1 / 2 : ℚ)⌋₊
  /-- Words are enough for it. -/
  words : ∀ sample ≤ max, straight? (.ofNat max) (.ofNat sample) (.ofNat alpha) =
    some (.ofNat (divide sample))
  mono : Monotone divide
  le : ∀ sample ≤ max, sample ≤ divide sample
  full : ∀ sample, alpha ≤ sample → divide sample = max
  near : ∀ sample ≤ max, premultiplied max sample alpha ≤ alpha ∧
    |(divide (premultiplied max sample alpha) : ℚ) - sample| ≤ max / (2 * alpha) + 1 / 2

theorem isDivision_straight (small : max ≤ 65535) (positive : 0 < alpha) (le : alpha ≤ max) :
    IsDivision max alpha fun sample => straight max sample alpha where
  exact sample := straight_eq_floor max sample positive
  words _ inRange := straight?_eq small inRange positive le
  mono := straight_mono max alpha
  le _ inRange := le_straight inRange positive le
  full _ large := straight_of_le positive large
  near _ inRange := ⟨premultiplied_le (positive.trans_le le) inRange,
    straight_premultiplied_near inRange positive le⟩

/-- All elements of a vector but the last are changed. -/
theorem toList_ofFn_butLast {α : Type} {size : ℕ} {items : Vector α size} {front : List α}
    {last : α} (split : items.toList = front ++ [last]) (change : α → α) :
    (Vector.ofFn fun index : Fin size =>
      if index.val + 1 = size then items[index] else change items[index]).toList =
        front.map change ++ [last] := by
  have count : front.length + 1 = size := by
    rw [← items.length_toList, split, List.length_append, List.length_singleton]
  subst count
  have element (index : Fin (front.length + 1)) :
      some (items.get index) = (front ++ [last])[index.val]? := by
    rw [← split, Vector.getElem?_toList]
    exact (Vector.getElem?_eq_getElem index.isLt).symm
  rw [Vector.toList_ofFn, List.ofFn_succ', List.concat_eq_append]
  congr 1
  · apply List.ext_getElem
    · rw [List.length_ofFn, List.length_map]
    · intro index inside _
      rw [List.length_ofFn] at inside
      have here := element ⟨index, Nat.lt_succ_of_lt inside⟩
      rw [List.getElem?_append_left inside, List.getElem?_eq_getElem inside,
        Option.some.injEq] at here
      have notLast : ¬index + 1 = front.length + 1 := by omega
      rw [List.getElem_ofFn, List.getElem_map, ← here]
      exact if_neg notLast
  · have here := (element (Fin.last front.length)).trans List.getElem?_concat_length
    exact congrArg List.singleton ((if_pos rfl).trans (Option.some.inj here))

theorem toList_straightPixel {layout : ChannelLayout} {depth : HostDepth}
    {pixel : Pixel layout depth} {colors : List ℕ} {alpha : ℕ}
    (samples : pixel.toList.map Fin.val = colors ++ [alpha]) :
    (straightPixel layout depth pixel).toList.map Fin.val =
      (if alpha = 0 ∨ alpha = depth.max then colors
        else colors.map fun color => straight depth.max color alpha) ++ [alpha] := by
  rcases List.map_eq_append_iff.mp samples with ⟨front, back, split, rfl, isLast⟩
  rcases List.map_eq_singleton_iff.mp isLast with ⟨last, rfl, rfl⟩
  have found : pixel.back? = some last := by
    have count := congrArg List.length split
    rw [pixel.length_toList, List.length_append, List.length_singleton] at count
    rw [Vector.back?_eq_getElem?, ← Vector.getElem?_toList, split, count, Nat.add_sub_cancel,
      List.getElem?_concat_length]
  unfold straightPixel
  rw [found]
  simp only
  split
  · exact samples
  · rw [toList_ofFn_butLast split fun sample =>
      depth.clamp (straight depth.max sample.val last.val), List.map_append, List.map_map,
      List.map_map]
    congr 1
    apply List.map_congr_left
    intro sample _
    exact min_eq_left (min_le_right _ _)

/-! ## Rasters -/

theorem samples?_unpremultiply {raster : Raster} (hasAlpha : raster.hasAlpha = true)
    (column row : ℕ) :
    raster.unpremultiply.samples? column row = (raster.pixels.cell? column row).map fun pixel =>
      (straightPixel raster.layout raster.depth pixel).toList.map Fin.val := by
  rw [unpremultiply_of_hasAlpha hasAlpha]
  simp only [samples?, Grid.cell?_map, Option.map_map]
  rfl

/-- What remains when the colour of a raster is divided by its alpha. -/
structure IsStraightOf (result source : Raster) : Prop where
  layout : result.layout = source.layout
  /-- Size, depth and all alpha samples stay. -/
  recolored : result.IsRecoloringOf source
  isOpaque : source.hasAlpha = false → result = source
  /-- Colour that is fully transparent or fully visible stays, too. -/
  pixels : source.hasAlpha = true → ∀ column row colors alpha,
    source.samples? column row = some (colors ++ [alpha]) →
      result.samples? column row = some ((if alpha = 0 ∨ alpha = source.depth.max then colors
        else colors.map fun color => straight source.depth.max color alpha) ++ [alpha])
  division : ∀ alpha, 0 < alpha → alpha ≤ source.depth.max →
    IsDivision source.depth.max alpha fun color => straight source.depth.max color alpha

theorem isStraightOf_unpremultiply (raster : Raster) :
    raster.unpremultiply.IsStraightOf raster where
  layout := raster.layout_unpremultiply
  recolored := raster.isRecoloringOf_unpremultiply
  isOpaque := unpremultiply_of_isOpaque
  pixels hasAlpha column row colors alpha found := by
    rcases Option.map_eq_some_iff.mp found with ⟨pixel, here, samples⟩
    rw [samples?_unpremultiply hasAlpha, here, Option.map_some, toList_straightPixel samples]
  division alpha positive le := by
    have small : raster.depth.max ≤ 65535 := by
      cases raster.depth <;> decide
    exact isDivision_straight small positive le

end AvifStill.Raster
