import AvifStill.Frame
import AvifStill.Proofs.Numeric.Single

/-!
# Rescaled samples

Rescaling divides, multiplies and adds a half in single precision before the fraction is cut off.
Each of the three operations is off by one unit in the last place at most. On scales of 16 bits that
adds up to less than 1/32 of a step, so a rescaled sample is hardly further from the exact quotient
than rounding to a whole number takes it. A scale that is finer by a few parts in a hundred therefore
keeps samples in order, and they come back from it.
-/

namespace AvifStill.Sample

open Numeric

variable {value source target : ℕ}

theorem isMedium_of_bounds {number : ℚ} (low : 1 / 2 ^ 20 ≤ number) (high : number ≤ 2 ^ 20) :
    IsMedium number := by
  constructor
  · refine le_trans ?_ low
    norm_num
  · refine high.trans ?_
    norm_num

/-- A quotient of whole numbers is rounded by adding half the divisor. -/
theorem floor_intCast_div_add_half (dividend : ℤ) {divisor : ℕ} (positive : 0 < divisor) :
    ⌊(dividend / divisor + 1 / 2 : ℚ)⌋ = (dividend + divisor / 2) / divisor := by
  have common : (dividend / divisor + 1 / 2 : ℚ) =
      (dividend + (divisor : ℤ) / (2 : ℕ)) / divisor := by
    push_cast
    field_simp
  rw [common, Int.floor_div_natCast, Int.floor_intCast_add, Int.floor_div_natCast,
    Int.floor_intCast]
  rfl

theorem rescale_le (value source target : ℕ) : rescale value source target ≤ target :=
  min_le_right ..

theorem ratio_bounds (fits : value ≤ source) (positive : 0 < source) (small : source < 2 ^ 16) :
    (value / source : ℚ) ≤ 1 ∧ ((value / source : ℚ) ≠ 0 → 1 / 2 ^ 16 ≤ (value / source : ℚ)) := by
  have divisor : (0 : ℚ) < source := by exact_mod_cast positive
  constructor
  · rw [div_le_one divisor]
    exact_mod_cast fits
  · intro notZero
    have least : value ≠ 0 := by
      rintro rfl
      simp at notZero
    have bound : source ≤ value * 2 ^ 16 := by omega
    rw [div_le_div_iff₀ (by norm_num) divisor, one_mul]
    exact_mod_cast bound

theorem exists_ratio (fits : value ≤ source) (positive : 0 < source) (small : source < 2 ^ 16) :
    ∃ ratio, Denotes (singleOfNat value / singleOfNat source) ratio ∧
      |ratio - value / source| ≤ 1 / 2 ^ 23 ∧ (ratio ≠ 0 → 1 / 2 ^ 17 ≤ ratio) := by
  have bounds := ratio_bounds fits positive small
  have medium : (value : ℚ) ≠ 0 → IsMedium (value / source) := by
    intro notZero
    have least := bounds.2 (div_ne_zero notZero (by positivity))
    apply isMedium_of_bounds
    · linarith
    · linarith
  obtain ⟨ratio, isRatio, near⟩ := exists_div (denotes_singleOfNat (by omega : value ≤ 2 ^ 24))
    (denotes_singleOfNat (by omega : source ≤ 2 ^ 24)) (by exact_mod_cast positive) medium
  refine ⟨ratio, isRatio, ?_, ?_⟩
  · exact near.trans (by linarith)
  · intro notZero
    rw [IsRounded, abs_le] at near
    rcases eq_or_ne (value / source : ℚ) 0 with isZero | exactNotZero
    · rw [isZero] at near
      exact absurd (by linarith : ratio = 0) notZero
    · linarith [bounds.2 exactNotZero]

theorem exists_product {number : Float32} {ratio : ℚ} (isRatio : Denotes number ratio)
    (least : ratio ≠ 0 → 1 / 2 ^ 17 ≤ ratio) (most : ratio ≤ 1 + 1 / 2 ^ 23)
    (positive : 0 < target) (small : target < 2 ^ 16) :
    ∃ product, Denotes (number * singleOfNat target) product ∧
      |product - ratio * target| ≤ 1 / 128 := by
  have low : (1 : ℚ) ≤ target := by exact_mod_cast positive
  have high : (target : ℚ) ≤ 65535 := by exact_mod_cast Nat.le_of_lt_succ small
  have bound : ratio * target ≤ 65536 := by
    calc ratio * target ≤ (1 + 1 / 2 ^ 23) * 65535 := by gcongr
      _ ≤ 65536 := by norm_num
  have medium : ratio * target ≠ 0 → IsMedium (ratio * target) := by
    intro notZero
    have leastRatio := least (left_ne_zero_of_mul notZero)
    apply isMedium_of_bounds
    · calc (1 / 2 ^ 20 : ℚ) ≤ 1 / 2 ^ 17 * 1 := by norm_num
        _ ≤ ratio * target := by gcongr
    · linarith
  obtain ⟨product, isProduct, near⟩ :=
    exists_mul isRatio (denotes_singleOfNat (by omega : target ≤ 2 ^ 24)) medium
  exact ⟨product, isProduct, near.trans (by linarith)⟩

/-- The sample before its fraction is cut off. -/
theorem exists_scaled (fits : value ≤ source) (positive : 0 < source) (small : source < 2 ^ 16)
    (targetPositive : 0 < target) (targetSmall : target < 2 ^ 16) :
    ∃ scaled, Denotes
      (singleOfNat value / singleOfNat source * singleOfNat target + 0.5) scaled ∧
        |scaled - (value / source * target + 1 / 2)| ≤ 1 / 32 := by
  have bound := (ratio_bounds fits positive small).1
  have high : (target : ℚ) ≤ 65535 := by exact_mod_cast Nat.le_of_lt_succ targetSmall
  obtain ⟨ratio, isRatio, ratioNear, least⟩ := exists_ratio fits positive small
  have most : ratio ≤ 1 + 1 / 2 ^ 23 := by linarith [(abs_le.mp ratioNear).2]
  obtain ⟨product, isProduct, productNear⟩ :=
    exists_product isRatio least most targetPositive targetSmall
  have carried : |ratio * target - value / source * target| ≤ 1 / 128 := by
    rw [← sub_mul, abs_mul, Nat.abs_cast]
    calc |ratio - value / source| * target ≤ 1 / 2 ^ 23 * 65535 := by gcongr
      _ ≤ 1 / 128 := by norm_num
  have exactBound : (value / source * target : ℚ) ≤ 65535 := by
    calc (value / source * target : ℚ) ≤ 1 * 65535 := by gcongr
      _ = 65535 := one_mul _
  rw [abs_le] at productNear carried
  have nonneg := isProduct.nonneg
  have medium : product + 1 / 2 ≠ 0 → IsMedium (product + 1 / 2) := by
    intro _
    apply isMedium_of_bounds
    · linarith
    · linarith
  obtain ⟨scaled, isScaled, scaledNear⟩ := exists_add isProduct denotes_half medium
  rw [IsRounded, abs_le] at scaledNear
  refine ⟨scaled, isScaled, ?_⟩
  rw [abs_le]
  constructor
  · linarith
  · linarith

/-- A rescaled sample is the rounded quotient, up to the inaccuracy of single precision. -/
theorem rescale_near (fits : value ≤ source) (positive : 0 < source) (small : source < 2 ^ 16)
    (targetPositive : 0 < target) (targetSmall : target < 2 ^ 16) :
    |(rescale value source target : ℚ) - value / source * target| ≤ 17 / 32 := by
  obtain ⟨scaled, isScaled, near⟩ :=
    exists_scaled fits positive small targetPositive targetSmall
  rw [abs_le] at near
  have exactBound : (value / source * target : ℚ) ≤ target := by
    calc (value / source * target : ℚ) ≤ 1 * target := by
          gcongr
          exact (ratio_bounds fits positive small).1
      _ = target := one_mul _
  have high : (target : ℚ) ≤ 65535 := by exact_mod_cast Nat.le_of_lt_succ targetSmall
  have whole : rescale value source target = min ⌊scaled⌋₊ target := by
    simp only [rescale, toNat_toUInt64 isScaled (by linarith)]
  have floorLow := Nat.lt_floor_add_one scaled
  have floorHigh := Nat.floor_le isScaled.nonneg
  rw [whole, Nat.cast_min, abs_le]
  constructor
  · have least : (value / source * target : ℚ) - 17 / 32 ≤ min (⌊scaled⌋₊ : ℚ) target := by
      apply le_min
      · linarith
      · linarith
    linarith
  · have most : min (⌊scaled⌋₊ : ℚ) target ≤ ⌊scaled⌋₊ := min_le_left ..
    linarith

theorem rescale_mul_near (fits : value ≤ source) (positive : 0 < source) (small : source < 2 ^ 16)
    (targetPositive : 0 < target) (targetSmall : target < 2 ^ 16) :
    |((rescale value source target * source : ℕ) : ℤ) - (value * target : ℕ)| ≤ source := by
  have near := rescale_near fits positive small targetPositive targetSmall
  have divisor : (0 : ℚ) < source := by exact_mod_cast positive
  have factored : (rescale value source target * source - value * target : ℚ) =
      (rescale value source target - value / source * target) * source := by
    field_simp
  have scaled : |(rescale value source target * source - value * target : ℚ)| ≤ source := by
    calc |(rescale value source target * source - value * target : ℚ)|
        = |(rescale value source target : ℚ) - value / source * target| * source := by
          rw [factored, abs_mul, abs_of_pos divisor]
      _ ≤ 17 / 32 * source := by gcongr
      _ ≤ source := by linarith
  exact_mod_cast scaled

/-! ## Finer scales -/

theorem eq_of_abs_sub_lt_one {number other : ℕ} (near : |(number : ℚ) - other| < 1) :
    number = other := by
  have whole : |(number : ℤ) - other| < 1 := by exact_mod_cast near
  exact_mod_cast sub_eq_zero.mp (Int.abs_lt_one_iff.mp whole)

section Finer

variable {other : ℕ} (finer : 17 * source < 15 * target) (small : target < 2 ^ 16)
include finer small

/-- On a finer scale samples keep their order. -/
theorem rescale_lt_rescale (lt : value < other) (fits : other ≤ source) :
    rescale value source target < rescale other source target := by
  have positive : 0 < source := by omega
  have divisor : (0 : ℚ) < source := by exact_mod_cast positive
  have lower := rescale_near (lt.le.trans fits) positive (by omega) (by omega) small
  have upper := rescale_near fits positive (by omega) (by omega) small
  have step : (17 / 16 : ℚ) < (other - value) / source * target := by
    have apart : (1 : ℚ) ≤ other - value := by
      rw [le_sub_iff_add_le']
      exact_mod_cast lt
    have ratio : (17 / 15 : ℚ) < target / source := by
      rw [div_lt_div_iff₀ (by norm_num) divisor, mul_comm (target : ℚ)]
      exact_mod_cast finer
    calc (17 / 16 : ℚ) < 1 * (17 / 15) := by norm_num
      _ ≤ (other - value) * (target / source) := by gcongr
      _ = (other - value) / source * target := by ring
  rw [sub_div, sub_mul] at step
  rw [abs_le] at lower upper
  have less : (rescale value source target : ℚ) < rescale other source target := by linarith
  exact_mod_cast less

/-- A sample comes back from a finer scale. -/
theorem rescale_rescale (fits : value ≤ source) (positive : 0 < source) :
    rescale (rescale value source target) target source = value := by
  have sourcePositive : (0 : ℚ) < source := by exact_mod_cast positive
  have targetPositive : (0 : ℚ) < target := by
    have : 0 < target := by omega
    exact_mod_cast this
  have there := rescale_near fits positive (by omega) (by omega) small
  have back := rescale_near (rescale_le value source target) (by omega) small positive (by omega)
  have carried : |(rescale value source target / target * source - value : ℚ)| < 15 / 32 := by
    have ratio : (source / target : ℚ) < 15 / 17 := by
      rw [div_lt_div_iff₀ targetPositive (by norm_num), mul_comm (source : ℚ)]
      exact_mod_cast finer
    have factored : (rescale value source target / target * source - value : ℚ) =
        (rescale value source target - value / source * target) * (source / target) := by
      field_simp
    calc |(rescale value source target / target * source - value : ℚ)|
        = |(rescale value source target : ℚ) - value / source * target| * (source / target) := by
          rw [factored, abs_mul, abs_of_pos (div_pos sourcePositive targetPositive)]
      _ ≤ 17 / 32 * (source / target) := by gcongr
      _ < 17 / 32 * (15 / 17) := by gcongr
      _ = 15 / 32 := by norm_num
  apply eq_of_abs_sub_lt_one
  rw [abs_le] at back
  rw [abs_lt] at carried ⊢
  constructor
  · linarith
  · linarith

end Finer

/-- The scale of 16 bits is finer than all that are coded. -/
theorem finer_of_isCodedDepth {depth : ℕ} (coded : Frame.IsCodedDepth depth) :
    0 < maxValue depth ∧ 17 * maxValue depth < 15 * 65535 := by
  rcases coded with rfl | rfl | rfl
  all_goals decide

/-- A coded sample comes back from the scale of 16 bits. -/
theorem host16ToCodec_codecToHost16 {depth : ℕ} (coded : Frame.IsCodedDepth depth)
    (fits : value ≤ maxValue depth) : host16ToCodec (codecToHost16 value depth) depth = value := by
  obtain ⟨positive, finer⟩ := finer_of_isCodedDepth coded
  rw [host16ToCodec, codecToHost16, rescale_rescale finer (by norm_num) fits positive]
  exact Nat.mod_eq_of_lt (by omega)

/-- A wide sample that came from an 8-bit one is narrowed to it. -/
theorem narrow16_widen8 (fits : value ≤ 255) : narrow16 (widen8 value) = value := by
  have near := @rescale_near (widen8 value) 65535 255 (by simp only [widen8]; omega) (by norm_num)
    (by norm_num) (by norm_num) (by norm_num)
  have exact : ((widen8 value : ℕ) / (65535 : ℕ) * (255 : ℕ) : ℚ) = value := by
    rw [widen8]
    push_cast
    ring
  rw [exact] at near
  exact eq_of_abs_sub_lt_one (near.trans_lt (by norm_num))

end AvifStill.Sample
