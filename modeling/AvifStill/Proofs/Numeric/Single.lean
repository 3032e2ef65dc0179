import Mathlib
import AvifStill.Numeric.Binary

/-!
# Single-precision arithmetic

What nonnegative single-precision numbers stand for, and how far each operation is from the exact
one. All bounds are one unit in the last place of a 24-bit significand, not half a unit: that is
all that rescaling samples needs, and it holds however a tie is broken.
-/

namespace AvifStill.Numeric

open Float.Model Float.Model.UnpackedFloat

/-- The rational that a nonnegative number stands for; numbers too small to be normal are left out. -/
inductive Denotes (number : Float32) : ℚ → Prop where
  | zero (unpacked : number.toModel.unpack = .zero .positive) : Denotes number 0
  | normal {significand : ℕ} {exponent : ℤ} (positive : 0 < significand)
      (unpacked : number.toModel.unpack = .finite .positive significand exponent positive)
      (low : 2 ^ 23 ≤ significand) (high : significand < 2 ^ 24) :
      Denotes number (significand * 2 ^ exponent)

/-- The results for which rounding neither loses significant bits nor overflows. -/
def IsMedium (value : ℚ) : Prop :=
  (2 : ℚ) ^ (-100 : ℤ) ≤ value ∧ value ≤ (2 : ℚ) ^ (100 : ℤ)

/-- Whether a value is off by at most one unit in the last of 24 bits. -/
def IsRounded (value exact : ℚ) : Prop :=
  |value - exact| ≤ exact / 2 ^ 23

/-! ## Storing a number -/

theorem log2_of_bits {significand : ℕ} (low : 2 ^ 23 ≤ significand) (high : significand < 2 ^ 24) :
    significand.log2 = 23 :=
  (Nat.log2_eq_iff (by omega)).mpr ⟨low, high⟩

/-- The leading one of a significand is not stored, and is put back in front. -/
theorem toNat_leading_append {significand : ℕ} (low : 2 ^ 23 ≤ significand)
    (high : significand < 2 ^ 24) : (1#1 ++ BitVec.ofNat 23 significand).toNat = significand := by
  have fraction : (BitVec.ofNat 23 significand).toNat = significand - 2 ^ 23 := by
    rw [BitVec.toNat_ofNat]
    omega
  rw [BitVec.toNat_append, ← Nat.shiftLeft_add_eq_or_of_lt (BitVec.isLt _), fraction]
  simp [Nat.shiftLeft_eq]
  omega

/-- The exponent fields of normal numbers are not the two that are set apart. -/
theorem ofNat_field {biased : ℕ} (low : 0 < biased) (high : biased < 255) :
    (BitVec.ofNat 8 biased).toNat = biased ∧ BitVec.ofNat 8 biased ≠ 0#8 ∧
      BitVec.ofNat 8 biased ≠ -1#8 := by
  have field : (BitVec.ofNat 8 biased).toNat = biased := by
    rw [BitVec.toNat_ofNat]
    omega
  refine ⟨field, ?_, ?_⟩
  · intro same
    have isZero := congrArg BitVec.toNat same
    simp [field] at isZero
    omega
  · intro same
    have isLast := congrArg BitVec.toNat same
    simp [field] at isLast
    omega

theorem unpack_pack {significand : ℕ} {exponent : ℤ} (positive : 0 < significand)
    (low : 2 ^ 23 ≤ significand) (high : significand < 2 ^ 24) (least : -149 ≤ exponent)
    (most : exponent ≤ 104) (sign : Sign) :
    (Float32.Model.pack (.finite sign significand exponent positive)).unpack =
      .finite sign significand exponent positive := by
  have bits := log2_of_bits low high
  obtain ⟨biased, isBiased⟩ : ∃ biased : ℕ, exponent + 127 + 23 = biased :=
    ⟨(exponent + 127 + 23).toNat, by omega⟩
  have field := ofNat_field (by omega : 0 < biased) (by omega)
  have packed : UnpackedFloat.pack Format.binary32 (.finite sign significand exponent positive) =
      packComponents Format.binary32 sign (BitVec.ofNat 8 biased)
        (BitVec.ofNat 23 significand) := by
    simp only [UnpackedFloat.pack, Format.exponentBias, Format.mantissaBits, bits]
    have isField : (exponent + ((2 ^ (8 - 1) - 1 : ℕ) : ℤ) + ((23 : ℕ) : ℤ)).toNat = biased := by
      omega
    rw [isField, if_neg (by omega), if_pos trivial]
  unfold Float32.Model.unpack Float32.Model.pack
  simp only [packed, UnpackedFloat.unpack, unpackMantissa_packComponents, unpackExponent_packComponents,
    unpackSign_packComponents, Sign.ofBitVec_toBitVec, field.2.1, field.2.2, if_false,
    toNat_leading_append low high, field.1]
  congr 1
  simp [Format.exponentBias]
  omega

/-! ## Rounding a significand -/

theorem mantissa_shiftRight (extended : ExtendedMantissa) (count : ℕ) :
    (extended >>> count).mantissa = extended.mantissa / 2 ^ count := by
  induction count with
  | zero => simp [HShiftRight.hShiftRight, Nat.repeat]
  | succ count ih =>
      have step : (extended >>> (count + 1)).mantissa = (extended >>> count).mantissa / 2 := rfl
      rw [step, ih, Nat.div_div_eq_div_mul, pow_succ]

theorem roundedMantissa_bounds (extended : ExtendedMantissa) :
    extended.mantissa ≤ extended.roundedMantissa ∧
      extended.roundedMantissa ≤ extended.mantissa + 1 := by
  rcases extended with ⟨mantissa, half, rest⟩
  cases half <;> cases rest <;>
    simp [ExtendedMantissa.roundedMantissa, ExtendedMantissa.accuracy, Accuracy.roundToNearestEven]
  omega

/-- Shifting brings a long significand to 24 bits, unless the exponent gets too small. -/
theorem shiftToTargetExponent_eq {significand count : ℕ} {exponent : ℤ}
    (bits : significand.log2 = 23 + count) (least : -149 ≤ exponent + count)
    (accuracy : Accuracy) :
    shiftToTargetExponent Format.binary32 significand exponent accuracy =
      (ExtendedMantissa.ofMantissaAndAccuracy significand accuracy >>> count, exponent + count) := by
  have shift : (Format.binary32.targetExponent (totalExponent significand exponent) -
      exponent).toNat = count := by
    simp only [Format.targetExponent, totalExponent, Format.mantissaBits, Format.minExponent, bits]
    omega
  simp only [shiftToTargetExponent, shiftToExponent, shift]

theorem mantissa_ofMantissaAndAccuracy (significand : ℕ) (accuracy : Accuracy) :
    (ExtendedMantissa.ofMantissaAndAccuracy significand accuracy).mantissa = significand := by
  rcases accuracy with _ | order
  · rfl
  · cases order <;> rfl

theorem quotient_bounds {significand count : ℕ} (bits : significand.log2 = 23 + count) :
    2 ^ 23 ≤ significand / 2 ^ count ∧ significand / 2 ^ count < 2 ^ 24 := by
  have notZero : significand ≠ 0 := by
    rintro rfl
    rw [Nat.log2_zero] at bits
    omega
  have bounds := (Nat.log2_eq_iff notZero).mp bits
  constructor
  · rw [Nat.le_div_iff_mul_le (by positivity), ← pow_add]
    exact bounds.1
  · rw [Nat.div_lt_iff_lt_mul (by positivity), ← pow_add, show 24 + count = 23 + count + 1 by omega]
    exact bounds.2

/--
A long significand is cut to 24 bits and goes up by one unit or not. Where that carries into a 25th
bit, the significand is halved and nothing more is lost.
-/
theorem exists_roundWithAccuracy {significand count : ℕ} {exponent : ℤ}
    (bits : significand.log2 = 23 + count) (least : -149 ≤ exponent + count) (sign : Sign)
    (accuracy : Accuracy) :
    ∃ (rounded kept : ℕ) (shifted : ℤ) (positive : 0 < kept),
      roundWithAccuracy Format.binary32 sign significand exponent accuracy =
        .finite sign kept shifted positive ∧
      2 ^ 23 ≤ kept ∧ kept < 2 ^ 24 ∧ exponent + count ≤ shifted ∧
      shifted ≤ exponent + count + 1 ∧
      (kept : ℚ) * 2 ^ shifted = rounded * 2 ^ (exponent + count) ∧
      significand / 2 ^ count ≤ rounded ∧ rounded ≤ significand / 2 ^ count + 1 := by
  have first := shiftToTargetExponent_eq bits least accuracy
  have cut := quotient_bounds bits
  have bounds := roundedMantissa_bounds
    (ExtendedMantissa.ofMantissaAndAccuracy significand accuracy >>> count)
  rw [mantissa_shiftRight, mantissa_ofMantissaAndAccuracy] at bounds
  generalize (ExtendedMantissa.ofMantissaAndAccuracy significand accuracy >>> count) = extended
    at first bounds
  have fits : extended.roundedMantissa < 2 ^ 24 ∨ extended.roundedMantissa = 2 ^ 24 := by omega
  -- Rounding normalizes once more, which does nothing unless the rounded significand carried.
  rcases fits with fits | carries
  · have second := @shiftToTargetExponent_eq extended.roundedMantissa 0 (exponent + count)
      (log2_of_bits (by omega) fits) (by omega) .exact
    refine ⟨extended.roundedMantissa, extended.roundedMantissa, exponent + count, by omega, ?_,
      by omega, fits, le_refl _, by omega, rfl, bounds⟩
    unfold roundWithAccuracy
    simp only [first, second, mantissa_shiftRight, mantissa_ofMantissaAndAccuracy]
    rw [dif_neg (by omega)]
    simp
  · have second := @shiftToTargetExponent_eq (2 ^ 24) 1 (exponent + count) Nat.log2_two_pow
      (by omega) .exact
    refine ⟨extended.roundedMantissa, 2 ^ 23, exponent + count + 1, by omega, ?_, by omega, by omega,
      by omega, le_refl _, ?_, bounds⟩
    · unfold roundWithAccuracy
      simp only [first, carries, second, mantissa_shiftRight, mantissa_ofMantissaAndAccuracy]
      rfl
    · rw [carries, zpow_add_one₀ (by norm_num)]
      push_cast
      ring

/-- The exponents of medium numbers are far from the ends of the format. -/
theorem exponent_of_isMedium {significand : ℕ} {exponent : ℤ} {exact : ℚ}
    (notZero : significand ≠ 0) (medium : IsMedium exact)
    (above : significand * 2 ^ exponent ≤ exact) (below : exact ≤ (significand + 1) * 2 ^ exponent) :
    -100 ≤ significand.log2 + 1 + exponent ∧ significand.log2 + exponent ≤ 100 := by
  have scale : (0 : ℚ) < 2 ^ exponent := by positivity
  constructor
  · have wide : ((significand + 1 : ℕ) : ℚ) ≤ (2 ^ (significand.log2 + 1) : ℕ) := by
      exact_mod_cast Nat.lt_log2_self
    have bound : (2 : ℚ) ^ (-100 : ℤ) ≤ 2 ^ ((significand.log2 + 1 : ℕ) + exponent : ℤ) := by
      calc (2 : ℚ) ^ (-100 : ℤ) ≤ (significand + 1) * 2 ^ exponent := medium.1.trans below
        _ ≤ (2 ^ (significand.log2 + 1) : ℕ) * 2 ^ exponent := by
            gcongr
            exact_mod_cast wide
        _ = 2 ^ ((significand.log2 + 1 : ℕ) + exponent : ℤ) := by
            rw [zpow_add₀ (by norm_num), zpow_natCast]
            push_cast
            rfl
    have order := (zpow_le_zpow_iff_right₀ (by norm_num : (1 : ℚ) < 2)).mp bound
    push_cast at order
    exact order
  · have bound : (2 : ℚ) ^ ((significand.log2 : ℕ) + exponent : ℤ) ≤ 2 ^ (100 : ℤ) := by
      calc (2 : ℚ) ^ ((significand.log2 : ℕ) + exponent : ℤ)
          = (2 ^ significand.log2 : ℕ) * 2 ^ exponent := by
            rw [zpow_add₀ (by norm_num), zpow_natCast]
            push_cast
            rfl
        _ ≤ significand * 2 ^ exponent := by
            gcongr
            exact_mod_cast Nat.log2_self_le notZero
        _ ≤ 2 ^ (100 : ℤ) := above.trans medium.2
    exact (zpow_le_zpow_iff_right₀ (by norm_num : (1 : ℚ) < 2)).mp bound

/-- Two numbers within the same unit above a cut significand are within one unit of each other. -/
theorem isRounded_of_cut {cut rounded : ℕ} {unit exact : ℚ} (positive : 0 < unit)
    (long : 2 ^ 23 ≤ cut) (above : cut * unit ≤ exact) (below : exact ≤ (cut + 1) * unit)
    (bounds : cut ≤ rounded ∧ rounded ≤ cut + 1) : IsRounded (rounded * unit) exact := by
  have longCut : (2 ^ 23 : ℚ) ≤ cut := by exact_mod_cast long
  have least : (cut : ℚ) * unit ≤ rounded * unit := by
    gcongr
    exact bounds.1
  have most : (rounded : ℚ) * unit ≤ (cut + 1) * unit := by
    gcongr
    exact_mod_cast bounds.2
  have small : unit ≤ exact / 2 ^ 23 := by
    rw [le_div_iff₀ (by norm_num)]
    calc unit * 2 ^ 23 ≤ unit * cut := by gcongr
      _ ≤ exact := by rw [mul_comm]; exact above
  rw [IsRounded, abs_le]
  constructor
  · linarith
  · linarith

theorem cut_bounds (significand count : ℕ) :
    significand / 2 ^ count * 2 ^ count ≤ significand ∧
      significand + 1 ≤ (significand / 2 ^ count + 1) * 2 ^ count := by
  refine ⟨Nat.div_mul_le_self significand (2 ^ count), ?_⟩
  rw [add_mul, one_mul]
  exact Nat.lt_div_mul_add (by positivity)

/-- A result that is known up to one unit of a long significand is rounded to 24 bits. -/
theorem exists_denotes_round {significand : ℕ} {exponent : ℤ} {exact : ℚ}
    (long : 23 ≤ significand.log2) (medium : IsMedium exact)
    (above : significand * 2 ^ exponent ≤ exact) (below : exact ≤ (significand + 1) * 2 ^ exponent)
    (accuracy : Accuracy) :
    ∃ value, Denotes ⟨Float32.Model.pack
      (roundWithAccuracy Format.binary32 .positive significand exponent accuracy)⟩ value ∧
        IsRounded value exact := by
  obtain ⟨count, bits⟩ := Nat.exists_eq_add_of_le long
  have notZero : significand ≠ 0 := by
    rintro rfl
    rw [Nat.log2_zero] at long
    omega
  have ends := exponent_of_isMedium notZero medium above below
  rw [bits] at ends
  push_cast at ends
  obtain ⟨rounded, kept, shifted, positive, result, low, high, least, most, same, bounds⟩ :=
    exists_roundWithAccuracy bits (by omega : -149 ≤ exponent + count) .positive accuracy
  refine ⟨kept * 2 ^ shifted, ?_, ?_⟩
  · rw [result]
    exact .normal positive (unpack_pack positive low high (by omega) (by omega) _) low high
  have unit : (2 : ℚ) ^ (exponent + count) = 2 ^ count * 2 ^ exponent := by
    rw [add_comm, zpow_add₀ (by norm_num), zpow_natCast]
  have cut := cut_bounds significand count
  rw [same]
  apply isRounded_of_cut (by positivity) (quotient_bounds bits).1 ?_ ?_ bounds
  · refine le_trans ?_ above
    rw [unit, ← mul_assoc]
    gcongr
    exact_mod_cast cut.1
  · refine below.trans ?_
    rw [unit, ← mul_assoc]
    gcongr
    exact_mod_cast cut.2

/-! ## Operations -/

variable {left right : Float32} {first second : ℚ}

theorem Denotes.nonneg {number : Float32} {value : ℚ} (denotes : Denotes number value) :
    0 ≤ value := by
  cases denotes with
  | zero => exact le_refl 0
  | normal => positivity

theorem denotes_zero : Denotes ⟨Float32.Model.pack (.zero .positive)⟩ 0 :=
  .zero (unpack_packedZero ..)

/-- Division makes the dividend longer by 24 bits first, so that the quotient is long enough. -/
theorem divCore_eq {dividend divisor : ℕ} {exponent weight : ℤ} (low : 2 ^ 23 ≤ dividend)
    (high : dividend < 2 ^ 24) (divisorLow : 2 ^ 23 ≤ divisor) (divisorHigh : divisor < 2 ^ 24)
    (least : -149 ≤ exponent - weight - 24) :
    divCore Format.binary32 dividend exponent divisor weight =
      (dividend * 2 ^ 24 / divisor, exponent - weight - 24,
        accuracyOfFraction (dividend * 2 ^ 24 % divisor) divisor) := by
  have target : min (exponent - weight) (Format.binary32.targetExponent
      (totalExponent dividend exponent - totalExponent divisor weight)) =
        exponent - weight - 24 := by
    simp only [Format.targetExponent, totalExponent, Format.mantissaBits, Format.minExponent,
      log2_of_bits low high, log2_of_bits divisorLow divisorHigh]
    omega
  have shift : (exponent - weight - (exponent - weight - 24)).toNat = 24 := by omega
  simp only [divCore, target, shift, Nat.shiftLeft_eq]

theorem long_quotient {dividend divisor : ℕ} (low : 2 ^ 23 ≤ dividend)
    (high : dividend < 2 ^ 24) (divisorLow : 2 ^ 23 ≤ divisor) (divisorHigh : divisor < 2 ^ 24) :
    2 ^ 23 ≤ dividend * 2 ^ 24 / divisor ∧ dividend * 2 ^ 24 / divisor < 2 ^ 26 := by
  constructor
  · rw [Nat.le_div_iff_mul_le (by omega)]
    omega
  · rw [Nat.div_lt_iff_lt_mul (by omega)]
    omega

/-- The integer quotient is the exact one without its fraction. -/
theorem quotient_scale {dividend divisor : ℕ} (positive : 0 < divisor) (exponent weight : ℤ) :
    ((dividend * 2 ^ 24 / divisor : ℕ) : ℚ) * 2 ^ (exponent - weight - 24) ≤
        dividend * 2 ^ exponent / (divisor * 2 ^ weight) ∧
      (dividend * 2 ^ exponent / (divisor * 2 ^ weight) : ℚ) ≤
        ((dividend * 2 ^ 24 / divisor : ℕ) + 1) * 2 ^ (exponent - weight - 24) := by
  have scaled : (dividend * 2 ^ exponent / (divisor * 2 ^ weight) : ℚ) =
      (dividend * 2 ^ 24 / divisor : ℚ) * 2 ^ (exponent - weight - 24) := by
    rw [zpow_sub₀ (by norm_num), zpow_sub₀ (by norm_num)]
    field_simp
  rw [scaled]
  constructor
  · gcongr
    exact_mod_cast Nat.cast_div_le (α := ℚ)
  · gcongr
    have floor := Nat.lt_floor_add_one ((dividend * 2 ^ 24 : ℕ) / divisor : ℚ)
    rw [Nat.floor_div_eq_div] at floor
    exact_mod_cast floor.le

theorem div_finite_eq {dividend divisor : ℕ} {exponent weight : ℤ} (positive : 0 < dividend)
    (divisorPositive : 0 < divisor) (low : 2 ^ 23 ≤ dividend) (high : dividend < 2 ^ 24)
    (divisorLow : 2 ^ 23 ≤ divisor) (divisorHigh : divisor < 2 ^ 24)
    (least : -149 ≤ exponent - weight - 24) :
    UnpackedFloat.div Format.binary32 (.finite .positive dividend exponent positive)
        (.finite .positive divisor weight divisorPositive) =
      roundWithAccuracy Format.binary32 .positive (dividend * 2 ^ 24 / divisor)
        (exponent - weight - 24) (accuracyOfFraction (dividend * 2 ^ 24 % divisor) divisor) := by
  simp only [UnpackedFloat.div, divCore_eq low high divisorLow divisorHigh least]
  rfl

theorem exists_div (isLeft : Denotes left first) (isRight : Denotes right second)
    (positive : 0 < second) (medium : first ≠ 0 → IsMedium (first / second)) :
    ∃ value, Denotes (left / right) value ∧ IsRounded value (first / second) := by
  have ratio : left / right = ⟨Float32.Model.pack (UnpackedFloat.div Format.binary32
      left.toModel.unpack right.toModel.unpack)⟩ := rfl
  rw [ratio]
  cases isRight with
  | zero => exact absurd positive (lt_irrefl 0)
  | @normal divisor weight divisorPositive divisorUnpacked divisorLow divisorHigh =>
  cases isLeft with
  | zero unpacked =>
      rw [unpacked, divisorUnpacked]
      exact ⟨0, denotes_zero, by simp [IsRounded]⟩
  | @normal dividend exponent dividendPositive unpacked low high =>
      have quotient := long_quotient low high divisorLow divisorHigh
      have inRange := medium (by positivity)
      rcases quotient_scale divisorPositive exponent weight with ⟨above, below⟩
      -- The result is medium, so the exponent of its 25 or 26 bits is far from the least one.
      have bits : (dividend * 2 ^ 24 / divisor).log2 < 26 :=
        (Nat.log2_lt (by omega)).mpr quotient.2
      have ends := exponent_of_isMedium (by omega) inRange above below
      rw [unpacked, divisorUnpacked, div_finite_eq dividendPositive divisorPositive low high
        divisorLow divisorHigh (by omega)]
      exact exists_denotes_round ((Nat.le_log2 (by omega)).mpr quotient.1) inRange above below _

theorem exists_mul (isLeft : Denotes left first) (isRight : Denotes right second)
    (medium : first * second ≠ 0 → IsMedium (first * second)) :
    ∃ value, Denotes (left * right) value ∧ IsRounded value (first * second) := by
  have product : left * right = ⟨Float32.Model.pack (UnpackedFloat.mul Format.binary32
      left.toModel.unpack right.toModel.unpack)⟩ := rfl
  rw [product]
  cases isLeft with
  | zero unpacked =>
      cases isRight with
      | zero otherUnpacked =>
          rw [unpacked, otherUnpacked]
          exact ⟨0, denotes_zero, by simp [IsRounded]⟩
      | normal _ otherUnpacked =>
          rw [unpacked, otherUnpacked]
          exact ⟨0, denotes_zero, by simp [IsRounded]⟩
  | @normal significand exponent positive unpacked low high =>
      cases isRight with
      | zero otherUnpacked =>
          rw [unpacked, otherUnpacked]
          exact ⟨0, denotes_zero, by simp [IsRounded]⟩
      | @normal other weight otherPositive otherUnpacked otherLow otherHigh =>
          have exact_eq : (significand * 2 ^ exponent * (other * 2 ^ weight) : ℚ) =
              (significand * other : ℕ) * 2 ^ (exponent + weight) := by
            rw [zpow_add₀ (by norm_num)]
            push_cast
            ring
          have long : 2 ^ 23 ≤ significand * other :=
            low.trans (Nat.le_mul_of_pos_right _ otherPositive)
          have inRange := medium (by positivity)
          rw [unpacked, otherUnpacked]
          refine exists_denotes_round ((Nat.le_log2 (by omega)).mpr long) inRange exact_eq.ge ?_ _
          rw [exact_eq]
          gcongr
          simp

theorem round_long {significand : ℕ} (long : 23 ≤ significand.log2) (exponent : ℤ) {sign : Sign} :
    UnpackedFloat.round Format.binary32 sign significand exponent =
      roundWithAccuracy Format.binary32 sign significand exponent .exact := by
  have shift : (exponent - Format.binary32.targetExponent
      (totalExponent significand exponent)).toNat = 0 := by
    simp only [Format.targetExponent, totalExponent, Format.mantissaBits]
    omega
  simp only [UnpackedFloat.round, decreaseExponent, shift]
  simp

theorem normalize_natCast {significand : ℕ} (positive : 0 < significand) (exponent : ℤ)
    (sign : Sign) : UnpackedFloat.normalize Format.binary32 significand exponent sign =
      UnpackedFloat.round Format.binary32 .positive significand exponent := by
  have order : compare (significand : ℤ) 0 = .gt := Int.compare_eq_gt.mpr (by omega)
  simp only [UnpackedFloat.normalize, order, Int.toNat_natCast]

theorem pack_unpack_toModel (number : Float32) :
    (⟨Float32.Model.pack number.toModel.unpack⟩ : Float32) = number := by
  rcases number with ⟨⟨⟨bits⟩, valid⟩⟩
  simp only [Float32.Model.pack, Float32.Model.unpack, pack_unpack_of_valid valid]

/-- A significand on the scale of a smaller exponent. -/
theorem decreased_eq (significand : ℕ) {exponent smaller : ℤ} (order : smaller ≤ exponent) :
    ((significand * 2 ^ (exponent - smaller).toNat : ℕ) : ℚ) * 2 ^ smaller =
      significand * 2 ^ exponent := by
  have split : exponent = ((exponent - smaller).toNat : ℤ) + smaller := by omega
  conv_rhs => rw [split, zpow_add₀ (by norm_num), zpow_natCast]
  push_cast
  ring

/-- Two numbers are added on the scale of the smaller exponent, where nothing is lost. -/
theorem add_finite_eq {significand other : ℕ} {exponent weight : ℤ} (positive : 0 < significand)
    (otherPositive : 0 < other) (low : 2 ^ 23 ≤ significand) :
    ∃ (total : ℕ) (smaller : ℤ), 23 ≤ total.log2 ∧
      (significand * 2 ^ exponent + other * 2 ^ weight : ℚ) = total * 2 ^ smaller ∧
      UnpackedFloat.add Format.binary32 (.finite .positive significand exponent positive)
          (.finite .positive other weight otherPositive) =
        roundWithAccuracy Format.binary32 .positive total smaller .exact := by
  obtain ⟨smaller, isSmaller⟩ : ∃ smaller, smaller = min exponent weight := ⟨_, rfl⟩
  obtain ⟨total, isTotal⟩ : ∃ total : ℕ, total =
      significand * 2 ^ (exponent - smaller).toNat + other * 2 ^ (weight - smaller).toNat :=
    ⟨_, rfl⟩
  have grows : significand ≤ significand * 2 ^ (exponent - smaller).toNat :=
    Nat.le_mul_of_pos_right _ (by positivity)
  have bits : 23 ≤ total.log2 := (Nat.le_log2 (by omega)).mpr (by omega)
  refine ⟨total, smaller, bits, ?_, ?_⟩
  · rw [isTotal, Nat.cast_add, add_mul, decreased_eq significand (by omega),
      decreased_eq other (by omega)]
  · rw [← round_long bits, ← normalize_natCast (by omega) smaller .positive, isTotal, isSmaller]
    simp [UnpackedFloat.add, decreaseExponent, Sign.apply, Nat.shiftLeft_eq]

theorem exists_add (isLeft : Denotes left first) (isRight : Denotes right second)
    (medium : first + second ≠ 0 → IsMedium (first + second)) :
    ∃ value, Denotes (left + right) value ∧ IsRounded value (first + second) := by
  have sum : left + right = ⟨Float32.Model.pack (UnpackedFloat.add Format.binary32
      left.toModel.unpack right.toModel.unpack)⟩ := rfl
  cases isLeft with
  | zero unpacked =>
      cases isRight with
      | zero otherUnpacked =>
          rw [sum, unpacked, otherUnpacked]
          exact ⟨0, denotes_zero, by simp [IsRounded]⟩
      | @normal other weight positive otherUnpacked low high =>
          have same : left + right = right := by
            rw [sum, unpacked, otherUnpacked]
            refine Eq.trans ?_ (pack_unpack_toModel right)
            rw [otherUnpacked]
            rfl
          rw [same]
          exact ⟨_, .normal positive otherUnpacked low high, by simp [IsRounded]; positivity⟩
  | @normal significand exponent positive unpacked low high =>
      cases isRight with
      | zero otherUnpacked =>
          have same : left + right = left := by
            rw [sum, unpacked, otherUnpacked]
            refine Eq.trans ?_ (pack_unpack_toModel left)
            rw [unpacked]
            rfl
          rw [same]
          exact ⟨_, .normal positive unpacked low high, by simp [IsRounded]; positivity⟩
      | @normal other weight otherPositive otherUnpacked otherLow otherHigh =>
          obtain ⟨total, smaller, bits, exact_eq, added⟩ :=
            @add_finite_eq significand other exponent weight positive otherPositive low
          have inRange := medium (by positivity)
          rw [sum, unpacked, otherUnpacked, added]
          refine exists_denotes_round bits inRange exact_eq.ge ?_ _
          rw [exact_eq]
          gcongr
          simp

/-! ## Whole numbers -/

/-- Zeros at the end of a significand leave no trace. -/
theorem shiftRight_mul_two_pow (significand count : ℕ) :
    ExtendedMantissa.ofMantissaAndAccuracy (significand * 2 ^ count) .exact >>> count =
      ⟨significand, false, false⟩ := by
  induction count generalizing significand with
  | zero => simp [HShiftRight.hShiftRight, Nat.repeat, ExtendedMantissa.ofMantissaAndAccuracy]
  | succ count ih =>
      have step (extended : ExtendedMantissa) :
          extended >>> (count + 1) = (extended >>> count).shiftRightOne := rfl
      rw [step, pow_succ', ← mul_assoc, ih]
      simp [ExtendedMantissa.shiftRightOne]

theorem log2_mul_two_pow {significand : ℕ} (notZero : significand ≠ 0) (count : ℕ) :
    (significand * 2 ^ count).log2 = significand.log2 + count := by
  have bounds := (Nat.log2_eq_iff notZero).mp rfl
  rw [Nat.log2_eq_iff (by positivity), add_right_comm, pow_add, pow_add]
  exact ⟨Nat.mul_le_mul_right _ bounds.1, Nat.mul_lt_mul_of_pos_right bounds.2 (by positivity)⟩

/-- A significand of 24 bits is kept, and so it is with zeros at its end. -/
theorem roundWithAccuracy_mul_two_pow {significand count : ℕ} {exponent : ℤ}
    (positive : 0 < significand) (low : 2 ^ 23 ≤ significand) (high : significand < 2 ^ 24)
    (least : -149 ≤ exponent + count) (sign : Sign) :
    roundWithAccuracy Format.binary32 sign (significand * 2 ^ count) exponent .exact =
      .finite sign significand (exponent + count) positive := by
  have bits : (significand * 2 ^ count).log2 = 23 + count := by
    rw [log2_mul_two_pow positive.ne', log2_of_bits low high]
  have first := shiftToTargetExponent_eq bits least .exact
  have second := @shiftToTargetExponent_eq significand 0 (exponent + count)
    (log2_of_bits low high) (by omega) .exact
  have rounded : (⟨significand, false, false⟩ : ExtendedMantissa).roundedMantissa = significand := rfl
  unfold roundWithAccuracy
  simp only [first, shiftRight_mul_two_pow, rounded, second, mantissa_shiftRight,
    mantissa_ofMantissaAndAccuracy, Nat.cast_zero, add_zero, pow_zero, Nat.div_one]
  rw [dif_neg (by omega)]

/-- A number with at most 24 significant bits is not changed by rounding. -/
theorem round_exact {significand kept : ℕ} {exponent shifted : ℤ} (positive : 0 < kept)
    (low : 2 ^ 23 ≤ kept) (high : kept < 2 ^ 24) (least : -149 ≤ shifted)
    (same : (significand * 2 ^ exponent : ℚ) = kept * 2 ^ shifted) (sign : Sign) :
    UnpackedFloat.round Format.binary32 sign significand exponent =
      .finite sign kept shifted positive := by
  rcases le_total shifted exponent with longer | shorter
  · -- The significand is too short, and is filled up to 24 bits.
    obtain ⟨count, isCount⟩ := Int.eq_ofNat_of_zero_le (sub_nonneg.mpr longer)
    have filled : kept = significand * 2 ^ count := by
      have scaled : (significand * 2 ^ count : ℚ) * 2 ^ shifted = kept * 2 ^ shifted := by
        rw [← same, mul_assoc, ← zpow_natCast, ← zpow_add₀ (by norm_num),
          show (count : ℤ) + shifted = exponent by omega]
      exact_mod_cast (mul_right_cancel₀ (by positivity) scaled).symm
    have notZero : significand ≠ 0 := by
      rintro rfl
      omega
    have bits : significand.log2 + count = 23 := by
      have keptBits := log2_of_bits low high
      rw [filled, log2_mul_two_pow notZero] at keptBits
      exact keptBits
    have shift : (exponent - Format.binary32.targetExponent
        (totalExponent significand exponent)).toNat = count := by
      simp only [Format.targetExponent, totalExponent, Format.mantissaBits, Format.minExponent]
      omega
    have kept_eq := @roundWithAccuracy_mul_two_pow kept 0 shifted positive low high (by omega) sign
    simp only [UnpackedFloat.round, decreaseExponent, shift, Nat.shiftLeft_eq, ← filled,
      show exponent - (count : ℤ) = shifted by omega]
    simpa using kept_eq
  · -- The significand is too long, but ends in zeros.
    obtain ⟨count, isCount⟩ := Int.eq_ofNat_of_zero_le (sub_nonneg.mpr shorter)
    have padded : significand = kept * 2 ^ count := by
      have scaled : (significand : ℚ) * 2 ^ exponent = kept * 2 ^ count * 2 ^ exponent := by
        rw [same, mul_assoc, ← zpow_natCast, ← zpow_add₀ (by norm_num),
          show (count : ℤ) + exponent = shifted by omega]
      exact_mod_cast mul_right_cancel₀ (by positivity) scaled
    have long : 23 ≤ significand.log2 := by
      have most : kept ≤ significand := by
        rw [padded]
        exact Nat.le_mul_of_pos_right _ (by positivity)
      exact (Nat.le_log2 (by omega)).mpr (low.trans most)
    have shift : (exponent - Format.binary32.targetExponent
        (totalExponent significand exponent)).toNat = 0 := by
      simp only [Format.targetExponent, totalExponent, Format.mantissaBits]
      omega
    have kept_eq := @roundWithAccuracy_mul_two_pow kept count exponent positive low high
      (by omega) sign
    simp only [UnpackedFloat.round, decreaseExponent, shift]
    simpa [padded, show exponent + (count : ℤ) = shifted by omega] using kept_eq

/-- Whole numbers up to `2 ^ 24` have 24 significant bits at most. -/
theorem exists_significand {number : ℕ} (positive : 0 < number) (small : number ≤ 2 ^ 24) :
    ∃ (kept : ℕ) (shifted : ℤ), 2 ^ 23 ≤ kept ∧ kept < 2 ^ 24 ∧ -23 ≤ shifted ∧ shifted ≤ 1 ∧
      (number : ℚ) = kept * 2 ^ shifted := by
  rcases small.lt_or_eq with small | rfl
  · have bits : number.log2 < 24 := (Nat.log2_lt positive.ne').mpr small
    obtain ⟨count, isCount⟩ : ∃ count, number.log2 + count = 23 := ⟨23 - number.log2, by omega⟩
    have kept : (number * 2 ^ count).log2 = 23 := by
      rw [log2_mul_two_pow positive.ne', isCount]
    have bounds := (Nat.log2_eq_iff (by positivity)).mp kept
    refine ⟨number * 2 ^ count, -count, bounds.1, bounds.2, by omega, by omega, ?_⟩
    rw [zpow_neg, zpow_natCast]
    push_cast
    field_simp
  · exact ⟨2 ^ 23, 1, le_rfl, by norm_num, by norm_num, le_rfl, by norm_num⟩

/-- Whether a number is a whole one, apart from zero, with all its significant bits. -/
inductive IsWhole (number : Float32) (sign : Sign) (magnitude : ℕ) : Prop where
  | normal {significand : ℕ} {exponent : ℤ} (positive : 0 < significand)
      (unpacked : number.toModel.unpack = .finite sign significand exponent positive)
      (low : 2 ^ 23 ≤ significand) (high : significand < 2 ^ 24) (least : -23 ≤ exponent)
      (most : exponent ≤ 1) (value : (magnitude : ℚ) = significand * 2 ^ exponent)

theorem isWhole_pack {significand magnitude : ℕ} {exponent : ℤ} (positive : 0 < significand)
    (low : 2 ^ 23 ≤ significand) (high : significand < 2 ^ 24) (least : -23 ≤ exponent)
    (most : exponent ≤ 1) (value : (magnitude : ℚ) = significand * 2 ^ exponent) (sign : Sign) :
    IsWhole ⟨Float32.Model.pack (.finite sign significand exponent positive)⟩ sign magnitude :=
  .normal positive (unpack_pack positive low high (by omega) (by omega) sign) low high least most value

/-- Rounding keeps whole numbers of 24 bits, however they are scaled. -/
theorem isWhole_round {significand magnitude : ℕ} {exponent : ℤ} (positive : 0 < magnitude)
    (small : magnitude ≤ 2 ^ 24) (same : (significand * 2 ^ exponent : ℚ) = magnitude) (sign : Sign) :
    IsWhole ⟨Float32.Model.pack (UnpackedFloat.round Format.binary32 sign significand exponent)⟩ sign
      magnitude := by
  obtain ⟨kept, shifted, low, high, least, most, value⟩ := exists_significand positive small
  rw [round_exact (by omega) low high (by omega) (same.trans value)]
  exact isWhole_pack _ low high least most value sign

theorem isWhole_singleOfNat {number : ℕ} (positive : 0 < number) (small : number ≤ 2 ^ 24) :
    IsWhole (singleOfNat number) .positive number := by
  have word : (UInt64.ofNat number).toNat = number :=
    UInt64.toNat_ofNat_of_lt (small.trans_lt (by decide))
  have stored : singleOfNat number = ⟨Float32.Model.pack (UnpackedFloat.normalize Format.binary32
      ((UInt64.ofNat number).toNat : ℕ) 0 .positive)⟩ := rfl
  rw [stored, word, normalize_natCast positive]
  exact isWhole_round positive small (by simp) _

theorem IsWhole.denotes {number : Float32} {magnitude : ℕ}
    (whole : IsWhole number .positive magnitude) : Denotes number magnitude := by
  cases whole with
  | normal positive unpacked low high least most value =>
      rw [value]
      exact .normal positive unpacked low high

theorem denotes_singleOfNat {number : ℕ} (small : number ≤ 2 ^ 24) :
    Denotes (singleOfNat number) number := by
  rcases Nat.eq_zero_or_pos number with rfl | positive
  · exact denotes_zero
  · exact (isWhole_singleOfNat positive small).denotes

theorem floor_mul_zpow (significand : ℕ) (exponent : ℤ) :
    ⌊(significand * 2 ^ exponent : ℚ)⌋₊ =
      significand * 2 ^ exponent.toNat / 2 ^ (-exponent).toNat := by
  rcases le_total 0 exponent with whole | fraction
  · have above : (-exponent).toNat = 0 := by omega
    have power : (2 : ℚ) ^ exponent = (2 ^ exponent.toNat : ℕ) := by
      conv_lhs => rw [← Int.toNat_of_nonneg whole, zpow_natCast]
      simp
    rw [above, power, pow_zero, Nat.div_one, ← Nat.cast_mul, Nat.floor_natCast]
  · have below : exponent.toNat = 0 := by omega
    have power : (2 : ℚ) ^ exponent = ((2 ^ (-exponent).toNat : ℕ) : ℚ)⁻¹ := by
      conv_lhs => rw [← neg_neg exponent, zpow_neg, ← Int.toNat_of_nonneg (by omega : 0 ≤ -exponent),
        zpow_natCast]
      simp
    rw [below, power, pow_zero, mul_one, ← div_eq_mul_inv, Nat.floor_div_eq_div]

/-- Cutting off the fraction of a number above zero rounds down. -/
theorem toInt_finite {significand : ℕ} {exponent : ℤ} (positive : 0 < significand) (least most : ℤ) :
    (toInt least most (.finite .positive significand exponent positive)).toNat =
      ⌊(significand * 2 ^ exponent : ℚ)⌋₊ := by
  have shift : (0 - (exponent - ((exponent - 0).toNat : ℤ))).toNat = (-exponent).toNat := by
    omega
  rw [floor_mul_zpow]
  simp only [toInt, roundToInt, decreaseExponent, shiftToExponent, mantissa_shiftRight,
    mantissa_ofMantissaAndAccuracy, Sign.apply, Nat.shiftLeft_eq, Int.toNat_natCast, shift]
  simp

/-- Conversion to a word cuts off the fraction. -/
theorem toNat_toUInt64 {number : Float32} {value : ℚ} (denotes : Denotes number value)
    (small : value < 2 ^ 64) : number.toUInt64.toNat = ⌊value⌋₊ := by
  have word : number.toUInt64 = UInt64.ofNatClamp
      (toInt 0 (UInt64.size - 1) number.toModel.unpack).toNat := rfl
  cases denotes with
  | zero unpacked =>
      rw [word, unpacked]
      simp [toInt]
      rfl
  | @normal significand exponent positive unpacked low high =>
      have inside : ⌊(significand * 2 ^ exponent : ℚ)⌋₊ < UInt64.size :=
        (Nat.floor_lt (by positivity)).mpr (by exact_mod_cast small)
      rw [word, unpacked, toInt_finite, UInt64.ofNatClamp, dif_pos inside]
      exact UInt64.toNat_ofNatLT

theorem denotes_half : Denotes 0.5 (1 / 2) := by
  have stored : ∃ positive, (0.5 : Float32).toModel.unpack =
      .finite .positive (2 ^ 23) (-24) positive := ⟨by norm_num, rfl⟩
  rcases stored with ⟨positive, unpacked⟩
  have value : (1 / 2 : ℚ) = (2 ^ 23 : ℕ) * 2 ^ (-24 : ℤ) := by norm_num
  rw [value]
  exact .normal positive unpacked (le_refl _) (by norm_num)

end AvifStill.Numeric
