import AvifStill.Proofs.Numeric.Single

/-!
# Exact single-precision results

Differences of whole numbers of 24 bits are exact. Zeros of either sign change no number but zeros,
and a number that is not above a whole one is not above it when its fraction is cut off; that holds
of all numbers of the format, also of those that stand for no rational.
-/

namespace AvifStill.Numeric

open Float.Model Float.Model.UnpackedFloat

theorem zero_eq_singleOfNat : (0.0 : Float32) = singleOfNat 0 := by
  decide +kernel

theorem one_eq_singleOfNat : (1.0 : Float32) = singleOfNat 1 := by
  decide +kernel

/-! ## Differences of whole numbers -/

/-- The sign of a whole number that is not zero. -/
def signOf (number : ℤ) : Sign :=
  if 0 < number then .positive else .negative

theorem normalize_of_ne_zero {number : ℤ} (notZero : number ≠ 0) (exponent : ℤ) (sign : Sign) :
    UnpackedFloat.normalize Format.binary32 number exponent sign =
      UnpackedFloat.round Format.binary32 (signOf number) number.natAbs exponent := by
  rcases notZero.lt_or_gt with negative | positive
  · have magnitude : (-number).toNat = number.natAbs := by omega
    simp only [UnpackedFloat.normalize, Int.compare_eq_lt.mpr negative, signOf,
      if_neg (not_lt_of_gt negative), magnitude]
  · have magnitude : number.toNat = number.natAbs := by omega
    simp only [UnpackedFloat.normalize, Int.compare_eq_gt.mpr positive, signOf, if_pos positive,
      magnitude]

/-- A difference on the scale of the smaller exponent has the sign and size of the whole one. -/
theorem scaled_difference {left right : ℕ} {number smaller : ℤ}
    (scaled : (number * 2 ^ smaller : ℚ) = left - right) (different : left ≠ right) :
    number ≠ 0 ∧ signOf number = signOf (left - right) ∧
      (number.natAbs * 2 ^ smaller : ℚ) = ((left - right : ℤ).natAbs : ℚ) := by
  have unit : (0 : ℚ) < 2 ^ smaller := by positivity
  have sign : 0 < number ↔ 0 < (left - right : ℤ) := by
    rw [← Int.cast_pos (R := ℚ), ← mul_pos_iff_of_pos_right unit, scaled, ← Int.cast_pos (R := ℚ)]
    push_cast
    rfl
  refine ⟨?_, ?_, ?_⟩
  · rintro rfl
    rw [Int.cast_zero, zero_mul] at scaled
    exact different (by exact_mod_cast (sub_eq_zero.mp scaled.symm))
  · simp only [signOf, sign]
  · rw [Nat.cast_natAbs, Nat.cast_natAbs, Int.cast_abs, Int.cast_abs]
    push_cast
    rw [← scaled, abs_mul, abs_of_pos unit]

/-- Whole numbers of 24 bits are subtracted exactly. -/
theorem isWhole_sub {left right : ℕ} (different : left ≠ right) (leftSmall : left ≤ 2 ^ 24)
    (rightSmall : right ≤ 2 ^ 24) :
    IsWhole (singleOfNat left - singleOfNat right) (signOf (left - right))
      (left - right : ℤ).natAbs := by
  have difference : singleOfNat left - singleOfNat right = ⟨Float32.Model.pack (UnpackedFloat.sub
    Format.binary32 (singleOfNat left).toModel.unpack (singleOfNat right).toModel.unpack)⟩ := rfl
  have zero : (singleOfNat 0).toModel.unpack = .zero .positive := rfl
  rcases Nat.eq_zero_or_pos left with rfl | leftPositive
  · cases isWhole_singleOfNat (Nat.pos_of_ne_zero different.symm) rightSmall with
    | normal positive unpacked low high least most value =>
        have sign : signOf ((0 : ℕ) - right) = -Sign.positive := if_neg (by omega)
        rw [difference, zero, unpacked, sign]
        exact isWhole_pack positive low high least most (by simpa using value) _
  rcases Nat.eq_zero_or_pos right with rfl | rightPositive
  · cases isWhole_singleOfNat leftPositive leftSmall with
    | normal positive unpacked low high least most value =>
        have sign : signOf (left - (0 : ℕ)) = Sign.positive := if_pos (by omega)
        rw [difference, zero, unpacked, sign]
        exact isWhole_pack positive low high least most (by simpa using value) _
  obtain @⟨significand, exponent, positive, leftUnpacked, -, -, least, most, leftValue⟩ :=
    isWhole_singleOfNat leftPositive leftSmall
  obtain @⟨other, weight, otherPositive, rightUnpacked, -, -, otherLeast, otherMost, rightValue⟩ :=
    isWhole_singleOfNat rightPositive rightSmall
  obtain ⟨smaller, isSmaller⟩ : ∃ smaller, smaller = min exponent weight := ⟨_, rfl⟩
  obtain ⟨number, isNumber⟩ : ∃ number : ℤ, number =
      (significand * 2 ^ (exponent - smaller).toNat : ℕ) -
        (other * 2 ^ (weight - smaller).toNat : ℕ) := ⟨_, rfl⟩
  have scaled : (number * 2 ^ smaller : ℚ) = left - right := by
    have first := decreased_eq significand (by omega : smaller ≤ exponent)
    have second := decreased_eq other (by omega : smaller ≤ weight)
    rw [isNumber, leftValue, rightValue, ← first, ← second]
    push_cast
    ring
  obtain ⟨notZero, sign, magnitude⟩ := scaled_difference scaled different
  have subtracted : UnpackedFloat.sub Format.binary32
      (.finite .positive significand exponent positive) (.finite .positive other weight otherPositive) =
        UnpackedFloat.normalize Format.binary32 number smaller .positive := by
    rw [isNumber, isSmaller]
    simp [UnpackedFloat.sub, decreaseExponent, Sign.apply, Nat.shiftLeft_eq]
  rw [difference, leftUnpacked, rightUnpacked, subtracted, normalize_of_ne_zero notZero, sign]
  exact isWhole_round (by omega) (by omega) magnitude _

theorem unpack_sub_self {number : ℕ} (small : number ≤ 2 ^ 24) :
    (singleOfNat number - singleOfNat number).toModel.unpack = .zero .positive := by
  have difference : singleOfNat number - singleOfNat number = ⟨Float32.Model.pack
    (UnpackedFloat.sub Format.binary32 (singleOfNat number).toModel.unpack
      (singleOfNat number).toModel.unpack)⟩ := rfl
  rcases Nat.eq_zero_or_pos number with rfl | positive
  · rfl
  obtain @⟨significand, exponent, significandPositive, unpacked, -⟩ :=
    isWhole_singleOfNat positive small
  have subtracted : UnpackedFloat.sub Format.binary32
      (.finite .positive significand exponent significandPositive)
      (.finite .positive significand exponent significandPositive) = .zero .positive := by
    simp only [UnpackedFloat.sub, sub_self, UnpackedFloat.normalize]
    rfl
  rw [difference, unpacked, subtracted]
  exact unpack_packedZero ..

theorem denotes_sub {left right : ℕ} (order : right ≤ left) (small : left ≤ 2 ^ 24) :
    Denotes (singleOfNat left - singleOfNat right) (left - right : ℕ) := by
  rcases order.eq_or_lt with rfl | less
  · rw [Nat.sub_self, Nat.cast_zero]
    exact .zero (unpack_sub_self small)
  · have whole := isWhole_sub less.ne' small (order.trans small)
    have magnitude : (left - right : ℤ).natAbs = left - right := by omega
    rw [signOf, if_pos (by omega), magnitude] at whole
    exact whole.denotes

theorem unpack_sub_self_div {number divisor : ℕ} (small : number ≤ 2 ^ 24) (positive : 0 < divisor)
    (divisorSmall : divisor ≤ 2 ^ 24) :
    ((singleOfNat number - singleOfNat number) / singleOfNat divisor).toModel.unpack =
      .zero .positive := by
  have ratio : (singleOfNat number - singleOfNat number) / singleOfNat divisor =
      ⟨Float32.Model.pack (UnpackedFloat.div Format.binary32
        (singleOfNat number - singleOfNat number).toModel.unpack
        (singleOfNat divisor).toModel.unpack)⟩ := rfl
  obtain @⟨other, weight, otherPositive, divisorUnpacked, -⟩ :=
    isWhole_singleOfNat positive divisorSmall
  have quotient : UnpackedFloat.div Format.binary32 (.zero .positive)
      (.finite .positive other weight otherPositive) = .zero .positive := rfl
  rw [ratio, unpack_sub_self small, divisorUnpacked, quotient]
  exact unpack_packedZero ..

/-- Dividing a difference of whole numbers does not make it a zero below zero. -/
theorem unpack_sub_div_ne {left right divisor : ℕ} (leftSmall : left ≤ 2 ^ 24)
    (rightSmall : right ≤ 2 ^ 24) (positive : 0 < divisor) (small : divisor ≤ 2 ^ 24) :
    ((singleOfNat left - singleOfNat right) / singleOfNat divisor).toModel.unpack ≠
      .zero .negative := by
  have ratio : (singleOfNat left - singleOfNat right) / singleOfNat divisor = ⟨Float32.Model.pack
    (UnpackedFloat.div Format.binary32 (singleOfNat left - singleOfNat right).toModel.unpack
      (singleOfNat divisor).toModel.unpack)⟩ := rfl
  obtain @⟨other, weight, otherPositive, divisorUnpacked, otherLow, otherHigh, otherLeast, otherMost,
    -⟩ := isWhole_singleOfNat positive small
  rcases eq_or_ne left right with rfl | different
  · rw [unpack_sub_self_div leftSmall positive small]
    simp
  · obtain @⟨significand, exponent, significandPositive, unpacked, low, high, least, most, -⟩ :=
      isWhole_sub different leftSmall rightSmall
    have quotient := long_quotient low high otherLow otherHigh
    obtain ⟨count, bits⟩ := Nat.exists_eq_add_of_le ((Nat.le_log2 (by omega)).mpr quotient.1)
    have few : (significand * 2 ^ 24 / other).log2 < 26 := (Nat.log2_lt (by omega)).mpr quotient.2
    obtain ⟨-, kept, shifted, keptPositive, rounded, keptLow, keptHigh, keptLeast, keptMost, -⟩ :=
      exists_roundWithAccuracy bits (by omega : -149 ≤ exponent - weight - 24 + count)
        (signOf (left - right) / .positive)
        (accuracyOfFraction (significand * 2 ^ 24 % other) other)
    have divided : UnpackedFloat.div Format.binary32
        (.finite (signOf (left - right)) significand exponent significandPositive)
        (.finite .positive other weight otherPositive) =
          .finite (signOf (left - right) / .positive) kept shifted keptPositive := by
      simp only [UnpackedFloat.div, divCore_eq low high otherLow otherHigh
        (by omega : -149 ≤ exponent - weight - 24)]
      exact rounded
    have stored := @unpack_pack kept shifted keptPositive keptLow keptHigh (by omega) (by omega)
      (signOf (left - right) / .positive)
    rw [ratio, divisorUnpacked, unpacked, divided, stored]
    simp

/-! ## Zeros -/

/-- Only a zero below zero is changed by adding a zero. -/
theorem add_of_zero {number zero : Float32} {sign : Sign}
    (isZero : zero.toModel.unpack = .zero sign) (notZero : number.toModel.unpack ≠ .zero .negative) :
    number + zero = number := by
  have sum : number + zero = ⟨Float32.Model.pack (UnpackedFloat.add Format.binary32
      number.toModel.unpack zero.toModel.unpack)⟩ := rfl
  have same : UnpackedFloat.add Format.binary32 number.toModel.unpack (.zero sign) =
      number.toModel.unpack := by
    cases unpacked : number.toModel.unpack with
    | infinity => rfl
    | notANumber => rfl
    | zero numberSign =>
        cases numberSign with
        | negative => exact absurd unpacked notZero
        | positive => cases sign <;> rfl
    | finite => rfl
  rw [sum, isZero, same]
  exact pack_unpack_toModel number

/-- A zero times any rational is a zero of some sign. -/
theorem exists_mul_zero {number zero : Float32} {sign : Sign} (finite : number.isFinite = true)
    (isZero : zero.toModel.unpack = .zero sign) :
    ∃ productSign, (number * zero).toModel.unpack = .zero productSign := by
  have product : number * zero = ⟨Float32.Model.pack (UnpackedFloat.mul Format.binary32
      number.toModel.unpack zero.toModel.unpack)⟩ := rfl
  have isFinite : number.toModel.unpack.isFinite = true := finite
  rw [product, isZero]
  cases unpacked : number.toModel.unpack with
  | infinity =>
      rw [unpacked] at isFinite
      cases isFinite
  | notANumber =>
      rw [unpacked] at isFinite
      cases isFinite
  | zero numberSign => exact ⟨numberSign * sign, unpack_packedZero ..⟩
  | finite numberSign => exact ⟨numberSign * sign, unpack_packedZero ..⟩

/-! ## No numbers -/

theorem isNaN_iff {number : Float32} :
    number.isNaN = true ↔ number.toModel.unpack = .notANumber := by
  have status : number.isNaN = number.toModel.unpack.isNaN := rfl
  rw [status]
  cases number.toModel.unpack <;> simp [UnpackedFloat.isNaN]

theorem isNaN_packed : (⟨Float32.Model.pack .notANumber⟩ : Float32).isNaN = true := by
  decide

section Undefined

variable {left right : Float32}

theorem isNaN_add_left (isNaN : left.isNaN = true) (right : Float32) :
    (left + right).isNaN = true := by
  have sum : left + right = ⟨Float32.Model.pack (UnpackedFloat.add Format.binary32
      left.toModel.unpack right.toModel.unpack)⟩ := rfl
  rw [sum, isNaN_iff.mp isNaN]
  exact isNaN_packed

theorem isNaN_add_right (left : Float32) (isNaN : right.isNaN = true) :
    (left + right).isNaN = true := by
  have sum : left + right = ⟨Float32.Model.pack (UnpackedFloat.add Format.binary32
      left.toModel.unpack right.toModel.unpack)⟩ := rfl
  rw [sum, isNaN_iff.mp isNaN]
  cases left.toModel.unpack <;> exact isNaN_packed

theorem isNaN_sub_right (left : Float32) (isNaN : right.isNaN = true) :
    (left - right).isNaN = true := by
  have difference : left - right = ⟨Float32.Model.pack (UnpackedFloat.sub Format.binary32
      left.toModel.unpack right.toModel.unpack)⟩ := rfl
  rw [difference, isNaN_iff.mp isNaN]
  cases left.toModel.unpack <;> exact isNaN_packed

theorem isNaN_mul_left (isNaN : left.isNaN = true) (right : Float32) :
    (left * right).isNaN = true := by
  have product : left * right = ⟨Float32.Model.pack (UnpackedFloat.mul Format.binary32
      left.toModel.unpack right.toModel.unpack)⟩ := rfl
  rw [product, isNaN_iff.mp isNaN]
  exact isNaN_packed

theorem isNaN_div_left (isNaN : left.isNaN = true) (right : Float32) :
    (left / right).isNaN = true := by
  have quotient : left / right = ⟨Float32.Model.pack (UnpackedFloat.div Format.binary32
      left.toModel.unpack right.toModel.unpack)⟩ := rfl
  rw [quotient, isNaN_iff.mp isNaN]
  exact isNaN_packed

theorem compare_of_lt (isLess : left < right) :
    UnpackedFloat.compare left.toModel.unpack right.toModel.unpack = some .lt :=
  eq_of_beq (of_decide_eq_true (p := left.toModel < right.toModel) isLess)

/-- What is no number is neither below nor above any number. -/
theorem clampSingle_of_isNaN {value : Float32} (isNaN : value.isNaN = true) (low high : Float32) :
    clampSingle low high value = value := by
  have notBelow : ¬value < low := by
    intro isLess
    have compared := compare_of_lt isLess
    rw [isNaN_iff.mp isNaN] at compared
    cases compared
  have notAbove : ¬high < value := by
    intro isLess
    have compared := compare_of_lt isLess
    rw [isNaN_iff.mp isNaN] at compared
    cases unpacked : high.toModel.unpack <;> rw [unpacked] at compared <;> cases compared
  rw [clampSingle, if_neg notBelow, if_neg notAbove]

theorem toUInt16_of_isNaN {value : Float32} (isNaN : value.isNaN = true) : value.toUInt16 = 0 := by
  have word : value.toUInt16 = UInt16.ofNatClamp
      (toInt 0 (UInt16.size - 1) value.toModel.unpack).toNat := rfl
  rw [word, isNaN_iff.mp isNaN]
  rfl

end Undefined

/-! ## Upper bounds -/

/-- Significands have 24 bits at most, also those of numbers too small to be normal. -/
theorem significand_lt {number : Float32} {sign : Sign} {significand : ℕ} {exponent : ℤ}
    {positive : 0 < significand}
    (unpacked : number.toModel.unpack = .finite sign significand exponent positive) :
    significand < 2 ^ 24 := by
  unfold Float32.Model.unpack UnpackedFloat.unpack at unpacked
  simp only at unpacked
  split at unpacked
  · split at unpacked <;> cases unpacked
  split at unpacked
  · split at unpacked
    · cases unpacked
    · cases unpacked
      exact (BitVec.isLt _).trans (by norm_num)
  · cases unpacked
    exact BitVec.isLt _

theorem toNat_ofNatClamp_le (number : ℕ) : (UInt64.ofNatClamp number).toNat ≤ number := by
  unfold UInt64.ofNatClamp
  split
  · rw [UInt64.toNat_ofNatLT]
  · rw [UInt64.toNat_ofNatLT]
    omega

/-- A number above zero that does not compare above a normal one stands for no more than that. -/
theorem le_of_compare {significand other : ℕ} {exponent weight : ℤ} {positive : 0 < significand}
    {otherPositive : 0 < other} (otherLow : 2 ^ 23 ≤ other) (high : significand < 2 ^ 24)
    (notBelow : UnpackedFloat.compare (.finite .positive other weight otherPositive)
      (.finite .positive significand exponent positive) ≠ some .lt) :
    (significand * 2 ^ exponent : ℚ) ≤ other * 2 ^ weight := by
  have order : exponent < weight ∨ exponent = weight ∧ significand ≤ other := by
    have compared : ¬((compare weight exponent).then (compare other significand)) = .lt :=
      fun isBelow => notBelow (congrArg some isBelow)
    rw [Ordering.then_eq_lt, compare_lt_iff_lt, compare_eq_iff_eq, compare_lt_iff_lt] at compared
    omega
  rcases order with smaller | ⟨rfl, less⟩
  · have exponents : exponent + 1 ≤ weight := smaller
    calc (significand * 2 ^ exponent : ℚ)
        ≤ 2 ^ 24 * 2 ^ exponent := by
          gcongr
          exact_mod_cast high.le
      _ = 2 ^ 23 * 2 ^ (exponent + 1) := by
          rw [zpow_add_one₀ (by norm_num)]
          ring
      _ ≤ other * 2 ^ weight := by
          gcongr
          · exact_mod_cast otherLow
          · norm_num
  · gcongr

/-- A number that is not above a rational is not above it either when its fraction is cut off. -/
theorem toNat_toUInt64_le {bound number : Float32} {value : ℚ} (isBound : Denotes bound value)
    (notAbove : ¬bound < number) : (number.toUInt64.toNat : ℚ) ≤ value := by
  have word : number.toUInt64 = UInt64.ofNatClamp
      (toInt 0 (UInt64.size - 1) number.toModel.unpack).toNat := rfl
  have compared : UnpackedFloat.compare bound.toModel.unpack number.toModel.unpack ≠ some .lt := by
    intro isBelow
    apply notAbove
    have less : (UnpackedFloat.lt bound.toModel.unpack number.toModel.unpack) = true := by
      rw [UnpackedFloat.lt, isBelow]
      rfl
    exact decide_eq_true (p := bound.toModel < number.toModel) less
  suffices cut : ((toInt 0 (UInt64.size - 1) number.toModel.unpack).toNat : ℚ) ≤ value by
    rw [word]
    exact (Nat.cast_le.mpr (toNat_ofNatClamp_le _)).trans cut
  cases unpacked : number.toModel.unpack with
  | notANumber => exact isBound.nonneg
  | zero => exact isBound.nonneg
  | infinity sign =>
      cases sign with
      | negative => exact isBound.nonneg
      | positive =>
          rw [unpacked] at compared
          cases isBound with
          | zero boundUnpacked => exact absurd (by rw [boundUnpacked]; rfl) compared
          | normal _ boundUnpacked => exact absurd (by rw [boundUnpacked]; rfl) compared
  | finite sign significand exponent positive =>
      cases sign with
      | negative =>
          have below : (toInt 0 (UInt64.size - 1)
              (.finite .negative significand exponent positive)).toNat = 0 := by
            rw [Int.toNat_eq_zero]
            simp [toInt, roundToInt, Sign.apply]
          rw [below]
          exact isBound.nonneg
      | positive =>
          rw [unpacked] at compared
          rw [toInt_finite]
          cases isBound with
          | zero boundUnpacked => exact absurd (by rw [boundUnpacked]; rfl) compared
          | normal _ boundUnpacked low =>
              rw [boundUnpacked] at compared
              exact (Nat.floor_le (by positivity)).trans
                (le_of_compare low (significand_lt unpacked) compared)

end AvifStill.Numeric
