import AvifStill.Proofs.Numeric.Exact

/-!
# Numbers of either sign

What single-precision numbers of either sign stand for, also those that are too small to be normal.
A difference is rounded, but never below a power of two that the exact difference reaches, so from a
small difference it follows that the numbers are close.
-/

namespace AvifStill.Numeric

open Float.Model Float.Model.UnpackedFloat

/-- The rational that a number stands for; what is infinite or no number counts as zero. -/
def toRat (number : Float32) : ℚ :=
  match number.toModel.unpack with
  | .finite sign significand exponent _ => sign.apply significand * 2 ^ exponent
  | _ => 0

theorem toRat_of_zero {number : Float32} {sign : Sign}
    (unpacked : number.toModel.unpack = .zero sign) : toRat number = 0 := by
  rw [toRat, unpacked]

theorem toRat_of_finite {number : Float32} {sign : Sign} {significand : ℕ} {exponent : ℤ}
    {positive : 0 < significand}
    (unpacked : number.toModel.unpack = .finite sign significand exponent positive) :
    toRat number = sign.apply significand * 2 ^ exponent := by
  rw [toRat, unpacked]

theorem Denotes.toRat_eq {number : Float32} {value : ℚ} (denotes : Denotes number value) :
    toRat number = value := by
  cases denotes with
  | zero unpacked => exact toRat_of_zero unpacked
  | normal positive unpacked => exact toRat_of_finite unpacked

theorem toRat_zero : toRat 0.0 = 0 := by
  rw [zero_eq_singleOfNat, (denotes_singleOfNat (by norm_num)).toRat_eq, Nat.cast_zero]

theorem toRat_one : toRat 1.0 = 1 := by
  rw [one_eq_singleOfNat, (denotes_singleOfNat (by norm_num)).toRat_eq, Nat.cast_one]

theorem abs_apply_mul (sign : Sign) (significand : ℕ) (exponent : ℤ) :
    |(sign.apply significand * 2 ^ exponent : ℚ)| = significand * 2 ^ exponent := by
  have unit : (0 : ℚ) < 2 ^ exponent := by positivity
  cases sign <;> simp [Sign.apply, abs_mul, abs_of_pos unit]

/-- Numbers are stored with 24 bits, except that small ones have all the same exponent. -/
theorem shape_of_unpack {number : Float32} {sign : Sign} {significand : ℕ} {exponent : ℤ}
    {positive : 0 < significand}
    (unpacked : number.toModel.unpack = .finite sign significand exponent positive) :
    significand < 2 ^ 24 ∧ -149 ≤ exponent ∧ exponent ≤ 104 ∧
      (2 ^ 23 ≤ significand ∨ exponent = -149) := by
  refine ⟨significand_lt unpacked, ?_⟩
  unfold Float32.Model.unpack UnpackedFloat.unpack at unpacked
  simp only at unpacked
  split at unpacked
  · split at unpacked <;> cases unpacked
  rename_i notLast
  split at unpacked
  · rename_i isFirst
    split at unpacked
    · cases unpacked
    · cases unpacked
      rw [isFirst]
      exact ⟨by decide, by decide, Or.inr (by decide)⟩
  · rename_i notFirst
    cases unpacked
    generalize @unpackExponent Format.binary32 number.toModel.toBits.toBitVec = field
      at notLast notFirst ⊢
    have inByte : field.toNat < 256 := field.isLt
    have bounds : field.toNat ≠ 0 ∧ field.toNat ≠ 255 := by
      constructor
      · intro same
        exact notFirst (BitVec.eq_of_toNat_eq same)
      · intro same
        exact notLast (BitVec.eq_of_toNat_eq same)
    have bias : (Format.binary32.exponentBias : ℤ) + (23 : ℕ) = 150 := rfl
    refine ⟨by omega, by omega, Or.inl ?_⟩
    rw [BitVec.toNat_append, Nat.shiftLeft_eq]
    exact Nat.left_le_or

theorem unpack_packedInfinity (sign : Sign) :
    (Float32.Model.pack (.infinity sign)).unpack = .infinity sign := by
  cases sign <;> rfl

/-- What is too large is stored as infinite. -/
theorem unpack_pack_large {significand : ℕ} {exponent : ℤ} (positive : 0 < significand)
    (large : 104 < exponent) (sign : Sign) :
    (Float32.Model.pack (.finite sign significand exponent positive)).unpack = .infinity sign := by
  have packed : UnpackedFloat.pack Format.binary32 (.finite sign significand exponent positive) =
      packedInfinity Format.binary32 sign := by
    have isLarge : 2 ^ 8 ≤ (exponent + (2 ^ (8 - 1) - 1 : ℕ) + (23 : ℕ)).toNat + 1 := by omega
    exact if_pos isLarge
  have same : Float32.Model.pack (.finite sign significand exponent positive) =
      Float32.Model.pack (.infinity sign) := by
    simp only [Float32.Model.pack, packed]
    rfl
  rw [same, unpack_packedInfinity]

/-! ## Differences -/

theorem le_log2_of_le {significand : ℕ} {exponent power : ℤ}
    (above : (2 : ℚ) ^ power ≤ significand * 2 ^ exponent) :
    power ≤ significand.log2 + exponent := by
  have wide : (significand : ℚ) < (2 ^ (significand.log2 + 1) : ℕ) := by
    exact_mod_cast Nat.lt_log2_self
  have bound : (2 : ℚ) ^ power < 2 ^ ((significand.log2 + 1 : ℕ) + exponent : ℤ) := by
    calc (2 : ℚ) ^ power ≤ significand * 2 ^ exponent := above
      _ < (2 ^ (significand.log2 + 1) : ℕ) * 2 ^ exponent := by gcongr
      _ = 2 ^ ((significand.log2 + 1 : ℕ) + exponent : ℤ) := by
          rw [zpow_add₀ (by norm_num), zpow_natCast]
          push_cast
          rfl
  have order := (zpow_lt_zpow_iff_right₀ (by norm_num : (1 : ℚ) < 2)).mp bound
  push_cast at order
  omega

/-- Rounding does not go below a power of two, unless that is too small for a number. -/
theorem exists_round {significand : ℕ} {exponent power : ℤ} (positive : 0 < significand)
    (least : -126 ≤ power) (above : (2 : ℚ) ^ power ≤ significand * 2 ^ exponent) (sign : Sign) :
    ∃ (kept : ℕ) (shifted : ℤ) (keptPositive : 0 < kept),
      UnpackedFloat.round Format.binary32 sign significand exponent =
        .finite sign kept shifted keptPositive ∧
      2 ^ 23 ≤ kept ∧ kept < 2 ^ 24 ∧ power ≤ shifted + 23 := by
  have high := le_log2_of_le above
  rcases le_total 23 significand.log2 with long | short
  · rcases Nat.exists_eq_add_of_le long with ⟨count, bits⟩
    rcases exists_roundWithAccuracy bits (by omega : -149 ≤ exponent + count) sign .exact with
      ⟨-, kept, shifted, keptPositive, result, low, small, grows, -⟩
    refine ⟨kept, shifted, keptPositive, (round_long long exponent).trans result, low, small, ?_⟩
    omega
  · -- Too few bits are filled up, and nothing is lost.
    rcases Nat.exists_eq_add_of_le short with ⟨count, bits⟩
    have filled : (significand * 2 ^ count).log2 = 23 := by
      rw [log2_mul_two_pow positive.ne', ← bits]
    have bounds := (Nat.log2_eq_iff (by positivity)).mp filled
    have same : (significand * 2 ^ exponent : ℚ) =
        (significand * 2 ^ count : ℕ) * 2 ^ (exponent - count) := by
      have split : exponent = count + (exponent - count) := by omega
      conv_lhs => rw [split, zpow_add₀ (by norm_num), zpow_natCast]
      push_cast
      ring
    have result := round_exact (by positivity) bounds.1 bounds.2 (by omega) same sign
    exact ⟨_, _, _, result, bounds.1, bounds.2, by omega⟩

/-- What is stored of a rounded result, if it is not too large, is the result. -/
theorem le_abs_toRat_of_pack {number : Float32} {kept : ℕ} {shifted power : ℤ} {positive : 0 < kept}
    {sign : Sign} (isPacked : number.toModel = .pack (.finite sign kept shifted positive))
    (least : -126 ≤ power) (low : 2 ^ 23 ≤ kept) (high : kept < 2 ^ 24)
    (reaches : power ≤ shifted + 23) (finite : number.isFinite = true) :
    (2 : ℚ) ^ power ≤ |toRat number| := by
  have status : number.toModel.unpack.isFinite = true := finite
  have stored : shifted ≤ 104 := by
    by_contra large
    rw [isPacked, unpack_pack_large positive (by omega) sign] at status
    cases status
  have unpacked := unpack_pack positive low high (by omega) stored sign
  rw [← isPacked] at unpacked
  rw [toRat_of_finite unpacked, abs_apply_mul]
  calc (2 : ℚ) ^ power ≤ 2 ^ (shifted + 23) := zpow_le_zpow_right₀ (by norm_num) reaches
    _ = 2 ^ 23 * 2 ^ shifted := by
        rw [add_comm, zpow_add₀ (by norm_num)]
        norm_num
    _ ≤ kept * 2 ^ shifted := by
        gcongr
        exact_mod_cast low

/-- A number that reaches a power of two is not one of those that are too small to be normal. -/
theorem low_of_le {number : Float32} {sign : Sign} {significand : ℕ} {exponent power : ℤ}
    {positive : 0 < significand}
    (unpacked : number.toModel.unpack = .finite sign significand exponent positive)
    (least : -126 ≤ power) (above : (2 : ℚ) ^ power ≤ significand * 2 ^ exponent) :
    2 ^ 23 ≤ significand ∧ significand < 2 ^ 24 ∧ power ≤ exponent + 23 := by
  rcases shape_of_unpack unpacked with ⟨high, -, -, shape⟩
  have reaches := le_log2_of_le above
  have bits : significand.log2 < 24 := (Nat.log2_lt positive.ne').mpr high
  refine ⟨?_, high, by omega⟩
  rcases shape with low | isLeast
  · exact low
  · exact (Nat.le_log2 positive.ne').mp (by omega)

/-- A difference is on the scale of the smaller exponent, where nothing is lost. -/
theorem sub_finite_eq {sign otherSign : Sign} {significand other : ℕ} {exponent weight : ℤ}
    (positive : 0 < significand) (otherPositive : 0 < other) :
    ∃ (number smaller : ℤ),
      (number * 2 ^ smaller : ℚ) =
        sign.apply significand * 2 ^ exponent - otherSign.apply other * 2 ^ weight ∧
      UnpackedFloat.sub Format.binary32 (.finite sign significand exponent positive)
          (.finite otherSign other weight otherPositive) =
        UnpackedFloat.normalize Format.binary32 number smaller .positive := by
  obtain ⟨smaller, isSmaller⟩ : ∃ smaller, smaller = min exponent weight := ⟨_, rfl⟩
  have first := decreased_eq significand (by omega : smaller ≤ exponent)
  have second := decreased_eq other (by omega : smaller ≤ weight)
  refine ⟨sign.apply (significand * 2 ^ (exponent - smaller).toNat : ℕ) -
    otherSign.apply (other * 2 ^ (weight - smaller).toNat : ℕ), smaller, ?_, ?_⟩
  · have scaled (sign : Sign) (significand : ℕ) :
        ((sign.apply significand : ℤ) : ℚ) = sign.apply 1 * significand := by
      cases sign <;> simp [Sign.apply]
    rw [scaled sign significand, scaled otherSign other, mul_assoc, mul_assoc, ← first, ← second,
      Int.cast_sub, scaled, scaled]
    ring
  · rw [isSmaller]
    simp [UnpackedFloat.sub, decreaseExponent, Nat.shiftLeft_eq]

theorem isFinite_of_pack {number : UnpackedFloat}
    (finite : (Float32.Model.pack number).unpack.isFinite = true) : number.isFinite = true := by
  cases number with
  | notANumber =>
      have undefined : (Float32.Model.pack .notANumber).unpack.isFinite = false := by decide
      cases finite.symm.trans undefined
  | infinity sign =>
      rw [unpack_packedInfinity] at finite
      exact finite
  | zero sign => rfl
  | finite => rfl

theorem isFinite_of_sub {left right : UnpackedFloat}
    (finite : (UnpackedFloat.sub Format.binary32 left right).isFinite = true) :
    left.isFinite = true ∧ right.isFinite = true := by
  cases left with
  | notANumber => cases finite
  | infinity sign =>
      cases right with
      | infinity other => cases sign <;> cases other <;> cases finite
      | notANumber => cases finite
      | zero => cases finite
      | finite => cases finite
  | zero sign =>
      cases right with
      | notANumber => cases finite
      | infinity => cases finite
      | zero => exact ⟨rfl, rfl⟩
      | finite => exact ⟨rfl, rfl⟩
  | finite =>
      cases right with
      | notANumber => cases finite
      | infinity => cases finite
      | zero => exact ⟨rfl, rfl⟩
      | finite => exact ⟨rfl, rfl⟩

theorem eq_zero_or_finite {number : UnpackedFloat} (finite : number.isFinite = true) :
    (∃ sign, number = .zero sign) ∨ ∃ sign significand exponent positive,
      number = .finite sign significand exponent positive := by
  cases number with
  | notANumber => cases finite
  | infinity => cases finite
  | zero sign => exact Or.inl ⟨sign, rfl⟩
  | finite sign significand exponent positive =>
      exact Or.inr ⟨sign, significand, exponent, positive, rfl⟩

/-- If the exact difference reaches a power of two, the rounded one does. -/
theorem le_abs_toRat_sub {left right : Float32} {power : ℤ} (least : -126 ≤ power)
    (apart : (2 : ℚ) ^ power ≤ |toRat left - toRat right|)
    (finite : (left - right).isFinite = true) : (2 : ℚ) ^ power ≤ |toRat (left - right)| := by
  have model : (left - right).toModel = .pack (UnpackedFloat.sub Format.binary32
      left.toModel.unpack right.toModel.unpack) := rfl
  have notZero : toRat left - toRat right ≠ 0 := by
    intro same
    rw [same, abs_zero] at apart
    exact absurd apart (not_le_of_gt (by positivity))
  have status : (left - right).toModel.unpack.isFinite = true := finite
  rw [model] at status
  rcases isFinite_of_sub (isFinite_of_pack status) with ⟨leftFinite, rightFinite⟩
  rcases eq_zero_or_finite leftFinite with
    ⟨sign, leftUnpacked⟩ | ⟨sign, significand, exponent, positive, leftUnpacked⟩
  all_goals rcases eq_zero_or_finite rightFinite with
    ⟨otherSign, rightUnpacked⟩ | ⟨otherSign, other, weight, otherPositive, rightUnpacked⟩
  all_goals rw [leftUnpacked, rightUnpacked] at model
  · rw [toRat_of_zero leftUnpacked, toRat_of_zero rightUnpacked] at notZero
    exact absurd (sub_zero 0) notZero
  · rw [toRat_of_zero leftUnpacked, toRat_of_finite rightUnpacked, zero_sub, abs_neg,
      abs_apply_mul] at apart
    rcases low_of_le rightUnpacked least apart with ⟨low, high, reaches⟩
    exact le_abs_toRat_of_pack model least low high reaches finite
  · rw [toRat_of_finite leftUnpacked, toRat_of_zero rightUnpacked, sub_zero, abs_apply_mul] at apart
    rcases low_of_le leftUnpacked least apart with ⟨low, high, reaches⟩
    exact le_abs_toRat_of_pack model least low high reaches finite
  · rcases @sub_finite_eq sign otherSign significand other exponent weight positive
      otherPositive with ⟨number, smaller, scaled, subtracted⟩
    rw [toRat_of_finite leftUnpacked, toRat_of_finite rightUnpacked, ← scaled] at apart notZero
    have different : number ≠ 0 := by
      rintro rfl
      exact notZero (by simp)
    have magnitude : |(number * 2 ^ smaller : ℚ)| = number.natAbs * 2 ^ smaller := by
      rw [abs_mul, abs_of_pos (by positivity : (0 : ℚ) < 2 ^ smaller), Nat.cast_natAbs,
        Int.cast_abs]
    rw [magnitude] at apart
    rw [subtracted, normalize_of_ne_zero different] at model
    rcases exists_round (by omega) least apart (signOf number) with
      ⟨kept, shifted, keptPositive, result, low, high, reaches⟩
    rw [result] at model
    exact le_abs_toRat_of_pack model least low high reaches finite

/-! ## Small numbers -/

/-- The exponent of a normal number that compares below another is not larger. -/
theorem exponent_le_of_compare {significand other : ℕ} {exponent weight : ℤ}
    {positive : 0 < significand} {otherPositive : 0 < other}
    (isBelow : UnpackedFloat.compare (.finite .positive significand exponent positive)
      (.finite .positive other weight otherPositive) = some .lt) : exponent ≤ weight := by
  have compared : (compare exponent weight).then (compare significand other) = .lt :=
    Option.some.inj isBelow
  rw [Ordering.then_eq_lt, compare_lt_iff_lt, compare_eq_iff_eq] at compared
  omega

/-- What is less than a thousandth in magnitude is below the next power of two. -/
theorem abs_toRat_lt {number : Float32} (small : number.abs < 1e-3) :
    number.isFinite = true ∧ |toRat number| < 2 ^ (-9 : ℤ) := by
  have compared := compare_of_lt small
  have model : number.abs.toModel = .pack number.toModel.unpack.abs := rfl
  have status : number.isFinite = number.toModel.unpack.isFinite := rfl
  have bound : ∃ positive, (1e-3 : Float32).toModel.unpack =
      .finite .positive 8589935 (-33) positive := ⟨by norm_num, rfl⟩
  rcases bound with ⟨boundPositive, bound⟩
  rw [model, bound] at compared
  rw [status]
  cases unpacked : number.toModel.unpack with
  | notANumber =>
      rw [unpacked] at compared
      cases compared
  | infinity sign =>
      rw [unpacked, UnpackedFloat.abs, unpack_packedInfinity] at compared
      cases compared
  | zero sign =>
      refine ⟨rfl, ?_⟩
      rw [toRat_of_zero unpacked, abs_zero]
      positivity
  | finite sign significand exponent positive =>
      refine ⟨rfl, ?_⟩
      rcases shape_of_unpack unpacked with ⟨high, least, most, shape⟩
      have tiny : exponent ≤ -33 := by
        rcases shape with low | isLeast
        · have absolute : (Float32.Model.pack number.toModel.unpack.abs).unpack =
              .finite .positive significand exponent positive := by
            rw [unpacked]
            exact unpack_pack positive low high least most .positive
          rw [absolute] at compared
          exact exponent_le_of_compare compared
        · omega
      rw [toRat_of_finite unpacked, abs_apply_mul]
      calc (significand * 2 ^ exponent : ℚ)
          < (2 ^ 24 : ℕ) * 2 ^ exponent := by gcongr
        _ ≤ (2 ^ 24 : ℕ) * 2 ^ (-33 : ℤ) := by
            gcongr
            norm_num
        _ = 2 ^ (-9 : ℤ) := by norm_num

/-- Numbers that differ by less than a thousandth are close, however the difference is rounded. -/
theorem abs_toRat_sub_lt {left right : Float32} (small : (left - right).abs < 1e-3) :
    |toRat left - toRat right| < 2 ^ (-9 : ℤ) := by
  rcases abs_toRat_lt small with ⟨finite, below⟩
  by_contra apart
  exact absurd below (not_lt_of_ge (le_abs_toRat_sub (by norm_num) (not_lt.mp apart) finite))

end AvifStill.Numeric
