import AvifStill.Color.Description
import AvifStill.Proofs.Numeric.Signed
import AvifStill.Proofs.Reading

/-!
# Profiles judged linear

A profile is judged linear by the tone curves that its space uses. A parametric curve may have a
straight piece near black, with a slope and a limit of its own, and the judgement looks at neither:
from the limit on, a curve judged to be the identity is close to it, but below the limit only if the
slope says so.
-/

namespace AvifStill

open Color Numeric

namespace Color

/-- The numbers of a parametric curve in two pieces, with the exponent one. -/
structure Bend where
  scale : Float32
  offset : Float32
  /-- The slope of the piece near black. -/
  slope : Float32
  /-- Where the piece near black ends. -/
  limit : Float32
  finite : ∀ number ∈ [scale, offset, slope, limit], number.isFinite = true

namespace Bend

/-- The tone curve that a profile stores. -/
def curve (bend : Bend) : ToneCurve :=
  .parametric [1.0, bend.scale, bend.offset, bend.slope, bend.limit]

/-- The light that the curve gives for a sample. -/
noncomputable def value (bend : Bend) (sample : ℝ) : ℝ :=
  if sample < toRat bend.limit then toRat bend.slope * sample
  else toRat bend.scale * sample + toRat bend.offset

/-- The curve is within a hundredth of the identity. -/
def IsIdentity (bend : Bend) : Prop :=
  ∀ sample ∈ Set.Icc (0 : ℝ) 1, |bend.value sample - sample| ≤ 1 / 100

/-- What is looked at to judge the curve. -/
def PassesForLinear (bend : Bend) : Prop :=
  ToneCurve.close bend.scale 1.0 = true ∧ bend.offset.abs < 1e-3

variable {bend : Bend}

theorem isLinear_curve : bend.curve.isLinear = true ↔ bend.PassesForLinear := by
  have exponent : ToneCurve.close 1.0 1.0 = true := by decide +kernel
  rw [curve, ToneCurve.isLinear, exponent, Bool.true_and, Bool.and_eq_true, decide_eq_true_eq]
  rfl

/-- The numbers that are looked at are within 1/512 of those of the identity. -/
theorem PassesForLinear.abs_lt (passes : bend.PassesForLinear) :
    |(toRat bend.scale - 1 : ℝ)| < 1 / 512 ∧ |(toRat bend.offset : ℝ)| < 1 / 512 := by
  rcases passes with ⟨isClose, small⟩
  have scale := abs_toRat_sub_lt (of_decide_eq_true isClose)
  have offset := (abs_toRat_lt small).2
  have bound : (2 : ℚ) ^ (-9 : ℤ) = 1 / 512 := by norm_num
  rw [bound] at scale offset
  rw [toRat_one] at scale
  have scale := Rat.cast_lt (K := ℝ) |>.mpr scale
  have offset := Rat.cast_lt (K := ℝ) |>.mpr offset
  push_cast at scale offset
  exact ⟨scale, offset⟩

theorem PassesForLinear.abs_value_sub_le (passes : bend.PassesForLinear) {sample : ℝ}
    (inside : sample ∈ Set.Icc 0 1) (above : (toRat bend.limit : ℝ) ≤ sample) :
    |bend.value sample - sample| ≤ 1 / 100 := by
  rcases passes.abs_lt with ⟨scale, offset⟩
  have split : bend.value sample - sample =
      (toRat bend.scale - 1) * sample + toRat bend.offset := by
    rw [value, if_neg (not_lt_of_ge above)]
    ring
  calc |bend.value sample - sample|
      ≤ |(toRat bend.scale - 1 : ℝ) * sample| + |(toRat bend.offset : ℝ)| := by
        rw [split]
        exact abs_add_le _ _
    _ = |(toRat bend.scale - 1 : ℝ)| * sample + |(toRat bend.offset : ℝ)| := by
        rw [abs_mul, abs_of_nonneg inside.1]
    _ ≤ 1 / 512 * 1 + 1 / 512 := by
        gcongr
        · exact inside.1
        · exact inside.2
    _ ≤ 1 / 100 := by norm_num

theorem abs_value_sub_of_lt {sample : ℝ} (nonneg : 0 ≤ sample)
    (below : sample < (toRat bend.limit : ℝ)) :
    |bend.value sample - sample| = |(toRat bend.slope - 1 : ℝ)| * sample := by
  have split : bend.value sample - sample = (toRat bend.slope - 1) * sample := by
    rw [value, if_pos below]
    ring
  rw [split, abs_mul, abs_of_nonneg nonneg]

/-- How far the piece near black moves away from the identity. -/
def departure (bend : Bend) : ℚ :=
  |toRat bend.slope - 1| * min (toRat bend.limit) 1

/-- A departure that is not reached is exceeded at the end of the piece, or just below it. -/
theorem exists_below_limit {bound : ℝ} (nonneg : 0 ≤ bound) (exceeds : bound < bend.departure) :
    ∃ sample ∈ Set.Icc (0 : ℝ) 1, sample < toRat bend.limit ∧
      bound < |(toRat bend.slope - 1 : ℝ)| * sample := by
  have slope : 0 ≤ |(toRat bend.slope - 1 : ℝ)| := abs_nonneg _
  rw [departure] at exceeds
  push_cast at exceeds
  rcases lt_or_ge (1 : ℝ) (toRat bend.limit) with wide | narrow
  · rw [min_eq_right wide.le] at exceeds
    exact ⟨1, by simp, wide, exceeds⟩
  · rw [min_eq_left narrow] at exceeds
    have steep : 0 < |(toRat bend.slope - 1 : ℝ)| := by
      apply slope.lt_of_ne
      intro flat
      rw [← flat, zero_mul] at exceeds
      exact absurd exceeds (not_lt_of_ge nonneg)
    rcases exists_between ((div_lt_iff₀' steep).mpr exceeds) with ⟨sample, above, below⟩
    have start : 0 ≤ bound / |(toRat bend.slope - 1 : ℝ)| := div_nonneg nonneg slope
    exact ⟨sample, ⟨by linarith, by linarith⟩, below, (div_lt_iff₀' steep).mp above⟩

theorem PassesForLinear.isIdentity_iff (passes : bend.PassesForLinear) :
    bend.IsIdentity ↔ bend.departure ≤ 1 / 100 := by
  constructor
  · intro isIdentity
    by_contra exceeds
    have exceeds := Rat.cast_lt (K := ℝ) |>.mpr (not_le.mp exceeds)
    rw [Rat.cast_div, Rat.cast_one, Rat.cast_ofNat] at exceeds
    rcases exists_below_limit (by norm_num) exceeds with ⟨sample, inside, below, apart⟩
    rw [← abs_value_sub_of_lt inside.1 below] at apart
    exact absurd (isIdentity sample inside) (not_le_of_gt apart)
  · intro isFlat sample inside
    rcases lt_or_ge sample (toRat bend.limit) with below | above
    · have start : sample ≤ min (toRat bend.limit : ℝ) 1 := le_min below.le inside.2
      have isFlat := Rat.cast_le (K := ℝ) |>.mpr isFlat
      rw [departure] at isFlat
      push_cast at isFlat
      calc |bend.value sample - sample|
          = |(toRat bend.slope - 1 : ℝ)| * sample := abs_value_sub_of_lt inside.1 below
        _ ≤ |(toRat bend.slope - 1 : ℝ)| * min (toRat bend.limit : ℝ) 1 := by gcongr
        _ ≤ 1 / 100 := isFlat
    · exact passes.abs_value_sub_le inside above

end Bend

end Color

namespace Icc.Profile

/-- The tone curves of the channels that the space of a profile has. -/
def channelCurves (profile : Profile) : List (Option ToneCurve) :=
  if profile.isGray then [profile.curves.gray]
  else [profile.curves.red, profile.curves.green, profile.curves.blue]

theorem isLinear_eq_all (profile : Profile) :
    profile.isLinear = profile.channelCurves.all isLinearCurve := by
  unfold isLinear channelCurves
  split <;> simp [Bool.and_assoc]

/-- What is judged of a profile whose tone curves are in two pieces with the exponent one. -/
structure JudgesBends (profile : Profile) (bends : List Bend) : Prop where
  /-- The pieces near black do not count. -/
  judged : profile.isLinear = true ↔ ∀ bend ∈ bends, bend.PassesForLinear
  /-- From its limit on, a curve judged to be the identity is close to it. -/
  upper : profile.isLinear = true → ∀ bend ∈ bends, ∀ sample ∈ Set.Icc (0 : ℝ) 1,
    toRat bend.limit ≤ sample → |bend.value sample - sample| ≤ 1 / 100
  /-- It is so everywhere exactly if the piece near black happens to be. -/
  lower : profile.isLinear = true → ∀ bend ∈ bends,
    (bend.IsIdentity ↔ bend.departure ≤ 1 / 100)
  /-- An image with the profile is described by it where it suits, and as linear if it passes. -/
  described : ∀ (bytes : Bytes) (cicp : Cicp) (isMonochrome : Bool),
    ofBytes? bytes = .ok profile →
      ∃ decoded, Decoded.resolve (some bytes) cicp isMonochrome = .ok decoded ∧
        (decoded.description.origin = .icc ↔ (isMonochrome = true → profile.isGray = true)) ∧
        (decoded.description.origin = .icc →
          (decoded.description.transfer = .linear ↔ profile.isLinear = true))

variable {profile : Profile} {bends : List Bend}

theorem isLinear_iff_of_bends (curves : profile.channelCurves = bends.map (some ·.curve)) :
    profile.isLinear = true ↔ ∀ bend ∈ bends, bend.PassesForLinear := by
  simp [isLinear_eq_all, curves, isLinearCurve, Bend.isLinear_curve]

theorem resolve_of_read {bytes : Bytes} (read : ofBytes? bytes = .ok profile) (cicp : Cicp)
    (isMonochrome : Bool) :
    Decoded.resolve (some bytes) cicp isMonochrome =
      .ok (if isMonochrome ∧ ¬profile.isGray then .monochrome cicp
        else .ofProfile profile bytes cicp) := by
  cases bytes with
  | nil => cases read
  | cons byte bytes =>
      simp only [Decoded.resolve, read]
      split <;> rfl

theorem transfer_ofProfile (profile : Profile) (bytes : Bytes) (cicp : Cicp) :
    (Decoded.ofProfile profile bytes cicp).description.transfer = .linear ↔
      profile.isLinear = true := by
  simp only [Decoded.ofProfile]
  split <;> simp [*]

/-- A profile is judged linear by its curves above their limits, whatever they do below. -/
theorem judgesBends_of_channelCurves
    (curves : profile.channelCurves = bends.map (some ·.curve)) : profile.JudgesBends bends := by
  have judged := isLinear_iff_of_bends curves
  constructor
  case judged => exact judged
  case upper =>
    intro isLinear bend isMember sample inside above
    exact (judged.mp isLinear bend isMember).abs_value_sub_le inside above
  case lower =>
    intro isLinear bend isMember
    exact (judged.mp isLinear bend isMember).isIdentity_iff
  case described =>
    intro bytes cicp isMonochrome read
    refine ⟨_, resolve_of_read read cicp isMonochrome, ?_⟩
    split
    · rename_i differs
      simp [Decoded.monochrome, differs]
    · rename_i suits
      have embedded : isMonochrome = true → profile.isGray = true := by simpa using suits
      refine ⟨iff_of_true rfl embedded, ?_⟩
      intro _
      exact transfer_ofProfile profile bytes cicp

/-- A curve without light in the lower half, and the identity in the upper one. -/
def halfDarkBend : Bend where
  scale := 1.0
  offset := 0.0
  slope := 0.0
  limit := 0.5
  finite := by decide +kernel

/-- A gray profile with that curve. -/
def halfDark : Profile :=
  { empty with space := .gray, curves := ⟨none, none, none, some halfDarkBend.curve⟩ }

deriving instance DecidableEq for ToneCurve

/-- An image with this profile is described as linear, though the curve is not the identity. -/
theorem judgesBends_halfDark :
    ∃ profile : Profile, ofBytes? halfDark.toBytes = .ok profile ∧
      profile.channelCurves = [halfDarkBend].map (some ·.curve) ∧
      profile.JudgesBends [halfDarkBend] ∧ ¬halfDarkBend.IsIdentity ∧
      ∃ decoded, Decoded.resolve (some halfDark.toBytes) ⟨⟨1⟩, ⟨13⟩, ⟨1⟩, true⟩ false =
        .ok decoded ∧ decoded.description.transfer = .linear := by
  have found : (ofBytes? halfDark.toBytes).toOption.map (·.channelCurves) =
      some ([halfDarkBend].map (some ·.curve)) := by
    decide +kernel
  rcases Option.map_eq_some_iff.mp found with ⟨profile, isSome, curves⟩
  have read : ofBytes? halfDark.toBytes = .ok profile := ok_of_toOption isSome
  have judges := judgesBends_of_channelCurves curves
  have passes : halfDarkBend.PassesForLinear := ⟨by decide +kernel, by decide +kernel⟩
  have isLinear : profile.isLinear = true := judges.judged.mpr (by simpa using passes)
  rcases judges.described _ ⟨⟨1⟩, ⟨13⟩, ⟨1⟩, true⟩ false read with
    ⟨decoded, done, suits, isDescribed⟩
  have embedded : decoded.description.origin = .icc := suits.mpr nofun
  refine ⟨profile, read, curves, judges, ?_, decoded, done, (isDescribed embedded).mpr isLinear⟩
  rw [judges.lower isLinear halfDarkBend (by simp)]
  have departure : halfDarkBend.departure = 1 / 2 := by
    rw [Bend.departure, halfDarkBend, toRat_zero, denotes_half.toRat_eq]
    norm_num
  rw [departure]
  norm_num

end Icc.Profile

end AvifStill
