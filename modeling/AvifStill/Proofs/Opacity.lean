import AvifStill.Proofs.Sample
import AvifStill.Proofs.Transcode

/-!
# Decoded opacity

A raster takes its depth from the colour frame, while the alpha frame keeps its own. Rasters of 16
bits bring alpha of any coded depth to their scale. Rasters of 8 bits only cut it off at 255, so
with a deeper alpha frame nearly every sample changes its meaning.
-/

namespace AvifStill

/-- The samples stand for the same opacity, up to one step of the host's scale. -/
def SameOpacity (sample max coded codedMax : ℕ) : Prop :=
  |((sample * codedMax : ℕ) : ℤ) - (coded * max : ℕ)| ≤ codedMax

instance (sample max coded codedMax : ℕ) : Decidable (SameOpacity sample max coded codedMax) :=
  inferInstanceAs (Decidable (_ ≤ _))

theorem Frame.maxValue_of_isCodedDepth {frame : Frame} (coded : IsCodedDepth frame.depth) :
    (frame.depth = 8 ∧ frame.maxValue = 255) ∨ (frame.depth = 10 ∧ frame.maxValue = 1023) ∨
      (frame.depth = 12 ∧ frame.maxValue = 4095) := by
  unfold Frame.maxValue
  rcases coded with isDepth | isDepth | isDepth
  · rw [isDepth]
    exact Or.inl ⟨rfl, rfl⟩
  · rw [isDepth]
    exact Or.inr (Or.inl ⟨rfl, rfl⟩)
  · rw [isDepth]
    exact Or.inr (Or.inr ⟨rfl, rfl⟩)

namespace HostDepth

variable {frame : Frame} {value : ℕ}

/-- On 16 bits every coded depth has the same scale. -/
theorem sameOpacity_sixteen (coded : Frame.IsCodedDepth frame.depth)
    (inRange : value ≤ frame.maxValue) :
    SameOpacity (HostDepth.sixteen.ofCodedSample value frame.depth).val sixteen.max value
      frame.maxValue := by
  have scale : 0 < frame.maxValue ∧ frame.maxValue < 2 ^ 16 := by
    have cases := Frame.maxValue_of_isCodedDepth coded
    omega
  have kept : (HostDepth.sixteen.ofCodedSample value frame.depth).val =
      Sample.rescale value frame.maxValue 65535 :=
    min_eq_left (min_le_right ..)
  rw [kept]
  exact Sample.rescale_mul_near inRange scale.1 scale.2 (by norm_num) (by norm_num)

/-- On 8 bits the coded sample is taken as it is, so a deeper scale shows almost everywhere. -/
theorem sameOpacity_eight_iff (coded : Frame.IsCodedDepth frame.depth)
    (inRange : value ≤ frame.maxValue) :
    SameOpacity (HostDepth.eight.ofCodedSample value frame.depth).val eight.max value
        frame.maxValue ↔
      frame.depth = 8 ∨ value ≤ 1 ∨ 255 * (frame.maxValue - value) ≤ frame.maxValue := by
  have cut : (HostDepth.eight.ofCodedSample value frame.depth).val = min value 255 := rfl
  have most : eight.max = 255 := rfl
  rw [SameOpacity, cut, most, abs_le]
  -- On either side of 255 the claim is linear in the sample once the depth is fixed.
  rcases Frame.maxValue_of_isCodedDepth coded with
    ⟨isDepth, isMax⟩ | ⟨isDepth, isMax⟩ | ⟨isDepth, isMax⟩
  all_goals
    rw [isMax] at inRange ⊢
    rw [isDepth]
    rcases le_total value 255 with small | large
    · rw [min_eq_left small]
      omega
    · rw [min_eq_right large]
      omega

end HostDepth

namespace Strategy

/--
A decoded alpha sample stands for the opacity of the coded one exactly where the colour frame is
deeper than 8 bits, the alpha frame is not, or the sample is next to one end of its scale.
-/
theorem sameOpacity_iff_of_decode {strategy : Strategy} {input : DecodeInput} {raster : Raster}
    {alpha : Frame} (done : strategy.decode input = .ok raster) (isAlpha : input.alpha = some alpha)
    (hasAlpha : strategy.layout.hasAlpha = true) (coded : Frame.IsCodedDepth alpha.depth)
    (full : alpha.range = .full) {column row : ℕ} {value : UInt16}
    (found : alpha.luma.cell? column row = some value) (inRange : value.toNat ≤ alpha.maxValue) :
    ∃ sample, raster.alpha? column row = some sample ∧
      (SameOpacity sample raster.depth.max value.toNat alpha.maxValue ↔
        8 < input.color.depth ∨ alpha.depth = 8 ∨ value.toNat ≤ 1 ∨
          255 * (alpha.maxValue - value.toNat) ≤ alpha.maxValue) := by
  have isDecoded := alpha?_of_decode done isAlpha hasAlpha column row
  rw [hostPlane, Grid.cell?_map, found, full] at isDecoded
  refine ⟨_, isDecoded, ?_⟩
  rcases of_decode done with ⟨isDepth, pixels, -, rfl⟩
  simp only [SampleRange.expand]
  by_cases deep : 8 < input.color.depth
  · rw [HostDepth.ofCoded, if_pos deep] at isDepth
    rw [← isDepth]
    exact iff_of_true (HostDepth.sameOpacity_sixteen coded inRange) (Or.inl deep)
  · rw [HostDepth.ofCoded, if_neg deep] at isDepth
    rw [← isDepth, HostDepth.sameOpacity_eight_iff coded inRange]
    simp [deep]

/-- A half-opaque alpha sample of ten bits. -/
def halfVeil : Frame :=
  ⟨10, .monochrome, .full, none, .build 1 1 fun _ _ => 512, none, none⟩

/-- A gray pixel of eight bits under such an alpha frame. -/
def halfVeiled : DecodeInput :=
  ⟨⟨8, .monochrome, .full, none, .build 1 1 fun _ _ => 100, none, none⟩, some halfVeil, .bt709⟩

/-- The pixel comes out fully opaque. -/
theorem not_sameOpacity_halfVeiled : ∃ raster,
    (⟨.grayAlpha, .eight⟩ : Strategy).decode halfVeiled = .ok raster ∧
      raster.alpha? 0 0 = some 255 ∧ ¬SameOpacity 255 255 512 1023 := by
  have done : ∃ raster, (⟨.grayAlpha, .eight⟩ : Strategy).decode halfVeiled = .ok raster :=
    ⟨_, rfl⟩
  rcases done with ⟨raster, done⟩
  have found : halfVeil.luma.cell? 0 0 = some 512 := rfl
  rcases sameOpacity_iff_of_decode done rfl rfl (Or.inr (Or.inl rfl)) rfl found (by decide)
    with ⟨sample, isSample, same⟩
  have isFull : raster.alpha? 0 0 = some 255 := by
    cases done
    rfl
  have isEight : raster.depth = .eight := by
    cases done
    rfl
  cases isSample.symm.trans isFull
  rw [isEight] at same
  exact ⟨raster, done, isFull, fun kept => absurd (same.mp kept) (by decide)⟩

end Strategy

end AvifStill
