import AvifStill.Proofs.Dihedral
import AvifStill.Proofs.Sample
import AvifStill.Proofs.Transcode

/-!
# Depth classes of rasters

A raster is brought to the depth class of the frames it is coded in. Nothing happens if it is there
already. Otherwise each sample is moved to the other scale by itself, so layout, size and the order
of the channels stay. Samples of 8 bits that were widened come back when they are narrowed again.
-/

namespace AvifStill

namespace HostDepth

/-- The value of a sample on another scale. -/
def moved (source target : HostDepth) (value : ℕ) : ℕ :=
  match source, target with
  | .eight, .sixteen => Sample.widen8 value
  | .sixteen, .eight => Sample.narrow16 value
  | .eight, .eight => value
  | .sixteen, .sixteen => value

/-- No sample is cut off on the other scale. -/
theorem val_convert (source target : HostDepth) (sample : source.Sample) :
    (source.convert target sample).val = source.moved target sample.val := by
  cases source with
  | eight =>
      cases target with
      | eight => rfl
      | sixteen =>
          have fits : sample.val < 256 := sample.isLt
          apply val_clamp
          change sample.val * 257 ≤ 65535
          omega
  | sixteen =>
      cases target with
      | eight => exact val_clamp (Sample.rescale_le _ _ _)
      | sixteen => rfl

end HostDepth

namespace Raster

/-- What bringing a raster to the class of a coded depth makes of it. -/
structure IsAdaptationOf (result source : Raster) (codedDepth : ℕ) : Prop where
  layout : result.layout = source.layout
  size : result.size = source.size
  depth : result.depth = .sixteen ↔ 8 < codedDepth
  unchanged : source.depth = .ofCoded codedDepth → result = source
  again : result.adaptDepth codedDepth = result
  /-- Samples become 257 times as large, each in its place, -/
  widened : source.depth = .eight → 8 < codedDepth → ∀ column row,
    result.samples? column row = (source.samples? column row).map (List.map (257 * ·))
  /-- or are rounded to a scale of 257 times fewer steps. -/
  narrowed : source.depth = .sixteen → codedDepth ≤ 8 → ∀ column row,
    result.samples? column row = (source.samples? column row).map (List.map Sample.narrow16)
  restored : source.depth = .eight → ∀ back ≤ 8, (result.adaptDepth back).SamePicture source

variable {raster : Raster} {codedDepth : ℕ}

theorem size_adaptDepth (raster : Raster) (codedDepth : ℕ) :
    (raster.adaptDepth codedDepth).size = raster.size := by
  obtain ⟨-, width, height⟩ := raster.layout_adaptDepth codedDepth
  exact Prod.ext width height

/-- Every channel is moved to the other scale by itself and stays in its place. -/
theorem samples?_adaptDepth (raster : Raster) (codedDepth column row : ℕ) :
    (raster.adaptDepth codedDepth).samples? column row = (raster.samples? column row).map
      (List.map (raster.depth.moved (.ofCoded codedDepth))) := by
  simp only [adaptDepth]
  split
  · rename_i same
    have unmoved : raster.depth.moved (.ofCoded codedDepth) = id := by
      rw [← same]
      cases raster.depth <;> rfl
    rw [unmoved, List.map_id_fun, Option.map_id_fun]
    rfl
  · simp only [samples?, Grid.cell?_map, Option.map_map]
    congr 1
    funext pixel
    simp only [Function.comp_apply, Vector.toList_map, List.map_map]
    exact List.map_congr_left fun sample _ => HostDepth.val_convert _ _ sample

theorem samples_le {column row : ℕ} {samples : List ℕ}
    (found : raster.samples? column row = some samples) :
    ∀ sample ∈ samples, sample ≤ raster.depth.max := by
  obtain ⟨pixel, -, rfl⟩ := Option.map_eq_some_iff.mp found
  intro sample isMember
  obtain ⟨value, -, rfl⟩ := List.mem_map.mp isMember
  exact Nat.le_of_lt_succ value.isLt

/-- Widening and narrowing again changes nothing. -/
theorem samePicture_adaptDepth_adaptDepth (eight : raster.depth = .eight) (codedDepth : ℕ)
    {back : ℕ} (low : back ≤ 8) :
    ((raster.adaptDepth codedDepth).adaptDepth back).SamePicture raster := by
  have isEight : HostDepth.ofCoded back = .eight := HostDepth.ofCoded_eq_eight_iff.mpr low
  refine ⟨?_, ?_, ?_, ?_⟩
  · rw [(layout_adaptDepth _ back).1, (layout_adaptDepth _ codedDepth).1]
  · rw [depth_adaptDepth, isEight, eight]
  · rw [size_adaptDepth, size_adaptDepth]
  · intro column row
    rw [samples?_adaptDepth, samples?_adaptDepth, depth_adaptDepth, isEight, eight, Option.map_map]
    cases found : raster.samples? column row with
    | none => rfl
    | some samples =>
        have small := samples_le found
        rw [eight] at small
        rw [Option.map_some, Function.comp_apply, List.map_map, Option.some.injEq]
        refine (List.map_congr_left fun sample isMember => ?_).trans (List.map_id samples)
        cases HostDepth.ofCoded codedDepth with
        | eight => rfl
        | sixteen => exact Sample.narrow16_widen8 (small sample isMember)

/-- A raster is brought to a depth class sample by sample, and at most once. -/
theorem isAdaptationOf_adaptDepth (raster : Raster) (codedDepth : ℕ) :
    (raster.adaptDepth codedDepth).IsAdaptationOf raster codedDepth where
  layout := (raster.layout_adaptDepth codedDepth).1
  size := raster.size_adaptDepth codedDepth
  depth := by rw [depth_adaptDepth, HostDepth.ofCoded_eq_sixteen_iff]
  unchanged := adaptDepth_of_depth
  again := adaptDepth_of_depth (raster.depth_adaptDepth codedDepth)
  widened eight deep column row := by
    rw [samples?_adaptDepth, eight, HostDepth.ofCoded_eq_sixteen_iff.mpr deep]
    congr 2
    funext value
    exact Nat.mul_comm ..
  narrowed sixteen low column row := by
    rw [samples?_adaptDepth, sixteen, HostDepth.ofCoded_eq_eight_iff.mpr low]
    rfl
  restored eight _ low := samePicture_adaptDepth_adaptDepth eight codedDepth low

end Raster

end AvifStill
