import AvifStill.Proofs.Padding
import AvifStill.Proofs.Sample

/-!
# Gray frames through a raster and back

Full-range gray and alpha frames become a raster, and frames are made of it again. At 8 bits samples
are copied. Deeper ones go to the scale of 16 bits and return, which takes two roundings in single
precision that cancel on every coded scale. An empty frame is the exception: it gives an empty
raster, of which no frame is made.
-/

namespace AvifStill

/-! ## Samples -/

namespace HostDepth

variable {codedDepth : ℕ} {value : UInt16}

theorem toCodedSample_ofCodedSample_sixteen (coded : Frame.IsCodedDepth codedDepth)
    (fits : value.toNat ≤ Sample.maxValue codedDepth) :
    sixteen.toCodedSample (sixteen.ofCodedSample value.toNat codedDepth) codedDepth = value := by
  have kept : (sixteen.ofCodedSample value.toNat codedDepth).val =
      Sample.codecToHost16 value.toNat codedDepth := val_clamp (Sample.rescale_le ..)
  simp [toCodedSample, kept, Sample.host16ToCodec_codecToHost16 coded fits]

theorem toCodedSample_ofCodedSample_eight (fits : value.toNat ≤ 255) :
    eight.toCodedSample (eight.ofCodedSample value.toNat codedDepth) codedDepth = value := by
  have kept : (eight.ofCodedSample value.toNat codedDepth).val = value.toNat := val_clamp fits
  simp [toCodedSample, kept]

/-- A coded sample comes back from the raster that its depth pairs with. -/
theorem toCodedSample_ofCodedSample (coded : Frame.IsCodedDepth codedDepth)
    (fits : value.toNat ≤ Sample.maxValue codedDepth) :
    (ofCoded codedDepth).toCodedSample
      ((ofCoded codedDepth).ofCodedSample value.toNat codedDepth) codedDepth = value := by
  rcases coded with rfl | rfl | rfl
  · exact toCodedSample_ofCodedSample_eight fits
  · exact toCodedSample_ofCodedSample_sixteen (.inr (.inl rfl)) fits
  · exact toCodedSample_ofCodedSample_sixteen (.inr (.inr rfl)) fits

end HostDepth

/-! ## Frames -/

namespace Frame

/-- The frame is gray and full-range, with all samples on the scale of a depth. -/
structure IsFullGray (frame : Frame) (codedDepth : ℕ) : Prop where
  depth : frame.depth = codedDepth
  format : frame.format = .monochrome
  range : frame.range = .full
  inRange : ∀ column row value, frame.luma.cell? column row = some value →
    value.toNat ≤ Sample.maxValue codedDepth

/-- The frame has the luma samples of another and no chroma. -/
structure IsGrayCopyOf (copy original : Frame) : Prop where
  depth : copy.depth = original.depth
  format : copy.format = original.format
  range : copy.range = original.range
  luma : copy.luma.SameCells original.luma
  chroma : copy.cb = none ∧ copy.cr = none

end Frame

namespace Strategy

variable {layout : ChannelLayout} {codedDepth : ℕ}

/-- The channel of a raster that shows a gray frame goes into a copy of it. -/
theorem isGrayCopyOf_planeOf {frame : Frame} (coded : Frame.IsCodedDepth codedDepth)
    (isGray : frame.IsFullGray codedDepth) {pixels : Grid (Pixel layout (.ofCoded codedDepth))}
    {channel : Pixel layout (.ofCoded codedDepth) → (HostDepth.ofCoded codedDepth).Sample}
    (width : pixels.width = frame.width) (height : pixels.height = frame.height)
    (shown : ∀ column row, (pixels.cell? column row).map channel =
      (hostPlane (.ofCoded codedDepth) frame).cell? column row) :
    (planeOf pixels codedDepth channel).IsGrayCopyOf frame := by
  refine ⟨isGray.depth.symm, isGray.format.symm, isGray.range.symm, ⟨width, height, ?_⟩, rfl, rfl⟩
  intro column row
  have host := shown column row
  rw [hostPlane, Grid.cell?_map, isGray.depth, isGray.range] at host
  calc (planeOf pixels codedDepth channel).luma.cell? column row
      = ((pixels.cell? column row).map channel).map fun sample =>
          (HostDepth.ofCoded codedDepth).toCodedSample sample codedDepth := by
        rw [Option.map_map]
        exact pixels.cell?_map (fun pixel =>
          (HostDepth.ofCoded codedDepth).toCodedSample (channel pixel) codedDepth) column row
    _ = frame.luma.cell? column row := by
        rw [host, Option.map_map]
        cases found : frame.luma.cell? column row with
        | none => rfl
        | some value =>
            exact congrArg some
              (HostDepth.toCodedSample_ofCodedSample coded (isGray.inRange column row value found))

/-! ## Refusals -/

/-- No gray frames are made where none of that shape can be. -/
theorem encodePixels_of_failed {target : EncodeTarget} {depth : HostDepth}
    (isGray : layout.isGray = true) {pixels : Grid (Pixel layout depth)} {fault : Fault}
    (failed : Frame.checkShape pixels.width pixels.height target.depth = .error fault) :
    encodePixels target depth layout pixels = .error fault := by
  have noFrame (channel : Pixel layout depth → depth.Sample) :
      channelFrame pixels target.depth channel = .error fault :=
    bind_of_failed (bind_of_failed failed)
  cases layout with
  | gray => exact bind_of_failed (noFrame Pixel.gray)
  | grayAlpha => exact bind_of_failed (noFrame Pixel.gray)
  | rgb => cases isGray
  | rgba => cases isGray

end Strategy

/-! ## There and back -/

/-- The frames are gray and full-range, of one depth and of one size. -/
structure DecodeInput.IsFullGray (input : DecodeInput) (codedDepth : ℕ) : Prop where
  color : input.color.IsFullGray codedDepth
  alpha : ∀ alpha, input.alpha = some alpha → alpha.IsFullGray codedDepth ∧
    (alpha.width, alpha.height) = (input.color.width, input.color.height)

/-- The frames hold the gray and alpha samples of others. -/
structure EncodedPlanes.Restore (planes : EncodedPlanes) (input : DecodeInput) : Prop where
  color : planes.color.IsGrayCopyOf input.color
  alpha : Option.Rel Frame.IsGrayCopyOf planes.alpha input.alpha

/-- What is made of the raster of gray frames. -/
structure Raster.Recodes (raster : Raster) (strategy : Strategy) (input : DecodeInput)
    (target : EncodeTarget) : Prop where
  restored : Frame.HasShape input.color.width input.color.height target.depth →
    ∃ planes, strategy.encode raster target = .ok planes ∧ planes.Restore input
  empty : input.color.width = 0 ∨ input.color.height = 0 →
    strategy.encode raster target = .error (.invalidInput .zeroFrame)
  overflow : input.color.width ≠ 0 → input.color.height ≠ 0 →
    UInt64.size ≤ input.color.width * input.color.height →
      strategy.encode raster target = .error (.invalidInput .frameOverflow)

namespace Strategy

variable {input : DecodeInput} {target : EncodeTarget} {codedDepth : ℕ}

theorem select_gray (hasAlpha : Bool) (codedDepth : ℕ) :
    select hasAlpha true (8 < codedDepth) = ⟨.ofFlags hasAlpha true, .ofCoded codedDepth⟩ := by
  simp [select, HostDepth.ofCoded]

section Layouts

variable (coded : Frame.IsCodedDepth codedDepth) (gray : input.IsFullGray codedDepth)
  (sameDepth : target.depth = codedDepth)
include coded gray sameDepth

theorem exists_restored_gray {pixels : Grid (Pixel .gray (.ofCoded codedDepth))}
    (done : decodePixels (.ofCoded codedDepth) input .gray = .ok pixels)
    (noAlpha : input.alpha = none)
    (shape : Frame.HasShape pixels.width pixels.height target.depth) :
    ∃ planes, encodePixels target (.ofCoded codedDepth) .gray pixels = .ok planes ∧
      planes.Restore input := by
  obtain ⟨width, height⟩ := size_of_decodePixels done
  obtain ⟨color, isColor⟩ := exists_channelFrame shape Pixel.gray
  obtain ⟨-, rfl⟩ := of_channelFrame isColor
  refine ⟨_, bind_of_done isColor, ?_, ?_⟩
  · rw [sameDepth]
    exact isGrayCopyOf_planeOf coded gray.color width height (gray_of_decodePixels done)
  · rw [noAlpha]
    exact .none

theorem exists_restored_grayAlpha {pixels : Grid (Pixel .grayAlpha (.ofCoded codedDepth))}
    (done : decodePixels (.ofCoded codedDepth) input .grayAlpha = .ok pixels) {frame : Frame}
    (isAlpha : input.alpha = some frame)
    (shape : Frame.HasShape pixels.width pixels.height target.depth) :
    ∃ planes, encodePixels target (.ofCoded codedDepth) .grayAlpha pixels = .ok planes ∧
      planes.Restore input := by
  obtain ⟨width, height⟩ := size_of_decodePixels done
  obtain ⟨isGray, size⟩ := gray.alpha frame isAlpha
  obtain ⟨alphaWidth, alphaHeight⟩ := Prod.mk.inj size
  obtain ⟨color, isColor⟩ := exists_channelFrame shape Pixel.gray
  obtain ⟨alpha, isFrame⟩ := exists_channelFrame shape Pixel.alpha
  obtain ⟨-, rfl⟩ := of_channelFrame isColor
  obtain ⟨-, rfl⟩ := of_channelFrame isFrame
  have shown := grayAlpha_of_decodePixels done isAlpha
  refine ⟨_, (bind_of_done isColor).trans (bind_of_done isFrame), ?_, ?_⟩
  · rw [sameDepth]
    exact isGrayCopyOf_planeOf coded gray.color width height fun column row => (shown column row).1
  · rw [isAlpha, sameDepth]
    apply Option.Rel.some
    apply isGrayCopyOf_planeOf coded isGray
    · exact width.trans alphaWidth.symm
    · exact height.trans alphaHeight.symm
    · exact fun column row => (shown column row).2

end Layouts

theorem exists_recodes_of_pixels {layout : ChannelLayout} (isGray : layout.isGray = true)
    (color : input.color.depth = codedDepth) (sameDepth : target.depth = codedDepth)
    (hasAlpha : input.alpha.isSome = layout.hasAlpha)
    {pixels : Grid (Pixel layout (.ofCoded codedDepth))} (coded : Frame.IsCodedDepth codedDepth)
    (done : decodePixels (.ofCoded codedDepth) input layout = .ok pixels)
    (restored : Frame.HasShape pixels.width pixels.height target.depth →
      ∃ planes, encodePixels target (.ofCoded codedDepth) layout pixels = .ok planes ∧
        planes.Restore input) :
    ∃ raster, decode ⟨layout, .ofCoded codedDepth⟩ input = .ok raster ∧
      raster.Recodes ⟨layout, .ofCoded codedDepth⟩ input target := by
  obtain ⟨width, height⟩ := size_of_decodePixels done
  have encoded : encode ⟨layout, .ofCoded codedDepth⟩ ⟨layout, .ofCoded codedDepth, pixels⟩ target =
      encodePixels target (.ofCoded codedDepth) layout pixels :=
    encode_of_adapted (congrArg HostDepth.ofCoded sameDepth.symm)
  refine ⟨_, decode_of_pixels (congrArg HostDepth.ofCoded color) hasAlpha done, ?_, ?_, ?_⟩
  all_goals rw [encoded, ← width, ← height]
  · exact restored
  · intro isEmpty
    apply encodePixels_of_failed isGray
    exact if_pos isEmpty
  · intro wide high tooMany
    apply encodePixels_of_failed isGray
    rw [Frame.checkShape, if_neg (not_or.mpr ⟨wide, high⟩),
      if_neg (not_not_intro (sameDepth ▸ coded)), if_pos tooMany]

/-- Full-range gray and alpha frames come back from their raster, unless they are empty. -/
theorem exists_recodes (coded : Frame.IsCodedDepth codedDepth)
    (gray : input.IsFullGray codedDepth) (sameDepth : target.depth = codedDepth) :
    ∃ raster, (select input.alpha.isSome true (8 < codedDepth)).decode input = .ok raster ∧
      raster.Recodes (select input.alpha.isSome true (8 < codedDepth)) input target := by
  rw [select_gray]
  cases isAlpha : input.alpha with
  | none =>
      apply exists_recodes_of_pixels rfl gray.color.depth sameDepth _ coded rfl
      · exact exists_restored_gray coded gray sameDepth rfl isAlpha
      · rw [isAlpha]
        rfl
  | some frame =>
      have isPlane : alphaPlane (.ofCoded codedDepth) input = .ok _ :=
        alphaPlane_iff.mpr ⟨frame, isAlpha, (gray.alpha frame isAlpha).2, rfl⟩
      have done : decodePixels (.ofCoded codedDepth) input .grayAlpha = .ok _ :=
        bind_of_done isPlane
      apply exists_recodes_of_pixels rfl gray.color.depth sameDepth _ coded done
      · exact exists_restored_grayAlpha coded gray sameDepth done isAlpha
      · rw [isAlpha]
        rfl

/-- A gray frame of one row, which a function gives. -/
def grayRow (codedDepth width : ℕ) (sample : ℕ → UInt16) : Frame :=
  ⟨codedDepth, .monochrome, .full, none, .build width 1 fun column _ => sample column, none, none⟩

/-- Both ends of the scale of ten bits in gray, and a sample next to the middle as opacity. -/
def tenBitPair : DecodeInput :=
  ⟨grayRow 10 2 fun column => if column = 0 then 0 else 1023,
    some (grayRow 10 2 fun column => if column = 0 then 511 else 512), .bt709⟩

theorem isFullGray_grayRow {codedDepth width : ℕ} {sample : ℕ → UInt16}
    (inRange : ∀ column < width, (sample column).toNat ≤ Sample.maxValue codedDepth) :
    (grayRow codedDepth width sample).IsFullGray codedDepth := by
  refine ⟨rfl, rfl, rfl, ?_⟩
  intro column row value found
  rw [grayRow, Grid.cell?_build] at found
  split at found
  · rename_i inside
    cases found
    exact inRange column inside.1
  · cases found

theorem exists_recodes_tenBitPair : tenBitPair.IsFullGray 10 ∧
    ∃ raster, (select true true true).decode tenBitPair = .ok raster ∧
      raster.Recodes (select true true true) tenBitPair ⟨10, .yuv420, .bt709⟩ := by
  have color := @isFullGray_grayRow 10 2 (fun column => if column = 0 then 0 else 1023) (by decide)
  have alpha := @isFullGray_grayRow 10 2 (fun column => if column = 0 then 511 else 512) (by decide)
  have gray : tenBitPair.IsFullGray 10 := by
    refine ⟨color, ?_⟩
    rintro frame ⟨rfl⟩
    exact ⟨alpha, rfl⟩
  exact ⟨gray, exists_recodes (.inr (.inl rfl)) gray rfl⟩

/-- A gray frame without rows. -/
def emptyGray : DecodeInput :=
  ⟨⟨10, .monochrome, .full, none, .build 2 0 fun _ _ => 0, none, none⟩, none, .bt709⟩

theorem not_forall_recodes : ¬∀ (codedDepth : ℕ) (input : DecodeInput) (target : EncodeTarget),
    Frame.IsCodedDepth codedDepth → input.IsFullGray codedDepth → target.depth = codedDepth →
      ∃ raster planes, (select input.alpha.isSome true (8 < codedDepth)).decode input = .ok raster ∧
        (select input.alpha.isSome true (8 < codedDepth)).encode raster target = .ok planes ∧
          planes.Restore input := by
  intro recodes
  have gray : emptyGray.IsFullGray 10 := by
    refine ⟨⟨rfl, rfl, rfl, ?_⟩, fun _ isAlpha => nomatch isAlpha⟩
    intro column row value found
    have inside := (Grid.isSome_cell?_iff _ column row).mp (Option.isSome_of_mem found)
    exact absurd inside.2 (Nat.not_lt_zero row)
  obtain ⟨raster, planes, decoded, encoded, -⟩ :=
    recodes 10 emptyGray ⟨10, .monochrome, .bt709⟩ (.inr (.inl rfl)) gray rfl
  cases decoded
  cases encoded

end Strategy

end AvifStill
