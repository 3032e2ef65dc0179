import AvifStill.Proofs.Planes

/-!
# The raster of frames

A strategy that succeeds gives a raster of its own layout and depth and of the size of the colour
frame. The channels of a gray raster are the luma planes of the frames. Reduction to gray and
division by alpha change nothing but colour, and a change of depth leaves the shape as it is.
-/

namespace AvifStill

namespace Pixel

variable {depth : HostDepth}

theorem eta_gray (pixel : Pixel .gray depth) : #v[gray pixel] = pixel := by
  apply Vector.ext
  intro index inside
  have first : index = 0 := Nat.lt_one_iff.mp inside
  subst first
  rfl

theorem eta_grayAlpha (pixel : Pixel .grayAlpha depth) : #v[gray pixel, alpha pixel] = pixel := by
  apply Vector.ext
  intro index inside
  have bound : index < 2 := inside
  have cases : index = 0 ∨ index = 1 := by omega
  rcases cases with rfl | rfl
  · rfl
  · rfl

end Pixel

namespace HostDepth

theorem ofCoded_eq_sixteen_iff {codedDepth : Nat} :
    ofCoded codedDepth = .sixteen ↔ 8 < codedDepth := by
  unfold ofCoded
  split <;> simp_all

theorem ofCoded_eq_eight_iff {codedDepth : Nat} :
    ofCoded codedDepth = .eight ↔ codedDepth ≤ 8 := by
  unfold ofCoded
  split <;> simp_all

theorem val_clamp {depth : HostDepth} {value : Nat} (fits : value ≤ depth.max) :
    (depth.clamp value).val = value :=
  Nat.min_eq_left fits

end HostDepth

namespace Raster

/-- The alpha sample of a visible pixel, for layouts with alpha. -/
def alpha? : Raster → Nat → Nat → Option Nat
  | ⟨.grayAlpha, _, pixels⟩, column, row =>
      (pixels.cell? column row).map fun pixel => (Pixel.alpha pixel).val
  | ⟨.rgba, _, pixels⟩, column, row =>
      (pixels.cell? column row).map fun pixel => (Pixel.alpha pixel).val
  | _, _, _ => none

theorem alpha?_of_opaque {raster : Raster} (isOpaque : raster.hasAlpha = false)
    (column row : Nat) : raster.alpha? column row = none := by
  rcases raster with ⟨layout, depth, pixels⟩
  cases layout with
  | gray => rfl
  | grayAlpha => cases isOpaque
  | rgb => rfl
  | rgba => cases isOpaque

/-- The rasters differ in colour at most. -/
structure IsRecoloringOf (result raster : Raster) : Prop where
  width : result.width = raster.width
  height : result.height = raster.height
  depth : result.depth = raster.depth
  hasAlpha : result.hasAlpha = raster.hasAlpha
  alpha : ∀ column row, result.alpha? column row = raster.alpha? column row

theorem IsRecoloringOf.refl (raster : Raster) : raster.IsRecoloringOf raster :=
  ⟨rfl, rfl, rfl, rfl, fun _ _ => rfl⟩

theorem IsRecoloringOf.trans {last middle first : Raster} (later : last.IsRecoloringOf middle)
    (earlier : middle.IsRecoloringOf first) : last.IsRecoloringOf first where
  width := later.width.trans earlier.width
  height := later.height.trans earlier.height
  depth := later.depth.trans earlier.depth
  hasAlpha := later.hasAlpha.trans earlier.hasAlpha
  alpha column row := (later.alpha column row).trans (earlier.alpha column row)

theorem isRecoloringOf_toGrayscale (raster : Raster) :
    raster.toGrayscale.IsRecoloringOf raster := by
  rcases raster with ⟨layout, depth, pixels⟩
  cases layout with
  | gray => exact .refl _
  | grayAlpha => exact .refl _
  | rgb => exact ⟨rfl, rfl, rfl, rfl, fun _ _ => rfl⟩
  | rgba =>
      refine ⟨rfl, rfl, rfl, rfl, ?_⟩
      intro column row
      have mapped := Grid.cell?_map (fun pixel : Pixel .rgba depth =>
        (#v[depth.lumaSample pixel, Pixel.alpha pixel] : Pixel .grayAlpha depth)) pixels column row
      refine (congrArg (Option.map fun pixel => (Pixel.alpha pixel).val) mapped).trans ?_
      rw [Option.map_map]
      rfl

theorem isGrayscale_toGrayscale (raster : Raster) : raster.toGrayscale.isGrayscale = true := by
  rcases raster with ⟨layout, depth, pixels⟩
  cases layout <;> rfl

/-! A raster that is brought to a depth class keeps its shape. -/

theorem depth_adaptDepth (raster : Raster) (codedDepth : Nat) :
    (raster.adaptDepth codedDepth).depth = .ofCoded codedDepth := by
  simp only [adaptDepth]
  split
  · assumption
  · rfl

theorem adaptDepth_of_depth {raster : Raster} {codedDepth : Nat}
    (same : raster.depth = .ofCoded codedDepth) : raster.adaptDepth codedDepth = raster :=
  if_pos same

theorem layout_adaptDepth (raster : Raster) (codedDepth : Nat) :
    (raster.adaptDepth codedDepth).layout = raster.layout ∧
      (raster.adaptDepth codedDepth).width = raster.width ∧
      (raster.adaptDepth codedDepth).height = raster.height := by
  simp only [adaptDepth]
  split
  · exact ⟨rfl, rfl, rfl⟩
  · exact ⟨rfl, rfl, rfl⟩

/-- Division by alpha leaves the last channel alone. -/
theorem getElem_straightPixel {layout : ChannelLayout} {depth : HostDepth}
    (pixel : Pixel layout depth) {channel : Fin layout.channels}
    (isLast : channel.val + 1 = layout.channels) :
    (straightPixel layout depth pixel)[channel] = pixel[channel] := by
  unfold straightPixel
  split
  · rfl
  split
  · rfl
  · simp [isLast]

theorem isRecoloringOf_unpremultiply (raster : Raster) :
    raster.unpremultiply.IsRecoloringOf raster := by
  cases hasAlpha : raster.hasAlpha with
  | false =>
      rw [unpremultiply_of_isOpaque hasAlpha]
      exact .refl raster
  | true =>
      rw [unpremultiply_of_hasAlpha hasAlpha]
      refine ⟨rfl, rfl, rfl, rfl, ?_⟩
      intro column row
      rcases raster with ⟨layout, depth, pixels⟩
      cases layout with
      | gray => cases hasAlpha
      | rgb => cases hasAlpha
      | grayAlpha =>
          simp only [alpha?, Grid.cell?_map, Option.map_map]
          congr 1
          funext pixel
          exact congrArg Fin.val (getElem_straightPixel pixel (rfl : (1 : Fin 2).val + 1 = 2))
      | rgba =>
          simp only [alpha?, Grid.cell?_map, Option.map_map]
          congr 1
          funext pixel
          exact congrArg Fin.val (getElem_straightPixel pixel (rfl : (3 : Fin 4).val + 1 = 4))

end Raster

/-- What depends on the second of two grids alone is found in the second grid. -/
theorem Grid.map_cell?_zipWith {α β γ δ : Type} [Inhabited α] [Inhabited γ] {function : α → γ → β}
    {left : Grid α} {right : Grid γ} {part : β → δ} {result : γ → δ}
    (sizes : (right.width, right.height) = (left.width, left.height))
    (second : ∀ first second, part (function first second) = result second) (column row : Nat) :
    ((zipWith function left right).cell? column row).map part =
      (right.cell? column row).map result := by
  rw [cell?_zipWith sizes]
  simp only [Prod.mk.injEq] at sizes
  cases found : left.cell? column row with
  | none =>
      have outside := (left.cell?_eq_none_iff column row).mp found
      rw [← sizes.1, ← sizes.2] at outside
      rw [(right.cell?_eq_none_iff column row).mpr outside]
      rfl
  | some first =>
      simp only [Option.bind_some, Option.map_map]
      congr 1
      funext opacity
      exact second first opacity

/-- What depends on the first of two grids alone is found in the first grid. -/
theorem Grid.map_cell?_zipWith_first {α β γ δ : Type} [Inhabited α] [Inhabited γ]
    {function : α → γ → β} {left : Grid α} {right : Grid γ} {part : β → δ} {result : α → δ}
    (sizes : (right.width, right.height) = (left.width, left.height))
    (first : ∀ first second, part (function first second) = result first) (column row : Nat) :
    ((zipWith function left right).cell? column row).map part =
      (left.cell? column row).map result := by
  rw [cell?_zipWith sizes]
  simp only [Prod.mk.injEq] at sizes
  by_cases inside : column < left.width ∧ row < left.height
  · have rightInside : column < right.width ∧ row < right.height := by omega
    simp [left.cell?_eq_some_cell inside.1 inside.2,
      right.cell?_eq_some_cell rightInside.1 rightInside.2, first]
  · rw [(left.cell?_eq_none_iff column row).mpr inside]
    rfl

namespace ChannelLayout

@[simp]
theorem hasAlpha_ofFlags (hasAlpha isGray : Bool) : (ofFlags hasAlpha isGray).hasAlpha = hasAlpha := by
  cases hasAlpha <;> cases isGray <;> rfl

@[simp]
theorem isGray_ofFlags (hasAlpha isGray : Bool) : (ofFlags hasAlpha isGray).isGray = isGray := by
  cases hasAlpha <;> cases isGray <;> rfl

end ChannelLayout

namespace Strategy

variable {depth : HostDepth} {input : DecodeInput}

/-- The colour plane is read from the colour frame in every layout, so its size is kept. -/
theorem size_of_decodePixels {layout : ChannelLayout} {pixels : Grid (Pixel layout depth)}
    (done : decodePixels depth input layout = .ok pixels) :
    pixels.width = input.color.width ∧ pixels.height = input.color.height := by
  have sized {colors : Grid Rgb} (decoded : Yuv.decode input.color input.matrix = .ok colors) :
      colors.width = input.color.width ∧ colors.height = input.color.height := by
    rcases done_of_bind decoded with ⟨checked, -, built⟩
    cases built
    exact ⟨rfl, rfl⟩
  cases layout with
  | gray =>
      cases done
      exact ⟨rfl, rfl⟩
  | grayAlpha =>
      rcases done_of_bind done with ⟨alpha, -, done⟩
      cases done
      exact ⟨rfl, rfl⟩
  | rgb =>
      rcases done_of_bind done with ⟨colors, decoded, done⟩
      cases done
      exact sized decoded
  | rgba =>
      rcases done_of_bind done with ⟨colors, decoded, done⟩
      rcases done_of_bind done with ⟨alpha, -, done⟩
      cases done
      exact sized decoded

theorem of_decode {strategy : Strategy} {raster : Raster}
    (done : strategy.decode input = .ok raster) :
    HostDepth.ofCoded input.color.depth = strategy.depth ∧
      ∃ pixels, decodePixels strategy.depth input strategy.layout = .ok pixels ∧
        raster = ⟨strategy.layout, strategy.depth, pixels⟩ := by
  unfold Strategy.decode at done
  split at done
  · cases done
  rename_i sameDepth
  split at done
  · cases done
  cases found : decodePixels strategy.depth input strategy.layout with
  | error fault =>
      rw [found] at done
      cases done
  | ok pixels =>
      rw [found] at done
      cases done
      exact ⟨Decidable.not_not.mp sameDepth, pixels, rfl, rfl⟩

theorem alphaPlane_iff {plane : Grid depth.Sample} :
    alphaPlane depth input = .ok plane ↔ ∃ alpha, input.alpha = some alpha ∧
      (alpha.width, alpha.height) = (input.color.width, input.color.height) ∧
      plane = hostPlane depth alpha := by
  unfold alphaPlane
  constructor
  · intro done
    split at done
    · cases done
    · rename_i alpha isAlpha
      split at done
      · rename_i size
        cases done
        exact ⟨alpha, isAlpha, size, rfl⟩
      · cases done
  · rintro ⟨alpha, isAlpha, size, rfl⟩
    simp only [isAlpha, size, if_true]

theorem decode_of_pixels {strategy : Strategy}
    {pixels : Grid (Pixel strategy.layout strategy.depth)}
    (sameDepth : HostDepth.ofCoded input.color.depth = strategy.depth)
    (hasAlpha : input.alpha.isSome = strategy.layout.hasAlpha)
    (done : decodePixels strategy.depth input strategy.layout = .ok pixels) :
    strategy.decode input = .ok ⟨strategy.layout, strategy.depth, pixels⟩ := by
  have notMissing : ¬(strategy.layout.hasAlpha = true ∧ input.alpha.isNone = true) := by
    rintro ⟨has, isNone⟩
    rw [Option.isNone_iff_eq_none.mp isNone, has] at hasAlpha
    cases hasAlpha
  rw [Strategy.decode, if_neg (not_not_intro sameDepth), if_neg notMissing, done]
  rfl

/--
A strategy succeeds on frames of one size, if there is an alpha frame where it needs one. Only the
chroma planes have to be valid, and that for colour.
-/
theorem exists_decode {strategy : Strategy}
    (sameDepth : HostDepth.ofCoded input.color.depth = strategy.depth)
    (valid : strategy.layout.isGray = false → input.color.validate = .ok ())
    (hasAlpha : input.alpha.isSome = strategy.layout.hasAlpha)
    (size : ∀ alpha, input.alpha = some alpha →
      (alpha.width, alpha.height) = (input.color.width, input.color.height)) :
    ∃ raster, strategy.decode input = .ok raster := by
  rcases strategy with ⟨layout, depth⟩
  have colors (isColor : layout.isGray = false) :
      ∃ colors, Yuv.decode input.color input.matrix = .ok colors :=
    ⟨_, bind_of_done (valid isColor)⟩
  have alpha (has : layout.hasAlpha = true) : ∃ plane, alphaPlane depth input = .ok plane := by
    rcases Option.isSome_iff_exists.mp (hasAlpha.trans has) with ⟨alpha, isAlpha⟩
    exact ⟨_, alphaPlane_iff.mpr ⟨alpha, isAlpha, size alpha isAlpha, rfl⟩⟩
  have pixels : ∃ pixels, decodePixels depth input layout = .ok pixels := by
    cases layout with
    | gray => exact ⟨_, rfl⟩
    | grayAlpha =>
        rcases alpha rfl with ⟨plane, isPlane⟩
        exact ⟨_, bind_of_done isPlane⟩
    | rgb =>
        rcases colors rfl with ⟨colors, isColors⟩
        exact ⟨_, bind_of_done isColors⟩
    | rgba =>
        rcases colors rfl with ⟨colors, isColors⟩
        rcases alpha rfl with ⟨plane, isPlane⟩
        exact ⟨_, (bind_of_done isColors).trans (bind_of_done isPlane)⟩
  rcases pixels with ⟨pixels, done⟩
  exact ⟨_, decode_of_pixels sameDepth hasAlpha done⟩

/-! The channels of a gray raster are the luma planes of the frames. -/

theorem gray_of_decodePixels {pixels : Grid (Pixel .gray depth)}
    (done : decodePixels depth input .gray = .ok pixels) (column row : Nat) :
    (pixels.cell? column row).map (fun pixel => Pixel.gray pixel) =
      (hostPlane depth input.color).cell? column row := by
  cases done
  have mapped := (hostPlane depth input.color).cell?_map
    (fun value => (#v[value] : Pixel .gray depth)) column row
  refine (congrArg (Option.map _) mapped).trans ?_
  rw [Option.map_map]
  exact Option.map_id' ..

theorem grayAlpha_of_decodePixels {pixels : Grid (Pixel .grayAlpha depth)} {alpha : Frame}
    (done : decodePixels depth input .grayAlpha = .ok pixels) (isAlpha : input.alpha = some alpha)
    (column row : Nat) :
    (pixels.cell? column row).map (fun pixel => Pixel.gray pixel) =
        (hostPlane depth input.color).cell? column row ∧
      (pixels.cell? column row).map (fun pixel => Pixel.alpha pixel) =
        (hostPlane depth alpha).cell? column row := by
  rcases done_of_bind done with ⟨plane, isPlane, done⟩
  rcases alphaPlane_iff.mp isPlane with ⟨found, isFound, size, rfl⟩
  cases isFound.symm.trans isAlpha
  cases done
  have sizes : ((hostPlane depth alpha).width, (hostPlane depth alpha).height) =
      ((hostPlane depth input.color).width, (hostPlane depth input.color).height) := size
  constructor
  · refine (Grid.map_cell?_zipWith_first sizes ?_ column row).trans (Option.map_id' ..)
    exact fun _ _ => rfl
  · refine (Grid.map_cell?_zipWith sizes ?_ column row).trans (Option.map_id' ..)
    exact fun _ _ => rfl

theorem exists_alpha_of_decode {strategy : Strategy} {raster : Raster}
    (done : strategy.decode input = .ok raster) (hasAlpha : strategy.layout.hasAlpha = true) :
    ∃ alpha, input.alpha = some alpha := by
  cases isAlpha : input.alpha with
  | some alpha => exact ⟨alpha, rfl⟩
  | none =>
      have missing : strategy.layout.hasAlpha = true ∧ input.alpha.isNone = true :=
        ⟨hasAlpha, by rw [isAlpha, Option.isNone_none]⟩
      rw [Strategy.decode, if_pos missing] at done
      split at done <;> cases done

theorem alpha?_of_decode {strategy : Strategy} {raster : Raster} {alpha : Frame}
    (done : strategy.decode input = .ok raster) (isAlpha : input.alpha = some alpha)
    (hasAlpha : strategy.layout.hasAlpha = true) (column row : Nat) :
    raster.alpha? column row =
      ((hostPlane strategy.depth alpha).cell? column row).map Fin.val := by
  rcases of_decode done with ⟨-, pixels, found, rfl⟩
  rcases strategy with ⟨layout, depth⟩
  cases layout with
  | gray => cases hasAlpha
  | rgb => cases hasAlpha
  | grayAlpha =>
      have shown := (grayAlpha_of_decodePixels found isAlpha column row).2
      exact (Option.map_map ..).symm.trans (congrArg (Option.map Fin.val) shown)
  | rgba =>
      rcases done_of_bind found with ⟨colors, isColors, found⟩
      rcases done_of_bind found with ⟨plane, isPlane, found⟩
      rcases alphaPlane_iff.mp isPlane with ⟨other, isOther, size, rfl⟩
      rcases done_of_bind isColors with ⟨checked, -, built⟩
      cases built
      cases found
      cases isOther.symm.trans isAlpha
      refine Grid.map_cell?_zipWith ?_ ?_ column row
      · exact size
      · intro color opacity
        exact congrArg Fin.val (Vector.getElem_push_last ..)

/-- A strategy for rasters with alpha only takes alpha frames of the size of the colour frame. -/
theorem alphaSize_of_decode {strategy : Strategy} {raster : Raster}
    (done : strategy.decode input = .ok raster) (hasAlpha : strategy.layout.hasAlpha = true)
    {alpha : Frame} (isAlpha : input.alpha = some alpha) :
    (alpha.width, alpha.height) = (input.color.width, input.color.height) := by
  have sized {plane : Grid strategy.depth.Sample}
      (isPlane : alphaPlane strategy.depth input = .ok plane) :
      (alpha.width, alpha.height) = (input.color.width, input.color.height) := by
    rcases alphaPlane_iff.mp isPlane with ⟨other, isOther, size, -⟩
    cases isOther.symm.trans isAlpha
    exact size
  rcases of_decode done with ⟨-, pixels, found, -⟩
  rcases strategy with ⟨layout, depth⟩
  cases layout with
  | gray => cases hasAlpha
  | rgb => cases hasAlpha
  | grayAlpha =>
      rcases done_of_bind found with ⟨plane, isPlane, -⟩
      exact sized isPlane
  | rgba =>
      rcases done_of_bind found with ⟨colors, -, found⟩
      rcases done_of_bind found with ⟨plane, isPlane, -⟩
      exact sized isPlane

theorem cell?_of_decodePixels_gray {pixels decoded : Grid (Pixel .gray depth)}
    (done : decodePixels depth input .gray = .ok decoded) {column row : Nat}
    (gray : (hostPlane depth input.color).cell? column row =
      (pixels.cell? column row).map fun pixel => Pixel.gray pixel) :
    decoded.cell? column row = pixels.cell? column row := by
  cases done
  have mapped := (hostPlane depth input.color).cell?_map
    (fun value => (#v[value] : Pixel .gray depth)) column row
  refine (mapped.trans (congrArg (Option.map _) gray)).trans ?_
  cases pixels.cell? column row with
  | none => rfl
  | some pixel => exact congrArg some (Pixel.eta_gray pixel)

theorem cell?_of_decodePixels_grayAlpha {pixels decoded : Grid (Pixel .grayAlpha depth)}
    {alpha : Frame} (done : decodePixels depth input .grayAlpha = .ok decoded)
    (isAlpha : input.alpha = some alpha) {column row : Nat}
    (gray : (hostPlane depth input.color).cell? column row =
      (pixels.cell? column row).map fun pixel => Pixel.gray pixel)
    (opacity : (hostPlane depth alpha).cell? column row =
      (pixels.cell? column row).map fun pixel => Pixel.alpha pixel) :
    decoded.cell? column row = pixels.cell? column row := by
  rcases done_of_bind done with ⟨plane, isPlane, done⟩
  rcases alphaPlane_iff.mp isPlane with ⟨found, isFound, size, rfl⟩
  cases isFound.symm.trans isAlpha
  cases done
  have zipped := @Grid.cell?_zipWith _ _ _ _ _
    (fun value opacity => (#v[value, opacity] : Pixel .grayAlpha depth))
    (hostPlane depth input.color) (hostPlane depth alpha) size column row
  rw [gray, opacity] at zipped
  refine zipped.trans ?_
  cases pixels.cell? column row with
  | none => rfl
  | some pixel => exact congrArg some (Pixel.eta_grayAlpha pixel)

section Eight

theorem cell?_hostPlane_planeOf {layout : ChannelLayout} (pixels : Grid (Pixel layout .eight))
    (channel : Pixel layout .eight → HostDepth.eight.Sample) (column row : Nat) :
    (hostPlane .eight (planeOf pixels 8 channel)).cell? column row =
      (pixels.cell? column row).map channel := by
  have sample (value : HostDepth.eight.Sample) :
      HostDepth.eight.ofCodedSample (SampleRange.full.expand 8 (UInt16.ofNat value.val).toNat) 8 =
        value := by
    have small : value.val < 256 := value.isLt
    have kept : (UInt16.ofNat value.val).toNat = value.val := by
      rw [UInt16.toNat_ofNat']
      exact Nat.mod_eq_of_lt (by omega)
    apply Fin.ext
    simp only [HostDepth.ofCodedSample, SampleRange.expand, HostDepth.clamp, kept, HostDepth.max]
    omega
  have coded := pixels.cell?_map (fun pixel => HostDepth.eight.toCodedSample (channel pixel) 8)
    column row
  have host := Grid.cell?_map (fun value : UInt16 =>
    HostDepth.eight.ofCodedSample (SampleRange.full.expand 8 value.toNat) 8)
    (planeOf pixels 8 channel).luma column row
  refine host.trans ((congrArg (Option.map _) coded).trans ?_)
  rw [Option.map_map]
  congr 1
  funext pixel
  exact sample (channel pixel)

theorem alpha?_of_encodePixels {raster : Raster} (eight : raster.depth = .eight)
    {target : EncodeTarget} (coded : target.depth = 8) {planes : EncodedPlanes}
    (made : encodePixels target raster.depth raster.layout raster.pixels = .ok planes)
    {alpha : Frame} (isAlpha : planes.alpha = some alpha) (column row : Nat) :
    ((hostPlane .eight alpha).cell? column row).map Fin.val = raster.alpha? column row := by
  rcases raster with ⟨layout, depth, pixels⟩
  cases eight
  cases layout with
  | gray =>
      rcases of_encodePixels_gray made with ⟨-, rfl⟩
      cases isAlpha
  | grayAlpha =>
      rcases of_encodePixels_grayAlpha made with ⟨-, rfl⟩
      cases isAlpha
      rw [coded]
      have plane := cell?_hostPlane_planeOf pixels
        (fun pixel : Pixel .grayAlpha .eight => Pixel.alpha pixel) column row
      exact (congrArg (Option.map Fin.val) plane).trans (Option.map_map ..)
  | rgb =>
      rcases of_encodePixels_rgb made with ⟨-, -, noAlpha⟩
      cases noAlpha.symm.trans isAlpha
  | rgba =>
      rcases of_encodePixels_rgba made with ⟨-, -, hasAlpha⟩
      cases hasAlpha.symm.trans isAlpha
      rw [coded]
      have plane := cell?_hostPlane_planeOf pixels
        (fun pixel : Pixel .rgba .eight => Pixel.alpha pixel) column row
      exact (congrArg (Option.map Fin.val) plane).trans (Option.map_map ..)

theorem samples?_of_decodePixels {raster : Raster} (eight : raster.depth = .eight)
    (isGray : raster.isGrayscale = true) {target : EncodeTarget} (coded : target.depth = 8)
    {planes : EncodedPlanes}
    (made : encodePixels target raster.depth raster.layout raster.pixels = .ok planes)
    (color : hostPlane .eight input.color = hostPlane .eight planes.color)
    (alpha : input.alpha.map (hostPlane .eight) = planes.alpha.map (hostPlane .eight))
    {pixels : Grid (Pixel raster.layout .eight)}
    (done : decodePixels .eight input raster.layout = .ok pixels) (column row : Nat) :
    (⟨raster.layout, .eight, pixels⟩ : Raster).samples? column row =
      raster.samples? column row := by
  rcases raster with ⟨layout, depth, original⟩
  cases eight
  cases layout with
  | gray =>
      rcases of_encodePixels_gray made with ⟨-, rfl⟩
      rw [coded] at color
      have plane := cell?_hostPlane_planeOf original
        (fun pixel : Pixel .gray .eight => Pixel.gray pixel) column row
      have gray := (congrArg (Grid.cell? · column row) color).trans plane
      exact congrArg (Option.map _) (cell?_of_decodePixels_gray done gray)
  | grayAlpha =>
      rcases of_encodePixels_grayAlpha made with ⟨-, rfl⟩
      rw [coded] at color alpha
      rcases Option.map_eq_some_iff.mp alpha with ⟨found, isFound, same⟩
      have grayPlane := cell?_hostPlane_planeOf original
        (fun pixel : Pixel .grayAlpha .eight => Pixel.gray pixel) column row
      have alphaPlane := cell?_hostPlane_planeOf original
        (fun pixel : Pixel .grayAlpha .eight => Pixel.alpha pixel) column row
      have gray := (congrArg (Grid.cell? · column row) color).trans grayPlane
      have opacity := (congrArg (Grid.cell? · column row) same).trans alphaPlane
      exact congrArg (Option.map _) (cell?_of_decodePixels_grayAlpha done isFound gray opacity)
  | rgb => cases isGray
  | rgba => cases isGray

end Eight

end Strategy

end AvifStill
