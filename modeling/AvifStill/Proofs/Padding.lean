import AvifStill.Proofs.Dihedral
import AvifStill.Proofs.PlaneReads
import AvifStill.Proofs.Transcode

/-!
# Padding

Two images whose visible samples agree may be stored with rows of different lengths and with
anything past the end of each row. What is made of them is the same in all steps but one: grids that
are gone through cell by cell give equal grids, and steps that address cells by column and row stay
inside. The interpolation of chroma alone may read outside a plane. Padding then shows in the colours,
and in nothing else.
-/

namespace AvifStill

/-! ## Grids -/

/-- The grids differ in padding at most. -/
structure Grid.SameCells {α : Type} (first second : Grid α) : Prop where
  width : first.width = second.width
  height : first.height = second.height
  cells : ∀ column row, first.cell? column row = second.cell? column row

namespace Grid.SameCells

variable {α β γ : Type} [Inhabited α] [Inhabited β] {first second : Grid α}

theorem cell (same : first.SameCells second) : first.cell = second.cell := by
  funext column row
  exact congrArg (Option.getD · default) (same.cells column row)

/-- Nothing of the padding is left in a grid that is built from the cells of another. -/
theorem map (same : first.SameCells second) (function : α → γ) :
    first.map function = second.map function := by
  simp only [Grid.map, same.width, same.height, same.cell]

end Grid.SameCells

/-! ## Rasters -/

namespace Raster

/-- Rasters with one picture have pixels of one type that differ in padding at most. -/
theorem exists_of_samePicture {first second : Raster} (same : first.SamePicture second) :
    ∃ layout depth, ∃ pixels others : Grid (Pixel layout depth),
      first = ⟨layout, depth, pixels⟩ ∧ second = ⟨layout, depth, others⟩ ∧
        pixels.SameCells others := by
  rcases first with ⟨layout, depth, pixels⟩
  rcases second with ⟨otherLayout, otherDepth, others⟩
  cases same.layout
  cases same.depth
  refine ⟨layout, depth, pixels, others, rfl, rfl, same.width, same.height, ?_⟩
  intro column row
  apply Option.map_injective _ (same.pixels column row)
  intro pixel other equal
  exact Vector.toList_inj.mp (List.map_injective_iff.mpr Fin.val_injective equal)

theorem samePicture_of_sameCells {layout : ChannelLayout} {depth : HostDepth}
    {pixels others : Grid (Pixel layout depth)} (same : pixels.SameCells others) :
    (⟨layout, depth, pixels⟩ : Raster).SamePicture ⟨layout, depth, others⟩ :=
  ⟨rfl, rfl, Prod.ext same.width same.height, fun column row =>
    congrArg (Option.map _) (same.cells column row)⟩

namespace SamePicture

variable {first second : Raster}

/-- A crop that lies inside the image addresses visible pixels alone. -/
theorem crop (same : first.SamePicture second) {rect : CropRect}
    (inWidth : rect.x + rect.width ≤ first.width) (inHeight : rect.y + rect.height ≤ first.height) :
    (first.crop rect).SamePicture (second.crop rect) := by
  have copy {raster : Raster} (width : rect.x + rect.width ≤ raster.width)
      (height : rect.y + rect.height ≤ raster.height) :
      (raster.crop rect).IsCopyOf raster fun column row => (column + rect.x, row + rect.y) := by
    apply isCopyOf_remap
    intro column inside row below
    exact ⟨by omega, by omega⟩
  have original := (copy inWidth inHeight).of_samePicture same
  rw [same.width] at inWidth
  rw [same.height] at inHeight
  exact original.samePicture (copy inWidth inHeight) rfl fun _ _ _ _ => rfl

theorem apply (same : first.SamePicture second) (transforms : Transforms) :
    (transforms.apply first).1.SamePicture (transforms.apply second).1 ∧
      (transforms.apply first).2 = (transforms.apply second).2 := by
  have sameRect : transforms.cropRect? first.width first.height =
      transforms.cropRect? second.width second.height := by
    rw [same.width, same.height]
  have cropped : ((transforms.cropRect? first.width first.height).elim first first.crop).SamePicture
      ((transforms.cropRect? second.width second.height).elim second second.crop) := by
    rw [← sameRect]
    cases found : transforms.cropRect? first.width first.height with
    | none => exact same
    | some rect =>
        have inside := Transforms.cropRect?_inside found
        exact same.crop inside.2.2.1 inside.2.2.2
  refine ⟨?_, sameRect⟩
  unfold Transforms.apply
  dsimp only
  generalize (transforms.cropRect? first.width first.height).elim first first.crop = one
    at cropped ⊢
  generalize (transforms.cropRect? second.width second.height).elim second second.crop = other
    at cropped ⊢
  cases transforms.rotation with
  | none =>
      cases transforms.mirror with
      | none => exact cropped
      | some axis => exact cropped.mirror axis
  | some turns =>
      cases transforms.mirror with
      | none => exact cropped.rotate turns
      | some axis => exact (cropped.rotate turns).mirror axis

theorem adaptDepth (same : first.SamePicture second) (codedDepth : ℕ) :
    (first.adaptDepth codedDepth).SamePicture (second.adaptDepth codedDepth) := by
  obtain ⟨layout, depth, pixels, others, rfl, rfl, cells⟩ := exists_of_samePicture same
  simp only [Raster.adaptDepth]
  split
  · exact same
  · rw [cells.map]
    exact .refl _

theorem toGrayscale (same : first.SamePicture second) :
    first.toGrayscale.SamePicture second.toGrayscale := by
  obtain ⟨layout, depth, pixels, others, rfl, rfl, cells⟩ := exists_of_samePicture same
  cases layout with
  | gray => exact same
  | grayAlpha => exact same
  | rgb => exact samePicture_of_sameCells (cells.map _ ▸ ⟨rfl, rfl, fun _ _ => rfl⟩)
  | rgba => exact samePicture_of_sameCells (cells.map _ ▸ ⟨rfl, rfl, fun _ _ => rfl⟩)

/-- A raster goes into frames by its visible pixels. -/
theorem encode (same : first.SamePicture second) (strategy : Strategy) (target : EncodeTarget) :
    strategy.encode first target = strategy.encode second target := by
  obtain ⟨layout, depth, pixels, others, rfl, rfl, cells⟩ := exists_of_samePicture same
  have frames : Strategy.encodePixels target depth layout pixels =
      Strategy.encodePixels target depth layout others := by
    cases layout <;>
      simp only [Strategy.encodePixels, Strategy.channelFrame, Strategy.colorFrame, cells.width,
        cells.height, cells.cell]
  simp only [Strategy.encode, frames]

end SamePicture

/-- Nothing that is made of the rasters tells them apart. -/
structure LooksLike (first second : Raster) : Prop where
  crop : ∀ rect : CropRect, rect.x + rect.width ≤ first.width →
    rect.y + rect.height ≤ first.height → (first.crop rect).SamePicture (second.crop rect)
  rotate : ∀ turns, (first.rotate turns).SamePicture (second.rotate turns)
  mirror : ∀ axis, (first.mirror axis).SamePicture (second.mirror axis)
  apply : ∀ transforms : Transforms,
    (transforms.apply first).1.SamePicture (transforms.apply second).1 ∧
      (transforms.apply first).2 = (transforms.apply second).2
  adaptDepth : ∀ codedDepth,
    (first.adaptDepth codedDepth).SamePicture (second.adaptDepth codedDepth)
  toGrayscale : first.toGrayscale.SamePicture second.toGrayscale
  encode : ∀ (strategy : Strategy) target,
    strategy.encode first target = strategy.encode second target

theorem SamePicture.looksLike {first second : Raster} (same : first.SamePicture second) :
    first.LooksLike second where
  crop _ := same.crop
  rotate := same.rotate
  mirror := same.mirror
  apply := same.apply
  adaptDepth := same.adaptDepth
  toGrayscale := same.toGrayscale
  encode := same.encode

end Raster

/-! ## Frames -/

/-- The frames differ in the padding of their planes at most. -/
structure Frame.SamePicture (first second : Frame) : Prop where
  depth : first.depth = second.depth
  format : first.format = second.format
  range : first.range = second.range
  cicp : first.cicp = second.cicp
  luma : first.luma.SameCells second.luma
  cb : Option.Rel Grid.SameCells first.cb second.cb
  cr : Option.Rel Grid.SameCells first.cr second.cr

namespace Frame.SamePicture

variable {first second : Frame}

theorem width (same : first.SamePicture second) : first.width = second.width :=
  same.luma.width

theorem height (same : first.SamePicture second) : first.height = second.height :=
  same.luma.height

theorem validate (same : first.SamePicture second) : first.validate = second.validate := by
  have chroma {plane other : Option Plane} (planes : Option.Rel Grid.SameCells plane other)
      (expected : ℕ × ℕ) : checkChroma expected plane = checkChroma expected other := by
    cases planes with
    | none => rfl
    | some cells => simp only [checkChroma, cells.width, cells.height]
  simp only [Frame.validate, same.depth, same.format, same.width, same.height, chroma same.cb,
    chroma same.cr]

theorem hostPlane (same : first.SamePicture second) (depth : HostDepth) :
    Strategy.hostPlane depth first = Strategy.hostPlane depth second := by
  simp only [Strategy.hostPlane, same.depth, same.range, same.luma.map]

end Frame.SamePicture

namespace Yuv

/-- The cautious conversion never meets padding. -/
theorem chromaAt?_congr {cb cr otherCb otherCr : Plane} (sameCb : cb.SameCells otherCb)
    (sameCr : cr.SameCells otherCr) (format : ChromaFormat) (column row : ℕ) :
    chromaAt? cb cr format column row = chromaAt? otherCb otherCr format column row := by
  simp only [chromaAt?, bilinear?, sameCb.width, sameCb.height, sameCb.cells, sameCr.cells]

theorem colorAt?_congr {first second : Frame} (same : first.SamePicture second)
    (matrix : Color.YuvMatrix) (column row : ℕ) :
    colorAt? first matrix column row = colorAt? second matrix column row := by
  rcases first with ⟨depth, format, range, cicp, luma, cb, cr⟩
  rcases second with ⟨otherDepth, otherFormat, otherRange, otherCicp, otherLuma, otherCb, otherCr⟩
  obtain ⟨rfl, rfl, rfl, rfl, sameLuma, sameCb, sameCr⟩ := same
  cases sameCb with
  | none => simp only [colorAt?, sameLuma.cells]
  | some sameCb =>
      cases sameCr with
      | none => simp only [colorAt?, sameLuma.cells]
      | some sameCr => simp only [colorAt?, sameLuma.cells, chromaAt?_congr sameCb sameCr]

/-- Where all reads are inside the planes, the conversion agrees with its cautious copy. -/
theorem picture_congr {first second : Frame} (same : first.SamePicture second)
    (covered : IsCovered first) (matrix : Color.YuvMatrix) :
    picture first matrix = picture second matrix := by
  have cautious : picture? first matrix = picture? second matrix := by
    have content : colorAt? first matrix = colorAt? second matrix := by
      funext column row
      exact colorAt?_congr same matrix column row
    simp only [picture?, content, same.width, same.height]
  rw [picture?_of_isCovered matrix covered] at cautious
  -- Cautious copies give up for both frames or for neither, so the other one is covered too.
  by_cases otherCovered : IsCovered second
  · rw [picture?_of_isCovered matrix otherCovered] at cautious
    exact Option.some.inj cautious
  · rw [picture?_of_not_isCovered matrix otherCovered] at cautious
    cases cautious

theorem decode_congr {first second : Frame} (same : first.SamePicture second)
    (covered : first.validate = .ok () → IsCovered first) (matrix : Color.YuvMatrix) :
    decode first matrix = decode second matrix := by
  cases checked : first.validate with
  | error fault =>
      have otherChecked := same.validate.symm.trans checked
      exact (bind_of_failed checked).trans (bind_of_failed otherChecked).symm
  | ok done =>
      have otherChecked := same.validate.symm.trans checked
      rw [decode_of_valid matrix checked, decode_of_valid matrix otherChecked,
        picture_congr same (covered checked)]

end Yuv

namespace DecodeInput

/-- The frames of the images differ in the padding of their planes at most. -/
structure SamePictures (first second : DecodeInput) : Prop where
  color : first.color.SamePicture second.color
  alpha : Option.Rel Frame.SamePicture first.alpha second.alpha
  matrix : first.matrix = second.matrix

variable {first second : DecodeInput}

theorem SamePictures.alphaPlane (same : first.SamePictures second) (depth : HostDepth) :
    Strategy.alphaPlane depth first = Strategy.alphaPlane depth second := by
  rcases first with ⟨color, alpha, matrix⟩
  rcases second with ⟨otherColor, otherAlpha, otherMatrix⟩
  obtain ⟨(sameColor : color.SamePicture otherColor), sameAlpha, -⟩ := same
  cases sameAlpha with
  | none => rfl
  | some sameAlpha =>
      simp only [Strategy.alphaPlane, sameColor.width, sameColor.height, sameAlpha.width,
        sameAlpha.height, sameAlpha.hostPlane]

theorem SamePictures.isNone_alpha (same : first.SamePictures second) :
    first.alpha.isNone = second.alpha.isNone :=
  match first.alpha, second.alpha, same.alpha with
  | _, _, .none => rfl
  | _, _, .some _ => rfl

/-- A strategy gives one raster for both, if colour is not read outside its planes. -/
theorem SamePictures.decode (same : first.SamePictures second) {strategy : Strategy}
    (colors : strategy.layout.isGray = false →
      Yuv.decode first.color first.matrix = Yuv.decode second.color second.matrix) :
    strategy.decode first = strategy.decode second := by
  rcases strategy with ⟨layout, depth⟩
  have gray := same.color.hostPlane depth
  have alpha := same.alphaPlane depth
  have pixels : Strategy.decodePixels depth first layout =
      Strategy.decodePixels depth second layout := by
    cases layout with
    | gray => simp only [Strategy.decodePixels, gray]
    | grayAlpha => simp only [Strategy.decodePixels, gray, alpha]
    | rgb => simp only [Strategy.decodePixels, colors rfl]
    | rgba => simp only [Strategy.decodePixels, colors rfl, alpha]
  simp only [Strategy.decode, same.color.depth, pixels, same.isNone_alpha]

/-- Whether there are pixels, and if not why, is known without reading chroma. -/
theorem SamePictures.decodePixels (same : first.SamePictures second) (depth : HostDepth)
    (layout : ChannelLayout) :
    (∃ fault, Strategy.decodePixels depth first layout = .error fault ∧
      Strategy.decodePixels depth second layout = .error fault) ∨
    ∃ pixels others, Strategy.decodePixels depth first layout = .ok pixels ∧
      Strategy.decodePixels depth second layout = .ok others := by
  cases layout with
  | gray => exact .inr ⟨_, _, rfl, rfl⟩
  | grayAlpha =>
      simp only [Strategy.decodePixels, ← same.alphaPlane]
      cases Strategy.alphaPlane depth first with
      | error fault => exact .inl ⟨fault, rfl, rfl⟩
      | ok plane => exact .inr ⟨_, _, rfl, rfl⟩
  | rgb =>
      simp only [Strategy.decodePixels, Yuv.decode, ← same.color.validate]
      cases first.color.validate with
      | error fault => exact .inl ⟨fault, rfl, rfl⟩
      | ok done => exact .inr ⟨_, _, rfl, rfl⟩
  | rgba =>
      simp only [Strategy.decodePixels, Yuv.decode, ← same.color.validate, ← same.alphaPlane]
      cases first.color.validate with
      | error fault => exact .inl ⟨fault, rfl, rfl⟩
      | ok done =>
          cases Strategy.alphaPlane depth first with
          | error fault => exact .inl ⟨fault, rfl, rfl⟩
          | ok plane => exact .inr ⟨_, _, rfl, rfl⟩

/-- Rasters of both have one shape and one alpha channel, whatever was read for their colour. -/
theorem SamePictures.isRecoloringOf (same : first.SamePictures second) {strategy : Strategy}
    {raster other : Raster} (done : strategy.decode first = .ok raster)
    (otherDone : strategy.decode second = .ok other) : raster.IsRecoloringOf other := by
  have alpha (column row : ℕ) : raster.alpha? column row = other.alpha? column row := by
    cases hasAlpha : strategy.layout.hasAlpha with
    | false =>
        obtain ⟨-, pixels, -, rfl⟩ := Strategy.of_decode done
        obtain ⟨-, others, -, rfl⟩ := Strategy.of_decode otherDone
        have isOpaque (pixels : Grid (Pixel strategy.layout strategy.depth)) :
            (⟨strategy.layout, strategy.depth, pixels⟩ : Raster).hasAlpha = false := hasAlpha
        rw [Raster.alpha?_of_opaque (isOpaque pixels), Raster.alpha?_of_opaque (isOpaque others)]
    | true =>
        obtain ⟨alpha, isAlpha⟩ := Strategy.exists_alpha_of_decode done hasAlpha
        obtain ⟨otherAlpha, isOther⟩ := Strategy.exists_alpha_of_decode otherDone hasAlpha
        have sameAlpha := same.alpha
        rw [isAlpha, isOther] at sameAlpha
        cases sameAlpha with
        | some sameAlpha =>
            rw [Strategy.alpha?_of_decode done isAlpha hasAlpha,
              Strategy.alpha?_of_decode otherDone isOther hasAlpha, sameAlpha.hostPlane]
  obtain ⟨-, pixels, found, rfl⟩ := Strategy.of_decode done
  obtain ⟨-, others, otherFound, rfl⟩ := Strategy.of_decode otherDone
  have size := Strategy.size_of_decodePixels found
  have otherSize := Strategy.size_of_decodePixels otherFound
  exact {
    width := size.1.trans (same.color.width.trans otherSize.1.symm)
    height := size.2.trans (same.color.height.trans otherSize.2.symm)
    depth := rfl
    hasAlpha := rfl
    alpha := alpha }

/-- Decoding tells the images apart only where chroma is read outside its planes. -/
structure LooksLike (first second : DecodeInput) : Prop where
  gray : ∀ strategy : Strategy, strategy.layout.isGray = true →
    strategy.decode first = strategy.decode second
  covered : Yuv.IsCovered first.color → ∀ strategy : Strategy,
    strategy.decode first = strategy.decode second
  color : first.color.format ≠ .monochrome → first.color.width ≤ 2 ^ 25 →
    first.color.height ≤ 2 ^ 25 → ∀ strategy : Strategy,
      strategy.decode first = strategy.decode second
  /-- Chroma of a monochrome frame is read inside if there is none or if it is as large as luma. -/
  monochrome : first.color.format = .monochrome →
    (∀ cb cr, first.color.cb = some cb → first.color.cr = some cr →
      (first.color.width ≤ cb.width ∧ first.color.height ≤ cb.height) ∧
        first.color.width ≤ cr.width ∧ first.color.height ≤ cr.height) →
    ∀ strategy : Strategy, strategy.decode first = strategy.decode second
  /-- Elsewhere both fail alike or give rasters that differ in colour at most. -/
  recolored : ∀ strategy : Strategy,
    (∃ fault, strategy.decode first = .error fault ∧ strategy.decode second = .error fault) ∨
    ∃ raster other, strategy.decode first = .ok raster ∧ strategy.decode second = .ok other ∧
      raster.layout = other.layout ∧ raster.IsRecoloringOf other

theorem SamePictures.recolored (same : first.SamePictures second) (strategy : Strategy) :
    (∃ fault, strategy.decode first = .error fault ∧ strategy.decode second = .error fault) ∨
    ∃ raster other, strategy.decode first = .ok raster ∧ strategy.decode second = .ok other ∧
      raster.layout = other.layout ∧ raster.IsRecoloringOf other := by
  have agree : (strategy.decode first).map (fun _ => ()) =
      (strategy.decode second).map fun _ => () := by
    simp only [Strategy.decode, same.color.depth, same.isNone_alpha]
    split
    · rfl
    split
    · rfl
    rcases same.decodePixels strategy.depth strategy.layout with
      ⟨fault, failed, otherFailed⟩ | ⟨pixels, others, done, otherDone⟩
    · rw [failed, otherFailed]
    · rw [done, otherDone]
      rfl
  cases done : strategy.decode first with
  | error fault =>
      cases otherDone : strategy.decode second with
      | error otherFault =>
          rw [done, otherDone] at agree
          cases agree
          exact .inl ⟨fault, rfl, rfl⟩
      | ok other =>
          rw [done, otherDone] at agree
          cases agree
  | ok raster =>
      cases otherDone : strategy.decode second with
      | error otherFault =>
          rw [done, otherDone] at agree
          cases agree
      | ok other =>
          have layout : raster.layout = other.layout := by
            obtain ⟨-, pixels, -, rfl⟩ := Strategy.of_decode done
            obtain ⟨-, others, -, rfl⟩ := Strategy.of_decode otherDone
            rfl
          exact .inr ⟨raster, other, rfl, rfl, layout, same.isRecoloringOf done otherDone⟩

theorem SamePictures.looksLike (same : first.SamePictures second) : first.LooksLike second := by
  have colors (covered : first.color.validate = .ok () → Yuv.IsCovered first.color)
      (strategy : Strategy) : strategy.decode first = strategy.decode second := by
    apply same.decode
    intro _
    rw [← same.matrix]
    exact Yuv.decode_congr same.color covered first.matrix
  refine ⟨?_, fun covered => colors fun _ => covered, ?_, ?_, same.recolored⟩
  · intro strategy isGray
    apply same.decode
    intro isColor
    rw [isGray] at isColor
    cases isColor
  · intro isColor narrow low
    apply colors
    intro valid
    have notMonochrome : first.color.format.isMonochrome = false := by
      cases format : first.color.format <;> simp_all [ChromaFormat.isMonochrome]
    exact Yuv.isCovered_of_color valid notMonochrome narrow low
  · intro isMonochrome large
    have covered := (Yuv.isCovered_monochrome_iff isMonochrome).mpr fun cb cr hasCb hasCr =>
      .inr (.inr (large cb cr hasCb hasCr))
    exact colors fun _ => covered

end DecodeInput

/-- Padding shows in nothing but the colours of frames whose chroma is read outside its planes. -/
theorem looksLike_of_samePicture (raster other : Raster) (first second : DecodeInput) :
    (raster.SamePicture other → raster.LooksLike other) ∧
      (first.SamePictures second → first.LooksLike second) :=
  ⟨Raster.SamePicture.looksLike, DecodeInput.SamePictures.looksLike⟩

/-- One cell with padding behind it. -/
def Grid.padded {α : Type} (value padding : α) : Grid α :=
  ⟨1, 1, 2, #[value, padding], by decide, fun _ => Nat.le_succ 1⟩

theorem Grid.sameCells_padded {α : Type} (value padding other : α) :
    (padded value padding).SameCells (padded value other) := by
  refine ⟨rfl, rfl, ?_⟩
  intro column row
  unfold cell?
  split
  · rename_i inside
    obtain ⟨first, top⟩ : column = 0 ∧ row = 0 := by simpa [padded] using inside
    subst first top
    rfl
  · rename_i outside
    exact (if_neg outside).symm

/-- Two gray pixels, for which one chroma sample is stored, and padding. -/
def overhang (padding : UInt16) : DecodeInput where
  color := {
    depth := 8
    format := .monochrome
    range := .full
    cicp := none
    luma := .build 2 1 fun _ _ => 100
    cb := some (.padded 128 padding)
    cr := some (.padded 128 128) }
  alpha := none
  matrix := .bt709

theorem looksLike_overhang :
    ((⟨.gray, .eight, .padded #v[7] #v[0]⟩ : Raster).LooksLike
        ⟨.gray, .eight, .padded #v[7] #v[255]⟩ ∧
      (overhang 128).LooksLike (overhang 255)) ∧
    Strategy.decode ⟨.rgb, .eight⟩ (overhang 128) ≠
      Strategy.decode ⟨.rgb, .eight⟩ (overhang 255) := by
  have rasters : (⟨.gray, .eight, .padded #v[7] #v[0]⟩ : Raster).SamePicture
      ⟨.gray, .eight, .padded #v[7] #v[255]⟩ :=
    Raster.samePicture_of_sameCells (Grid.sameCells_padded _ _ _)
  have frames : (overhang 128).color.SamePicture (overhang 255).color :=
    ⟨rfl, rfl, rfl, rfl, ⟨rfl, rfl, fun _ _ => rfl⟩, .some (Grid.sameCells_padded _ _ _),
      .some ⟨rfl, rfl, fun _ _ => rfl⟩⟩
  have images : (overhang 128).SamePictures (overhang 255) := ⟨frames, .none, rfl⟩
  have look := looksLike_of_samePicture ⟨.gray, .eight, .padded #v[7] #v[0]⟩
    ⟨.gray, .eight, .padded #v[7] #v[255]⟩ (overhang 128) (overhang 255)
  refine ⟨⟨look.1 rasters, look.2 images⟩, ?_⟩
  intro same
  have blue : ((Strategy.decode ⟨.rgb, .eight⟩ (overhang 128)).toOption.bind (·.samples? 1 0)) =
      (Strategy.decode ⟨.rgb, .eight⟩ (overhang 255)).toOption.bind (·.samples? 1 0) := by
    rw [same]
  revert blue
  decide +kernel

end AvifStill
