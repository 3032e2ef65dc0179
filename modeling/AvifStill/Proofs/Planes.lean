import AvifStill.Proofs.Reading
import AvifStill.Transcode

/-!
# The frames of a raster

A frame that is made of a raster is valid and has the raster's size, the depth that was asked for and
full range. Gray and alpha samples are copied into monochrome frames, colour into one of the format
that was asked for; whether there is an alpha frame depends on the layout alone.
-/

namespace AvifStill

namespace Frame

/-- Whether planes of this size and depth can be made. -/
structure HasShape (width height depth : Nat) : Prop where
  wide : width ≠ 0
  high : height ≠ 0
  coded : IsCodedDepth depth
  fits : width * height < UInt64.size

theorem shape_of_checkShape {width height depth : Nat} {done : Unit}
    (checked : checkShape width height depth = .ok done) : HasShape width height depth := by
  unfold checkShape at checked
  split at checked
  · cases checked
  rename_i sized
  split at checked
  · cases checked
  rename_i coded
  split at checked
  · cases checked
  · refine ⟨fun isZero => sized (Or.inl isZero), fun isZero => sized (Or.inr isZero), ?_, by omega⟩
    exact Classical.not_not.mp coded

theorem checkShape_of_shape {width height depth : Nat} (shape : HasShape width height depth) :
    checkShape width height depth = .ok () := by
  have sized : ¬(width = 0 ∨ height = 0) := by
    simp [shape.wide, shape.high]
  rw [checkShape, if_neg sized, if_neg (not_not_intro shape.coded),
    if_neg (Nat.not_le.mpr shape.fits)]

theorem exists_blank {width height depth : Nat} (shape : HasShape width height depth)
    (format : ChromaFormat) (range : SampleRange) :
    ∃ frame, blank width height depth format range = .ok frame :=
  ⟨_, bind_of_done (checkShape_of_shape shape)⟩

/-- The chroma planes of a blank frame. -/
def blankChroma (width height : Nat) (format : ChromaFormat) : Option Plane :=
  if format.isMonochrome then none
  else some (.build (format.chromaSize width height).1 (format.chromaSize width height).2
    fun _ _ => 0)

theorem of_blank {width height depth : Nat} {format : ChromaFormat} {range : SampleRange}
    {frame : Frame} (made : blank width height depth format range = .ok frame) :
    HasShape width height depth ∧
      frame = ⟨depth, format, range, none, .build width height fun _ _ => 0,
        blankChroma width height format, blankChroma width height format⟩ := by
  rcases done_of_bind made with ⟨checked, isChecked, done⟩
  cases done
  exact ⟨shape_of_checkShape isChecked, rfl⟩

/-- What holds of every frame that is made of a raster. -/
structure IsMadeOf (frame : Frame) (width height depth : Nat) : Prop where
  shape : HasShape width height depth
  sizeWidth : frame.width = width
  sizeHeight : frame.height = height
  depth : frame.depth = depth
  range : frame.range = .full
  valid : frame.validate = .ok ()

theorem validate_monochrome {frame : Frame} (coded : IsCodedDepth frame.depth)
    (isMonochrome : frame.format.isMonochrome = true) : frame.validate = .ok () := by
  rw [validate, if_neg (not_not_intro coded), if_pos isMonochrome]

theorem validate_color {frame : Frame} (coded : IsCodedDepth frame.depth)
    (isColor : frame.format.isMonochrome = false) {cb cr : Plane} (hasCb : frame.cb = some cb)
    (hasCr : frame.cr = some cr)
    (sizeCb : (cb.width, cb.height) = frame.format.chromaSize frame.width frame.height)
    (sizeCr : (cr.width, cr.height) = frame.format.chromaSize frame.width frame.height) :
    frame.validate = .ok () := by
  have notMonochrome : ¬frame.format.isMonochrome = true := by simp [isColor]
  rw [validate, if_neg (not_not_intro coded), if_neg notMonochrome, hasCb, hasCr]
  simp only [checkChroma, if_pos sizeCb, if_pos sizeCr]
  rfl

theorem size_of_checkChroma {expected : Nat × Nat} {plane : Plane} {done : Unit}
    (checked : checkChroma expected (some plane) = .ok done) :
    (plane.width, plane.height) = expected := by
  simp only [checkChroma] at checked
  split at checked
  · assumption
  · cases checked

theorem coded_of_validate {frame : Frame} (valid : frame.validate = .ok ()) :
    IsCodedDepth frame.depth := by
  unfold validate at valid
  split at valid
  · cases valid
  · rename_i coded
    exact Classical.not_not.mp coded

theorem chromaSize_of_validate {frame : Frame} {cb cr : Plane} (valid : frame.validate = .ok ())
    (isColor : frame.format.isMonochrome = false) (hasCb : frame.cb = some cb)
    (hasCr : frame.cr = some cr) :
    (cb.width, cb.height) = frame.format.chromaSize frame.width frame.height ∧
      (cr.width, cr.height) = frame.format.chromaSize frame.width frame.height := by
  have notMonochrome : ¬frame.format.isMonochrome = true := by simp [isColor]
  rw [validate, if_neg (not_not_intro (coded_of_validate valid)), if_neg notMonochrome, hasCb,
    hasCr] at valid
  rcases done_of_bind valid with ⟨_, isCb, isCr⟩
  exact ⟨size_of_checkChroma isCb, size_of_checkChroma isCr⟩

end Frame

namespace Yuv

section Written

variable {levels : Levels} {matrix : Color.YuvMatrix} {pixel : Nat → Nat → Rgb} {luma : Plane}

@[simp]
theorem width_writeLuma {covered : List (Nat × Nat)} :
    (writeLuma levels matrix pixel luma covered).width = luma.width := by
  induction covered generalizing luma with
  | nil => rfl
  | cons place covered ih => exact ih.trans (Grid.width_set ..)

@[simp]
theorem height_writeLuma {covered : List (Nat × Nat)} :
    (writeLuma levels matrix pixel luma covered).height = luma.height := by
  induction covered generalizing luma with
  | nil => rfl
  | cons place covered ih => exact ih.trans (Grid.height_set ..)

/-- Writing block by block is writing one place after the other. -/
theorem foldl_writeLuma (covered : List (List (Nat × Nat))) :
    covered.foldl (writeLuma levels matrix pixel) luma =
      writeLuma levels matrix pixel luma covered.flatten :=
  List.foldl_flatten.symm

end Written

end Yuv

namespace Strategy

open AvifStill.Frame

variable {layout : ChannelLayout} {depth : HostDepth} {pixels : Grid (Pixel layout depth)}

/-- The frame of one channel of a raster. -/
def planeOf (pixels : Grid (Pixel layout depth)) (codedDepth : Nat)
    (channel : Pixel layout depth → depth.Sample) : Frame where
  depth := codedDepth
  format := .monochrome
  range := .full
  cicp := none
  luma := .build pixels.width pixels.height fun column row =>
    depth.toCodedSample (channel (pixels.cell column row)) codedDepth
  cb := none
  cr := none

theorem of_channelFrame {codedDepth : Nat} {channel : Pixel layout depth → depth.Sample}
    {frame : Frame} (made : channelFrame pixels codedDepth channel = .ok frame) :
    HasShape pixels.width pixels.height codedDepth ∧ frame = planeOf pixels codedDepth channel := by
  rcases done_of_bind made with ⟨blank, isBlank, done⟩
  rcases of_blank isBlank with ⟨shape, rfl⟩
  cases done
  exact ⟨shape, rfl⟩

theorem isMadeOf_planeOf {codedDepth : Nat} (channel : Pixel layout depth → depth.Sample)
    (shape : HasShape pixels.width pixels.height codedDepth) :
    (planeOf pixels codedDepth channel).IsMadeOf pixels.width pixels.height codedDepth :=
  ⟨shape, rfl, rfl, rfl, rfl, validate_monochrome shape.coded rfl⟩

theorem of_encode {width height codedDepth : Nat} {format : ChromaFormat}
    {matrix : Color.YuvMatrix} {pixel : Nat → Nat → Rgb} {frame : Frame}
    (made : Yuv.encode width height codedDepth format matrix pixel = .ok frame) :
    frame.IsMadeOf width height codedDepth ∧ frame.format = format := by
  unfold Yuv.encode at made
  simp only at made
  split at made
  · cases made
  rcases done_of_bind made with ⟨blank, isBlank, done⟩
  rcases of_blank isBlank with ⟨shape, rfl⟩
  simp only at done
  split at done
  · rename_i isMonochrome
    cases done
    exact ⟨⟨shape, Yuv.width_writeLuma, Yuv.height_writeLuma, rfl, rfl,
      validate_monochrome shape.coded isMonochrome⟩, rfl⟩
  · rename_i notMonochrome
    cases done
    rw [Yuv.foldl_writeLuma]
    refine ⟨⟨shape, Yuv.width_writeLuma, Yuv.height_writeLuma, rfl, rfl, ?_⟩, rfl⟩
    apply validate_color shape.coded (by simpa using notMonochrome) rfl rfl
    · simp [Frame.width, Frame.height, Yuv.blocks]
    · simp [Frame.width, Frame.height, Yuv.blocks]

section Layouts

variable {target : EncodeTarget} {planes : EncodedPlanes}

theorem of_encodePixels_gray {pixels : Grid (Pixel .gray depth)}
    (made : encodePixels target depth .gray pixels = .ok planes) :
    HasShape pixels.width pixels.height target.depth ∧
      planes = ⟨planeOf pixels target.depth Pixel.gray, none⟩ := by
  rcases done_of_bind made with ⟨color, isColor, done⟩
  rcases of_channelFrame isColor with ⟨shape, rfl⟩
  cases done
  exact ⟨shape, rfl⟩

theorem of_encodePixels_grayAlpha {pixels : Grid (Pixel .grayAlpha depth)}
    (made : encodePixels target depth .grayAlpha pixels = .ok planes) :
    HasShape pixels.width pixels.height target.depth ∧
      planes = ⟨planeOf pixels target.depth Pixel.gray,
        some (planeOf pixels target.depth Pixel.alpha)⟩ := by
  rcases done_of_bind made with ⟨color, isColor, done⟩
  rcases done_of_bind done with ⟨alpha, isAlpha, done⟩
  rcases of_channelFrame isColor with ⟨shape, rfl⟩
  rcases of_channelFrame isAlpha with ⟨-, rfl⟩
  cases done
  exact ⟨shape, rfl⟩

theorem of_encodePixels_rgb {pixels : Grid (Pixel .rgb depth)}
    (made : encodePixels target depth .rgb pixels = .ok planes) :
    planes.color.IsMadeOf pixels.width pixels.height target.depth ∧
      planes.color.format = target.format ∧ planes.alpha = none := by
  rcases done_of_bind made with ⟨color, isColor, done⟩
  rcases of_encode isColor with ⟨isMade, format⟩
  cases done
  exact ⟨isMade, format, rfl⟩

theorem of_encodePixels_rgba {pixels : Grid (Pixel .rgba depth)}
    (made : encodePixels target depth .rgba pixels = .ok planes) :
    planes.color.IsMadeOf pixels.width pixels.height target.depth ∧
      planes.color.format = target.format ∧
      planes.alpha = some (planeOf pixels target.depth Pixel.alpha) := by
  rcases done_of_bind made with ⟨color, isColor, done⟩
  rcases done_of_bind done with ⟨alpha, isAlpha, done⟩
  rcases of_encode isColor with ⟨isMade, format⟩
  rcases of_channelFrame isAlpha with ⟨-, rfl⟩
  cases done
  exact ⟨isMade, format, rfl⟩

end Layouts

/-- What holds of the frames of every raster. -/
structure AreMadeOf (planes : EncodedPlanes) (raster : Raster) (target : EncodeTarget) : Prop where
  color : planes.color.IsMadeOf raster.width raster.height target.depth
  format : planes.color.format = if raster.isGrayscale then .monochrome else target.format
  hasAlpha : planes.alpha.isSome = raster.hasAlpha
  alpha : ∀ alpha, planes.alpha = some alpha →
    alpha.IsMadeOf raster.width raster.height target.depth ∧ alpha.format = .monochrome

theorem areMadeOf_encodePixels {raster : Raster} {target : EncodeTarget} {planes : EncodedPlanes}
    (made : encodePixels target raster.depth raster.layout raster.pixels = .ok planes) :
    AreMadeOf planes raster target := by
  rcases raster with ⟨layout, depth, pixels⟩
  cases layout with
  | gray =>
      rcases of_encodePixels_gray made with ⟨shape, rfl⟩
      exact ⟨isMadeOf_planeOf Pixel.gray shape, rfl, rfl, fun _ isSome => (nomatch isSome)⟩
  | grayAlpha =>
      rcases of_encodePixels_grayAlpha made with ⟨shape, rfl⟩
      refine ⟨isMadeOf_planeOf Pixel.gray shape, rfl, rfl, ?_⟩
      rintro alpha ⟨rfl⟩
      exact ⟨isMadeOf_planeOf Pixel.alpha shape, rfl⟩
  | rgb =>
      rcases of_encodePixels_rgb made with ⟨isMade, format, noAlpha⟩
      refine ⟨isMade, format, ?_, ?_⟩
      · rw [noAlpha]
        rfl
      · rw [noAlpha]
        exact fun _ isSome => (nomatch isSome)
  | rgba =>
      rcases of_encodePixels_rgba made with ⟨isMade, format, isAlpha⟩
      refine ⟨isMade, format, ?_, ?_⟩
      · rw [isAlpha]
        rfl
      · rw [isAlpha]
        rintro alpha ⟨rfl⟩
        exact ⟨isMadeOf_planeOf Pixel.alpha isMade.shape, rfl⟩

theorem exists_channelFrame {codedDepth : Nat}
    (shape : HasShape pixels.width pixels.height codedDepth)
    (channel : Pixel layout depth → depth.Sample) :
    ∃ frame, channelFrame pixels codedDepth channel = .ok frame := by
  rcases exists_blank shape .monochrome .full with ⟨blank, isBlank⟩
  exact ⟨_, bind_of_done isBlank⟩

/-- The identity matrix is the only one that cannot do with fewer chroma samples. -/
theorem exists_yuv {width height codedDepth : Nat} (shape : HasShape width height codedDepth)
    {format : ChromaFormat} {matrix : Color.YuvMatrix}
    (suits : matrix.isIdentity = true → format = .yuv444) (pixel : Nat → Nat → Rgb) :
    ∃ frame, Yuv.encode width height codedDepth format matrix pixel = .ok frame := by
  rcases exists_blank shape format .full with ⟨blank, isBlank⟩
  have passes : ¬(matrix.isIdentity = true ∧ format ≠ .yuv444) := by
    rintro ⟨isIdentity, reduced⟩
    exact reduced (suits isIdentity)
  unfold Yuv.encode
  simp only [if_neg passes]
  rw [bind_of_done isBlank]
  split
  · exact ⟨_, rfl⟩
  · exact ⟨_, rfl⟩

/-- Every raster that has a shape has frames. -/
theorem exists_encodePixels {raster : Raster} {target : EncodeTarget}
    (shape : HasShape raster.width raster.height target.depth)
    (suits : target.matrix.isIdentity = true → target.format = .yuv444) :
    ∃ planes, encodePixels target raster.depth raster.layout raster.pixels = .ok planes := by
  rcases raster with ⟨layout, depth, pixels⟩
  cases layout with
  | gray =>
      rcases exists_channelFrame shape Pixel.gray with ⟨color, isColor⟩
      exact ⟨_, bind_of_done isColor⟩
  | grayAlpha =>
      rcases exists_channelFrame shape Pixel.gray with ⟨color, isColor⟩
      rcases exists_channelFrame shape Pixel.alpha with ⟨alpha, isAlpha⟩
      exact ⟨_, (bind_of_done isColor).trans (bind_of_done isAlpha)⟩
  | rgb =>
      rcases exists_yuv shape suits fun column row => unitRgb depth (pixels.cell column row)
        with ⟨color, isColor⟩
      exact ⟨_, bind_of_done isColor⟩
  | rgba =>
      rcases exists_yuv shape suits fun column row => unitRgb depth (pixels.cell column row)
        with ⟨color, isColor⟩
      rcases exists_channelFrame shape Pixel.alpha with ⟨alpha, isAlpha⟩
      exact ⟨_, (bind_of_done isColor).trans (bind_of_done isAlpha)⟩

theorem encode_of_adapted {raster : Raster} {target : EncodeTarget}
    (adapted : raster.depth = .ofCoded target.depth) :
    encode ⟨raster.layout, raster.depth⟩ raster target =
      encodePixels target raster.depth raster.layout raster.pixels := by
  have sameKind : ¬(raster.layout ≠ raster.layout ∨ raster.depth ≠ raster.depth) := by
    simp
  have sameDepth : ¬HostDepth.ofCoded target.depth ≠ raster.depth := not_not_intro adapted.symm
  rw [Strategy.encode, if_neg sameKind, if_neg sameDepth]

/-- The strategy of a raster in the depth class of a coded depth always succeeds. -/
theorem exists_encode {raster : Raster} {target : EncodeTarget}
    (shape : HasShape raster.width raster.height target.depth)
    (suits : target.matrix.isIdentity = true → target.format = .yuv444)
    (adapted : raster.depth = .ofCoded target.depth) :
    ∃ planes, (ofRaster raster).encode raster target = .ok planes := by
  rw [ofRaster_eq, encode_of_adapted adapted]
  exact exists_encodePixels shape suits

/-- A strategy handles rasters of its own layout and depth only. -/
theorem pixels_of_encode {strategy : Strategy} {raster : Raster} {target : EncodeTarget}
    {planes : EncodedPlanes} (made : strategy.encode raster target = .ok planes) :
    encodePixels target raster.depth raster.layout raster.pixels = .ok planes ∧
      HostDepth.ofCoded target.depth = raster.depth := by
  unfold Strategy.encode at made
  split at made
  · cases made
  rename_i sameKind
  split at made
  · cases made
  rename_i sameDepth
  simp only [not_or, Decidable.not_not] at sameKind sameDepth
  exact ⟨made, sameDepth.trans sameKind.2.symm⟩

end Strategy

end AvifStill
