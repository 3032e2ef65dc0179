import AvifStill.Proofs.Load
import AvifStill.Proofs.Save

/-!
# What is saved can be loaded

With an honest codec a saved 8-bit image always loads again, in the same size. Alpha comes back
sample for sample, and so does everything of a gray image. Colour does not: it goes through a matrix
and perhaps through a conversion between profiles.
-/

namespace AvifStill

namespace Raster

theorem convert_gray {raster : Raster} (isGray : raster.isGrayscale = true)
    (source target : Icc.Profile) : raster.convert source target = .ok raster := by
  rcases raster with ⟨layout, depth, pixels⟩
  cases layout with
  | gray => rfl
  | grayAlpha => rfl
  | rgb => cases isGray
  | rgba => cases isGray

end Raster

namespace SavedImage

open Av1 Color LoadedImage

section Host

variable {planned : Plan} {raster host : Raster} {color : RasterColor} {options : EncodeOptions}
  {matrix : YuvMatrix}

/-- The raster that is encoded differs in colour at most, and in nothing when it is gray. -/
theorem isRecoloringOf_host (steps : planned.Steps raster color options host matrix)
    (eight : raster.depth = .eight) (coded : options.depth = 8) :
    host.IsRecoloringOf raster ∧ (raster.isGrayscale = true → host = raster) := by
  have depth : planned.options.depth = 8 :=
    (EncodeOptions.depth_validate steps.valid).1.trans coded
  have isHost := steps.isHost
  unfold hostRaster at isHost
  rw [depth, Raster.adaptDepth_of_depth eight] at isHost
  simp only at isHost
  split at isHost
  · refine ⟨(Raster.of_convert isHost).2, ?_⟩
    intro isGray
    rw [Raster.convert_gray isGray] at isHost
    cases isHost
    rfl
  · cases isHost
    exact ⟨.refl raster, fun _ => rfl⟩

end Host

/-- The code points under which the frames come back, except for the range. -/
theorem codePoints_eq (planned : Plan) (metadata : Metadata) (encodings : Encodings)
    {frame : Frame} (full : frame.range = .full) {described : Bool}
    (isDescribed : frame.cicp = some { planned.color.cicp with fullRange := described }) :
    codePoints (containerOf planned metadata encodings).readBack frame =
      { planned.color.cicp with fullRange := true } := by
  have read := (readCodePoints?_containerOf planned metadata encodings).1
  have cicp : (containerOf planned metadata encodings).readBack.cicp =
      (containerOf planned metadata encodings).readCodePoints? := rfl
  rw [codePoints, cicp, full, isDescribed]
  rcases read with isNone | isDeclared
  · rw [isNone]
    rfl
  · rw [isDeclared]
    cases planned.color.icc with
    | none => rfl
    | some icc => rfl

section Frames

variable {σ : Type} {encoder : Encoder σ} {decoder : Decoder σ} {planned : Plan}
  {raster host : Raster} {color : RasterColor} {options : EncodeOptions} {matrix : YuvMatrix}
  {encodings : Encodings} {state between after later : σ}

theorem fits_withCodePoints (steps : planned.Steps raster color options host matrix) {frame : Frame}
    (isMade : frame.IsMadeOf host.width host.height options.depth) (cicp : Cicp)
    {item : CodedImage} (width : item.width = planned.width)
    (height : item.height = planned.height) : Fits (frame.withCodePoints cicp) item := by
  have size := size_of_frameSize steps.size
  have hostSize := (layout_hostRaster steps.isHost).2
  refine ⟨isMade.valid, ?_, ?_⟩
  · rw [width, size.1, ← hostSize.1]
    exact isMade.sizeWidth
  · rw [height, size.2, ← hostSize.2]
    exact isMade.sizeHeight

theorem decodeItem_color (honest : IsHonest encoder decoder)
    (steps : planned.Steps raster color options host matrix)
    (encoded : encoder.encode planned.planes.color planned.settings state =
      (.ok encodings.color, between))
    (reaches : Reaches encoder decoder between later) (metadata : Metadata) :
    ∃ full last, decodeItem decoder (containerOf planned metadata encodings).readBack.color later =
        (.ok (planned.planes.color.withCodePoints { planned.color.cicp with fullRange := full }),
          last) ∧ Reaches encoder decoder later last := by
  have made := planes_of_steps steps
  have coded := (coded_of_steps steps).1
  have suits := honest.sound coded encoded
  have depth : (containerOf planned metadata encodings).colorRecord.packed.depth =
      planned.planes.color.depth :=
    (Container.depth_colorRecord _).trans suits.depth
  have format : (containerOf planned metadata encodings).colorRecord.packed.format =
      planned.planes.color.format :=
    (Container.format_colorRecord _).trans suits.format
  have sameCicp : planned.settings.cicp = planned.color.cicp := by
    rw [steps.settings]
    rfl
  rcases honest.answers coded encoded reaches _ depth format with ⟨full, answered⟩
  rw [sameCicp] at answered
  refine ⟨full, _, decodeItem_of_fits answered ?_, (Reaches.refl later).decode _ _⟩
  exact fits_withCodePoints steps made.color _ rfl rfl

theorem decodeItem_alpha (honest : IsHonest encoder decoder)
    (steps : planned.Steps raster color options host matrix)
    (suits : encodings.color.Suits planned.planes.color) {frame : Frame} {payload : Payload}
    (isFrame : planned.planes.alpha = some frame)
    (encoded : encoder.encode frame (alphaSettings planned) between = (.ok payload, after))
    (reaches : Reaches encoder decoder after later) (metadata : Metadata) :
    ∃ cicp last, decodeItem decoder ⟨payload.data,
        (containerOf planned metadata encodings).alphaRecord.packed, planned.width,
        planned.height⟩ later = (.ok (frame.withCodePoints cicp), last) := by
  have made := planes_of_steps steps
  have madeAlpha := made.alpha frame isFrame
  have depth : (containerOf planned metadata encodings).alphaRecord.packed.depth =
      frame.depth := by
    refine ((Container.depth_alphaRecord _).trans suits.depth).trans ?_
    rw [made.color.depth, madeAlpha.1.depth]
  have format : (containerOf planned metadata encodings).alphaRecord.packed.format =
      frame.format :=
    (containerOf planned metadata encodings).format_alphaRecord.trans madeAlpha.2.symm
  rcases honest.answers ((coded_of_steps steps).2 frame isFrame) encoded reaches _ depth format
    with ⟨full, answered⟩
  exact ⟨_, _, decodeItem_of_fits answered (fits_withCodePoints steps madeAlpha.1 _ rfl rfl)⟩

theorem reaches_encodeAlpha (encoder : Encoder σ) (decoder : Decoder σ) (planned : Plan)
    (state : σ) : Reaches encoder decoder state (encodeAlpha encoder planned state).2 := by
  unfold encodeAlpha
  split
  · exact .refl state
  · exact (Reaches.refl state).encode _ _

/-- The frames of a file are those of a plan, each under code points of some kind. -/
structure AreFramesOf (frames : LoadedImage.Frames) (plan : Plan) : Prop where
  color : ∃ full, frames.color =
    plan.planes.color.withCodePoints { plan.color.cicp with fullRange := full }
  alpha : ∃ cicp, frames.alpha = plan.planes.alpha.map (·.withCodePoints cicp)

/-- An honest codec gives back the frames of a saved image, whatever it did in the meantime. -/
theorem areFramesOf_decodeItems (honest : IsHonest encoder decoder)
    (steps : planned.Steps raster color options host matrix)
    (areFrom : encodings.AreFrom encoder planned state between after)
    (reaches : Reaches encoder decoder after later) (metadata : Metadata) :
    ∃ frames last,
      decodeItems decoder (containerOf planned metadata encodings).readBack later =
        (.ok frames, last) ∧ AreFramesOf frames planned := by
  have reached : Reaches encoder decoder between after := by
    have reached := reaches_encodeAlpha encoder decoder planned between
    rwa [areFrom.alpha] at reached
  rcases decodeItem_color honest steps areFrom.color (reached.trans reaches) metadata
    with ⟨full, next, isColor, onward⟩
  unfold decodeItems
  rw [isColor]
  rcases alpha_of_encodeAlpha areFrom.alpha with ⟨noFrame, noAlpha⟩ |
    ⟨frame, payload, isFrame, isPayload, encoded⟩
  · have isNone : (containerOf planned metadata encodings).readBack.alpha = none := by
      simp [Container.readBack, containerOf, noAlpha]
    simp only [isNone]
    refine ⟨_, _, rfl, ⟨full, rfl⟩, planned.color.cicp, ?_⟩
    rw [noFrame]
    rfl
  · have isSome : (containerOf planned metadata encodings).readBack.alpha = some ⟨payload.data,
        (containerOf planned metadata encodings).alphaRecord.packed, planned.width,
        planned.height⟩ := by
      simp [Container.readBack, containerOf, isPayload, codedImage]
    have suits := honest.sound (coded_of_steps steps).1 areFrom.color
    rcases decodeItem_alpha honest steps suits isFrame encoded (reaches.trans onward) metadata
      with ⟨cicp, last, isAlpha⟩
    simp only [isSome, isAlpha]
    refine ⟨_, _, rfl, ⟨full, rfl⟩, cicp, ?_⟩
    rw [isFrame]
    rfl

end Frames

/-- What an 8-bit raster has in common with one that was saved before. -/
structure Restores (result original : Raster) : Prop where
  width : result.width = original.width
  height : result.height = original.height
  hasAlpha : result.hasAlpha = original.hasAlpha
  alpha : ∀ column row, result.alpha? column row = original.alpha? column row
  gray : original.isGrayscale = true → result.layout = original.layout ∧
    result.depth = original.depth ∧
      ∀ column row, result.samples? column row = original.samples? column row

section Rasters

variable {planned : Plan} {raster host : Raster} {color : RasterColor} {options : EncodeOptions}
  {matrix : YuvMatrix} {frames : LoadedImage.Frames}

theorem depth_of_frames (steps : planned.Steps raster color options host matrix)
    (coded : options.depth = 8) (areFrames : AreFramesOf frames planned) :
    frames.color.depth = 8 := by
  rcases areFrames.color with ⟨full, isColor⟩
  rw [isColor]
  exact (planes_of_steps steps).color.depth.trans coded

theorem alpha?_of_frames (steps : planned.Steps raster color options host matrix)
    (eight : raster.depth = .eight) (coded : options.depth = 8)
    (areFrames : AreFramesOf frames planned) (hasAlpha : raster.hasAlpha = true)
    {isGray : Bool} {chosen : YuvMatrix} {first : Raster}
    (isFirst : (Strategy.select frames.alpha.isSome isGray (8 < frames.color.depth)).decode
      ⟨frames.color, frames.alpha, chosen⟩ = .ok first) (column row : Nat) :
    first.alpha? column row = raster.alpha? column row := by
  have recolored := (isRecoloringOf_host steps eight coded).1
  have hasFrame : planned.planes.alpha.isSome = true :=
    ((planes_of_steps steps).hasAlpha.trans recolored.hasAlpha).trans hasAlpha
  rcases Option.isSome_iff_exists.mp hasFrame with ⟨frame, isFrame⟩
  rcases areFrames.alpha with ⟨cicp, isAlpha⟩
  rw [isFrame] at isAlpha
  rw [depth_of_frames steps coded areFrames, isAlpha] at isFirst
  have shown := Strategy.alpha?_of_decode isFirst rfl (ChannelLayout.hasAlpha_ofFlags true isGray)
    column row
  have kept := Strategy.alpha?_of_encodePixels (recolored.depth.trans eight)
    ((EncodeOptions.depth_validate steps.valid).1.trans coded)
    (Strategy.pixels_of_encode steps.planes).1 isFrame column row
  exact (shown.trans kept).trans (recolored.alpha column row)

theorem samples?_of_frames (steps : planned.Steps raster color options host matrix)
    (eight : raster.depth = .eight) (coded : options.depth = 8)
    (areFrames : AreFramesOf frames planned) (isGray : raster.isGrayscale = true)
    {chosen : YuvMatrix} {first : Raster}
    (isFirst : (Strategy.select frames.alpha.isSome true (8 < frames.color.depth)).decode
      ⟨frames.color, frames.alpha, chosen⟩ = .ok first) :
    first.layout = raster.layout ∧ first.depth = raster.depth ∧
      ∀ column row, first.samples? column row = raster.samples? column row := by
  have same := (isRecoloringOf_host steps eight coded).2 isGray
  subst same
  have hasFrame := (planes_of_steps steps).hasAlpha
  rcases areFrames.color with ⟨full, isColor⟩
  rcases areFrames.alpha with ⟨cicp, isAlpha⟩
  have layout : ChannelLayout.ofFlags frames.alpha.isSome true = host.layout := by
    rw [isAlpha, Option.isSome_map, hasFrame]
    have ofFlags := host.layout.ofFlags_hasAlpha_isGray
    rwa [show host.layout.isGray = true from isGray] at ofFlags
  have strategy : Strategy.select frames.alpha.isSome true (8 < frames.color.depth) =
      ⟨host.layout, .eight⟩ := by
    rw [depth_of_frames steps coded areFrames, ← layout]
    rfl
  rw [strategy] at isFirst
  rcases Strategy.of_decode isFirst with ⟨-, pixels, decoded, rfl⟩
  refine ⟨rfl, eight.symm, ?_⟩
  apply Strategy.samples?_of_decodePixels eight isGray
    ((EncodeOptions.depth_validate steps.valid).1.trans coded)
    (Strategy.pixels_of_encode steps.planes).1 ?_ ?_ decoded
  · rw [isColor]
    rfl
  · rw [isAlpha, Option.map_map]
    rfl

theorem restores_of_rasterOf (steps : planned.Steps raster color options host matrix)
    (eight : raster.depth = .eight) (coded : options.depth = 8)
    (areFrames : AreFramesOf frames planned) {file : Container}
    (straight : file.premultiplied = false) {decoded : Decoded} {cicp : Cicp} {result : Raster}
    (consistent : decoded.IsConsistent frames.color.format.isMonochrome)
    (drawn : rasterOf file frames decoded cicp = .ok result) : Restores result raster := by
  have made := planes_of_steps steps
  have hostSize := (layout_hostRaster steps.isHost).2
  rcases areFrames.color with ⟨full, isColor⟩
  rcases areFrames.alpha with ⟨described, isAlpha⟩
  rcases of_rasterOf drawn consistent with
    ⟨isGray, chosen, first, isGrayIf, isFirst, recolored, -, unchanged⟩
  have width : frames.color.width = raster.width := by
    rw [isColor]
    exact made.color.sizeWidth.trans hostSize.1
  have height : frames.color.height = raster.height := by
    rw [isColor]
    exact made.color.sizeHeight.trans hostSize.2
  have sized : first.width = frames.color.width ∧ first.height = frames.color.height := by
    rcases Strategy.of_decode isFirst with ⟨-, pixels, isPixels, rfl⟩
    exact Strategy.size_of_decodePixels isPixels
  have hasAlpha : result.hasAlpha = raster.hasAlpha := by
    rcases Strategy.of_decode isFirst with ⟨-, pixels, -, isRaster⟩
    rw [recolored.hasAlpha, isRaster]
    refine (ChannelLayout.hasAlpha_ofFlags _ _).trans ?_
    rw [isAlpha, Option.isSome_map, made.hasAlpha]
    exact (isRecoloringOf_host steps eight coded).1.hasAlpha
  constructor
  · exact (recolored.width.trans sized.1).trans width
  · exact (recolored.height.trans sized.2).trans height
  · exact hasAlpha
  · intro column row
    cases transparent : raster.hasAlpha with
    | false => rw [Raster.alpha?_of_opaque transparent, Raster.alpha?_of_opaque (hasAlpha.trans transparent)]
    | true =>
        exact (recolored.alpha column row).trans
          (alpha?_of_frames steps eight coded areFrames transparent isFirst column row)
  · intro gray
    have isHost := (isRecoloringOf_host steps eight coded).2 gray
    have isMonochrome : frames.color.format.isMonochrome = true := by
      rw [isColor]
      refine (congrArg ChromaFormat.isMonochrome made.format).trans ?_
      rw [isHost, if_pos gray]
      rfl
    have drawnGray : isGray = true := by
      rw [isGrayIf, isMonochrome]
      rfl
    subst drawnGray
    rw [unchanged rfl straight]
    exact samples?_of_frames steps eight coded areFrames gray isFirst

/-- The frames of a plan always become an image, whose raster is the one that they show. -/
theorem exists_ofFrames (steps : planned.Steps raster color options host matrix)
    (areFrames : AreFramesOf frames planned) (metadata : Metadata) (encodings : Encodings) :
    ∃ decoded loaded, decoded.IsConsistent frames.color.format.isMonochrome ∧
      rasterOf (containerOf planned metadata encodings).readBack frames decoded
        { planned.color.cicp with fullRange := true } = .ok loaded.raster ∧
      ofFrames .default (containerOf planned metadata encodings).readBack frames = .ok loaded := by
  have made := planes_of_steps steps
  rcases areFrames.color with ⟨full, isColor⟩
  rcases areFrames.alpha with ⟨cicp, isAlpha⟩
  have codePoints : codePoints (containerOf planned metadata encodings).readBack frames.color =
      { planned.color.cicp with fullRange := true } := by
    rw [isColor]
    exact codePoints_eq planned metadata encodings made.color.range rfl
  rcases Encoded.transfer_of_resolve steps.resolved with ⟨transfer, known⟩
  rcases @Decoded.exists_resolve { planned.color.cicp with fullRange := true } _ known
    (containerOf planned metadata encodings).readBack.icc frames.color.format.isMonochrome
    with ⟨decoded, isDecoded⟩
  have valid : frames.color.validate = .ok () := by
    rw [isColor]
    exact made.color.valid
  have size : ∀ alpha, frames.alpha = some alpha →
      (alpha.width, alpha.height) = (frames.color.width, frames.color.height) := by
    intro alpha isSome
    rw [isAlpha] at isSome
    rcases Option.map_eq_some_iff.mp isSome with ⟨frame, isFrame, rfl⟩
    have madeAlpha := (made.alpha frame isFrame).1
    rw [isColor]
    exact Prod.ext (madeAlpha.sizeWidth.trans made.color.sizeWidth.symm)
      (madeAlpha.sizeHeight.trans made.color.sizeHeight.symm)
  rcases @exists_rasterOf frames { planned.color.cicp with fullRange := true } _ valid size
    steps.isMatrix (containerOf planned metadata encodings).readBack decoded with ⟨drawn, isDrawn⟩
  have finished : ∃ loaded : LoadedImage,
      ofFrames .default (containerOf planned metadata encodings).readBack frames = .ok loaded ∧
        loaded.raster = drawn := by
    unfold ofFrames
    rw [codePoints]
    exact ⟨_, (bind_of_done isDecoded).trans ((bind_of_done isDrawn).trans rfl), rfl⟩
  rcases finished with ⟨loaded, isLoaded, rfl⟩
  exact ⟨decoded, loaded, Decoded.isConsistent_resolve isDecoded, isDrawn, isLoaded⟩

end Rasters

/-- With an honest codec every 8-bit image that is saved at eight bits loads again. -/
theorem restores_of_save {σ : Type} {encoder : Encoder σ} {decoder : Decoder σ}
    (honest : IsHonest encoder decoder) {raster : Raster} (eight : raster.depth = .eight)
    {options : EncodeOptions} (coded : options.depth = 8) {color : RasterColor}
    {metadata : Metadata} {state later : σ} {saved : SavedImage}
    (done : (save raster color options metadata encoder state).result = .ok saved)
    (fits : saved.file.IsAddressable)
    (reaches : Reaches encoder decoder (save raster color options metadata encoder state).state
      later) :
    ∃ loaded last, load .default decoder saved.file later = (.ok loaded, last) ∧
      Restores loaded.raster raster := by
  rcases reading_of_save honest.sound done fits with
    ⟨planned, host, matrix, encodings, between, -, steps, areFrom, parsed, isReadAs⟩
  rcases areFramesOf_decodeItems honest steps areFrom reaches metadata with
    ⟨frames, last, decoded, areFrames⟩
  rcases exists_ofFrames steps areFrames metadata encodings with
    ⟨resolved, loaded, consistent, isDrawn, isLoaded⟩
  have opened : open? .default saved.file =
      .ok (containerOf planned metadata encodings).readBack :=
    (bind_of_done parsed).trans rfl
  have loads : load .default decoder saved.file later = (.ok loaded, last) := by
    unfold load
    rw [opened]
    simp only [decoded, isLoaded]
  exact ⟨loaded, last, loads,
    restores_of_rasterOf steps eight coded areFrames isReadAs.premultiplied consistent isDrawn⟩

/-- Two gray pixels with alpha. -/
def grayPair : Raster :=
  ⟨.grayAlpha, .eight, .build 2 1 fun column _ =>
    #v[HostDepth.eight.clamp (3 + column), HostDepth.eight.clamp (255 - column)]⟩

/-- The save of the two pixels with a codec that writes everything down. -/
def pairRun : Run (List Frame) :=
  save grayPair .srgb .default ⟨none, some [5]⟩ Ledger.encoder []

theorem restores_grayPair : ∃ saved loaded last, pairRun.result = .ok saved ∧
    load .default Ledger.decoder saved.file pairRun.state = (.ok loaded, last) ∧
      Restores loaded.raster grayPair := by
  have short : (pairRun.result.toOption.map fun saved =>
      decide saved.file.IsAddressable) = some true := by
    decide +kernel
  rcases Option.map_eq_some_iff.mp short with ⟨saved, isSome, fits⟩
  have done : pairRun.result = .ok saved := ok_of_toOption isSome
  rcases restores_of_save Ledger.isHonest rfl rfl done (of_decide_eq_true fits) (.refl _) with
    ⟨loaded, last, loads, restores⟩
  exact ⟨saved, loaded, last, done, loads, restores⟩

end SavedImage

end AvifStill
