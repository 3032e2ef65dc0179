import AvifStill.Proofs.Color.ReadBack
import AvifStill.Proofs.SaveLoad

/-!
# How a saved image looks when it is loaded

With an honest codec every file that is written can be loaded, at every depth and in every colour
mode. The raster keeps its size and its alpha, has 16 bits when it was coded with more than eight,
and is gray when there is no chroma or the embedded profile is for gray. Under code points the
description is the one that was reported when the image was saved, unless chroma was left out.
-/

namespace AvifStill

namespace SavedImage

open Av1 Color LoadedImage

/-- What is known of an image that is loaded from the file of a plan. -/
structure Plan.Shows (plan : Plan) (frames : LoadedImage.Frames) (decoded : Decoded)
    (loaded : LoadedImage) : Prop where
  areFrames : AreFramesOf frames plan
  resolved : Decoded.resolve plan.color.icc plan.color.cicp frames.color.format.isMonochrome =
    .ok decoded
  color : loaded.color = decoded.description
  drawn : ∃ file, rasterOf file frames decoded plan.color.cicp = .ok loaded.raster

section Plans

variable {planned : Plan} {raster host : Raster} {color : RasterColor} {options : EncodeOptions}
  {matrix : YuvMatrix} {frames : LoadedImage.Frames} {decoded : Decoded} {loaded : LoadedImage}

theorem isMonochrome_frameFormat (raster : Raster) (options : EncodeOptions) :
    (frameFormat raster options).isMonochrome =
      (raster.isGrayscale || options.format.isMonochrome) := by
  unfold frameFormat
  cases raster.isGrayscale <;> rfl

theorem isMonochrome_of_frames (steps : planned.Steps raster color options host matrix)
    (areFrames : AreFramesOf frames planned) :
    frames.color.format.isMonochrome = (raster.isGrayscale || options.format.isMonochrome) := by
  have sameGray : host.isGrayscale = raster.isGrayscale :=
    congrArg ChannelLayout.isGray (layout_hostRaster steps.isHost).1
  have coded : frames.color.format =
      if raster.isGrayscale then .monochrome else frameFormat raster planned.options := by
    rcases areFrames.color with ⟨full, isColor⟩
    rw [isColor, ← sameGray]
    exact (planes_of_steps steps).format
  have format := (EncodeOptions.color_validate steps.valid).2
  rw [coded]
  cases isGray : raster.isGrayscale with
  | true => rfl
  | false => simp [isMonochrome_frameFormat, isGray, format]

/-- An image that is loaded from the frames of a plan shows them as they are. -/
theorem shows_of_ofFrames (steps : planned.Steps raster color options host matrix)
    (areFrames : AreFramesOf frames planned) {metadata : Metadata} {encodings : Encodings}
    (done : ofFrames .default (containerOf planned metadata encodings).readBack frames =
      .ok loaded) : ∃ decoded, planned.Shows frames decoded loaded := by
  have range : frames.color.range = .full := by
    rcases areFrames.color with ⟨full, isColor⟩
    rw [isColor]
    exact (planes_of_steps steps).color.range
  have described : ∃ full, frames.color.cicp =
      some { planned.color.cicp with fullRange := full } := by
    rcases areFrames.color with ⟨full, isColor⟩
    rw [isColor]
    exact ⟨full, rfl⟩
  rcases described with ⟨full, described⟩
  have cicp : codePoints (containerOf planned metadata encodings).readBack frames.color =
      planned.color.cicp :=
    (codePoints_eq planned metadata encodings range described).trans
      (Encoded.fullRange_of_resolve steps.resolved)
  unfold ofFrames at done
  rw [cicp] at done
  rcases done_of_bind done with ⟨decoded, resolved, done⟩
  rcases done_of_bind done with ⟨drawn, isDrawn, done⟩
  -- A saved file has no transforms, so what is drawn is what is loaded.
  cases done
  exact ⟨decoded, areFrames, resolved, rfl, _, isDrawn⟩

theorem color_of_shows (steps : planned.Steps raster color options host matrix)
    (compact : options.savesIcc = false) (shows : planned.Shows frames decoded loaded) :
    loaded.color =
      if options.format.isMonochrome then planned.color.description.withoutChroma
      else planned.color.description := by
  have written := steps.resolved
  rw [(EncodeOptions.color_validate steps.valid).1, compact] at written
  have read := shows.resolved
  rw [Encoded.icc_of_resolve_compact written] at read
  have isMonochrome := isMonochrome_of_frames steps shows.areFrames
  have keepsGray : raster.isGrayscale = true → frames.color.format.isMonochrome = true := by
    intro isGray
    rw [isMonochrome, isGray]
    rfl
  rw [shows.color, Encoded.description_of_resolve_compact written keepsGray read, isMonochrome]
  -- Nothing is lost on a gray raster, which was described without chroma in the first place.
  cases isGray : raster.isGrayscale with
  | false => rfl
  | true =>
      rw [isGray] at written
      rw [(Encoded.withoutChroma_eq_iff written).mpr rfl]
      simp

theorem raster_of_shows (steps : planned.Steps raster color options host matrix)
    (shows : planned.Shows frames decoded loaded) :
    loaded.raster.width = raster.width ∧ loaded.raster.height = raster.height ∧
      loaded.raster.hasAlpha = raster.hasAlpha ∧
      (loaded.raster.depth = .sixteen ↔ 8 < options.depth) ∧
      loaded.raster.isGrayscale = decoded.description.isGray := by
  have made := planes_of_steps steps
  have hostLayout := layout_hostRaster steps.isHost
  rcases shows.areFrames.color with ⟨full, isColor⟩
  rcases shows.areFrames.alpha with ⟨described, isAlpha⟩
  rcases shows.drawn with ⟨file, drawn⟩
  rcases of_rasterOf drawn (Decoded.isConsistent_resolve shows.resolved) with
    ⟨isGray, chosen, first, -, isFirst, recolored, gray, -⟩
  rcases Strategy.of_decode isFirst with ⟨-, pixels, isPixels, rfl⟩
  have size := Strategy.size_of_decodePixels isPixels
  have hasAlpha : frames.alpha.isSome = raster.hasAlpha := by
    rw [isAlpha, Option.isSome_map]
    exact hasAlpha_of_steps steps
  have depth : frames.color.depth = options.depth := by
    rw [isColor]
    exact made.color.depth
  have width : frames.color.width = raster.width := by
    rw [isColor]
    exact made.color.sizeWidth.trans hostLayout.2.1
  have height : frames.color.height = raster.height := by
    rw [isColor]
    exact made.color.sizeHeight.trans hostLayout.2.2
  refine ⟨?_, ?_, ?_, ?_, gray⟩
  · exact (recolored.width.trans size.1).trans width
  · exact (recolored.height.trans size.2).trans height
  · exact (recolored.hasAlpha.trans (ChannelLayout.hasAlpha_ofFlags _ _)).trans hasAlpha
  · rw [recolored.depth, ← depth]
    by_cases deep : 8 < frames.color.depth <;> simp [Strategy.select, deep]

theorem isGray_of_shows (steps : planned.Steps raster color options host matrix)
    (shows : planned.Shows frames decoded loaded) :
    decoded.description.isGray = true ↔ raster.isGrayscale = true ∨
      options.format.isMonochrome = true ∨ (options.savesIcc = true ∧ IsGrayProfile color.icc) := by
  rw [Decoded.isGray_resolve_iff shows.resolved, isMonochrome_of_frames steps shows.areFrames,
    Bool.or_eq_true, or_assoc]
  have written := steps.resolved
  rw [(EncodeOptions.color_validate steps.valid).1] at written
  cases isGray : raster.isGrayscale with
  | true => simp
  | false =>
      rw [isGray] at written
      rw [Encoded.isGrayProfile_icc_iff written]

end Plans

section Codecs

variable {σ : Type} {encoder : Encoder σ} {decoder : Decoder σ} {raster : Raster}
  {options : EncodeOptions} {color : RasterColor} {metadata : Metadata} {state later : σ}
  {saved : SavedImage}

/-- With an honest codec the file of a saved image shows its plan. -/
theorem exists_shows (honest : IsHonest encoder decoder)
    (done : (save raster color options metadata encoder state).result = .ok saved)
    (fits : saved.file.IsAddressable)
    (reaches : Reaches encoder decoder (save raster color options metadata encoder state).state
      later) :
    ∃ (planned : Plan) (host : Raster) (matrix : YuvMatrix) (frames : LoadedImage.Frames)
      (decoded : Decoded) (loaded : LoadedImage) (last : σ),
      planned.Steps raster color options host matrix ∧
      saved.color = planned.color.description ∧ planned.Shows frames decoded loaded ∧
      load .default decoder saved.file later = (.ok loaded, last) := by
  rcases reading_of_save honest.sound done fits with
    ⟨planned, host, matrix, encodings, between, isPlanned, steps, areFrom, parsed, -⟩
  rcases areFramesOf_decodeItems honest steps areFrom reaches metadata with
    ⟨frames, last, decodes, areFrames⟩
  rcases exists_ofFrames steps areFrames metadata encodings with ⟨-, loaded, -, -, isLoaded⟩
  rcases shows_of_ofFrames steps areFrames isLoaded with ⟨decoded, shows⟩
  have reported : saved.color = planned.color.description := by
    rcases parts_of_save done with ⟨other, written, next, isOther, -, assembled⟩
    rcases done_of_bind assembled with ⟨file, -, finished⟩
    cases isOther.symm.trans isPlanned
    cases finished
    rfl
  have opened : open? .default saved.file =
      .ok (containerOf planned metadata encodings).readBack :=
    (bind_of_done parsed).trans rfl
  refine ⟨planned, host, matrix, frames, decoded, loaded, last, steps, reported, shows, ?_⟩
  unfold load
  rw [opened]
  simp only [decodes, isLoaded]

/-- What is kept of the raster of a saved image in every colour mode. -/
structure Resembles (loaded raster : Raster) (options : EncodeOptions) (color : RasterColor) :
    Prop where
  width : loaded.width = raster.width
  height : loaded.height = raster.height
  hasAlpha : loaded.hasAlpha = raster.hasAlpha
  wide : loaded.depth = .sixteen ↔ 8 < options.depth
  gray : loaded.isGrayscale = true ↔ raster.isGrayscale = true ∨
    options.format.isMonochrome = true ∨ (options.savesIcc = true ∧ IsGrayProfile color.icc)

/-- With an honest codec every saved image can be loaded, and resembles its raster. -/
theorem resembles_of_save (honest : IsHonest encoder decoder)
    (done : (save raster color options metadata encoder state).result = .ok saved)
    (fits : saved.file.IsAddressable)
    (reaches : Reaches encoder decoder (save raster color options metadata encoder state).state
      later) :
    ∃ loaded last, load .default decoder saved.file later = (.ok loaded, last) ∧
      Resembles loaded.raster raster options color := by
  rcases exists_shows honest done fits reaches with
    ⟨planned, host, matrix, frames, decoded, loaded, last, steps, -, shows, loads⟩
  rcases raster_of_shows steps shows with ⟨width, height, hasAlpha, wide, gray⟩
  refine ⟨loaded, last, loads, width, height, hasAlpha, wide, ?_⟩
  rw [gray]
  exact isGray_of_shows steps shows

def redPixel : Raster :=
  ⟨.rgb, .eight, .build 1 1 fun _ _ => #v[HostDepth.eight.clamp 200, HostDepth.eight.clamp 30,
    HostDepth.eight.clamp 30]⟩

/-- Luma alone, at ten bits. -/
def lumaOptions : EncodeOptions :=
  { EncodeOptions.default with format := .monochrome, depth := 10 }

/-- The save of the pixel with a codec that writes everything down. -/
def lumaRun : Run (List Frame) :=
  save redPixel .srgb lumaOptions ⟨none, none⟩ Ledger.encoder []

theorem exists_lumaRun : ∃ saved, lumaRun.result = .ok saved ∧
    saved.file.IsAddressable :=
  lumaRun.exists_saved (by decide +kernel)

/-- The red pixel comes back as a gray one of 16 bits. -/
theorem resembles_redPixel : ∃ saved loaded last, lumaRun.result = .ok saved ∧
    load .default Ledger.decoder saved.file lumaRun.state = (.ok loaded, last) ∧
      Resembles loaded.raster redPixel lumaOptions .srgb ∧ loaded.raster.depth = .sixteen ∧
      loaded.raster.isGrayscale = true := by
  rcases exists_lumaRun with ⟨saved, done, fits⟩
  rcases resembles_of_save Ledger.isHonest done fits (.refl _) with
    ⟨loaded, last, loads, resembles⟩
  exact ⟨saved, loaded, last, done, loads, resembles, resembles.wide.mpr (by decide),
    resembles.gray.mpr (Or.inr (Or.inl rfl))⟩

/--
With an honest codec an image that is saved under code points is described in the same way when it
is loaded. Only colour that is coded without chroma is then described as gray.
-/
theorem color_of_load_save (honest : IsHonest encoder decoder)
    (compact : options.savesIcc = false)
    (done : (save raster color options metadata encoder state).result = .ok saved)
    (fits : saved.file.IsAddressable)
    (reaches : Reaches encoder decoder (save raster color options metadata encoder state).state
      later) :
    ∃ loaded last, load .default decoder saved.file later = (.ok loaded, last) ∧
      loaded.color = (if options.format.isMonochrome then saved.color.withoutChroma
        else saved.color) ∧
      (loaded.color = saved.color ↔
        raster.isGrayscale = true ∨ options.format.isMonochrome = false) := by
  rcases exists_shows honest done fits reaches with
    ⟨planned, host, matrix, frames, decoded, loaded, last, steps, reported, shows, loads⟩
  have written := steps.resolved
  rw [(EncodeOptions.color_validate steps.valid).1, compact] at written
  have described := color_of_shows steps compact shows
  rw [← reported] at described
  refine ⟨loaded, last, loads, described, ?_⟩
  rw [described, ← Encoded.withoutChroma_eq_iff written, ← reported]
  cases options.format.isMonochrome <;> simp

/-- The description of the red pixel changes. -/
theorem color_of_load_redPixel : ∃ saved loaded last, lumaRun.result = .ok saved ∧
    load .default Ledger.decoder saved.file lumaRun.state = (.ok loaded, last) ∧
      loaded.color = saved.color.withoutChroma ∧ loaded.color ≠ saved.color := by
  rcases exists_lumaRun with ⟨saved, done, fits⟩
  rcases color_of_load_save Ledger.isHonest rfl done fits (.refl _) with
    ⟨loaded, last, loads, described, same⟩
  refine ⟨saved, loaded, last, done, loads, described, ?_⟩
  rw [Ne, same]
  decide

end Codecs

end SavedImage

end AvifStill
