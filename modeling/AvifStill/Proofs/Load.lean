import AvifStill.Container.Writer
import AvifStill.Load
import AvifStill.Proofs.Color.Description
import AvifStill.Proofs.Transcode

/-!
# What is loaded agrees with the file

A decoder may answer with any frames. Whatever it answers, an image that is loaded has the size of
the colour item, alpha when the file has an alpha item and 16 bits when the colour frame has more
than eight, and its raster, its description and its profile agree on whether it is gray.
-/

namespace AvifStill.LoadedImage

open Av1 Color Icc

variable {σ : Type}

/-- A frame that passes the check is valid and has the size of its item. -/
structure Fits (frame : Frame) (item : CodedImage) : Prop where
  valid : frame.validate = .ok ()
  width : frame.width = item.width.toNat
  height : frame.height = item.height.toNat

theorem checkFrame_iff {item : CodedImage} {frame checked : Frame} :
    checkFrame item frame = .ok checked ↔ Fits frame item ∧ checked = frame := by
  constructor
  · intro done
    rcases done_of_bind done with ⟨valid, isValid, done⟩
    split at done
    · cases done
    · rename_i sized
      cases done
      simp only [not_or, Decidable.not_not] at sized
      exact ⟨⟨isValid, sized.1, sized.2⟩, rfl⟩
  · rintro ⟨⟨valid, width, height⟩, rfl⟩
    have sized : ¬(checked.width ≠ item.width.toNat ∨ checked.height ≠ item.height.toNat) := by
      simp [width, height]
    exact (bind_of_done valid).trans (if_neg sized)

theorem decodeItem_of_fits {decoder : Decoder σ} {item : CodedImage} {state : σ} {frame : Frame}
    (answered : (decoder.decode item.data item.config state).1 = .ok frame)
    (fits : Fits frame item) :
    decodeItem decoder item state =
      (.ok frame, (decoder.decode item.data item.config state).2) := by
  refine Prod.ext ?_ rfl
  simp only [decodeItem, answered]
  exact checkFrame_iff.mpr ⟨fits, rfl⟩

theorem of_decodeItem {decoder : Decoder σ} {item : CodedImage} {state after : σ} {frame : Frame}
    (done : decodeItem decoder item state = (.ok frame, after)) :
    decoder.decode item.data item.config state = (.ok frame, after) ∧ Fits frame item := by
  simp only [decodeItem, Prod.mk.injEq] at done
  rcases done with ⟨done, rfl⟩
  rcases done_of_bind done with ⟨answer, answered, checked⟩
  rcases checkFrame_iff.mp checked with ⟨fits, rfl⟩
  exact ⟨Prod.ext answered rfl, fits⟩

theorem of_decodeItems {decoder : Decoder σ} {file : Container} {state after : σ} {frames : Frames}
    (done : decodeItems decoder file state = (.ok frames, after)) :
    (∃ between, decoder.decode file.color.data file.color.config state =
        (.ok frames.color, between)) ∧
      Fits frames.color file.color ∧ frames.alpha.isSome = file.alpha.isSome := by
  unfold decodeItems at done
  split at done
  · cases done
  · rename_i color between decoded
    rcases of_decodeItem decoded with ⟨answered, fits⟩
    split at done
    · rename_i noAlpha
      cases done
      rw [noAlpha]
      exact ⟨⟨_, answered⟩, fits, rfl⟩
    · rename_i item isItem
      rw [isItem]
      simp only [Prod.mk.injEq] at done
      cases found : (decodeItem decoder item between).1 with
      | error fault =>
          rw [found] at done
          cases done.1
      | ok alpha =>
          rw [found] at done
          cases done.1
          exact ⟨⟨between, answered⟩, fits, rfl⟩

theorem fits_alpha_of_decodeItems {decoder : Decoder σ} {file : Container} {state after : σ}
    {frames : Frames} (done : decodeItems decoder file state = (.ok frames, after))
    {item : CodedImage} (isItem : file.alpha = some item) :
    ∃ alpha, frames.alpha = some alpha ∧ Fits alpha item := by
  unfold decodeItems at done
  split at done
  · cases done
  rw [isItem] at done
  rename_i color between decoded
  rcases answer : decodeItem decoder item between with ⟨result, last⟩
  simp only [answer] at done
  cases result with
  | error fault => cases done
  | ok alpha =>
      cases done
      exact ⟨alpha, rfl, (of_decodeItem answer).2⟩

/-- A raster in colour is reduced to gray exactly when its description asks for that. -/
theorem isGrayscale_fixUp {first : Raster} {isGray described : Bool}
    (drawn : first.isGrayscale = isGray) (implies : isGray = true → described = true) :
    (if (described && !isGray) = true then first.toGrayscale else first).IsRecoloringOf first ∧
      (if (described && !isGray) = true then first.toGrayscale else first).isGrayscale =
        described := by
  cases isGray with
  | true =>
      rw [implies rfl]
      exact ⟨.refl first, drawn⟩
  | false =>
      cases described with
      | true => exact ⟨first.isRecoloringOf_toGrayscale, first.isGrayscale_toGrayscale⟩
      | false => exact ⟨.refl first, drawn⟩

/-- The raster before anything is done to its colour comes straight from a strategy. -/
theorem of_rasterOf {file : Container} {frames : Frames} {decoded : Decoded} {cicp : Cicp}
    {raster : Raster} (done : rasterOf file frames decoded cicp = .ok raster)
    (consistent : decoded.IsConsistent frames.color.format.isMonochrome) :
    ∃ (isGray : Bool) (matrix : YuvMatrix) (first : Raster),
      isGray = (frames.color.format.isMonochrome || decoded.loadsGray) ∧
      (Strategy.select frames.alpha.isSome isGray (8 < frames.color.depth)).decode
        ⟨frames.color, frames.alpha, matrix⟩ = .ok first ∧
      raster.IsRecoloringOf first ∧ raster.isGrayscale = decoded.description.isGray ∧
      (isGray = true → file.premultiplied = false → raster = first) := by
  rcases done_of_bind done with ⟨matrix, -, done⟩
  rcases done_of_bind done with ⟨first, isFirst, done⟩
  refine ⟨_, matrix, first, rfl, isFirst, ?_⟩
  cases done
  have layout : first.isGrayscale = (frames.color.format.isMonochrome || decoded.loadsGray) := by
    rcases Strategy.of_decode isFirst with ⟨-, pixels, -, rfl⟩
    exact ChannelLayout.isGray_ofFlags _ _
  have implies : (frames.color.format.isMonochrome || decoded.loadsGray) = true →
      decoded.description.isGray = true := by
    intro isGray
    rcases Bool.or_eq_true_iff.mp isGray with isMonochrome | isLuma
    · exact consistent.monochrome isMonochrome
    · exact consistent.luma isLuma
  have colored := isGrayscale_fixUp layout implies
  split
  · rename_i premultiplied
    refine ⟨(Raster.isRecoloringOf_unpremultiply _).trans colored.1,
      (congrArg ChannelLayout.isGray (Raster.layout_unpremultiply _)).trans colored.2, ?_⟩
    intro _ straight
    cases premultiplied.symm.trans straight
  · refine ⟨colored.1, colored.2, ?_⟩
    intro isGray _
    simp [isGray]

/-- Valid frames of one size become a raster under any matrix that is known. -/
theorem exists_rasterOf {frames : Frames} {cicp : Cicp} {matrix : YuvMatrix}
    (valid : frames.color.validate = .ok ())
    (size : ∀ alpha, frames.alpha = some alpha →
      (alpha.width, alpha.height) = (frames.color.width, frames.color.height))
    (known : YuvMatrix.ofCicp cicp.matrix cicp.primaries = .ok matrix) (file : Container)
    (decoded : Decoded) : ∃ raster, rasterOf file frames decoded cicp = .ok raster := by
  have chosen : ∃ chosen, matrixFor cicp
      (frames.color.format.isMonochrome || decoded.loadsGray) = .ok chosen := by
    unfold matrixFor
    split
    · exact ⟨_, rfl⟩
    · exact ⟨matrix, known⟩
  rcases chosen with ⟨chosen, isChosen⟩
  have depth : HostDepth.ofCoded frames.color.depth = (Strategy.select frames.alpha.isSome
      (frames.color.format.isMonochrome || decoded.loadsGray) (8 < frames.color.depth)).depth := by
    by_cases deep : 8 < frames.color.depth <;> simp [HostDepth.ofCoded, Strategy.select, deep]
  rcases @Strategy.exists_decode ⟨frames.color, frames.alpha, chosen⟩ _ depth (fun _ => valid)
    (ChannelLayout.hasAlpha_ofFlags _ _).symm size with ⟨first, isFirst⟩
  exact ⟨_, (bind_of_done isChosen).trans (bind_of_done isFirst)⟩

theorem parse_of_open? {options : DecodeOptions} {file : Bytes} {container : Container}
    (opened : open? options file = .ok container) : Container.parse file = .ok container := by
  rcases done_of_bind opened with ⟨parsed, isParsed, checked⟩
  rcases done_of_bind checked with ⟨-, -, same⟩
  cases same
  exact isParsed

/-- The steps of a load that succeeds. -/
theorem parts_of_load {options : DecodeOptions} {decoder : Decoder σ} {file : Bytes}
    {state after : σ} {loaded : LoadedImage}
    (done : load options decoder file state = (.ok loaded, after)) :
    ∃ container frames, open? options file = .ok container ∧
      decodeItems decoder container state = (.ok frames, after) ∧
      ofFrames options container frames = .ok loaded := by
  unfold load at done
  split at done
  · cases done
  rename_i container opened
  split at done
  · cases done
  rename_i frames between decoded
  rcases Prod.mk.inj done with ⟨finished, rfl⟩
  exact ⟨container, frames, opened, decoded, finished⟩

/-- What a loaded image has in common with its file and the colour frame. -/
structure Agrees (loaded : LoadedImage) (file : Container) (frame : Frame) : Prop where
  width : loaded.raster.width = file.color.width.toNat
  height : loaded.raster.height = file.color.height.toNat
  alpha : loaded.raster.hasAlpha = file.alpha.isSome
  wide : loaded.raster.depth = .sixteen ↔ 8 < frame.depth
  gray : loaded.raster.isGrayscale = loaded.color.isGray
  profile : ∀ icc, loaded.icc = some icc →
    ∃ profile, Profile.ofBytes? icc = .ok profile ∧ profile.isGray = loaded.raster.isGrayscale

theorem agrees_of_ofFrames {options : DecodeOptions} {file : Container} {frames : Frames}
    {loaded : LoadedImage} (turnedOff : options.appliesTransforms = false)
    (done : ofFrames options file frames = .ok loaded) (fits : Fits frames.color file.color)
    (alpha : frames.alpha.isSome = file.alpha.isSome) :
    loaded.Agrees file frames.color := by
  rcases done_of_bind done with ⟨decoded, resolved, done⟩
  rcases done_of_bind done with ⟨raster, drawn, done⟩
  have consistent := Decoded.isConsistent_resolve resolved
  rcases of_rasterOf drawn consistent with ⟨isGray, matrix, first, -, isFirst, recolored, gray, -⟩
  rcases Strategy.of_decode isFirst with ⟨wide, pixels, isPixels, rfl⟩
  have size := Strategy.size_of_decodePixels isPixels
  simp only [turnedOff, Bool.false_and, Bool.false_eq_true, if_false] at done
  cases done
  constructor
  · exact (recolored.width.trans size.1).trans fits.width
  · exact (recolored.height.trans size.2).trans fits.height
  · exact (recolored.hasAlpha.trans (ChannelLayout.hasAlpha_ofFlags _ _)).trans alpha
  · rw [recolored.depth]
    by_cases deep : 8 < frames.color.depth <;> simp [Strategy.select, deep]
  · exact gray
  · intro icc isIcc
    rcases consistent.profile icc isIcc with ⟨profile, read, same⟩
    exact ⟨profile, read, same.trans gray.symm⟩

/-- Transforms apart, every image that is loaded agrees with its file, whatever the decoder does. -/
theorem agrees_of_load {options : DecodeOptions} {decoder : Decoder σ} {file : Bytes}
    {state after : σ} {loaded : LoadedImage} (turnedOff : options.appliesTransforms = false)
    (done : load options decoder file state = (.ok loaded, after)) :
    ∃ container frame between, Container.parse file = .ok container ∧
      decoder.decode container.color.data container.color.config state = (.ok frame, between) ∧
      loaded.Agrees container frame := by
  unfold load at done
  split at done
  · cases done
  rename_i container opened
  rcases done_of_bind opened with ⟨parsed, isParsed, checked⟩
  rcases done_of_bind checked with ⟨small, -, same⟩
  cases same
  split at done
  · cases done
  rename_i frames between decoded
  rcases of_decodeItems decoded with ⟨⟨afterColor, answered⟩, fits, alpha⟩
  have finished := congrArg Prod.fst done
  exact ⟨container, frames.color, afterColor, isParsed, answered,
    agrees_of_ofFrames turnedOff finished fits alpha⟩

/-- A gray pixel of ten bits with alpha, under a profile that cannot be read. -/
def veiledPixel : Container where
  color := ⟨[7], .forFrame 10 .monochrome, 1, 1⟩
  alpha := some ⟨[8], .forFrame 10 .monochrome, 1, 1⟩
  cicp := none
  icc := some [1, 2, 3]
  transforms := .none
  exifItem := none
  xmp := none
  premultiplied := true

/-- A decoder that answers everything with one gray pixel of ten bits. -/
def pixelDecoder : Decoder Unit :=
  ⟨fun _ _ state => (.ok ⟨10, .monochrome, .full, none, .build 1 1 fun _ _ => 512, none, none⟩,
    state)⟩

theorem agrees_veiledPixel : ∃ loaded,
    load ⟨0, false⟩ pixelDecoder veiledPixel.toBytes () = (.ok loaded, ()) ∧
      ∃ container frame between, Container.parse veiledPixel.toBytes = .ok container ∧
        pixelDecoder.decode container.color.data container.color.config () =
          (.ok frame, between) ∧ loaded.Agrees container frame := by
  have isSome : (load ⟨0, false⟩ pixelDecoder veiledPixel.toBytes ()).1.toOption.isSome = true := by
    decide +kernel
  rcases Option.isSome_iff_exists.mp isSome with ⟨loaded, found⟩
  have done : load ⟨0, false⟩ pixelDecoder veiledPixel.toBytes () = (.ok loaded, ()) :=
    Prod.ext (ok_of_toOption found) rfl
  exact ⟨loaded, done, agrees_of_load rfl done⟩

end AvifStill.LoadedImage
