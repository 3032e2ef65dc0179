import AvifStill.Proofs.Av1.Codec
import AvifStill.Proofs.Container.SecondReading
import AvifStill.Proofs.Transcode
import AvifStill.Save

/-!
# What a save writes

A saved file is read as exactly what the saved image reports, for every encoder that hands out
payloads with data and with a configuration that fits the frame.
-/

namespace AvifStill

namespace Raster

/-- Converting between profiles moves colour alone. -/
theorem of_convert {source target : Icc.Profile} {raster converted : Raster}
    (done : raster.convert source target = .ok converted) :
    converted.layout = raster.layout ∧ converted.IsRecoloringOf raster := by
  rcases raster with ⟨layout, depth, pixels⟩
  cases layout with
  | gray =>
      cases done
      exact ⟨rfl, .refl _⟩
  | grayAlpha =>
      cases done
      exact ⟨rfl, .refl _⟩
  | rgb =>
      rcases done_of_bind done with ⟨⟨sourceShaper, targetShaper⟩, -, done⟩
      rcases done_of_bind done with ⟨map, -, done⟩
      cases done
      exact ⟨rfl, rfl, rfl, rfl, rfl, fun _ _ => rfl⟩
  | rgba =>
      rcases done_of_bind done with ⟨⟨sourceShaper, targetShaper⟩, -, done⟩
      rcases done_of_bind done with ⟨map, -, done⟩
      cases done
      refine ⟨rfl, rfl, rfl, rfl, rfl, ?_⟩
      intro column row
      have mapped := pixels.cell?_map (fun pixel : Pixel .rgba depth =>
        ((map.apply pixel).push (Pixel.alpha pixel) : Pixel .rgba depth)) column row
      exact (congrArg (Option.map fun pixel => (Pixel.alpha pixel).val) mapped).trans
        (Option.map_map ..)

end Raster

namespace EncodeOptions

/-- Only a depth that can be coded is valid, and it is kept. -/
theorem depth_validate {options valid : EncodeOptions} (done : options.validate = .ok valid) :
    valid.depth = options.depth ∧ Frame.IsCodedDepth options.depth := by
  unfold validate at done
  split at done
  · cases done
  · rename_i coded
    cases done
    exact ⟨rfl, Decidable.not_not.mp coded⟩

theorem color_validate {options valid : EncodeOptions} (done : options.validate = .ok valid) :
    valid.savesIcc = options.savesIcc ∧ valid.format = options.format := by
  unfold validate at done
  split at done
  · cases done
  · cases done
    exact ⟨rfl, rfl⟩

/-- All numbers are in range, those for alpha too. -/
theorem ranges_validate {options valid : EncodeOptions} (done : options.validate = .ok valid) :
    valid.leastQuantizer ≤ valid.mostQuantizer ∧ valid.mostQuantizer ≤ 63 ∧
      valid.alphaQuantizer = min options.alphaQuantizer 63 ∧ valid.speed ≤ 10 ∧
      1 ≤ valid.threads ∧ valid.threads ≤ 64 := by
  unfold validate at done
  split at done
  · cases done
  · cases done
    refine ⟨Nat.min_le_right _ _, Nat.min_le_right _ _, rfl, Nat.min_le_right _ _,
      Nat.le_max_left _ _, ?_⟩
    exact Nat.max_le.mpr ⟨by decide, Nat.min_le_right _ _⟩

end EncodeOptions

namespace SavedImage

open Av1 Color

/-- The steps of a plan that succeeds. -/
structure Plan.Steps (plan : Plan) (raster : Raster) (color : RasterColor)
    (options : EncodeOptions) (host : Raster) (matrix : YuvMatrix) : Prop where
  valid : options.validate = .ok plan.options
  size : frameSize raster = .ok (plan.width, plan.height)
  resolved : Encoded.resolve color raster.isGrayscale plan.options.savesIcc = .ok plan.color
  isHost : hostRaster raster plan.options plan.color = .ok host
  isMatrix : YuvMatrix.ofCicp plan.color.cicp.matrix plan.color.cicp.primaries = .ok matrix
  planes : (Strategy.ofRaster host).encode host
    ⟨plan.options.depth, frameFormat raster plan.options, matrix⟩ = .ok plan.planes
  settings : plan.settings =
    colorSettings plan.options plan.color.cicp (Tile.plan plan.width plan.height)

theorem steps_of_plan {raster : Raster} {color : RasterColor} {options : EncodeOptions}
    {planned : Plan} (done : plan raster color options = .ok planned) :
    ∃ host matrix, planned.Steps raster color options host matrix := by
  rcases done_of_bind done with ⟨valid, isValid, done⟩
  rcases done_of_bind done with ⟨⟨width, height⟩, isSize, done⟩
  rcases done_of_bind done with ⟨resolved, isResolved, done⟩
  rcases done_of_bind done with ⟨host, isHost, done⟩
  rcases done_of_bind done with ⟨matrix, isMatrix, done⟩
  rcases done_of_bind done with ⟨planes, isPlanes, done⟩
  cases done
  exact ⟨host, matrix, isValid, isSize, isResolved, isHost, isMatrix, isPlanes, rfl⟩

theorem layout_hostRaster {raster host : Raster} {options : EncodeOptions} {color : Encoded}
    (done : hostRaster raster options color = .ok host) :
    host.layout = raster.layout ∧ host.width = raster.width ∧ host.height = raster.height := by
  have adapted := raster.layout_adaptDepth options.depth
  unfold hostRaster at done
  simp only at done
  split at done
  · rcases Raster.of_convert done with ⟨layout, recolored⟩
    exact ⟨layout.trans adapted.1, recolored.width.trans adapted.2.1,
      recolored.height.trans adapted.2.2⟩
  · cases done
    exact adapted

theorem size_of_frameSize {raster : Raster} {width height : UInt32}
    (done : frameSize raster = .ok (width, height)) :
    width.toNat = raster.width ∧ height.toNat = raster.height := by
  unfold frameSize at done
  split at done
  · cases done
  split at done
  · cases done
  · rename_i small
    simp only [not_or, Nat.not_le] at small
    cases done
    exact ⟨UInt32.toNat_ofNat_of_lt small.1, UInt32.toNat_ofNat_of_lt small.2⟩

theorem planes_of_steps {planned : Plan} {raster host : Raster} {color : RasterColor}
    {options : EncodeOptions} {matrix : YuvMatrix}
    (steps : planned.Steps raster color options host matrix) :
    Strategy.AreMadeOf planned.planes host
      ⟨options.depth, frameFormat raster planned.options, matrix⟩ := by
  have depth := (EncodeOptions.depth_validate steps.valid).1
  have made := (Strategy.pixels_of_encode steps.planes).1
  rw [depth] at made
  exact Strategy.areMadeOf_encodePixels made

variable {σ : Type}

/-- The encoder's answers in a save that succeeds, and the states that they leave it in. -/
structure Encodings.AreFrom (encodings : Encodings) (encoder : Encoder σ) (plan : Plan)
    (state between after : σ) : Prop where
  color : encoder.encode plan.planes.color plan.settings state = (.ok encodings.color, between)
  alpha : encodeAlpha encoder plan between = (.ok encodings.alpha, after)

theorem parts_of_save {encoder : Encoder σ} {raster : Raster} {color : RasterColor}
    {options : EncodeOptions} {metadata : Metadata} {state : σ} {saved : SavedImage}
    (done : (save raster color options metadata encoder state).result = .ok saved) :
    ∃ planned encodings between, plan raster color options = .ok planned ∧
      encodings.AreFrom encoder planned state between
        (save raster color options metadata encoder state).state ∧
      assemble planned metadata encodings = .ok saved := by
  unfold save at done ⊢
  split at done
  · cases done
  rename_i planned isPlanned
  unfold execute at done ⊢
  split at done
  · cases done
  rename_i color between isColor
  split at done
  · cases done
  rename_i alpha after isAlpha
  split at done
  · cases done
  rename_i found isFound
  cases done
  refine ⟨planned, ⟨color, alpha⟩, between, isPlanned, ⟨isColor, ?_⟩, isFound⟩
  exact isAlpha

theorem alpha_of_encodeAlpha {encoder : Encoder σ} {planned : Plan} {state after : σ}
    {alpha : Option Payload} (done : encodeAlpha encoder planned state = (.ok alpha, after)) :
    (planned.planes.alpha = none ∧ alpha = none) ∨
      ∃ frame payload, planned.planes.alpha = some frame ∧ alpha = some payload ∧
        encoder.encode frame (alphaSettings planned) state = (.ok payload, after) := by
  unfold encodeAlpha at done
  split at done
  · rename_i isNone
    cases done
    exact Or.inl ⟨isNone, rfl⟩
  · rename_i frame isSome
    rcases answer : encoder.encode frame (alphaSettings planned) state with ⟨result, next⟩
    rw [answer] at done
    cases result with
    | error fault => cases done
    | ok payload =>
        cases done
        exact Or.inr ⟨frame, payload, isSome, rfl, answer⟩

/-- The Exif block that is written has an item, which is the block behind four zero bytes. -/
theorem exifToItem?_writtenExif (options : EncodeOptions) (metadata : Metadata) :
    (writtenExif options metadata).bind Metadata.exifToItem? =
      (writtenExif options metadata).map fun exif => [0, 0, 0, 0] ++ exif := by
  cases isExif : writtenExif options metadata with
  | none => rfl
  | some exif =>
      unfold writtenExif at isExif
      split at isExif
      · have hasItem := (Option.filter_eq_some_iff.mp isExif).2
        unfold Metadata.exifToItem? at hasItem ⊢
        split at hasItem
        · rename_i long
          simp only [Option.bind_some, if_pos long]
          rfl
        · cases hasItem
      · cases isExif

theorem ne_nil_of_writtenXmp {options : EncodeOptions} {metadata : Metadata} {xmp : Bytes}
    (isXmp : writtenXmp options metadata = some xmp) : xmp ≠ [] := by
  unfold writtenXmp at isXmp
  split at isXmp
  · have notEmpty := (Option.filter_eq_some_iff.mp isXmp).2
    simpa using notEmpty
  · cases isXmp

theorem full_containerOf {planned : Plan} {metadata : Metadata} {encodings : Encodings}
    (color : encodings.color.data ≠ [])
    (alpha : ∀ payload, encodings.alpha = some payload → payload.data ≠ []) :
    (containerOf planned metadata encodings).Full := by
  intro stored isMember
  simp only [Container.storedItems, containerOf, exifToItem?_writtenExif, List.mem_append,
    Option.mem_toList, Option.map_eq_some_iff, List.mem_singleton] at isMember
  rcases isMember with ((⟨item, ⟨exif, -, rfl⟩, rfl⟩ | ⟨xmp, isXmp, rfl⟩) | ⟨image, ⟨payload, isPayload, rfl⟩, rfl⟩) | rfl
  · simp
  · exact ne_nil_of_writtenXmp isXmp
  · exact alpha payload isPayload
  · exact color

/-- What is known of a container that a saved file is read as. -/
structure IsReadAs (saved : SavedImage) (raster : Raster) (frame : Frame) (encodings : Encodings)
    (container : Container) : Prop where
  data : container.color.data = encodings.color.data
  colorSize : saved.colorSize = container.color.data.length
  alpha : container.alpha.map (·.data) = encodings.alpha.map (·.data)
  hasAlpha : container.alpha.isSome = raster.hasAlpha
  alphaSize : saved.alphaSize = (container.alpha.map fun alpha => alpha.data.length).getD 0
  width : container.color.width.toNat = raster.width
  height : container.color.height.toNat = raster.height
  depth : container.color.config.depth = frame.depth
  format : container.color.config.format = frame.format
  icc : container.icc = saved.icc
  xmp : container.xmp = saved.xmp
  exifItem : container.exifItem = saved.exif.map fun exif => [0, 0, 0, 0] ++ exif
  transforms : container.transforms = .none
  premultiplied : container.premultiplied = false
  cicp : container.cicp = none ∨ container.cicp = saved.cicp
  noCicp : saved.icc.isSome = true → container.cicp = none

/-- The code points that are read back are those that the saved image declares, if any. -/
theorem readCodePoints?_containerOf (planned : Plan) (metadata : Metadata)
    (encodings : Encodings) :
    let read := (containerOf planned metadata encodings).readCodePoints?
    (read = none ∨ read =
      if planned.color.icc.isNone then some planned.color.cicp else none) ∧
      (planned.color.icc.isSome = true → read = none) := by
  cases isIcc : planned.color.icc with
  | none =>
      have cases := (containerOf planned metadata encodings).readCodePoints?_cases
      exact ⟨cases, fun isSome => (nomatch isSome)⟩
  | some icc =>
      have none : (containerOf planned metadata encodings).readCodePoints? = none :=
        Container.readCodePoints?_of_icc isIcc
      exact ⟨Or.inl none, fun _ => none⟩

theorem coded_of_steps {planned : Plan} {raster host : Raster} {color : RasterColor}
    {options : EncodeOptions} {matrix : YuvMatrix}
    (steps : planned.Steps raster color options host matrix) :
    Frame.IsCodedDepth planned.planes.color.depth ∧
      ∀ alpha, planned.planes.alpha = some alpha → Frame.IsCodedDepth alpha.depth := by
  have made := planes_of_steps steps
  constructor
  · rw [made.color.depth]
    exact made.color.shape.coded
  · intro alpha isAlpha
    have madeAlpha := (made.alpha alpha isAlpha).1
    rw [madeAlpha.depth]
    exact madeAlpha.shape.coded

theorem hasAlpha_of_steps {planned : Plan} {raster host : Raster} {color : RasterColor}
    {options : EncodeOptions} {matrix : YuvMatrix}
    (steps : planned.Steps raster color options host matrix) :
    planned.planes.alpha.isSome = raster.hasAlpha :=
  (planes_of_steps steps).hasAlpha.trans
    (congrArg ChannelLayout.hasAlpha (layout_hostRaster steps.isHost).1)

/-- The file of an image whose payloads suit their frames is read as what is reported. -/
theorem isReadAs_assemble {planned : Plan} {raster host : Raster} {color : RasterColor}
    {options : EncodeOptions} {matrix : YuvMatrix} {metadata : Metadata} {encodings : Encodings}
    {saved : SavedImage} (steps : planned.Steps raster color options host matrix)
    (assembled : assemble planned metadata encodings = .ok saved)
    (suits : encodings.color.Suits planned.planes.color)
    (alphaData : ∀ payload, encodings.alpha = some payload → payload.data ≠ [])
    (sameAlpha : encodings.alpha.isSome = planned.planes.alpha.isSome)
    (fits : saved.file.IsAddressable) :
    Container.parse saved.file = .ok (containerOf planned metadata encodings).readBack ∧
      saved.IsReadAs raster planned.planes.color encodings
        (containerOf planned metadata encodings).readBack := by
  rcases done_of_bind assembled with ⟨file, serialized, finished⟩
  rcases Container.serialized_eq serialized with ⟨isFile, pixels⟩
  cases finished
  have full : (containerOf planned metadata encodings).Full :=
    full_containerOf suits.data alphaData
  have has : (containerOf planned metadata encodings).HasDenominators :=
    fun clap isClap => (nomatch isClap)
  have size := size_of_frameSize steps.size
  have codePoints := readCodePoints?_containerOf planned metadata encodings
  have alphaOfRaster := sameAlpha.trans (hasAlpha_of_steps steps)
  rw [isFile] at fits ⊢
  refine ⟨Container.parse_toBytes fits pixels has full, ?_⟩
  exact {
    data := rfl
    colorSize := rfl
    alpha := by
      cases isAlpha : encodings.alpha <;> simp [Container.readBack, containerOf, isAlpha, codedImage]
    hasAlpha := by
      rw [← alphaOfRaster]
      cases isAlpha : encodings.alpha <;> simp [Container.readBack, containerOf, isAlpha]
    alphaSize := by
      cases isAlpha : encodings.alpha <;> simp [Container.readBack, containerOf, isAlpha, codedImage]
    width := size.1
    height := size.2
    depth := (Container.depth_colorRecord _).trans suits.depth
    format := (Container.format_colorRecord _).trans suits.format
    icc := rfl
    xmp := rfl
    exifItem := exifToItem?_writtenExif planned.options metadata
    transforms := rfl
    premultiplied := Bool.and_false _
    cicp := codePoints.1
    noCicp := codePoints.2 }

/-- The parts of a save, and the container that its file is read as. -/
theorem reading_of_save {encoder : Encoder σ} (sound : encoder.Sound) {raster : Raster}
    {color : RasterColor} {options : EncodeOptions} {metadata : Metadata} {state : σ}
    {saved : SavedImage}
    (done : (save raster color options metadata encoder state).result = .ok saved)
    (fits : saved.file.IsAddressable) :
    ∃ planned host matrix encodings between, plan raster color options = .ok planned ∧
      planned.Steps raster color options host matrix ∧
      encodings.AreFrom encoder planned state between
        (save raster color options metadata encoder state).state ∧
      Container.parse saved.file = .ok (containerOf planned metadata encodings).readBack ∧
      saved.IsReadAs raster planned.planes.color encodings
        (containerOf planned metadata encodings).readBack := by
  rcases parts_of_save done with ⟨planned, encodings, between, isPlanned, areFrom, assembled⟩
  rcases steps_of_plan isPlanned with ⟨host, matrix, steps⟩
  have coded := coded_of_steps steps
  have suits := sound coded.1 areFrom.color
  have alphaParts : (∀ payload, encodings.alpha = some payload → payload.data ≠ []) ∧
      encodings.alpha.isSome = planned.planes.alpha.isSome := by
    rcases alpha_of_encodeAlpha areFrom.alpha with ⟨noFrame, noAlpha⟩ |
      ⟨frame, payload, isFrame, isPayload, answered⟩
    · rw [noFrame, noAlpha]
      exact ⟨fun _ isSome => (nomatch isSome), rfl⟩
    · rw [isFrame, isPayload]
      refine ⟨?_, rfl⟩
      rintro _ ⟨rfl⟩
      exact (sound (coded.2 frame isFrame) answered).data
  have read := isReadAs_assemble steps assembled suits alphaParts.1 alphaParts.2 fits
  exact ⟨planned, host, matrix, encodings, between, isPlanned, steps, areFrom, read⟩

/-- Every file that is saved is read as what the saved image reports. -/
theorem parse_save {encoder : Encoder σ} (sound : encoder.Sound) {raster : Raster}
    {color : RasterColor} {options : EncodeOptions} {metadata : Metadata} {state : σ}
    {saved : SavedImage}
    (done : (save raster color options metadata encoder state).result = .ok saved)
    (fits : saved.file.IsAddressable) :
    ∃ planned encodings between container, plan raster color options = .ok planned ∧
      encodings.AreFrom encoder planned state between
        (save raster color options metadata encoder state).state ∧
      Container.parse saved.file = .ok container ∧
      saved.IsReadAs raster planned.planes.color encodings container := by
  rcases reading_of_save sound done fits with
    ⟨planned, host, matrix, encodings, between, isPlanned, -, areFrom, read, isReadAs⟩
  exact ⟨planned, encodings, between, _, isPlanned, areFrom, read, isReadAs⟩

/-- Whether a run ends with a file that is not too long can be found out. -/
theorem Run.exists_saved (run : Run σ)
    (short : (run.result.toOption.map fun saved =>
      decide saved.file.IsAddressable) = some true) :
    ∃ saved, run.result = .ok saved ∧ saved.file.IsAddressable := by
  rcases Option.map_eq_some_iff.mp short with ⟨saved, isSome, fits⟩
  exact ⟨saved, ok_of_toOption isSome, of_decide_eq_true fits⟩

/-- The save of a gray pixel with alpha and metadata. -/
def dotRun : Run FrameStore :=
  save ⟨.grayAlpha, .eight, .build 1 1 fun _ _ => #v[3, 4]⟩ .srgb .default
    ⟨some [1, 2, 3, 4], some [5]⟩ (FrameStore.encoder none) (.ofFrames #[])

/-- A save of which everything is read back. -/
theorem parse_save_dot :
    ∃ saved, dotRun.result = .ok saved ∧ saved.file.IsAddressable ∧
      ∃ planned encodings container, Container.parse saved.file = .ok container ∧
        saved.IsReadAs ⟨.grayAlpha, .eight, .build 1 1 fun _ _ => #v[3, 4]⟩
          (Plan.planes planned).color encodings container := by
  have size : (dotRun.result.toOption.map fun saved => saved.file.length) = some 543 := by
    decide +kernel
  rcases Option.map_eq_some_iff.mp size with ⟨saved, isSome, length⟩
  have done : dotRun.result = .ok saved := ok_of_toOption isSome
  have fits : saved.file.IsAddressable := by
    rw [Bytes.IsAddressable, length]
    decide
  rcases parse_save (FrameStore.sound_encoder none) done fits with
    ⟨planned, encodings, between, container, -, -, read, isReadAs⟩
  exact ⟨saved, done, fits, planned, encodings, container, read, isReadAs⟩

end SavedImage

end AvifStill
