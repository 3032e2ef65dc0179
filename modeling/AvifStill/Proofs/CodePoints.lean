import AvifStill.Proofs.Av1.Sequence
import AvifStill.Proofs.Color.Resolution
import AvifStill.Proofs.SaveLoad

/-!
# Code points on their way through a file

The code points of an image are written twice. The header of the coded colour has a value for most
codes, the container has one for a few, and a code without one is unspecified in the header, while
the container then says nothing at all. A raster is only ever saved under codes that the header has,
so whatever the container leaves out is found in the header when the file is loaded.
-/

namespace AvifStill

open Av1 Color

/-! ## Resolved code points -/

namespace Av1.ColorCodes

variable {cicp : Cicp}

/-- A header has a value for every entry of the table of primaries. -/
theorem primaries_ofCicp {entry : NamedPrimaries} (isMember : entry ∈ knownPrimaries)
    (isCode : entry.code = cicp.primaries) : (ofCicp cicp).primaries = cicp.primaries.code := by
  rw [ofCicp, named, ← isCode]
  simp only [knownPrimaries, List.mem_cons, List.not_mem_nil, or_false] at isMember
  rcases isMember with rfl | rfl | rfl | rfl | rfl | rfl | rfl | rfl | rfl | rfl | rfl | rfl <;> rfl

theorem transfer_ofCicp {color : RasterColor}
    (isCode : cicp.transfer = color.transferCode ∨ cicp.transfer = ⟨2⟩) :
    (ofCicp cicp).transfer = cicp.transfer.code := by
  rw [ofCicp, named]
  rcases isCode with isOwn | isUnspecified
  · rw [isOwn, RasterColor.transferCode]
    split <;> rfl
  · rw [isUnspecified]
    rfl

theorem matrix_ofCicp (isCode : cicp.matrix = ⟨1⟩ ∨ cicp.matrix = ⟨12⟩) :
    (ofCicp cicp).matrix = cicp.matrix.code := by
  rw [ofCicp, named]
  rcases isCode with isNamed | isDerived
  · rw [isNamed]
    rfl
  · rw [isDerived]
    rfl

/-- Where a colour box has values, they are those of the header. -/
theorem eq_named_of_boxCodes? {codes : NamedCodes}
    (found : Container.boxCodes? cicp = some codes) : codes = named cicp := by
  rcases cicp with ⟨⟨primaries⟩, ⟨transfer⟩, ⟨matrix⟩, fullRange⟩
  rcases Container.numbers_of_boxCodes? found with ⟨rfl, rfl, rfl⟩
  simp [named]

end Av1.ColorCodes

namespace Color.Encoded

variable {color : RasterColor} {isGray savesProfile : Bool} {encoded : Encoded}

/-- In every mode the primaries are those of an entry, be it the one without a meaning. -/
theorem exists_entry_of_resolve (done : resolve color isGray savesProfile = .ok encoded) :
    ∃ entry ∈ knownPrimaries, entry.code = encoded.cicp.primaries := by
  cases savesProfile with
  | true =>
      rcases done_of_bind done with ⟨icc, -, done⟩
      cases done
      simp [knownPrimaries]
  | false =>
      cases isGray with
      | true =>
          cases done
          simp [compactGray, knownPrimaries]
      | false =>
          rcases done_of_bind done with ⟨conversion, -, done⟩
          cases done
          exact Primaries.exists_entry_bestCode _

/-- A header names each code point of a raster by its own number. -/
theorem ofCicp_of_resolve (done : resolve color isGray savesProfile = .ok encoded) :
    ColorCodes.ofCicp encoded.cicp = .plain encoded.cicp := by
  rcases exists_entry_of_resolve done with ⟨entry, isMember, isCode⟩
  rcases codes_of_resolve done with ⟨transfer, matrix, -⟩
  rw [ColorCodes.plain, ← ColorCodes.primaries_ofCicp isMember isCode,
    ← ColorCodes.transfer_ofCicp transfer, ← ColorCodes.matrix_ofCicp matrix]

theorem ne_implied_of_resolve (done : resolve color isGray savesProfile = .ok encoded) :
    encoded.cicp ≠ Container.impliedCodePoints := by
  intro isImplied
  rcases (codes_of_resolve done).2.1 with isNamed | isDerived
  · rw [isImplied] at isNamed
    cases isNamed
  · rw [isImplied] at isDerived
    cases isDerived

end Color.Encoded

/-! ## Saved files -/

namespace Container

theorem colorBox?_of_cicp {container : Container} {cicp : Cicp} (bare : container.icc = none)
    (isCicp : container.cicp = some cicp) (stated : cicp ≠ impliedCodePoints) :
    container.colorBox? = if isWritable cicp then some (describeCodePoints cicp).box else none := by
  simp only [colorBox?, bare, isCicp]
  cases found : boxCodes? cicp with
  | none => simp [isWritable, found]
  | some codes => simp [isWritable, found, stated, codesBox_eq found]

end Container

namespace SavedImage

open LoadedImage

variable {σ : Type}

/-- The still that the colour of a file is coded as. -/
structure IsColorStill (still : EncodedStill) (encoder : Encoder σ) (planned : Plan) (state : σ)
    (container : Container) : Prop where
  made : EncodedStill.ofFrame planned.planes.color planned.settings = .ok still
  stored : ∃ payload next,
    encoder.encode planned.planes.color planned.settings state = (.ok payload, next) ∧
      payload.config = still.config ∧ container.color.data = payload.data

/-- What a file and the still in it say about the code points of their image. -/
structure Declares (container : Container) (still : EncodedStill) (encoded : Encoded) : Prop where
  header : still.sequence.color = some (.plain encoded.cicp)
  range : still.sequence.isFullRange = encoded.cicp.fullRange
  stated : container.cicp =
    if encoded.icc.isNone ∧ Container.isWritable encoded.cicp then some encoded.cicp else none
  /-- The code points that the file is loaded under are those of the raster that was saved. -/
  recovered : ∀ frame, still.sequence.Describes frame → codePoints container frame = encoded.cicp

section Saving

variable {encoder : Encoder σ} {raster host : Raster} {color : RasterColor}
  {options : EncodeOptions} {metadata : Metadata} {state : σ} {saved : SavedImage}
  {planned : Plan} {matrix : YuvMatrix}

theorem sequence_of_steps (steps : planned.Steps raster color options host matrix)
    {still : EncodedStill}
    (made : EncodedStill.ofFrame planned.planes.color planned.settings = .ok still) :
    still.sequence.color = some (.plain planned.color.cicp) ∧ still.sequence.isFullRange = true := by
  have sameCicp : planned.settings.cicp = planned.color.cicp := by
    rw [steps.settings]
    rfl
  have notAlpha : planned.settings.isAlpha = false := by
    rw [steps.settings]
    rfl
  rw [EncodedStill.eq_of_ofFrame made]
  constructor
  · simp only [EncodedStill.sequenceOf, notAlpha, sameCicp, Encoded.ofCicp_of_resolve steps.resolved]
    rfl
  · simp only [EncodedStill.sequenceOf, (planes_of_steps steps).color.range]
    rfl

theorem cicp_containerOf (steps : planned.Steps raster color options host matrix)
    (encodings : Encodings) : (containerOf planned metadata encodings).readBack.cicp =
      if planned.color.icc.isNone ∧ Container.isWritable planned.color.cicp then
        some planned.color.cicp
      else none := by
  have stated := Encoded.ne_implied_of_resolve steps.resolved
  simp only [Container.readBack, Container.readCodePoints?, containerOf]
  cases planned.color.icc with
  | none => simp [stated]
  | some icc => simp

theorem declares_of_steps (steps : planned.Steps raster color options host matrix)
    (encodings : Encodings) {still : EncodedStill}
    (made : EncodedStill.ofFrame planned.planes.color planned.settings = .ok still) :
    Declares (containerOf planned metadata encodings).readBack still planned.color := by
  rcases sequence_of_steps steps made with ⟨header, full⟩
  have fullRange := (Encoded.codes_of_resolve steps.resolved).2.2
  refine ⟨header, full.trans fullRange.symm, cicp_containerOf steps encodings, ?_⟩
  intro frame describes
  have range := describes.range
  have described := describes.cicp
  rw [full] at range described
  -- Where the container states nothing, the header is asked, and it leaves no code out.
  rw [header, Option.map_some, ColorCodes.toCicp_plain] at described
  rw [codePoints_eq planned metadata encodings range described]
  exact Encoded.fullRange_of_resolve steps.resolved

theorem declares_of_save (makes : encoder.MakesStills)
    (done : (save raster color options metadata encoder state).result = .ok saved)
    (fits : saved.file.IsAddressable) :
    ∃ planned container still, plan raster color options = .ok planned ∧
      Container.parse saved.file = .ok container ∧
      IsColorStill still encoder planned state container ∧
      Declares container still planned.color := by
  rcases reading_of_save makes.sound done fits with
    ⟨planned, host, matrix, encodings, between, isPlanned, steps, areFrom, parsed, isReadAs⟩
  rcases (makes areFrom.color).2 with ⟨still, made, sameConfig⟩
  refine ⟨planned, _, still, isPlanned, parsed, ⟨made, ?_⟩, declares_of_steps steps encodings made⟩
  exact ⟨encodings.color, between, areFrom.color, sameConfig, isReadAs.data⟩

end Saving

end SavedImage

namespace Color.Encoded

open SavedImage

variable {color : RasterColor} {isGray savesProfile : Bool} {encoded : Encoded}

theorem color_of_plan {raster : Raster} {options : EncodeOptions} {planned : Plan}
    (done : resolve color raster.isGrayscale options.savesIcc = .ok encoded)
    (isPlanned : plan raster color options = .ok planned) : planned.color = encoded := by
  rcases steps_of_plan isPlanned with ⟨host, matrix, steps⟩
  have resolved := steps.resolved
  rw [(EncodeOptions.color_validate steps.valid).1] at resolved
  exact Except.ok.inj (resolved.symm.trans done)

/-- Whether no code point of a colour is lost in a file. -/
structure KeepsCodePoints (encoded : Encoded) (color : RasterColor) (isGray savesProfile : Bool) :
    Prop where
  /-- The header has each number, so that only the unspecified code is unspecified there. -/
  header : ColorCodes.ofCicp encoded.cicp = .plain encoded.cicp
  /-- The container has either all of the numbers or none. -/
  box : ∀ container : Container, container.icc = none → container.cicp = some encoded.cicp →
    container.colorBox? =
      if Container.isWritable encoded.cicp then some (Container.describeCodePoints encoded.cicp).box
      else none
  /-- Where the container has the numbers, they mean in it what they mean in the header. -/
  values : ∀ codes, Container.boxCodes? encoded.cicp = some codes →
    codes = ColorCodes.named encoded.cicp
  /-- Saved and read, with stills for payloads, the file declares these code points. -/
  found : ∀ {σ : Type} {encoder : Encoder σ} {raster : Raster} {options : EncodeOptions}
    {metadata : Metadata} {state : σ} {saved : SavedImage}, encoder.MakesStills →
    raster.isGrayscale = isGray → options.savesIcc = savesProfile →
    (save raster color options metadata encoder state).result = .ok saved →
    saved.file.IsAddressable →
      ∃ planned container still, plan raster color options = .ok planned ∧
        planned.color = encoded ∧ Container.parse saved.file = .ok container ∧
        IsColorStill still encoder planned state container ∧ Declares container still encoded

/-- Every code point that a raster is saved under is found again in its file. -/
theorem keepsCodePoints_of_resolve (done : resolve color isGray savesProfile = .ok encoded) :
    encoded.KeepsCodePoints color isGray savesProfile := by
  constructor
  · exact ofCicp_of_resolve done
  · intro container bare isCicp
    exact Container.colorBox?_of_cicp bare isCicp (ne_implied_of_resolve done)
  · exact fun codes found => ColorCodes.eq_named_of_boxCodes? found
  · rintro σ encoder raster options metadata state saved makes rfl rfl finished fits
    rcases declares_of_save makes finished fits with
      ⟨planned, container, still, isPlanned, parsed, isStill, declares⟩
    have same := color_of_plan done isPlanned
    rw [same] at declares
    exact ⟨planned, container, still, isPlanned, same, parsed, isStill, declares⟩

/-- Colour in the primaries of generic film, which a container has no value for. -/
def filmColor : RasterColor :=
  ⟨none, some (.ofCode ⟨8⟩), false⟩

/-- The save of a pixel in these primaries. -/
def filmRun : Run Unit :=
  save ⟨.rgb, .eight, .build 1 1 fun _ _ => .replicate 3 (HostDepth.eight.clamp 5)⟩ filmColor
    .default ⟨none, none⟩ EncodedStill.encoder ()

/-- The container of the pixel says nothing of its colour, and the header says all of it. -/
theorem keepsCodePoints_filmColor : ∃ encoded saved container,
    resolve filmColor false false = .ok encoded ∧ encoded.cicp = ⟨⟨8⟩, ⟨13⟩, ⟨12⟩, true⟩ ∧
      encoded.KeepsCodePoints filmColor false false ∧ filmRun.result = .ok saved ∧
      Container.parse saved.file = .ok container ∧ container.cicp = none ∧
      ∀ frame : Frame, frame.cicp = some encoded.cicp → frame.range = .full →
        LoadedImage.codePoints container frame = encoded.cicp := by
  have resolved : ((resolve filmColor false false).toOption.map (·.cicp)) =
      some ⟨⟨8⟩, ⟨13⟩, ⟨12⟩, true⟩ := by
    decide +kernel
  have short : (filmRun.result.toOption.map fun saved =>
      decide saved.file.IsAddressable) = some true := by
    decide +kernel
  rcases Option.map_eq_some_iff.mp resolved with ⟨encoded, isSome, codes⟩
  rcases filmRun.exists_saved short with ⟨saved, finished, fits⟩
  have done : resolve filmColor false false = .ok encoded := ok_of_toOption isSome
  have keeps := keepsCodePoints_of_resolve done
  rcases keeps.found EncodedStill.makesStills_encoder rfl rfl finished fits with
    ⟨planned, container, still, -, -, parsed, -, declares⟩
  refine ⟨encoded, saved, container, done, codes, keeps, finished, parsed, ?_, ?_⟩
  · have unnamed : Container.isWritable encoded.cicp = false := by
      rw [codes]
      rfl
    simp [declares.stated, unnamed]
  · intro frame described full
    apply declares.recovered frame
    constructor
    · rw [described, declares.header, declares.range, Option.map_some, ColorCodes.toCicp_plain]
    · rw [full, declares.range, codes]
      rfl

end Color.Encoded

end AvifStill
