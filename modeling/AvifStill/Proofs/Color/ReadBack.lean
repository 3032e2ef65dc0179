import AvifStill.Proofs.Color.Description
import AvifStill.Proofs.Icc.Colorants

/-!
# Saved colour read back

The colour of a raster is described when it is saved and once more when its file is loaded, then from
nothing but the embedded profile or the code points. Code points that are written can always be read,
and both descriptions agree, except that colour coded without chroma comes back as gray. Whether an
image comes back gray depends on its chroma and, under an embedded profile, on the kind of that
profile.
-/

namespace AvifStill.Color

open Icc

/-! ## Code points -/

namespace Primaries

/-- The entry without a meaning repeats BT.709, which is found before it. -/
theorem isUnspecified_of_find? {primaries : Primaries} {entry : NamedPrimaries}
    (found : NamedPrimaries.find? primaries = some entry) : entry.code.isUnspecified = false := by
  unfold NamedPrimaries.find? knownPrimaries at found
  rw [List.find?_cons] at found
  split at found
  · cases found
    rfl
  · rename_i otherwise
    -- The second entry has the values of the first, so the search goes past both.
    rw [List.find?_cons] at found
    split at found
    · rename_i agrees
      cases otherwise.symm.trans agrees
    · have others := List.mem_of_find?_eq_some found
      simp only [List.mem_cons, List.not_mem_nil, or_false] at others
      rcases others with rfl | rfl | rfl | rfl | rfl | rfl | rfl | rfl | rfl | rfl <;> rfl

theorem isUnspecified_nearestCommon (primaries : Primaries) :
    primaries.nearestCommon.isUnspecified = false := by
  simp only [nearestCommon, commonCodes, List.foldl_cons, List.foldl_nil]
  split <;> split <;> rfl

theorem isUnspecified_bestCode (primaries : Primaries) :
    primaries.bestCode.isUnspecified = false := by
  unfold bestCode
  split
  · rename_i entry found
    exact isUnspecified_of_find? found
  · exact isUnspecified_nearestCommon primaries

end Primaries

theorem RasterColor.ofCicp_transferCode (color : RasterColor) :
    TransferCurve.ofCicp color.transferCode = .ok color.curve := by
  unfold transferCode curve
  split <;> rfl

/-- The description of an image of which only luma is coded. -/
def Description.withoutChroma (description : Description) : Description :=
  { description with primaries := none, isGray := true }

namespace Encoded

variable {color : RasterColor} {isGray savesProfile isMonochrome : Bool} {encoded : Encoded}
  {decoded : Decoded}

theorem fullRange_of_resolve (done : resolve color isGray savesProfile = .ok encoded) :
    { encoded.cicp with fullRange := true } = encoded.cicp := by
  rw [← (codes_of_resolve done).2.2]

theorem icc_of_resolve_compact (done : resolve color isGray false = .ok encoded) :
    encoded.icc = none := by
  cases isGray with
  | true =>
      cases done
      rfl
  | false =>
      rcases done_of_bind done with ⟨conversion, -, done⟩
      cases done
      rfl

/-- Only the description of a gray raster does not change without chroma. -/
theorem withoutChroma_eq_iff (done : resolve color isGray false = .ok encoded) :
    encoded.description.withoutChroma = encoded.description ↔ isGray = true := by
  cases isGray with
  | true =>
      cases done
      exact iff_of_true rfl rfl
  | false =>
      rcases done_of_bind done with ⟨conversion, -, done⟩
      cases done
      refine iff_of_false ?_ Bool.false_ne_true
      intro same
      cases congrArg Description.isGray same

/-- Code points describe the image that they were written for, as far as it has its chroma. -/
theorem description_of_resolve_compact (done : resolve color isGray false = .ok encoded)
    (keepsGray : isGray = true → isMonochrome = true)
    (read : Decoded.resolve none encoded.cicp isMonochrome = .ok decoded) :
    decoded.description =
      if isMonochrome then encoded.description.withoutChroma else encoded.description := by
  rcases color with ⟨icc, primaries, isLinear⟩
  cases isGray with
  | true =>
      cases done
      rw [keepsGray rfl] at read ⊢
      cases read
      cases isLinear <;> rfl
  | false =>
      rcases done_of_bind done with ⟨conversion, -, done⟩
      cases done
      cases isMonochrome with
      | true =>
          cases read
          cases isLinear <;> rfl
      | false =>
          rcases done_of_bind read with ⟨transfer, isTransfer, read⟩
          rcases done_of_bind read with ⟨profile, -, read⟩
          cases isTransfer.symm.trans (RasterColor.ofCicp_transferCode _)
          cases read
          simp only [Primaries.isUnspecified_bestCode, Bool.false_eq_true, if_false]
          cases isLinear <;> rfl

/-- How a colour that is written as code points is read, and which primaries the samples are in. -/
structure ReadsBack (encoded : Encoded) (color : RasterColor) (isGray : Bool) : Prop where
  /-- The code points alone describe the image in the same way. -/
  described : ∃ decoded, Decoded.resolve none encoded.cicp isGray = .ok decoded ∧
    decoded.description = encoded.description
  declared : isGray = false →
    encoded.description.primaries = some (.ofCode encoded.cicp.primaries)
  /-- Samples are converted to the declared primaries. -/
  converted : isGray = false → ∀ conversion, encoded.conversion = some conversion →
    Profile.ofPrimaries (.ofCode encoded.cicp.primaries) color.curve = .ok conversion.target
  /-- The profile that they are converted to has the colorants of these primaries. -/
  target : isGray = false → ∀ conversion, encoded.conversion = some conversion →
    conversion.target.IsBuiltFrom (.ofCode encoded.cicp.primaries) color.curve
  /-- Samples that are not converted are in the declared primaries already. -/
  kept : isGray = false → encoded.conversion = none → color.icc = none ∧
    (color.primaries?.getD (.ofCode ⟨1⟩)).agree (.ofCode encoded.cicp.primaries) = true

theorem described_of_resolve_compact (done : resolve color isGray false = .ok encoded) :
    ∃ decoded, Decoded.resolve none encoded.cicp isGray = .ok decoded ∧
      decoded.description = encoded.description := by
  rcases transfer_of_resolve done with ⟨transfer, known⟩
  rcases Decoded.exists_resolve known none isGray with ⟨decoded, read⟩
  refine ⟨decoded, read, ?_⟩
  have described := description_of_resolve_compact done id read
  cases isGray with
  | true => exact described.trans ((withoutChroma_eq_iff done).mpr rfl)
  | false => exact described

theorem target_of_conversionTo {actual declared : Primaries} {conversion : Conversion}
    (done : conversionTo color actual declared = .ok (some conversion)) :
    Profile.ofPrimaries declared color.curve = .ok conversion.target := by
  unfold conversionTo at done
  split at done
  · rcases done_of_bind done with ⟨source, -, done⟩
    rcases done_of_bind done with ⟨target, isTarget, done⟩
    cases done
    exact isTarget
  · cases done

theorem agree_of_conversionTo {actual declared : Primaries}
    (done : conversionTo color actual declared = .ok none) :
    color.icc = none ∧ actual.agree declared = true := by
  unfold conversionTo at done
  split at done
  · rcases done_of_bind done with ⟨source, -, done⟩
    rcases done_of_bind done with ⟨target, -, done⟩
    cases done
  · rename_i needless
    simpa using needless

/-- Every colour that is written as code points reads back as it was described. -/
theorem readsBack_of_resolve (done : resolve color isGray false = .ok encoded) :
    encoded.ReadsBack color isGray := by
  have described := described_of_resolve_compact done
  cases isGray with
  | true =>
      constructor
      · exact described
      all_goals
        intro isColor
        cases isColor
  | false =>
      rcases done_of_bind done with ⟨conversion, isConversion, done⟩
      cases done
      constructor
      · exact described
      · intro _
        rfl
      · rintro - found rfl
        exact target_of_conversionTo isConversion
      · rintro - found rfl
        exact Profile.isBuiltFrom_ofPrimaries (target_of_conversionTo isConversion)
      · rintro - rfl
        exact agree_of_conversionTo isConversion

/-- Linear light in primaries that have no code of their own. -/
def wideColor : RasterColor where
  icc := none
  primaries := some ⟨⟨0.64, 0.33⟩, ⟨0.21, 0.71⟩, ⟨0.15, 0.06⟩, ⟨0.3127, 0.3290⟩⟩
  isLinear := true

/-- The nearest code stands for the primaries, and the samples are converted to it. -/
theorem readsBack_wideColor : ∃ encoded, resolve wideColor false false = .ok encoded ∧
    encoded.cicp = ⟨⟨12⟩, ⟨8⟩, ⟨12⟩, true⟩ ∧ encoded.conversion.isSome = true ∧
      encoded.ReadsBack wideColor false := by
  have found : ((resolve wideColor false false).toOption.map fun encoded =>
      (encoded.cicp, encoded.conversion.isSome)) = some (⟨⟨12⟩, ⟨8⟩, ⟨12⟩, true⟩, true) := by
    decide +kernel
  rcases Option.map_eq_some_iff.mp found with ⟨encoded, isSome, same⟩
  have done : resolve wideColor false false = .ok encoded := ok_of_toOption isSome
  refine ⟨encoded, done, ?_, ?_, readsBack_of_resolve done⟩
  · exact congrArg Prod.fst same
  · exact congrArg Prod.snd same

end Encoded

/-! ## Gray -/

/-- Whether there is a profile that can be read and is for gray. -/
def IsGrayProfile (icc : Option Bytes) : Prop :=
  ∃ bytes profile, icc = some bytes ∧ Profile.ofBytes? bytes = .ok profile ∧ profile.isGray = true

theorem isGrayProfile_iff {bytes : Bytes} {profile : Profile}
    (read : Profile.ofBytes? bytes = .ok profile) :
    IsGrayProfile (some bytes) ↔ profile.isGray = true := by
  constructor
  · rintro ⟨others, found, isSome, isFound, gray⟩
    cases isSome
    cases isFound.symm.trans read
    exact gray
  · intro gray
    exact ⟨bytes, profile, rfl, read, gray⟩

theorem not_isGrayProfile_of_error {bytes : Bytes} {fault : Fault}
    (unread : Profile.ofBytes? bytes = .error fault) : ¬IsGrayProfile (some bytes) := by
  rintro ⟨others, found, isSome, isFound, -⟩
  cases isSome
  cases isFound.symm.trans unread

namespace Decoded

variable {cicp : Cicp} {isMonochrome : Bool} {decoded : Decoded}

theorem isGray_withoutProfile (done : withoutProfile cicp isMonochrome = .ok decoded) :
    decoded.description.isGray = isMonochrome := by
  cases isMonochrome with
  | true =>
      cases done
      rfl
  | false =>
      rcases done_of_bind done with ⟨transfer, -, done⟩
      rcases done_of_bind done with ⟨profile, -, done⟩
      cases done
      rfl

/-- A decoded image is gray if it is coded in monochrome, or if its profile is for gray. -/
theorem isGray_resolve_iff {icc : Option Bytes} (done : resolve icc cicp isMonochrome = .ok decoded) :
    decoded.description.isGray = true ↔ isMonochrome = true ∨ IsGrayProfile icc := by
  unfold resolve at done
  split at done
  · rw [isGray_withoutProfile done]
    simp [IsGrayProfile]
  · rw [isGray_withoutProfile done]
    have unread : ¬IsGrayProfile (some []) := not_isGrayProfile_of_error rfl
    simp [unread]
  · split at done
    · rename_i profile read
      rw [isGrayProfile_iff read]
      split at done
      · rename_i suits
        cases done
        simp [monochrome, suits.1]
      · rename_i suits
        cases done
        simp only [not_and, Decidable.not_not] at suits
        exact ⟨Or.inr, fun gray => gray.elim suits id⟩
    · rename_i fault unread
      have notGray := not_isGrayProfile_of_error unread
      split at done
      · rename_i isMonochrome
        cases done
        simp [monochrome, isMonochrome]
      · rename_i notMonochrome
        cases done
        simp [unmanaged, notMonochrome, notGray]

end Decoded

/-- A raster in colour is saved under a gray profile only if it has one itself. -/
theorem Encoded.isGrayProfile_icc_iff {color : RasterColor} {savesProfile : Bool}
    {encoded : Encoded} (done : resolve color false savesProfile = .ok encoded) :
    IsGrayProfile encoded.icc ↔ savesProfile = true ∧ IsGrayProfile color.icc := by
  cases savesProfile with
  | false =>
      rw [icc_of_resolve_compact done]
      simp [IsGrayProfile]
  | true =>
      rcases done_of_bind done with ⟨icc, embedded, done⟩
      cases done
      simp only [embeddedProfile, Bool.false_eq_true, if_false] at embedded
      split at embedded
      · rename_i bytes isBytes
        cases embedded
        rw [isBytes]
        simp
      · rename_i noProfile
        rw [noProfile]
        cases built : Profile.ofPrimaries (color.primaries.getD (.ofCode ⟨1⟩)) color.curve with
        | error fault =>
            rw [built] at embedded
            cases embedded
        | ok profile =>
            rw [built] at embedded
            cases embedded
            rcases Profile.exists_ofBytes?_toBytes (Profile.isStorable_ofPrimaries built)
              with ⟨found, read, same⟩
            rw [isGrayProfile_iff read, same, Profile.isGray_ofPrimaries built]
            simp [IsGrayProfile]

end AvifStill.Color
