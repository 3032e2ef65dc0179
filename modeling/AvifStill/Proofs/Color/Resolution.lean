import AvifStill.Proofs.Color.ReadBack

/-!
# What decides on the colour of an image

Whether an image can be loaded at all, and from what its colour is described, depends on its profile,
on its chroma and on its code points. Each way to an answer is a case of its own here, and what a
maintainer asks of the answer is read off case by case. Only a code without a curve refuses an image,
and only if nothing else describes its colour.

When a raster is saved, a profile that cannot be read is passed on where it is embedded, is ignored
where the raster is gray, and refuses the raster where code points have to be found for it. Samples
are left as they are under code points only if they are exactly in the primaries declared.
-/

namespace AvifStill.Color

open Icc

namespace TransferCurve

/-- The codes that have a curve, or that stand for no code at all. -/
def knownCodes : List UInt8 :=
  [0, 1, 2, 4, 5, 8, 13, 16, 18]

theorem ofCicp_eq_error_iff {transfer : TransferCharacteristics} {fault : Fault} :
    ofCicp transfer = .error fault ↔
      transfer.code ∉ knownCodes ∧ fault = .unsupportedTransfer transfer.code := by
  unfold ofCicp
  split
  case h_10 =>
    have unknown : transfer.code ∉ knownCodes := by simp_all [knownCodes]
    simp [unknown, eq_comm]
  all_goals simp [knownCodes, *]

theorem peakLuminance?_eq_some_iff {transfer : TransferCurve} {nits : Nat} :
    transfer.peakLuminance? = some nits ↔ transfer = .pq ∧ nits = 10000 := by
  cases transfer <;> simp [peakLuminance?, eq_comm]

end TransferCurve

/-! ## Loading -/

namespace Decoded

/-- Whether there is no profile, or one without any bytes. -/
def LacksProfile (icc : Option Bytes) : Prop :=
  icc = none ∨ icc = some []

/-- Whether a profile can be read and suits an image: one in monochrome takes a gray profile only. -/
def IsSuitable (icc : Option Bytes) (isMonochrome : Bool) : Prop :=
  ∃ bytes profile, icc = some bytes ∧ Profile.ofBytes? bytes = .ok profile ∧
    (isMonochrome = true → profile.isGray = true)

/-- Whether there is a profile that cannot be read. -/
def IsUnreadable (icc : Option Bytes) : Prop :=
  ∃ bytes fault, icc = some bytes ∧ bytes ≠ [] ∧ Profile.ofBytes? bytes = .error fault

/-- The ways to find out the colour of an image, with what comes of each. -/
inductive Course (icc : Option Bytes) (cicp : Cicp) : (isMonochrome : Bool) →
    Except Fault Decoded → Prop where
  | embedded {bytes : Bytes} {profile : Profile} {isMonochrome : Bool} (isSome : icc = some bytes)
      (read : Profile.ofBytes? bytes = .ok profile)
      (suits : isMonochrome = true → profile.isGray = true) :
      Course icc cicp isMonochrome (.ok (ofProfile profile bytes cicp))
  | unmanaged (unreadable : IsUnreadable icc) : Course icc cicp false (.ok (unmanaged cicp))
  | monochrome (unsuitable : ¬IsSuitable icc true) : Course icc cicp true (.ok (monochrome cicp))
  | coded {decoded : Decoded} (lacks : LacksProfile icc) (done : ofCicp cicp = .ok decoded) :
      Course icc cicp false (.ok decoded)
  | refused {fault : Fault} (lacks : LacksProfile icc) (failed : ofCicp cicp = .error fault) :
      Course icc cicp false (.error fault)

theorem isSuitable_iff {bytes : Bytes} {profile : Profile} {isMonochrome : Bool}
    (read : Profile.ofBytes? bytes = .ok profile) :
    IsSuitable (some bytes) isMonochrome ↔ (isMonochrome = true → profile.isGray = true) := by
  constructor
  · rintro ⟨others, found, isSome, isFound, suits⟩
    cases isSome
    cases isFound.symm.trans read
    exact suits
  · intro suits
    exact ⟨bytes, profile, rfl, read, suits⟩

theorem not_isSuitable_of_error {bytes : Bytes} {fault : Fault} {isMonochrome : Bool}
    (unread : Profile.ofBytes? bytes = .error fault) : ¬IsSuitable (some bytes) isMonochrome := by
  rintro ⟨others, found, isSome, isFound, -⟩
  cases isSome
  cases isFound.symm.trans unread

theorem not_isSuitable_of_lacks {icc : Option Bytes} (lacks : LacksProfile icc)
    (isMonochrome : Bool) : ¬IsSuitable icc isMonochrome := by
  rcases lacks with rfl | rfl
  · simp [IsSuitable]
  · exact not_isSuitable_of_error rfl

theorem course_withoutProfile {icc : Option Bytes} (lacks : LacksProfile icc) (cicp : Cicp)
    (isMonochrome : Bool) : Course icc cicp isMonochrome (withoutProfile cicp isMonochrome) := by
  cases isMonochrome with
  | true => exact .monochrome (not_isSuitable_of_lacks lacks true)
  | false =>
      cases done : ofCicp cicp with
      | ok decoded =>
          simp only [withoutProfile, Bool.false_eq_true, if_false, done]
          exact .coded lacks done
      | error fault =>
          simp only [withoutProfile, Bool.false_eq_true, if_false, done]
          exact .refused lacks done

theorem course_resolve (icc : Option Bytes) (cicp : Cicp) (isMonochrome : Bool) :
    Course icc cicp isMonochrome (resolve icc cicp isMonochrome) := by
  unfold resolve
  split
  · exact course_withoutProfile (Or.inl rfl) cicp isMonochrome
  · exact course_withoutProfile (Or.inr rfl) cicp isMonochrome
  rename_i bytes notEmpty
  split
  · rename_i profile read
    split
    · rename_i differs
      rcases differs with ⟨rfl, notGray⟩
      apply Course.monochrome
      rw [isSuitable_iff read]
      intro suits
      exact notGray (suits rfl)
    · rename_i suits
      apply Course.embedded rfl read
      simpa using suits
  · rename_i fault unread
    split
    · rename_i isTrue
      subst isTrue
      exact .monochrome (not_isSuitable_of_error unread)
    · rename_i isFalse
      rw [Bool.not_eq_true] at isFalse
      subst isFalse
      refine .unmanaged ⟨bytes, fault, rfl, ?_, unread⟩
      rintro rfl
      exact notEmpty rfl

theorem ofCicp_eq_error_iff {cicp : Cicp} {fault : Fault} :
    ofCicp cicp = .error fault ↔
      cicp.transfer.code ∉ TransferCurve.knownCodes ∧
        fault = .unsupportedTransfer cicp.transfer.code := by
  rw [← TransferCurve.ofCicp_eq_error_iff]
  constructor
  · intro failed
    rcases failed_of_bind failed with failed | ⟨transfer, known, failed⟩
    · exact failed
    rcases failed_of_bind failed with failed | ⟨profile, -, failed⟩
    · rcases exists_ofPrimaries known _ with ⟨profile, built⟩
      cases failed.symm.trans built
    · cases failed
  · intro failed
    exact bind_of_failed failed

/-- The profiles that are made for a description, in gray or from its primaries and its curve. -/
inductive IsMadeFor (description : Description) : Profile → Prop where
  | gray {isLinear : Bool} (isGray : description.isGray = true)
      (curve : description.transfer = if isLinear then .linear else .srgb) :
      IsMadeFor description (.gray isLinear)
  | color {primaries : Primaries} {profile : Profile}
      (isPrimaries : description.primaries = some primaries)
      (built : Profile.ofPrimaries primaries description.transfer = .ok profile)
      (isBuilt : profile.IsBuiltFrom primaries description.transfer) :
      IsMadeFor description profile

/-- What an answer is taken from. -/
structure IsAccountedFor (decoded : Decoded) (icc : Option Bytes) (isMonochrome : Bool) :
    Prop where
  embedded : decoded.description.origin = .icc ↔ IsSuitable icc isMonochrome
  unmanaged : decoded.description.origin = .unmanaged ↔ isMonochrome = false ∧ IsUnreadable icc
  kept : decoded.description.origin = .icc → decoded.icc = icc
  dropped : decoded.description.origin = .unmanaged → decoded.icc = none
  made : decoded.description.origin = .nclx →
    ∃ profile, IsMadeFor decoded.description profile ∧ decoded.icc = some profile.toBytes
  luminance : ∀ nits, decoded.description.peakLuminance = some nits ↔
    decoded.description.origin = .nclx ∧ decoded.description.transfer = .pq ∧ nits = 10000

variable {icc : Option Bytes} {cicp : Cicp} {isMonochrome : Bool} {decoded : Decoded}

theorem not_isUnreadable_of_lacks (lacks : LacksProfile icc) : ¬IsUnreadable icc := by
  rintro ⟨bytes, fault, isSome, notEmpty, -⟩
  rcases lacks with rfl | rfl
  · cases isSome
  · cases isSome
    exact notEmpty rfl

theorem not_isSuitable_of_unreadable (unreadable : IsUnreadable icc) :
    ¬IsSuitable icc isMonochrome := by
  rcases unreadable with ⟨bytes, fault, rfl, -, unread⟩
  exact not_isSuitable_of_error unread

theorem isAccountedFor_ofProfile {bytes : Bytes} {profile : Profile} (isSome : icc = some bytes)
    (read : Profile.ofBytes? bytes = .ok profile)
    (suits : isMonochrome = true → profile.isGray = true) :
    (ofProfile profile bytes cicp).IsAccountedFor icc isMonochrome := by
  subst isSome
  have suitable : IsSuitable (some bytes) isMonochrome := (isSuitable_iff read).mpr suits
  constructor
  · simp [ofProfile, suitable]
  · simp only [ofProfile, reduceCtorEq, false_iff]
    rintro ⟨-, unreadable⟩
    exact not_isSuitable_of_unreadable unreadable suitable
  · simp [ofProfile]
  · simp [ofProfile]
  · simp [ofProfile]
  · simp [ofProfile]

theorem isAccountedFor_unmanaged (unreadable : IsUnreadable icc) :
    (unmanaged cicp).IsAccountedFor icc false := by
  constructor
  · simp [unmanaged, not_isSuitable_of_unreadable unreadable]
  · simp [unmanaged, unreadable]
  all_goals simp [unmanaged]

theorem isAccountedFor_monochrome (unsuitable : ¬IsSuitable icc true) :
    (monochrome cicp).IsAccountedFor icc true := by
  constructor
  · simp [monochrome, unsuitable]
  · simp [monochrome]
  · simp [monochrome]
  · simp [monochrome]
  · intro _
    exact ⟨_, .gray rfl rfl, rfl⟩
  · intro nits
    simp only [monochrome, reduceCtorEq, false_iff]
    rintro ⟨-, isPq, -⟩
    split at isPq <;> cases isPq

theorem isAccountedFor_ofCicp (lacks : LacksProfile icc) (done : ofCicp cicp = .ok decoded) :
    decoded.IsAccountedFor icc false := by
  rcases done_of_bind done with ⟨transfer, -, done⟩
  rcases done_of_bind done with ⟨profile, built, done⟩
  cases done
  constructor
  · simp [not_isSuitable_of_lacks lacks]
  · simp [not_isUnreadable_of_lacks lacks]
  · simp
  · simp
  · intro _
    exact ⟨profile, .color rfl built (Profile.isBuiltFrom_ofPrimaries built), rfl⟩
  · simp [TransferCurve.peakLuminance?_eq_some_iff]

/-- Whether nothing describes the colour of an image but a code without a curve. -/
def IsBeyondReading (icc : Option Bytes) (cicp : Cicp) (isMonochrome : Bool) : Prop :=
  LacksProfile icc ∧ isMonochrome = false ∧ cicp.transfer.code ∉ TransferCurve.knownCodes

/-- When the colour of an image can be found out, and from what. -/
structure IsSettled (icc : Option Bytes) (cicp : Cicp) (isMonochrome : Bool) : Prop where
  refused : ∀ fault, resolve icc cicp isMonochrome = .error fault ↔
    IsBeyondReading icc cicp isMonochrome ∧ fault = .unsupportedTransfer cicp.transfer.code
  answered : ¬IsBeyondReading icc cicp isMonochrome →
    ∃ decoded, resolve icc cicp isMonochrome = .ok decoded ∧
      decoded.IsAccountedFor icc isMonochrome

theorem resolve_of_isBeyondReading (beyond : IsBeyondReading icc cicp isMonochrome) :
    resolve icc cicp isMonochrome = .error (.unsupportedTransfer cicp.transfer.code) := by
  rcases beyond with ⟨lacks, rfl, unknown⟩
  have failed := ofCicp_eq_error_iff.mpr ⟨unknown, rfl⟩
  rcases lacks with rfl | rfl
  · exact failed
  · exact failed

/--
An image is refused exactly if it has no profile, is in colour and has a code without a curve; every
other image gets a description, which tells where it comes from.
-/
theorem isSettled_resolve (icc : Option Bytes) (cicp : Cicp) (isMonochrome : Bool) :
    IsSettled icc cicp isMonochrome := by
  have course := course_resolve icc cicp isMonochrome
  constructor
  · intro fault
    constructor
    · intro failed
      rw [failed] at course
      cases course with
      | refused lacks failed =>
          rcases ofCicp_eq_error_iff.mp failed with ⟨unknown, rfl⟩
          exact ⟨⟨lacks, rfl, unknown⟩, rfl⟩
    · rintro ⟨beyond, rfl⟩
      exact resolve_of_isBeyondReading beyond
  · intro within
    generalize resolve icc cicp isMonochrome = result at course ⊢
    cases course with
    | embedded isSome read suits => exact ⟨_, rfl, isAccountedFor_ofProfile isSome read suits⟩
    | unmanaged unreadable => exact ⟨_, rfl, isAccountedFor_unmanaged unreadable⟩
    | monochrome unsuitable => exact ⟨_, rfl, isAccountedFor_monochrome unsuitable⟩
    | coded lacks done => exact ⟨_, rfl, isAccountedFor_ofCicp lacks done⟩
    | refused lacks failed =>
        exact absurd ⟨lacks, rfl, (ofCicp_eq_error_iff.mp failed).1⟩ within

end Decoded

/-! ## Saving -/

/-- Whether two points are equal as numbers. -/
def Chromaticity.Coincides (left right : Chromaticity) : Prop :=
  left.x == right.x ∧ left.y == right.y

namespace Primaries

/-- Whether two sets of primaries are equal coordinate by coordinate. -/
structure Coincide (left right : Primaries) : Prop where
  red : left.red.Coincides right.red
  green : left.green.Coincides right.green
  blue : left.blue.Coincides right.blue
  white : left.white.Coincides right.white

theorem agree_iff {left right : Primaries} : left.agree right = true ↔ left.Coincide right := by
  simp only [agree, coordinates, List.zip_cons_cons, List.zip_nil_right, List.all_cons,
    List.all_nil, Bool.and_true, Bool.and_eq_true]
  constructor
  · rintro ⟨redX, redY, greenX, greenY, blueX, blueY, whiteX, whiteY⟩
    exact ⟨⟨redX, redY⟩, ⟨greenX, greenY⟩, ⟨blueX, blueY⟩, ⟨whiteX, whiteY⟩⟩
  · rintro ⟨red, green, blue, white⟩
    exact ⟨red.1, red.2, green.1, green.2, blue.1, blue.2, white.1, white.2⟩

/-- The code of an entry stands for the values of the entry. -/
theorem ofCode_of_mem {entry : NamedPrimaries} (isMember : entry ∈ knownPrimaries) :
    ofCode entry.code = entry.values := by
  simp only [knownPrimaries, List.mem_cons, List.not_mem_nil, or_false] at isMember
  rcases isMember with rfl | rfl | rfl | rfl | rfl | rfl | rfl | rfl | rfl | rfl | rfl | rfl <;> rfl

theorem exists_entry_nearestCommon (primaries : Primaries) :
    ∃ entry ∈ knownPrimaries, entry.code = primaries.nearestCommon := by
  simp only [nearestCommon, commonCodes, List.foldl_cons, List.foldl_nil, knownPrimaries]
  split <;> split <;> simp

/-- The code that is declared for primaries is one of the table. -/
theorem exists_entry_bestCode (primaries : Primaries) :
    ∃ entry ∈ knownPrimaries, entry.code = primaries.bestCode := by
  unfold bestCode
  split
  · rename_i entry found
    exact ⟨entry, List.mem_of_find?_eq_some found, rfl⟩
  · exact exists_entry_nearestCommon primaries

end Primaries

namespace RasterColor

theorem exists_ofPrimaries (color : RasterColor) (primaries : Primaries) :
    ∃ profile, Profile.ofPrimaries primaries color.curve = .ok profile :=
  Decoded.exists_ofPrimaries color.ofCicp_transferCode primaries

theorem primaries?_of_bare {color : RasterColor} (bare : color.icc = none) :
    color.primaries? = color.primaries := by
  simp [primaries?, bare]

/-- Whether a raster has a profile that cannot be read, for this reason. -/
def HasUnreadable (color : RasterColor) (fault : Fault) : Prop :=
  ∃ bytes, color.icc = some bytes ∧ Profile.ofBytes? bytes = .error fault

end RasterColor

namespace Encoded

variable {color : RasterColor} {actual declared : Primaries} {fault : Fault} {encoded : Encoded}
  {isGray savesProfile : Bool}

theorem sourceProfile_eq_error_iff :
    sourceProfile color actual = .error fault ↔ color.HasUnreadable fault := by
  unfold sourceProfile RasterColor.HasUnreadable
  cases color.icc with
  | none =>
      rcases color.exists_ofPrimaries actual with ⟨profile, built⟩
      simp [built]
  | some bytes => simp

theorem conversionTo_eq_error_iff :
    conversionTo color actual declared = .error fault ↔ color.HasUnreadable fault := by
  rw [← @sourceProfile_eq_error_iff color actual fault]
  rcases color.exists_ofPrimaries declared with ⟨target, isTarget⟩
  unfold conversionTo
  split
  · constructor
    · intro failed
      rcases failed_of_bind failed with failed | ⟨source, -, failed⟩
      · exact failed
      · rw [bind_of_done isTarget] at failed
        cases failed
    · intro failed
      exact bind_of_failed failed
  · rename_i needless
    simp only [not_or, Option.not_isSome_iff_eq_none] at needless
    rcases color.exists_ofPrimaries actual with ⟨source, isSource⟩
    simp [sourceProfile, needless.1, isSource]

theorem conversionTo_eq_none_iff {conversion : Option Conversion}
    (done : conversionTo color actual declared = .ok conversion) :
    conversion = none ↔ color.icc = none ∧ actual.Coincide declared := by
  rw [← Primaries.agree_iff]
  constructor
  · rintro rfl
    exact agree_of_conversionTo done
  · rintro ⟨noProfile, agrees⟩
    have needless : ¬(color.icc.isSome = true ∨ ¬actual.agree declared = true) := by
      simp [noProfile, agrees]
    rw [conversionTo, if_neg needless] at done
    cases done
    rfl

theorem source_of_conversionTo {conversion : Conversion}
    (done : conversionTo color actual declared = .ok (some conversion)) :
    sourceProfile color actual = .ok conversion.source := by
  unfold conversionTo at done
  split at done
  · rcases done_of_bind done with ⟨source, isSource, done⟩
    rcases done_of_bind done with ⟨target, -, done⟩
    cases done
    exact isSource
  · cases done

theorem embeddedProfile_eq_ok (color : RasterColor) (isGray : Bool) :
    ∃ bytes, embeddedProfile color isGray = .ok bytes ∧
      (isGray = false → ∀ own, color.icc = some own → bytes = own) := by
  unfold embeddedProfile
  cases isGray with
  | true => simp
  | false =>
      cases color.icc with
      | none =>
          rcases color.exists_ofPrimaries (color.primaries.getD (.ofCode ⟨1⟩)) with
            ⟨profile, built⟩
          simp [built, Except.map]
      | some own => simp

/-- How samples are written under the primaries of an entry of the table. -/
structure IsUnder (encoded : Encoded) (color : RasterColor) (entry : NamedPrimaries) : Prop where
  code : encoded.cicp.primaries = entry.code
  described : encoded.description.primaries = some entry.values
  /-- Only samples without a curve of their own that are in these primaries are left alone. -/
  kept : encoded.conversion = none ↔
    color.icc = none ∧ (color.primaries.getD bt709).Coincide entry.values
  /-- All others are converted from their own space to the one declared. -/
  converted : ∀ conversion, encoded.conversion = some conversion →
    sourceProfile color (color.primaries.getD bt709) = .ok conversion.source ∧
      Profile.ofPrimaries entry.values color.curve = .ok conversion.target
  /-- A raster without a profile is taken to be in the profile of its primaries. -/
  source : ∀ conversion, encoded.conversion = some conversion → color.icc = none →
    conversion.source.IsBuiltFrom (color.primaries.getD bt709) color.curve
  /-- The other profile has the colorants of the entry, and they can be told from it. -/
  target : ∀ conversion, encoded.conversion = some conversion →
    conversion.target.IsBuiltFrom entry.values color.curve ∧
      (entry.code ∈ Profile.nearestCodes → conversion.target.Shows entry.values)

theorem sourceProfile_of_primaries? (color : RasterColor) :
    sourceProfile color (color.primaries?.getD (.ofCode ⟨1⟩)) =
      sourceProfile color (color.primaries.getD bt709) := by
  unfold sourceProfile
  cases isIcc : color.icc with
  | none =>
      rw [RasterColor.primaries?_of_bare isIcc]
      rfl
  | some bytes => rfl

theorem isBuiltFrom_of_sourceProfile {profile : Profile} (bare : color.icc = none)
    (done : sourceProfile color actual = .ok profile) :
    profile.IsBuiltFrom actual color.curve := by
  rw [sourceProfile, bare] at done
  exact Profile.isBuiltFrom_ofPrimaries done

theorem isUnder_of_resolve (done : resolve color false false = .ok encoded) :
    ∃ entry ∈ knownPrimaries, encoded.IsUnder color entry := by
  rcases done_of_bind done with ⟨conversion, isConversion, done⟩
  cases done
  rcases Primaries.exists_entry_bestCode (color.primaries?.getD (.ofCode ⟨1⟩)) with
    ⟨entry, isMember, isCode⟩
  have values := Primaries.ofCode_of_mem isMember
  rw [isCode] at values
  rw [values] at isConversion
  have isSource : ∀ found, conversion = some found →
      sourceProfile color (color.primaries.getD bt709) = .ok found.source := by
    rintro found rfl
    rw [← sourceProfile_of_primaries?]
    exact source_of_conversionTo isConversion
  have isTarget : ∀ found, conversion = some found →
      Profile.ofPrimaries entry.values color.curve = .ok found.target := by
    rintro found rfl
    exact target_of_conversionTo isConversion
  refine ⟨entry, isMember, isCode.symm, congrArg some values, ?_, ?_, ?_, ?_⟩
  · rw [conversionTo_eq_none_iff isConversion]
    apply and_congr_right
    intro bare
    rw [RasterColor.primaries?_of_bare bare]
    rfl
  · exact fun found isFound => ⟨isSource found isFound, isTarget found isFound⟩
  · exact fun found isFound bare => isBuiltFrom_of_sourceProfile bare (isSource found isFound)
  · intro found isFound
    have built := Profile.isBuiltFrom_ofPrimaries (isTarget found isFound)
    exact ⟨built, fun isNearest => Profile.shows_of_isBuiltFrom isMember isNearest built⟩

/-- When the colour of a raster can be written, and what becomes of its samples. -/
structure IsFaithful (color : RasterColor) (isGray savesProfile : Bool) : Prop where
  refused : ∀ fault, resolve color isGray savesProfile = .error fault ↔
    savesProfile = false ∧ isGray = false ∧ color.HasUnreadable fault
  /-- A profile is passed on as it is, readable or not. -/
  embedded : savesProfile = true → ∃ encoded, resolve color isGray savesProfile = .ok encoded ∧
    encoded.conversion = none ∧
      (isGray = false → ∀ bytes, color.icc = some bytes → encoded.icc = some bytes)
  declared : savesProfile = false → isGray = false →
    ∀ encoded, resolve color isGray savesProfile = .ok encoded →
      ∃ entry ∈ knownPrimaries, encoded.IsUnder color entry

/--
Colour is refused exactly if code points have to be found for a profile that cannot be read. Embedded
profiles are passed on, and under code points samples are in the primaries declared or are converted
to them.
-/
theorem isFaithful_resolve (color : RasterColor) (isGray savesProfile : Bool) :
    IsFaithful color isGray savesProfile := by
  constructor
  · intro fault
    cases savesProfile with
    | true =>
        rcases embeddedProfile_eq_ok color isGray with ⟨bytes, isEmbedded, -⟩
        simp [resolve, withProfile, isEmbedded, bind, Except.bind, pure, Except.pure]
    | false =>
        cases isGray with
        | true => simp [resolve]
        | false =>
            simp only [true_and]
            rw [← conversionTo_eq_error_iff]
            constructor
            · intro failed
              rcases failed_of_bind failed with failed | ⟨conversion, -, failed⟩
              · exact failed
              · cases failed
            · intro failed
              exact bind_of_failed failed
  · rintro rfl
    rcases embeddedProfile_eq_ok color isGray with ⟨bytes, isEmbedded, own⟩
    refine ⟨_, bind_of_done isEmbedded, rfl, ?_⟩
    intro isColor icc isIcc
    exact congrArg some (own isColor icc isIcc)
  · rintro rfl rfl encoded done
    exact isUnder_of_resolve done

end Encoded

end AvifStill.Color
