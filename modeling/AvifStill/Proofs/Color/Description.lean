import AvifStill.Color.Description
import AvifStill.Proofs.Icc.RoundTrip

/-!
# Descriptions of decoded images

Whether a decoded image is gray is settled once, from its profile and from whether it is coded in
monochrome. The profile that comes with the answer always says the same: an embedded one is only kept
when it was read, and one that was built can be read back. There is an answer whenever the transfer
curve has a code that is known, which is so for all code points that rasters are saved under.
-/

namespace AvifStill.Color

open Icc

namespace Decoded

/-- The parts of a resolved colour do not contradict each other or the coded frame. -/
structure IsConsistent (decoded : Decoded) (isMonochrome : Bool) : Prop where
  monochrome : isMonochrome = true → decoded.description.isGray = true
  luma : decoded.loadsGray = true → decoded.description.isGray = true
  profile : ∀ bytes, decoded.icc = some bytes →
    ∃ profile, Profile.ofBytes? bytes = .ok profile ∧ profile.isGray = decoded.description.isGray

theorem isConsistent_monochrome (cicp : Cicp) (isMonochrome : Bool) :
    (monochrome cicp).IsConsistent isMonochrome := by
  refine ⟨fun _ => rfl, fun _ => rfl, ?_⟩
  intro bytes isBytes
  cases isBytes
  exact Profile.exists_ofBytes?_toBytes (Profile.isStorable_gray _)

theorem isConsistent_ofCicp {cicp : Cicp} {decoded : Decoded} (done : ofCicp cicp = .ok decoded) :
    decoded.IsConsistent false := by
  rcases done_of_bind done with ⟨transfer, -, done⟩
  rcases done_of_bind done with ⟨profile, built, done⟩
  cases done
  refine ⟨fun isMonochrome => (nomatch isMonochrome), fun isLuma => (nomatch isLuma), ?_⟩
  intro bytes isBytes
  cases isBytes
  rcases Profile.exists_ofBytes?_toBytes (Profile.isStorable_ofPrimaries built)
    with ⟨found, read, same⟩
  exact ⟨found, read, same.trans (Profile.isGray_ofPrimaries built)⟩

theorem isConsistent_withoutProfile {cicp : Cicp} {isMonochrome : Bool} {decoded : Decoded}
    (done : withoutProfile cicp isMonochrome = .ok decoded) :
    decoded.IsConsistent isMonochrome := by
  cases isMonochrome with
  | false => exact isConsistent_ofCicp done
  | true =>
      cases done
      exact isConsistent_monochrome cicp true

theorem isConsistent_unmanaged (cicp : Cicp) : (unmanaged cicp).IsConsistent false :=
  ⟨fun isMonochrome => (nomatch isMonochrome), fun isLuma => (nomatch isLuma),
    fun _ isBytes => (nomatch isBytes)⟩

theorem isConsistent_ofProfile {profile : Profile} {bytes : Bytes} {isMonochrome : Bool}
    (read : Profile.ofBytes? bytes = .ok profile) (cicp : Cicp)
    (suits : isMonochrome = true → profile.isGray = true) :
    (ofProfile profile bytes cicp).IsConsistent isMonochrome := by
  refine ⟨suits, ?_, ?_⟩
  · intro isLuma
    exact (Bool.and_eq_true_iff.mp isLuma).1
  · intro kept isBytes
    cases isBytes
    exact ⟨profile, read, rfl⟩

/-- Whatever profile a file has, and however it is coded, the answer is consistent. -/
theorem isConsistent_resolve {icc : Option Bytes} {cicp : Cicp} {isMonochrome : Bool}
    {decoded : Decoded} (done : resolve icc cicp isMonochrome = .ok decoded) :
    decoded.IsConsistent isMonochrome := by
  unfold resolve at done
  split at done
  · exact isConsistent_withoutProfile done
  · exact isConsistent_withoutProfile done
  · rename_i bytes notEmpty
    split at done
    · rename_i profile read
      split at done
      · cases done
        exact isConsistent_monochrome cicp isMonochrome
      · rename_i suits
        cases done
        apply isConsistent_ofProfile read
        intro isMonochrome
        exact Decidable.not_not.mp fun notGray => suits ⟨isMonochrome, notGray⟩
    · split at done
      · cases done
        exact isConsistent_monochrome cicp isMonochrome
      · rename_i notMonochrome
        cases done
        rw [Bool.not_eq_true] at notMonochrome
        rw [notMonochrome]
        exact isConsistent_unmanaged cicp

theorem exists_toneCurve {code : TransferCharacteristics} {transfer : TransferCurve}
    (known : TransferCurve.ofCicp code = .ok transfer) :
    ∃ curve, transfer.toToneCurve? = some curve := by
  unfold TransferCurve.ofCicp at known
  split at known <;> cases known <;> exact ⟨_, rfl⟩

theorem exists_ofPrimaries {code : TransferCharacteristics} {transfer : TransferCurve}
    (known : TransferCurve.ofCicp code = .ok transfer) (primaries : Primaries) :
    ∃ profile, Profile.ofPrimaries primaries transfer = .ok profile := by
  rcases exists_toneCurve known with ⟨curve, isCurve⟩
  unfold Profile.ofPrimaries
  rw [isCurve]
  exact ⟨_, rfl⟩

/-- Code points with a known transfer curve describe every decoded image, whatever its profile. -/
theorem exists_resolve {cicp : Cicp} {transfer : TransferCurve}
    (known : TransferCurve.ofCicp cicp.transfer = .ok transfer) (icc : Option Bytes)
    (isMonochrome : Bool) : ∃ decoded, resolve icc cicp isMonochrome = .ok decoded := by
  have withoutProfile : ∃ decoded, withoutProfile cicp isMonochrome = .ok decoded := by
    cases isMonochrome with
    | true => exact ⟨_, rfl⟩
    | false =>
        rcases exists_ofPrimaries known (Primaries.ofCode
          (if cicp.primaries.isUnspecified then ⟨1⟩ else cicp.primaries)) with ⟨profile, isProfile⟩
        exact ⟨_, (bind_of_done known).trans (bind_of_done isProfile)⟩
  unfold resolve
  split
  · exact withoutProfile
  · exact withoutProfile
  · split
    · split <;> exact ⟨_, rfl⟩
    · split <;> exact ⟨_, rfl⟩

end Decoded

namespace Encoded

variable {color : RasterColor} {isGray savesProfile : Bool} {encoded : Encoded}

/-- The code points that colour is written with, in every mode. -/
theorem codes_of_resolve (done : resolve color isGray savesProfile = .ok encoded) :
    (encoded.cicp.transfer = color.transferCode ∨ encoded.cicp.transfer = ⟨2⟩) ∧
      (encoded.cicp.matrix = ⟨1⟩ ∨ encoded.cicp.matrix = ⟨12⟩) ∧
      encoded.cicp.fullRange = true := by
  cases savesProfile with
  | true =>
      rcases done_of_bind done with ⟨icc, -, done⟩
      cases done
      cases isGray <;> simp
  | false =>
      cases isGray with
      | true =>
          cases done
          simp [compactGray]
      | false =>
          rcases done_of_bind done with ⟨conversion, -, done⟩
          cases done
          refine ⟨Or.inl rfl, ?_, rfl⟩
          simp only
          split <;> simp

/-- Every raster is saved under code points with a known transfer curve. -/
theorem transfer_of_resolve (done : resolve color isGray savesProfile = .ok encoded) :
    ∃ transfer, TransferCurve.ofCicp encoded.cicp.transfer = .ok transfer := by
  rcases (codes_of_resolve done).1 with named | unspecified
  · rw [named]
    unfold RasterColor.transferCode
    split <;> exact ⟨_, rfl⟩
  · rw [unspecified]
    exact ⟨_, rfl⟩

end Encoded

end AvifStill.Color
