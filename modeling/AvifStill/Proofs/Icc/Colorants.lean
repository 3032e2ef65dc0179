import AvifStill.Icc.Profile

/-!
# Colorants of built profiles

A profile that is built from primaries has a colorant for each of them: its colour in the share that
it has in white, moved from the white point of the primaries to that of profiles. No code in the
profile says which primaries are meant, so a reader has to find them in the colorants. Where samples
have to be converted since their primaries are in no entry of the table, the nearest common ones are
declared instead, and those are found in the profile again to three decimal places.
-/

namespace AvifStill.Icc.Profile

open Color

/-- The shares of three primaries in their white. -/
def shares (primaries : Primaries) : Xyz :=
  (Matrix3.ofColumns (primaryColor primaries.red) (primaryColor primaries.green)
    (primaryColor primaries.blue)).inverse.applyRotated (whiteColor primaries.white)

/-- The colour of a primary in its share, moved from its white point to that of profiles. -/
def colorantOf (white primary : Chromaticity) (share : Float) : Xyz :=
  let color := primaryColor primary
  (adaptation (roundColor (whiteColor white)) profileWhite).apply
    ⟨color.x * share, color.y * share, color.z * share⟩

/-- What a profile built from primaries and a transfer curve says of its colour. -/
structure IsBuiltFrom (profile : Profile) (primaries : Primaries) (transfer : TransferCurve) :
    Prop where
  isRgb : profile.space = .rgb ∧ profile.connection = .xyz
  red : profile.red = colorantOf primaries.white primaries.red (shares primaries).x
  green : profile.green = colorantOf primaries.white primaries.green (shares primaries).y
  blue : profile.blue = colorantOf primaries.white primaries.blue (shares primaries).z
  white : profile.white = some (.ofChromaticity primaries.white)
  /-- One curve stands for all three components. -/
  curves : ∃ curve, transfer.toToneCurve? = some curve ∧
    profile.curves = ⟨some curve, some curve, some curve, none⟩
  luminance : profile.luminance = transfer.peakLuminance?
  uncoded : profile.codes = none

/-- The columns of a product are those of its right factor, multiplied by the left one. -/
theorem transpose_multiply (left right : Matrix3) : (left.multiply right).transpose =
    ⟨left.apply right.transpose.first, left.apply right.transpose.second,
      left.apply right.transpose.third⟩ :=
  rfl

theorem transpose_colorants (primaries : Primaries) : (colorants primaries).transpose =
    ⟨colorantOf primaries.white primaries.red (shares primaries).x,
      colorantOf primaries.white primaries.green (shares primaries).y,
      colorantOf primaries.white primaries.blue (shares primaries).z⟩ := by
  rw [colorants, transpose_multiply]
  rfl

theorem isBuiltFrom_ofPrimaries {primaries : Primaries} {transfer : TransferCurve}
    {profile : Profile} (built : ofPrimaries primaries transfer = .ok profile) :
    profile.IsBuiltFrom primaries transfer := by
  unfold ofPrimaries at built
  split at built
  · cases built
  · rename_i curve isCurve
    rw [transpose_colorants] at built
    cases built
    exact ⟨⟨rfl, rfl⟩, rfl, rfl, rfl, rfl, ⟨curve, isCurve, rfl⟩, rfl, rfl⟩

/-! ## Primaries read back -/

/-- The primaries that a reader finds in the colorants of primaries. -/
def recovered? (primaries : Primaries) : Option Primaries :=
  colorantPrimaries? { empty with
    red := colorantOf primaries.white primaries.red (shares primaries).x
    green := colorantOf primaries.white primaries.green (shares primaries).y
    blue := colorantOf primaries.white primaries.blue (shares primaries).z
    white := some (.ofChromaticity primaries.white) }

theorem primaries?_of_isBuiltFrom {profile : Profile} {primaries : Primaries}
    {transfer : TransferCurve} (built : profile.IsBuiltFrom primaries transfer) :
    profile.primaries? = recovered? primaries := by
  rw [primaries?, if_pos built.isRgb.1, codedPrimaries?, built.uncoded, recovered?]
  simp only [colorantPrimaries?, built.red, built.green, built.blue, built.white]
  rfl

/-- Whether the primaries that a profile describes agree with given ones to three decimal places. -/
def Shows (profile : Profile) (primaries : Primaries) : Prop :=
  ∃ found, profile.primaries? = some found ∧
    ∀ pair ∈ found.coordinates.zip primaries.coordinates,
      NamedPrimaries.nearby pair.1 pair.2 = true

/-- The codes that are declared for primaries that agree with no entry. -/
def nearestCodes : List ColorPrimaries := ⟨1⟩ :: Primaries.commonCodes

theorem shows_of_isBuiltFrom {entry : NamedPrimaries} (isMember : entry ∈ knownPrimaries)
    (isNearest : entry.code ∈ nearestCodes) {profile : Profile} {transfer : TransferCurve}
    (built : profile.IsBuiltFrom entry.values transfer) : profile.Shows entry.values := by
  have known : ∀ entry ∈ knownPrimaries, entry.code ∈ nearestCodes →
      ((recovered? entry.values).any fun found =>
        (found.coordinates.zip entry.values.coordinates).all fun pair =>
          NamedPrimaries.nearby pair.1 pair.2) = true := by
    decide +kernel
  have near := known entry isMember isNearest
  rw [← primaries?_of_isBuiltFrom built] at near
  rcases (Option.any_eq_true _ _).mp near with ⟨found, isFound, agrees⟩
  exact ⟨found, isFound, List.all_eq_true.mp agrees⟩

end AvifStill.Icc.Profile
