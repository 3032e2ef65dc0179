import AvifStill.Icc.Reader
import AvifStill.Icc.Writer

/-!
# Colour descriptions

Works out the colour of an image in both directions. When an image is loaded, an embedded profile or
code points become a description and the profile of the decoded samples. When a raster is saved, its
colour becomes a profile to embed or code points to declare; where the declared primaries are not
the raster's own, the samples have to be converted first.
-/

namespace AvifStill.Color

open Icc

/-- Where a description comes from; `unmanaged` means that nothing usable was there. -/
inductive Origin where
  | icc
  | nclx
  | unmanaged
  deriving DecidableEq, Repr

structure Description where
  origin : Origin
  /-- Absent for gray and unmanaged images. -/
  primaries : Option Primaries
  transfer : TransferCurve
  matrix : MatrixCoefficients
  fullRange : Bool
  peakLuminance : Option Nat
  isGray : Bool

/-- The colour of a decoded image. -/
structure Decoded where
  description : Description
  /-- The profile of the decoded samples. -/
  icc : Option Bytes
  /-- Whether only the luma plane counts. -/
  loadsGray : Bool

namespace Decoded

/-- The description by a profile that could be read. -/
def ofProfile (profile : Profile) (bytes : Bytes) (cicp : Cicp) : Decoded where
  description := {
    origin := .icc
    primaries := if profile.isGray then none else profile.primaries?
    transfer := if profile.isLinear then .linear else .unknown
    matrix := cicp.matrix
    fullRange := cicp.fullRange
    peakLuminance := none
    isGray := profile.isGray }
  icc := some bytes
  loadsGray := profile.isGray && cicp.matrix.code != 0

/-- What is left for an image in colour whose profile cannot be read. -/
def unmanaged (cicp : Cicp) : Decoded where
  description := {
    origin := .unmanaged
    primaries := none
    transfer := .unknown
    matrix := cicp.matrix
    fullRange := cicp.fullRange
    peakLuminance := none
    isGray := false }
  icc := none
  loadsGray := false

/-- A monochrome image without a usable profile, which gets one of its own. -/
def monochrome (cicp : Cicp) : Decoded :=
  let isLinear := cicp.transfer.code == 8
  { description := {
      origin := .nclx
      primaries := none
      transfer := if isLinear then .linear else .srgb
      matrix := cicp.matrix
      fullRange := cicp.fullRange
      peakLuminance := none
      isGray := true }
    icc := some (Profile.gray isLinear).toBytes
    loadsGray := true }

/-- An image in colour described by code points; a code without a curve is refused. -/
def ofCicp (cicp : Cicp) : Except Fault Decoded := do
  let code : ColorPrimaries := if cicp.primaries.isUnspecified then ⟨1⟩ else cicp.primaries
  let transfer ← TransferCurve.ofCicp cicp.transfer
  let primaries := Primaries.ofCode code
  let profile ← Profile.ofPrimaries primaries transfer
  return {
    description := {
      origin := .nclx
      primaries := some primaries
      transfer := transfer
      matrix := cicp.matrix
      fullRange := cicp.fullRange
      peakLuminance := transfer.peakLuminance?
      isGray := false }
    icc := some profile.toBytes
    loadsGray := false }

/-- The colour of an image without a profile that counts. -/
def withoutProfile (cicp : Cicp) (isMonochrome : Bool) : Except Fault Decoded :=
  if isMonochrome then .ok (monochrome cicp) else ofCicp cicp

/--
The colour of a decoded image. A profile that cannot be read leaves an image in colour unmanaged; on
a monochrome image it is ignored, and so is one that is not for gray.
-/
def resolve (icc : Option Bytes) (cicp : Cicp) (isMonochrome : Bool) : Except Fault Decoded :=
  match icc with
  | none => withoutProfile cicp isMonochrome
  | some [] => withoutProfile cicp isMonochrome
  | some bytes =>
      match Profile.ofBytes? bytes with
      | .ok profile =>
          if isMonochrome ∧ ¬profile.isGray then .ok (monochrome cicp)
          else .ok (ofProfile profile bytes cicp)
      | .error _ => if isMonochrome then .ok (monochrome cicp) else .ok (unmanaged cicp)

end Decoded

/-- The colour of a raster that is to be saved. -/
structure RasterColor where
  icc : Option Bytes
  /-- Taken from the profile where not given. -/
  primaries : Option Primaries
  isLinear : Bool

namespace RasterColor

def srgb : RasterColor := ⟨none, none, false⟩

def linearSrgb : RasterColor := ⟨none, none, true⟩

def curve (color : RasterColor) : TransferCurve :=
  if color.isLinear then .linear else .srgb

def transferCode (color : RasterColor) : TransferCharacteristics :=
  if color.isLinear then ⟨8⟩ else ⟨13⟩

/-- The primaries of the raster: those given, else those of its profile if it can be read. -/
def primaries? (color : RasterColor) : Option Primaries :=
  color.primaries.or
    (color.icc.bind fun bytes => ((Profile.ofBytes? bytes).toOption).bind (·.primaries?))

end RasterColor

/-- Two profiles between which samples have to be converted. -/
structure Conversion where
  source : Profile
  target : Profile

/-- How the colour of a raster is written. -/
structure Encoded where
  cicp : Cicp
  icc : Option Bytes
  description : Description
  conversion : Option Conversion

namespace Encoded

/-- The description of a raster whose colour is written with these code points. -/
def describe (color : RasterColor) (origin : Origin) (matrix : MatrixCoefficients)
    (primaries : Option Primaries) (isGray : Bool) : Description where
  origin := origin
  primaries := primaries
  transfer := color.curve
  matrix := matrix
  fullRange := true
  peakLuminance := none
  isGray := isGray

/-- The profile to embed: gray rasters get one of their own, others keep theirs if they have one. -/
def embeddedProfile (color : RasterColor) (isGray : Bool) : Except Fault Bytes :=
  if isGray then .ok (Profile.gray color.isLinear).toBytes
  else
    match color.icc with
    | some bytes => .ok bytes
    | none =>
        (Profile.ofPrimaries (color.primaries.getD (.ofCode ⟨1⟩)) color.curve).map (·.toBytes)

/-- Colour written as an embedded profile, with code points that say little. -/
def withProfile (color : RasterColor) (isGray : Bool) : Except Fault Encoded := do
  let icc ← embeddedProfile color isGray
  return {
    cicp := ⟨⟨2⟩, if isGray then color.transferCode else ⟨2⟩, ⟨1⟩, true⟩
    icc := some icc
    description := describe color .icc ⟨1⟩ (if isGray then none else color.primaries?) isGray
    conversion := none }

/-- Gray written as code points. -/
def compactGray (color : RasterColor) : Encoded where
  cicp := ⟨⟨1⟩, color.transferCode, ⟨1⟩, true⟩
  icc := none
  description := describe color .nclx ⟨1⟩ none true
  conversion := none

/-- The profile that the samples of a raster are in. -/
def sourceProfile (color : RasterColor) (actual : Primaries) : Except Fault Profile :=
  match color.icc with
  | some bytes => Profile.ofBytes? bytes
  | none => Profile.ofPrimaries actual color.curve

/--
The conversion to declared primaries. It is needed when the raster has a profile, and so a curve of
its own, or when its primaries are not exactly those declared.
-/
def conversionTo (color : RasterColor) (actual declared : Primaries) :
    Except Fault (Option Conversion) :=
  if color.icc.isSome ∨ ¬actual.agree declared then do
    let source ← sourceProfile color actual
    let target ← Profile.ofPrimaries declared color.curve
    return some ⟨source, target⟩
  else .ok none

/-- Colour written as code points. The matrix follows from the primaries unless they are BT.709. -/
def compactRgb (color : RasterColor) : Except Fault Encoded := do
  let actual := color.primaries?.getD (.ofCode ⟨1⟩)
  let code := actual.bestCode
  let matrix : MatrixCoefficients := if code.code = 1 then ⟨1⟩ else ⟨12⟩
  let declared := Primaries.ofCode code
  let conversion ← conversionTo color actual declared
  return {
    cicp := ⟨code, color.transferCode, matrix, true⟩
    icc := none
    description := describe color .nclx matrix (some declared) false
    conversion := conversion }

/-- How the colour of a raster is written: as an embedded profile, or as code points. -/
def resolve (color : RasterColor) (isGray savesProfile : Bool) : Except Fault Encoded :=
  if savesProfile then withProfile color isGray
  else if isGray then .ok (compactGray color)
  else compactRgb color

end Encoded

end AvifStill.Color
