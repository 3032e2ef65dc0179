import AvifStill.Color.LightCurve
import AvifStill.Icc.Profile
import AvifStill.Raster

/-!
# Converting samples between profiles

Moves the colour of a raster from one RGB profile to another: through the source's curves to light,
through both profiles' colorants, and back through the target's curves. Alpha is left alone, and
gray rasters are not converted.

Profiles that connect by tables are left out: a `Profile` holds no tables, so a pair that would need
them is refused here although it can be converted with them. The other kinds are refused as they are
anywhere, each with its own fault.
-/

namespace AvifStill.Icc

open Color

/-- One value for each colour component. -/
structure Components (α : Type) where
  red : α
  green : α
  blue : α

/-- Works on each component, if that is possible for all. -/
def Components.mapM? {α β : Type} (step : α → Option β) (components : Components α) :
    Option (Components β) := do
  return ⟨← step components.red, ← step components.green, ← step components.blue⟩

/-- What defines the colour of an RGB profile; a curve that a code names stands for all three. -/
structure Shaper where
  colorants : Matrix3
  curves : Components ToneCurve
  coded : Option LightCurve

namespace Shaper

/-- From signal to light. -/
def toLight? (shaper : Shaper) : Option (Components (Float → Float)) :=
  match shaper.coded with
  | some curve => some ⟨curve.toLight, curve.toLight, curve.toLight⟩
  | none => shaper.curves.mapM? ToneCurve.toLight?

/-- From steps of light to signal. -/
def toSignal? (shaper : Shaper) (steps : Nat) : Option (Components (Nat → Float)) :=
  match shaper.coded with
  | some curve =>
      let toSignal (step : Nat) : Float := curve.toSignal (Float.ofNat step / Float.ofNat steps)
      some ⟨toSignal, toSignal, toSignal⟩
  | none => shaper.curves.mapM? (ToneCurve.toSignal? steps)

end Shaper

/-- Whether pixels of three samples, and alpha or not, can hold colours of a space. -/
def Space.fits (hasAlpha : Bool) (space : Space) : Bool :=
  if space = .rgb ∨ space = .lab then true
  else if hasAlpha then space.components == 4
  else space.components == 3

namespace Profile

/-- The colorants and curves of a profile that is defined by them alone. -/
def shaper? (profile : Profile) : Option Shaper :=
  match profile.curves.red, profile.curves.green, profile.curves.blue with
  | some red, some green, some blue =>
      if profile.space = .rgb ∧ profile.connection = .xyz ∧ ¬profile.red.isZero ∧
          ¬profile.green.isZero ∧ ¬profile.blue.isZero then
        some {
          colorants := .ofColumns profile.red profile.green profile.blue
          curves := ⟨red, green, blue⟩
          coded := profile.codes.bind fun codes => LightCurve.ofCode? codes.transfer }
      else none
  | _, _, _ => none

/-- Whether a profile is for gray and has its curve. -/
def hasGrayCurve (profile : Profile) : Bool :=
  profile.isGray && profile.curves.gray.isSome

/-- Whether one of two profiles is a gray one with a curve that the other could connect to. -/
def isGrayPair (source target : Profile) : Bool :=
  source.connection == .xyz && target.connection == .xyz &&
    (source.hasGrayCurve && (target.space == .rgb || target.space == .gray) ||
      source.space == .rgb && target.hasGrayCurve)

/-- Whether colours of both spaces can be looked up in tables from one to the other. -/
def isTablePair (source target : Space) : Bool :=
  let isPlain (space : Space) : Bool := space == .rgb || space == .lab
  source.components == 4 && isPlain target || isPlain source && target.components == 4 ||
    source.components == 3 && target.components == 3

/--
Why colours cannot get from one profile to another if not both are defined by colorants. Pixels have
to suit the profiles first; then tables would be needed, and profiles are taken here to have none.
-/
def connectionFault (hasAlpha : Bool) (source target : Profile) : ProfileFault :=
  if isGrayPair source target then .layout
  else if ¬source.connection.isConnection ∨ ¬target.connection.isConnection ∨
      ¬isTablePair source.space target.space then .connection
  else if ¬source.space.fits hasAlpha ∨ ¬target.space.fits hasAlpha then .layout
  else if source.space.components = 4 then .noTable source.intent
  else .connection

/-- The way between two profiles for pixels of three samples, and alpha or not. -/
def connect (hasAlpha : Bool) (source target : Profile) : Except Fault (Shaper × Shaper) :=
  match source.shaper?, target.shaper? with
  | some source, some target => .ok (source, target)
  | _, _ => .error (.profile (connectionFault hasAlpha source target))

end Profile

/-- The steps in which light is counted for samples of a depth. -/
def lightSteps : HostDepth → Nat
  | .eight => 4095
  | .sixteen => 65535

/-- A matrix coefficient; for 8-bit samples in a 16-bit word with thirteen fraction bits. -/
def coefficient (depth : HostDepth) (value : Float) : Float :=
  match depth with
  | .eight => Float.ofInt (Numeric.truncateDouble (-32768) 32767 (value * 8192.0)) / 8192.0
  | .sixteen => value

/-- The conversion of colours between two profiles, for samples of one depth. -/
structure ColorMap (depth : HostDepth) where
  toLight : Components (Float → Float)
  matrix : Matrix3
  toSignal : Components (Nat → Float)

namespace ColorMap

/-- The conversion between two profiles, all of whose curves have to have a meaning. -/
def between (depth : HostDepth) (source target : Shaper) : Except Fault (ColorMap depth) :=
  match source.toLight?, target.toSignal? (lightSteps depth) with
  | some toLight, some toSignal =>
      let held (row : Xyz) : Xyz :=
        ⟨coefficient depth row.x, coefficient depth row.y, coefficient depth row.z⟩
      let matrix := target.colorants.inverse.multiply source.colorants
      .ok ⟨toLight, ⟨held matrix.first, held matrix.second, held matrix.third⟩, toSignal⟩
  | _, _ => .error (.profile .curveNotUsable)

/-- The light of a sample in steps. -/
def lightOf {depth : HostDepth} (toLight : Float → Float) (sample : depth.Sample) : Float :=
  let light := toLight (Float.ofNat sample.val / Float.ofNat depth.max)
  Float.floor (light * Float.ofNat (lightSteps depth) + 0.5)

/-- The sample of light in steps, which is rounded and held in range first. -/
def sampleOf {depth : HostDepth} (toSignal : Nat → Float) (light : Float) : depth.Sample :=
  let step := min (lightSteps depth) (light + 0.5).toUInt64.toNat
  depth.clamp (toSignal step * Float.ofNat depth.max + 0.5).toUInt64.toNat

/-- The converted colour of a pixel, without its alpha. -/
def apply {depth : HostDepth} (map : ColorMap depth) {others : Nat}
    (pixel : Vector depth.Sample (others + 3)) : Vector depth.Sample 3 :=
  let moved := map.matrix.apply ⟨lightOf map.toLight.red (Pixel.red pixel),
    lightOf map.toLight.green (Pixel.green pixel), lightOf map.toLight.blue (Pixel.blue pixel)⟩
  #v[sampleOf map.toSignal.red moved.x, sampleOf map.toSignal.green moved.y,
    sampleOf map.toSignal.blue moved.z]

end ColorMap

end AvifStill.Icc

namespace AvifStill.Raster

open Icc

/-- Converts a raster between profiles. Gray rasters stay as they are, whatever the profiles. -/
def convert (source target : Profile) : Raster → Except Fault Raster
  | ⟨.rgb, depth, pixels⟩ => do
      let (source, target) ← Profile.connect false source target
      let map ← ColorMap.between depth source target
      return ⟨.rgb, depth, pixels.map map.apply⟩
  | ⟨.rgba, depth, pixels⟩ => do
      let (source, target) ← Profile.connect true source target
      let map ← ColorMap.between depth source target
      return ⟨.rgba, depth, pixels.map fun pixel =>
        (map.apply pixel).push (Pixel.alpha pixel)⟩
  | raster => .ok raster

end AvifStill.Raster
