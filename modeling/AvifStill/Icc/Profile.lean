import AvifStill.Bytes
import AvifStill.Color.Adaptation
import AvifStill.Color.Curve

/-!
# Colour profiles

What the library knows of a colour profile: its colour space, colorants, tone curves and white
point, and the texts it is written with. Lookup tables are left out, so a profile that is defined by
them has nothing to convert with. Two kinds are built here, from primaries and a transfer curve and
for gray images.
-/

namespace AvifStill.Icc

open Color Numeric

/-- Colour spaces that a profile can be for; `channels` names those known by their number only. -/
inductive Space where
  | xyz
  | lab
  | luv
  | yCbr
  | yxy
  | rgb
  | gray
  | hsv
  | hls
  | cmyk
  | cmy
  | channels (count : Nat)
  deriving DecidableEq, Repr

namespace Space

/-- The four letters by which a profile names its space. -/
def ofLetters? (letters : Bytes) : Option Space :=
  let named : List (String × Space) :=
    [("XYZ ", xyz), ("Lab ", lab), ("Luv ", luv), ("YCbr", yCbr), ("Yxy ", yxy), ("RGB ", rgb),
      ("GRAY", gray), ("HSV ", hsv), ("HLS ", hls), ("CMYK", cmyk), ("CMY ", cmy),
      ("2CLR", channels 2), ("3CLR", channels 3), ("4CLR", channels 4), ("5CLR", channels 5),
      ("6CLR", channels 6), ("7CLR", channels 7), ("8CLR", channels 8), ("9CLR", channels 9),
      ("ACLR", channels 10), ("BCLR", channels 11), ("CCLR", channels 12), ("DCLR", channels 13),
      ("ECLR", channels 14), ("FCLR", channels 15)]
  (named.find? fun entry => Bytes.ofText entry.1 == letters).map (·.2)

/-- How many components a colour of the space has. -/
def components : Space → Nat
  | gray => 1
  | cmyk => 4
  | channels count => count
  | _ => 3

/-- Whether profiles can connect in the space. -/
def isConnection (space : Space) : Bool :=
  space == xyz || space == lab

end Space

/-- Tone curves, of which an RGB profile uses three and a gray one another. -/
structure ToneCurves where
  red : Option ToneCurve
  green : Option ToneCurve
  blue : Option ToneCurve
  gray : Option ToneCurve

/-- The texts of a profile. -/
structure Texts where
  description : Option String
  copyright : Option String
  model : Option String
  manufacturer : Option String

/-- What a profile says of its colour by codes. -/
structure Codes where
  primaries : ColorPrimaries
  transfer : TransferCharacteristics

structure Profile where
  intent : RenderingIntent
  space : Space
  /-- The space in which the profile connects to others. -/
  connection : Space
  red : Xyz
  green : Xyz
  blue : Xyz
  curves : ToneCurves
  white : Option Xyz
  /-- The peak luminance in cd/m². -/
  luminance : Option Nat
  codes : Option Codes
  /-- Whether the profile tells how it was adapted to the white point of profiles. -/
  isAdapted : Bool
  texts : Texts

namespace Profile

/-- An RGB profile that says nothing more. -/
def empty : Profile where
  intent := .perceptual
  space := .rgb
  connection := .xyz
  red := .zero
  green := .zero
  blue := .zero
  curves := ⟨none, none, none, none⟩
  white := none
  luminance := none
  codes := none
  isAdapted := false
  texts := ⟨none, none, none, none⟩

def isGray (profile : Profile) : Bool := profile.space == .gray

/-- The RGB profile of primaries with a transfer curve, which has to be known. -/
def ofPrimaries (primaries : Primaries) (transfer : TransferCurve) : Except Fault Profile :=
  match transfer.toToneCurve? with
  | none => .error (.profile .noToneCurve)
  | some curve =>
      let columns := (colorants primaries).transpose
      let name := ((NamedPrimaries.find? primaries).map (·.name)).getD ""
      let description := name ++ " " ++ transfer.suffix
      .ok { empty with
        red := columns.first
        green := columns.second
        blue := columns.third
        curves := ⟨some curve, some curve, some curve, none⟩
        white := some (.ofChromaticity primaries.white)
        luminance := transfer.peakLuminance?
        isAdapted := true
        texts := ⟨some description, some "Public Domain", some description,
          some "zenavif-raster"⟩ }

/-- The profile of gray images, linear or with the sRGB curve. -/
def gray (isLinear : Bool) : Profile :=
  { empty with
    space := .gray
    curves := ⟨none, none, none, some (if isLinear then .ofExponent 1.0
      else .parametric TransferCurve.srgbParameters)⟩
    white := some (.ofChromaticity bt709.white)
    isAdapted := true
    texts := ⟨some (if isLinear then "D65 gray linear" else "D65 gray sRGB-TRC"),
      some "Public Domain", none, none⟩ }

/-- Whether a curve is there and is the identity. -/
def isLinearCurve (curve : Option ToneCurve) : Bool :=
  curve.any (·.isLinear)

/-- Whether all tone curves of a profile are the identity. -/
def isLinear (profile : Profile) : Bool :=
  if profile.isGray then isLinearCurve profile.curves.gray
  else isLinearCurve profile.curves.red && isLinearCurve profile.curves.green &&
    isLinearCurve profile.curves.blue

/-- The white point of profiles as adapting back takes it. -/
def connectionWhite : Xyz := ⟨0.9642, 1.0, 0.8249⟩

/-- The chromaticity of a colour; black has none. -/
def chromaticity? (color : Xyz) : Option Chromaticity :=
  if leastDeterminant < color.sum.abs then
    some ⟨narrow (color.x / color.sum), narrow (color.y / color.sum)⟩
  else none

/-- The primaries that a profile's code stands for, if it has one with a meaning. -/
def codedPrimaries? (profile : Profile) : Option Primaries :=
  profile.codes.bind fun codes =>
    if codes.primaries.isUnspecified then none
    else (NamedPrimaries.ofCode? codes.primaries).map (·.values)

/-- The primaries of a profile's colorants, adapted back to its white point. -/
def colorantPrimaries? (profile : Profile) : Option Primaries := do
  let white := profile.white.getD (.ofChromaticity bt709.white)
  let red ← chromaticity? (adapt profile.red connectionWhite white)
  let green ← chromaticity? (adapt profile.green connectionWhite white)
  let blue ← chromaticity? (adapt profile.blue connectionWhite white)
  return ⟨red, green, blue, ⟨narrow (white.x / white.sum), narrow (white.y / white.sum)⟩⟩

/-- The primaries that an RGB profile describes. -/
def primaries? (profile : Profile) : Option Primaries :=
  if profile.space = .rgb then profile.codedPrimaries?.or profile.colorantPrimaries? else none

end Profile

end AvifStill.Icc
