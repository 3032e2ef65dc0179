import AvifStill.Av1.Codec

/-!
# Options

What a caller may choose when saving and loading. Choices out of range are brought into it before
they are used; only a bit depth that cannot be coded is refused.
-/

namespace AvifStill

structure EncodeOptions where
  leastQuantizer : Nat
  mostQuantizer : Nat
  alphaQuantizer : Nat
  format : ChromaFormat
  depth : Nat
  codec : Av1.CodecChoice
  speed : Nat
  savesIcc : Bool
  savesExif : Bool
  savesXmp : Bool
  threads : Nat
  deriving DecidableEq, Repr

namespace EncodeOptions

/-- The coarsest quantizer. -/
def quantizerLimit : Nat := 63

/-- The fastest speed. -/
def speedLimit : Nat := 10

def threadLimit : Nat := 64

def default : EncodeOptions where
  leastQuantizer := 0
  mostQuantizer := 40
  alphaQuantizer := 0
  format := .yuv420
  depth := 8
  codec := .auto
  speed := 6
  savesIcc := false
  savesExif := true
  savesXmp := true
  threads := 1

/-- Brings all choices into range; the lower quantizer may not exceed the upper one. -/
def validate (options : EncodeOptions) : Except Fault EncodeOptions :=
  if ¬Frame.IsCodedDepth options.depth then .error (.invalidInput .optionDepth)
  else
    let mostQuantizer := min options.mostQuantizer quantizerLimit
    .ok { options with
      mostQuantizer := mostQuantizer
      leastQuantizer := min options.leastQuantizer mostQuantizer
      alphaQuantizer := min options.alphaQuantizer quantizerLimit
      speed := min options.speed speedLimit
      threads := max 1 (min options.threads threadLimit) }

end EncodeOptions

structure DecodeOptions where
  /-- The most pixels an image may have; zero is no limit. -/
  pixelLimit : Nat
  /-- Whether crop, rotation and mirror are applied to the raster. -/
  appliesTransforms : Bool
  deriving DecidableEq, Repr

namespace DecodeOptions

def default : DecodeOptions := ⟨0, true⟩

/-- Refuses images of more pixels than the limit. -/
def checkSize (options : DecodeOptions) (width height : UInt32) : Except Fault Unit :=
  if options.pixelLimit ≠ 0 ∧ options.pixelLimit < width.toNat * height.toNat then
    .error (.imageTooLarge width.toNat height.toNat)
  else .ok ()

end DecodeOptions

end AvifStill
