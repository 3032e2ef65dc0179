import AvifStill.Av1.Codec

/-!
# Sequence headers of encoded stills

What the sequence header and the configuration record of an encoded still image say, as far as it
follows from the frame and the settings. Code points that the header has no value for are written as
unspecified.
-/

namespace AvifStill.Av1

/-- The colour codes of a sequence header. -/
structure ColorCodes where
  primaries : UInt8
  transfer : UInt8
  matrix : UInt8
  deriving DecidableEq, Repr

namespace ColorCodes

/-- The value of a header for primaries. -/
def primariesName (primaries : ColorPrimaries) : ColorPrimaries.Name :=
  match primaries.code with
  | 1 => .bt709
  | 4 => .bt470M
  | 5 => .bt470BG
  | 6 => .bt601
  | 7 => .smpte240
  | 8 => .genericFilm
  | 9 => .bt2020
  | 10 => .xyz
  | 11 => .smpte431
  | 12 => .smpte432
  | 22 => .ebu3213
  | _ => .unspecified

/-- The value of a header for a transfer curve. -/
def transferName (transfer : TransferCharacteristics) : TransferCharacteristics.Name :=
  match transfer.code with
  | 1 => .bt709
  | 4 => .bt470M
  | 5 => .bt470BG
  | 6 => .bt601
  | 7 => .smpte240
  | 8 => .linear
  | 9 => .log100
  | 10 => .log100Sqrt10
  | 11 => .iec61966
  | 12 => .bt1361
  | 13 => .srgb
  | 14 => .bt2020TenBit
  | 15 => .bt2020TwelveBit
  | 16 => .smpte2084
  | 17 => .smpte428
  | 18 => .hlg
  | _ => .unspecified

/-- The value of a header for a matrix. -/
def matrixName (matrix : MatrixCoefficients) : MatrixCoefficients.Name :=
  match matrix.code with
  | 0 => .identity
  | 1 => .bt709
  | 4 => .fcc
  | 5 => .bt470BG
  | 6 => .bt601
  | 7 => .smpte240
  | 8 => .yCgCo
  | 9 => .bt2020NonConstant
  | 10 => .bt2020Constant
  | 11 => .smpte2085
  | 12 => .derivedNonConstant
  | 13 => .derivedConstant
  | 14 => .iCtCp
  | _ => .unspecified

/-- The names under which code points are written; a code without one is unspecified. -/
def named (cicp : Cicp) : NamedCodes :=
  ⟨primariesName cicp.primaries, transferName cicp.transfer, matrixName cicp.matrix⟩

def ofCicp (cicp : Cicp) : ColorCodes :=
  let codes := named cicp
  ⟨codes.primaries.number, codes.transfer.number, codes.matrix.number⟩

end ColorCodes

structure Sequence where
  profile : UInt8
  isStill : Bool
  width : Nat
  height : Nat
  depth : Nat
  isMonochrome : Bool
  color : Option ColorCodes
  isFullRange : Bool
  deriving DecidableEq, Repr

/-- What is known of an encoded still. -/
structure EncodedStill where
  config : Config
  sequence : Sequence
  deriving DecidableEq, Repr

namespace EncodedStill

/-- The profile of a frame: 4:2:2 and twelve bits need the last one, 4:4:4 the middle one. -/
def profileOf (frame : Frame) : UInt8 :=
  if frame.depth = 12 ∨ frame.format = .yuv422 then 2
  else if frame.format = .yuv444 then 1
  else 0

def configOf (frame : Frame) : Config where
  profile := profileOf frame
  level := 31
  tier := false
  highBitDepth := decide (8 < frame.depth)
  twelveBit := decide (frame.depth = 12)
  monochrome := frame.format.isMonochrome
  subsamplingX := frame.format != .yuv444
  subsamplingY := frame.format == .yuv420
  samplePosition := 0

def sequenceOf (frame : Frame) (settings : Settings) : Sequence where
  profile := profileOf frame
  isStill := true
  width := frame.width
  height := frame.height
  depth := frame.depth
  isMonochrome := frame.format.isMonochrome
  color := if settings.isAlpha then none else some (.ofCicp settings.cicp)
  isFullRange := frame.range.isFull

/-- What encoding a frame yields; two encoders cannot be chosen, and the frame has to be valid. -/
def ofFrame (frame : Frame) (settings : Settings) : Except Fault EncodedStill := do
  match settings.codec with
  | .aom => throw (.unsupported .aomEncoder)
  | .svt => throw (.unsupported .svtEncoder)
  | .auto | .rav1e => pure ()
  frame.validate
  return ⟨configOf frame, sequenceOf frame settings⟩

end EncodedStill

end AvifStill.Av1
