import AvifStill.Cicp
import AvifStill.Fault
import AvifStill.Frame

/-!
# The codec configuration record

The fixed four bytes that tell a reader, before any decoding, which profile, depth and chroma format
a coded item has.
-/

namespace AvifStill.Av1

structure Config where
  profile : UInt8
  level : UInt8
  tier : Bool
  highBitDepth : Bool
  twelveBit : Bool
  monochrome : Bool
  subsamplingX : Bool
  subsamplingY : Bool
  samplePosition : UInt8
  deriving DecidableEq, Repr

namespace Config

/-- The record of a frame of the given depth and format. -/
def forFrame (depth : Nat) (format : ChromaFormat) : Config where
  profile :=
    match format with
    | .yuv444 => 1
    | .yuv422 => 2
    | .yuv420 => if depth = 12 then 2 else 0
    | .monochrome => if depth = 12 then 2 else 0
  level := 31
  tier := false
  highBitDepth := decide (8 < depth)
  twelveBit := decide (depth = 12)
  monochrome := format.isMonochrome
  subsamplingX := format.isMonochrome || format.shifts.1 == 1
  subsamplingY := format.isMonochrome || format.shifts.2 == 1
  samplePosition := 0

/-- Twelve bits only count on top of high bit depth. -/
def depth (config : Config) : Nat :=
  match config.highBitDepth, config.twelveBit with
  | true, true => 12
  | true, false => 10
  | false, _ => 8

def format (config : Config) : ChromaFormat :=
  if config.monochrome then .monochrome
  else
    match config.subsamplingX, config.subsamplingY with
    | true, true => .yuv420
    | true, false => .yuv422
    | false, _ => .yuv444

/-- One flag at a bit position. -/
def flag (position : UInt8) (value : Bool) : UInt8 :=
  if value then 1 <<< position else 0

/-- The four bytes of the record. A profile beyond three bits loses its upper bits. -/
def toBytes (config : Config) : List UInt8 :=
  [0x81,
    (config.profile <<< 5) ||| (config.level &&& 0x1f),
    flag 7 config.tier ||| flag 6 config.highBitDepth ||| flag 5 config.twelveBit |||
      flag 4 config.monochrome ||| flag 3 config.subsamplingX ||| flag 2 config.subsamplingY |||
      (config.samplePosition &&& 3),
    0]

/-- Whether a bit is set. -/
def testBit (byte mask : UInt8) : Bool :=
  byte &&& mask != 0

/-- Reads the record from its first three bytes; the marker bit and version 1 are required. -/
def ofBytes? : List UInt8 → Except Fault Config
  | marker :: levels :: flags :: _ =>
      if marker = 0x81 then
        .ok {
          profile := levels >>> 5
          level := levels &&& 0x1f
          tier := testBit flags 0x80
          highBitDepth := testBit flags 0x40
          twelveBit := testBit flags 0x20
          monochrome := testBit flags 0x10
          subsamplingX := testBit flags 0x08
          subsamplingY := testBit flags 0x04
          samplePosition := flags &&& 3 }
      else .error (.parse .invalidConfig)
  | _ => .error (.parse .truncatedConfig)

end Config

end AvifStill.Av1
