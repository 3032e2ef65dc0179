/-!
# Coding-independent code points

The numeric codes by which a file names its primaries, transfer curve and matrix, the sample range
that goes with them, and the chroma formats of coded frames. A code stays a number: files may carry
any, and only some have a name and a meaning.
-/

namespace AvifStill

structure ColorPrimaries where
  code : UInt8
  deriving DecidableEq, Repr

structure TransferCharacteristics where
  code : UInt8
  deriving DecidableEq, Repr

structure MatrixCoefficients where
  code : UInt8
  deriving DecidableEq, Repr

/-- Unknown (0) and unspecified (2) both mean that nothing is signalled. -/
def ColorPrimaries.isUnspecified (primaries : ColorPrimaries) : Bool :=
  primaries.code == 0 || primaries.code == 2

/-- Unknown (0) and unspecified (2) both mean that nothing is signalled. -/
def TransferCharacteristics.isUnspecified (transfer : TransferCharacteristics) : Bool :=
  transfer.code == 0 || transfer.code == 2

namespace ColorPrimaries

/-- The primaries that have a name. -/
inductive Name where
  | bt709
  | unspecified
  | bt470M
  | bt470BG
  | bt601
  | smpte240
  | genericFilm
  | bt2020
  | xyz
  | smpte431
  | smpte432
  | ebu3213
  deriving DecidableEq, Repr

def Name.number : Name → UInt8
  | bt709 => 1
  | unspecified => 2
  | bt470M => 4
  | bt470BG => 5
  | bt601 => 6
  | smpte240 => 7
  | genericFilm => 8
  | bt2020 => 9
  | xyz => 10
  | smpte431 => 11
  | smpte432 => 12
  | ebu3213 => 22

end ColorPrimaries

namespace TransferCharacteristics

/-- The transfer curves that have a name. -/
inductive Name where
  | bt709
  | unspecified
  | bt470M
  | bt470BG
  | bt601
  | smpte240
  | linear
  | log100
  | log100Sqrt10
  | iec61966
  | bt1361
  | srgb
  | bt2020TenBit
  | bt2020TwelveBit
  | smpte2084
  | smpte428
  | hlg
  deriving DecidableEq, Repr

def Name.number : Name → UInt8
  | bt709 => 1
  | unspecified => 2
  | bt470M => 4
  | bt470BG => 5
  | bt601 => 6
  | smpte240 => 7
  | linear => 8
  | log100 => 9
  | log100Sqrt10 => 10
  | iec61966 => 11
  | bt1361 => 12
  | srgb => 13
  | bt2020TenBit => 14
  | bt2020TwelveBit => 15
  | smpte2084 => 16
  | smpte428 => 17
  | hlg => 18

end TransferCharacteristics

namespace MatrixCoefficients

/-- The matrices that have a name. -/
inductive Name where
  | identity
  | bt709
  | unspecified
  | fcc
  | bt470BG
  | bt601
  | smpte240
  | yCgCo
  | bt2020Constant
  | bt2020NonConstant
  | smpte2085
  | derivedNonConstant
  | derivedConstant
  | iCtCp
  deriving DecidableEq, Repr

def Name.number : Name → UInt8
  | identity => 0
  | bt709 => 1
  | unspecified => 2
  | fcc => 4
  | bt470BG => 5
  | bt601 => 6
  | smpte240 => 7
  | yCgCo => 8
  | bt2020NonConstant => 9
  | bt2020Constant => 10
  | smpte2085 => 11
  | derivedNonConstant => 12
  | derivedConstant => 13
  | iCtCp => 14

end MatrixCoefficients

/-- The three code points of an image by name. -/
structure NamedCodes where
  primaries : ColorPrimaries.Name
  transfer : TransferCharacteristics.Name
  matrix : MatrixCoefficients.Name
  deriving DecidableEq, Repr

/-- Whether samples use all code values or only the studio range. -/
inductive SampleRange where
  | limited
  | full
  deriving DecidableEq, Repr

namespace SampleRange

def isFull : SampleRange → Bool
  | limited => false
  | full => true

def ofFull (isFull : Bool) : SampleRange :=
  if isFull then full else limited

end SampleRange

/-- The compact colour description of an image. -/
structure Cicp where
  primaries : ColorPrimaries
  transfer : TransferCharacteristics
  matrix : MatrixCoefficients
  fullRange : Bool
  deriving DecidableEq, Repr

/-- BT.709 primaries and matrix with the sRGB curve, full range. -/
def Cicp.srgb : Cicp := ⟨⟨1⟩, ⟨13⟩, ⟨1⟩, true⟩

/-- How many chroma samples a coded frame has, or that it has none. -/
inductive ChromaFormat where
  | yuv420
  | yuv422
  | yuv444
  | monochrome
  deriving DecidableEq, Repr

namespace ChromaFormat

/-- Binary logarithms of the horizontal and vertical chroma reduction. -/
def shifts : ChromaFormat → Nat × Nat
  | yuv420 => (1, 1)
  | yuv422 => (1, 0)
  | yuv444 => (0, 0)
  | monochrome => (0, 0)

def isMonochrome : ChromaFormat → Bool
  | monochrome => true
  | _ => false

/-- A side that is halved so many times, rounded up. -/
def reduced (side shift : Nat) : Nat :=
  (side + (1 <<< shift) - 1) >>> shift

/-- The size of a chroma plane. -/
def chromaSize (format : ChromaFormat) (width height : Nat) : Nat × Nat :=
  (reduced width format.shifts.1, reduced height format.shifts.2)

end ChromaFormat

end AvifStill
