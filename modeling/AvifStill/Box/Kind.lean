import AvifStill.Bytes

/-!
# Four-character codes

The codes that name boxes, item types, reference types and brands.
-/

namespace AvifStill

structure FourCC where
  first : UInt8
  second : UInt8
  third : UInt8
  fourth : UInt8
  deriving DecidableEq, Repr

namespace FourCC

/-- The code spelled by four ASCII characters. -/
def ofChars (first second third fourth : Char) : FourCC :=
  ⟨UInt8.ofNat first.toNat, UInt8.ofNat second.toNat, UInt8.ofNat third.toNat,
    UInt8.ofNat fourth.toNat⟩

def toBytes (code : FourCC) : Bytes :=
  [code.first, code.second, code.third, code.fourth]

@[simp]
theorem length_toBytes (code : FourCC) : code.toBytes.length = 4 := rfl

def ftyp : FourCC := ofChars 'f' 't' 'y' 'p'

def metadata : FourCC := ofChars 'm' 'e' 't' 'a'

def mdat : FourCC := ofChars 'm' 'd' 'a' 't'

def moov : FourCC := ofChars 'm' 'o' 'o' 'v'

def mvhd : FourCC := ofChars 'm' 'v' 'h' 'd'

def trak : FourCC := ofChars 't' 'r' 'a' 'k'

def uuid : FourCC := ofChars 'u' 'u' 'i' 'd'

def hdlr : FourCC := ofChars 'h' 'd' 'l' 'r'

def pitm : FourCC := ofChars 'p' 'i' 't' 'm'

def iloc : FourCC := ofChars 'i' 'l' 'o' 'c'

def iinf : FourCC := ofChars 'i' 'i' 'n' 'f'

def infe : FourCC := ofChars 'i' 'n' 'f' 'e'

def iref : FourCC := ofChars 'i' 'r' 'e' 'f'

def iprp : FourCC := ofChars 'i' 'p' 'r' 'p'

def ipco : FourCC := ofChars 'i' 'p' 'c' 'o'

def ipma : FourCC := ofChars 'i' 'p' 'm' 'a'

def idat : FourCC := ofChars 'i' 'd' 'a' 't'

def grpl : FourCC := ofChars 'g' 'r' 'p' 'l'

def ispe : FourCC := ofChars 'i' 's' 'p' 'e'

def av1C : FourCC := ofChars 'a' 'v' '1' 'C'

def pixi : FourCC := ofChars 'p' 'i' 'x' 'i'

def colr : FourCC := ofChars 'c' 'o' 'l' 'r'

def nclx : FourCC := ofChars 'n' 'c' 'l' 'x'

def prof : FourCC := ofChars 'p' 'r' 'o' 'f'

def rICC : FourCC := ofChars 'r' 'I' 'C' 'C'

def auxC : FourCC := ofChars 'a' 'u' 'x' 'C'

def clap : FourCC := ofChars 'c' 'l' 'a' 'p'

def irot : FourCC := ofChars 'i' 'r' 'o' 't'

def imir : FourCC := ofChars 'i' 'm' 'i' 'r'

def grid : FourCC := ofChars 'g' 'r' 'i' 'd'

def pasp : FourCC := ofChars 'p' 'a' 's' 'p'

def clli : FourCC := ofChars 'c' 'l' 'l' 'i'

def mdcv : FourCC := ofChars 'm' 'd' 'c' 'v'

def cclv : FourCC := ofChars 'c' 'c' 'l' 'v'

def amve : FourCC := ofChars 'a' 'm' 'v' 'e'

def a1op : FourCC := ofChars 'a' '1' 'o' 'p'

def lsel : FourCC := ofChars 'l' 's' 'e' 'l'

def a1lx : FourCC := ofChars 'a' '1' 'l' 'x'

def av01 : FourCC := ofChars 'a' 'v' '0' '1'

def exif : FourCC := ofChars 'E' 'x' 'i' 'f'

def mime : FourCC := ofChars 'm' 'i' 'm' 'e'

def tmap : FourCC := ofChars 't' 'm' 'a' 'p'

def pict : FourCC := ofChars 'p' 'i' 'c' 't'

def auxl : FourCC := ofChars 'a' 'u' 'x' 'l'

def cdsc : FourCC := ofChars 'c' 'd' 's' 'c'

def dimg : FourCC := ofChars 'd' 'i' 'm' 'g'

def prem : FourCC := ofChars 'p' 'r' 'e' 'm'

def avif : FourCC := ofChars 'a' 'v' 'i' 'f'

def avis : FourCC := ofChars 'a' 'v' 'i' 's'

def mif1 : FourCC := ofChars 'm' 'i' 'f' '1'

def miaf : FourCC := ofChars 'm' 'i' 'a' 'f'

end FourCC

end AvifStill
