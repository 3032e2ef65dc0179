import AvifStill.Icc.Profile

/-!
# Writing profiles

A profile is a header, a table of tags and the data of the tags, packed one after another. The time
of creation is left zero, so equal profiles have equal bytes.
-/

namespace AvifStill.Icc

open Color Numeric

/-- A number with sixteen fraction bits, rounded and held within 32 bits. -/
def fixed (value : Float) : Bytes :=
  let scaled := floorDouble (-2147483648) 2147483647 (value * 65536.0 + 0.5)
  Bytes.ofNat 4 (scaled % 4294967296).toNat

/-- A tag: its name and data. -/
structure Tag where
  name : String
  data : Bytes

namespace Tag

/-- Data of a type, which starts with its name and four zero bytes. -/
def typed (kind : String) (content : Bytes) : Bytes :=
  Bytes.ofText kind ++ [0, 0, 0, 0] ++ content

def color (name : String) (value : Xyz) : Tag :=
  ⟨name, typed "XYZ " (fixed value.x ++ fixed value.y ++ fixed value.z)⟩

def colorant (name : String) (value : Xyz) : List Tag :=
  if value.isZero then [] else [color name value]

/-- The type number of a parametric curve, which its number of parameters fixes. -/
def parametricKind (count : Nat) : Nat :=
  match count with
  | 1 => 0
  | 3 => 1
  | 4 => 2
  | 5 => 3
  | _ => 4

def curveData : ToneCurve → Bytes
  | .table entries =>
      typed "curv" (Bytes.ofNat 4 entries.length ++
        entries.flatMap fun entry => Bytes.ofNat 2 entry.toNat)
  | .parametric parameters =>
      typed "para" (Bytes.ofNat 2 (parametricKind parameters.length) ++ [0, 0] ++
        parameters.flatMap fun parameter => fixed (widen parameter))

def curve (name : String) (value : Option ToneCurve) : List Tag :=
  (value.map fun curve => (⟨name, curveData curve⟩ : Tag)).toList

/-- One text in one language, two bytes per character. -/
def textData (text : String) : Bytes :=
  typed "mluc" (Bytes.ofNat 4 1 ++ Bytes.ofNat 4 12 ++ Bytes.ofText "enUS" ++
    Bytes.ofNat 4 (2 * text.length) ++ Bytes.ofNat 4 28 ++
    text.toList.flatMap fun char => Bytes.ofNat 2 char.toNat)

def text (name : String) (value : Option String) : List Tag :=
  (value.map fun text => (⟨name, textData text⟩ : Tag)).toList

def matrix (name : String) (value : Matrix3) : Tag :=
  ⟨name, typed "sf32" ([value.first, value.second, value.third].flatMap fun row =>
    fixed row.x ++ fixed row.y ++ fixed row.z)⟩

end Tag

namespace Profile

/-- The tags of a profile, in order. -/
def tags (profile : Profile) : List Tag :=
  Tag.colorant "rXYZ" profile.red ++ Tag.colorant "gXYZ" profile.green ++
  Tag.colorant "bXYZ" profile.blue ++
  (if profile.isAdapted then [Tag.matrix "chad" .bradford] else []) ++
  Tag.curve "rTRC" profile.curves.red ++ Tag.curve "gTRC" profile.curves.green ++
  Tag.curve "bTRC" profile.curves.blue ++ Tag.curve "kTRC" profile.curves.gray ++
  (profile.white.map (Tag.color "wtpt")).toList ++
  (profile.luminance.map fun nits => Tag.color "lumi" ⟨0.0, Float.ofNat nits, 0.0⟩).toList ++
  Tag.text "desc" profile.texts.description ++ Tag.text "cprt" profile.texts.copyright ++
  Tag.text "dmdd" profile.texts.model ++ Tag.text "dmnd" profile.texts.manufacturer

/-- The white point as the header gives it, which differs in the last bits for gray profiles. -/
def illuminant (profile : Profile) : Bytes :=
  if profile.isGray then
    Bytes.ofNat 4 0xf6c3 ++ Bytes.ofNat 4 0x10000 ++ Bytes.ofNat 4 0xd323
  else Bytes.ofNat 4 0xf6d6 ++ Bytes.ofNat 4 0x10000 ++ Bytes.ofNat 4 0xd32d

/-- The header of a profile of some size: version 4.4, for displays. -/
def header (profile : Profile) (size : Nat) : Bytes :=
  Bytes.ofNat 4 size ++ Bytes.ofNat 4 0 ++ Bytes.ofNat 4 0x04400000 ++ Bytes.ofText "mntr" ++
    Bytes.ofText (if profile.isGray then "GRAY" else "RGB ") ++ Bytes.ofText "XYZ " ++
    List.replicate 12 0 ++ Bytes.ofText "acsp" ++ List.replicate 28 0 ++ profile.illuminant ++
    List.replicate 48 0

/-- The entries of the tag table, for data from a position on. -/
def tagEntries : List Tag → Nat → Bytes
  | [], _ => []
  | tag :: others, position =>
      Bytes.ofText tag.name ++ Bytes.ofNat 4 position ++ Bytes.ofNat 4 tag.data.length ++
        tagEntries others (position + tag.data.length)

/-- The bytes of a profile. -/
def toBytes (profile : Profile) : Bytes :=
  let tags := profile.tags
  let data := tags.flatMap (·.data)
  let start := 132 + 12 * tags.length
  profile.header (start + data.length) ++ Bytes.ofNat 4 tags.length ++ tagEntries tags start ++ data

end Profile

end AvifStill.Icc
