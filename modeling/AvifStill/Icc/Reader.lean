import AvifStill.Icc.Profile

/-!
# Reading profiles

Reads the tags that matter to the library and passes over all others. Some faults make a profile
unreadable, others only leave a tag out; which is which differs from tag to tag.
-/

namespace AvifStill.Icc

open Color Numeric

abbrev invalidProfile : Fault := .profile .invalid

/-- An entry of the tag table: name and range of the data in the file. -/
structure TagEntry where
  name : Bytes
  offset : Nat
  size : Nat

namespace TagEntry

/-- Whether the data lies in the file. -/
def isInside (entry : TagEntry) (file : Bytes) : Bool :=
  file.hasAtLeast (entry.offset + entry.size)

/-- A number in the data, most significant byte first. -/
def natAt (data : Bytes) (position width : Nat) : Nat :=
  Bytes.toNat ((data.drop position).take width)

/-- A number of 32 bits read with its sign. -/
def signedAt (data : Bytes) (position : Nat) : Int :=
  (natAt data position 4 : Int).bmod 4294967296

/-- A number with sixteen fraction bits. -/
def fixedAt (data : Bytes) (position : Nat) : Float :=
  Float.ofInt (signedAt data position) / 65536.0

/-- The four letters of a data type. -/
def isKind (data : Bytes) (kind : String) : Bool :=
  data.take 4 == Bytes.ofText kind

/-- A colour; data that is too short to have a type, or has another, counts as black. -/
def readColor (entry : TagEntry) (file : Bytes) : Except Fault Xyz :=
  if entry.size < 12 then .ok .zero
  else if ¬entry.isInside file then .error invalidProfile
  else
    let data := (file.drop entry.offset).take entry.size
    if ¬isKind data "XYZ " then .ok .zero
    else if entry.size < 20 then .error invalidProfile
    else .ok ⟨fixedAt data 8, fixedAt data 12, fixedAt data 16⟩

/-- A whole number as the nearest single-precision number. -/
def singleOfInt (value : Int) : Float32 :=
  if value < 0 then -singleOfNat value.natAbs else singleOfNat value.natAbs

/-- The entries of a sampled curve. -/
def tableEntries : Bytes → List UInt16
  | high :: low :: rest => UInt16.ofNat (high.toNat * 256 + low.toNat) :: tableEntries rest
  | _ => []

def readTable (data : Bytes) : Except Fault ToneCurve :=
  let count := natAt data 8 4
  if count = 0 then .ok (.table [])
  else if 40000 < count then .error (.profile .curveTooLarge)
  else if ¬data.hasAtLeast (12 + 2 * count) then .error (.profile .curveCutShort)
  else .ok (.table (tableEntries ((data.drop 12).take (2 * count))))

/-- How many parameters the kinds of parametric curves have. -/
def parameterCounts : List Nat := [1, 3, 4, 5, 7]

def readParametric (data : Bytes) : Except Fault ToneCurve :=
  let kind := natAt data 8 2
  match parameterCounts[kind]? with
  | none => .error (.profile .parametricKind)
  | some count =>
      if ¬data.hasAtLeast (12 + 4 * count) then .error (.profile .parametricCutShort)
      else
        let parameters := (List.range count).map fun index =>
          singleOfInt (signedAt data (12 + 4 * index)) / 65536.0
        if (kind = 1 ∨ kind = 2) ∧ signedAt data 16 = 0 then .error (.profile .parametricDivision)
        else .ok (.parametric parameters)

/-- A tone curve; a tag that is too short for one has none, and no size means up to the end. -/
def readCurve (entry : TagEntry) (file : Bytes) : Except Fault (Option ToneCurve) :=
  if ¬file.hasAtLeast (entry.offset + 4) ∨ (0 < entry.size ∧ entry.size < 12) then .ok none
  else
    let rest : Bytes := file.drop entry.offset
    let data : Bytes := if entry.size = 0 then rest else rest.take entry.size
    if ¬entry.isInside file ∨ ¬data.hasAtLeast 12 then .error (.profile .dataExhausted)
    else if isKind data "curv" then some <$> readTable data
    else if isKind data "para" then some <$> readParametric data
    else .error (.profile .curveKind)

/-- Codes of primaries that are reserved become zero. -/
def assignedPrimaries (code : Nat) : ColorPrimaries :=
  if [1, 2, 4, 5, 6, 7, 8, 9, 10, 11, 12, 22].contains code then ⟨UInt8.ofNat code⟩ else ⟨0⟩

/-- The codes of a profile's primaries and curve; the code of a matrix has to be a known one. -/
def readCodes (entry : TagEntry) (file : Bytes) : Except Fault (Option Codes) :=
  if entry.size < 12 then .ok none
  else if ¬entry.isInside file then .error invalidProfile
  else
    let data := file.drop entry.offset
    if ¬isKind data "cicp" then .ok none
    else if 14 < natAt data 10 1 then .error (.profile .codePoint)
    else .ok (some ⟨assignedPrimaries (natAt data 8 1), ⟨UInt8.ofNat (natAt data 9 1)⟩⟩)

/-- The adaptation matrix is not used, but has to be well formed if it has the size of one. -/
def checkAdaptation (entry : TagEntry) (file : Bytes) : Except Fault Unit :=
  if ¬entry.isInside file ∨ ¬file.hasAtLeast (entry.offset + 8) then .error invalidProfile
  else if entry.size < 8 ∨ (entry.size - 8) / 4 ≠ 9 then .ok ()
  else if ¬isKind (file.drop entry.offset) "sf32" ∨ entry.size ≠ 44 then .error invalidProfile
  else .ok ()

/-- The entries of the tag table. -/
def entries : Nat → Bytes → List TagEntry
  | 0, _ => []
  | count + 1, table =>
      ⟨table.take 4, natAt table 4 4, natAt table 8 4⟩ :: entries count (table.drop 12)

end TagEntry

namespace Profile

/-- The device classes of profiles. -/
def classes : List String :=
  ["scnr", "mntr", "prtr", "link", "spac", "abst", "nmcl"]

/-- Whether profiles of a class and space may describe themselves by codes. -/
def mayHaveCodes (isDisplay : Bool) (space : Space) : Bool :=
  isDisplay && (space == .rgb || space == .yCbr || space == .xyz)

/-- Takes in one tag; of repeated tags the last one counts. -/
def readTag (file : Bytes) (isDisplay : Bool) (profile : Profile) (entry : TagEntry) :
    Except Fault Profile := do
  let isNamed (name : String) : Bool := entry.name == Bytes.ofText name
  let isRgb := profile.space == .rgb
  let curves := profile.curves
  if isNamed "wtpt" then
    return { profile with white := some (← entry.readColor file) }
  else if isNamed "lumi" || isNamed "bkpt" then
    let _ ← entry.readColor file
    return profile
  else if isNamed "rXYZ" && isRgb then
    return { profile with red := ← entry.readColor file }
  else if isNamed "gXYZ" && isRgb then
    return { profile with green := ← entry.readColor file }
  else if isNamed "bXYZ" && isRgb then
    return { profile with blue := ← entry.readColor file }
  else if isNamed "rTRC" && isRgb then
    return { profile with curves := { curves with red := ← entry.readCurve file } }
  else if isNamed "gTRC" && isRgb then
    return { profile with curves := { curves with green := ← entry.readCurve file } }
  else if isNamed "bTRC" && isRgb then
    return { profile with curves := { curves with blue := ← entry.readCurve file } }
  else if isNamed "kTRC" && profile.isGray then
    return { profile with curves := { curves with gray := ← entry.readCurve file } }
  else if isNamed "cicp" && mayHaveCodes isDisplay profile.space then
    return { profile with codes := ← entry.readCodes file }
  else if isNamed "chad" then
    entry.checkAdaptation file
    return { profile with isAdapted := true }
  else return profile

/-- Reads a profile. The size that its header gives is not looked at. -/
def ofBytes? (file : Bytes) : Except Fault Profile := do
  if ¬file.hasAtLeast 132 then throw invalidProfile
  let version := TagEntry.natAt file 8 1
  if version < 2 ∨ 4 < version then throw invalidProfile
  let deviceClass := (file.drop 12).take 4
  if ¬classes.any fun name => Bytes.ofText name == deviceClass then throw invalidProfile
  let some space := Space.ofLetters? ((file.drop 16).take 4) | throw invalidProfile
  let some connection := Space.ofLetters? ((file.drop 20).take 4) | throw invalidProfile
  if ¬TagEntry.isKind (file.drop 36) "acsp" then throw invalidProfile
  let some intent := RenderingIntent.ofCode? (TagEntry.natAt file 64 4) |
    throw (.profile .unknownIntent)
  let count := TagEntry.natAt file 128 4
  if ¬file.hasAtLeast (132 + 12 * count) then throw invalidProfile
  let isDisplay := deviceClass == Bytes.ofText "scnr" || deviceClass == Bytes.ofText "mntr"
  (TagEntry.entries count (file.drop 132)).foldlM (readTag file isDisplay)
    { empty with intent, space, connection }

end Profile

end AvifStill.Icc
