import AvifStill.Icc.Reader
import AvifStill.Icc.Writer
import AvifStill.Proofs.Reading

/-!
# Written tags

Every tag that a written profile can have is read without a fault, wherever its data lies, and no tag
changes what colour space the profile is for. The entries of the tag table name the data of one tag
after another.
-/

namespace AvifStill.Icc

open Color Numeric

@[simp]
theorem length_fixed (value : Float) : (fixed value).length = 4 :=
  Bytes.length_ofNat 4 _

namespace Tag

theorem length_typed {kind : String} (letters : (Bytes.ofText kind).length = 4)
    (content : Bytes) : (typed kind content).length = 8 + content.length := by
  simp only [typed, List.length_append, letters, List.length_cons, List.length_nil]

theorem isKind_typed {kind : String} (letters : (Bytes.ofText kind).length = 4)
    (content after : Bytes) : TagEntry.isKind (typed kind content ++ after) kind = true := by
  simp [TagEntry.isKind, typed, List.append_assoc, ← letters]

theorem length_color (name : String) (value : Xyz) : (color name value).data.length = 20 := by
  simp [color, length_typed (rfl : (Bytes.ofText "XYZ ").length = 4)]

theorem length_matrix (name : String) (value : Matrix3) :
    (matrix name value).data.length = 44 := by
  simp [matrix, length_typed (rfl : (Bytes.ofText "sf32").length = 4)]

theorem length_textData (text : String) : (textData text).length = 28 + 2 * text.length := by
  have letters : (Bytes.ofText "enUS").length = 4 := rfl
  simp only [textData, length_typed (rfl : (Bytes.ofText "mluc").length = 4), List.length_append,
    Bytes.length_ofNat, letters, List.length_flatMap, List.map_const', List.sum_replicate_nat,
    String.length_toList]
  omega

end Tag

/--
Curves that can be read back. Three and four parameters are left out: those kinds are refused when
their scale is written as zero.
-/
inductive IsStorable : ToneCurve → Prop where
  | table {entries : List UInt16} (few : entries.length ≤ 40000) : IsStorable (.table entries)
  | parametric {parameters : List Float32} (count : parameters.length ∈ [1, 5, 7]) :
      IsStorable (.parametric parameters)

namespace Tag

theorem length_curveData_table (entries : List UInt16) :
    (curveData (.table entries)).length = 12 + 2 * entries.length := by
  simp only [curveData, length_typed (rfl : (Bytes.ofText "curv").length = 4), List.length_append,
    Bytes.length_ofNat, List.length_flatMap, List.map_const', List.sum_replicate_nat]
  omega

theorem length_curveData_parametric (parameters : List Float32) :
    (curveData (.parametric parameters)).length = 12 + 4 * parameters.length := by
  simp only [curveData, length_typed (rfl : (Bytes.ofText "para").length = 4), List.length_append,
    Bytes.length_ofNat, length_fixed, List.length_flatMap, List.map_const', List.sum_replicate_nat,
    List.length_cons, List.length_nil]
  omega

end Tag

namespace TagEntry

theorem natAt_append {front : Bytes} {position width value : Nat}
    (place : front.length = position) (fits : value < Bytes.capacity width) (after : Bytes) :
    natAt (front ++ (Bytes.ofNat width value ++ after)) position width = value := by
  have size := Bytes.length_ofNat width value
  simp [natAt, ← place, size, Bytes.toNat_ofNat_of_lt fits]

/-- The entry names a stretch of the file that consists of some data. -/
def Holds (entry : TagEntry) (file data : Bytes) : Prop :=
  ∃ before after, file = before ++ (data ++ after) ∧ entry.offset = before.length ∧
    entry.size = data.length

section Holds

variable {entry : TagEntry} {file data : Bytes}

theorem Holds.size_eq (holds : entry.Holds file data) : entry.size = data.length := by
  rcases holds with ⟨before, after, place, offset, size⟩
  exact size

theorem Holds.ends (holds : entry.Holds file data) :
    entry.offset + entry.size ≤ file.length := by
  rcases holds with ⟨before, after, place, offset, size⟩
  simp only [place, offset, size, List.length_append]
  omega

theorem Holds.isInside (holds : entry.Holds file data) : entry.isInside file = true :=
  Bytes.hasAtLeast_iff.mpr holds.ends

theorem Holds.take_drop (holds : entry.Holds file data) :
    (file.drop entry.offset).take entry.size = data := by
  rcases holds with ⟨before, after, place, offset, size⟩
  simp [place, offset, size]

theorem Holds.exists_drop (holds : entry.Holds file data) :
    ∃ after, file.drop entry.offset = data ++ after := by
  rcases holds with ⟨before, after, place, offset, size⟩
  exact ⟨after, by simp [place, offset]⟩

theorem readColor_color {name : String} {value : Xyz}
    (holds : entry.Holds file (Tag.color name value).data) :
    ∃ color, entry.readColor file = .ok color := by
  have size : entry.size = 20 := by
    rw [holds.size_eq, Tag.length_color]
  have kind : isKind (Tag.color name value).data "XYZ " = true := by
    have typed := Tag.isKind_typed (rfl : (Bytes.ofText "XYZ ").length = 4)
      (fixed value.x ++ fixed value.y ++ fixed value.z) []
    rwa [List.append_nil] at typed
  have found : isKind ((file.drop entry.offset).take 20) "XYZ " = true := by
    rw [← size, holds.take_drop]
    exact kind
  simp [readColor, size, holds.isInside, found]

theorem readTable_curveData {entries : List UInt16} (few : entries.length ≤ 40000) :
    ∃ curve, readTable (Tag.curveData (.table entries)) = .ok curve := by
  have fits : entries.length < Bytes.capacity 4 := by
    rw [Bytes.capacity_four]
    omega
  have count : natAt (Tag.curveData (.table entries)) 8 4 = entries.length := by
    simpa only [Tag.curveData, Tag.typed] using
      natAt_append (rfl : (Bytes.ofText "curv" ++ [0, 0, 0, 0]).length = 8) fits _
  have enough : Bytes.hasAtLeast (12 + 2 * entries.length) (Tag.curveData (.table entries)) =
      true :=
    Bytes.hasAtLeast_iff.mpr (Nat.le_of_eq (Tag.length_curveData_table entries).symm)
  unfold readTable
  rw [count]
  by_cases isEmpty : entries.length = 0
  · exact ⟨.table [], by simp [isEmpty]⟩
  · simp [isEmpty, Nat.not_lt.mpr few, enough]

theorem readParametric_curveData {parameters : List Float32}
    (counts : parameters.length ∈ [1, 5, 7]) :
    ∃ curve, readParametric (Tag.curveData (.parametric parameters)) = .ok curve := by
  have kind : natAt (Tag.curveData (.parametric parameters)) 8 2 =
      Tag.parametricKind parameters.length := by
    have fits : Tag.parametricKind parameters.length < Bytes.capacity 2 := by
      unfold Tag.parametricKind
      split <;> decide
    have parts : Tag.curveData (.parametric parameters) =
        (Bytes.ofText "para" ++ [0, 0, 0, 0]) ++
          (Bytes.ofNat 2 (Tag.parametricKind parameters.length) ++
            ([0, 0] ++ parameters.flatMap fun parameter => fixed (widen parameter))) := by
      simp only [Tag.curveData, Tag.typed, List.append_assoc]
    rw [parts]
    exact natAt_append rfl fits _
  have enough : Bytes.hasAtLeast (12 + 4 * parameters.length)
      (Tag.curveData (.parametric parameters)) = true :=
    Bytes.hasAtLeast_iff.mpr (Nat.le_of_eq (Tag.length_curveData_parametric parameters).symm)
  unfold readParametric
  rw [kind]
  simp only [List.mem_cons, List.not_mem_nil, or_false] at counts
  rcases counts with count | count | count <;>
    simp [count, Tag.parametricKind, parameterCounts, count ▸ enough]

theorem readCurve_of_holds (holds : entry.Holds file data) (long : 12 ≤ data.length) :
    entry.readCurve file =
      if isKind data "curv" then some <$> readTable data
      else if isKind data "para" then some <$> readParametric data
      else .error (.profile .curveKind) := by
  have size := holds.size_eq
  have starts : file.hasAtLeast (entry.offset + 4) = true := by
    have ends := holds.ends
    rw [Bytes.hasAtLeast_iff]
    omega
  have enough : data.hasAtLeast 12 = true := Bytes.hasAtLeast_iff.mpr long
  have notShort : ¬(0 < entry.size ∧ entry.size < 12) := by omega
  have sized : entry.size ≠ 0 := by omega
  simp only [readCurve, starts, notShort, sized, holds.take_drop, holds.isInside, enough,
    not_true_eq_false, or_self, if_false]

theorem readCurve_curveData {curve : ToneCurve} (storable : IsStorable curve)
    (holds : entry.Holds file (Tag.curveData curve)) :
    ∃ found, entry.readCurve file = .ok (some found) := by
  cases storable with
  | @table entries few =>
      rcases readTable_curveData few with ⟨found, done⟩
      have long : 12 ≤ (Tag.curveData (.table entries)).length := by
        rw [Tag.length_curveData_table]
        omega
      have kind : isKind (Tag.curveData (.table entries)) "curv" = true := rfl
      refine ⟨found, ?_⟩
      rw [readCurve_of_holds holds long, if_pos kind, done]
      rfl
  | @parametric parameters counts =>
      rcases readParametric_curveData counts with ⟨found, done⟩
      have long : 12 ≤ (Tag.curveData (.parametric parameters)).length := by
        rw [Tag.length_curveData_parametric]
        omega
      have notTable : isKind (Tag.curveData (.parametric parameters)) "curv" ≠ true := by
        intro isTable
        cases isTable
      have kind : isKind (Tag.curveData (.parametric parameters)) "para" = true := rfl
      refine ⟨found, ?_⟩
      rw [readCurve_of_holds holds long, if_neg notTable, if_pos kind, done]
      rfl

theorem checkAdaptation_matrix {name : String} {value : Matrix3}
    (holds : entry.Holds file (Tag.matrix name value).data) :
    entry.checkAdaptation file = .ok () := by
  have size : entry.size = 44 := by
    rw [holds.size_eq, Tag.length_matrix]
  have enough : file.hasAtLeast (entry.offset + 8) = true := by
    have ends := holds.ends
    rw [Bytes.hasAtLeast_iff]
    omega
  rcases holds.exists_drop with ⟨after, found⟩
  have kind : isKind (file.drop entry.offset) "sf32" = true := by
    rw [found]
    exact Tag.isKind_typed rfl _ after
  simp [checkAdaptation, holds.isInside, enough, size, kind]

end Holds

/-- Tags that hold a colour, whether it is kept or only checked. -/
def colorNames : List Bytes :=
  ["wtpt", "lumi", "bkpt", "rXYZ", "gXYZ", "bXYZ"].map Bytes.ofText

def curveNames : List Bytes :=
  ["rTRC", "gTRC", "bTRC", "kTRC"].map Bytes.ofText

/-- Tags that are passed over. -/
def textNames : List Bytes :=
  ["desc", "cprt", "dmdd", "dmnd"].map Bytes.ofText

theorem of_mem_colorNames : ∀ name ∈ colorNames, name.length = 4 ∧ name ∉ curveNames ∧
    name ≠ Bytes.ofText "cicp" ∧ name ≠ Bytes.ofText "chad" := by
  decide +kernel

theorem of_mem_curveNames : ∀ name ∈ curveNames, name.length = 4 ∧ name ∉ colorNames ∧
    name ≠ Bytes.ofText "cicp" ∧ name ≠ Bytes.ofText "chad" := by
  decide +kernel

theorem of_mem_textNames : ∀ name ∈ textNames, name.length = 4 ∧ name ∉ colorNames ∧
    name ∉ curveNames ∧ name ≠ Bytes.ofText "cicp" ∧ name ≠ Bytes.ofText "chad" := by
  decide +kernel

theorem of_chad : (Bytes.ofText "chad").length = 4 ∧ Bytes.ofText "chad" ∉ colorNames ∧
    Bytes.ofText "chad" ∉ curveNames ∧ Bytes.ofText "chad" ≠ Bytes.ofText "cicp" := by
  decide +kernel

/-- The data is well formed for what a tag of this name is read as. -/
structure IsReadable (entry : TagEntry) (file : Bytes) : Prop where
  color : entry.name ∈ colorNames → ∃ color, entry.readColor file = .ok color
  curve : entry.name ∈ curveNames → ∃ curve, entry.readCurve file = .ok curve
  codes : entry.name = Bytes.ofText "cicp" → ∃ codes, entry.readCodes file = .ok codes
  adaptation : entry.name = Bytes.ofText "chad" → entry.checkAdaptation file = .ok ()

end TagEntry

open TagEntry

/-- The tags that profiles are written with. -/
inductive Tag.IsWritten : Tag → Prop where
  | color {name : String} (value : Xyz) (known : Bytes.ofText name ∈ colorNames) :
      IsWritten (Tag.color name value)
  | curve {name : String} {value : ToneCurve} (storable : IsStorable value)
      (known : Bytes.ofText name ∈ curveNames) : IsWritten ⟨name, Tag.curveData value⟩
  | matrix (value : Matrix3) : IsWritten (Tag.matrix "chad" value)
  | text {name text : String} (short : text.length ≤ 40000)
      (known : Bytes.ofText name ∈ textNames) : IsWritten ⟨name, Tag.textData text⟩

namespace Tag.IsWritten

variable {tag : Tag} {entry : TagEntry} {file : Bytes}

theorem length_name (written : tag.IsWritten) : (Bytes.ofText tag.name).length = 4 := by
  cases written with
  | color value known => exact (of_mem_colorNames _ known).1
  | curve storable known => exact (of_mem_curveNames _ known).1
  | matrix value => exact of_chad.1
  | text short known => exact (of_mem_textNames _ known).1

theorem length_data (written : tag.IsWritten) : tag.data.length ≤ 80028 := by
  cases written with
  | color value known =>
      rw [length_color]
      decide
  | curve storable known =>
      cases storable with
      | table few =>
          simp only [length_curveData_table]
          omega
      | parametric counts =>
          simp only [List.mem_cons, List.not_mem_nil, or_false] at counts
          simp only [length_curveData_parametric]
          omega
  | matrix value =>
      rw [length_matrix]
      decide
  | text short known =>
      simp only [length_textData]
      omega

theorem isReadable (written : tag.IsWritten) (named : entry.name = Bytes.ofText tag.name)
    (holds : entry.Holds file tag.data) : entry.IsReadable file := by
  cases written with
  | color value known =>
      rcases of_mem_colorNames _ known with ⟨-, notCurve, notCodes, notMatrix⟩
      refine ⟨fun _ => readColor_color holds, ?_, ?_, ?_⟩ <;> rw [named] <;> intro isOther
      · exact absurd isOther notCurve
      · exact absurd isOther notCodes
      · exact absurd isOther notMatrix
  | curve storable known =>
      rcases of_mem_curveNames _ known with ⟨-, notColor, notCodes, notMatrix⟩
      refine ⟨?_, fun _ => ?_, ?_, ?_⟩
      · rw [named]
        intro isColor
        exact absurd isColor notColor
      · rcases readCurve_curveData storable holds with ⟨found, done⟩
        exact ⟨some found, done⟩
      · rw [named]
        intro isCodes
        exact absurd isCodes notCodes
      · rw [named]
        intro isMatrix
        exact absurd isMatrix notMatrix
  | matrix value =>
      rcases of_chad with ⟨-, notColor, notCurve, notCodes⟩
      refine ⟨?_, ?_, ?_, fun _ => checkAdaptation_matrix holds⟩ <;> rw [named] <;> intro isOther
      · exact absurd isOther notColor
      · exact absurd isOther notCurve
      · exact absurd isOther notCodes
  | text short known =>
      rcases of_mem_textNames _ known with ⟨-, notColor, notCurve, notCodes, notMatrix⟩
      refine ⟨?_, ?_, ?_, ?_⟩ <;> rw [named] <;> intro isOther
      · exact absurd isOther notColor
      · exact absurd isOther notCurve
      · exact absurd isOther notCodes
      · exact absurd isOther notMatrix

end Tag.IsWritten

namespace Profile

/-- A readable tag is taken in, and the profile stays one for the same colour space. -/
theorem exists_readTag {entry : TagEntry} {file : Bytes} (readable : entry.IsReadable file)
    (isDisplay : Bool) (profile : Profile) :
    ∃ next, readTag file isDisplay profile entry = .ok next ∧ next.space = profile.space := by
  have color {name : String} (named : (entry.name == Bytes.ofText name) = true)
      (known : Bytes.ofText name ∈ colorNames) : ∃ color, entry.readColor file = .ok color :=
    readable.color (by rwa [eq_of_beq named])
  have curve {name : String} (named : (entry.name == Bytes.ofText name) = true)
      (known : Bytes.ofText name ∈ curveNames) : ∃ curve, entry.readCurve file = .ok curve :=
    readable.curve (by rwa [eq_of_beq named])
  unfold readTag
  extract_lets isNamed isRgb curves
  apply exists_ok_ite
  · intro named
    exact exists_ok_bind (color named (by decide)) fun _ => rfl
  intro _
  apply exists_ok_ite
  · intro named
    have done : ∃ value, entry.readColor file = .ok value := by
      rcases Bool.or_eq_true_iff.mp named with isLuminance | isBlack
      · exact color isLuminance (by decide)
      · exact color isBlack (by decide)
    exact exists_ok_bind done fun _ => rfl
  intro _
  apply exists_ok_ite
  · intro named
    exact exists_ok_bind (color (Bool.and_eq_true_iff.mp named).1 (by decide)) fun _ => rfl
  intro _
  apply exists_ok_ite
  · intro named
    exact exists_ok_bind (color (Bool.and_eq_true_iff.mp named).1 (by decide)) fun _ => rfl
  intro _
  apply exists_ok_ite
  · intro named
    exact exists_ok_bind (color (Bool.and_eq_true_iff.mp named).1 (by decide)) fun _ => rfl
  intro _
  apply exists_ok_ite
  · intro named
    exact exists_ok_bind (curve (Bool.and_eq_true_iff.mp named).1 (by decide)) fun _ => rfl
  intro _
  apply exists_ok_ite
  · intro named
    exact exists_ok_bind (curve (Bool.and_eq_true_iff.mp named).1 (by decide)) fun _ => rfl
  intro _
  apply exists_ok_ite
  · intro named
    exact exists_ok_bind (curve (Bool.and_eq_true_iff.mp named).1 (by decide)) fun _ => rfl
  intro _
  apply exists_ok_ite
  · intro named
    exact exists_ok_bind (curve (Bool.and_eq_true_iff.mp named).1 (by decide)) fun _ => rfl
  intro _
  apply exists_ok_ite
  · intro named
    have codes := readable.codes (eq_of_beq (Bool.and_eq_true_iff.mp named).1)
    exact exists_ok_bind codes fun _ => rfl
  intro _
  apply exists_ok_ite
  · intro named
    exact ⟨_, bind_of_done (readable.adaptation (eq_of_beq named)), rfl⟩
  intro _
  exact ⟨profile, rfl, rfl⟩

end Profile

end AvifStill.Icc
