import AvifStill.Proofs.Icc.Tags

/-!
# Written profiles are readable

Whatever profile is written, the reader finds its header, follows its tag table and takes in every
tag; what it returns is gray exactly when the profile is. The profiles that the library builds itself
are among them.
-/

namespace AvifStill.Icc.Profile

open Color Numeric

/-! ## The tag table -/

/-- The entries of written tags whose data starts at a position. -/
def placed : List Tag → Nat → List TagEntry
  | [], _ => []
  | tag :: others, position =>
      ⟨Bytes.ofText tag.name, position, tag.data.length⟩ ::
        placed others (position + tag.data.length)

theorem length_tagEntries {tags : List Tag} (written : ∀ tag ∈ tags, tag.IsWritten)
    (position : Nat) : (tagEntries tags position).length = 12 * tags.length := by
  induction tags generalizing position with
  | nil => rfl
  | cons tag tags ih =>
      have letters := (written tag (List.mem_cons_self ..)).length_name
      have others := ih (fun other isMember => written other (List.mem_cons_of_mem tag isMember))
        (position + tag.data.length)
      simp only [tagEntries, List.length_append, letters, Bytes.length_ofNat, others,
        List.length_cons]
      omega

theorem entries_tagEntries {tags : List Tag} {position : Nat}
    (written : ∀ tag ∈ tags, tag.IsWritten)
    (fits : position + (tags.flatMap (·.data)).length < Bytes.capacity 4) (after : Bytes) :
    TagEntry.entries tags.length (tagEntries tags position ++ after) = placed tags position := by
  induction tags generalizing position with
  | nil => rfl
  | cons tag tags ih =>
      have letters := (written tag (List.mem_cons_self ..)).length_name
      simp only [List.flatMap_cons, List.length_append] at fits
      have others : TagEntry.entries tags.length
          (tagEntries tags (position + tag.data.length) ++ after) =
            placed tags (position + tag.data.length) :=
        ih (fun other isMember => written other (List.mem_cons_of_mem tag isMember)) (by omega)
      have positionFits : position < Bytes.capacity 4 := by omega
      have sizeFits : tag.data.length < Bytes.capacity 4 := by omega
      have beforeSize : (Bytes.ofText tag.name ++ Bytes.ofNat 4 position).length = 8 := by
        rw [List.length_append, letters, Bytes.length_ofNat]
      have row : tagEntries (tag :: tags) position ++ after =
          Bytes.ofText tag.name ++ (Bytes.ofNat 4 position ++ (Bytes.ofNat 4 tag.data.length ++
            (tagEntries tags (position + tag.data.length) ++ after))) := by
        simp only [tagEntries, List.append_assoc]
      have offset := TagEntry.natAt_append letters positionFits (Bytes.ofNat 4 tag.data.length ++
        (tagEntries tags (position + tag.data.length) ++ after))
      have size := TagEntry.natAt_append beforeSize sizeFits
        (tagEntries tags (position + tag.data.length) ++ after)
      rw [List.append_assoc] at size
      have next : List.drop 12 (tagEntries (tag :: tags) position ++ after) =
          tagEntries tags (position + tag.data.length) ++ after := by
        have rowSize : (Bytes.ofText tag.name ++ Bytes.ofNat 4 position ++
            Bytes.ofNat 4 tag.data.length).length = 12 := by
          rw [List.length_append, beforeSize, Bytes.length_ofNat]
        rw [row, ← List.append_assoc, ← List.append_assoc, List.drop_left' rowSize]
      rw [List.length_cons, TagEntry.entries, next, others, row, offset, size, placed,
        List.take_left' letters]

theorem exists_of_mem_placed {tags : List Tag} {position : Nat} {entry : TagEntry}
    (isMember : entry ∈ placed tags position) :
    ∃ tag ∈ tags, ∃ before after, tags.flatMap (·.data) = before ++ (tag.data ++ after) ∧
      entry = ⟨Bytes.ofText tag.name, position + before.length, tag.data.length⟩ := by
  induction tags generalizing position with
  | nil => cases isMember
  | cons tag tags ih =>
      rcases List.mem_cons.mp isMember with isFirst | isLater
      · exact ⟨tag, List.mem_cons_self .., [], tags.flatMap (·.data), by simp, by simpa using isFirst⟩
      · rcases ih isLater with ⟨other, isOther, before, after, data, isEntry⟩
        refine ⟨other, List.mem_cons_of_mem tag isOther, tag.data ++ before, after, ?_, ?_⟩
        · rw [List.flatMap_cons, data, List.append_assoc]
        · rw [isEntry, List.length_append, Nat.add_assoc]

/-! ## The header -/

/-- The header without the size, which is not looked at. -/
def headerTail (isGray : Bool) : Bytes :=
  (({ empty with space := if isGray then .gray else .rgb } : Profile).header 0).drop 4

theorem header_eq (profile : Profile) (size : Nat) :
    profile.header size = Bytes.ofNat 4 size ++ headerTail profile.isGray := by
  cases isGray : profile.isGray with
  | false =>
      simp only [header, illuminant, isGray, List.append_assoc]
      rfl
  | true =>
      simp only [header, illuminant, isGray, List.append_assoc]
      rfl

theorem length_headerTail : ∀ isGray, (headerTail isGray).length = 124 := by
  decide +kernel

theorem fields_headerTail : ∀ isGray,
    Bytes.toNat (((headerTail isGray).drop 4).take 1) = 4 ∧
    ((headerTail isGray).drop 8).take 4 = Bytes.ofText "mntr" ∧
    Space.ofLetters? (((headerTail isGray).drop 12).take 4) =
      some (if isGray then .gray else .rgb) ∧
    Space.ofLetters? (((headerTail isGray).drop 16).take 4) = some .xyz ∧
    ((headerTail isGray).drop 32).take 4 = Bytes.ofText "acsp" ∧
    Bytes.toNat (((headerTail isGray).drop 60).take 4) = 0 := by
  decide +kernel

theorem take_drop_header (profile : Profile) (size : Nat) (after : Bytes) {position width : Nat}
    (ends : position + width ≤ 124) :
    ((profile.header size ++ after).drop (4 + position)).take width =
      ((headerTail profile.isGray).drop position).take width := by
  have length := length_headerTail profile.isGray
  have size := Bytes.length_ofNat 4 size
  rw [header_eq, List.append_assoc, ← List.drop_drop, List.drop_left' size, List.drop_append,
    List.take_append_of_le_length]
  rw [List.length_drop]
  omega

/-! ## Whole profiles -/

/-- Profiles whose curves and texts can be read back. -/
structure IsStorable (profile : Profile) : Prop where
  curves : ∀ curve, some curve ∈ [profile.curves.red, profile.curves.green, profile.curves.blue,
    profile.curves.gray] → Icc.IsStorable curve
  texts : ∀ text, some text ∈ [profile.texts.description, profile.texts.copyright,
    profile.texts.model, profile.texts.manufacturer] → text.length ≤ 40000

section Tags

open TagEntry

variable {profile : Profile}

theorem isWritten_colorant {name : String} {value : Xyz} (known : Bytes.ofText name ∈ colorNames) :
    ∀ tag ∈ Tag.colorant name value, tag.IsWritten := by
  intro tag isMember
  unfold Tag.colorant at isMember
  split at isMember
  · cases isMember
  · rw [List.mem_singleton.mp isMember]
    exact .color value known

theorem isWritten_curve {name : String} {value : Option ToneCurve}
    (storable : ∀ curve, value = some curve → Icc.IsStorable curve)
    (known : Bytes.ofText name ∈ curveNames) : ∀ tag ∈ Tag.curve name value, tag.IsWritten := by
  intro tag isMember
  cases value with
  | none => cases isMember
  | some curve =>
      rw [List.mem_singleton.mp isMember]
      exact .curve (storable curve rfl) known

theorem isWritten_text {name : String} {value : Option String}
    (short : ∀ text, value = some text → text.length ≤ 40000)
    (known : Bytes.ofText name ∈ textNames) : ∀ tag ∈ Tag.text name value, tag.IsWritten := by
  intro tag isMember
  cases value with
  | none => cases isMember
  | some text =>
      rw [List.mem_singleton.mp isMember]
      exact .text (short text rfl) known

theorem isWritten_of_mem_tags (storable : profile.IsStorable) :
    ∀ tag ∈ profile.tags, tag.IsWritten := by
  intro tag isMember
  rcases storable with ⟨curves, texts⟩
  simp only [List.mem_cons, List.not_mem_nil, or_false] at curves texts
  simp only [tags, List.mem_append, or_assoc] at isMember
  rcases isMember with red | green | blue | matrix | redCurve | greenCurve | blueCurve | grayCurve |
    white | luminance | description | copyright | model | manufacturer
  · exact isWritten_colorant (by decide) tag red
  · exact isWritten_colorant (by decide) tag green
  · exact isWritten_colorant (by decide) tag blue
  · split at matrix
    · rw [List.mem_singleton.mp matrix]
      exact .matrix _
    · cases matrix
  · exact isWritten_curve (fun curve isIt => curves curve (by simp [isIt])) (by decide) tag redCurve
  · exact isWritten_curve (fun curve isIt => curves curve (by simp [isIt])) (by decide) tag greenCurve
  · exact isWritten_curve (fun curve isIt => curves curve (by simp [isIt])) (by decide) tag blueCurve
  · exact isWritten_curve (fun curve isIt => curves curve (by simp [isIt])) (by decide) tag grayCurve
  · rcases Option.map_eq_some_iff.mp (Option.mem_toList.mp white) with ⟨value, -, isColor⟩
    rw [← isColor]
    exact .color value (by decide)
  · rcases Option.map_eq_some_iff.mp (Option.mem_toList.mp luminance) with ⟨nits, -, isColor⟩
    rw [← isColor]
    exact .color _ (by decide)
  · exact isWritten_text (fun text isIt => texts text (by simp [isIt])) (by decide) tag description
  · exact isWritten_text (fun text isIt => texts text (by simp [isIt])) (by decide) tag copyright
  · exact isWritten_text (fun text isIt => texts text (by simp [isIt])) (by decide) tag model
  · exact isWritten_text (fun text isIt => texts text (by simp [isIt])) (by decide) tag manufacturer

theorem length_colorant_le (name : String) (value : Xyz) :
    (Tag.colorant name value).length ≤ 1 := by
  unfold Tag.colorant
  split <;> simp

theorem length_curve_le (name : String) (value : Option ToneCurve) :
    (Tag.curve name value).length ≤ 1 := by
  cases value <;> simp [Tag.curve]

theorem length_text_le (name : String) (value : Option String) :
    (Tag.text name value).length ≤ 1 := by
  cases value <;> simp [Tag.text]

theorem length_tags_le (profile : Profile) : profile.tags.length ≤ 14 := by
  have red := length_colorant_le "rXYZ" profile.red
  have green := length_colorant_le "gXYZ" profile.green
  have blue := length_colorant_le "bXYZ" profile.blue
  have matrix : (if profile.isAdapted then [Tag.matrix "chad" .bradford] else []).length ≤ 1 := by
    split <;> simp
  have redCurve := length_curve_le "rTRC" profile.curves.red
  have greenCurve := length_curve_le "gTRC" profile.curves.green
  have blueCurve := length_curve_le "bTRC" profile.curves.blue
  have grayCurve := length_curve_le "kTRC" profile.curves.gray
  have white : (profile.white.map (Tag.color "wtpt")).toList.length ≤ 1 := by
    cases profile.white <;> simp
  have luminance : (profile.luminance.map fun nits =>
      Tag.color "lumi" ⟨0.0, Float.ofNat nits, 0.0⟩).toList.length ≤ 1 := by
    cases profile.luminance <;> simp
  have description := length_text_le "desc" profile.texts.description
  have copyright := length_text_le "cprt" profile.texts.copyright
  have model := length_text_le "dmdd" profile.texts.model
  have manufacturer := length_text_le "dmnd" profile.texts.manufacturer
  simp only [tags, List.length_append]
  omega

/-- The data of all tags is far shorter than an offset can reach. -/
theorem fits_tags (storable : profile.IsStorable) :
    132 + 12 * profile.tags.length + (profile.tags.flatMap (·.data)).length < Bytes.capacity 4 := by
  have written := isWritten_of_mem_tags storable
  have few := length_tags_le profile
  have bounded (tags : List Tag) (written : ∀ tag ∈ tags, tag.IsWritten) :
      (tags.flatMap (·.data)).length ≤ 80028 * tags.length := by
    induction tags with
    | nil => simp
    | cons tag tags ih =>
        have first := (written tag (List.mem_cons_self ..)).length_data
        have others := ih fun other isMember => written other (List.mem_cons_of_mem tag isMember)
        simp only [List.flatMap_cons, List.length_append, List.length_cons]
        omega
  have short := bounded profile.tags written
  rw [Bytes.capacity_four]
  omega

/-- The size that the header gives. -/
def size (profile : Profile) : Nat :=
  132 + 12 * profile.tags.length + (profile.tags.flatMap (·.data)).length

theorem toBytes_eq (profile : Profile) :
    profile.toBytes = profile.header profile.size ++ (Bytes.ofNat 4 profile.tags.length ++
      (tagEntries profile.tags (132 + 12 * profile.tags.length) ++
        profile.tags.flatMap (·.data))) := by
  simp only [toBytes, size, List.append_assoc]

theorem isReadable_of_mem_placed (storable : profile.IsStorable) {entry : TagEntry}
    (isMember : entry ∈ placed profile.tags (132 + 12 * profile.tags.length)) :
    entry.IsReadable profile.toBytes := by
  have written := isWritten_of_mem_tags storable
  rcases exists_of_mem_placed isMember with ⟨tag, isTag, before, after, data, isEntry⟩
  apply (written tag isTag).isReadable
  · rw [isEntry]
  · have table := length_tagEntries written (132 + 12 * profile.tags.length)
    refine ⟨profile.header profile.size ++ (Bytes.ofNat 4 profile.tags.length ++
      (tagEntries profile.tags (132 + 12 * profile.tags.length) ++ before)), after, ?_, ?_, ?_⟩
    · rw [toBytes_eq, data]
      simp only [List.append_assoc]
    · simp only [isEntry, List.length_append, header_eq, length_headerTail, Bytes.length_ofNat,
        table]
      omega
    · rw [isEntry]

/-- Behind a sound header and in front of a whole table of tags, reading goes on tag by tag. -/
theorem ofBytes?_of_header {file : Bytes} {space connection : Space} {count : Nat}
    (long : file.hasAtLeast 132 = true) (version : natAt file 8 1 = 4)
    (deviceClass : (file.drop 12).take 4 = Bytes.ofText "mntr")
    (letters : Space.ofLetters? ((file.drop 16).take 4) = some space)
    (connects : Space.ofLetters? ((file.drop 20).take 4) = some connection)
    (signature : isKind (file.drop 36) "acsp" = true) (intent : natAt file 64 4 = 0)
    (counted : natAt file 128 4 = count) (table : file.hasAtLeast (132 + 12 * count) = true) :
    ofBytes? file = (entries count (file.drop 132)).foldlM (readTag file true)
      { empty with space := space, connection := connection } := by
  subst counted
  unfold ofBytes?
  rw [long, version, deviceClass, letters, connects, signature, intent]
  exact if_neg (not_not_intro table)

theorem ofBytes?_toBytes (storable : profile.IsStorable) :
    ofBytes? profile.toBytes =
      (placed profile.tags (132 + 12 * profile.tags.length)).foldlM (readTag profile.toBytes true)
        { empty with space := if profile.isGray then .gray else .rgb } := by
  have written := isWritten_of_mem_tags storable
  have fits := fits_tags storable
  have few := length_tags_le profile
  have field {position width : Nat} (ends : position + width ≤ 124) :
      (profile.toBytes.drop (4 + position)).take width =
        ((headerTail profile.isGray).drop position).take width := by
    rw [toBytes_eq]
    exact take_drop_header profile profile.size _ ends
  have counted : natAt profile.toBytes 128 4 = profile.tags.length := by
    rw [toBytes_eq]
    apply natAt_append
    · simp only [header_eq, length_headerTail, Bytes.length_ofNat, List.length_append]
    · rw [Bytes.capacity_four]
      omega
  have table : profile.toBytes.drop 132 =
      tagEntries profile.tags (132 + 12 * profile.tags.length) ++
        profile.tags.flatMap (·.data) := by
    rw [toBytes_eq, ← List.append_assoc]
    apply List.drop_left'
    simp only [header_eq, length_headerTail, Bytes.length_ofNat, List.length_append]
  have enough : 132 + 12 * profile.tags.length ≤ profile.toBytes.length := by
    simp only [toBytes_eq, header_eq, List.length_append, Bytes.length_ofNat, length_headerTail,
      length_tagEntries written]
    omega
  have long : profile.toBytes.hasAtLeast 132 = true := by
    rw [Bytes.hasAtLeast_iff]
    omega
  rcases fields_headerTail profile.isGray with
    ⟨version, deviceClass, letters, connects, signature, intent⟩
  rw [← field (by decide : 4 + 1 ≤ 124)] at version
  rw [← field (by decide : 8 + 4 ≤ 124)] at deviceClass
  rw [← field (by decide : 12 + 4 ≤ 124)] at letters
  rw [← field (by decide : 16 + 4 ≤ 124)] at connects
  rw [← field (by decide : 32 + 4 ≤ 124)] at signature
  rw [← field (by decide : 60 + 4 ≤ 124)] at intent
  have isProfile : isKind (profile.toBytes.drop 36) "acsp" = true := beq_iff_eq.mpr signature
  rw [ofBytes?_of_header long version deviceClass letters connects isProfile intent counted
    (Bytes.hasAtLeast_iff.mpr enough), table, entries_tagEntries written fits]
  rfl

/-- A written profile is readable, and what is read is gray exactly when the profile is. -/
theorem exists_ofBytes?_toBytes (storable : profile.IsStorable) :
    ∃ found, ofBytes? profile.toBytes = .ok found ∧ found.isGray = profile.isGray := by
  have keeps : ∀ entry ∈ placed profile.tags (132 + 12 * profile.tags.length),
      ∀ state : Profile, state.space = (if profile.isGray then .gray else .rgb) →
        ∃ next, readTag profile.toBytes true state entry = .ok next ∧
          next.space = if profile.isGray then .gray else .rgb := by
    intro entry isMember state kept
    rcases exists_readTag (isReadable_of_mem_placed storable isMember) true state
      with ⟨next, done, same⟩
    exact ⟨next, done, same.trans kept⟩
  have start : ({ empty with space := if profile.isGray then .gray else .rgb } : Profile).space =
      if profile.isGray then .gray else .rgb := rfl
  rw [ofBytes?_toBytes storable]
  rcases exists_foldlM (fun found : Profile => found.space = if profile.isGray then .gray else .rgb)
    keeps start with ⟨found, done, kept⟩
  refine ⟨found, done, ?_⟩
  have isGray : found.isGray = (found.space == .gray) := rfl
  rw [isGray, kept]
  cases profile.isGray <;> rfl

end Tags

/-! ## Profiles that the library builds -/

theorem isStorable_ofExponent (exponent : Float32) :
    Icc.IsStorable (ToneCurve.ofExponent exponent) := by
  have one (entry : UInt16) : Icc.IsStorable (.table [entry]) :=
    .table (by simp)
  unfold ToneCurve.ofExponent
  split
  · exact one _
  split
  · exact one _
  · exact one _

theorem isStorable_toToneCurve? {transfer : TransferCurve} {curve : ToneCurve}
    (stored : transfer.toToneCurve? = some curve) : Icc.IsStorable curve := by
  have five {parameters : List Float32} (count : parameters.length = 5) :
      Icc.IsStorable (.parametric parameters) :=
    .parametric (by simp [count])
  cases transfer with
  | gamma exponent =>
      cases stored
      exact isStorable_ofExponent exponent
  | linear =>
      cases stored
      exact isStorable_ofExponent 1.0
  | hlg =>
      cases stored
      exact .table (by decide +kernel)
  | pq =>
      cases stored
      exact .table (by decide +kernel)
  | srgb =>
      cases stored
      exact five rfl
  | rec709 =>
      cases stored
      exact five rfl
  | unknown => cases stored

theorem isStorable_gray (isLinear : Bool) : (gray isLinear).IsStorable := by
  refine ⟨?_, ?_⟩
  · intro curve isMember
    simp only [gray, empty, List.mem_cons, List.not_mem_nil, or_false, reduceCtorEq, false_or,
      Option.some.injEq] at isMember
    rw [isMember]
    split
    · exact isStorable_ofExponent 1.0
    · exact @isStorable_toToneCurve? .srgb _ rfl
  · intro text isMember
    simp only [gray, empty, List.mem_cons, List.not_mem_nil, or_false, reduceCtorEq,
      Option.some.injEq] at isMember
    rcases isMember with description | copyright
    · rw [description]
      cases isLinear <;> decide +kernel
    · rw [copyright]
      decide +kernel

theorem length_suffix_le (transfer : TransferCurve) : transfer.suffix.length ≤ 12 := by
  cases transfer with
  | gamma exponent =>
      have short (suffix : String) : suffix ∈ ["Gamma2.8 RGB", "linear RGB", "Gamma2.2 RGB"] →
          suffix.length ≤ 12 := by
        revert suffix
        decide +kernel
      apply short
      simp only [TransferCurve.suffix]
      split
      · decide
      · split <;> decide
  | _ => decide +kernel

theorem length_name_le (primaries : Primaries) :
    (((NamedPrimaries.find? primaries).map (·.name)).getD "").length ≤ 23 := by
  have known : ∀ entry ∈ knownPrimaries, entry.name.length ≤ 23 := by
    decide +kernel
  cases found : NamedPrimaries.find? primaries with
  | none => decide
  | some entry => exact known entry (List.mem_of_find?_eq_some found)

theorem isGray_ofPrimaries {primaries : Primaries} {transfer : TransferCurve} {profile : Profile}
    (built : ofPrimaries primaries transfer = .ok profile) : profile.isGray = false := by
  unfold ofPrimaries at built
  split at built
  · cases built
  · cases built
    rfl

theorem isStorable_ofPrimaries {primaries : Primaries} {transfer : TransferCurve}
    {profile : Profile} (built : ofPrimaries primaries transfer = .ok profile) :
    profile.IsStorable := by
  unfold ofPrimaries at built
  cases stored : transfer.toToneCurve? with
  | none =>
      rw [stored] at built
      cases built
  | some curve =>
      rw [stored] at built
      cases built
      have storable := isStorable_toToneCurve? stored
      have name := length_name_le primaries
      have suffix := length_suffix_le transfer
      refine ⟨?_, ?_⟩
      · intro other isMember
        simp only [List.mem_cons, List.not_mem_nil, or_false, reduceCtorEq, Option.some.injEq,
          or_self] at isMember
        rw [isMember]
        exact storable
      · intro text isMember
        simp only [List.mem_cons, List.not_mem_nil, or_false, Option.some.injEq] at isMember
        have described : (((NamedPrimaries.find? primaries).map (·.name)).getD "" ++ " " ++
            transfer.suffix).length ≤ 40000 := by
          have blank : " ".length = 1 := rfl
          rw [String.length_append, String.length_append, blank]
          omega
        rcases isMember with description | copyright | model | manufacturer
        · rw [description]
          exact described
        · rw [copyright]
          decide
        · rw [model]
          exact described
        · rw [manufacturer]
          decide

end AvifStill.Icc.Profile
