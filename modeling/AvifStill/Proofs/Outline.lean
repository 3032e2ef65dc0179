import AvifStill.Proofs.Container.Truncation
import AvifStill.Proofs.Segments
import AvifStill.Proofs.SizeLimit
import Mathlib.Tactic.SplitIfs

/-!
# What is accepted as a file

A directory is found in a file exactly if the file is a sequence of complete boxes, the first of
which names the family and one of which is a directory, and if all of them that are looked at can be
read. So whatever does not start with such a box is refused for its form before a decoder is asked,
and so is a file with a few bytes more than its boxes have.
-/

namespace AvifStill

open Box Scan

theorem FourCC.toBytes_inj {code other : FourCC} (same : code.toBytes = other.toBytes) :
    code = other := by
  rcases code with ⟨first, second, third, fourth⟩
  cases same
  rfl

namespace Item

namespace Brands

/-- Whether brands name the family, first or behind the version. -/
def AreAvif (content : Bytes) : Prop :=
  8 ≤ content.length ∧ ∃ index ≠ 1, ∃ brand ∈ [FourCC.avif, .avis],
    (content.drop (4 * index)).take 4 = brand.toBytes

theorem mem_codes_iff {brand : FourCC} {bytes : Bytes} :
    brand ∈ codes bytes ↔ ∃ index, (bytes.drop (4 * index)).take 4 = brand.toBytes := by
  fun_induction codes bytes with
  | case1 first second third fourth rest ih =>
      rw [List.mem_cons, ih]
      constructor
      · rintro (rfl | ⟨index, isBrand⟩)
        · exact ⟨0, rfl⟩
        · exact ⟨index + 1, isBrand⟩
      · rintro ⟨_ | index, isBrand⟩
        · exact Or.inl (FourCC.toBytes_inj isBrand.symm)
        · exact Or.inr ⟨index, isBrand⟩
  | case2 bytes short =>
      simp only [List.not_mem_nil, false_iff, not_exists]
      intro index isBrand
      have few : bytes.length < 4 := by
        rcases bytes with _ | ⟨first, _ | ⟨second, _ | ⟨third, _ | ⟨fourth, rest⟩⟩⟩⟩
        · exact (by decide : 0 < 4)
        · exact (by decide : 1 < 4)
        · exact (by decide : 2 < 4)
        · exact (by decide : 3 < 4)
        · exact absurd rfl (short first second third fourth rest)
      have size := congrArg List.length isBrand
      rw [List.length_take, List.length_drop, FourCC.length_toBytes] at size
      omega

theorem read_eq_ok_iff {content : Bytes} {brands : Brands} :
    read content = .ok brands ↔ ∃ version rest, version.length = 4 ∧
      content = brands.major.toBytes ++ (version ++ rest) ∧ brands.compatible = codes rest := by
  constructor
  · intro done
    rcases done_of_bind done with ⟨⟨major, behind⟩, readMajor, done⟩
    rcases done_of_bind done with ⟨⟨version, rest⟩, readVersion, finish⟩
    cases finish
    rcases append_of_bytes readVersion with ⟨rfl, sized⟩
    exact ⟨version, rest, sized, append_of_fourCC readMajor, rfl⟩
  · rcases brands with ⟨major, compatible⟩
    rintro ⟨version, rest, sized, rfl, rfl⟩
    exact bind_of_done (bytes_append truncated rest sized)

theorem exists_read {content : Bytes} (long : 8 ≤ content.length) :
    ∃ brands, read content = .ok brands := by
  match content with
  | _ :: _ :: _ :: _ :: _ :: _ :: _ :: _ :: _ => exact ⟨_, rfl⟩

theorem le_length_of_read {content : Bytes} {brands : Brands} (done : read content = .ok brands) :
    8 ≤ content.length := by
  rcases read_eq_ok_iff.mp done with ⟨version, rest, sized, rfl, -⟩
  simp only [List.length_append, FourCC.length_toBytes, sized]
  omega

theorem has_iff {content : Bytes} {brands : Brands} (done : read content = .ok brands)
    (brand : FourCC) :
    brands.has brand = true ↔ ∃ index ≠ 1, (content.drop (4 * index)).take 4 = brand.toBytes := by
  rcases read_eq_ok_iff.mp done with ⟨version, rest, sized, rfl, isCodes⟩
  have behind (index : Nat) : (brands.major.toBytes ++ (version ++ rest)).drop (4 * (index + 2)) =
      rest.drop (4 * index) := by
    have position :
        4 * (index + 2) = brands.major.toBytes.length + (version.length + 4 * index) := by
      rw [FourCC.length_toBytes, sized]
      omega
    rw [position, List.drop_length_add_append, List.drop_length_add_append]
  rw [has, Bool.or_eq_true, beq_iff_eq, List.contains_iff_mem, isCodes, mem_codes_iff]
  constructor
  · rintro (rfl | ⟨index, isBrand⟩)
    · exact ⟨0, by decide, rfl⟩
    · refine ⟨index + 2, by omega, ?_⟩
      rw [behind, isBrand]
  · rintro ⟨_ | _ | index, notVersion, isBrand⟩
    · exact Or.inl (FourCC.toBytes_inj isBrand)
    · exact absurd rfl notVersion
    · right
      rw [behind] at isBrand
      exact ⟨index, isBrand⟩

theorem isAvif_iff {brands : Brands} :
    brands.isAvif = true ↔ ∃ brand ∈ [FourCC.avif, .avis], brands.has brand = true := by
  simp [isAvif]

theorem areAvif_iff {content : Bytes} :
    AreAvif content ↔ ∃ brands, read content = .ok brands ∧ brands.isAvif = true := by
  constructor
  · rintro ⟨long, index, notVersion, brand, isMember, isBrand⟩
    rcases exists_read long with ⟨brands, done⟩
    have has := (has_iff done brand).mpr ⟨index, notVersion, isBrand⟩
    exact ⟨brands, done, isAvif_iff.mpr ⟨brand, isMember, has⟩⟩
  · rintro ⟨brands, done, isAvif⟩
    rcases isAvif_iff.mp isAvif with ⟨brand, isMember, has⟩
    rcases (has_iff done brand).mp has with ⟨index, notVersion, isBrand⟩
    exact ⟨le_length_of_read done, index, notVersion, brand, isMember, isBrand⟩

end Brands

/-- Whether a box holds brands that name the family. -/
def NamesFamily (box : Box) : Prop :=
  box.kind = .ftyp ∧ Brands.AreAvif box.content

/-- Whether an outermost box can be taken in, wherever it stands behind the first. -/
structure Passes (box : Box) : Prop where
  brands : box.kind = .ftyp → Brands.AreAvif box.content
  directory : box.kind = .metadata → ∃ directory, Directory.read box.content = .ok directory

theorem passes_brands {box : Box} (isBrands : box.kind = .ftyp) :
    Passes box ↔ Brands.AreAvif box.content := by
  constructor
  · intro passes
    exact passes.brands isBrands
  · intro areAvif
    refine ⟨fun _ => areAvif, ?_⟩
    intro isDirectory
    cases isBrands.symm.trans isDirectory

theorem passes_directory {box : Box} (isDirectory : box.kind = .metadata) :
    Passes box ↔ ∃ directory, Directory.read box.content = .ok directory := by
  constructor
  · intro passes
    exact passes.directory isDirectory
  · intro readable
    refine ⟨?_, fun _ => readable⟩
    intro isBrands
    cases isBrands.symm.trans isDirectory

theorem passes_other {box : Box} (notBrands : box.kind ≠ .ftyp)
    (notDirectory : box.kind ≠ .metadata) : Passes box :=
  ⟨fun isBrands => absurd isBrands notBrands, fun isDirectory => absurd isDirectory notDirectory⟩

def brands? (box : Box) : Option Brands :=
  if box.kind = .ftyp then (Brands.read box.content).toOption else none

def directory? (box : Box) : Option Directory :=
  if box.kind = .metadata then (Directory.read box.content).toOption else none

namespace Outline

def add (outline : Outline) (box : Box) : Outline :=
  ⟨(brands? box).or outline.brands, (directory? box).or outline.directory,
    outline.hasMovie || box.kind = .moov⟩

theorem add_brands (outline : Outline) {box : Box} (isBrands : box.kind = .ftyp) :
    outline.add box =
      { outline with brands := (Brands.read box.content).toOption.or outline.brands } := by
  rcases box with ⟨kind, content⟩
  cases isBrands
  exact congrArg (Outline.mk _ _) (Bool.or_false _)

theorem add_directory (outline : Outline) {box : Box} (isDirectory : box.kind = .metadata) :
    outline.add box =
      { outline with directory := (Directory.read box.content).toOption.or outline.directory } := by
  rcases box with ⟨kind, content⟩
  cases isDirectory
  exact congrArg (Outline.mk _ _) (Bool.or_false _)

theorem add_other (outline : Outline) {box : Box} (notBrands : box.kind ≠ .ftyp)
    (notDirectory : box.kind ≠ .metadata) :
    outline.add box = { outline with hasMovie := outline.hasMovie || box.kind = .moov } := by
  simp [add, brands?, directory?, notBrands, notDirectory]

theorem step_eq_ok_iff {outline next : Outline} {box : Box} :
    step outline box = .ok next ↔
      (Passes box ∧ (outline.brands = none → box.kind = .ftyp)) ∧ outline.add box = next := by
  unfold step
  split_ifs with isBrands unknown isDirectory isMovie
  · rw [passes_brands isBrands, Brands.areAvif_iff, add_brands outline isBrands]
    cases Brands.read box.content with
    | error fault => simp [bind, Except.bind]
    | ok brands =>
        by_cases isAvif : brands.isAvif
        · simp [isAvif, isBrands, bind, Except.bind, pure, Except.pure, Except.toOption]
        · simp [isAvif, bind, Except.bind, throw, throwThe, MonadExceptOf.throw]
  · simp [isBrands, unknown]
  · rw [passes_directory isDirectory, add_directory outline isDirectory]
    cases Directory.read box.content with
    | error fault => simp [bind, Except.bind]
    | ok directory => simp [unknown, bind, Except.bind, pure, Except.pure, Except.toOption]
  · rw [add_other outline isBrands isDirectory]
    simp [unknown, passes_other isBrands isDirectory, isMovie]
  · rw [add_other outline isBrands isDirectory]
    simp [unknown, passes_other isBrands isDirectory, isMovie]

variable {boxes : List Box} {outline final : Outline}

theorem brands_add (known : outline.brands ≠ none) (box : Box) :
    (outline.add box).brands ≠ none := by
  simp [add, known]

theorem brands_foldl (known : outline.brands ≠ none) : (boxes.foldl add outline).brands ≠ none := by
  induction boxes generalizing outline with
  | nil => exact known
  | cons box boxes ih => exact ih (brands_add known box)

theorem foldlM_known_iff (known : outline.brands ≠ none) :
    boxes.foldlM step outline = .ok final ↔
      (∀ box ∈ boxes, Passes box) ∧ boxes.foldl add outline = final := by
  apply foldlM_eq_ok_iff fun outline => outline.brands ≠ none
  · intro outline box next known
    rw [step_eq_ok_iff, and_iff_left fun unknown => absurd unknown known]
  · intro outline box known
    exact brands_add known box
  · exact known

theorem brands_of_first {first : Box} (isBrands : first.kind = .ftyp) (passes : Passes first) :
    (outline.add first).brands ≠ none := by
  rcases Brands.areAvif_iff.mp (passes.brands isBrands) with ⟨brands, done, -⟩
  rw [add_brands outline isBrands, done]
  exact Option.some_ne_none brands

theorem foldlM_start_iff {first : Box} :
    (first :: boxes).foldlM step ⟨none, none, false⟩ = .ok final ↔
      first.kind = .ftyp ∧ (∀ box ∈ first :: boxes, Passes box) ∧
        (first :: boxes).foldl add ⟨none, none, false⟩ = final := by
  rw [List.foldlM_cons, List.forall_mem_cons, List.foldl_cons]
  constructor
  · intro done
    rcases done_of_bind done with ⟨next, stepped, done⟩
    rcases step_eq_ok_iff.mp stepped with ⟨⟨passes, isBrands⟩, rfl⟩
    have isBrands := isBrands rfl
    rcases (foldlM_known_iff (brands_of_first isBrands passes)).mp done with ⟨others, isFinal⟩
    exact ⟨isBrands, ⟨passes, others⟩, isFinal⟩
  · rintro ⟨isBrands, ⟨passes, others⟩, isFinal⟩
    rw [bind_of_done (step_eq_ok_iff.mpr ⟨⟨passes, fun _ => isBrands⟩, rfl⟩)]
    exact (foldlM_known_iff (brands_of_first isBrands passes)).mpr ⟨others, isFinal⟩

theorem directory_foldl (boxes : List Box) (outline : Outline) :
    (boxes.foldl add outline).directory =
      (boxes.reverse.findSome? directory?).or outline.directory := by
  induction boxes generalizing outline with
  | nil => rfl
  | cons box boxes ih =>
      rw [List.foldl_cons, ih, List.reverse_cons, List.findSome?_append, Option.or_assoc]
      simp [add]

end Outline

/-- Whether the last directory among boxes is this one. -/
def EndsWith (boxes : List Box) (directory : Directory) : Prop :=
  ∃ before box after, boxes = before ++ box :: after ∧ box.kind = .metadata ∧
    Directory.read box.content = .ok directory ∧ ∀ other ∈ after, other.kind ≠ .metadata

/-- How outermost boxes make up a file with a directory. -/
structure IsOutline (boxes : List Box) (directory : Directory) : Prop where
  /-- The first box says that this is a file of the family. -/
  first : ∃ first others, boxes = first :: others ∧ NamesFamily first
  /-- Nothing contradicts that, and every directory can be read. -/
  passes : ∀ box ∈ boxes, Passes box
  /-- There is a directory, and the last one counts. -/
  last : EndsWith boxes directory

theorem directory?_eq_none_iff {box : Box} (passes : Passes box) :
    directory? box = none ↔ box.kind ≠ .metadata := by
  by_cases isDirectory : box.kind = .metadata
  · rcases passes.directory isDirectory with ⟨directory, done⟩
    simp [directory?, isDirectory, done, Except.toOption]
  · simp [directory?, isDirectory]

theorem directory?_eq_some_iff {box : Box} {directory : Directory} :
    directory? box = some directory ↔
      box.kind = .metadata ∧ Directory.read box.content = .ok directory := by
  by_cases isDirectory : box.kind = .metadata
  · cases done : Directory.read box.content <;>
      simp [directory?, isDirectory, done, Except.toOption]
  · simp [directory?, isDirectory]

theorem endsWith_iff {boxes : List Box} {directory : Directory}
    (passes : ∀ box ∈ boxes, Passes box) :
    EndsWith boxes directory ↔ boxes.reverse.findSome? directory? = some directory := by
  rw [EndsWith, List.findSome?_eq_some_iff]
  constructor
  · rintro ⟨before, box, after, rfl, isDirectory, done, others⟩
    refine ⟨after.reverse, box, before.reverse, by simp, ?_, ?_⟩
    · exact directory?_eq_some_iff.mpr ⟨isDirectory, done⟩
    · intro other isOther
      have isOther := List.mem_reverse.mp isOther
      have isMember : other ∈ before ++ box :: after :=
        List.mem_append_right _ (List.mem_cons_of_mem box isOther)
      exact (directory?_eq_none_iff (passes other isMember)).mpr (others other isOther)
  · rintro ⟨after, box, before, apart, found, others⟩
    rcases directory?_eq_some_iff.mp found with ⟨isDirectory, done⟩
    have apart := List.reverse_eq_iff.mp apart
    rw [List.reverse_append, List.reverse_cons, List.append_assoc, List.singleton_append] at apart
    subst apart
    refine ⟨before.reverse, box, after.reverse, rfl, isDirectory, done, ?_⟩
    intro other isOther
    have isMember : other ∈ before.reverse ++ box :: after.reverse :=
      List.mem_append_right _ (List.mem_cons_of_mem box isOther)
    apply (directory?_eq_none_iff (passes other isMember)).mp
    exact others other (List.mem_reverse.mp isOther)

theorem isOutline_iff {boxes : List Box} {directory : Directory} :
    IsOutline boxes directory ↔ ∃ outline,
      boxes.foldlM Outline.step ⟨none, none, false⟩ = .ok outline ∧
        outline.brands ≠ none ∧ outline.directory = some directory := by
  constructor
  · rintro ⟨⟨first, others, rfl, isBrands, -⟩, passes, last⟩
    refine ⟨_, Outline.foldlM_start_iff.mpr ⟨isBrands, passes, rfl⟩, ?_, ?_⟩
    · rw [List.foldl_cons]
      apply Outline.brands_foldl
      exact Outline.brands_of_first isBrands (passes first (List.mem_cons_self ..))
    · rw [Outline.directory_foldl, Option.or_none]
      exact (endsWith_iff passes).mp last
  · rintro ⟨outline, done, known, isDirectory⟩
    cases boxes with
    | nil =>
        cases done
        exact absurd rfl known
    | cons first others =>
        rcases Outline.foldlM_start_iff.mp done with ⟨isBrands, passes, rfl⟩
        rw [Outline.directory_foldl, Option.or_none] at isDirectory
        have names := (passes first (List.mem_cons_self ..)).brands isBrands
        exact ⟨⟨first, others, rfl, isBrands, names⟩, passes, (endsWith_iff passes).mpr isDirectory⟩

theorem Directory.ofFile_eq_ok_iff {file : Bytes} {directory : Directory} :
    ofFile file = .ok directory ↔
      ∃ boxes, split file = ⟨boxes, none⟩ ∧ IsOutline boxes directory := by
  constructor
  · intro done
    by_cases isEmpty : file = []
    · rw [ofFile, if_pos isEmpty] at done
      cases done
    rw [ofFile, if_neg isEmpty] at done
    rcases done_of_bind done with ⟨outline, folded, finish⟩
    rcases Sequence.done_of_foldM folded with ⟨whole, gone⟩
    refine ⟨(split file).boxes, whole, isOutline_iff.mpr ⟨outline, gone, ?_⟩⟩
    split at finish
    · cases finish
    · rename_i brands directory isBrands isDirectory
      cases finish
      exact ⟨isBrands ▸ Option.some_ne_none brands, isDirectory⟩
    · split at finish <;> cases finish
  · rintro ⟨boxes, whole, isOutline⟩
    have notEmpty : file ≠ [] := by
      rintro rfl
      rcases isOutline.first with ⟨first, others, rfl, -⟩
      cases split_nil.symm.trans whole
    rcases isOutline_iff.mp isOutline with ⟨⟨brands, found, hasMovie⟩, gone, known, isDirectory⟩
    cases isDirectory
    rcases Option.ne_none_iff_exists'.mp known with ⟨brands, rfl⟩
    rw [ofFile, if_neg notEmpty, whole, Sequence.foldM_none]
    exact bind_of_done gone

/-- Only the last box may run to the end. -/
theorem Directory.ofFile_eq_ok_iff_segments {file : Bytes} {directory : Directory} :
    ofFile file = .ok directory ↔ ∃ segments, Segment.AreClosed segments ∧
      file = segments.flatMap Segment.toBytes ∧ IsOutline (segments.map Segment.box) directory := by
  rw [ofFile_eq_ok_iff]
  constructor
  · rintro ⟨boxes, whole, isOutline⟩
    rcases Segment.split_eq_iff.mp whole with ⟨segments, closed, rfl, isFile⟩
    exact ⟨segments, closed, isFile, isOutline⟩
  · rintro ⟨segments, closed, isFile, isOutline⟩
    exact ⟨_, Segment.split_eq_iff.mpr ⟨segments, closed, rfl, isFile⟩, isOutline⟩

theorem Brands.fault_of_read {content : Bytes} {fault : Fault}
    (failed : Brands.read content = .error fault) : fault = truncated := by
  rcases failed_of_bind failed with failed | ⟨_, -, failed⟩
  · exact fault_of_fourCC failed
  rcases failed_of_bind failed with failed | ⟨_, -, failed⟩
  · exact fault_of_bytes failed
  · cases failed

theorem Outline.step_unnamed {box : Box} (unnamed : ¬NamesFamily box) :
    ∃ cause, step ⟨none, none, false⟩ box = .error (.parse cause) := by
  by_cases isBrands : box.kind = .ftyp
  · rw [step, if_pos isBrands]
    cases done : Brands.read box.content with
    | error fault =>
        cases Brands.fault_of_read done
        exact ⟨.truncatedBox, rfl⟩
    | ok brands =>
        have notAvif : ¬brands.isAvif = true := by
          intro isAvif
          exact unnamed ⟨isBrands, Brands.areAvif_iff.mpr ⟨brands, done, isAvif⟩⟩
        refine ⟨.notAvif, ?_⟩
        exact if_neg notAvif
  · rw [step, if_neg isBrands]
    exact ⟨.notAvif, rfl⟩

/-- Whether a file starts with a box that names the family. -/
def StartsNamed (file : Bytes) : Prop :=
  ∃ (segment : Segment) (rest : Bytes), file = segment.toBytes ++ rest ∧
    (segment.form = .toEnd → rest = []) ∧ NamesFamily segment.box

theorem Directory.ofFile_of_unnamed {file : Bytes} (unnamed : ¬StartsNamed file) :
    ∃ cause, ofFile file = .error (.parse cause) := by
  by_cases isEmpty : file = []
  · subst isEmpty
    exact ⟨.emptyInput, rfl⟩
  rw [ofFile, if_neg isEmpty]
  cases scanned : Box.scan file with
  | error fault =>
      rw [split_of_scan_error isEmpty scanned]
      rcases fault_of_scan scanned with rfl | rfl
      · exact ⟨_, rfl⟩
      · exact ⟨_, rfl⟩
  | ok pair =>
      rcases pair with ⟨box, rest⟩
      have other : ¬NamesFamily box := by
        intro names
        rcases scan_eq_ok_iff.mp scanned with ⟨segment, rfl, isFile, ends⟩
        exact unnamed ⟨segment, rest, isFile, ends, names⟩
      rcases Outline.step_unnamed other with ⟨cause, failed⟩
      rw [split_of_scan scanned]
      refine ⟨cause, ?_⟩
      apply bind_of_failed
      apply bind_of_failed
      exact bind_of_failed failed

theorem Directory.ofFile_of_stray {segments : List Segment} {directory : Directory} {stray : Bytes}
    (closed : ∀ segment ∈ segments, segment.IsClosed)
    (done : ofFile (segments.flatMap Segment.toBytes) = .ok directory) (notEmpty : stray ≠ [])
    (short : stray.length < 8) :
    ofFile (segments.flatMap Segment.toBytes ++ stray) = .error truncated := by
  have found := Segment.split_flatMap_append closed stray
  rw [split_of_scan_error notEmpty (scan_short short), List.append_nil] at found
  rcases ofFile_eq_ok_iff.mp done with ⟨boxes, whole, isOutline⟩
  cases (Segment.split_flatMap (Segment.areClosed_of_forall closed)).symm.trans whole
  rcases isOutline_iff.mp isOutline with ⟨outline, gone, -⟩
  exact ofFile_of_split (List.append_ne_nil_of_right_ne_nil _ notEmpty) found gone

end Item

namespace LoadedImage

open Item

variable {σ : Type} {options : DecodeOptions} {decoder : Av1.Decoder σ} {file : Bytes} {state : σ}

/-- Whether a file is refused for its form by every reader, without anything being decoded. -/
def IsMalformed (options : DecodeOptions) (decoder : Av1.Decoder σ) (file : Bytes) (state : σ) :
    Prop :=
  ∃ cause, Directory.ofFile file = .error (.parse cause) ∧
    Container.parse file = .error (.parse cause) ∧
      load options decoder.noting file ([], state) = (.error (.parse cause), ([], state))

theorem isMalformed_of_ofFile {cause : Malformation}
    (failed : Directory.ofFile file = .error (.parse cause)) :
    IsMalformed options decoder file state := by
  have unparsed : Container.parse file = .error (.parse cause) := bind_of_failed failed
  have unopened : open? options file = .error (.parse cause) := bind_of_failed unparsed
  refine ⟨cause, failed, unparsed, ?_⟩
  simp only [load, unopened]

/-- What is accepted as a file, and what is not. -/
structure IsGuarded (options : DecodeOptions) (decoder : Av1.Decoder σ) (file : Bytes)
    (state : σ) : Prop where
  /-- A directory is found exactly in complete boxes of which the first one names the family. -/
  accepted : ∀ directory, Directory.ofFile file = .ok directory ↔ ∃ segments,
    Segment.AreClosed segments ∧ file = segments.flatMap Segment.toBytes ∧
      IsOutline (segments.map Segment.box) directory
  /-- Whatever is read has a directory. -/
  parsed : ∀ container, Container.parse file = .ok container →
    ∃ directory, Directory.ofFile file = .ok directory
  /-- The family has to be named first. -/
  unnamed : ¬StartsNamed file → IsMalformed options decoder file state
  /-- Nothing that is too short for a box may come behind the last one. -/
  stray : ∀ segments : List Segment, (∀ segment ∈ segments, segment.IsClosed) →
    file = segments.flatMap Segment.toBytes → (∃ directory, Directory.ofFile file = .ok directory) →
      ∀ stray, stray ≠ [] → stray.length < 8 →
        IsMalformed options decoder (file ++ stray) state

theorem isGuarded_load (options : DecodeOptions) (decoder : Av1.Decoder σ) (file : Bytes)
    (state : σ) : IsGuarded options decoder file state := by
  constructor
  · intro directory
    exact Directory.ofFile_eq_ok_iff_segments
  · intro container parsed
    rcases done_of_bind parsed with ⟨directory, found, -⟩
    exact ⟨directory, found⟩
  · intro unnamed
    rcases Directory.ofFile_of_unnamed unnamed with ⟨cause, failed⟩
    exact isMalformed_of_ofFile failed
  · rintro segments closed rfl ⟨directory, found⟩ stray notEmpty short
    exact isMalformed_of_ofFile (Directory.ofFile_of_stray closed found notEmpty short)

end LoadedImage

end AvifStill
