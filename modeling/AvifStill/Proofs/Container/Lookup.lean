import AvifStill.Container.Reader
import AvifStill.Proofs.Container.Directory

/-!
# Looking items up in a written file

What the lenient reader answers about a written file: the properties of the image and of its alpha
image, which item is the alpha image, and which data the metadata items have. An item without data is
the exception: its extent has no length, which stands for all that is left of the file.
-/

namespace AvifStill.Container

open Item

/-! ## Properties of items -/

/-- Positions that count up from one past a known front lead to what comes after it. -/
theorem filterMap_positions (table : PropertyTable) {before middle after : List Property}
    (split : table.properties = before ++ middle ++ after) :
    ((List.range' (before.length + 1) middle.length).filterMap fun index =>
      if index = 0 then none else table.properties[index - 1]?) = middle := by
  induction middle generalizing before with
  | nil => rfl
  | cons property middle ih =>
      have found : table.properties[before.length]? = some property := by
        rw [split]
        simp
      have others := @ih (before ++ [property]) (by rw [split]; simp)
      rw [List.length_append, List.length_singleton] at others
      simp only [List.length_cons, List.range'_succ, List.filterMap_cons, Nat.add_one_ne_zero,
        if_false, Nat.add_sub_cancel, found, others]

theorem indices_marksOf (properties : List Written) :
    (marksOf properties).map (·.index) = List.range' 1 properties.length := by
  apply List.ext_getElem
  · simp [marksOf]
  · intro index _ _
    simp [marksOf, Nat.add_comm]

theorem ofItem_color (container : Container) :
    container.readTable.ofItem 1 = container.colorDescribed.map (·.property) := by
  have split : container.readTable.properties =
      [] ++ container.colorDescribed.map (·.property) ++
        container.alphaDescribed.map (·.property) := by
    rw [readTable, described, List.map_append, List.nil_append]
  have positions := filterMap_positions container.readTable split
  have only : (container.readTable.associations.filter fun association => association.item == 1) =
      [⟨1, List.range' 1 container.colorDescribed.length⟩] := by
    rw [readTable, linkedItems]
    cases container.alpha <;>
      simp [Linked.association, indices_marksOf, colorProperties_eq]
  rw [PropertyTable.ofItem, only, List.flatMap_singleton]
  rw [List.length_map] at positions
  exact positions

/-- The properties of the alpha image, the first of which it shares with the image. -/
theorem ofItem_alpha {container : Container} (isSome : container.alpha.isSome = true) :
    container.readTable.ofItem 2 =
      [.extent container.color.width container.color.height, .config container.alphaRecord.packed,
        .auxiliary alphaName, .other] := by
  have only : (container.readTable.associations.filter fun association => association.item == 2) =
      [⟨2, (alphaMarks container.colorProperties.length).map (·.index)⟩] := by
    simp [readTable, linkedItems, isSome, Linked.association]
  have table : container.readTable.properties =
      container.colorDescribed.map (·.property) ++
        [.config container.alphaRecord.packed, .other, .auxiliary alphaName] := by
    rw [readTable, described, List.map_append, alphaDescribed, if_pos isSome]
    rfl
  have size : container.colorProperties.length =
      (container.colorDescribed.map (·.property)).length := by
    rw [colorProperties_eq, List.length_map, List.length_map]
  have first : container.readTable.properties[0]? =
      some (.extent container.color.width container.color.height) := by
    rw [table]
    rfl
  rw [PropertyTable.ofItem, only, List.flatMap_singleton, size]
  simp only [alphaMarks, List.map_cons, List.map_nil, List.filterMap_cons, List.filterMap_nil,
    Nat.add_one_ne_zero, if_false, Nat.add_sub_cancel, Nat.sub_self, first]
  rw [table]
  simp

/-! ## Items -/

theorem checkPrimary_directory (container : Container) :
    checkPrimary container.directory = .ok () := by
  have found : container.directory.entry? container.directory.primary = some ⟨1, .av01, []⟩ := rfl
  rw [checkPrimary, found]
  rfl

/-- The only reference to the image as what it is an auxiliary image of is that of alpha. -/
theorem references_auxl (container : Container) :
    (container.references.filter fun reference =>
        reference.kind == .auxl && reference.target == 1) =
      (container.alpha.map fun _ => (⟨.auxl, 2, 1⟩ : Reference)).toList := by
  unfold references
  cases container.exifItem <;> cases container.xmp <;> cases container.alpha <;>
    cases container.premultiplied <;> rfl

theorem entry?_alpha {container : Container} (isSome : container.alpha.isSome = true) :
    container.directory.entry? 2 = some ⟨2, .av01, []⟩ := by
  unfold Directory.entry? directory entries xmpItem
  rw [Option.isSome_iff_exists] at isSome
  rcases isSome with ⟨alpha, isAlpha⟩
  rw [isAlpha]
  cases container.exifItem <;> cases container.xmp <;> rfl

theorem isAlpha_directory {container : Container} (isSome : container.alpha.isSome = true) :
    container.directory.isAlpha 2 = true := by
  rw [Directory.isAlpha, directory, ofItem_alpha isSome]
  simp

theorem alphaItem?_directory (container : Container) :
    container.directory.alphaItem? 1 = container.alpha.map fun _ => 2 := by
  have sources : container.directory.references = container.references := rfl
  rw [Directory.alphaItem?, sources, references_auxl]
  cases isAlpha : container.alpha with
  | none => rfl
  | some alpha =>
      have isSome : container.alpha.isSome = true := by rw [isAlpha]; rfl
      simp [entry?_alpha isSome, isAlpha_directory isSome]

/-! ## Metadata -/

/-- What the lenient reader makes of the data of an item that is stored before others. -/
def readData (stored : Stored) (after : List Stored) : Bytes :=
  if stored.data = [] then after.flatMap (·.data) else stored.data

theorem find?_place {before : List Stored} {stored : Stored} (start : Nat) (after : List Stored)
    (first : ∀ other ∈ before, other.item ≠ stored.item) :
    ((place start (before ++ stored :: after)).map Placed.location).find?
        (fun location => location.item == stored.item) =
      some ⟨stored.item, .file, 0,
        [⟨start + (before.flatMap (·.data)).length, stored.data.length⟩]⟩ := by
  induction before generalizing start with
  | nil => simp [place, Placed.location, Placed.extent]
  | cons other before ih =>
      have different := first other (List.mem_cons_self ..)
      have found := ih (start + other.data.length)
        fun other isMember => first other (List.mem_cons_of_mem _ isMember)
      simp only [List.cons_append, place, List.map_cons, List.find?_cons, Placed.location,
        beq_eq_false_iff_ne.mpr different]
      rw [List.flatMap_cons, List.length_append, ← Nat.add_assoc]
      exact found

/-- An extent without a length stands for all that follows. -/
theorem extentData_append {before data after : Bytes}
    (fits : (before ++ (data ++ after)).length < Bytes.capacity 4) :
    Location.extentData (before ++ (data ++ after)) 0 ⟨before.length, data.length⟩ =
      .ok (if data = [] then after else data) := by
  simp only [List.length_append, Bytes.capacity_four] at fits
  have small : ¬UInt64.size ≤ before.length := by
    rw [UInt64.size]
    omega
  have short : ¬UInt64.size ≤ before.length + data.length := by
    rw [UInt64.size]
    omega
  rw [Location.extentData]
  simp only [Nat.zero_add, if_neg small, short, and_false, if_false]
  by_cases isEmpty : data = []
  · have rest := Bytes.slice?_append_length before after
    rw [isEmpty, List.nil_append, List.length_nil, if_pos rfl, if_pos rfl, rest]
  · have nonzero : data.length ≠ 0 := fun isZero => isEmpty (List.length_eq_zero_iff.mp isZero)
    rw [if_neg nonzero, if_neg isEmpty, Bytes.slice?_append]

/-- An item's data is read back; without any, that of the items after it is read. -/
theorem data_directory {container : Container} (fits : container.toBytes.IsAddressable)
    {before after : List Stored} {stored : Stored}
    (split : container.storedItems = before ++ stored :: after)
    (first : ∀ other ∈ before, other.item ≠ stored.item) :
    container.directory.data container.toBytes stored.item = .ok (readData stored after) := by
  have file : container.toBytes = (container.front ++ before.flatMap (·.data)) ++
      (stored.data ++ after.flatMap (·.data)) := by
    rw [toBytes_eq, split, List.flatMap_append, List.flatMap_cons, List.append_assoc]
  have position : container.dataStart + (before.flatMap (·.data)).length =
      (container.front ++ before.flatMap (·.data)).length := by
    rw [List.length_append, length_front]
  have found := find?_place container.dataStart after first
  rw [file] at fits
  have extent := extentData_append fits
  rw [← split, position] at found
  rw [← file] at extent
  rw [Directory.data, show container.directory.locations =
    (place container.dataStart container.storedItems).map Placed.location from rfl, found]
  simp only [Location.data, List.mapM_cons, List.mapM_nil, extent, bind, Except.bind, pure,
    Except.pure]
  simp [readData]

/-- What is stored behind the Exif item. -/
def behindExif (container : Container) : List Stored :=
  (container.xmp.map fun xmp => ⟨container.xmpItem, xmp⟩).toList ++
  (container.alpha.map fun alpha => ⟨2, alpha.data⟩).toList ++ [⟨1, container.color.data⟩]

/-- What is stored behind the XMP item. -/
def behindXmp (container : Container) : List Stored :=
  (container.alpha.map fun alpha => ⟨2, alpha.data⟩).toList ++ [⟨1, container.color.data⟩]

theorem metadataItem?_exif (container : Container) :
    (container.directory.metadataItem? 1 fun entry => entry.kind == .exif) =
      container.exifItem.map fun _ => 3 := by
  unfold Directory.metadataItem? Directory.describes directory entries references xmpItem
  cases container.exifItem <;> cases container.xmp <;> cases container.alpha <;>
    cases container.premultiplied <;> rfl

theorem metadataItem?_xmp (container : Container) :
    (container.directory.metadataItem? 1 fun entry =>
        entry.kind == .mime && entry.contentType == xmpContentType) =
      container.xmp.map fun _ => container.xmpItem := by
  unfold Directory.metadataItem? Directory.describes directory entries references xmpItem
  cases container.exifItem <;> cases container.xmp <;> cases container.alpha <;>
    cases container.premultiplied <;> rfl

theorem metadata?_exif {container : Container} (fits : container.toBytes.IsAddressable) :
    (container.directory.metadata? container.toBytes 1 fun entry => entry.kind == .exif) =
      container.exifItem.map fun exif => readData ⟨3, exif⟩ container.behindExif := by
  rw [Directory.metadata?, metadataItem?_exif]
  cases isExif : container.exifItem with
  | none => rfl
  | some exif =>
      have split : container.storedItems = [] ++ ⟨3, exif⟩ :: container.behindExif := by
        simp [storedItems, behindExif, xmpItem, isExif]
      have found := data_directory fits split (by simp)
      simp [found, Except.toOption]

theorem metadata?_xmp {container : Container} (fits : container.toBytes.IsAddressable) :
    (container.directory.metadata? container.toBytes 1 fun entry =>
        entry.kind == .mime && entry.contentType == xmpContentType) =
      container.xmp.map fun xmp => readData ⟨container.xmpItem, xmp⟩ container.behindXmp := by
  rw [Directory.metadata?, metadataItem?_xmp]
  cases isXmp : container.xmp with
  | none => rfl
  | some xmp =>
      have split : container.storedItems =
          (container.exifItem.map fun exif => ⟨3, exif⟩).toList ++
            ⟨container.xmpItem, xmp⟩ :: container.behindXmp := by
        simp [storedItems, behindXmp, xmpItem, isXmp]
      have first : ∀ other ∈ (container.exifItem.map fun exif => (⟨3, exif⟩ : Stored)).toList,
          other.item ≠ container.xmpItem := by
        intro other isMember
        simp only [Option.mem_toList, Option.map_eq_some_iff] at isMember
        rcases isMember with ⟨exif, isExif, rfl⟩
        simp [xmpItem, isExif]
      have found := data_directory fits split first
      simp [found, Except.toOption]

end AvifStill.Container
