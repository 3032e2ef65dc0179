import AvifStill.Payload.Layout
import AvifStill.Proofs.Container.Directory

/-!
# The written boxes, read strictly

What the strict reader finds on its way through a written file: the item directory, unless a clean
aperture lacks a denominator, and one media box with the data of all items, unless there is none.
-/

namespace AvifStill.Container

open Item Scan Payload Payload.Window

/-- The directory of a written file as the strict reader finds it. -/
def table (container : Container) : Table :=
  ⟨some 1, some (container.entries.map Entry.untyped), container.references,
    some (container.placed.map Placed.location), container.described.map (·.name),
    container.readLinks, none⟩

/-- The box of the number of the primary item. -/
def primaryBox : Box :=
  .full .pitm 0 (Bytes.ofNat 2 1)

section Steps

variable {table : Table}

theorem strict_step_handler :
    Table.step table (.ofBox handlerBox) handlerBox.content = .ok (table, []) := rfl

theorem strict_step_primary (isFirst : table.primary = none) :
    Table.step table (.ofBox primaryBox) primaryBox.content =
      .ok ({ table with primary := some 1 }, []) := by
  rcases table with ⟨primary, entries, references, locations, properties, links, itemData⟩
  cases isFirst
  rfl

theorem strict_step_locations {items : List Stored} {start : Nat} {locations : List Location}
    (isFirst : table.locations = none)
    (reads : Table.scanLocations (locationsBox items start).content = .ok (locations, [])) :
    Table.step table (.ofBox (locationsBox items start)) (locationsBox items start).content =
      .ok ({ table with locations := some locations }, []) := by
  refine (Reads.bind_nothing_rest (reads_require ?_) ((bind_of_ok reads).trans rfl))
  rw [isFirst]
  rfl

theorem strict_step_entries {container : Container} {entries : List Entry}
    (isFirst : table.entries = none)
    (reads : Table.scanEntries container.entriesBox.content = .ok (entries, [])) :
    Table.step table (.ofBox container.entriesBox) container.entriesBox.content =
      .ok ({ table with entries := some entries }, []) := by
  refine (Reads.bind_nothing_rest (reads_require ?_) ((bind_of_ok reads).trans rfl))
  rw [isFirst]
  rfl

theorem strict_step_references {boxes : Bytes} {references : List Reference}
    (reads : Table.scanReferences (Box.full .iref 0 boxes).content = .ok (references, [])) :
    Table.step table (.ofBox (.full .iref 0 boxes)) (Box.full .iref 0 boxes).content =
      .ok ({ table with references := table.references ++ references }, []) :=
  (bind_of_ok reads).trans rfl

theorem strict_step_properties {container : Container} {properties : List (Option Bytes)}
    {links : List Link}
    (reads : Table.scanPropertyTable container.propertiesBox.content =
      .ok ((properties, links), [])) :
    Table.step table (.ofBox container.propertiesBox) container.propertiesBox.content =
      .ok ({ table with properties, links }, []) :=
  (bind_of_ok reads).trans rfl

theorem strict_step_properties_error {container : Container} {fault : Fault}
    (failed : Table.scanPropertyTable container.propertiesBox.content = .error fault) :
    Table.step table (.ofBox container.propertiesBox) container.propertiesBox.content =
      .error fault :=
  bind_of_error failed

end Steps

/-- The directory before its property table, which comes last, is read. -/
def tableBefore (container : Container) : Table :=
  { container.table with properties := [], links := [] }

theorem fold_directoryBoxes {container : Container}
    (fits : container.toBytes.IsAddressable) :
    fold .isFault Table.step .empty
        ((container.directoryBoxes container.dataStart).flatMap Box.toBytes) =
      fold .isFault Table.step container.tableBefore
        ([container.propertiesBox].flatMap Box.toBytes) := by
  have locations := strict_locations container.dataStart container.length_storedItems
    fun placed isMember => fits_of_mem_placed fits isMember
  have entries := strict_entries (fits_entriesBox fits)
  have sound := sound_directoryBoxes fits
  have boxes : container.directoryBoxes container.dataStart =
      handlerBox :: primaryBox :: locationsBox container.storedItems container.dataStart ::
        container.entriesBox :: (container.referencesBox?.toList ++ [container.propertiesBox]) := rfl
  rw [boxes] at sound ⊢
  rw [fold_cons sound strict_step_handler, fold_cons sound.tail (strict_step_primary rfl),
    fold_cons sound.tail.tail (strict_step_locations rfl locations),
    fold_cons sound.tail.tail.tail (strict_step_entries rfl entries)]
  have sound := sound.tail.tail.tail.tail
  rw [referencesBox?_eq] at sound ⊢
  by_cases absent : container.references = []
  · simp only [if_pos absent, Option.toList_none, List.nil_append]
    simp [tableBefore, table, absent, placed, Table.empty]
  · have references := strict_references (fits_references fits)
    simp only [if_neg absent, Option.toList_some, List.singleton_append] at sound ⊢
    rw [fold_cons sound (strict_step_references references)]
    simp [tableBefore, table, placed, Table.empty]

theorem scan_writtenDirectory {container : Container}
    (fits : container.toBytes.IsAddressable) :
    Table.scan container.writtenDirectory.content =
      fold .isFault Table.step container.tableBefore
        ([container.propertiesBox].flatMap Box.toBytes) := by
  rw [← fold_directoryBoxes fits, writtenDirectory, content_directoryBox]
  refine (bind_of_ok (reads_natOfBytes (rfl : [(0 : UInt8)].length = 1) _)).trans ?_
  refine (bind_of_ok (reads_require rfl _)).trans ?_
  exact bind_of_ok (reads_skip (rfl : [(0 : UInt8), 0, 0].length = 3) _)

theorem sound_propertiesLast {container : Container}
    (fits : container.toBytes.IsAddressable) : Box.Sound [container.propertiesBox] :=
  (sound_directoryBoxes fits).right

theorem strict_writtenDirectory {container : Container}
    (fits : container.toBytes.IsAddressable) (pixels : container.HasPixels)
    (has : container.HasDenominators) :
    Table.scan container.writtenDirectory.content = .ok (container.table, []) := by
  have properties := strict_propertiesBox (fits_propertiesBox fits) pixels has
  rw [scan_writtenDirectory fits,
    fold_cons (sound_propertiesLast fits) (strict_step_properties properties)]
  exact fold_nil

/-- It refuses the directory if a clean aperture lacks a denominator. -/
theorem strict_writtenDirectory_error {container : Container}
    (fits : container.toBytes.IsAddressable) (pixels : container.HasPixels)
    (lacks : ¬container.HasDenominators) :
    Table.scan container.writtenDirectory.content = .error .container := by
  have head := (sound_propertiesLast fits).head
  have failed := strict_propertiesBox_error (fits_propertiesBox fits) pixels lacks
  rw [scan_writtenDirectory fits, List.flatMap_cons]
  exact fold_toBytes_error head.1 head.2 (strict_step_properties_error failed)

/-! ## The outermost boxes -/

/-- The media boxes of a written file: one, unless there is no data. -/
def writtenMedia (container : Container) : List Media :=
  if container.mediaData = [] then [] else [⟨container.dataStart, container.mediaData⟩]

/-- The layout of a written file behind its brands. -/
def layoutBrands : Layout :=
  ⟨none, [], 24⟩

/-- The layout of a written file behind its directory. -/
def layoutDirectory (container : Container) (table : Table) : Layout :=
  ⟨some table, [], 24 + 8 + container.writtenDirectory.content.length⟩

theorem layout_directory {container : Container} {table : Table}
    (reads : Table.scan container.writtenDirectory.content = .ok (table, [])) :
    Layout.step layoutBrands (.ofBox container.writtenDirectory)
        container.writtenDirectory.content = .ok (container.layoutDirectory table, []) :=
  Reads.bind_nothing_rest (reads_require rfl) ((bind_of_ok reads).trans rfl)

theorem layout_directory_error {container : Container} {fault : Fault}
    (failed : Table.scan container.writtenDirectory.content = .error fault) :
    Layout.step layoutBrands (.ofBox container.writtenDirectory)
        container.writtenDirectory.content = .error fault :=
  (bind_of_ok (reads_require rfl _)).trans (bind_of_error failed)

theorem dataStart_eq (container : Container) :
    container.dataStart = 24 + 8 + container.writtenDirectory.content.length + 8 := by
  have same := length_directoryBox container 0 container.dataStart
  rw [Box.length_toBytes (container.directoryBox container.dataStart)] at same
  have size : (container.directoryBox 0).toBytes.length =
      container.writtenDirectory.content.length + 8 := same
  have brands : brandsBox.toBytes.length = 24 := rfl
  rw [dataStart, size, brands]
  omega

/-- The layout of a written file behind its media box. -/
def layoutMedia (container : Container) (table : Table) : Layout :=
  ⟨some table, container.writtenMedia, container.dataStart + container.mediaData.length⟩

/-- The media box is kept if there is anything in it. -/
theorem layout_media (container : Container) (table : Table) :
    Layout.step (container.layoutDirectory table) (.ofBox container.mediaBox)
        container.mediaBox.content = .ok (container.layoutMedia table, []) := by
  refine (bind_of_ok (rfl : Scan.rest _ = .ok (_, []))).trans ?_
  rw [layoutMedia, writtenMedia, dataStart_eq]
  by_cases isEmpty : container.mediaData = []
  · simp [layoutDirectory, Layout.advance, Head.ofBox, mediaBox, isEmpty, pure_apply]
  · simp [layoutDirectory, Layout.advance, Head.ofBox, mediaBox, isEmpty, pure_apply]

/-- Behind the brands the strict reader goes from box to box. -/
theorem layout_ofBoxes {boxes : List Box} (sound : Box.Sound (brandsBox :: boxes)) :
    Layout.ofFile ((brandsBox :: boxes).flatMap Box.toBytes) =
      (fold .isFault Layout.step layoutBrands (boxes.flatMap Box.toBytes)).map (·.1) := by
  have head := sound.head
  have free : brandsBox.content.length ≤ ((brandsBox :: boxes).flatMap Box.toBytes).length := by
    rw [List.flatMap_cons, List.length_append, Box.length_toBytes]
    omega
  have header : Head.next? ((brandsBox :: boxes).flatMap Box.toBytes) =
      .ok (some (.ofBox brandsBox, brandsBox.content ++ boxes.flatMap Box.toBytes)) :=
    Head.next?_toBytes head.1 head.2
  have read : Layout.scanBrands (.ofBox brandsBox) brandsBox.content = .ok ((), []) := rfl
  rw [Layout.ofFile, bind_of_done header]
  refine (bind_of_done (enter_append free read)).trans ?_
  change (fold .isFault Layout.step layoutBrands _ >>= _) = _
  cases fold .isFault Layout.step layoutBrands (boxes.flatMap Box.toBytes) <;> rfl

/-- The strict reader goes through a written file from box to box. -/
theorem layout_ofFile {container : Container} (fits : container.toBytes.IsAddressable)
    (pixels : container.HasPixels) (has : container.HasDenominators) :
    Layout.ofFile container.toBytes = .ok (container.layoutMedia container.table) := by
  have sound := sound_fileBoxes fits
  have reads := strict_writtenDirectory fits pixels has
  rw [toBytes_eq_flatMap, fileBoxes, layout_ofBoxes sound,
    fold_cons sound.tail (layout_directory reads),
    fold_cons sound.tail.tail (layout_media container container.table)]
  exact congrArg (Except.map _) fold_nil

theorem layout_ofFile_error {container : Container}
    (fits : container.toBytes.IsAddressable) (pixels : container.HasPixels)
    (lacks : ¬container.HasDenominators) :
    Layout.ofFile container.toBytes = .error .container := by
  have sound := sound_fileBoxes fits
  have head := sound.tail.head
  have failed := strict_writtenDirectory_error fits pixels lacks
  rw [toBytes_eq_flatMap, fileBoxes, layout_ofBoxes sound, List.flatMap_cons,
    fold_toBytes_error head.1 head.2 (layout_directory_error failed)]
  rfl

end AvifStill.Container
