import AvifStill.Proofs.Container.Links

/-!
# The written directory

The item directory that the lenient reader finds in a written file. The positions in it are those of
the stored data, since the directory is as long with them as it was with zero positions when it was
measured.
-/

namespace AvifStill.Container

open Item Scan

/-! ## Where the data is -/

@[simp]
theorem length_toBytes_placed (placed : Placed) : placed.toBytes.length = 14 := rfl

theorem length_flatMap_placed (items : List Placed) :
    (items.flatMap Placed.toBytes).length = 14 * items.length := by
  induction items with
  | nil => rfl
  | cons placed items ih =>
      rw [List.flatMap_cons, List.length_append, ih, length_toBytes_placed, List.length_cons]
      omega

/-- The location table is as long wherever the data is. -/
theorem length_locationsBox (items : List Stored) (start : Nat) :
    (locationsBox items start).content.length = 8 + 14 * items.length := by
  rw [content_locationsBox]
  simp only [List.length_append, length_flatMap_placed, length_place, Bytes.length_ofNat,
    List.length_cons, List.length_nil]
  omega

/-- The boxes of the directory. -/
def directoryBoxes (container : Container) (start : Nat) : List Box :=
  [handlerBox, .full .pitm 0 (Bytes.ofNat 2 1), locationsBox container.storedItems start,
    container.entriesBox] ++ container.referencesBox?.toList ++ [container.propertiesBox]

theorem content_directoryBox (container : Container) (start : Nat) :
    (container.directoryBox start).content =
      [0] ++ ([0, 0, 0] ++ (container.directoryBoxes start).flatMap Box.toBytes) := rfl

theorem length_directoryBox (container : Container) (start other : Nat) :
    (container.directoryBox start).toBytes.length = (container.directoryBox other).toBytes.length := by
  simp only [Box.length_toBytes, content_directoryBox, directoryBoxes, List.length_append,
    List.flatMap_append, List.flatMap_cons, length_locationsBox]

/-- What comes before the stored data in a written file. -/
def front (container : Container) : Bytes :=
  brandsBox.toBytes ++ (container.directoryBox container.dataStart).toBytes ++
    (Bytes.ofNat 4 ((container.storedItems.flatMap (·.data)).length + 8) ++ FourCC.mdat.toBytes)

theorem length_front (container : Container) : container.front.length = container.dataStart := by
  simp only [front, List.length_append, Bytes.length_ofNat, FourCC.length_toBytes]
  rw [length_directoryBox container container.dataStart 0]
  rfl

theorem toBytes_eq (container : Container) :
    container.toBytes = container.front ++ container.storedItems.flatMap (·.data) := by
  simp [toBytes, front, Box.toBytes]

/-- The items as they are placed in a written file. -/
def placed (container : Container) : List Placed :=
  place container.dataStart container.storedItems

theorem le_length_of_mem_placed {container : Container} {placed : Placed}
    (isMember : placed ∈ container.placed) :
    placed.position + placed.stored.data.length ≤ container.toBytes.length := by
  rcases exists_of_mem_place isMember with ⟨before, after, split, position⟩
  rw [toBytes_eq, List.length_append, length_front, split, List.flatMap_append, List.flatMap_cons,
    List.length_append, List.length_append]
  omega

theorem item_of_mem_storedItems {container : Container} {stored : Stored}
    (isMember : stored ∈ container.storedItems) :
    stored.item = 1 ∨ stored.item = 2 ∨ stored.item = 3 ∨ stored.item = 4 := by
  simp only [storedItems, List.mem_append, List.mem_singleton, Option.mem_toList,
    Option.map_eq_some_iff] at isMember
  grind

theorem fits_of_mem_placed {container : Container}
    (fits : container.toBytes.IsAddressable) {placed : Placed}
    (isMember : placed ∈ container.placed) : placed.Fits := by
  have inFile := le_length_of_mem_placed isMember
  rcases exists_of_mem_place isMember with ⟨before, after, split, -⟩
  have isStored : placed.stored ∈ container.storedItems := by
    rw [split]
    exact List.mem_append_right before (List.mem_cons_self ..)
  refine ⟨?_, by omega, by omega⟩
  have small := item_of_mem_storedItems isStored
  rw [Bytes.capacity_two]
  omega

theorem length_storedItems (container : Container) :
    container.storedItems.length < Bytes.capacity 2 := by
  have few : container.storedItems.length ≤ 4 := by
    unfold storedItems
    cases container.exifItem <;> cases container.xmp <;> cases container.alpha <;> simp
  exact Nat.lt_of_le_of_lt few (by decide)

/-! ## The directory as it is read -/

/-- The box of the directory of a written file. -/
def writtenDirectory (container : Container) : Box :=
  container.directoryBox container.dataStart

/-- The directory of a written file as the lenient reader finds it. -/
def directory (container : Container) : Directory :=
  ⟨1, container.placed.map Placed.location, container.entries, container.references,
    container.readTable, []⟩

theorem length_writtenDirectory (container : Container) :
    container.writtenDirectory.content.length + 32 ≤ container.toBytes.length := by
  simp only [toBytes, writtenDirectory, List.length_append, Box.length_toBytes]
  have : brandsBox.content.length = 16 := rfl
  omega

theorem plain_of_mem_directoryBoxes {container : Container} {start : Nat} {box : Box}
    (isMember : box ∈ container.directoryBoxes start) : box.kind ≠ .uuid := by
  simp only [directoryBoxes, referencesBox?_eq, List.mem_append, List.mem_cons, List.not_mem_nil,
    or_false, Option.mem_toList] at isMember
  rcases isMember with ((rfl | rfl | rfl | rfl) | isReferences) | rfl
  · exact (by decide : FourCC.hdlr ≠ .uuid)
  · exact (by decide : FourCC.pitm ≠ .uuid)
  · exact (by decide : FourCC.iloc ≠ .uuid)
  · exact (by decide : FourCC.iinf ≠ .uuid)
  · split at isReferences
    · cases isReferences
    · cases isReferences
      exact (by decide : FourCC.iref ≠ .uuid)
  · exact (by decide : FourCC.iprp ≠ .uuid)

theorem sound_directoryBoxes {container : Container}
    (fits : container.toBytes.IsAddressable) :
    Box.Sound (container.directoryBoxes container.dataStart) := by
  have short := container.length_writtenDirectory
  rw [writtenDirectory, content_directoryBox] at short
  simp only [List.length_append] at short
  exact ⟨fun box isMember => plain_of_mem_directoryBoxes isMember, by omega⟩

theorem fits_of_mem_directoryBoxes {container : Container}
    (fits : container.toBytes.IsAddressable) {box : Box}
    (isMember : box ∈ container.directoryBoxes container.dataStart) :
    box.content.length < Bytes.capacity 4 := by
  have := ((sound_directoryBoxes fits).of_mem isMember).2
  omega

theorem fits_entriesBox {container : Container}
    (fits : container.toBytes.IsAddressable) :
    container.entriesBox.content.length < Bytes.capacity 4 :=
  fits_of_mem_directoryBoxes fits (by simp [directoryBoxes])

theorem fits_propertiesBox {container : Container}
    (fits : container.toBytes.IsAddressable) :
    container.propertiesBox.content.length < Bytes.capacity 4 :=
  fits_of_mem_directoryBoxes fits (by simp [directoryBoxes])

theorem fits_references {container : Container}
    (fits : container.toBytes.IsAddressable) :
    ((container.references.map Reference.box).flatMap Box.toBytes).length < Bytes.capacity 4 := by
  by_cases absent : container.references = []
  · rw [absent]
    decide
  · have isMember : Box.full .iref 0 ((container.references.map Reference.box).flatMap Box.toBytes) ∈
        container.directoryBoxes container.dataStart := by
      simp [directoryBoxes, referencesBox?_eq, absent]
    have bound := fits_of_mem_directoryBoxes fits isMember
    rw [content_references] at bound
    simp only [List.length_append] at bound
    omega

section Steps

variable {progress : Directory.Progress}

theorem step_handler :
    Directory.step progress handlerBox = .ok { progress with hasHandler := true } := rfl

theorem step_primary :
    Directory.step progress (.full .pitm 0 (Bytes.ofNat 2 1)) =
      .ok { progress with directory := { progress.directory with primary := 1 } } := rfl

theorem step_locations {items : List Stored} {start : Nat} {locations : List Location}
    (reads : Location.scanTable.run' (locationsBox items start).content = .ok locations) :
    Directory.step progress (locationsBox items start) =
      .ok { progress with directory := { progress.directory with locations } } :=
  bind_of_done reads

theorem step_entries {container : Container} {entries : List Entry}
    (reads : Entry.scanTable.run' container.entriesBox.content = .ok entries) :
    Directory.step progress container.entriesBox =
      .ok { progress with directory := { progress.directory with entries } } :=
  bind_of_done reads

theorem step_references {boxes : Bytes} {references : List Reference}
    (reads : Reference.scanTable.run' (Box.full .iref 0 boxes).content = .ok references) :
    Directory.step progress (.full .iref 0 boxes) =
      .ok { progress with directory := { progress.directory with references } } :=
  bind_of_done reads

theorem step_properties {container : Container} {table : PropertyTable}
    (reads : PropertyTable.read container.propertiesBox.content = .ok table) :
    Directory.step progress container.propertiesBox =
      .ok { progress with
        directory := { progress.directory with table := progress.directory.table.append table } } :=
  bind_of_done reads

end Steps

/-- The lenient reader reads the directory of a written file back. -/
theorem read_directoryBox {container : Container}
    (fits : container.toBytes.IsAddressable) :
    Directory.read container.writtenDirectory.content = .ok container.directory := by
  have locations := (reads_locations container.dataStart container.length_storedItems
    fun placed isMember => fits_of_mem_placed fits isMember).run'
  have entries := (reads_entries (fits_entriesBox fits)).run'
  have references := run'_references (fits_references fits)
  have properties := read_propertiesBox (fits_propertiesBox fits)
  have gone : (container.directoryBoxes container.dataStart).foldlM Directory.step
      ⟨.empty, false⟩ = .ok ⟨container.directory, true⟩ := by
    rw [directoryBoxes, referencesBox?_eq]
    by_cases absent : container.references = []
    · simp only [if_pos absent, Option.toList_none, List.append_nil, List.cons_append,
        List.nil_append, List.foldlM_cons, step_handler, step_primary, step_locations locations,
        step_entries entries, step_properties properties, bind, Except.bind]
      simp [directory, absent, placed, Directory.empty, PropertyTable.empty, PropertyTable.append,
        pure, Except.pure]
    · simp only [if_neg absent, Option.toList_some, List.cons_append, List.nil_append,
        List.foldlM_cons, step_handler, step_primary, step_locations locations,
        step_entries entries, step_references references, step_properties properties, bind,
        Except.bind]
      simp [directory, placed, Directory.empty, PropertyTable.empty, PropertyTable.append,
        pure, Except.pure]
  have header : Scan.bytes truncated 4
      ([0, 0, 0, 0] ++ (container.directoryBoxes container.dataStart).flatMap Box.toBytes) =
        .ok ([0, 0, 0, 0], (container.directoryBoxes container.dataStart).flatMap Box.toBytes) :=
    Scan.bytes_append truncated _ rfl
  have content : container.writtenDirectory.content =
      [0, 0, 0, 0] ++ (container.directoryBoxes container.dataStart).flatMap Box.toBytes := rfl
  rw [content, Directory.read, header]
  simp only [bind, Except.bind, Box.foldM_split_flatMap (sound_directoryBoxes fits), gone]
  rfl

/-- The data of all items, back to back. -/
def mediaData (container : Container) : Bytes :=
  container.storedItems.flatMap (·.data)

/-- The box of the data of all items. -/
def mediaBox (container : Container) : Box :=
  ⟨.mdat, container.mediaData⟩

/-- The outermost boxes of a written file. -/
def fileBoxes (container : Container) : List Box :=
  [brandsBox, container.writtenDirectory, container.mediaBox]

theorem toBytes_eq_flatMap (container : Container) :
    container.toBytes = container.fileBoxes.flatMap Box.toBytes := by
  simp [toBytes, fileBoxes, writtenDirectory, mediaBox, mediaData]

theorem sound_fileBoxes {container : Container}
    (fits : container.toBytes.IsAddressable) : Box.Sound container.fileBoxes := by
  rw [toBytes_eq_flatMap] at fits
  refine ⟨?_, fits⟩
  intro box isMember
  simp only [fileBoxes, List.mem_cons, List.not_mem_nil, or_false] at isMember
  rcases isMember with rfl | rfl | rfl
  · exact (by decide : FourCC.ftyp ≠ .uuid)
  · exact (by decide : FourCC.metadata ≠ .uuid)
  · exact (by decide : FourCC.mdat ≠ .uuid)

/-- The brands of a written file. -/
def brands : Brands := ⟨.avif, [.mif1, .miaf]⟩

theorem outline_brands {outline : Outline} :
    outline.step brandsBox = .ok { outline with brands := some brands } := rfl

theorem outline_directory {container : Container} {directory? : Option Directory} {found : Directory}
    {hasMovie : Bool} (reads : Directory.read container.writtenDirectory.content = .ok found) :
    Outline.step ⟨some brands, directory?, hasMovie⟩ container.writtenDirectory =
      .ok ⟨some brands, some found, hasMovie⟩ :=
  bind_of_done reads

theorem outline_media {container : Container} {directory? : Option Directory} {hasMovie : Bool} :
    Outline.step ⟨some brands, directory?, hasMovie⟩ container.mediaBox =
      .ok ⟨some brands, directory?, hasMovie⟩ := rfl

theorem ofFile_toBytes {container : Container}
    (fits : container.toBytes.IsAddressable) :
    Directory.ofFile container.toBytes = .ok container.directory := by
  have notEmpty : container.toBytes ≠ [] := by
    intro isEmpty
    have bound := container.length_writtenDirectory
    rw [isEmpty] at bound
    simp at bound
  have read := read_directoryBox fits
  have gone : container.fileBoxes.foldlM Outline.step ⟨none, none, false⟩ =
      .ok ⟨some brands, some container.directory, false⟩ := by
    simp only [fileBoxes, List.foldlM_cons, outline_brands, bind, Except.bind,
      outline_directory read, outline_media]
    rfl
  rw [Directory.ofFile, if_neg notEmpty, toBytes_eq_flatMap,
    Box.foldM_split_flatMap (sound_fileBoxes fits), gone]
  rfl

end AvifStill.Container
