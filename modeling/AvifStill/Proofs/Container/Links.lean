import AvifStill.Proofs.AssociationTable
import AvifStill.Proofs.Container.PropertyTable

/-!
# The written associations

Which properties a written file gives to its image and to its alpha image. What is written is one of
the tables that the lenient reader takes; it keeps the positions of an item's properties as a list.
The strict reader makes a link of each of them. Both leave out nothing, since positions count from
one.
-/

namespace AvifStill.Container

open Item Scan Payload Payload.Window

/-- A position in the property list, and whether the property there is essential. -/
structure Mark where
  index : Nat
  essential : Bool

/-- An item with the marks of its properties. -/
structure Linked where
  item : Nat
  marks : List Mark

namespace Mark

def byte (mark : Mark) : UInt8 :=
  indexByte mark.index mark.essential

theorem byte_mk (index : Nat) (essential : Bool) :
    (Mark.mk index essential).byte = indexByte index essential := rfl

theorem toNat_byte {mark : Mark} (small : mark.index < 128) :
    mark.byte.toNat = if mark.essential then mark.index + 128 else mark.index := by
  rcases mark with ⟨index, essential⟩
  simp only at small
  cases essential <;> simp [byte, indexByte] <;> omega

theorem toNat_bytes (mark : Mark) : Bytes.toNat [mark.byte] = mark.byte.toNat := by
  simp [Bytes.toNat]

/-- The mark in a table of any layout. -/
def inTable (mark : Mark) : Association.Mark :=
  ⟨mark.index, mark.essential⟩

theorem toBytes_inTable (mark : Mark) : mark.inTable.toBytes false = [mark.byte] := by
  rcases mark with ⟨index, essential⟩
  cases essential <;>
    simp [inTable, Association.Mark.toBytes, Association.Mark.number, Association.indexWidth,
      Association.indexCapacity, Bytes.ofNat, Bytes.capacity, byte, indexByte]

/-- The link that the strict reader makes of a mark. -/
def link (item : Nat) (mark : Mark) : Link :=
  ⟨item, mark.index, mark.essential⟩

theorem reads_strict {mark : Mark} (small : mark.index < 128) (item : Nat) :
    Reads (Table.scanIndex false item) [mark.byte] (mark.link item) := by
  have reads := (reads_natOfBytes (rfl : [mark.byte].length = 1)).bind_pure
    fun value => (⟨item, value % 128, value / 128 == 1⟩ : Link)
  have same : (⟨item, Bytes.toNat [mark.byte] % 128, Bytes.toNat [mark.byte] / 128 == 1⟩ : Link) =
      mark.link item := by
    rw [toNat_bytes, toNat_byte small, link]
    cases mark.essential
    · simp only [Bool.false_eq_true, if_false, Link.mk.injEq, true_and]
      exact ⟨by omega, beq_eq_false_iff_ne.mpr (by omega)⟩
    · simp only [if_true, Link.mk.injEq, true_and]
      exact ⟨by omega, beq_iff_eq.mpr (by omega)⟩
  rw [same] at reads
  exact reads

end Mark

namespace Linked

/-- Whether the fields of the table can hold an item and its positions, which are not zero. -/
structure Writable (linked : Linked) : Prop where
  item : linked.item < Bytes.capacity 2
  count : linked.marks.length < 256
  small : ∀ mark ∈ linked.marks, 0 < mark.index ∧ mark.index < 128

def toBytes (linked : Linked) : Bytes :=
  Bytes.ofNat 2 linked.item ++ ([UInt8.ofNat linked.marks.length] ++
    linked.marks.flatMap fun mark => [mark.byte])

def association (linked : Linked) : Association :=
  ⟨linked.item, linked.marks.map (·.index)⟩

def links (linked : Linked) : List Link :=
  linked.marks.map (Mark.link linked.item)

theorem toNat_count {linked : Linked} (writable : linked.Writable) :
    Bytes.toNat [UInt8.ofNat linked.marks.length] = linked.marks.length := by
  simp [Bytes.toNat, Nat.mod_eq_of_lt writable.count]

/-- The item as an entry of a table of any layout. -/
def row (linked : Linked) : Association.Row :=
  ⟨linked.item, linked.marks.map Mark.inTable⟩

theorem toBytes_row (linked : Linked) : linked.row.toBytes 0 false = linked.toBytes := by
  simp [row, toBytes, Association.Row.toBytes, Association.itemWidth, List.flatMap_map,
    Mark.toBytes_inTable, Bytes.ofNat, Bytes.capacity]

theorem association_row (linked : Linked) : linked.row.association = linked.association := by
  simp [row, association, Association.Row.association, Association.Row.indices, Mark.inTable,
    Function.comp_def]

theorem fits_row {linked : Linked} (writable : linked.Writable) : linked.row.Fits 0 false := by
  refine ⟨writable.item, ?_, ?_⟩
  · rw [row, List.length_map]
    exact Nat.le_of_lt_succ writable.count
  · intro mark isMember
    rcases List.mem_map.mp isMember with ⟨mark, isMark, rfl⟩
    exact (writable.small mark isMark).2

theorem reads_strict {linked : Linked} (writable : linked.Writable) :
    Reads (Table.scanItemLinks 0 false) linked.toBytes linked.links := by
  have readsMarks := Reads.times fun mark isMember =>
    Mark.reads_strict (writable.small mark isMember).2 linked.item
  refine Reads.bind (reads_nat writable.item) ?_
  refine Reads.bind (reads_natOfBytes rfl) ?_
  rw [toNat_count writable]
  exact readsMarks

/-- No link of a written item is to the position that stands for none. -/
theorem index_of_mem_links {linked : Linked} (writable : linked.Writable) {link : Link}
    (isMember : link ∈ linked.links) : 0 < link.index := by
  rcases List.mem_map.mp isMember with ⟨mark, isMark, rfl⟩
  exact (writable.small mark isMark).1

end Linked

/-- The marks of properties that are listed from the first position on. -/
def marksOf (properties : List Written) : List Mark :=
  properties.mapIdx fun index written => ⟨index + 1, written.essential⟩

/-- The marks of the alpha image, which shares the size with an image of so many properties. -/
def alphaMarks (count : Nat) : List Mark :=
  [⟨1, false⟩, ⟨count + 1, true⟩, ⟨count + 3, false⟩, ⟨count + 2, false⟩]

/-- The items of a written file that have properties. -/
def linkedItems (container : Container) : List Linked :=
  [⟨1, marksOf container.colorProperties⟩] ++
    if container.alpha.isSome then [⟨2, alphaMarks container.colorProperties.length⟩] else []

theorem length_colorProperties (container : Container) :
    3 ≤ container.colorProperties.length ∧ container.colorProperties.length ≤ 7 := by
  unfold colorProperties
  cases container.colorBox? <;> cases container.transforms.rotation <;>
    cases container.transforms.mirror <;> cases container.transforms.clap <;> simp

theorem writable_of_mem_linkedItems {container : Container} {linked : Linked}
    (isMember : linked ∈ container.linkedItems) : linked.Writable := by
  have few := container.length_colorProperties.2
  simp only [linkedItems, List.mem_append, List.mem_singleton] at isMember
  rcases isMember with rfl | isAlpha
  · refine ⟨(by decide : 1 < Bytes.capacity 2), ?_, ?_⟩
    · simp only [marksOf, List.length_mapIdx]
      omega
    · intro mark isMark
      rcases List.mem_mapIdx.mp isMark with ⟨index, inRange, rfl⟩
      simp only
      omega
  · split at isAlpha
    · simp only [List.mem_singleton] at isAlpha
      subst isAlpha
      refine ⟨(by decide : 2 < Bytes.capacity 2), by simp [alphaMarks], ?_⟩
      intro mark isMark
      simp only [alphaMarks, List.mem_cons, List.not_mem_nil, or_false] at isMark
      rcases isMark with rfl | rfl | rfl | rfl <;> simp only <;> omega
    · cases isAlpha

/-- The box of the associations. -/
def linksBox (container : Container) : Box :=
  .full .ipma 0 (Bytes.ofNat 4 container.linkedItems.length ++
    container.linkedItems.flatMap Linked.toBytes)

theorem content_linksBox (container : Container) :
    container.linksBox.content = [0] ++ ([0, 0, 0] ++
      (Bytes.ofNat 4 container.linkedItems.length ++
        container.linkedItems.flatMap Linked.toBytes)) := rfl

theorem length_linkedItems (container : Container) :
    container.linkedItems.length < Bytes.capacity 4 := by
  have few : container.linkedItems.length ≤ 2 := by
    unfold linkedItems
    split <;> simp
  exact Nat.lt_of_le_of_lt few (by decide)

theorem length_marksOf (properties : List Written) :
    (marksOf properties).length = properties.length := by
  simp [marksOf]

theorem flatMap_marksOf (properties : List Written) :
    ((marksOf properties).flatMap fun mark => [mark.byte]) =
      properties.mapIdx fun index written => indexByte (index + 1) written.essential := by
  rw [marksOf, ← List.map_eq_flatMap, List.mapIdx_eq_zipIdx_map, List.mapIdx_eq_zipIdx_map,
    List.map_map]
  rfl

theorem propertiesBox_eq (container : Container) :
    container.propertiesBox =
      ⟨.iprp, container.listBox.toBytes ++ container.linksBox.toBytes⟩ := by
  unfold propertiesBox listBox linksBox linkedItems
  rw [← boxes_eq]
  cases container.alpha <;>
    simp [Linked.toBytes, flatMap_marksOf, length_marksOf, alphaMarks, Mark.byte_mk]

/-- The table in that box. -/
def linksTable (container : Container) : Association.Table :=
  ⟨0, 0, container.linkedItems.map Linked.row⟩

theorem toBytes_linksTable (container : Container) :
    container.linksTable.toBytes = container.linksBox.content := by
  have header : Bytes.ofNat 1 0 = [0] ∧ Bytes.ofNat 3 0 = [0, 0, 0] := by decide
  have narrow : container.linksTable.isWide = false := rfl
  rw [content_linksBox, Association.Table.toBytes, narrow]
  simp only [linksTable, List.length_map, List.flatMap_map, Linked.toBytes_row, header]

theorem fits_linksTable (container : Container) : container.linksTable.Fits := by
  refine ⟨(by decide : 0 < Bytes.capacity 1), (by decide : 0 < Bytes.capacity 3), ?_, ?_⟩
  · rw [linksTable, List.length_map]
    exact container.length_linkedItems
  · intro row isMember
    rcases List.mem_map.mp isMember with ⟨linked, isLinked, rfl⟩
    exact Linked.fits_row (writable_of_mem_linkedItems isLinked)

theorem reads_linksBox (container : Container) :
    Reads Association.scanTable container.linksBox.content
      (container.linkedItems.map Linked.association) := by
  have reads := Association.reads_scanTable container.fits_linksTable
  have same : container.linksTable.rows.map Association.Row.association =
      container.linkedItems.map Linked.association := by
    simp [linksTable, Linked.association_row]
  rw [toBytes_linksTable, same] at reads
  exact reads

theorem reads_strictLinks (container : Container) :
    Reads Table.scanLinks container.linksBox.content
      (container.linkedItems.map Linked.links).flatten := by
  rw [content_linksBox]
  have few := container.length_linkedItems
  have each : ∀ linked ∈ container.linkedItems,
      Reads (Table.scanItemLinks 0 false) linked.toBytes linked.links :=
    fun linked isMember => Linked.reads_strict (writable_of_mem_linkedItems isMember)
  generalize container.linkedItems = items at few each
  refine Reads.bind (reads_natOfBytes rfl) ?_
  refine Reads.bind (reads_natOfBytes rfl) ?_
  rw [show (Bytes.toNat [0, 0, 0] % 2 == 1) = false by decide, show Bytes.toNat [0] = 0 by decide]
  refine Reads.bind (reads_nat few) ?_
  exact (Reads.times each).bind_pure List.flatten

/-! ## The property table -/

/-- The table as the lenient reader finds it. -/
def readTable (container : Container) : PropertyTable :=
  ⟨container.described.map (·.property), container.linkedItems.map Linked.association⟩

/-- The links as the strict reader finds them. -/
def readLinks (container : Container) : List Link :=
  (container.linkedItems.map Linked.links).flatten

theorem content_propertiesBox (container : Container) :
    container.propertiesBox.content =
      [container.listBox, container.linksBox].flatMap Box.toBytes := by
  rw [propertiesBox_eq]
  simp

theorem sound_propertiesBox {container : Container}
    (fits : container.propertiesBox.content.length < Bytes.capacity 4) :
    Box.Sound [container.listBox, container.linksBox] := by
  rw [content_propertiesBox] at fits
  refine ⟨?_, fits⟩
  intro box isMember
  simp only [List.mem_cons, List.not_mem_nil, or_false] at isMember
  rcases isMember with rfl | rfl
  · exact (by decide : FourCC.ipco ≠ .uuid)
  · exact (by decide : FourCC.ipma ≠ .uuid)

theorem fits_listBox {container : Container}
    (fits : container.propertiesBox.content.length < Bytes.capacity 4) :
    container.listBox.content.length < Bytes.capacity 4 := by
  have := (sound_propertiesBox fits).head.2
  omega

theorem readAssociations_linksBox {container : Container}
    (fits : container.propertiesBox.content.length < Bytes.capacity 4) :
    PropertyTable.readAssociations ([container.linksBox].flatMap Box.toBytes) =
      .ok (container.linkedItems.map Linked.association) := by
  have isLinks : container.linksBox.kind = .ipma := rfl
  rw [PropertyTable.readAssociations, Box.foldM_split_flatMap (sound_propertiesBox fits).tail,
    List.foldlM_cons, if_pos isLinks, (reads_linksBox container).run']
  rfl

theorem read_propertiesBox {container : Container}
    (fits : container.propertiesBox.content.length < Bytes.capacity 4) :
    PropertyTable.read container.propertiesBox.content = .ok container.readTable := by
  have head := (sound_propertiesBox fits).head
  have scanned : Box.scan (container.listBox.toBytes ++ [container.linksBox].flatMap Box.toBytes) =
      .ok (container.listBox, [container.linksBox].flatMap Box.toBytes) :=
    Box.scan_toBytes head.2 head.1
  have isList : container.listBox.kind = .ipco := rfl
  rw [content_propertiesBox, List.flatMap_cons, PropertyTable.read, scanned]
  simp only [bind, Except.bind, if_neg (not_not_intro isList),
    readProperties_listBox (fits_listBox fits), readAssociations_linksBox fits]
  rfl

/-- Positions count from one, so that the strict reader leaves out no link. -/
theorem index_of_mem_readLinks {container : Container} {link : Link}
    (isMember : link ∈ container.readLinks) : link.index ≠ 0 := by
  rcases List.mem_flatten.mp isMember with ⟨links, isLinks, isLink⟩
  rcases List.mem_map.mp isLinks with ⟨linked, isLinked, rfl⟩
  have positive := Linked.index_of_mem_links (writable_of_mem_linkedItems isLinked) isLink
  omega

theorem strict_propertiesBox {container : Container}
    (fits : container.propertiesBox.content.length < Bytes.capacity 4)
    (pixels : container.HasPixels) (has : container.HasDenominators) :
    Table.scanPropertyTable container.propertiesBox.content =
      .ok ((container.described.map (·.name), container.readLinks), []) := by
  have sound := sound_propertiesBox fits
  have listed := scanProperties_listBox (fits_listBox fits) pixels has
  have linked := (reads_strictLinks container).apply
  have noneEssential :
      (container.readLinks.all fun link => link.index != 0 || !link.isEssential) = true := by
    rw [List.all_eq_true]
    intro link isMember
    simp [index_of_mem_readLinks isMember]
  have allKept : (container.readLinks.filter fun link => link.index != 0) = container.readLinks := by
    rw [List.filter_eq_self]
    intro link isMember
    simp [index_of_mem_readLinks isMember]
  have gone : fold .isNextBox
      (fun (state : List (Option Bytes) × List Link) (head : Head) => do
        if head.kind = .ipco then return (← Table.scanProperties, state.2)
        else if head.kind = .ipma then return (state.1, ← Table.scanLinks)
        else Scan.fail .container)
      ([], []) container.propertiesBox.content =
        .ok ((container.described.map (·.name), container.readLinks), []) := by
    rw [content_propertiesBox]
    refine (fold_cons sound ((bind_of_ok listed).trans rfl)).trans ?_
    refine (fold_cons sound.tail ((bind_of_ok linked).trans rfl)).trans ?_
    exact fold_nil
  refine (bind_of_ok gone).trans ?_
  refine (Reads.bind_nothing_rest (reads_require noneEssential) ?_)
  rw [allKept]
  rfl

theorem strict_propertiesBox_error {container : Container}
    (fits : container.propertiesBox.content.length < Bytes.capacity 4)
    (pixels : container.HasPixels) (lacks : ¬container.HasDenominators) :
    Table.scanPropertyTable container.propertiesBox.content = .error .container := by
  have head := (sound_propertiesBox fits).head
  have failed := scanProperties_error (fits_listBox fits) pixels lacks
  rw [content_propertiesBox]
  apply bind_of_error
  exact fold_toBytes_error head.1 head.2 (bind_of_error failed)

end AvifStill.Container
