import AvifStill.Item.Directory
import AvifStill.Proofs.Segments
import Mathlib.Data.List.Forall2

/-!
# Association tables

The properties of a file are stored once, in a list, and tables behind the list tell which of them
each item has. A table chooses the widths of its item numbers and of its indices, and every index
has a bit next to it for essential properties. The entries of a file may be spread over several
tables, with boxes of other kinds between them. Here all of this is laid out byte by byte. Reading
gives the entries in order, whatever the layout, and an item then has exactly the properties that
the indices of its entries count out.
-/

namespace AvifStill

namespace Item

namespace Association

/-- An index with the bit that stands next to it in a table. -/
structure Mark where
  index : Nat
  essential : Bool

/-- An entry of a table. -/
structure Row where
  item : Nat
  marks : List Mark

/-- An association table with all that its bytes depend on. -/
structure Table where
  version : Nat
  /-- The lowest bit asks for wide indices. -/
  flags : Nat
  rows : List Row

def itemWidth (version : Nat) : Nat :=
  if version = 0 then 2 else 4

def indexWidth (wide : Bool) : Nat :=
  if wide then 2 else 1

/-- How many indices there can be next to the bit for essential properties. -/
def indexCapacity (wide : Bool) : Nat :=
  if wide then 32768 else 128

namespace Mark

variable (mark : Mark) (wide : Bool)

def number : Nat :=
  mark.index + if mark.essential then indexCapacity wide else 0

def toBytes : Bytes :=
  Bytes.ofNat (indexWidth wide) (mark.number wide)

end Mark

namespace Row

variable (row : Row) (version : Nat) (wide : Bool)

def toBytes : Bytes :=
  Bytes.ofNat (itemWidth version) row.item ++ (Bytes.ofNat 1 row.marks.length ++
    row.marks.flatMap fun mark => mark.toBytes wide)

def indices : List Nat :=
  row.marks.map Mark.index

/-- What a row says of its item. -/
def association : Association :=
  ⟨row.item, row.indices⟩

/-- Whether the fields of a row can hold its numbers. -/
structure Fits : Prop where
  item : row.item < Bytes.capacity (itemWidth version)
  count : row.marks.length ≤ 255
  indices : ∀ mark ∈ row.marks, mark.index < indexCapacity wide

/-- Whether a row can stand in a table of any kind. -/
structure IsSmall : Prop where
  item : row.item < 65536
  count : row.marks.length ≤ 255
  indices : ∀ mark ∈ row.marks, mark.index ≤ 127

instance : Decidable row.IsSmall :=
  decidable_of_iff (row.item < 65536 ∧ row.marks.length ≤ 255 ∧ ∀ mark ∈ row.marks, mark.index ≤ 127)
    ⟨fun ⟨item, count, indices⟩ => ⟨item, count, indices⟩,
      fun ⟨item, count, indices⟩ => ⟨item, count, indices⟩⟩

end Row

namespace Table

def isWide (table : Table) : Bool :=
  table.flags % 2 == 1

def toBytes (table : Table) : Bytes :=
  Bytes.ofNat 1 table.version ++ (Bytes.ofNat 3 table.flags ++
    (Bytes.ofNat 4 table.rows.length ++
      table.rows.flatMap fun row => row.toBytes table.version table.isWide))

/-- Whether the fields of a table can hold its numbers. -/
structure Fits (table : Table) : Prop where
  version : table.version < Bytes.capacity 1
  flags : table.flags < Bytes.capacity 3
  count : table.rows.length < Bytes.capacity 4
  rows : ∀ row ∈ table.rows, row.Fits table.version table.isWide

end Table

theorem Row.IsSmall.fits {row : Row} (small : row.IsSmall) (version : Nat) (wide : Bool) :
    row.Fits version wide := by
  constructor
  · have item := small.item
    unfold itemWidth
    split
    · exact item
    · exact Nat.lt_trans item (by decide)
  · exact small.count
  · intro mark isMember
    have index := small.indices mark isMember
    cases wide
    · exact Nat.lt_succ_of_le index
    · exact Nat.lt_of_le_of_lt index (by decide)

/-- Items, counts and indices in the reach of all tables leave the choice of version and width free. -/
theorem Table.fits_of_isSmall {table : Table} (version : table.version < Bytes.capacity 1)
    (flags : table.flags < Bytes.capacity 3) (count : table.rows.length < Bytes.capacity 4)
    (small : ∀ row ∈ table.rows, row.IsSmall) : table.Fits := by
  refine ⟨version, flags, count, ?_⟩
  intro row isMember
  exact (small row isMember).fits table.version table.isWide

/-! ## Reading a table field by field -/

open Scan

variable {version : Nat} {wide : Bool} {mark : Mark} {row : Row} {table : Table}

theorem scanIndex_eq (wide : Bool) :
    scanIndex wide = do return (← Scan.nat truncated (indexWidth wide)) % indexCapacity wide := by
  cases wide <;> rfl

/-- The bit next to an index is the first that the index leaves free. -/
theorem number_bounds (small : mark.index < indexCapacity wide) :
    mark.number wide < Bytes.capacity (indexWidth wide) ∧
      mark.number wide % indexCapacity wide = mark.index := by
  have whole : Bytes.capacity (indexWidth wide) = indexCapacity wide + indexCapacity wide := by
    cases wide <;> rfl
  rw [whole]
  unfold Mark.number
  split
  · rw [Nat.add_mod_right, Nat.mod_eq_of_lt small]
    exact ⟨Nat.add_lt_add_right small _, rfl⟩
  · rw [Nat.add_zero, Nat.mod_eq_of_lt small]
    exact ⟨Nat.lt_add_left _ small, rfl⟩

theorem reads_scanIndex (small : mark.index < indexCapacity wide) :
    Reads (scanIndex wide) (mark.toBytes wide) mark.index := by
  rcases number_bounds small with ⟨fits, same⟩
  have reads := (Reads.nat truncated fits).bind_pure fun number => number % indexCapacity wide
  rw [same] at reads
  rw [scanIndex_eq]
  exact reads

theorem reads_scan (fits : row.Fits version wide) :
    Reads (scan version wide) (row.toBytes version wide) row.association := by
  have width : (if version < 1 then 2 else 4) = itemWidth version := by
    simp [itemWidth]
  have count : row.marks.length < Bytes.capacity 1 := Nat.lt_succ_of_le fits.count
  unfold scan
  rw [width]
  apply Reads.bind (.nat truncated fits.item)
  apply Reads.bind (.nat truncated count)
  apply Reads.bind_pure (Association.mk row.item)
  exact .times fun mark isMember => reads_scanIndex (fits.indices mark isMember)

theorem reads_scanTable (fits : table.Fits) :
    Reads scanTable table.toBytes (table.rows.map Row.association) := by
  apply Reads.bind (.nat truncated fits.version)
  apply Reads.bind (.nat truncated fits.flags)
  apply Reads.bind (.nat truncated fits.count)
  exact .times fun row isMember => reads_scan (fits.rows row isMember)

/-- An essential second property, in the two widths. -/
example : Table.toBytes ⟨0, 0, [⟨1, [⟨2, true⟩]⟩]⟩ = [0, 0, 0, 0, 0, 0, 0, 1, 0, 1, 1, 130] ∧
    Table.toBytes ⟨1, 1, [⟨1, [⟨2, true⟩]⟩]⟩ =
      [1, 0, 0, 1, 0, 0, 0, 1, 0, 0, 0, 1, 1, 128, 2] := by
  decide

end Association

/-! ## Laying out a property table -/

open Box Association

namespace PropertyTable

/-- A property as it stands in the list. -/
structure Stored where
  segment : Segment
  property : Property
  isRead : (Property.scan segment.box.kind).run' segment.box.content = .ok property

/-- What stands in a box behind the list. -/
inductive Part where
  /-- More bytes than those of the table mean nothing. -/
  | entries (table : Table) (after : Bytes)
  | foreign (box : Box)

namespace Part

def box : Part → Box
  | entries table after => ⟨.ipma, table.toBytes ++ after⟩
  | foreign box => box

def rows : Part → List Row
  | entries table _ => table.rows
  | foreign _ => []

def Fits : Part → Prop
  | entries table _ => table.Fits
  | foreign box => box.kind ≠ .ipma

end Part

/-- A part with the choices for its header. -/
structure Placed where
  part : Part
  segment : Segment
  isBox : segment.box = part.box

/-- A property table with all that its bytes depend on. -/
structure Layout where
  stored : List Stored
  closedList : Segment.AreClosed (stored.map Stored.segment)
  list : Segment
  isList : list.box = ⟨.ipco, (stored.map Stored.segment).flatMap Segment.toBytes⟩
  parts : List Placed
  closed : Segment.AreClosed (list :: parts.map Placed.segment)

namespace Layout

variable (layout : Layout)

def toBytes : Bytes :=
  (layout.list :: layout.parts.map Placed.segment).flatMap Segment.toBytes

def properties : List Property :=
  layout.stored.map Stored.property

def rows : List Row :=
  layout.parts.flatMap fun placed => placed.part.rows

def table : PropertyTable :=
  ⟨layout.properties, layout.rows.map Row.association⟩

/-- The indices in all entries of an item. -/
def indicesOf (item : Nat) : List Nat :=
  layout.rows.flatMap fun row => if row.item = item then row.indices else []

def Fits : Prop :=
  ∀ placed ∈ layout.parts, placed.part.Fits

end Layout

/-! ## Reading a property table -/

theorem readProperties_stored {stored : List Stored}
    (closed : Segment.AreClosed (stored.map Stored.segment)) :
    readProperties ((stored.map Stored.segment).flatMap Segment.toBytes) =
      .ok (stored.map Stored.property) := by
  have taken : ∀ properties, ∀ item ∈ stored,
      (do
        let property ← (Property.scan item.segment.box.kind).run' item.segment.box.content
        return properties ++ [property] : Except Fault (List Property)) =
        .ok (properties ++ [item.property]) := by
    intro properties item _
    rw [item.isRead]
    rfl
  rw [readProperties, Segment.foldM_split_map closed taken, foldl_snoc, List.nil_append]

/-- A part adds its entries to those before. -/
theorem readAssociations_parts {parts : List Placed} (fits : ∀ placed ∈ parts, placed.part.Fits)
    (closed : Segment.AreClosed (parts.map Placed.segment)) :
    readAssociations ((parts.map Placed.segment).flatMap Segment.toBytes) =
      .ok ((parts.flatMap fun placed => placed.part.rows).map Row.association) := by
  have taken : ∀ associations, ∀ placed ∈ parts,
      (if placed.segment.box.kind = .ipma then do
          let table ← Association.scanTable.run' placed.segment.box.content
          return associations ++ table
        else .ok associations : Except Fault (List Association)) =
        .ok (associations ++ placed.part.rows.map Row.association) := by
    intro associations placed isMember
    have partFits := fits placed isMember
    rcases placed with ⟨part, segment, isBox⟩
    cases part with
    | entries table after =>
        have reads := (reads_scanTable partFits).run'_append after
        simp only [isBox, Part.box, Part.rows, if_true, reads]
        rfl
    | foreign box =>
        have notTable : ¬segment.box.kind = .ipma := by
          rw [isBox]
          exact partFits
        simp [notTable, Part.rows]
  rw [readAssociations, Segment.foldM_split_map closed taken, List.foldl_append_eq_append,
    List.nil_append, List.map_flatMap]
  rfl

theorem read_layout {layout : Layout} (fits : layout.Fits) :
    read layout.toBytes = .ok layout.table := by
  have closed := Segment.areClosed_cons.mp layout.closed
  have scanned : Box.scan layout.toBytes = .ok (layout.list.box,
      (layout.parts.map Placed.segment).flatMap Segment.toBytes) := by
    apply layout.list.scan_append
    intro isEnd
    by_contra isMore
    apply closed.1 _ isEnd
    intro none
    simp [none] at isMore
  have isList : ¬layout.list.box.kind ≠ .ipco := by
    simp [layout.isList]
  have listed : readProperties layout.list.box.content = .ok layout.properties := by
    rw [layout.isList]
    exact readProperties_stored layout.closedList
  rw [read, bind_of_done scanned]
  simp only [if_neg isList, listed, readAssociations_parts fits closed.2]
  rfl

/-! ## The properties of an item -/

/-- The property that an index stands for is the last of so many. -/
def Names (properties : List Property) (index : Nat) (property : Property) : Prop :=
  ∃ before after, properties = before ++ property :: after ∧ index = before.length + 1

/-- Indices that name no property are passed over, and each of the others yields one. -/
theorem forall₂_names (properties : List Property) (indices : List Nat) :
    List.Forall₂ (Names properties)
      (indices.filter fun index => 0 < index ∧ index ≤ properties.length)
      (indices.filterMap fun index => if index = 0 then none else properties[index - 1]?) := by
  induction indices with
  | nil => exact .nil
  | cons index indices ih =>
      by_cases valid : 0 < index ∧ index ≤ properties.length
      · have inside : index - 1 < properties.length := by omega
        have found : (if index = 0 then none else properties[index - 1]?) =
            some properties[index - 1] := by
          rw [if_neg (by omega), List.getElem?_eq_getElem inside]
        rw [List.filter_cons_of_pos (by simpa using valid), List.filterMap_cons, found]
        apply List.Forall₂.cons _ ih
        refine ⟨properties.take (index - 1), properties.drop (index - 1 + 1), ?_, ?_⟩
        · rw [← List.drop_eq_getElem_cons inside, List.take_append_drop]
        · rw [List.length_take]
          omega
      · have missing : (if index = 0 then none else properties[index - 1]?) = none := by
          split
          · rfl
          · apply List.getElem?_eq_none
            omega
        rw [List.filter_cons_of_neg (by simpa using valid), List.filterMap_cons, missing]
        exact ih

theorem ofItem_layout (layout : Layout) (item : Nat) :
    layout.table.ofItem item = (layout.indicesOf item).filterMap fun index =>
      if index = 0 then none else layout.properties[index - 1]? := by
  unfold ofItem Layout.indicesOf
  rw [List.filterMap_flatMap, Layout.table]
  simp only
  induction layout.rows with
  | nil => rfl
  | cons row rows ih =>
      rw [List.map_cons, List.filter_cons, List.flatMap_cons, ← ih]
      by_cases isSame : row.item = item
      · simp [isSame, Row.association]
      · simp [isSame, Row.association]

/-- How a property table is read, whatever its layout. -/
structure Layout.IsReadBack (layout : Layout) : Prop where
  whole : read layout.toBytes = .ok layout.table
  /-- In a directory the table adds to what there was before. -/
  entered : ∀ progress : Directory.Progress,
    Directory.step progress ⟨.iprp, layout.toBytes⟩ =
      .ok { progress with directory := { progress.directory with
        table := progress.directory.table.append layout.table } }
  /-- An item has the properties that its indices name, in order and as often. -/
  named : ∀ item, List.Forall₂ (Names layout.properties)
    ((layout.indicesOf item).filter fun index => 0 < index ∧ index ≤ layout.properties.length)
    (layout.table.ofItem item)
  /-- Other layouts of the same entries make no difference. -/
  independent : ∀ other : Layout, other.Fits → other.properties = layout.properties →
    other.rows.map Row.association = layout.rows.map Row.association →
    read other.toBytes = read layout.toBytes

/-- Every layout is read back if its fields can hold the numbers in them. -/
theorem Layout.Fits.isReadBack {layout : Layout} (fits : layout.Fits) : layout.IsReadBack := by
  constructor
  · exact read_layout fits
  · intro progress
    exact bind_of_done (read_layout fits)
  · intro item
    rw [ofItem_layout]
    exact forall₂_names layout.properties (layout.indicesOf item)
  · intro other otherFits properties associations
    rw [read_layout fits, read_layout otherFits, table, table, properties, associations]

/-- A quarter turn, a box of an extended type that means nothing, and a mirror. -/
def turnedList : List Stored :=
  [⟨⟨⟨.irot, [1]⟩, .short, [], rfl, by decide⟩, .rotation 1, rfl⟩,
    ⟨⟨⟨.uuid, [7, 7]⟩, .short, List.replicate 16 9, rfl, by decide⟩, .other, rfl⟩,
    ⟨⟨⟨.imir, [0]⟩, .toEnd, [], rfl, by decide⟩, .mirror 0, rfl⟩]

/-- Two tables, of which the second numbers its items and counts the properties in wider fields. -/
def turnedLayout : Layout where
  stored := turnedList
  closedList := by simp [turnedList, Segment.AreClosed, Segment.IsClosed]
  list := ⟨⟨.ipco, (turnedList.map Stored.segment).flatMap Segment.toBytes⟩, .wide, [], rfl,
    by decide⟩
  isList := rfl
  parts :=
    [⟨.entries ⟨0, 0, [⟨1, [⟨1, true⟩, ⟨0, false⟩]⟩]⟩ [], ⟨_, .short, [], rfl, by decide⟩, rfl⟩,
      ⟨.foreign ⟨.mdat, [5]⟩, ⟨_, .short, [], rfl, by decide⟩, rfl⟩,
      ⟨.entries ⟨1, 1, [⟨2, [⟨3, false⟩]⟩, ⟨1, [⟨4, true⟩, ⟨3, true⟩]⟩]⟩ [6],
        ⟨_, .toEnd, [], rfl, by decide⟩, rfl⟩]
  closed := by simp [Segment.AreClosed, Segment.IsClosed]

theorem isReadBack_turnedLayout : turnedLayout.Fits ∧ turnedLayout.IsReadBack ∧
    turnedLayout.table.ofItem 1 = [.rotation 1, .mirror 0] := by
  have fits : turnedLayout.Fits := by
    intro placed isMember
    simp only [turnedLayout, List.mem_cons, List.not_mem_nil, or_false] at isMember
    rcases isMember with rfl | rfl | rfl
    · exact Table.fits_of_isSmall (by decide) (by decide) (by decide) (by decide)
    · exact (by decide : FourCC.mdat ≠ .ipma)
    · exact Table.fits_of_isSmall (by decide) (by decide) (by decide) (by decide)
  exact ⟨fits, fits.isReadBack, by decide⟩

end PropertyTable

end Item

end AvifStill
