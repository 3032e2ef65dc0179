import AvifStill.Item.Location
import AvifStill.Proofs.Reading

/-!
# Location tables

A location table chooses its version and the widths of its fields, and has fields that reading
passes over. It is laid out here byte by byte, for every version and all widths. Reading takes up
exactly these bytes: whatever follows them the locations come back, and on any part of them it is
refused. So locations do not depend on how the table lays them out.
-/

namespace AvifStill

namespace Scan

variable {α β : Type}

/-- A step takes up exactly some bytes at the front, and misses them where they are cut off. -/
structure ReadsWhole (step : Scan α) (front : Bytes) (result : α) : Prop where
  reads : Reads step front result
  demands : Demands step front truncated

namespace ReadsWhole

theorem pure (value : α) : ReadsWhole (Pure.pure value) [] value :=
  ⟨.pure value, .nothing _ truncated⟩

theorem bind {first : Scan α} {next : α → Scan β} {front back : Bytes} {middle : α} {result : β}
    (whole : ReadsWhole first front middle) (goesOn : ReadsWhole (next middle) back result) :
    ReadsWhole (first >>= next) (front ++ back) result :=
  ⟨whole.reads.bind goesOn.reads, .bind whole.reads whole.demands goesOn.demands⟩

theorem bind_pure {step : Scan α} {front : Bytes} {value : α} (function : α → β)
    (whole : ReadsWhole step front value) :
    ReadsWhole (step >>= fun value => Pure.pure (function value)) front (function value) := by
  rw [← List.append_nil front]
  exact whole.bind (pure (function value))

theorem nat {width value : Nat} (fits : value < Bytes.capacity width) :
    ReadsWhole (Scan.nat truncated width) (Bytes.ofNat width value) value :=
  ⟨.nat truncated fits, .nat truncated width value⟩

theorem go {step : Scan α} {encode : β → Bytes} {decode : β → α} {items : List β}
    (each : ∀ item ∈ items, ReadsWhole step (encode item) (decode item)) (results : List α) :
    Demands (times.go step items.length results) (items.flatMap encode) truncated := by
  induction items generalizing results with
  | nil => exact .nothing _ truncated
  | cons item items ih =>
      have first := each item (List.mem_cons_self ..)
      have others := ih fun other isMember => each other (List.mem_cons_of_mem item isMember)
      exact .bind first.reads first.demands (others (decode item :: results))

theorem times {step : Scan α} {encode : β → Bytes} {decode : β → α} {items : List β}
    (each : ∀ item ∈ items, ReadsWhole step (encode item) (decode item)) :
    ReadsWhole (Scan.times items.length step) (items.flatMap encode) (items.map decode) :=
  ⟨.times fun item isMember => (each item isMember).reads, go each []⟩

end ReadsWhole

end Scan

namespace Item

/-- The number that stands for a source in a table. -/
def Source.method : Source → Nat
  | .file => 0
  | .itemData => 1

namespace Location

/-- The bytes of numbers of items and of counts of items. -/
def numberWidth (version : Nat) : Nat :=
  if version = 2 then 4 else 2

/-- A location as it stands in a table. -/
structure Row where
  item : Nat
  source : Source
  /-- The bits next to the source, which mean nothing. -/
  reserved : Nat
  dataReference : Nat
  baseOffset : Nat
  /-- The extents, each with its index. -/
  extents : List (Nat × Extent)

/-- A location table with all that its bytes depend on. -/
structure Table where
  version : Nat
  flags : Nat
  /-- In the first version there is no index, but four bits in its width's place. -/
  widths : Widths
  rows : List Row

def Widths.toBytes (widths : Widths) : Bytes :=
  Bytes.ofNat 2 (((widths.offset * 16 + widths.length) * 16 + widths.base) * 16 + widths.index)

/-- An extent behind its index, which the first version does not have. -/
def extentBytes (version : Nat) (widths : Widths) (extent : Nat × Extent) : Bytes :=
  (if version = 0 then [] else Bytes.ofNat widths.index extent.1) ++
    (Bytes.ofNat widths.offset extent.2.offset ++ Bytes.ofNat widths.length extent.2.length)

namespace Row

variable (row : Row) (version : Nat) (widths : Widths)

/-- The bits that name the source, which the first version does not have. -/
def sourceBytes : Bytes :=
  if version = 0 then [] else Bytes.ofNat 2 (row.reserved * 16 + row.source.method)

def toBytes : Bytes :=
  Bytes.ofNat (numberWidth version) row.item ++ (row.sourceBytes version ++
    (Bytes.ofNat 2 row.dataReference ++ (Bytes.ofNat widths.base row.baseOffset ++
      (Bytes.ofNat 2 row.extents.length ++ row.extents.flatMap (extentBytes version widths)))))

/-- What a row says of its item. -/
def location : Location :=
  ⟨row.item, row.source, row.baseOffset, row.extents.map Prod.snd⟩

/-- Whether the fields of a row can hold its numbers. -/
structure Fits : Prop where
  item : row.item < Bytes.capacity (numberWidth version)
  /-- The first version knows the file only. -/
  source : version = 0 → row.source = .file
  reserved : version ≠ 0 → row.reserved < 4096
  dataReference : row.dataReference < Bytes.capacity 2
  baseOffset : row.baseOffset < Bytes.capacity widths.base
  count : row.extents.length < Bytes.capacity 2
  index : version ≠ 0 → ∀ extent ∈ row.extents, extent.1 < Bytes.capacity widths.index
  offset : ∀ extent ∈ row.extents, extent.2.offset < Bytes.capacity widths.offset
  length : ∀ extent ∈ row.extents, extent.2.length < Bytes.capacity widths.length

end Row

namespace Table

def toBytes (table : Table) : Bytes :=
  Bytes.ofNat 1 table.version ++ (Bytes.ofNat 3 table.flags ++ (table.widths.toBytes ++
    (Bytes.ofNat (numberWidth table.version) table.rows.length ++
      table.rows.flatMap fun row => row.toBytes table.version table.widths)))

def locations (table : Table) : List Location :=
  table.rows.map Row.location

/-- Whether a table is of a known version, and fields of up to eight bytes can hold its numbers. -/
structure Fits (table : Table) : Prop where
  version : table.version ≤ 2
  flags : table.flags < Bytes.capacity 3
  offset : table.widths.offset ≤ 8
  length : table.widths.length ≤ 8
  base : table.widths.base ≤ 8
  index : table.widths.index ≤ if table.version = 0 then 15 else 8
  count : table.rows.length < Bytes.capacity (numberWidth table.version)
  rows : ∀ row ∈ table.rows, row.Fits table.version table.widths

end Table

/-! ## Reading a table field by field -/

open Scan

variable {version width value : Nat} {widths : Widths} {row : Row} {table : Table}

theorem readsWhole_scanField (small : width ≤ 8) (fits : value < Bytes.capacity width) :
    ReadsWhole (scanField width) (Bytes.ofNat width value) value := by
  rw [scanField, if_neg (Nat.not_lt.mpr small)]
  exact .nat fits

/-- The widths with which a table is read, without one for indices in the first version. -/
def Widths.forVersion (widths : Widths) (version : Nat) : Widths :=
  { widths with index := if version = 0 then 0 else widths.index }

theorem readsWhole_scanExtent {extent : Nat × Extent} (offsetSmall : widths.offset ≤ 8)
    (lengthSmall : widths.length ≤ 8) (indexSmall : version ≠ 0 → widths.index ≤ 8)
    (index : version ≠ 0 → extent.1 < Bytes.capacity widths.index)
    (offset : extent.2.offset < Bytes.capacity widths.offset)
    (length : extent.2.length < Bytes.capacity widths.length) :
    ReadsWhole (scanExtent (widths.forVersion version)) (extentBytes version widths extent)
      extent.2 := by
  have readsIndex : ∃ found, ReadsWhole (scanField (widths.forVersion version).index)
      (if version = 0 then [] else Bytes.ofNat widths.index extent.1) found := by
    by_cases isFirst : version = 0
    · simp only [Widths.forVersion, if_pos isFirst]
      exact ⟨0, readsWhole_scanField (Nat.zero_le 8) (by decide : 0 < Bytes.capacity 0)⟩
    · simp only [Widths.forVersion, if_neg isFirst]
      exact ⟨extent.1, readsWhole_scanField (indexSmall isFirst) (index isFirst)⟩
  rcases readsIndex with ⟨found, readsIndex⟩
  refine readsIndex.bind (.bind (readsWhole_scanField offsetSmall offset) ?_)
  exact (readsWhole_scanField lengthSmall length).bind_pure (Extent.mk extent.2.offset)

theorem readsWhole_scanSource (source : version = 0 → row.source = .file)
    (reserved : version ≠ 0 → row.reserved < 4096) :
    ReadsWhole (scanSource version) (row.sourceBytes version) row.source := by
  unfold scanSource Row.sourceBytes
  by_cases isFirst : version = 0
  · rw [if_pos isFirst, if_pos isFirst, source isFirst]
    exact .pure Source.file
  · rw [if_neg isFirst, if_neg isFirst]
    have small := reserved isFirst
    have fits : row.reserved * 16 + row.source.method < Bytes.capacity 2 := by
      rw [Bytes.capacity_two]
      cases row.source <;> simp only [Source.method] <;> omega
    rw [← List.append_nil (Bytes.ofNat 2 _)]
    apply ReadsWhole.bind (.nat fits)
    cases row.source with
    | file =>
        have method : (row.reserved * 16 + Source.file.method) % 16 = 0 := by
          simp only [Source.method]
          omega
        rw [method]
        exact .pure Source.file
    | itemData =>
        have method : (row.reserved * 16 + Source.itemData.method) % 16 = 1 := by
          simp only [Source.method]
          omega
        rw [method]
        exact .pure Source.itemData

theorem idWidth_eq (known : version ≤ 2) : idWidth version = numberWidth version := by
  unfold idWidth numberWidth
  split <;> split <;> omega

theorem readsWhole_scanEntry (fits : table.Fits) (isMember : row ∈ table.rows) :
    ReadsWhole (scanEntry table.version (table.widths.forVersion table.version))
      (row.toBytes table.version table.widths) row.location := by
  have rowFits := fits.rows row isMember
  have indexSmall (notFirst : table.version ≠ 0) : table.widths.index ≤ 8 := by
    have index := fits.index
    rwa [if_neg notFirst] at index
  have readsExtents := ReadsWhole.times fun extent (isExtent : extent ∈ row.extents) =>
    readsWhole_scanExtent fits.offset fits.length indexSmall
      (fun notFirst => rowFits.index notFirst extent isExtent) (rowFits.offset extent isExtent)
      (rowFits.length extent isExtent)
  unfold scanEntry
  rw [idWidth_eq fits.version]
  refine .bind (.nat rowFits.item) ?_
  refine .bind (readsWhole_scanSource rowFits.source rowFits.reserved) ?_
  refine .bind (.nat rowFits.dataReference) ?_
  refine .bind (readsWhole_scanField fits.base rowFits.baseOffset) ?_
  refine .bind (.nat rowFits.count) ?_
  exact readsExtents.bind_pure (Location.mk row.item row.source row.baseOffset)

theorem Widths.ofWord_eq (fits : table.Fits) :
    Widths.ofWord table.version (((table.widths.offset * 16 + table.widths.length) * 16 +
      table.widths.base) * 16 + table.widths.index) = table.widths.forVersion table.version := by
  have length := fits.length
  have base := fits.base
  have index : table.widths.index ≤ 15 := by
    have index := fits.index
    split at index <;> omega
  simp only [ofWord, forVersion, Widths.mk.injEq]
  refine ⟨by omega, by omega, by omega, ?_⟩
  split
  · rfl
  · omega

theorem readsWhole_scanTable (fits : table.Fits) :
    ReadsWhole scanTable table.toBytes table.locations := by
  have version : table.version < Bytes.capacity 1 :=
    Nat.lt_of_le_of_lt fits.version (by decide)
  have widths : ((table.widths.offset * 16 + table.widths.length) * 16 + table.widths.base) * 16 +
      table.widths.index < Bytes.capacity 2 := by
    have offset := fits.offset
    have length := fits.length
    have base := fits.base
    have index := fits.index
    rw [Bytes.capacity_two]
    split at index <;> omega
  refine .bind (.nat version) ?_
  refine .bind (.nat fits.flags) ?_
  rw [if_neg (Nat.not_lt.mpr fits.version)]
  refine .bind (.nat widths) ?_
  rw [Widths.ofWord_eq fits, idWidth_eq fits.version]
  exact .bind (.nat fits.count) (.times fun row isMember => readsWhole_scanEntry fits isMember)

/-- How a table is read from its bytes. -/
structure Table.IsReadBack (table : Table) : Prop where
  /-- Whatever follows the table is left. -/
  whole : ∀ after, scanTable (table.toBytes ++ after) = .ok (table.locations, after)
  /-- A table that is cut off anywhere is refused. -/
  cut : ∀ part, part <+: table.toBytes → part ≠ table.toBytes → scanTable part = .error truncated
  /-- Other versions and widths make no difference. -/
  independent : ∀ other : Table, other.Fits → other.locations = table.locations →
    ∀ after behind, scanTable.run' (table.toBytes ++ after) =
      scanTable.run' (other.toBytes ++ behind)

/-- Every table whose fields can hold its numbers is read back as a whole, and only as a whole. -/
theorem Table.isReadBack_of_fits (fits : table.Fits) : table.IsReadBack := by
  have readsTable := readsWhole_scanTable fits
  constructor
  · exact readsTable.reads
  · intro part isPart different
    have short : part.length < table.toBytes.length :=
      Nat.lt_of_le_of_ne isPart.length_le fun same => different (isPart.eq_of_length same)
    rw [List.prefix_iff_eq_take.mp isPart]
    exact readsTable.demands part.length short
  · intro other otherFits same after behind
    rw [readsTable.reads.run'_append, (readsWhole_scanTable otherFits).reads.run'_append, same]

/-- One item in the file and one in a box of its own, with all fields that there can be. -/
def fullTable : Table where
  version := 2
  flags := 0
  widths := ⟨8, 4, 1, 2⟩
  rows := [⟨70000, .file, 0, 0, 255, [(1, ⟨0x10000000000, 16⟩), (2, ⟨0, 0⟩)]⟩,
    ⟨2, .itemData, 4095, 1, 0, [(0, ⟨1, 3⟩)]⟩]

theorem isReadBack_fullTable : fullTable.Fits ∧ fullTable.IsReadBack := by
  have fits : fullTable.Fits := by
    constructor
    case rows =>
      intro row isMember
      simp only [fullTable, List.mem_cons, List.not_mem_nil, or_false] at isMember
      rcases isMember with rfl | rfl
      all_goals constructor <;> decide
    all_goals decide
  exact ⟨fits, Table.isReadBack_of_fits fits⟩

/-- Three bytes in a box of their own, behind the first one there. -/
example : Table.toBytes ⟨1, 0, ⟨4, 4, 0, 0⟩, [⟨1, .itemData, 0, 0, 0, [(0, ⟨1, 3⟩)]⟩]⟩ =
    [1, 0, 0, 0, 0x44, 0x00, 0, 1, 0, 1, 0, 1, 0, 0, 0, 1, 0, 0, 0, 1, 0, 0, 0, 3] := by
  decide

end Location

end Item

end AvifStill
