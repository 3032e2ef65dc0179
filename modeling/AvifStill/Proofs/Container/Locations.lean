import AvifStill.Container.Writer
import AvifStill.Payload.Table
import AvifStill.Proofs.BoxSequence

/-!
# The written location table

A written file stores the data of its items back to back and lists for each item where that is. Both
readers read this table back: one location for each item, with one extent that has the item's length.
-/

namespace AvifStill

namespace Payload.Window

open Scan

theorem reads_skip {count : Nat} {front : Bytes} (size : front.length = count) :
    Reads (skip count) front () :=
  (Reads.bytes .container size).bind_pure fun _ => ()

theorem reads_require {condition : Bool} (holds : condition = true) :
    Reads (require condition) [] () := by
  rw [require, if_pos holds]
  exact Reads.pure ()

theorem reads_nat {width value : Nat} (fits : value < Bytes.capacity width) :
    Reads (nat width) (Bytes.ofNat width value) value :=
  Reads.nat .container fits

theorem reads_natOfBytes {width : Nat} {front : Bytes} (size : front.length = width) :
    Reads (nat width) front front.toNat :=
  Reads.natOfBytes .container size

end Payload.Window

namespace Container

open Item Scan Payload.Window

/-- A stored item with its position in the file. -/
structure Placed where
  stored : Stored
  position : Nat

namespace Placed

def toBytes (placed : Placed) : Bytes :=
  Bytes.ofNat 2 placed.stored.item ++ (Bytes.ofNat 2 0 ++ (Bytes.ofNat 2 1 ++
    (Bytes.ofNat 4 placed.position ++ Bytes.ofNat 4 placed.stored.data.length)))

/-- The one extent of a stored item. -/
def extent (placed : Placed) : Extent :=
  ⟨placed.position, placed.stored.data.length⟩

def location (placed : Placed) : Location :=
  ⟨placed.stored.item, .file, 0, [placed.extent]⟩

/-- Whether the fields of the table can hold an item's number, position and length. -/
structure Fits (placed : Placed) : Prop where
  item : placed.stored.item < Bytes.capacity 2
  position : placed.position < Bytes.capacity 4
  length : placed.stored.data.length < Bytes.capacity 4

end Placed

/-- Items stored back to back from a position on. -/
def place : Nat → List Stored → List Placed
  | _, [] => []
  | position, stored :: others => ⟨stored, position⟩ :: place (position + stored.data.length) others

@[simp]
theorem length_place (start : Nat) (items : List Stored) : (place start items).length = items.length := by
  induction items generalizing start with
  | nil => rfl
  | cons stored others ih => simp [place, ih]

/-- The data between the start and an item's position is that of the items before it. -/
theorem exists_of_mem_place {start : Nat} {items : List Stored} {placed : Placed}
    (isMember : placed ∈ place start items) :
    ∃ before after, items = before ++ placed.stored :: after ∧
      placed.position = start + (before.flatMap (·.data)).length := by
  induction items generalizing start with
  | nil => cases isMember
  | cons stored others ih =>
      rcases List.mem_cons.mp isMember with rfl | isOther
      · exact ⟨[], others, rfl, rfl⟩
      · rcases ih isOther with ⟨before, after, split, position⟩
        refine ⟨stored :: before, after, ?_, ?_⟩
        · rw [split, List.cons_append]
        · rw [position, List.flatMap_cons, List.length_append, Nat.add_assoc]

theorem foldl_locations (items : List Stored) (written : Bytes) (position : Nat) :
    (items.foldl
      (fun (written, position) stored =>
        (written ++ Bytes.ofNat 2 stored.item ++ Bytes.ofNat 2 0 ++ Bytes.ofNat 2 1 ++
          Bytes.ofNat 4 position ++ Bytes.ofNat 4 stored.data.length,
          position + stored.data.length))
      (written, position)).1 = written ++ (place position items).flatMap Placed.toBytes := by
  induction items generalizing written position with
  | nil => simp [place]
  | cons stored others ih =>
      rw [List.foldl_cons]
      refine (ih _ _).trans ?_
      simp only [place, List.flatMap_cons, Placed.toBytes, List.append_assoc]

theorem content_locationsBox (items : List Stored) (start : Nat) :
    (locationsBox items start).content = [0] ++ ([0, 0, 0] ++ ([0x44, 0x00] ++
      (Bytes.ofNat 2 items.length ++ (place start items).flatMap Placed.toBytes))) := by
  rw [← List.nil_append (List.flatMap _ _), ← foldl_locations]
  simp [locationsBox, Box.full]

/-- The widths of the fields that are written. -/
def writtenWidths : Location.Widths := ⟨4, 4, 0, 0⟩

theorem reads_scanField_zero : Reads (Location.scanField 0) [] 0 :=
  Reads.natOfBytes truncated rfl

theorem reads_scanExtent {placed : Placed} (fits : placed.Fits) :
    Reads (Location.scanExtent writtenWidths)
      (Bytes.ofNat 4 placed.position ++ Bytes.ofNat 4 placed.stored.data.length) placed.extent := by
  refine Reads.bind_nothing reads_scanField_zero ?_
  refine Reads.bind (Reads.nat truncated fits.position) ?_
  exact (Reads.nat truncated fits.length).bind_pure (Extent.mk placed.position)

theorem reads_scanEntry {placed : Placed} (fits : placed.Fits) :
    Reads (Location.scanEntry 0 writtenWidths) placed.toBytes placed.location := by
  have readsExtents := Reads.times fun _ (_ : _ ∈ [()]) => reads_scanExtent fits
  simp only [List.length_singleton, List.flatMap_singleton, List.map_singleton] at readsExtents
  refine Reads.bind (Reads.nat truncated fits.item) ?_
  refine Reads.bind_nothing (Reads.pure Source.file) ?_
  refine Reads.bind (Reads.nat truncated (by decide : 0 < Bytes.capacity 2)) ?_
  refine Reads.bind_nothing reads_scanField_zero ?_
  refine Reads.bind (Reads.nat truncated (by decide : 1 < Bytes.capacity 2)) ?_
  exact readsExtents.bind_pure (Location.mk placed.stored.item .file 0)

theorem reads_locations {items : List Stored} (start : Nat)
    (count : items.length < Bytes.capacity 2) (fits : ∀ placed ∈ place start items, placed.Fits) :
    Reads Location.scanTable (locationsBox items start).content
      ((place start items).map Placed.location) := by
  have readsEntries := Reads.times fun placed isMember => reads_scanEntry (fits placed isMember)
  rw [length_place] at readsEntries
  rw [content_locationsBox]
  refine Reads.bind (Reads.natOfBytes truncated rfl) ?_
  refine Reads.bind (Reads.natOfBytes truncated rfl) ?_
  refine Reads.bind (Reads.natOfBytes truncated rfl) ?_
  exact (Reads.nat truncated count).bind readsEntries

theorem reads_strictExtent {placed : Placed} (fits : placed.Fits) :
    Reads (Payload.Table.scanExtent writtenWidths 0)
      (Bytes.ofNat 4 placed.position ++ Bytes.ofNat 4 placed.stored.data.length) placed.extent := by
  have position := fits.position
  have length := fits.length
  rw [Bytes.capacity_four] at position length
  have inRange : (decide (0 + placed.position < UInt64.size) &&
      (placed.stored.data.length == 0 ||
        decide (0 + placed.position + placed.stored.data.length < UInt64.size))) = true := by
    simp only [UInt64.size, Bool.and_eq_true, Bool.or_eq_true, decide_eq_true_eq]
    exact ⟨by omega, Or.inr (by omega)⟩
  refine Reads.bind_nothing (reads_skip rfl) ?_
  refine Reads.bind (reads_nat fits.position) ?_
  rw [← List.append_nil (Bytes.ofNat 4 placed.stored.data.length)]
  refine Reads.bind (reads_nat fits.length) ?_
  exact Reads.bind_nothing (reads_require inRange) (Reads.pure placed.extent)

theorem reads_strictLocation {placed : Placed} (fits : placed.Fits) :
    Reads (Payload.Table.scanLocation 0 writtenWidths) placed.toBytes placed.location := by
  have readsExtents := Reads.times fun _ (_ : _ ∈ [()]) => reads_strictExtent fits
  simp only [List.length_singleton, List.flatMap_singleton, List.map_singleton] at readsExtents
  refine Reads.bind (reads_nat fits.item) ?_
  refine Reads.bind_nothing (Reads.pure Source.file) ?_
  refine Reads.bind (reads_nat (by decide : 0 < Bytes.capacity 2)) ?_
  refine Reads.bind_nothing (reads_require rfl) ?_
  refine Reads.bind_nothing (reads_natOfBytes (rfl : ([] : Bytes).length = 0)) ?_
  refine Reads.bind (reads_nat (by decide : 1 < Bytes.capacity 2)) ?_
  refine Reads.bind_nothing (reads_require rfl) ?_
  exact readsExtents.bind_pure (Location.mk placed.stored.item .file 0)

theorem strict_locations {items : List Stored} (start : Nat)
    (count : items.length < Bytes.capacity 2) (fits : ∀ placed ∈ place start items, placed.Fits) :
    Payload.Table.scanLocations (locationsBox items start).content =
      .ok ((place start items).map Placed.location, []) := by
  have readsEntries := Reads.times fun placed isMember => reads_strictLocation (fits placed isMember)
  rw [length_place] at readsEntries
  rw [content_locationsBox]
  refine Reads.bind_rest (reads_natOfBytes rfl) ?_
  refine Reads.bind_rest (reads_skip rfl) ?_
  refine Reads.bind_nothing_rest (reads_require rfl) ?_
  refine Reads.bind_rest (reads_natOfBytes rfl) ?_
  refine Reads.bind_nothing_rest (reads_require rfl) ?_
  refine Reads.bind_rest (reads_nat count) ?_
  rw [← List.append_nil (List.flatMap _ _)]
  exact Reads.bind_rest readsEntries rfl

end Container

end AvifStill
