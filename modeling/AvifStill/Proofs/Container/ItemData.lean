import AvifStill.Item.Directory
import AvifStill.Proofs.Reading
import Mathlib.Data.List.Forall2

/-!
# The data of items

The extents of an item may name any positions of 64 bits, and one without a length runs to the end of
its source. An item has data exactly if it has a location and every extent of its first one lies
inside the source. The data is then what the extents name, one after another, so nothing from outside
of the source is ever handed out.
-/

namespace AvifStill

/-- Steps that are taken for each item succeed one by one. -/
theorem mapM_eq_ok_iff {α β : Type} {step : α → Except Fault β} {items : List α}
    {results : List β} :
    items.mapM step = .ok results ↔
      List.Forall₂ (fun item result => step item = .ok result) items results := by
  induction items generalizing results with
  | nil => simp [pure, Except.pure, eq_comm]
  | cons item items ih =>
      rw [List.mapM_cons, List.forall₂_cons_left_iff]
      constructor
      · intro done
        rcases done_of_bind done with ⟨result, first, done⟩
        rcases done_of_bind done with ⟨others, rest, done⟩
        cases done
        exact ⟨result, others, first, ih.mp rest, rfl⟩
      · rintro ⟨result, others, first, rest, rfl⟩
        rw [bind_of_done first, bind_of_done (ih.mpr rest)]
        rfl

theorem exists_forall₂ {α β : Type} {relation : α → β → Prop} {items : List α}
    (each : ∀ item ∈ items, ∃ result, relation item result) :
    ∃ results, List.Forall₂ relation items results := by
  induction items with
  | nil => exact ⟨[], .nil⟩
  | cons item items ih =>
      rcases each item (List.mem_cons_self ..) with ⟨result, first⟩
      rcases ih fun other isMember => each other (List.mem_cons_of_mem item isMember) with
        ⟨results, others⟩
      exact ⟨result :: results, .cons first others⟩

namespace Bytes

/-- Whether a piece is what lies between two positions of a byte string. -/
def IsRange (source : Bytes) (start stop : Nat) (piece : Bytes) : Prop :=
  ∃ before after, source = before ++ (piece ++ after) ∧ before.length = start ∧
    start + piece.length = stop

variable {source piece : Bytes} {start stop : Nat}

theorem slice?_eq_some_iff :
    source.slice? start stop = some piece ↔ source.IsRange start stop piece := by
  constructor
  · intro sliced
    unfold slice? at sliced
    split at sliced
    · rename_i inside
      have bounded := hasAtLeast_iff.mp inside.2
      cases sliced
      refine ⟨source.take start, (source.drop start).drop (stop - start), ?_, ?_, ?_⟩
      · simp only [List.take_append_drop]
      · simp only [List.length_take]
        omega
      · simp only [List.length_take, List.length_drop]
        omega
    · cases sliced
  · rintro ⟨before, after, rfl, rfl, rfl⟩
    exact slice?_append before piece after

theorem exists_isRange_iff :
    (∃ piece, source.IsRange start stop piece) ↔ start ≤ stop ∧ stop ≤ source.length := by
  constructor
  · rintro ⟨piece, before, after, rfl, rfl, rfl⟩
    simp only [List.length_append]
    omega
  · rintro ⟨ordered, bounded⟩
    have inside : start ≤ stop ∧ source.hasAtLeast stop := ⟨ordered, hasAtLeast_iff.mpr bounded⟩
    exact ⟨_, slice?_eq_some_iff.mp (if_pos inside)⟩

end Bytes

namespace Item

/-- The byte string that a source stands for. -/
def Source.bytes (source : Source) (file itemData : Bytes) : Bytes :=
  match source with
  | .file => file
  | .itemData => itemData

namespace Extent

def start (extent : Extent) (base : Nat) : Nat :=
  base + extent.offset

/-- The end of an extent in a source of a given size. -/
def stop (extent : Extent) (base size : Nat) : Nat :=
  if extent.length = 0 then size else extent.start base + extent.length

/-- Whether an extent lies inside a source of a given size, with positions of 64 bits. -/
structure IsInside (extent : Extent) (base size : Nat) : Prop where
  startFits : extent.start base < UInt64.size
  stopFits : extent.length ≠ 0 → extent.start base + extent.length < UInt64.size
  ordered : extent.start base ≤ extent.stop base size
  bounded : extent.stop base size ≤ size

/-- Whether a piece is what an extent names in a source. -/
def Names (extent : Extent) (base : Nat) (source piece : Bytes) : Prop :=
  source.IsRange (extent.start base) (extent.stop base source.length) piece

variable {extent : Extent} {base : Nat} {source piece : Bytes}

theorem exists_names (inside : extent.IsInside base source.length) :
    ∃ piece, extent.Names base source piece :=
  Bytes.exists_isRange_iff.mpr ⟨inside.ordered, inside.bounded⟩

theorem extentData_eq_ok_iff :
    Location.extentData source base extent = .ok piece ↔
      extent.IsInside base source.length ∧ extent.Names base source piece := by
  unfold Location.extentData
  simp only
  split
  · rename_i tooFar
    simp only [reduceCtorEq, false_iff]
    rintro ⟨inside, -⟩
    exact absurd inside.startFits (Nat.not_lt.mpr tooFar)
  rename_i startFits
  split
  · rename_i tooLong
    simp only [reduceCtorEq, false_iff]
    rintro ⟨inside, -⟩
    exact absurd (inside.stopFits tooLong.1) (Nat.not_lt.mpr tooLong.2)
  rename_i stopFits
  -- The positions are words of 64 bits now, so only the range is left to decide.
  have fits : extent.Names base source piece → extent.IsInside base source.length := by
    intro names
    rcases Bytes.exists_isRange_iff.mp ⟨piece, names⟩ with ⟨ordered, bounded⟩
    refine ⟨Nat.not_le.mp startFits, ?_, ordered, bounded⟩
    intro hasLength
    exact Nat.not_le.mp fun tooLong => stopFits ⟨hasLength, tooLong⟩
  rw [and_iff_right_of_imp fits]
  split
  · rename_i found
    rw [Names, ← Bytes.slice?_eq_some_iff]
    simp only [stop, start, found, Except.ok.injEq, Option.some.injEq]
  · rename_i missing
    rw [Names, ← Bytes.slice?_eq_some_iff]
    simp only [stop, start, missing, reduceCtorEq]

end Extent

namespace Location

/-- Whether all extents of a location lie inside of its source. -/
def IsInside (location : Location) (file itemData : Bytes) : Prop :=
  ∀ extent ∈ location.extents,
    extent.IsInside location.baseOffset (location.source.bytes file itemData).length

/-- Whether data is what the extents of a location name, one after another. -/
def Names (location : Location) (file itemData data : Bytes) : Prop :=
  ∃ pieces, List.Forall₂ (fun extent piece =>
    extent.Names location.baseOffset (location.source.bytes file itemData) piece)
      location.extents pieces ∧ data = pieces.flatten

variable {location : Location} {file itemData bytes : Bytes}

theorem data_eq_ok_iff :
    location.data file itemData = .ok bytes ↔
      location.IsInside file itemData ∧ location.Names file itemData bytes := by
  have gathered (pieces : List Bytes) :
      location.extents.mapM (extentData (location.source.bytes file itemData) location.baseOffset) =
          .ok pieces ↔
        location.IsInside file itemData ∧ List.Forall₂ (fun extent piece =>
          extent.Names location.baseOffset (location.source.bytes file itemData) piece)
            location.extents pieces := by
    rw [mapM_eq_ok_iff, IsInside, ← List.forall₂_and_left]
    simp only [Extent.extentData_eq_ok_iff]
  constructor
  · intro done
    rcases done_of_bind done with ⟨pieces, found, done⟩
    cases done
    rcases (gathered pieces).mp found with ⟨inside, names⟩
    exact ⟨inside, pieces, names, rfl⟩
  · rintro ⟨inside, pieces, names, rfl⟩
    exact bind_of_done ((gathered pieces).mpr ⟨inside, names⟩)

theorem exists_names (inside : location.IsInside file itemData) :
    ∃ bytes, location.Names file itemData bytes := by
  rcases exists_forall₂ fun extent isMember => Extent.exists_names (inside extent isMember) with
    ⟨pieces, names⟩
  exact ⟨pieces.flatten, pieces, names, rfl⟩

end Location

namespace Directory

/-- Whether a location is the first one of an item. -/
def Locates (directory : Directory) (item : Nat) (location : Location) : Prop :=
  ∃ before after, directory.locations = before ++ location :: after ∧ location.item = item ∧
    ∀ other ∈ before, other.item ≠ item

variable {directory : Directory} {item : Nat} {location : Location}

theorem find?_eq_some_iff :
    (directory.locations.find? fun location => location.item == item) = some location ↔
      directory.Locates item location := by
  rw [List.find?_eq_some_iff_append, Locates]
  simp only [beq_iff_eq, Bool.not_eq_true', beq_eq_false_iff_ne]
  constructor
  · rintro ⟨isItem, before, after, apart, others⟩
    exact ⟨before, after, apart, isItem, others⟩
  · rintro ⟨before, after, apart, isItem, others⟩
    exact ⟨isItem, before, after, apart, others⟩

theorem data_eq_ok_iff {file bytes : Bytes} :
    directory.data file item = .ok bytes ↔
      ∃ location, directory.Locates item location ∧
        location.IsInside file directory.itemData ∧
          location.Names file directory.itemData bytes := by
  unfold data
  simp only [← find?_eq_some_iff, ← Location.data_eq_ok_iff]
  split
  · rename_i location found
    simp [found]
  · rename_i missing
    simp [missing]

/--
The data of an item exists exactly if it has a location and all extents of its first location lie
inside their source, and it is what these extents name there, one after another.
-/
theorem exists_data_iff (directory : Directory) (file : Bytes) (item : Nat) :
    ((∃ bytes, directory.data file item = .ok bytes) ↔
      ∃ location, directory.Locates item location ∧
        location.IsInside file directory.itemData) ∧
    ∀ bytes, directory.data file item = .ok bytes ↔
      ∃ location, directory.Locates item location ∧
        location.IsInside file directory.itemData ∧
          location.Names file directory.itemData bytes := by
  refine ⟨?_, fun bytes => data_eq_ok_iff⟩
  constructor
  · rintro ⟨bytes, done⟩
    rcases data_eq_ok_iff.mp done with ⟨location, locates, inside, -⟩
    exact ⟨location, locates, inside⟩
  · rintro ⟨location, locates, inside⟩
    rcases location.exists_names inside with ⟨bytes, names⟩
    exact ⟨bytes, data_eq_ok_iff.mpr ⟨location, locates, inside, names⟩⟩

end Directory

end Item

end AvifStill
