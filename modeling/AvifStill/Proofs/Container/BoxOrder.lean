import AvifStill.Item.Directory
import AvifStill.Proofs.Segments
import Mathlib.Data.List.Nodup
import Mathlib.Tactic.SplitIfs

/-!
# The order of the boxes of a directory

The boxes of a directory may come in any order. What a box says does not depend on what was read
before it, and what boxes of different kinds say goes to different places, so the parts can be taken
in in any order as long as no kind is repeated. Boxes of other kinds say nothing and may stand
anywhere.
-/

namespace AvifStill

namespace Item.Directory

open Box

/-- What a box says about the items, whatever else is known of them. -/
inductive Part where
  | handler
  | primary (item : Nat)
  | locations (locations : List Location)
  | entries (entries : List Entry)
  | references (references : List Reference)
  | table (table : PropertyTable)
  | itemData (data : Bytes)
  | nothing

namespace Part

/-- The kind of the boxes that say such a thing. -/
def kind? : Part → Option FourCC
  | handler => some .hdlr
  | primary _ => some .pitm
  | locations _ => some .iloc
  | entries _ => some .iinf
  | references _ => some .iref
  | table _ => some .iprp
  | itemData _ => some .idat
  | nothing => none

def ofBox (box : Box) : Except Fault Part :=
  if box.kind = .hdlr then (fun _ => handler) <$> scanHandler.run' box.content
  else if box.kind = .pitm then primary <$> scanPrimary.run' box.content
  else if box.kind = .iloc then locations <$> Location.scanTable.run' box.content
  else if box.kind = .iinf then entries <$> Entry.scanTable.run' box.content
  else if box.kind = .iref then references <$> Reference.scanTable.run' box.content
  else if box.kind = .iprp then table <$> PropertyTable.read box.content
  else if box.kind = .idat then itemData <$> .ok box.content
  else .ok nothing

end Part

/-- The kinds of boxes that say something about the items. -/
def kinds : List FourCC :=
  [.hdlr, .pitm, .iloc, .iinf, .iref, .iprp, .idat]
namespace Part

theorem kind?_of_map {α : Type} {first : Except Fault α} {make : α → Part} {part : Part}
    {kind : FourCC} (isKind : ∀ value, (make value).kind? = some kind)
    (done : make <$> first = .ok part) : part.kind? = some kind := by
  cases first with
  | error fault => cases done
  | ok value =>
      cases done
      exact isKind value

theorem kind?_of_ofBox {box : Box} {part : Part} (tells : box.kind ∈ kinds)
    (done : ofBox box = .ok part) : part.kind? = some box.kind := by
  rcases box with ⟨kind, content⟩
  simp only [kinds, List.mem_cons, List.not_mem_nil, or_false] at tells
  rcases tells with rfl | rfl | rfl | rfl | rfl | rfl | rfl <;>
    exact kind?_of_map (fun _ => rfl) done

theorem ofBox_silent {box : Box} (silent : box.kind ∉ kinds) : ofBox box = .ok nothing := by
  simp only [kinds, List.mem_cons, List.not_mem_nil, or_false, not_or] at silent
  simp [ofBox, silent]

end Part

namespace Progress

def add (progress : Progress) : Part → Progress
  | .handler => { progress with hasHandler := true }
  | .primary item => { progress with directory.primary := item }
  | .locations locations => { progress with directory.locations := locations }
  | .entries entries => { progress with directory.entries := entries }
  | .references references => { progress with directory.references := references }
  | .table table =>
      { progress with directory.table := progress.directory.table.append table }
  | .itemData data => { progress with directory.itemData := data }
  | .nothing => progress

theorem add_swap {first second : Part} (differ : first.kind? = second.kind? → first = second)
    (progress : Progress) : (progress.add first).add second = (progress.add second).add first := by
  -- Things of different kinds go to different fields, those of one kind are the same thing.
  cases first <;> cases second <;> first | rfl | (cases differ rfl; rfl)

end Progress

theorem step_eq (progress : Progress) (box : Box) :
    step progress box = progress.add <$> Part.ofBox box := by
  unfold step Part.ofBox
  split_ifs
  · cases scanHandler.run' box.content <;> rfl
  · cases scanPrimary.run' box.content <;> rfl
  · cases Location.scanTable.run' box.content <;> rfl
  · cases Entry.scanTable.run' box.content <;> rfl
  · cases Reference.scanTable.run' box.content <;> rfl
  · cases PropertyTable.read box.content <;> rfl
  · rfl
  · rfl

namespace Part

/-- What a box says; a box that cannot be read says nothing. -/
def told (box : Box) : Part :=
  (ofBox box).toOption.getD nothing

theorem told_silent {box : Box} (silent : box.kind ∉ kinds) : told box = nothing := by
  simp [told, ofBox_silent silent, Except.toOption]

theorem told_cases (box : Box) : told box = nothing ∨ (told box).kind? = some box.kind := by
  by_cases tells : box.kind ∈ kinds
  · cases read : ofBox box with
    | error fault => simp [told, read, Except.toOption]
    | ok part => simp [told, read, Except.toOption, kind?_of_ofBox tells read]
  · exact Or.inl (told_silent tells)

/-- Boxes of different kinds say different kinds of things. -/
theorem told_eq {first second : Box} (differ : first.kind = second.kind → first = second)
    (same : (told first).kind? = (told second).kind?) : told first = told second := by
  rcases told_cases first with isNothing | isFirst
  · rcases told_cases second with isOther | isSecond
    · rw [isNothing, isOther]
    · rw [isNothing, isSecond] at same
      cases same
  · rcases told_cases second with isOther | isSecond
    · rw [isOther, isFirst] at same
      cases same
    · rw [isFirst, isSecond] at same
      rw [differ (Option.some.inj same)]

end Part

/-- Whether a box can be read. -/
def Readable (box : Box) : Prop :=
  ∃ part, Part.ofBox box = .ok part

theorem step_eq_ok_iff {progress next : Progress} {box : Box} :
    step progress box = .ok next ↔ Readable box ∧ progress.add (.told box) = next := by
  rw [step_eq, Readable, Part.told]
  cases Part.ofBox box with
  | error fault => simp [Functor.map, Except.map]
  | ok part => simp [Functor.map, Except.map, Except.toOption]

/-- All that boxes say. -/
def said (boxes : List Box) : Progress :=
  boxes.foldl (fun progress box => progress.add (.told box)) ⟨.empty, false⟩

theorem said_filter (boxes : List Box) :
    said (boxes.filter fun box => box.kind ∈ kinds) = said boxes := by
  rw [said, said, List.foldl_filter]
  congr
  funext progress box
  split
  · rfl
  · rename_i silent
    rw [Part.told_silent (by simpa using silent)]
    rfl

theorem said_perm {boxes others : List Box} (once : (boxes.map kind).Nodup)
    (same : boxes.Perm others) : said boxes = said others := by
  apply same.foldl_eq'
  intro first isFirst second isSecond progress
  apply Progress.add_swap
  exact Part.told_eq (List.inj_on_of_nodup_map once isFirst isSecond)

theorem read_eq_ok_iff {head : Bytes} {segments : List Segment} {directory : Directory}
    (sized : head.length = 4) (closed : ∀ segment ∈ segments, segment.IsClosed) :
    read (head ++ segments.flatMap Segment.toBytes) = .ok directory ↔
      (∀ box ∈ segments.map Segment.box, Readable box) ∧
        said (segments.map Segment.box) = ⟨directory, true⟩ := by
  have whole : split (segments.flatMap Segment.toBytes) = ⟨segments.map Segment.box, none⟩ := by
    apply Segment.split_flatMap
    exact Segment.areClosed_of_forall closed
  have folded (final : Progress) :
      (split (segments.flatMap Segment.toBytes)).foldM step ⟨.empty, false⟩ = .ok final ↔
        (∀ box ∈ segments.map Segment.box, Readable box) ∧
          said (segments.map Segment.box) = final := by
    rw [whole, Sequence.foldM_none]
    apply foldlM_eq_ok_iff fun _ => True
    · intro progress box next _
      exact step_eq_ok_iff
    · intro progress box _
      trivial
    · trivial
  rw [read, bind_of_done (Scan.bytes_append truncated _ sized)]
  constructor
  · intro done
    rcases done_of_bind done with ⟨⟨found, hasHandler⟩, isFound, finish⟩
    rcases (folded _).mp isFound with ⟨readable, isSaid⟩
    simp only at finish
    split at finish
    · rename_i isTrue
      cases finish
      exact ⟨readable, isTrue ▸ isSaid⟩
    · cases finish
  · intro readable
    exact bind_of_done ((folded _).mpr readable)

/-- The boxes that say something about the items. -/
def telling (segments : List Segment) : List Box :=
  (segments.map Segment.box).filter fun box => box.kind ∈ kinds

theorem readable_telling_iff {segments : List Segment} :
    (∀ box ∈ segments.map Segment.box, Readable box) ↔ ∀ box ∈ telling segments, Readable box := by
  constructor
  · intro readable box isMember
    exact readable box (List.mem_of_mem_filter isMember)
  · intro readable box isMember
    by_cases tells : box.kind ∈ kinds
    · exact readable box (List.mem_filter.mpr ⟨isMember, by simpa using tells⟩)
    · exact ⟨.nothing, Part.ofBox_silent tells⟩

/--
Two sequences of boxes make the same directory if the boxes that say something are the same, in
whatever order they come and whatever other boxes come between them.
-/
theorem read_eq_ok_iff_of_perm {head : Bytes} {first second : List Segment}
    (sized : head.length = 4) (firstClosed : ∀ segment ∈ first, segment.IsClosed)
    (secondClosed : ∀ segment ∈ second, segment.IsClosed)
    (once : ((telling first).map kind).Nodup) (same : (telling first).Perm (telling second))
    (directory : Directory) :
    read (head ++ first.flatMap Segment.toBytes) = .ok directory ↔
      read (head ++ second.flatMap Segment.toBytes) = .ok directory := by
  have isSaid : said (first.map Segment.box) = said (second.map Segment.box) := by
    rw [← said_filter, ← said_filter (second.map Segment.box)]
    exact said_perm once same
  rw [read_eq_ok_iff sized firstClosed, read_eq_ok_iff sized secondClosed,
    readable_telling_iff, readable_telling_iff, isSaid]
  apply and_congr_left'
  exact forall_congr' fun box => imp_congr_left same.mem_iff

/-- A handler, the number of the image in a box with a 64-bit size, and data of items. -/
def handlerFirst : List Segment :=
  [⟨⟨.hdlr, List.replicate 8 0 ++ FourCC.pict.toBytes⟩, .short, [], by decide, by decide⟩,
    ⟨⟨.pitm, [0, 0, 0, 0, 0, 7]⟩, .wide, [], by decide, by decide⟩,
    ⟨⟨.idat, [1, 2]⟩, .short, [], by decide, by decide⟩]

/-- The same in reverse, with a box of an extended type in between. -/
def handlerLast : List Segment :=
  [⟨⟨.idat, [1, 2]⟩, .short, [], by decide, by decide⟩,
    ⟨⟨.uuid, [9]⟩, .wide, List.replicate 16 5, by decide, by decide⟩,
    ⟨⟨.pitm, [0, 0, 0, 0, 0, 7]⟩, .wide, [], by decide, by decide⟩,
    ⟨⟨.hdlr, List.replicate 8 0 ++ FourCC.pict.toBytes⟩, .short, [], by decide, by decide⟩]

theorem read_handlerLast : (∀ segment ∈ handlerFirst, segment.IsClosed) ∧
    (∀ segment ∈ handlerLast, segment.IsClosed) ∧ ((telling handlerFirst).map kind).Nodup ∧
      (telling handlerFirst).Perm (telling handlerLast) ∧
        read ([0, 0, 0, 0] ++ handlerLast.flatMap Segment.toBytes) =
          .ok ⟨7, [], [], [], .empty, [1, 2]⟩ := by
  have firstClosed : ∀ segment ∈ handlerFirst, segment.IsClosed := by decide
  have lastClosed : ∀ segment ∈ handlerLast, segment.IsClosed := by decide
  have once : ((telling handlerFirst).map kind).Nodup := by decide
  have same : (telling handlerFirst).Perm (telling handlerLast) := by decide
  refine ⟨firstClosed, lastClosed, once, same, ?_⟩
  apply (read_eq_ok_iff_of_perm rfl firstClosed lastClosed once same _).mp
  exact ok_of_toOption (by decide +kernel)

end Item.Directory

end AvifStill
