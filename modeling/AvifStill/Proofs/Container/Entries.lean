import AvifStill.Proofs.Container.Locations

/-!
# The written item list

Which items a written file lists, and that both readers find them. The strict reader keeps the kind of
an item only, so it is said to find the entries without their content types.
-/

namespace AvifStill

namespace Item.Entry

open Scan

/-- The box of an entry. Only items of one kind have a content type. -/
def box (entry : Entry) : Box :=
  Container.entryBox entry.item entry.kind
    (if entry.kind = .mime then entry.contentType ++ [0] else [])

/-- Whether an entry can be written: a number of 16 bits, and a content type only where one goes. -/
structure Writable (entry : Entry) : Prop where
  item : entry.item < Bytes.capacity 2
  noZero : (0 : UInt8) ∉ entry.contentType
  typed : entry.kind ≠ .mime → entry.contentType = []

/-- An entry without its content type. -/
def untyped (entry : Entry) : Entry :=
  { entry with contentType := [] }

theorem kind_box (entry : Entry) : entry.box.kind = .infe := rfl

theorem content_box (entry : Entry) :
    entry.box.content = [2] ++ ([0, 0, 0] ++ (Bytes.ofNat 2 entry.item ++ (Bytes.ofNat 2 0 ++
      (entry.kind.toBytes ++ ([0] ++
        if entry.kind = .mime then entry.contentType ++ [0] else []))))) := by
  simp [box, Container.entryBox, Box.full]

theorem reads_scan {entry : Entry} (writable : entry.Writable) :
    Reads Entry.scan entry.box.content entry := by
  rw [content_box]
  refine Reads.bind (Reads.natOfBytes truncated rfl) ?_
  refine Reads.bind (Reads.natOfBytes truncated rfl) ?_
  refine Reads.bind (Reads.nat truncated writable.item) ?_
  refine Reads.bind (Reads.nat truncated (by decide : 0 < Bytes.capacity 2)) ?_
  refine Reads.bind (Reads.fourCC truncated entry.kind) ?_
  refine Reads.bind (reads_text (by simp : (0 : UInt8) ∉ [])) ?_
  by_cases typed : entry.kind = .mime
  · simp only [if_pos typed]
    exact (reads_text writable.noZero).bind_pure (Entry.mk entry.item entry.kind)
  · simp only [if_neg typed]
    have same : entry = ⟨entry.item, entry.kind, []⟩ := by
      rw [← writable.typed typed]
    rw [same]
    exact (Reads.pure []).bind_pure (Entry.mk entry.item entry.kind)

theorem reads_scanBox {entry : Entry} (writable : entry.Writable)
    (fits : entry.box.content.length + 8 < Bytes.capacity 4) :
    Reads Entry.scanBox entry.box.toBytes entry := by
  intro after
  have plain : entry.box.kind ≠ .uuid := by
    rw [kind_box]
    decide
  rw [Entry.scanBox, bind_of_ok (Box.scan_toBytes fits plain), if_neg (not_not_intro entry.kind_box),
    (reads_scan writable).run']
  rfl

/-- The strict reader keeps the item and its kind. -/
theorem strict_scanEntry {entry : Entry} (writable : entry.Writable) :
    Payload.Table.scanEntry entry.box.content = .ok (entry.untyped, []) := by
  rw [content_box]
  refine Reads.bind_rest (Payload.Window.reads_natOfBytes rfl) ?_
  refine Reads.bind_rest (Payload.Window.reads_skip rfl) ?_
  refine Reads.bind_nothing_rest (Payload.Window.reads_require rfl) ?_
  refine Reads.bind_rest (Payload.Window.reads_nat writable.item) ?_
  refine Reads.bind_rest (Payload.Window.reads_nat (by decide : 0 < Bytes.capacity 2)) ?_
  refine Reads.bind_nothing_rest (Payload.Window.reads_require rfl) ?_
  exact Reads.bind_rest (Reads.fourCC .container entry.kind) rfl

end Item.Entry

namespace Container

open Item Scan Payload.Window

/-- The number of the XMP item, which is the first free one. -/
def xmpItem (container : Container) : Nat :=
  if container.exifItem.isSome then 4 else 3

/-- The entries of the item list of a written file. -/
def entries (container : Container) : List Entry :=
  [⟨1, .av01, []⟩] ++ (container.exifItem.map fun _ => ⟨3, .exif, []⟩).toList ++
  (container.xmp.map fun _ => ⟨container.xmpItem, .mime, xmpContentType⟩).toList ++
  (container.alpha.map fun _ => ⟨2, .av01, []⟩).toList

theorem xmpItem_cases (container : Container) :
    container.xmpItem = 3 ∨ container.xmpItem = 4 := by
  unfold xmpItem
  split
  · exact Or.inr rfl
  · exact Or.inl rfl

/-- An item of a written file is one of four. -/
theorem mem_entries {container : Container} {entry : Entry} (isMember : entry ∈ container.entries) :
    entry = ⟨1, .av01, []⟩ ∨ entry = ⟨3, .exif, []⟩ ∨
      entry = ⟨container.xmpItem, .mime, xmpContentType⟩ ∨ entry = ⟨2, .av01, []⟩ := by
  simp only [entries, List.mem_append, List.mem_singleton, Option.mem_toList,
    Option.map_eq_some_iff] at isMember
  grind

theorem writable_of_mem_entries {container : Container} {entry : Entry}
    (isMember : entry ∈ container.entries) : entry.Writable := by
  have noZero : (0 : UInt8) ∉ xmpContentType := by decide
  have xmpFits : container.xmpItem < Bytes.capacity 2 := by
    rcases container.xmpItem_cases with isThree | isFour
    · rw [isThree]
      decide
    · rw [isFour]
      decide
  rcases mem_entries isMember with rfl | rfl | rfl | rfl
  · exact ⟨by decide, by simp, fun _ => rfl⟩
  · exact ⟨by decide, by simp, fun _ => rfl⟩
  · exact ⟨xmpFits, noZero, fun untyped => absurd rfl untyped⟩
  · exact ⟨by decide, by simp, fun _ => rfl⟩

theorem length_entries_le (container : Container) : container.entries.length ≤ 4 := by
  unfold entries
  cases container.exifItem <;> cases container.xmp <;> cases container.alpha <;> simp

theorem content_entriesBox (container : Container) :
    container.entriesBox.content = [0] ++ ([0, 0, 0] ++ (Bytes.ofNat 2 container.entries.length ++
      (container.entries.map Entry.box).flatMap Box.toBytes)) := by
  unfold entriesBox entries xmpItem
  cases container.exifItem <;> cases container.xmp <;> cases container.alpha <;> rfl

theorem sound_entries {container : Container}
    (fits : container.entriesBox.content.length < Bytes.capacity 4) :
    Box.Sound (container.entries.map Entry.box) := by
  constructor
  · intro box isMember
    rcases List.mem_map.mp isMember with ⟨entry, -, rfl⟩
    rw [entry.kind_box]
    decide
  · rw [content_entriesBox] at fits
    simp only [List.length_append] at fits
    omega

theorem count_entries (container : Container) :
    container.entries.length < Bytes.capacity 2 :=
  Nat.lt_of_le_of_lt container.length_entries_le (by decide)

theorem reads_entries {container : Container}
    (fits : container.entriesBox.content.length < Bytes.capacity 4) :
    Reads Entry.scanTable container.entriesBox.content container.entries := by
  have sound := sound_entries fits
  have each : ∀ entry ∈ container.entries, Reads Entry.scanBox entry.box.toBytes (id entry) :=
    fun entry isMember => Entry.reads_scanBox (writable_of_mem_entries isMember)
      (sound.of_mem (List.mem_map_of_mem isMember)).2
  have readsEntries := Reads.times each
  rw [List.map_id] at readsEntries
  rw [content_entriesBox, List.flatMap_map]
  refine Reads.bind (Reads.natOfBytes truncated rfl) ?_
  refine Reads.bind (Reads.natOfBytes truncated rfl) ?_
  exact (Reads.nat truncated container.count_entries).bind readsEntries

theorem strict_entries {container : Container}
    (fits : container.entriesBox.content.length < Bytes.capacity 4) :
    Payload.Table.scanEntries container.entriesBox.content =
      .ok (container.entries.map Entry.untyped, []) := by
  have sound := sound_entries fits
  rw [content_entriesBox]
  refine Reads.bind_rest (reads_natOfBytes rfl) ?_
  refine Reads.bind_rest (reads_skip rfl) ?_
  refine Reads.bind_nothing_rest (reads_require rfl) ?_
  refine Reads.bind_rest (reads_skip rfl) ?_
  rw [fold_map (fun entries entry => entries ++ [entry.untyped]) sound]
  · rw [Box.foldl_snoc]
    rfl
  · intro known entry isMember
    refine Reads.bind_nothing_rest (reads_require rfl) ?_
    have scanned := Entry.strict_scanEntry (writable_of_mem_entries isMember)
    rw [bind_of_ok scanned]
    rfl

end Container

end AvifStill
