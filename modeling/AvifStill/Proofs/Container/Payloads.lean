import AvifStill.Payload.Reader
import AvifStill.Proofs.Container.Lookup
import AvifStill.Proofs.Container.Layout

/-!
# The payloads of a written file

The strict reader takes the data of the image and of its alpha image out of the one media box of a
written file. An extent that is all of the box takes its content away, any other one leaves it as it
is, so that data which is not empty is read back wherever it lies in the box.
-/

namespace AvifStill.Container

open Item Scan Payload

/-! ## Extents -/

/-- A part of a media box that does not start it, or does not end it, is read and stays. -/
theorem readExtent_part {data : Bytes} (start : Nat) (before after : Bytes) (nonempty : data ≠ [])
    (proper : before ++ after ≠ []) :
    Media.readExtent (start + before.length) data.length [⟨start, before ++ (data ++ after)⟩] =
      .ok (data, [⟨start, before ++ (data ++ after)⟩]) := by
  have positive := List.length_pos_iff.mpr nonempty
  have others := List.length_pos_iff.mpr proper
  rw [List.length_append] at others
  have differs : Media.isMatch ⟨start, before ++ (data ++ after)⟩ (start + before.length)
      data.length = false := by
    simp only [Media.isMatch, List.length_append, Bool.and_eq_false_iff, Bool.or_eq_false_iff,
      beq_eq_false_iff_ne]
    omega
  have holds : Media.holdsStart ⟨start, before ++ (data ++ after)⟩ (start + before.length) =
      true := by
    simp only [Media.holdsStart, List.length_append, Bool.and_eq_true, decide_eq_true_eq]
    omega
  have sliced := Bytes.slice?_append before data after
  have nonzero : ¬data.length = 0 := by omega
  simp only [Media.readExtent, differs, holds, Bool.false_eq_true, if_false, if_true,
    Nat.add_sub_cancel_left, if_neg nonzero, sliced]

/-- All of a media box is taken away. -/
theorem readExtent_whole (start : Nat) (data : Bytes) :
    Media.readExtent start data.length [⟨start, data⟩] = .ok (data, [⟨start, []⟩]) := by
  have isMatch : Media.isMatch ⟨start, data⟩ start data.length = true := by
    simp [Media.isMatch]
  rw [Media.readExtent, if_pos isMatch]

/-- A location of a written file is read like its one extent. -/
theorem readLocation_placed (placed : Placed) (media : List Media) :
    readLocation none placed.location media =
      Media.readExtent placed.position placed.stored.data.length media := by
  simp only [readLocation, Placed.location, Placed.extent, List.foldlM_cons, List.foldlM_nil,
    Nat.zero_add, List.nil_append]
  cases Media.readExtent placed.position placed.stored.data.length media <;> rfl

/-! ## Which items there are -/

theorem links_alpha {container : Container} (isSome : container.alpha.isSome = true) :
    (container.readLinks.filter fun link => link.item == 2) =
      (alphaMarks container.colorProperties.length).map (Mark.link 2) := by
  simp [readLinks, linkedItems, isSome, Linked.links, alphaMarks, Mark.link, List.filter_map]

theorem namesOf_alpha {container : Container} (isSome : container.alpha.isSome = true) :
    container.table.namesOf 2 = [alphaName] := by
  have names : container.described.map (·.name) =
      container.colorDescribed.map (·.name) ++ [none, none, some alphaName] := by
    rw [described, List.map_append, alphaDescribed, if_pos isSome]
    rfl
  have size : container.colorProperties.length = (container.colorDescribed.map (·.name)).length := by
    rw [colorProperties_eq, List.length_map, List.length_map]
  have first : (container.described.map (·.name))[0]? = some none := by
    rw [names]
    rfl
  have properties : container.table.properties = container.described.map (·.name) := rfl
  have links : container.table.links = container.readLinks := rfl
  rw [Table.namesOf, links, links_alpha isSome, size, properties]
  simp only [alphaMarks, List.map_cons, List.map_nil, Mark.link, List.filterMap_cons,
    List.filterMap_nil, Nat.add_sub_cancel, Nat.sub_self, first]
  rw [names]
  simp

theorem alphaItem?_table (container : Container) :
    container.table.alphaItem? 1 = container.alpha.map fun _ => 2 := by
  have references : container.table.references = container.references := rfl
  rw [Table.alphaItem?, Table.sourcesOf, references, references_auxl]
  cases isAlpha : container.alpha with
  | none => rfl
  | some alpha =>
      have isSome : container.alpha.isSome = true := by rw [isAlpha]; rfl
      simp [namesOf_alpha isSome]

theorem depthItem?_table (container : Container) :
    container.table.depthItem? 1 (container.alpha.map fun _ => 2) = none := by
  have references : container.table.references = container.references := rfl
  rw [Table.depthItem?, Table.sourcesOf, references, references_auxl]
  cases container.alpha <;> simp

/-- There is no tone mapping. -/
theorem toneMapping?_table (container : Container) :
    container.table.toneMapping? (container.entries.map Entry.untyped) 1 = none := by
  rw [Table.toneMapping?, List.findSome?_eq_none_iff]
  intro entry isMember
  rcases List.mem_map.mp isMember with ⟨written, isWritten, rfl⟩
  have notMapping : written.untyped.kind ≠ .tmap := by
    rcases mem_entries isWritten with rfl | rfl | rfl | rfl
    · exact (by decide : FourCC.av01 ≠ .tmap)
    · exact (by decide : FourCC.exif ≠ .tmap)
    · exact (by decide : FourCC.mime ≠ .tmap)
    · exact (by decide : FourCC.av01 ≠ .tmap)
  rw [if_neg notMapping]

/-- The metadata items as they are stored. -/
def metadataStored (container : Container) : List Stored :=
  (container.exifItem.map fun exif => ⟨3, exif⟩).toList ++
  (container.xmp.map fun xmp => ⟨container.xmpItem, xmp⟩).toList

theorem metadataItems_table (container : Container) :
    metadataItems container.table (container.entries.map Entry.untyped) 1 =
      container.metadataStored.map (·.item) := by
  unfold metadataItems Table.sourcesOf table entries references metadataStored xmpItem
  cases container.exifItem <;> cases container.xmp <;> cases container.alpha <;>
    cases container.premultiplied <;> rfl

/-- The reference by which colour is said to be stored multiplied by alpha. -/
theorem premultiplied_table (container : Container) :
    ((container.alpha.map fun _ => 2).any fun item =>
        container.table.references.any fun reference =>
          reference.kind == .prem && reference.source == 1 && reference.target == item) =
      (container.alpha.isSome && container.premultiplied) := by
  unfold table references xmpItem
  cases container.exifItem <;> cases container.xmp <;> cases container.alpha <;>
    cases container.premultiplied <;> rfl

/-! ## Taking the data out -/

/-- The payloads that are gathered for a written directory from some media boxes. -/
def gatherFrom (container : Container) (media : List Media) : Except Fault Gathered :=
  (container.placed.map Placed.location).foldlM
    (Gathered.step none 1 (container.alpha.map fun _ => 2)) ⟨[], none, media⟩

/-- The payloads that are gathered from a written file. -/
def gather (container : Container) : Except Fault Gathered :=
  container.gatherFrom container.writtenMedia

/-- The check of what else belongs to the image of a written file. -/
def checkWritten (container : Container) (media : List Media) : Except Fault Unit :=
  checkCompanions container.table (container.entries.map Entry.untyped)
    (container.placed.map Placed.location) 1 (container.alpha.map fun _ => 2) media

/-- With a written directory the strict reader gathers payloads and checks their companions. -/
theorem payloads_of_layout {container : Container} {file : Bytes} {media : List Media}
    {position : Nat} (found : Layout.ofFile file = .ok ⟨some container.table, media, position⟩) :
    Payloads.read file = (do
      let gathered ← container.gatherFrom media
      container.checkWritten gathered.media
      return ⟨gathered.primary, gathered.alpha,
        container.alpha.isSome && container.premultiplied⟩) := by
  rw [Payloads.read, bind_of_done found, ← premultiplied_table, gatherFrom]
  simp only [checkWritten, ← alphaItem?_table]
  rfl

theorem payloads_eq {container : Container} (fits : container.toBytes.IsAddressable)
    (pixels : container.HasPixels) (has : container.HasDenominators) :
    Payloads.read container.toBytes = (do
      let gathered ← container.gather
      container.checkWritten gathered.media
      return ⟨gathered.primary, gathered.alpha,
        container.alpha.isSome && container.premultiplied⟩) :=
  payloads_of_layout (layout_ofFile fits pixels has)

theorem payloads_error {container : Container}
    (fits : container.toBytes.IsAddressable) (pixels : container.HasPixels)
    (lacks : ¬container.HasDenominators) : Payloads.read container.toBytes = .error .container :=
  bind_of_failed (layout_ofFile_error fits pixels lacks)

theorem place_append (start : Nat) (before after : List Stored) :
    place start (before ++ after) =
      place start before ++ place (start + (before.flatMap (·.data)).length) after := by
  induction before generalizing start with
  | nil => simp [place]
  | cons stored before ih =>
      rw [List.cons_append, place, ih, place, List.flatMap_cons, List.length_append, Nat.add_assoc]
      rfl

/-- Metadata is passed over when payloads are gathered. -/
theorem gather_metadata {alpha : Option Nat} {items : List Stored} {start : Nat}
    {gathered : Gathered} (isMetadata : ∀ stored ∈ items, stored.item ≠ 1 ∧ some stored.item ≠ alpha) :
    ((place start items).map Placed.location).foldlM (Gathered.step none 1 alpha) gathered =
      .ok gathered := by
  apply foldlM_stays
  intro location isMember
  rcases List.mem_map.mp isMember with ⟨placed, isPlaced, rfl⟩
  rcases exists_of_mem_place isPlaced with ⟨before, after, split, -⟩
  have passed := isMetadata placed.stored (by simp [split])
  simp [Gathered.step, Placed.location, passed]

theorem gather_color {alpha : Option Nat} {gathered : Gathered} {data bytes : Bytes}
    {position : Nat} {media : List Media}
    (reads : Media.readExtent position data.length gathered.media = .ok (bytes, media)) :
    Gathered.step none 1 alpha gathered (Placed.location ⟨⟨1, data⟩, position⟩) =
      .ok { gathered with primary := gathered.primary ++ bytes, media } := by
  rw [← readLocation_placed ⟨⟨1, data⟩, position⟩] at reads
  exact bind_of_done reads

theorem gather_alpha {gathered : Gathered} {data bytes : Bytes} {position : Nat}
    {media : List Media}
    (reads : Media.readExtent position data.length gathered.media = .ok (bytes, media)) :
    Gathered.step none 1 (some 2) gathered (Placed.location ⟨⟨2, data⟩, position⟩) =
      .ok { gathered with alpha := some (gathered.alpha.getD [] ++ bytes), media } := by
  rw [← readLocation_placed ⟨⟨2, data⟩, position⟩] at reads
  exact bind_of_done reads

/-- Whether no item is without data. -/
def Full (container : Container) : Prop :=
  ∀ stored ∈ container.storedItems, stored.data ≠ []

/-- What the media boxes still hold once the payloads are gathered. -/
def mediaLeft (container : Container) : List Media :=
  if container.storedItems.length = 1 then [⟨container.dataStart, []⟩]
  else [⟨container.dataStart, container.mediaData⟩]

theorem storedItems_eq (container : Container) :
    container.storedItems = container.metadataStored ++ container.behindXmp := by
  simp [storedItems, metadataStored, behindXmp, xmpItem]

theorem item_of_mem_metadataStored {container : Container} {stored : Stored}
    (isMember : stored ∈ container.metadataStored) : stored.item = 3 ∨ stored.item = 4 := by
  simp only [metadataStored, List.mem_append, Option.mem_toList, Option.map_eq_some_iff] at isMember
  rcases isMember with ⟨exif, -, rfl⟩ | ⟨xmp, -, rfl⟩
  · exact Or.inl rfl
  · exact container.xmpItem_cases

theorem metadata_passed (container : Container) :
    ∀ stored ∈ container.metadataStored,
      stored.item ≠ 1 ∧ some stored.item ≠ container.alpha.map fun _ => 2 := by
  intro stored isMember
  have := item_of_mem_metadataStored isMember
  cases container.alpha <;> simp <;> omega

theorem Full.color {container : Container} (full : container.Full) : container.color.data ≠ [] :=
  full ⟨1, container.color.data⟩ (by simp [storedItems])

theorem Full.alpha {container : Container} (full : container.Full) {alpha : CodedImage}
    (isAlpha : container.alpha = some alpha) : alpha.data ≠ [] :=
  full ⟨2, alpha.data⟩ (by simp [storedItems, isAlpha])

theorem Full.writtenMedia {container : Container} (full : container.Full) :
    container.writtenMedia = [⟨container.dataStart, container.mediaData⟩] := by
  have notEmpty : container.mediaData ≠ [] := by
    intro isEmpty
    have none := List.flatMap_eq_nil_iff.mp isEmpty
    exact full.color (none ⟨1, container.color.data⟩ (by simp [storedItems]))
  rw [Container.writtenMedia, if_neg notEmpty]

theorem Full.metadata {container : Container} (full : container.Full)
    (present : container.metadataStored ≠ []) : container.metadataStored.flatMap (·.data) ≠ [] := by
  intro isEmpty
  rcases List.exists_mem_of_ne_nil _ present with ⟨stored, isMember⟩
  refine full stored ?_ (List.flatMap_eq_nil_iff.mp isEmpty stored isMember)
  rw [storedItems_eq]
  exact List.mem_append_left _ isMember

theorem gather_full {container : Container} (full : container.Full) :
    container.gather =
      .ok ⟨container.color.data, container.alpha.map (·.data), container.mediaLeft⟩ := by
  rw [gather, gatherFrom, placed, storedItems_eq, place_append, List.map_append,
    List.foldlM_append, bind_of_done (gather_metadata container.metadata_passed),
    full.writtenMedia]
  have colorFull := full.color
  cases isAlpha : container.alpha with
  | none =>
      have behind : container.behindXmp = [⟨1, container.color.data⟩] := by
        simp [behindXmp, isAlpha]
      have media : container.mediaData =
          container.metadataStored.flatMap (·.data) ++ container.color.data := by
        simp [mediaData, storedItems_eq, behind]
      have colorRead : Media.readExtent
          (container.dataStart + (container.metadataStored.flatMap (·.data)).length)
          container.color.data.length [⟨container.dataStart, container.mediaData⟩] =
            .ok (container.color.data, container.mediaLeft) := by
        by_cases plain : container.metadataStored = []
        · have whole := readExtent_whole container.dataStart container.color.data
          simpa [media, mediaLeft, storedItems_eq, behind, plain] using whole
        · have part := readExtent_part container.dataStart
            (container.metadataStored.flatMap (·.data)) [] colorFull
            (by simpa using full.metadata plain)
          simpa [media, mediaLeft, storedItems_eq, behind, plain] using part
      rw [behind]
      simp only [place, List.map_cons, List.map_nil, List.foldlM_cons, List.foldlM_nil,
        Option.map_none]
      rw [bind_of_done (gather_color colorRead)]
      rfl
  | some alpha =>
      have behind : container.behindXmp = [⟨2, alpha.data⟩, ⟨1, container.color.data⟩] := by
        simp [behindXmp, isAlpha]
      have media : container.mediaData = container.metadataStored.flatMap (·.data) ++
          (alpha.data ++ container.color.data) := by
        simp [mediaData, storedItems_eq, behind]
      have left : container.mediaLeft = [⟨container.dataStart, container.mediaData⟩] := by
        simp [mediaLeft, storedItems_eq, behind]
      have alphaRead := readExtent_part container.dataStart
        (container.metadataStored.flatMap (·.data)) container.color.data
        (full.alpha isAlpha) (by simp [colorFull])
      have colorRead := readExtent_part container.dataStart
        (container.metadataStored.flatMap (·.data) ++ alpha.data) []
        colorFull (by simp [full.alpha isAlpha])
      rw [← media] at alphaRead
      rw [List.append_nil, List.append_assoc, ← media, List.length_append, ← Nat.add_assoc]
        at colorRead
      rw [behind, left]
      simp only [place, List.map_cons, List.map_nil, List.foldlM_cons, List.foldlM_nil,
        Option.map_some]
      rw [bind_of_done (gather_alpha alphaRead), bind_of_done (gather_color colorRead)]
      rfl

/-! ## Companions -/

theorem items_storedItems (container : Container) :
    (container.storedItems.map (·.item)).Nodup := by
  unfold storedItems
  cases container.exifItem <;> cases container.xmp <;> cases container.alpha <;> simp

theorem first_of_split {container : Container} {before after : List Stored} {stored : Stored}
    (split : container.storedItems = before ++ stored :: after) :
    ∀ other ∈ before, other.item ≠ stored.item := by
  have distinct := container.items_storedItems
  rw [split, List.map_append, List.map_cons] at distinct
  intro other isMember
  exact (List.nodup_append.mp distinct).2.2 other.item (List.mem_map_of_mem isMember) stored.item
    (List.mem_cons_self ..)

/-- The data of a metadata item is read and stays where it is. -/
theorem discard_metadata {container : Container} (full : container.Full) {stored : Stored}
    (isMember : stored ∈ container.metadataStored) :
    discard container.table (container.placed.map Placed.location) stored.item
        [⟨container.dataStart, container.mediaData⟩] =
      .ok (some stored.data, [⟨container.dataStart, container.mediaData⟩]) := by
  rcases List.append_of_mem isMember with ⟨before, after, split⟩
  have splitStored : container.storedItems =
      before ++ stored :: (after ++ container.behindXmp) := by
    rw [storedItems_eq, split, List.append_assoc, List.cons_append]
  have found := find?_place container.dataStart (after ++ container.behindXmp)
    (first_of_split splitStored)
  have media : container.mediaData = before.flatMap (·.data) ++ (stored.data ++
      (after ++ container.behindXmp).flatMap (·.data)) := by
    rw [mediaData, splitStored, List.flatMap_append, List.flatMap_cons]
  have proper : before.flatMap (·.data) ++ (after ++ container.behindXmp).flatMap (·.data) ≠ [] := by
    have colorFull := full.color
    simp [behindXmp, colorFull]
  have nonempty : stored.data ≠ [] := by
    apply full
    rw [splitStored]
    exact List.mem_append_right before (List.mem_cons_self ..)
  have reads := readExtent_part container.dataStart _ _ nonempty proper
  rw [← media, ← readLocation_placed
    ⟨stored, container.dataStart + (before.flatMap (·.data)).length⟩] at reads
  rw [← splitStored] at found
  rw [Payload.discard, placed, found]
  exact bind_of_done reads

theorem checkWritten_full {container : Container} (full : container.Full) :
    container.checkWritten container.mediaLeft = .ok () := by
  have gone : (container.metadataStored.map (·.item)).foldlM
      (fun media item => do
        return (← discard container.table (container.placed.map Placed.location) item media).2)
      container.mediaLeft = .ok container.mediaLeft := by
    apply foldlM_stays
    intro item isMember
    rcases List.mem_map.mp isMember with ⟨stored, isStored, rfl⟩
    have left : container.mediaLeft = [⟨container.dataStart, container.mediaData⟩] := by
      have some := List.length_pos_of_mem isStored
      have several : ¬container.storedItems.length = 1 := by
        simp only [storedItems_eq, behindXmp, List.length_append, List.length_singleton]
        omega
      rw [mediaLeft, if_neg several]
    rw [left]
    exact bind_of_done (discard_metadata full isStored)
  rw [checkWritten, checkCompanions, metadataItems_table, bind_of_done gone, toneMapping?_table]
  simp only [depthItem?_table]
  rfl

/-- The payloads of a written file in which no item is without data are read back. -/
theorem payloads_full {container : Container} (fits : container.toBytes.IsAddressable)
    (pixels : container.HasPixels) (has : container.HasDenominators) (full : container.Full) :
    Payloads.read container.toBytes =
      .ok ⟨container.color.data, container.alpha.map (·.data),
        container.alpha.isSome && container.premultiplied⟩ := by
  rw [payloads_eq fits pixels has, bind_of_done (gather_full full),
    bind_of_done (checkWritten_full full)]
  rfl

end AvifStill.Container
