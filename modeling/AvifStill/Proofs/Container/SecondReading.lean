import AvifStill.Proofs.Container.Parsed
import AvifStill.Proofs.Container.RoundTrip

/-!
# Reading a file, writing it and reading it again

A container that was read and written is read again with the same content if every item has data and
a clean aperture has denominators, and only then. The reader also accepts files without: an extent
without a length stands for all that is left, which can be nothing, and a clean aperture is not looked
at by the strict reader if a box before it ends early. The writer takes both as they are, but writes
them in a place and in a form in which they mean something else or nothing at all.
-/

namespace AvifStill

namespace Payload.Media

/-- An extent that starts at the end of the media boxes or behind it cannot be read. -/
theorem readExtent_beyond {start length : Nat} {media : List Media}
    (beyond : ∀ box ∈ media, box.offset ≠ start ∧ box.offset + box.content.length ≤ start) :
    readExtent start length media = .error .container := by
  induction media with
  | nil => rfl
  | cons box others ih =>
      have first := beyond box (List.mem_cons_self ..)
      have differs : box.isMatch start length = false := by
        simp [isMatch, first.1]
      have holdsNot : box.holdsStart start = false := by
        simp only [holdsStart, Bool.and_eq_false_iff, decide_eq_false_iff_not]
        omega
      have failed := ih fun other isMember => beyond other (List.mem_cons_of_mem box isMember)
      simp only [readExtent, differs, holdsNot, Bool.false_eq_true, if_false, failed]
      rfl

/-- Whether media boxes are what is left of some media boxes that were read from. -/
def AreLeftOf (left media : List Media) : Prop :=
  ∀ box ∈ left, ∃ whole ∈ media, box.offset = whole.offset ∧
    box.content.length ≤ whole.content.length

theorem AreLeftOf.refl (media : List Media) : AreLeftOf media media :=
  fun box isMember => ⟨box, isMember, rfl, Nat.le_refl _⟩

theorem AreLeftOf.trans {last left media : List Media} (second : AreLeftOf last left)
    (first : AreLeftOf left media) : AreLeftOf last media := by
  intro box isMember
  rcases second box isMember with ⟨middle, isMiddle, sameOffset, shorter⟩
  rcases first middle isMiddle with ⟨whole, isWhole, offset, short⟩
  exact ⟨whole, isWhole, sameOffset.trans offset, Nat.le_trans shorter short⟩

theorem AreLeftOf.cons {box whole : Media} {left media : List Media}
    (sameOffset : box.offset = whole.offset) (shorter : box.content.length ≤ whole.content.length)
    (others : AreLeftOf left media) : AreLeftOf (box :: left) (whole :: media) := by
  intro other isMember
  rcases List.mem_cons.mp isMember with rfl | isOther
  · exact ⟨whole, List.mem_cons_self .., sameOffset, shorter⟩
  · rcases others other isOther with ⟨found, isFound, same⟩
    exact ⟨found, List.mem_cons_of_mem whole isFound, same⟩

/-- Reading an extent moves no media box and adds nothing to it. -/
theorem areLeftOf_readExtent {start length : Nat} {media left : List Media} {bytes : Bytes}
    (done : readExtent start length media = .ok (bytes, left)) : AreLeftOf left media := by
  induction media generalizing left with
  | nil => cases done
  | cons first others ih =>
      rw [readExtent] at done
      split at done
      · cases done
        exact .cons rfl (Nat.zero_le _) (.refl others)
      split at done
      · simp only at done
        split at done
        · cases done
          exact .refl (first :: others)
        · cases done
      · rcases done_of_bind done with ⟨⟨more, rest⟩, found, done⟩
        cases done
        exact .cons rfl (Nat.le_refl _) (ih found)

theorem areLeftOf_readLocation {itemData : Option Bytes} {location : Item.Location}
    {media left : List Media} {bytes : Bytes}
    (done : readLocation itemData location media = .ok (bytes, left)) : AreLeftOf left media := by
  refine foldlM_invariant (fun state : Bytes × List Media => AreLeftOf state.2 media)
    ?_ (.refl media) done
  intro known extent next kept stepped
  simp only at stepped
  split at stepped
  · rcases done_of_bind stepped with ⟨⟨more, rest⟩, found, stepped⟩
    cases stepped
    exact (areLeftOf_readExtent found).trans kept
  · rcases done_of_bind stepped with ⟨more, -, stepped⟩
    cases stepped
    exact kept

theorem areLeftOf_step {itemData : Option Bytes} {primary : Nat} {alpha : Option Nat}
    {gathered next : Gathered} {location : Item.Location}
    (done : gathered.step itemData primary alpha location = .ok next) :
    AreLeftOf next.media gathered.media := by
  unfold Gathered.step at done
  split at done
  · rcases done_of_bind done with ⟨⟨bytes, left⟩, found, done⟩
    cases done
    exact areLeftOf_readLocation found
  split at done
  · rcases done_of_bind done with ⟨⟨bytes, left⟩, found, done⟩
    cases done
    exact areLeftOf_readLocation found
  · cases done
    exact .refl gathered.media

/-- An extent without a length is never empty as long as no media box is. -/
theorem readExtent_zero {start : Nat} {media left : List Media} {bytes : Bytes}
    (full : ∀ box ∈ media, box.content ≠ []) (done : readExtent start 0 media = .ok (bytes, left)) :
    bytes ≠ [] := by
  induction media generalizing left with
  | nil => cases done
  | cons first others ih =>
      rw [readExtent] at done
      split at done
      · cases done
        exact full first (List.mem_cons_self ..)
      split at done
      · rename_i holds
        simp only [if_true] at done
        split at done
        · rename_i sliced
          cases done
          simp only [holdsStart, Bool.and_eq_true, decide_eq_true_eq] at holds
          unfold Bytes.slice? at sliced
          split at sliced
          · cases sliced
            intro isEmpty
            have length := congrArg List.length isEmpty
            simp only [List.length_take, List.length_drop, List.length_nil] at length
            omega
          · cases sliced
        · cases done
      · rcases done_of_bind done with ⟨⟨more, rest⟩, found, done⟩
        cases done
        exact ih (fun box isMember => full box (List.mem_cons_of_mem first isMember)) found

end Payload.Media

namespace Container

open Item Payload

/-- Whether another container holds the same, up to what the writer normalizes. -/
structure IsKeptBy (container again : Container) : Prop where
  data : again.color.data = container.color.data
  width : again.color.width = container.color.width
  height : again.color.height = container.color.height
  depth : again.color.config.depth = container.color.config.depth
  format : again.color.config.format = container.color.config.format
  alpha : again.alpha.map (·.data) = container.alpha.map (·.data)
  icc : again.icc = container.icc
  transforms : again.transforms = container.transforms
  exifItem : again.exifItem = container.exifItem
  xmp : again.xmp = container.xmp
  premultiplied : again.premultiplied = container.premultiplied
  cicp : again.cicp = none ∨ again.cicp = container.cicp

theorem depth_record (config : Av1.Config) (profile : UInt8) (monochrome x y : Bool) :
    (record config.depth profile monochrome x y).depth = config.depth := by
  rcases config with ⟨_, _, _, high, twelve, _, _, _, _⟩
  cases high <;> cases twelve <;> rfl

theorem depth_colorRecord (container : Container) :
    container.colorRecord.depth = container.color.config.depth :=
  depth_record ..

theorem format_colorRecord (container : Container) :
    container.colorRecord.format = container.color.config.format := rfl

theorem depth_alphaRecord (container : Container) :
    container.alphaRecord.depth = container.color.config.depth :=
  depth_record ..

theorem format_alphaRecord (container : Container) :
    container.alphaRecord.format = .monochrome := rfl

theorem readCodePoints?_cases (container : Container) :
    container.readCodePoints? = none ∨ container.readCodePoints? = container.cicp := by
  unfold readCodePoints?
  split
  · rename_i isCicp
    split
    · exact Or.inr isCicp.symm
    · exact Or.inl rfl
  · exact Or.inl rfl

theorem readTransforms_of_normal {container : Container} (normal : container.transforms.Normal) :
    container.readTransforms = container.transforms := by
  have rotation : container.transforms.rotation.map (· &&& 3) = container.transforms.rotation := by
    cases isSome : container.transforms.rotation with
    | none => rfl
    | some turns => rw [Option.map_some, normal.rotation turns isSome]
  have mirror : container.transforms.mirror.map (· &&& 1) = container.transforms.mirror := by
    cases isSome : container.transforms.mirror with
    | none => rfl
    | some axis => rw [Option.map_some, normal.mirror axis isSome]
  rw [readTransforms, rotation, mirror]

theorem isKeptBy_readBack {file : Bytes} {container : Container}
    (parsed : parse file = .ok container) : container.IsKeptBy container.readBack where
  data := rfl
  width := rfl
  height := rfl
  depth := container.depth_colorRecord
  format := container.format_colorRecord
  alpha := by
    rw [readBack, Option.map_map]
    rfl
  icc := rfl
  transforms := readTransforms_of_normal (normal_parse parsed)
  exifItem := rfl
  xmp := rfl
  premultiplied := premultiplied_parse parsed
  cicp := container.readCodePoints?_cases

/-! ## Items without data -/

theorem gather_color_error {alpha : Option Nat} {gathered : Gathered} {data : Bytes}
    {position : Nat} {fault : Fault}
    (failed : Media.readExtent position data.length gathered.media = .error fault) :
    gathered.step none 1 alpha (Placed.location ⟨⟨1, data⟩, position⟩) = .error fault := by
  rw [← readLocation_placed ⟨⟨1, data⟩, position⟩] at failed
  exact bind_of_failed failed

/-- An image without data cannot be read from a written file. -/
theorem color_of_gather {container : Container} {gathered : Gathered}
    (done : container.gather = .ok gathered) : container.color.data ≠ [] := by
  intro isEmpty
  let before := container.metadataStored ++
    (container.alpha.map fun alpha => (⟨2, alpha.data⟩ : Stored)).toList
  have split : container.storedItems = before ++ [⟨1, container.color.data⟩] := by
    simp [before, storedItems_eq, behindXmp]
  have length : container.mediaData.length = (before.flatMap (·.data)).length := by
    simp [mediaData, split, isEmpty]
  rw [gather, gatherFrom, placed, split, place_append, List.map_append, List.foldlM_append] at done
  rcases done_of_bind done with ⟨known, gone, done⟩
  have left : Media.AreLeftOf known.media container.writtenMedia :=
    foldlM_invariant (fun state : Gathered =>
      Media.AreLeftOf state.media container.writtenMedia)
      (fun _ _ _ kept stepped => (Media.areLeftOf_step stepped).trans kept) (.refl _) gone
  have failed : Media.readExtent (container.dataStart + (before.flatMap (·.data)).length)
      container.color.data.length known.media = .error .container := by
    apply Media.readExtent_beyond
    intro box isMember
    rcases left box isMember with ⟨whole, isWhole, offset, shorter⟩
    rw [writtenMedia] at isWhole
    split at isWhole
    · cases isWhole
    · rename_i notEmpty
      have positive := List.length_pos_iff.mpr notEmpty
      rw [List.mem_singleton.mp isWhole] at offset shorter
      simp only at offset shorter
      omega
  rcases done_of_bind done with ⟨last, stepped, -⟩
  rw [gather_color_error failed] at stepped
  cases stepped

/-- An alpha image without data is read as something else. -/
theorem alpha_of_gather {container : Container} {gathered : Gathered} {alpha : CodedImage}
    (isAlpha : container.alpha = some alpha) (isEmpty : alpha.data = [])
    (done : container.gather = .ok gathered) : gathered.alpha ≠ some [] := by
  have colorFull := color_of_gather done
  have mediaFull : ∀ box ∈ container.writtenMedia, box.content ≠ [] := by
    intro box isMember
    rw [writtenMedia] at isMember
    split at isMember
    · cases isMember
    · rw [List.mem_singleton.mp isMember]
      assumption
  have behind : container.behindXmp = [⟨2, []⟩, ⟨1, container.color.data⟩] := by
    simp [behindXmp, isAlpha, isEmpty]
  rw [gather, gatherFrom, placed, storedItems_eq, place_append, List.map_append,
    List.foldlM_append, bind_of_done (gather_metadata container.metadata_passed), behind,
    isAlpha] at done
  rcases done_of_bind done with ⟨next, alphaStepped, done⟩
  rcases done_of_bind done with ⟨last, colorStepped, done⟩
  cases done
  rcases done_of_bind alphaStepped with ⟨⟨bytes, left⟩, alphaRead, alphaDone⟩
  rcases done_of_bind colorStepped with ⟨⟨others, rest⟩, colorRead, colorDone⟩
  cases alphaDone
  cases colorDone
  rw [readLocation_placed ⟨⟨2, []⟩, _⟩] at alphaRead
  have notEmpty := Media.readExtent_zero mediaFull alphaRead
  simpa using notEmpty

theorem gather_of_payloads {container : Container} {payloads : Payloads}
    (fits : container.toBytes.IsAddressable) (pixels : container.HasPixels)
    (has : container.HasDenominators) (done : Payloads.read container.toBytes = .ok payloads) :
    ∃ media, container.gather = .ok ⟨payloads.primary, payloads.alpha, media⟩ := by
  rw [payloads_eq fits pixels has] at done
  rcases done_of_bind done with ⟨gathered, gone, done⟩
  rcases done_of_bind done with ⟨-, -, done⟩
  cases done
  exact ⟨gathered.media, gone⟩

/-- A written file in which a clean aperture lacks a denominator is refused. -/
theorem hasDenominators_of_payloads {container : Container} {payloads : Payloads}
    (fits : container.toBytes.IsAddressable) (pixels : container.HasPixels)
    (done : Payloads.read container.toBytes = .ok payloads) : container.HasDenominators := by
  apply Classical.byContradiction
  intro lacks
  cases done.symm.trans (payloads_error fits pixels lacks)

/-- Metadata without data is read as what is stored behind it. -/
theorem readData_ne_nil {stored : Stored} {after : List Stored} {container : Container}
    (colorFull : container.color.data ≠ []) (isLast : ⟨1, container.color.data⟩ ∈ after) :
    readData stored after ≠ [] := by
  unfold readData
  split
  · intro isEmpty
    exact colorFull (List.flatMap_eq_nil_iff.mp isEmpty _ isLast)
  · assumption

theorem full_of_isKeptBy {container again : Container}
    (fits : container.toBytes.IsAddressable) (pixels : container.HasPixels)
    (read : parse container.toBytes = .ok again) (kept : container.IsKeptBy again) :
    container.Full ∧ container.HasDenominators := by
  rw [parse_eq fits] at read
  cases found : Payloads.read container.toBytes with
  | error fault =>
      rw [found] at read
      cases read
  | ok payloads =>
      rw [found] at read
      cases read
      have has := hasDenominators_of_payloads fits pixels found
      rcases gather_of_payloads fits pixels has found with ⟨media, gathered⟩
      have colorFull := color_of_gather gathered
      refine ⟨?_, has⟩
      intro stored isMember isEmpty
      simp only [storedItems, List.mem_append, Option.mem_toList, Option.map_eq_some_iff,
        List.mem_singleton] at isMember
      rcases isMember with ((⟨exif, isExif, rfl⟩ | ⟨xmp, isXmp, rfl⟩) | ⟨alpha, isAlpha, rfl⟩) | rfl
      · have same := kept.exifItem
        simp only [readWith, isExif, Option.map_some, Option.some.injEq] at same
        refine readData_ne_nil colorFull ?_ (same.trans isEmpty)
        simp [behindExif]
      · have same := kept.xmp
        simp only [readWith, isXmp, Option.map_some, Option.some.injEq] at same
        refine readData_ne_nil colorFull ?_ (same.trans isEmpty)
        simp [behindXmp]
      · have same := kept.alpha
        have notEmpty := alpha_of_gather isAlpha isEmpty gathered
        simp only at isEmpty notEmpty
        cases isData : payloads.alpha with
        | none => simp [readWith, isAlpha, isData] at same
        | some data =>
            simp only [readWith, isAlpha, isData, Option.isSome_some, if_true, Option.map_some,
              Option.some.injEq, isEmpty] at same
            rw [isData, same] at notEmpty
            exact notEmpty rfl
      · exact colorFull isEmpty

theorem serialized_eq {container : Container} {written : Bytes}
    (serialized : serialize container = .ok written) :
    written = container.toBytes ∧ container.HasPixels := by
  unfold serialize at serialized
  split at serialized
  · cases serialized
  split at serialized
  · cases serialized
  · rename_i hasSize
    cases serialized
    exact ⟨rfl, ⟨fun isZero => hasSize (Or.inl isZero), fun isZero => hasSize (Or.inr isZero)⟩⟩

/-- A file that is read and written is read again with the same content exactly if every item has
data and a clean aperture has denominators. -/
theorem secondReading_iff {file written : Bytes} {container : Container}
    (parsed : parse file = .ok container) (serialized : serialize container = .ok written)
    (fits : written.IsAddressable) :
    (∃ again, parse written = .ok again ∧ container.IsKeptBy again) ↔
      container.Full ∧ container.HasDenominators := by
  rcases serialized_eq serialized with ⟨rfl, pixels⟩
  constructor
  · rintro ⟨again, read, kept⟩
    exact full_of_isKeptBy fits pixels read kept
  · rintro ⟨full, has⟩
    exact ⟨container.readBack, parse_toBytes fits pixels has full, isKeptBy_readBack parsed⟩

/-- A container of one pixel with an XMP item that has no data. -/
def bareXmp : Container where
  color := ⟨[7], .forFrame 8 .monochrome, 1, 1⟩
  alpha := none
  cicp := none
  icc := none
  transforms := .none
  exifItem := none
  xmp := some []
  premultiplied := false

/-- A file with this content, in which the data of the XMP item is what follows the last byte. -/
def bareXmpFile : Bytes :=
  brandsBox.toBytes ++ Box.toBytes (.full .metadata 0
    ([handlerBox, primaryBox, locationsBox [⟨1, [7]⟩, ⟨3, []⟩] 297, bareXmp.entriesBox,
      bareXmp.propertiesBox].flatMap Box.toBytes)) ++ Box.toBytes ⟨.mdat, [7]⟩

/-- An XMP item without data is not kept: it is read again as what is stored behind it. -/
theorem secondReading_bareXmp :
    parse bareXmpFile = .ok bareXmp ∧ serialize bareXmp = .ok bareXmp.toBytes ∧
      bareXmp.toBytes.IsAddressable ∧
      ¬∃ again, parse bareXmp.toBytes = .ok again ∧ bareXmp.IsKeptBy again := by
  have parsed : parse bareXmpFile = .ok bareXmp := ok_of_toOption (by decide +kernel)
  have fits : bareXmp.toBytes.IsAddressable := by decide +kernel
  refine ⟨parsed, rfl, fits, ?_⟩
  rw [secondReading_iff parsed rfl fits]
  rintro ⟨full, -⟩
  exact full ⟨3, []⟩ (by simp [storedItems, bareXmp]) rfl

end Container

end AvifStill
