import AvifStill.Proofs.Container.SecondReading

/-!
# Files that are cut off

A written file that is cut off anywhere cannot be read. A cut leaves some boxes whole and a part of
the next one. The lenient reader takes no part of a box, so it ends with a fault unless the cut is
between two boxes; behind the brands it misses the directory. Behind the directory it misses nothing,
and it is the strict reader that finds no media box to take the data of the image from.
-/

namespace AvifStill

namespace Box

open Scan

variable {box : Box} {boxes before after : List Box}

/-- A part of a written box is not read as a box. -/
theorem demands_scan (plain : box.kind ≠ .uuid)
    (fits : box.content.length + 8 < Bytes.capacity 4) : Demands scan box.toBytes truncated := by
  have notWide : Header.scanWide (box.content.length + 8) = pure none := if_neg (by omega)
  have notExtended : Header.scanExtended box.kind = pure [] := if_neg plain
  have reads : Reads Header.scan (Bytes.ofNat 4 (box.content.length + 8) ++ (box.kind.toBytes ++ []))
      ⟨box.kind, some (box.content.length + 8), 8⟩ := by
    refine .bind (.nat truncated fits) (.bind (.fourCC truncated box.kind) ?_)
    rw [notWide, notExtended]
    intro rest
    rfl
  have demands : Demands Header.scan
      (Bytes.ofNat 4 (box.content.length + 8) ++ (box.kind.toBytes ++ [])) truncated := by
    apply Demands.bind (.nat truncated fits) (.nat truncated 4 _)
    exact .bind (.fourCC truncated box.kind) (.fourCC truncated box.kind) (.nothing _ truncated)
  have content : Demands (scanContent ⟨box.kind, some (box.content.length + 8), 8⟩) box.content
      truncated := by
    intro taken short
    have failed := Demands.bytes truncated (Nat.add_sub_cancel box.content.length 8).symm _ short
    have longer : ¬box.content.length + 8 < 8 := by omega
    simp only [scanContent, if_neg longer]
    exact bind_of_failed failed
  have whole := Demands.bind reads demands content
  rw [List.append_nil] at whole
  rw [scan_eq]
  exact whole

/-- A cut through written boxes leaves some of them whole, and a part of the next one. -/
theorem exists_cut {count : Nat} (short : count < (boxes.flatMap toBytes).length) :
    ∃ before box after taken, boxes = before ++ box :: after ∧ taken < box.toBytes.length ∧
      count = (before.flatMap toBytes).length + taken ∧
      (boxes.flatMap toBytes).take count = before.flatMap toBytes ++ box.toBytes.take taken := by
  induction boxes generalizing count with
  | nil => exact absurd short (Nat.not_lt_zero count)
  | cons first others ih =>
      rw [List.flatMap_cons, List.length_append] at short
      rw [List.flatMap_cons, List.take_append]
      -- The cut goes through the first box, or it is one through the others.
      by_cases within : count < first.toBytes.length
      · refine ⟨[], first, others, count, rfl, within, (Nat.zero_add count).symm, ?_⟩
        rw [Nat.sub_eq_zero_of_le (Nat.le_of_lt within), List.take_zero, List.append_nil]
        rfl
      · have behind : count - first.toBytes.length < (others.flatMap toBytes).length := by omega
        rcases ih behind with ⟨before, box, after, taken, rfl, inBox, position, kept⟩
        refine ⟨first :: before, box, after, taken, rfl, inBox, ?_, ?_⟩
        · rw [List.flatMap_cons, List.length_append]
          omega
        · rw [List.take_of_length_le (Nat.le_of_not_lt within), kept, List.flatMap_cons,
            List.append_assoc]

/-- Only the boxes that are whole are found. -/
theorem split_cut (sound : Sound (before ++ box :: after)) {taken : Nat}
    (short : taken < box.toBytes.length) :
    split (before.flatMap toBytes ++ box.toBytes.take taken) =
      ⟨before, if taken = 0 then none else some truncated⟩ := by
  have part : split (box.toBytes.take taken) =
      ⟨[], if taken = 0 then none else some truncated⟩ := by
    by_cases nothing : taken = 0
    · rw [nothing, List.take_zero, split_nil, if_pos rfl]
    · have head := sound.right.head
      have notEmpty : box.toBytes.take taken ≠ [] := by
        intro isEmpty
        have length := congrArg List.length isEmpty
        rw [List.length_take, List.length_nil] at length
        omega
      rw [split_of_scan_error notEmpty (demands_scan head.1 head.2 taken short), if_neg nothing]
  rw [split_flatMap_append sound.left, part, List.append_nil]

end Box

namespace Item

/-- A fault behind some boxes is the fault of the file, unless one of the boxes has one. -/
theorem Directory.ofFile_of_split {file : Bytes} {boxes : List Box} {outline : Outline}
    {fault : Fault} (notEmpty : file ≠ []) (found : Box.split file = ⟨boxes, some fault⟩)
    (gone : boxes.foldlM Outline.step ⟨none, none, false⟩ = .ok outline) :
    Directory.ofFile file = .error fault := by
  have failed : (Box.split file).foldM Outline.step ⟨none, none, false⟩ = .error fault := by
    rw [found, Box.Sequence.foldM, bind_of_done gone]
    rfl
  rw [Directory.ofFile, if_neg notEmpty]
  exact bind_of_failed failed

end Item

namespace Container

open Item Payload Payload.Window

variable {container : Container} {before after : List Box} {box : Box} {count taken : Nat}

/-- The boxes in front of the media box. -/
def leadingBoxes (container : Container) : List Box :=
  [brandsBox, container.writtenDirectory]

/-- What a written file that is cut off is refused with. -/
def cutFault (container : Container) (count : Nat) : Fault :=
  if count = 0 then .parse .emptyInput
  else if count = brandsBox.toBytes.length then .parse .noMeta
  else if count = (container.leadingBoxes.flatMap Box.toBytes).length then .container
  else truncated

theorem boxes_of_cut (cut : container.fileBoxes = before ++ box :: after) :
    (before = [] ∧ box = brandsBox) ∨
      (before = [brandsBox] ∧ box = container.writtenDirectory) ∨
      (before = container.leadingBoxes ∧ box = container.mediaBox ∧ after = []) := by
  rcases before with _ | ⟨first, _ | ⟨second, _ | ⟨third, others⟩⟩⟩
  · cases cut
    exact Or.inl ⟨rfl, rfl⟩
  · cases cut
    exact Or.inr (Or.inl ⟨rfl, rfl⟩)
  · cases cut
    exact Or.inr (Or.inr ⟨rfl, rfl, rfl⟩)
  · cases others <;> cases cut

theorem length_leadingBoxes (container : Container) :
    (container.leadingBoxes.flatMap Box.toBytes).length =
      brandsBox.toBytes.length + container.writtenDirectory.toBytes.length := by
  simp [leadingBoxes]

theorem cutFault_within (cut : container.fileBoxes = before ++ box :: after) (inside : taken ≠ 0)
    (short : taken < box.toBytes.length) :
    container.cutFault ((before.flatMap Box.toBytes).length + taken) = truncated := by
  have brands := Box.length_toBytes brandsBox
  have leading := container.length_leadingBoxes
  rcases boxes_of_cut cut with ⟨rfl, rfl⟩ | ⟨rfl, rfl⟩ | ⟨rfl, -, -⟩
  · rw [List.flatMap_nil, List.length_nil, Nat.zero_add, cutFault, if_neg inside,
      if_neg (by omega), if_neg (by omega)]
  · rw [List.flatMap_singleton, cutFault, if_neg (by omega), if_neg (by omega),
      if_neg (by omega)]
  · rw [cutFault, if_neg (by omega), if_neg (by omega), if_neg (by omega)]

theorem cutFault_leading (container : Container) :
    container.cutFault (container.leadingBoxes.flatMap Box.toBytes).length = .container := by
  have leading := container.length_leadingBoxes
  have brands := Box.length_toBytes brandsBox
  have directory := Box.length_toBytes container.writtenDirectory
  rw [cutFault, if_neg (by omega), if_neg (by omega), if_pos rfl]

/-! ## The lenient reader -/

theorem outline_leadingBoxes (fits : container.toBytes.IsAddressable) :
    container.leadingBoxes.foldlM Outline.step ⟨none, none, false⟩ =
      .ok ⟨some brands, some container.directory, false⟩ :=
  (bind_of_done outline_brands).trans (bind_of_done (outline_directory (read_directoryBox fits)))

/-- There is no fault in the boxes that are whole. -/
theorem exists_outline (fits : container.toBytes.IsAddressable)
    (cut : container.fileBoxes = before ++ box :: after) :
    ∃ outline, before.foldlM Outline.step ⟨none, none, false⟩ = .ok outline := by
  rcases boxes_of_cut cut with ⟨rfl, -⟩ | ⟨rfl, -⟩ | ⟨rfl, -, -⟩
  · exact ⟨_, rfl⟩
  · exact ⟨_, rfl⟩
  · exact ⟨_, outline_leadingBoxes fits⟩

/-- Within a box the fault is that of the box. -/
theorem ofFile_within (fits : container.toBytes.IsAddressable)
    (cut : container.fileBoxes = before ++ box :: after) (inside : taken ≠ 0)
    (short : taken < box.toBytes.length) :
    Directory.ofFile (before.flatMap Box.toBytes ++ box.toBytes.take taken) =
      .error truncated := by
  have sound := sound_fileBoxes fits
  rw [cut] at sound
  have found := Box.split_cut sound short
  rw [if_neg inside] at found
  rcases exists_outline fits cut with ⟨outline, gone⟩
  refine Directory.ofFile_of_split ?_ found gone
  intro isEmpty
  have length := congrArg List.length isEmpty
  rw [List.length_append, List.length_take, List.length_nil] at length
  omega

theorem ofFile_brands (fits : container.toBytes.IsAddressable) :
    Directory.ofFile brandsBox.toBytes = .error (.parse .noMeta) := by
  have sound : Box.Sound [brandsBox] := (sound_fileBoxes fits).left
  have file : brandsBox.toBytes = [brandsBox].flatMap Box.toBytes := by
    rw [List.flatMap_singleton]
  rw [file, Directory.ofFile, Box.foldM_split_flatMap sound]
  rfl

theorem sound_leadingBoxes (fits : container.toBytes.IsAddressable) :
    Box.Sound container.leadingBoxes :=
  (sound_fileBoxes fits).left

theorem ofFile_leadingBoxes (fits : container.toBytes.IsAddressable) :
    Directory.ofFile (container.leadingBoxes.flatMap Box.toBytes) = .ok container.directory := by
  rw [Directory.ofFile, Box.foldM_split_flatMap (sound_leadingBoxes fits),
    outline_leadingBoxes fits]
  rfl

/-! ## The strict reader -/

/-- Without media boxes there is nothing to take the data of an image from. -/
theorem gather_nothing {alpha : Option Nat} {items : List Placed} {primary : Bytes}
    {alphaData : Option Bytes} (hasColor : ∃ placed ∈ items, placed.stored.item = 1) :
    (items.map Placed.location).foldlM (Gathered.step none 1 alpha) ⟨primary, alphaData, []⟩ =
      .error .container := by
  induction items with
  | nil =>
      rcases hasColor with ⟨placed, isMember, -⟩
      cases isMember
  | cons first others ih =>
      have nothing : readLocation none first.location [] = .error .container :=
        readLocation_placed first []
      rw [List.map_cons, List.foldlM_cons]
      -- Metadata is passed over; what has to be read is missing.
      by_cases isColor : first.stored.item = 1
      · apply bind_of_failed
        exact (if_pos isColor).trans (bind_of_failed nothing)
      by_cases isAlpha : some first.stored.item = alpha
      · apply bind_of_failed
        exact (if_neg isColor).trans ((if_pos isAlpha).trans (bind_of_failed nothing))
      · have passed : Gathered.step none 1 alpha ⟨primary, alphaData, []⟩ first.location =
            .ok ⟨primary, alphaData, []⟩ := (if_neg isColor).trans (if_neg isAlpha)
        rw [bind_of_done passed]
        apply ih
        rcases hasColor with ⟨placed, isMember, isOne⟩
        rcases List.mem_cons.mp isMember with rfl | isOther
        · exact absurd isOne isColor
        · exact ⟨placed, isOther, isOne⟩

theorem gatherFrom_nothing (container : Container) :
    container.gatherFrom [] = .error .container := by
  apply gather_nothing
  have last : container.storedItems = _ ++ [⟨1, container.color.data⟩] := rfl
  rw [placed, last, place_append]
  exact ⟨_, List.mem_append_right _ (List.mem_singleton.mpr rfl), rfl⟩

theorem payloads_leadingBoxes (fits : container.toBytes.IsAddressable)
    (pixels : container.HasPixels) :
    Payloads.read (container.leadingBoxes.flatMap Box.toBytes) = .error .container := by
  have sound := sound_leadingBoxes fits
  by_cases has : container.HasDenominators
  · have reads := strict_writtenDirectory fits pixels has
    have found : Layout.ofFile (container.leadingBoxes.flatMap Box.toBytes) =
        .ok (container.layoutDirectory container.table) := by
      rw [leadingBoxes, layout_ofBoxes sound, fold_cons sound.tail (layout_directory reads)]
      exact congrArg (Except.map _) fold_nil
    rw [payloads_of_layout found]
    exact bind_of_failed container.gatherFrom_nothing
  · have head := sound.tail.head
    have failed := strict_writtenDirectory_error fits pixels has
    have found : Layout.ofFile (container.leadingBoxes.flatMap Box.toBytes) =
        .error .container := by
      rw [leadingBoxes, layout_ofBoxes sound, List.flatMap_cons,
        fold_toBytes_error head.1 head.2 (layout_directory_error failed)]
      rfl
    exact bind_of_failed found

/-! ## Both readers -/

theorem parse_leadingBoxes (fits : container.toBytes.IsAddressable)
    (pixels : container.HasPixels) :
    parse (container.leadingBoxes.flatMap Box.toBytes) = .error .container := by
  rw [parse, bind_of_done (ofFile_leadingBoxes fits),
    bind_of_done (checkPrimary_directory container)]
  exact bind_of_failed (payloads_leadingBoxes fits pixels)

theorem parse_cut (fits : container.toBytes.IsAddressable)
    (pixels : container.HasPixels) (cut : container.fileBoxes = before ++ box :: after)
    (short : taken < box.toBytes.length) :
    parse (before.flatMap Box.toBytes ++ box.toBytes.take taken) =
      .error (container.cutFault ((before.flatMap Box.toBytes).length + taken)) := by
  -- Within a box one place is like another, between two boxes each is a case of its own.
  by_cases between : taken = 0
  · rw [between, List.take_zero, List.append_nil, Nat.add_zero]
    rcases boxes_of_cut cut with ⟨rfl, -⟩ | ⟨rfl, -⟩ | ⟨rfl, -, -⟩
    · rfl
    · rw [List.flatMap_singleton]
      exact bind_of_failed (ofFile_brands fits)
    · rw [cutFault_leading]
      exact parse_leadingBoxes fits pixels
  · rw [cutFault_within cut between short]
    exact bind_of_failed (ofFile_within fits cut between short)

/--
A written file that is cut off is refused, in a way that depends on the place of the cut alone.
Everywhere but between the directory and the media box the fault is one of its form.
-/
theorem parse_take_of_serialize {written : Bytes} (serialized : serialize container = .ok written)
    (fits : written.IsAddressable) (short : count < written.length) :
    parse (written.take count) = .error (container.cutFault count) ∧
      ((∃ cause, container.cutFault count = .parse cause) ∨
        written.take count = container.leadingBoxes.flatMap Box.toBytes ∧
          written.drop count = container.mediaBox.toBytes) := by
  rcases serialized_eq serialized with ⟨rfl, pixels⟩
  have inBoxes := short
  rw [toBytes_eq_flatMap] at inBoxes
  rcases Box.exists_cut inBoxes with ⟨before, box, after, taken, cut, inBox, position, kept⟩
  rw [← toBytes_eq_flatMap] at kept
  constructor
  · rw [kept, position]
    exact parse_cut fits pixels cut inBox
  · by_cases leading : count = (container.leadingBoxes.flatMap Box.toBytes).length
    · right
      have file : container.toBytes =
          container.leadingBoxes.flatMap Box.toBytes ++ container.mediaBox.toBytes := by
        rw [toBytes_eq_flatMap]
        simp [fileBoxes, leadingBoxes]
      rw [file, leading]
      exact ⟨List.take_left, List.drop_left⟩
    · left
      unfold cutFault
      split
      · exact ⟨_, rfl⟩
      split
      · exact ⟨_, rfl⟩
      · exact ⟨_, rfl⟩

/-- Nine bytes are missing, which are those of the media box. -/
theorem parse_take_bareXmp : serialize bareXmp = .ok bareXmp.toBytes ∧
    bareXmp.toBytes.length = 324 ∧ bareXmp.toBytes.IsAddressable ∧
      parse (bareXmp.toBytes.take 315) = .error .container := by
  have size : bareXmp.toBytes.length = 324 := by decide +kernel
  have fits : bareXmp.toBytes.IsAddressable := by
    rw [Bytes.IsAddressable, size]
    decide
  have short : 315 < bareXmp.toBytes.length := by
    rw [size]
    decide
  have serialized : serialize bareXmp = .ok bareXmp.toBytes := rfl
  have fault : bareXmp.cutFault 315 = .container := by decide +kernel
  have refused := (parse_take_of_serialize serialized fits short).1
  rw [fault] at refused
  exact ⟨serialized, size, fits, refused⟩

end Container

end AvifStill
