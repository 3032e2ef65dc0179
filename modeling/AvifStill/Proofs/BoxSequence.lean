import AvifStill.Proofs.Reading

/-!
# Going through written boxes

Boxes written one after another are found again by both readers: the lenient one takes a string
apart into exactly these boxes, the strict one goes from each to the next as long as every step reads
its box to the end. All sizes have 32 bits, so the boxes together have to be shorter than that
allows; no single bound on a box is needed then.
-/

namespace AvifStill

namespace Box

@[simp]
theorem length_toBytes (box : Box) : box.toBytes.length = box.content.length + 8 := by
  simp only [toBytes, List.length_append, Bytes.length_ofNat, FourCC.length_toBytes]
  omega

theorem length_le_flatMap {boxes : List Box} {box : Box} (isMember : box ∈ boxes) :
    box.content.length + 8 ≤ (boxes.flatMap toBytes).length := by
  induction boxes with
  | nil => cases isMember
  | cons first others ih =>
      simp only [List.flatMap_cons, List.length_append, length_toBytes]
      rcases List.mem_cons.mp isMember with rfl | isOther
      · omega
      · have := ih isOther
        omega

/-- Written boxes whose size fields can hold their sizes, none of an extended type. -/
structure Sound (boxes : List Box) : Prop where
  plain : ∀ box ∈ boxes, box.kind ≠ .uuid
  fits : (boxes.flatMap toBytes).length < Bytes.capacity 4

namespace Sound

theorem of_mem {boxes : List Box} {box : Box} (sound : Sound boxes) (isMember : box ∈ boxes) :
    box.kind ≠ .uuid ∧ box.content.length + 8 < Bytes.capacity 4 :=
  ⟨sound.plain box isMember, Nat.lt_of_le_of_lt (length_le_flatMap isMember) sound.fits⟩

theorem head {box : Box} {boxes : List Box} (sound : Sound (box :: boxes)) :
    box.kind ≠ .uuid ∧ box.content.length + 8 < Bytes.capacity 4 :=
  sound.of_mem (List.mem_cons_self ..)

theorem tail {box : Box} {boxes : List Box} (sound : Sound (box :: boxes)) : Sound boxes := by
  constructor
  · intro other isMember
    exact sound.plain other (List.mem_cons_of_mem box isMember)
  · have fits := sound.fits
    simp only [List.flatMap_cons, List.length_append] at fits
    omega

theorem left {before after : List Box} (sound : Sound (before ++ after)) : Sound before := by
  constructor
  · intro box isMember
    exact sound.plain box (List.mem_append_left after isMember)
  · have fits := sound.fits
    simp only [List.flatMap_append, List.length_append] at fits
    omega

theorem right {before after : List Box} (sound : Sound (before ++ after)) : Sound after := by
  constructor
  · intro box isMember
    exact sound.plain box (List.mem_append_right before isMember)
  · have fits := sound.fits
    simp only [List.flatMap_append, List.length_append] at fits
    omega

end Sound

/-- The content of a box behind its header. -/
def scanContent (header : Header) : Scan Box := fun rest =>
  match header.size with
  | none => .ok (⟨header.kind, rest⟩, [])
  | some size =>
      if size < header.length then .error (.parse .sizeBelowHeader)
      else do
        let (content, after) ← Scan.bytes truncated (size - header.length) rest
        return (⟨header.kind, content⟩, after)

theorem scan_eq : scan = Header.scan >>= scanContent := rfl

theorem split_nil : split [] = ⟨[], none⟩ := by
  rw [split, if_pos rfl]

theorem split_of_scan {box : Box} {input rest : Bytes} (done : scan input = .ok (box, rest)) :
    split input = ⟨box :: (split rest).boxes, (split rest).fault⟩ := by
  have notEmpty : input ≠ [] := by
    rintro rfl
    cases done
  rw [split, if_neg notEmpty]
  split
  · rename_i failed
    cases failed.symm.trans done
  · rename_i found
    cases found.symm.trans done
    rfl

theorem split_of_scan_error {input : Bytes} {fault : Fault} (notEmpty : input ≠ [])
    (failed : scan input = .error fault) : split input = ⟨[], some fault⟩ := by
  rw [split, if_neg notEmpty]
  split
  · rename_i found
    cases found.symm.trans failed
    rfl
  · rename_i found
    cases found.symm.trans failed

theorem foldl_snoc {α β : Type} (function : β → α) (items : List β) (known : List α) :
    items.foldl (fun known item => known ++ [function item]) known = known ++ items.map function := by
  induction items generalizing known with
  | nil => simp
  | cons item items ih => simp [ih]

/-- What is read as boxes in front of more bytes is found before what is found in these. -/
theorem split_of_reads {α : Type} {items : List α} {encode : α → Bytes} {decode : α → Box}
    (each : ∀ item ∈ items, Scan.Reads scan (encode item) (decode item)) (rest : Bytes) :
    split (items.flatMap encode ++ rest) =
      ⟨items.map decode ++ (split rest).boxes, (split rest).fault⟩ := by
  induction items with
  | nil => rfl
  | cons item items ih =>
      have first := each item (List.mem_cons_self ..)
      have others := ih fun other isMember => each other (List.mem_cons_of_mem item isMember)
      rw [List.flatMap_cons, List.append_assoc, split_of_scan (first _), others]
      rfl

theorem split_flatMap_append {boxes : List Box} (sound : Sound boxes) (rest : Bytes) :
    split (boxes.flatMap toBytes ++ rest) = ⟨boxes ++ (split rest).boxes, (split rest).fault⟩ := by
  have each : ∀ box ∈ boxes, Scan.Reads scan box.toBytes (id box) := by
    intro box isMember rest
    exact scan_toBytes (sound.of_mem isMember).2 (sound.of_mem isMember).1
  have found := split_of_reads each rest
  rwa [List.map_id] at found

theorem split_flatMap_toBytes {boxes : List Box} (sound : Sound boxes) :
    split (boxes.flatMap toBytes) = ⟨boxes, none⟩ := by
  have found := split_flatMap_append sound []
  rwa [split_nil, List.append_nil, List.append_nil] at found

theorem Sequence.foldM_none {σ : Type} (boxes : List Box) (step : σ → Box → Except Fault σ)
    (start : σ) : foldM ⟨boxes, none⟩ step start = boxes.foldlM step start := by
  rw [foldM]
  cases boxes.foldlM step start <;> rfl

theorem Sequence.done_of_foldM {σ : Type} {sequence : Sequence}
    {step : σ → Box → Except Fault σ} {start final : σ}
    (done : sequence.foldM step start = .ok final) :
    sequence = ⟨sequence.boxes, none⟩ ∧ sequence.boxes.foldlM step start = .ok final := by
  rcases done_of_bind done with ⟨found, gone, ended⟩
  rcases sequence with ⟨boxes, fault⟩
  cases fault with
  | none =>
      cases ended
      exact ⟨rfl, gone⟩
  | some fault => cases ended

theorem foldM_split_flatMap {σ : Type} {boxes : List Box} (sound : Sound boxes)
    (step : σ → Box → Except Fault σ) (start : σ) :
    (split (boxes.flatMap toBytes)).foldM step start = boxes.foldlM step start := by
  rw [split_flatMap_toBytes sound, Sequence.foldM_none]

/-- Where every box is taken in, a loop over boxes is one over what they stand for. -/
theorem foldlM_map {σ β : Type} {items : List β} {encode : β → Box} {advance : σ → β → σ}
    {step : σ → Box → Except Fault σ}
    (done : ∀ state, ∀ item ∈ items, step state (encode item) = .ok (advance state item))
    (start : σ) : (items.map encode).foldlM step start = .ok (items.foldl advance start) := by
  induction items generalizing start with
  | nil => rfl
  | cons item items ih =>
      rw [List.map_cons, List.foldlM_cons, done start item (List.mem_cons_self ..)]
      exact ih (fun state other isMember => done state other (List.mem_cons_of_mem item isMember))
        (advance start item)

theorem foldM_split_map {σ β : Type} {items : List β} {encode : β → Box} (advance : σ → β → σ)
    (step : σ → Box → Except Fault σ) (sound : Sound (items.map encode))
    (done : ∀ state, ∀ item ∈ items, step state (encode item) = .ok (advance state item))
    (start : σ) :
    (split ((items.map encode).flatMap toBytes)).foldM step start =
      .ok (items.foldl advance start) := by
  rw [foldM_split_flatMap sound]
  exact foldlM_map done start

end Box

namespace Payload

/-- The header of a written box as the strict reader sees it. -/
def Head.ofBox (box : Box) : Head :=
  ⟨box.kind, some box.content.length, 8⟩

namespace Window

variable {σ : Type} {leftover : Leftover} {step : σ → Head → Scan σ} {state next : σ} {box : Box}
  {boxes : List Box}

theorem enter_error {content rest : Bytes} {kind : FourCC} {unclaimed : Nat} {inner : Scan σ}
    {fault : Fault} (free : content.length ≤ unclaimed) (failed : inner content = .error fault) :
    enter leftover ⟨kind, some content.length, 8⟩ unclaimed inner (content ++ rest) =
      .error fault := by
  simp [enter, Head.reach, Nat.min_eq_left free, failed, bind, Except.bind]

theorem fold_toBytes_error {rest : Bytes} {fault : Fault} (plain : box.kind ≠ .uuid)
    (fits : box.content.length + 8 < Bytes.capacity 4)
    (failed : step state (.ofBox box) box.content = .error fault) :
    fold leftover step state (box.toBytes ++ rest) = .error fault := by
  have free : box.content.length ≤ (box.toBytes ++ rest).length := by
    simp only [List.length_append, Box.length_toBytes]
    omega
  have entered := @enter_error σ leftover box.content rest box.kind _ _ _ free failed
  rw [fold, foldFrom]
  split
  · rename_i found
    rw [Head.next?_toBytes plain fits] at found
    cases found
  · rename_i found
    rw [Head.next?_toBytes plain fits] at found
    cases found
  · rename_i found
    rw [Head.next?_toBytes plain fits] at found
    cases found
    split
    · rename_i same
      exact same.symm.trans entered
    · rename_i other
      cases other.symm.trans entered

theorem fold_cons (sound : Box.Sound (box :: boxes))
    (done : step state (.ofBox box) box.content = .ok (next, [])) :
    fold leftover step state ((box :: boxes).flatMap Box.toBytes) =
      fold leftover step next (boxes.flatMap Box.toBytes) := by
  rw [List.flatMap_cons]
  exact fold_toBytes_append sound.head.1 sound.head.2 done

theorem fold_map {β : Type} {items : List β} {encode : β → Box} (advance : σ → β → σ)
    (sound : Box.Sound (items.map encode))
    (done : ∀ state, ∀ item ∈ items,
      step state (.ofBox (encode item)) (encode item).content = .ok (advance state item, []))
    (state : σ) :
    fold leftover step state ((items.map encode).flatMap Box.toBytes) =
      .ok (items.foldl advance state, []) := by
  induction items generalizing state with
  | nil => exact fold_nil
  | cons item items ih =>
      rw [List.map_cons, fold_cons sound (done state item (List.mem_cons_self ..))]
      exact ih sound.tail
        (fun state other isMember => done state other (List.mem_cons_of_mem item isMember)) _

/-- A fault in one box of a list, the boxes before which are read to their ends. -/
theorem fold_map_error {β : Type} {before after : List β} {item : β} {encode : β → Box}
    {fault : Fault} (advance : σ → β → σ)
    (sound : Box.Sound ((before ++ item :: after).map encode))
    (done : ∀ state, ∀ item ∈ before,
      step state (.ofBox (encode item)) (encode item).content = .ok (advance state item, []))
    (failed : ∀ state, step state (.ofBox (encode item)) (encode item).content = .error fault)
    (state : σ) :
    fold leftover step state (((before ++ item :: after).map encode).flatMap Box.toBytes) =
      .error fault := by
  induction before generalizing state with
  | nil =>
      simp only [List.nil_append, List.map_cons] at sound ⊢
      rw [List.flatMap_cons]
      exact fold_toBytes_error sound.head.1 sound.head.2 (failed state)
  | cons first before ih =>
      simp only [List.cons_append, List.map_cons] at sound ⊢
      rw [fold_cons sound (done state first (List.mem_cons_self ..))]
      exact ih sound.tail
        (fun state other isMember => done state other (List.mem_cons_of_mem first isMember)) _

end Window

end Payload

end AvifStill
