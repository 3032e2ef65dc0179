import AvifStill.Proofs.BoxSequence

/-!
# Boxes as they stand in a file

The size of a box is given in 32 bits, in 64 bits, or not at all if the box runs to the end, and one
kind of box has an extended type. A segment is a box with these choices, so it determines its bytes.
What is read as a box is a segment, and every segment is read as its box. A byte string therefore
comes apart without a fault exactly if it is a sequence of segments of which only the last one may
run to the end.
-/

namespace AvifStill

namespace Scan

variable {short fault : Fault} {input : Bytes}

theorem failed_of_bind {α β : Type} {first : Scan α} {next : α → Scan β}
    (failed : (first >>= next) input = .error fault) :
    first input = .error fault ∨ ∃ middle between,
      first input = .ok (middle, between) ∧ next middle between = .error fault := by
  rcases AvifStill.failed_of_bind failed with failed | ⟨⟨middle, between⟩, done, failed⟩
  · exact Or.inl failed
  · exact Or.inr ⟨middle, between, done, failed⟩

theorem fault_of_bytes {count : Nat} (failed : bytes short count input = .error fault) :
    fault = short := by
  unfold bytes at failed
  split at failed
  · cases failed
  · cases failed
    rfl

theorem fault_of_nat {width : Nat} (failed : nat short width input = .error fault) :
    fault = short := by
  rcases failed_of_bind failed with failed | ⟨_, _, _, failed⟩
  · exact fault_of_bytes failed
  · cases failed

theorem fault_of_fourCC (failed : fourCC short input = .error fault) : fault = short := by
  unfold fourCC at failed
  split at failed
  · cases failed
  · cases failed
    rfl

end Scan

namespace Box

open Scan

/-- How the size of a box is given. -/
inductive SizeForm where
  | short
  | wide
  | toEnd
  deriving DecidableEq, Repr

namespace SizeForm

/-- How long a header without an extended type is. -/
def headerLength : SizeForm → Nat
  | short => 8
  | wide => 16
  | toEnd => 8

/-- The number that comes before the kind. -/
def firstField : SizeForm → Nat → Nat
  | short, length => length
  | wide, _ => 1
  | toEnd, _ => 0

/-- What comes behind the kind. -/
def secondField : SizeForm → Nat → Bytes
  | wide, length => Bytes.ofNat 8 length
  | _, _ => []

def header (form : SizeForm) (kind : FourCC) (extended : Bytes) (length : Nat) : Bytes :=
  Bytes.ofNat 4 (form.firstField length) ++
    (kind.toBytes ++ (form.secondField length ++ extended))

/-- Whether the length of a box can be given in this form. -/
def Holds : SizeForm → Nat → Prop
  | short, length => length < Bytes.capacity 4
  | wide, length => length < Bytes.capacity 8
  | toEnd, _ => True

instance (form : SizeForm) (length : Nat) : Decidable (form.Holds length) :=
  match form with
  | short | wide => inferInstanceAs (Decidable (_ < _))
  | toEnd => inferInstanceAs (Decidable True)

theorem firstField_lt {form : SizeForm} {length : Nat} (holds : form.Holds length) :
    form.firstField length < Bytes.capacity 4 := by
  cases form with
  | short => exact holds
  | wide => exact (by decide : 1 < Bytes.capacity 4)
  | toEnd => exact (by decide : 0 < Bytes.capacity 4)

theorem reads_secondField {form : SizeForm} {length : Nat} (holds : form.Holds length)
    (least : 8 ≤ length) :
    Reads (Header.scanWide (form.firstField length)) (form.secondField length)
      (if form = .wide then some length else none) := by
  cases form with
  | short =>
      have notWide : Header.scanWide length = pure none := if_neg (by omega)
      rw [firstField, notWide]
      exact .pure none
  | wide => exact (Reads.nat truncated holds).map some
  | toEnd => exact .pure none

end SizeForm

/-- A box with the choices that its bytes depend on. -/
structure Segment where
  box : Box
  form : SizeForm
  extended : Bytes
  length_extended : extended.length = if box.kind = .uuid then 16 else 0
  holds : form.Holds (form.headerLength + extended.length + box.content.length)

namespace Segment

variable {segment : Segment} {segments : List Segment}

def headerLength (segment : Segment) : Nat :=
  segment.form.headerLength + segment.extended.length

def length (segment : Segment) : Nat :=
  segment.headerLength + segment.box.content.length

def header (segment : Segment) : Bytes :=
  segment.form.header segment.box.kind segment.extended segment.length

def toBytes (segment : Segment) : Bytes :=
  segment.header ++ segment.box.content

/-- Whether the segment says where it ends. -/
def IsClosed (segment : Segment) : Prop :=
  segment.form ≠ .toEnd

instance (segment : Segment) : Decidable segment.IsClosed :=
  inferInstanceAs (Decidable (_ ≠ _))

/-- The header as it is read. -/
def readHeader (segment : Segment) : Header :=
  ⟨segment.box.kind, if segment.form = .toEnd then none else some segment.length,
    segment.headerLength⟩

@[simp]
theorem length_header (segment : Segment) : segment.header.length = segment.headerLength := by
  rcases segment with ⟨box, form, extended, length_extended, holds⟩
  cases form <;>
    simp [header, SizeForm.header, headerLength, SizeForm.headerLength, SizeForm.secondField] <;>
    omega

@[simp]
theorem length_toBytes (segment : Segment) : segment.toBytes.length = segment.length := by
  simp [toBytes, length]

theorem eight_le_length (segment : Segment) : 8 ≤ segment.length := by
  have least : 8 ≤ segment.form.headerLength := by
    cases segment.form <;> decide
  unfold length headerLength
  omega

theorem reads_extended (segment : Segment) :
    Reads (Header.scanExtended segment.box.kind) segment.extended segment.extended := by
  have length := segment.length_extended
  unfold Header.scanExtended
  split at length
  · rename_i isExtended
    rw [if_pos isExtended]
    exact .bytes truncated length
  · rename_i isPlain
    rw [if_neg isPlain, List.length_eq_zero_iff.mp length]
    exact .pure []

theorem holds_length (segment : Segment) : segment.form.Holds segment.length :=
  segment.holds

theorem reads_header (segment : Segment) :
    Reads Header.scan segment.header segment.readHeader := by
  have least := segment.eight_le_length
  have found : segment.readHeader = {
      kind := segment.box.kind
      size := if segment.form.firstField segment.length = 0 then none
        else some ((if segment.form = .wide then some segment.length else none).getD
          (segment.form.firstField segment.length))
      length := (if (if segment.form = .wide then some segment.length else none).isSome then 16
        else 8) + segment.extended.length } := by
    have positive : segment.length ≠ 0 := by omega
    cases form : segment.form <;>
      simp [readHeader, headerLength, form, SizeForm.headerLength, SizeForm.firstField, positive]
  rw [found, header, SizeForm.header, ← List.append_nil segment.extended]
  apply Reads.bind (.nat truncated (SizeForm.firstField_lt segment.holds_length))
  apply Reads.bind (.fourCC truncated segment.box.kind)
  apply Reads.bind (SizeForm.reads_secondField segment.holds_length least)
  rw [List.append_nil]
  exact segment.reads_extended.bind_pure _

theorem scan_append (segment : Segment) {rest : Bytes} (ends : segment.form = .toEnd → rest = []) :
    scan (segment.toBytes ++ rest) = .ok (segment.box, rest) := by
  rw [scan_eq, toBytes, List.append_assoc, bind_of_ok (segment.reads_header _)]
  by_cases isEnd : segment.form = .toEnd
  · have size : segment.readHeader.size = none := if_pos isEnd
    rw [ends isEnd, List.append_nil]
    simp only [scanContent, size]
    rfl
  · have size : segment.readHeader.size = some segment.length := if_neg isEnd
    have long : ¬segment.length < segment.readHeader.length := by
      simp [readHeader, length]
    have content : Scan.bytes truncated (segment.length - segment.headerLength)
        (segment.box.content ++ rest) = .ok (segment.box.content, rest) :=
      bytes_append truncated rest (Nat.add_sub_cancel_left ..).symm
    simp only [scanContent, size, if_neg long]
    exact bind_of_done content

/-! ## What is read is a segment -/

/-- A box that runs to the end has any length, so the length comes last. -/
theorem exists_of_scanWide {first : Nat} {wide : Option Nat} {input rest : Bytes}
    (fits : first < Bytes.capacity 4) (done : Header.scanWide first input = .ok (wide, rest)) :
    ∃ form : SizeForm, (form = .toEnd ↔ first = 0) ∧
      form.headerLength = (if wide.isSome then 16 else 8) ∧
        ∀ length, (form = .toEnd ∨ length = wide.getD first) → form.Holds length ∧
          form.firstField length = first ∧ input = form.secondField length ++ rest := by
  unfold Header.scanWide at done
  split at done
  · rename_i isOne
    rw [map_eq_pure_bind] at done
    rcases bind_eq_ok_iff.mp done with ⟨value, between, read, finish⟩
    cases finish
    rcases append_of_nat read with ⟨rfl, small⟩
    refine ⟨.wide, by simp [isOne], rfl, ?_⟩
    rintro length (isOpen | rfl)
    · cases isOpen
    · exact ⟨small, isOne.symm, rfl⟩
  · cases done
    by_cases isZero : first = 0
    · exact ⟨.toEnd, by simp [isZero], rfl, fun _ _ => ⟨trivial, isZero.symm, rfl⟩⟩
    · refine ⟨.short, by simp [isZero], rfl, ?_⟩
      rintro length (isOpen | rfl)
      · cases isOpen
      · exact ⟨fits, rfl, rfl⟩

theorem append_of_scanExtended {kind : FourCC} {extended input rest : Bytes}
    (done : Header.scanExtended kind input = .ok (extended, rest)) :
    input = extended ++ rest ∧ extended.length = if kind = .uuid then 16 else 0 := by
  unfold Header.scanExtended at done
  split at done
  · rename_i isExtended
    rw [if_pos isExtended]
    exact append_of_bytes done
  · rename_i isPlain
    rw [if_neg isPlain]
    cases done
    exact ⟨rfl, rfl⟩

theorem exists_of_scanHeader {header : Header} {input rest : Bytes}
    (done : Header.scan input = .ok (header, rest)) :
    ∃ (form : SizeForm) (extended : Bytes), (form = .toEnd ↔ header.size = none) ∧
      header.length = form.headerLength + extended.length ∧
        (extended.length = if header.kind = .uuid then 16 else 0) ∧
          ∀ length, (form = .toEnd ∨ header.size = some length) → form.Holds length ∧
            input = form.header header.kind extended length ++ rest := by
  rcases bind_eq_ok_iff.mp done with ⟨first, afterSize, readSize, done⟩
  rcases bind_eq_ok_iff.mp done with ⟨kind, afterKind, readKind, done⟩
  rcases bind_eq_ok_iff.mp done with ⟨wide, afterWide, readWide, done⟩
  rcases bind_eq_ok_iff.mp done with ⟨extended, afterExtended, readExtended, done⟩
  cases done
  rcases append_of_nat readSize with ⟨rfl, small⟩
  rcases exists_of_scanWide small readWide with ⟨form, isOpen, headerLength, holds⟩
  rcases append_of_scanExtended readExtended with ⟨rfl, length_extended⟩
  cases append_of_fourCC readKind
  refine ⟨form, extended, ?_, ?_, length_extended, ?_⟩
  · simp [isOpen]
  · rw [headerLength]
  · intro length isLength
    have isLength : form = .toEnd ∨ length = wide.getD first := by
      rcases isLength with isEnd | isSize
      · exact Or.inl isEnd
      · right
        split at isSize
        · cases isSize
        · exact (Option.some.inj isSize).symm
    rcases holds length isLength with ⟨fits, firstField, rfl⟩
    refine ⟨fits, ?_⟩
    simp [SizeForm.header, firstField]

theorem exists_of_scan {box : Box} {input rest : Bytes} (done : scan input = .ok (box, rest)) :
    ∃ segment : Segment, segment.box = box ∧ input = segment.toBytes ++ rest ∧
      (segment.form = .toEnd → rest = []) := by
  rw [scan_eq] at done
  rcases bind_eq_ok_iff.mp done with ⟨⟨kind, size, headerLength⟩, after, readHeader, entered⟩
  rcases exists_of_scanHeader readHeader with ⟨form, extended, isOpen, rfl, isExtended, holds⟩
  cases size with
  | none =>
      cases entered
      rcases holds (form.headerLength + extended.length + after.length) (Or.inl (isOpen.mpr rfl))
        with ⟨fits, rfl⟩
      refine ⟨⟨⟨kind, after⟩, form, extended, isExtended, fits⟩, rfl, ?_, fun _ => rfl⟩
      exact (List.append_nil _).symm
  | some size =>
      rcases holds size (Or.inr rfl) with ⟨fits, rfl⟩
      simp only [scanContent] at entered
      split at entered
      · cases entered
      · rename_i long
        rcases done_of_bind entered with ⟨⟨content, behind⟩, readContent, finish⟩
        cases finish
        rcases append_of_bytes readContent with ⟨rfl, isLength⟩
        have whole : size = form.headerLength + extended.length + content.length := by omega
        subst whole
        refine ⟨⟨⟨kind, content⟩, form, extended, isExtended, fits⟩, rfl, ?_, ?_⟩
        · exact (List.append_assoc ..).symm
        · intro isEnd
          cases isOpen.mp isEnd

end Segment

theorem scan_eq_ok_iff {box : Box} {input rest : Bytes} :
    scan input = .ok (box, rest) ↔ ∃ segment : Segment, segment.box = box ∧
      input = segment.toBytes ++ rest ∧ (segment.form = .toEnd → rest = []) := by
  constructor
  · exact Segment.exists_of_scan
  · rintro ⟨segment, rfl, rfl, ends⟩
    exact segment.scan_append ends

/-! ## Sequences -/

namespace Segment

variable {segment : Segment} {segments : List Segment}

theorem reads_scan (isClosed : segment.IsClosed) : Reads scan segment.toBytes segment.box := by
  intro rest
  exact segment.scan_append fun isEnd => absurd isEnd isClosed

theorem split_flatMap_append (closed : ∀ segment ∈ segments, segment.IsClosed) (rest : Bytes) :
    split (segments.flatMap toBytes ++ rest) =
      ⟨segments.map box ++ (split rest).boxes, (split rest).fault⟩ :=
  split_of_reads (fun segment isMember => reads_scan (closed segment isMember)) rest

/-- None of the segments but the last runs to the end. -/
def AreClosed (segments : List Segment) : Prop :=
  ∀ segment ∈ segments.dropLast, segment.IsClosed

theorem areClosed_of_forall (closed : ∀ segment ∈ segments, segment.IsClosed) :
    AreClosed segments := by
  intro segment isMember
  exact closed segment (List.dropLast_subset segments isMember)

theorem split_flatMap (closed : AreClosed segments) :
    split (segments.flatMap toBytes) = ⟨segments.map box, none⟩ := by
  rcases List.eq_nil_or_concat segments with rfl | ⟨before, last, rfl⟩
  · exact split_nil
  · have alone : split last.toBytes = ⟨[last.box], none⟩ := by
      have scanned : scan (last.toBytes ++ []) = .ok (last.box, []) :=
        last.scan_append fun _ => rfl
      rw [List.append_nil] at scanned
      rw [split_of_scan scanned, split_nil]
    rw [List.concat_eq_append] at closed ⊢
    rw [AreClosed, List.dropLast_concat] at closed
    rw [List.flatMap_append, List.flatMap_singleton, split_flatMap_append closed, alone,
      List.map_append, List.map_singleton]

/-- Where the box of every segment is taken in, the loop is one over what the segments stand for. -/
theorem foldM_split_map {σ β : Type} {items : List β} {encode : β → Segment} {advance : σ → β → σ}
    {step : σ → Box → Except Fault σ} (closed : AreClosed (items.map encode))
    (done : ∀ state, ∀ item ∈ items, step state (encode item).box = .ok (advance state item))
    (start : σ) :
    (split ((items.map encode).flatMap toBytes)).foldM step start =
      .ok (items.foldl advance start) := by
  rw [split_flatMap closed, Sequence.foldM_none, List.map_map]
  exact foldlM_map done start

theorem areClosed_cons : AreClosed (segment :: segments) ↔
    (segments ≠ [] → segment.IsClosed) ∧ AreClosed segments := by
  cases segments with
  | nil => simp [AreClosed]
  | cons second others => simp [AreClosed]

theorem append_ne_nil {rest : Bytes} (segment : Segment) : segment.toBytes ++ rest ≠ [] := by
  intro isEmpty
  have least := segment.eight_le_length
  have size := congrArg List.length isEmpty
  rw [List.length_append, length_toBytes, List.length_nil] at size
  omega

theorem cases_of_split {input : Bytes} {boxes : List Box} (whole : split input = ⟨boxes, none⟩) :
    (input = [] ∧ boxes = []) ∨ ∃ first others rest, boxes = first :: others ∧
      scan input = .ok (first, rest) ∧ split rest = ⟨others, none⟩ := by
  by_cases isEmpty : input = []
  · subst isEmpty
    cases split_nil.symm.trans whole
    exact Or.inl ⟨rfl, rfl⟩
  · right
    cases scanned : scan input with
    | error fault => cases (split_of_scan_error isEmpty scanned).symm.trans whole
    | ok found =>
        injection (split_of_scan scanned).symm.trans whole with isBoxes noFault
        refine ⟨found.1, (split found.2).boxes, found.2, isBoxes.symm, rfl, ?_⟩
        rw [← noFault]

theorem exists_of_split {input : Bytes} {boxes : List Box} (whole : split input = ⟨boxes, none⟩) :
    ∃ segments, AreClosed segments ∧ segments.map box = boxes ∧
      input = segments.flatMap toBytes := by
  induction boxes generalizing input with
  | nil =>
      rcases cases_of_split whole with ⟨rfl, -⟩ | ⟨first, others, rest, impossible, -, -⟩
      · exact ⟨[], by simp [AreClosed], rfl, rfl⟩
      · cases impossible
  | cons first others ih =>
      rcases cases_of_split whole with ⟨-, impossible⟩ | ⟨_, _, rest, same, scanned, after⟩
      · cases impossible
      cases same
      rcases scan_eq_ok_iff.mp scanned with ⟨segment, rfl, rfl, ends⟩
      rcases ih after with ⟨segments, closed, rfl, rfl⟩
      refine ⟨segment :: segments, ?_, rfl, rfl⟩
      refine areClosed_cons.mpr ⟨?_, closed⟩
      intro notEmpty isEnd
      rcases List.exists_cons_of_ne_nil notEmpty with ⟨second, others, rfl⟩
      exact second.append_ne_nil (ends isEnd)

theorem split_eq_iff {input : Bytes} {boxes : List Box} :
    split input = ⟨boxes, none⟩ ↔ ∃ segments, AreClosed segments ∧ segments.map box = boxes ∧
      input = segments.flatMap toBytes := by
  constructor
  · exact exists_of_split
  · rintro ⟨segments, closed, rfl, rfl⟩
    exact split_flatMap closed

end Segment

/-! ## Faults of boxes -/

variable {input : Bytes} {fault : Fault}

theorem Header.fault_of_scan (failed : Header.scan input = .error fault) : fault = truncated := by
  rcases Scan.failed_of_bind failed with failed | ⟨first, _, -, failed⟩
  · exact fault_of_nat failed
  rcases Scan.failed_of_bind failed with failed | ⟨kind, _, -, failed⟩
  · exact fault_of_fourCC failed
  rcases Scan.failed_of_bind failed with failed | ⟨wide, _, -, failed⟩
  · unfold scanWide at failed
    split at failed
    · rw [map_eq_pure_bind] at failed
      rcases Scan.failed_of_bind failed with failed | ⟨_, _, -, failed⟩
      · exact fault_of_nat failed
      · cases failed
    · cases failed
  rcases Scan.failed_of_bind failed with failed | ⟨extended, _, -, failed⟩
  · unfold scanExtended at failed
    split at failed
    · exact fault_of_bytes failed
    · cases failed
  · cases failed

theorem fault_of_scan (failed : scan input = .error fault) :
    fault = truncated ∨ fault = .parse .sizeBelowHeader := by
  rw [scan_eq] at failed
  rcases Scan.failed_of_bind failed with failed | ⟨header, rest, -, failed⟩
  · exact Or.inl (Header.fault_of_scan failed)
  unfold scanContent at failed
  split at failed
  · cases failed
  split at failed
  · cases failed
    exact Or.inr rfl
  · rcases AvifStill.failed_of_bind failed with failed | ⟨_, -, failed⟩
    · exact Or.inl (fault_of_bytes failed)
    · cases failed

/-- Fewer bytes than the shortest header has are no box. -/
theorem scan_short (short : input.length < 8) : scan input = .error truncated := by
  cases found : Header.scan input with
  | error fault =>
      cases Header.fault_of_scan found
      rw [scan_eq]
      exact Scan.bind_of_error found
  | ok pair =>
      have taken := Header.length_of_scan found
      omega

end Box

end AvifStill
