import AvifStill.Proofs.BoxSequence
import AvifStill.Proofs.Cursor

/-!
# Where the content of a box ends

The start of a box tells how far its content reaches. The size in it counts the start as well, which
may be of three lengths, and twice as many with an extended type; where no size is given it is worked
out from what is left, before the extended type is skipped. Whatever the bytes are, a content that is
found this way lies within them. Going into it therefore succeeds, and leaves fewer bytes than there
were, by eight at least.
-/

namespace AvifStill

open Scan

namespace Box

theorem Header.size_of_scan {header : Header} {input rest : Bytes}
    (done : Header.scan input = .ok (header, rest)) (isZero : Bytes.toNat (input.take 4) = 0) :
    header.size = none := by
  rcases bind_eq_ok_iff.mp done with ⟨first, afterSize, readSize, done⟩
  rcases bind_eq_ok_iff.mp done with ⟨kind, afterKind, readKind, done⟩
  rcases bind_eq_ok_iff.mp done with ⟨wide, afterWide, readWide, done⟩
  rcases bind_eq_ok_iff.mp done with ⟨extended, afterExtended, readExtended, done⟩
  cases done
  rcases append_of_nat readSize with ⟨rfl, small⟩
  rw [List.take_left' (Bytes.length_ofNat 4 first), Bytes.toNat_ofNat_of_lt small] at isZero
  exact if_pos isZero

/-- The start of a box, with the size of its content. -/
structure Framing where
  kind : FourCC
  size : Nat
  deriving DecidableEq, Repr

end Box

/-! ## Reading the start of a box -/

namespace Cursor

open Box

def remaining : Step Nat := fun cursor => some (.ok cursor.bytesLeft, cursor)

/-- How many bytes have been read since some place, which may not be further on. -/
def takenSince (place : Nat) : Step Nat := fun cursor =>
  if place ≤ cursor.offset then some (.ok (cursor.offset - place), cursor) else none

/-- The size of a box from its first size field on, where the box starts at some place. -/
def announced (place short : Nat) : Step Nat :=
  if short = 0 then do
    let left ← remaining
    let taken ← takenSince place
    return left + taken
  else if short = 1 then wide
  else pure short

def skipExtended (kind : FourCC) : Step Unit :=
  if kind = .uuid then skip 16 else pure ()

/-- What a size leaves for the content, which has to be there. -/
def contentSize (place size : Nat) : Step Nat := do
  let taken ← takenSince place
  if size < taken then answer (.error (.parse .sizeBelowHeader))
  else do
    let left ← remaining
    if left < size - taken then answer (.error truncated) else pure (size - taken)

/-- The start of a box that starts at some place, where the cursor is. -/
def headerFrom (place : Nat) : Step Framing := do
  let short ← nat 4
  let kind ← fourCC
  let size ← announced place short
  skipExtended kind
  let size ← contentSize place size
  return ⟨kind, size⟩

/-- Reads a box up to its content. -/
def header : Step Framing := fun cursor => headerFrom cursor.offset cursor

/-- Reads a box whose content gets a cursor of its own. -/
def box : Step Box := do
  let framing ← header
  let content ← sub framing.size
  return ⟨framing.kind, content.data⟩

end Cursor

/-! ## The scan that it follows -/

namespace Box

/-- What a size leaves for the content, of so many bytes with the start. -/
def scanContentSize (total size : Nat) : Scan Nat := fun rest =>
  let taken := total - rest.length
  if size < taken then .error (.parse .sizeBelowHeader)
  else if rest.length < size - taken then .error truncated
  else .ok (size - taken, rest)

/-- Reads a box up to its content, where there are so many bytes. -/
def scanFraming (total : Nat) : Scan Framing := do
  let header ← Header.scan
  let size ← scanContentSize total (header.size.getD total)
  return ⟨header.kind, size⟩

end Box

namespace Cursor

open Box

variable {origin : Cursor}

theorem takenSince_eq {cursor : Cursor} (comes : origin.Advances cursor) :
    takenSince origin.offset cursor =
      some (.ok (origin.left.length - cursor.left.length), cursor) := by
  have taken : cursor.offset - origin.offset = origin.left.length - cursor.left.length := by
    rw [comes.offset_eq, Nat.add_sub_cancel_left]
  rw [← taken]
  exact if_pos comes.forth

theorem follows_announced (short : Nat) : FollowsFrom origin (announced origin.offset short) (do
    let wide ← Header.scanWide short
    return if short = 0 then origin.left.length else wide.getD short) := by
  unfold announced Header.scanWide
  by_cases isZero : short = 0
  · subst isZero
    intro cursor comes
    refine ⟨.ok origin.left.length, cursor, ?_, .refl comes.inside, rfl⟩
    have further : cursor.left.length ≤ origin.left.length := by
      rw [comes.left_eq, List.length_drop]
      exact Nat.sub_le ..
    rw [if_pos rfl, bind_of_done (rfl : remaining cursor = _), bind_of_done (takenSince_eq comes),
      ← length_left, Nat.add_sub_cancel' further]
    rfl
  · by_cases isOne : short = 1
    · have same : (some <$> Scan.nat truncated 8 >>= fun wide =>
          (pure (wide.getD short) : Scan Nat)) = Scan.nat truncated 8 := by
        simp
      simp only [if_neg isZero, if_pos isOne]
      rw [same]
      exact follows_wide origin
    · simp only [if_neg isZero, if_neg isOne, pure_bind, Option.getD_none]
      exact .pure short

theorem follows_skipExtended (kind : FourCC) : Follows (skipExtended kind) (do
    let _ ← Header.scanExtended kind) := by
  intro origin
  unfold skipExtended Header.scanExtended
  split
  · exact follows_skip 16 origin
  · exact .pure ()

theorem follows_contentSize (size : Nat) : FollowsFrom origin (contentSize origin.offset size)
    (scanContentSize origin.left.length size) := by
  intro cursor comes
  unfold contentSize scanContentSize
  rw [bind_of_done (takenSince_eq comes)]
  simp only
  split
  · exact ⟨_, cursor, rfl, .refl comes.inside, rfl⟩
  · rw [bind_of_done (rfl : remaining cursor = _), length_left cursor]
    split
    · exact ⟨_, cursor, rfl, .refl comes.inside, rfl⟩
    · exact ⟨_, cursor, rfl, .refl comes.inside, rfl⟩

theorem follows_headerFrom :
    FollowsFrom origin (headerFrom origin.offset) (scanFraming origin.left.length) := by
  have sizes (short : Nat) (wide : Option Nat) :
      (if short = 0 then none else some (wide.getD short)).getD origin.left.length =
        if short = 0 then origin.left.length else wide.getD short := by
    split <;> rfl
  have same : scanFraming origin.left.length =
      Scan.nat truncated 4 >>= fun short => Scan.fourCC truncated >>= fun kind =>
        (Header.scanWide short >>= fun wide =>
          pure (if short = 0 then origin.left.length else wide.getD short)) >>= fun size =>
        (Header.scanExtended kind >>= fun _ => pure ()) >>= fun _ =>
          scanContentSize origin.left.length size >>= fun size => pure (Framing.mk kind size) := by
    simp only [scanFraming, Header.scan, bind_assoc, pure_bind, sizes]
  rw [same]
  refine (follows_nat 4 origin).bind fun short => (follows_fourCC origin).bind fun kind => ?_
  refine (follows_announced short).bind fun size => ?_
  refine (follows_skipExtended kind origin).bind fun _ => ?_
  exact (follows_contentSize size).bind fun size => .pure (Framing.mk kind size)

end Cursor

/-! ## What is known then -/

namespace Box

theorem of_scanContentSize {total size found : Nat} {rest after : Bytes}
    (done : scanContentSize total size rest = .ok (found, after)) :
    after = rest ∧ found = size - (total - rest.length) ∧ found ≤ rest.length := by
  simp only [scanContentSize] at done
  split at done
  · cases done
  · split at done
    · cases done
    · rename_i enough
      cases done
      exact ⟨rfl, rfl, Nat.not_lt.mp enough⟩

/-- What has been read is a header, and its size is what the content goes by. -/
theorem of_scanFraming {total : Nat} {framing : Framing} {input rest : Bytes}
    (done : scanFraming total input = .ok (framing, rest)) :
    ∃ header, Header.scan input = .ok (header, rest) ∧ framing.kind = header.kind ∧
      framing.size = header.size.getD total - (total - rest.length) ∧
      framing.size ≤ rest.length := by
  rcases bind_eq_ok_iff.mp done with ⟨header, between, readHeader, done⟩
  rcases bind_eq_ok_iff.mp done with ⟨size, after, readSize, done⟩
  cases done
  rcases of_scanContentSize readSize with ⟨rfl, isSize, fits⟩
  exact ⟨header, readHeader, rfl, isSize, fits⟩

/-- That the content is there is checked once more when it is read. -/
theorem scanContentSize_bytes {total size : Nat} {rest : Bytes} {next : Nat → Bytes → Scan Box} :
    (scanContentSize total size >>= fun size => Scan.bytes truncated size >>= next size) rest =
      if size < total - rest.length then .error (.parse .sizeBelowHeader)
      else (Scan.bytes truncated (size - (total - rest.length)) >>=
        next (size - (total - rest.length))) rest := by
  split
  · rename_i tooSmall
    exact bind_of_error (if_pos tooSmall)
  · rename_i large
    by_cases isShort : rest.length < size - (total - rest.length)
    · have refused : scanContentSize total size rest = .error truncated :=
        (if_neg large).trans (if_pos isShort)
      have missing : Scan.bytes truncated (size - (total - rest.length)) rest = .error truncated :=
        if_neg fun enough => Nat.not_lt.mpr (Bytes.hasAtLeast_iff.mp enough) isShort
      rw [bind_of_error refused, bind_of_error missing]
    · have found : scanContentSize total size rest = .ok (size - (total - rest.length), rest) :=
        (if_neg large).trans (if_neg isShort)
      exact bind_of_ok found

/-- A box is read by finding where its content ends, and then reading this far. -/
theorem scan_eq_scanFraming (input : Bytes) : scan input =
    (scanFraming input.length >>= fun framing =>
      Scan.bytes truncated framing.size >>= fun content => pure ⟨framing.kind, content⟩) input := by
  rw [scan_eq, scanFraming, bind_assoc]
  cases readHeader : Header.scan input with
  | error fault => rw [bind_of_error readHeader, bind_of_error readHeader]
  | ok pair =>
      rcases pair with ⟨header, rest⟩
      have sizes := Header.length_of_scan readHeader
      have taken : input.length - rest.length = header.length := by omega
      have all : input.length - header.length = rest.length := by omega
      rw [bind_of_ok readHeader, bind_of_ok readHeader]
      simp only [bind_assoc, pure_bind]
      rw [scanContentSize_bytes, taken]
      rcases header with ⟨kind, _ | size, length⟩
      · have whole : Scan.bytes truncated rest.length rest = .ok (rest, []) := by
          simpa using Scan.bytes_append truncated [] (Eq.refl rest.length)
        have large : ¬input.length < length := by
          simp only at sizes
          omega
        simp only [Option.getD_none] at all ⊢
        rw [if_neg large, all, bind_of_ok whole]
        rfl
      · rfl

end Box

namespace Cursor

open Box

/-- The place at which a box starts is where the cursor is. -/
theorem follows_header {cursor : Cursor} (inside : cursor.IsInside) :
    ∃ result after, header cursor = some (result, after) ∧ cursor.Advances after ∧
      scanFraming cursor.left.length cursor.left =
        result.map fun framing => (framing, after.left) :=
  follows_headerFrom cursor (.refl inside)

theorem follows_box : Follows box Box.scan := by
  intro origin cursor comes
  rcases follows_header comes.inside with ⟨found, between, done, advances, read⟩
  rw [scan_eq_scanFraming]
  cases found with
  | error fault =>
      exact ⟨.error fault, between, Cursor.bind_of_failed done, advances, Scan.bind_of_error read⟩
  | ok framing =>
      rw [Scan.bind_of_ok read]
      have follows := (follows_sub framing.size).bind_pure fun content =>
        Box.mk framing.kind content.data
      rcases follows between between (.refl advances.inside) with
        ⟨result, after, entered, further, same⟩
      simp only [bind_assoc, pure_bind] at same
      exact ⟨result, after, (Cursor.bind_of_done done).trans entered, advances.trans further, same⟩

theorem inside_of_header {cursor after : Cursor} {framing : Framing}
    (done : header cursor = some (.ok framing, after)) : cursor.IsInside := by
  rcases Cursor.done_of_bind done with ⟨short, between, read, -⟩
  exact inside_of_nat (by decide) read

end Cursor

/-- What is known once the start of a box has been read. -/
structure Box.Framing.Opens (framing : Framing) (before after : Cursor) : Prop where
  same : after.data = before.data
  /-- What has been read has the length of a header. -/
  header : before.offset + 8 ≤ after.offset ∧ after.offset ≤ before.offset + 32
  /-- The content is there. -/
  fits : framing.size ≤ after.bytesLeft
  /-- So going into it succeeds, and the cursor goes to its end. -/
  enters : Cursor.sub framing.size after =
    some (.ok (.start (after.left.take framing.size)), ⟨before.data, after.offset + framing.size⟩)
  inside : Cursor.IsInside ⟨before.data, after.offset + framing.size⟩
  /-- Fewer bytes follow the box than there were. -/
  shrinks : Cursor.bytesLeft ⟨before.data, after.offset + framing.size⟩ + 8 ≤ before.bytesLeft
  /-- Without a size the content is all that is left, whatever the kind. -/
  toEnd : Bytes.toNat (before.left.take 4) = 0 → framing.size = after.bytesLeft

namespace Cursor

open Box

theorem opens_of_header {before after : Cursor} {framing : Framing}
    (done : header before = some (.ok framing, after)) : framing.Opens before after := by
  rcases follows_header (inside_of_header done) with ⟨result, last, finished, advances, same⟩
  cases finished.symm.trans done
  rcases of_scanFraming same with ⟨found, readHeader, -, isSize, fits⟩
  have sizes := Header.length_of_scan readHeader
  have moved := advances.offset_eq
  rw [length_left] at fits
  have forth := advances_bytes advances.inside fits
  rw [advances.data] at forth
  have left := length_left before
  have within : after.offset + framing.size ≤ before.data.length := forth.inside
  constructor
  case same => exact advances.data
  case header => omega
  case fits => exact fits
  case enters =>
    rw [sub, bind_of_done (bytes_eq advances.inside fits), advances.data]
    rfl
  case inside => exact within
  case shrinks =>
    unfold bytesLeft at *
    simp only
    omega
  case toEnd =>
    intro isZero
    rw [Header.size_of_scan readHeader isZero, Option.getD_none] at isSize
    rw [isSize, ← length_left]
    omega

/-- The bytes of an extended type are not part of a content that runs to the end. -/
example : ((header (.start (0 :: 0 :: 0 :: 0 :: (FourCC.uuid.toBytes ++ List.replicate 16 7 ++
    [1, 2, 3])))).map fun outcome => (outcome.1.toOption, outcome.2.offset)) =
      some (some ⟨.uuid, 3⟩, 24) := by
  decide

end Cursor

end AvifStill
