import AvifStill.Proofs.Reading

/-!
# Reading with a cursor

A scan is handed the bytes that are left and hands on those behind it. Here the same is done with a
cursor, which keeps all of its bytes and counts how many have been read. Its steps have no outcome
if they read bytes that are not there, so nothing keeps a cursor inside its bytes but the checks of
the steps themselves.

Every step is shown to follow a scan: from any place inside it has an outcome, it ends inside and
not before that place, also when it fails, and its result is that of the scan on what is left there.
-/

namespace AvifStill

open Item

/-- Some bytes, and how many of them have been read. -/
structure Cursor where
  data : Bytes
  offset : Nat
  deriving DecidableEq, Repr

namespace Cursor

def start (data : Bytes) : Cursor := ⟨data, 0⟩

def bytesLeft (cursor : Cursor) : Nat := cursor.data.length - cursor.offset

/-- The bytes that have not been read. -/
def left (cursor : Cursor) : Bytes := cursor.data.drop cursor.offset

def IsInside (cursor : Cursor) : Prop := cursor.offset ≤ cursor.data.length

/-- Further on in the same bytes, and not behind their end. -/
structure Advances (before after : Cursor) : Prop where
  data : after.data = before.data
  forth : before.offset ≤ after.offset
  inside : after.IsInside

theorem length_left (cursor : Cursor) : cursor.left.length = cursor.bytesLeft :=
  List.length_drop

namespace Advances

variable {first second third : Cursor}

theorem refl (inside : first.IsInside) : first.Advances first :=
  ⟨rfl, Nat.le_refl _, inside⟩

theorem trans (advances : first.Advances second) (further : second.Advances third) :
    first.Advances third :=
  ⟨further.data.trans advances.data, Nat.le_trans advances.forth further.forth, further.inside⟩

/-- What lies between two places is what is left at the first and not at the second. -/
theorem offset_eq (advances : first.Advances second) :
    second.offset = first.offset + (first.left.length - second.left.length) := by
  have inside := advances.inside
  unfold IsInside at inside
  rw [advances.data] at inside
  simp only [length_left, bytesLeft, advances.data]
  have forth := advances.forth
  omega

theorem left_eq (advances : first.Advances second) :
    second.left = first.left.drop (second.offset - first.offset) := by
  rw [left, left, advances.data, List.drop_drop, Nat.add_sub_cancel' advances.forth]

end Advances

/-! ## Steps -/

/-- A step with its result and the cursor after it, or with none if it reads what is not there. -/
abbrev Step (α : Type) := ExceptT Fault (StateT Cursor Option) α

variable {α β : Type}

theorem bind_of_done {step : Step α} {next : α → Step β} {cursor after : Cursor} {value : α}
    (done : step cursor = some (.ok value, after)) : (step >>= next) cursor = next value after := by
  simp only [bind, ExceptT.bind, ExceptT.mk, StateT.bind, done, Option.bind, ExceptT.bindCont]

theorem bind_of_failed {step : Step α} {next : α → Step β} {cursor after : Cursor} {fault : Fault}
    (failed : step cursor = some (.error fault, after)) :
    (step >>= next) cursor = some (.error fault, after) := by
  simp only [bind, ExceptT.bind, ExceptT.mk, StateT.bind, failed, Option.bind, ExceptT.bindCont]
  rfl

theorem done_of_bind {step : Step α} {next : α → Step β} {cursor after : Cursor} {result : β}
    (done : (step >>= next) cursor = some (.ok result, after)) :
    ∃ value between, step cursor = some (.ok value, between) ∧
      next value between = some (.ok result, after) := by
  cases found : step cursor with
  | none =>
      simp only [bind, ExceptT.bind, ExceptT.mk, StateT.bind, found, Option.bind] at done
      cases done
  | some outcome =>
      rcases outcome with ⟨fault | value, between⟩
      · cases (bind_of_failed found).symm.trans done
      · exact ⟨value, between, rfl, (bind_of_done found).symm.trans done⟩

/-- A result that does not depend on the cursor. -/
def answer (result : Except Fault α) : Step α := fun cursor => some (result, cursor)

/-- What has to be there for the step to have an outcome. -/
def sure (value : Option α) : Step α := fun cursor =>
  value.map fun value => (.ok value, cursor)

/-- The next bytes. -/
def bytes (count : Nat) : Step Bytes := fun cursor =>
  if cursor.bytesLeft < count then some (.error truncated, cursor)
  else
    let next := cursor.offset + count
    (cursor.data.slice? cursor.offset next).map fun slice =>
      (.ok slice, { cursor with offset := next })

/-- A cursor of its own over the next bytes. -/
def sub (count : Nat) : Step Cursor := do
  return start (← bytes count)

def skip (count : Nat) : Step Unit := do
  let _ ← bytes count

/-- All bytes that are left. -/
def rest : Step Bytes := fun cursor =>
  let first := min cursor.offset cursor.data.length
  let last := cursor.data.length
  (cursor.data.slice? first last).map fun slice => (.ok slice, { cursor with offset := last })

def byte : Step UInt8 := do
  let slice ← bytes 1
  sure slice[0]?

/-- The next bytes, looked up one by one. -/
def array (width : Nat) : Step Bytes := do
  let slice ← bytes width
  sure ((List.range width).mapM fun index => slice[index]?)

/-- The next bytes as a number. -/
def nat (width : Nat) : Step Nat := do
  return Bytes.toNat (← array width)

/-- A number of 64 bits, read in two halves. -/
def wide : Step Nat := do
  let high ← nat 4
  let low ← nat 4
  return high <<< 32 ||| low

/-- A number of a given width, which may not exceed 64 bits. -/
def field (width : Nat) : Step Nat :=
  if 8 < width then answer (.error (.parse .integerTooWide))
  else do return Bytes.toNat (← bytes width)

def fourCC : Step FourCC := do
  let slice ← bytes 4
  sure (do return ⟨← slice[0]?, ← slice[1]?, ← slice[2]?, ← slice[3]?⟩)

/-- A version and flags. -/
def version : Step (Nat × Nat) := do
  let version ← byte
  let flags ← field 3
  return (version.toNat, flags)

/-- Bytes up to a zero byte, which is consumed, or up to the end. -/
def text : Step Bytes := fun cursor => do
  let behind ← cursor.data.slice? (min cursor.offset cursor.data.length) cursor.data.length
  match behind.findIdx? (· == 0) with
  | some place =>
      let text ← behind.slice? 0 place
      return (.ok text, { cursor with offset := cursor.offset + (place + 1) })
  | none => return (.ok behind, { cursor with offset := cursor.offset + behind.length })

/-! ## Following a scan -/

/-- Whether a step reads as a scan does, from some place on. -/
def FollowsFrom (origin : Cursor) (step : Step α) (scan : Scan α) : Prop :=
  ∀ cursor, origin.Advances cursor → ∃ result after, step cursor = some (result, after) ∧
    cursor.Advances after ∧ scan cursor.left = result.map fun value => (value, after.left)

/-- Whether a step reads as a scan does, wherever that may be. -/
def Follows (step : Step α) (scan : Scan α) : Prop :=
  ∀ origin, FollowsFrom origin step scan

namespace FollowsFrom

variable {origin : Cursor}

theorem pure (value : α) : FollowsFrom origin (pure value) (pure value) := by
  intro cursor comes
  exact ⟨.ok value, cursor, rfl, .refl comes.inside, rfl⟩

theorem answer (result : Except Fault α) :
    FollowsFrom origin (answer result) (monadLift result) := by
  intro cursor comes
  refine ⟨result, cursor, rfl, .refl comes.inside, ?_⟩
  cases result <;> rfl

theorem fail (fault : Fault) :
    FollowsFrom origin (Cursor.answer (.error fault) : Step α) (Scan.fail fault) :=
  answer (.error fault)

theorem bind {first : Step α} {next : α → Step β} {scan : Scan α} {goesOn : α → Scan β}
    (follows : FollowsFrom origin first scan)
    (andThen : ∀ value, FollowsFrom origin (next value) (goesOn value)) :
    FollowsFrom origin (first >>= next) (scan >>= goesOn) := by
  intro cursor comes
  rcases follows cursor comes with ⟨result, between, done, advances, same⟩
  cases result with
  | error fault =>
      refine ⟨.error fault, between, bind_of_failed done, advances, ?_⟩
      exact Scan.bind_of_error same
  | ok value =>
      rcases andThen value between (comes.trans advances) with
        ⟨result, after, finished, further, ends⟩
      refine ⟨result, after, (bind_of_done done).trans finished, advances.trans further, ?_⟩
      exact (Scan.bind_of_ok same).trans ends

theorem ite {condition : Prop} [Decidable condition] {first second : Step α} {scan other : Scan α}
    (follows : FollowsFrom origin first scan) (otherwise : FollowsFrom origin second other) :
    FollowsFrom origin (if condition then first else second)
      (if condition then scan else other) := by
  split
  · exact follows
  · exact otherwise

end FollowsFrom

theorem Follows.bind {first : Step α} {next : α → Step β} {scan : Scan α} {goesOn : α → Scan β}
    (follows : Follows first scan) (andThen : ∀ value, Follows (next value) (goesOn value)) :
    Follows (first >>= next) (scan >>= goesOn) :=
  fun origin => (follows origin).bind fun value => andThen value origin

theorem Follows.bind_pure {first : Step α} {scan : Scan α} (follows : Follows first scan)
    (finish : α → β) : Follows (first >>= fun value => pure (finish value))
      (scan >>= fun value => pure (finish value)) :=
  follows.bind fun value _ => .pure (finish value)

/-! ## The steps follow their scans -/

theorem slice?_eq {cursor : Cursor} {count : Nat} (inside : cursor.IsInside)
    (enough : count ≤ cursor.bytesLeft) :
    cursor.data.slice? cursor.offset (cursor.offset + count) = some (cursor.left.take count) := by
  unfold IsInside at inside
  unfold bytesLeft at enough
  have there : cursor.data.hasAtLeast (cursor.offset + count) = true := by
    rw [Bytes.hasAtLeast_iff]
    omega
  simp [Bytes.slice?, there, left]

theorem bytes_eq {cursor : Cursor} {count : Nat} (inside : cursor.IsInside)
    (enough : count ≤ cursor.bytesLeft) : bytes count cursor =
      some (.ok (cursor.left.take count), ⟨cursor.data, cursor.offset + count⟩) := by
  simp only [bytes, if_neg (Nat.not_lt.mpr enough), slice?_eq inside enough]
  rfl

theorem advances_bytes {cursor : Cursor} {count : Nat} (inside : cursor.IsInside)
    (enough : count ≤ cursor.bytesLeft) :
    cursor.Advances ⟨cursor.data, cursor.offset + count⟩ := by
  refine ⟨rfl, Nat.le_add_right .., ?_⟩
  unfold IsInside bytesLeft at *
  simp only
  omega

theorem follows_bytes (count : Nat) : Follows (bytes count) (Scan.bytes truncated count) := by
  intro origin cursor comes
  have inside := comes.inside
  have same : cursor.left.hasAtLeast count = true ↔ count ≤ cursor.bytesLeft := by
    rw [Bytes.hasAtLeast_iff, length_left]
  by_cases isShort : cursor.bytesLeft < count
  · refine ⟨.error truncated, cursor, if_pos isShort, .refl inside, if_neg ?_⟩
    rw [same]
    exact Nat.not_le.mpr isShort
  · have enough := Nat.not_lt.mp isShort
    refine ⟨_, _, bytes_eq inside enough, advances_bytes inside enough, ?_⟩
    rw [Scan.bytes, if_pos (same.mpr enough)]
    simp [Except.map, left]

theorem slice?_left {cursor : Cursor} (inside : cursor.IsInside) :
    cursor.data.slice? (min cursor.offset cursor.data.length) cursor.data.length =
      some cursor.left := by
  have found := slice?_eq inside (Nat.le_refl _)
  rw [bytesLeft, Nat.add_sub_cancel' inside, ← bytesLeft, ← length_left, List.take_length] at found
  rwa [Nat.min_eq_left inside]

theorem follows_rest : Follows rest Scan.rest := by
  intro origin cursor comes
  refine ⟨.ok cursor.left, ⟨cursor.data, cursor.data.length⟩, ?_, ⟨rfl, comes.inside, ?_⟩, ?_⟩
  · simp only [rest, slice?_left comes.inside]
    rfl
  · exact Nat.le_refl _
  · simp [Scan.rest, Except.map, left]

/-- Where a slice has all the bytes that are looked up in it. -/
theorem follows_bytes_sure {count : Nat} {look : Bytes → Option α} {finish : Bytes → α}
    (found : ∀ slice : Bytes, slice.length = count → look slice = some (finish slice)) :
    Follows (bytes count >>= fun slice => sure (look slice))
      (Scan.bytes truncated count >>= fun slice => pure (finish slice)) := by
  intro origin cursor comes
  rcases follows_bytes count origin cursor comes with ⟨result, after, done, advances, same⟩
  cases result with
  | error fault =>
      exact ⟨.error fault, after, bind_of_failed done, advances, Scan.bind_of_error same⟩
  | ok slice =>
      have whole := found slice (Scan.length_of_bytes same).2
      refine ⟨.ok (finish slice), after, ?_, advances, Scan.bind_of_ok same⟩
      rw [bind_of_done done, sure, whole]
      rfl

theorem mapM_getElem? (slice : Bytes) :
    ((List.range slice.length).mapM fun index => slice[index]?) = some slice := by
  induction slice with
  | nil => rfl
  | cons byte slice ih =>
      have others : ((fun index => (byte :: slice)[index]?) ∘ Nat.succ) =
          fun index => slice[index]? := by
        funext index
        exact List.getElem?_cons_succ
      rw [List.length_cons, List.range_succ_eq_map, List.mapM_cons, List.mapM_map, others, ih]
      rfl

theorem follows_array (width : Nat) : Follows (array width) (Scan.bytes truncated width) := by
  have found : ∀ slice : Bytes, slice.length = width →
      ((List.range width).mapM fun index => slice[index]?) = some (id slice) :=
    fun slice size => size ▸ mapM_getElem? slice
  have follows := follows_bytes_sure found
  simpa [array] using follows

theorem follows_nat (width : Nat) : Follows (nat width) (Scan.nat truncated width) :=
  (follows_array width).bind_pure Bytes.toNat

theorem follows_byte : Follows byte (Scan.byte truncated) := by
  have same : Scan.byte truncated =
      Scan.bytes truncated 1 >>= fun slice => pure (slice.headD 0) := by
    funext input
    cases input <;> rfl
  rw [same]
  apply follows_bytes_sure
  intro slice single
  rcases List.length_eq_one_iff.mp single with ⟨byte, rfl⟩
  rfl

theorem follows_fourCC : Follows fourCC (Scan.fourCC truncated) := by
  have same : Scan.fourCC truncated = Scan.bytes truncated 4 >>= fun slice =>
      pure ⟨slice.getD 0 0, slice.getD 1 0, slice.getD 2 0, slice.getD 3 0⟩ := by
    funext input
    rcases input with _ | ⟨first, _ | ⟨second, _ | ⟨third, _ | ⟨fourth, others⟩⟩⟩⟩ <;> rfl
  rw [same]
  apply follows_bytes_sure
  intro slice size
  rcases slice with _ | ⟨first, _ | ⟨second, _ | ⟨third, _ | ⟨fourth, _ | ⟨fifth, others⟩⟩⟩⟩⟩ <;>
    simp at size
  rfl

/-- Bytes can be taken in two parts. -/
theorem bytes_add (short : Fault) (first second : Nat) :
    Scan.bytes short (first + second) = do
      let front ← Scan.bytes short first
      let behind ← Scan.bytes short second
      return front ++ behind := by
  funext input
  by_cases hasFirst : first ≤ input.length
  · have front : Scan.bytes short first input = .ok (input.take first, input.drop first) :=
      if_pos (Bytes.hasAtLeast_iff.mpr hasFirst)
    rw [Scan.bind_of_ok front]
    by_cases hasSecond : first + second ≤ input.length
    · have behind : Scan.bytes short second (input.drop first) =
          .ok ((input.drop first).take second, (input.drop first).drop second) := by
        refine if_pos (Bytes.hasAtLeast_iff.mpr ?_)
        rw [List.length_drop]
        omega
      rw [Scan.bind_of_ok behind, Scan.pure_apply, ← List.take_add, List.drop_drop]
      exact if_pos (Bytes.hasAtLeast_iff.mpr hasSecond)
    · have missing : Scan.bytes short second (input.drop first) = .error short := by
        refine if_neg fun enough => hasSecond ?_
        have enough := Bytes.hasAtLeast_iff.mp enough
        rw [List.length_drop] at enough
        omega
      rw [Scan.bind_of_error missing]
      exact if_neg fun enough => hasSecond (Bytes.hasAtLeast_iff.mp enough)
  · have missing : Scan.bytes short first input = .error short :=
      if_neg fun enough => hasFirst (Bytes.hasAtLeast_iff.mp enough)
    rw [Scan.bind_of_error missing]
    refine if_neg fun enough => hasFirst ?_
    have enough := Bytes.hasAtLeast_iff.mp enough
    omega

/-- A number of 64 bits is two numbers of 32. -/
theorem nat_eight (short : Fault) : Scan.nat short 8 = do
    let high ← Scan.nat short 4
    let low ← Scan.nat short 4
    return high <<< 32 ||| low := by
  funext input
  simp only [Scan.nat, bytes_add short 4 4, bind_assoc, pure_bind]
  cases first : Scan.bytes short 4 input with
  | error fault => rw [Scan.bind_of_error first, Scan.bind_of_error first]
  | ok pair =>
      rcases pair with ⟨front, between⟩
      rw [Scan.bind_of_ok first, Scan.bind_of_ok first]
      cases second : Scan.bytes short 4 between with
      | error fault => rw [Scan.bind_of_error second, Scan.bind_of_error second]
      | ok pair =>
          rcases pair with ⟨behind, after⟩
          have size := (Scan.length_of_bytes second).2
          have small : Bytes.toNat behind < 2 ^ 32 := by
            have bound := Bytes.toNat_lt behind
            rwa [size] at bound
          rw [Scan.bind_of_ok second, Scan.bind_of_ok second, Bytes.toNat_append, size,
            ← Nat.shiftLeft_add_eq_or_of_lt small, Nat.shiftLeft_eq]
          rfl

theorem follows_wide : Follows wide (Scan.nat truncated 8) := by
  rw [nat_eight]
  exact (follows_nat 4).bind fun high => (follows_nat 4).bind_pure fun low => high <<< 32 ||| low

theorem follows_field (width : Nat) :
    Follows (field width) (Location.scanField width) := fun origin =>
  .ite (.fail _) ((follows_bytes width).bind_pure Bytes.toNat origin)

theorem splitAtZero_eq (input : Bytes) : input.splitAtZero =
    match input.findIdx? (· == 0) with
    | some place => (input.take place, input.drop (place + 1))
    | none => (input, []) := by
  induction input with
  | nil => rfl
  | cons byte others ih =>
      rw [Bytes.splitAtZero, List.findIdx?_cons]
      by_cases isZero : byte = 0
      · simp [isZero]
      · simp only [isZero, if_false, ih, beq_iff_eq]
        cases others.findIdx? (· == 0) <;> simp

theorem follows_text : Follows text Scan.text := by
  intro origin cursor comes
  have inside : cursor.offset ≤ cursor.data.length := comes.inside
  have size := cursor.length_left
  unfold bytesLeft at size
  have scanned : Scan.text cursor.left = .ok cursor.left.splitAtZero := rfl
  rw [splitAtZero_eq] at scanned
  cases found : cursor.left.findIdx? (· == 0) with
  | some place =>
      have within : place < cursor.left.length :=
        (List.findIdx?_eq_some_iff_findIdx_eq.mp found).1
      have cut : cursor.left.slice? 0 place = some (cursor.left.take place) :=
        if_pos ⟨Nat.zero_le _, Bytes.hasAtLeast_iff.mpr (Nat.le_of_lt within)⟩
      have advances : cursor.Advances ⟨cursor.data, cursor.offset + (place + 1)⟩ := by
        apply advances_bytes comes.inside
        rwa [← length_left]
      refine ⟨.ok (cursor.left.take place), _, ?_, advances, ?_⟩
      · simp [text, slice?_left comes.inside, found, cut]
      · rw [scanned, found]
        simp [Except.map, left]
  | none =>
      have advances : cursor.Advances ⟨cursor.data, cursor.offset + cursor.left.length⟩ :=
        advances_bytes comes.inside (Nat.le_of_eq cursor.length_left)
      refine ⟨.ok cursor.left, _, ?_, advances, ?_⟩
      · simp [text, slice?_left comes.inside, found]
      · rw [scanned, found, size, Nat.add_sub_cancel' inside]
        simp [Except.map, left]

theorem follows_version : Follows version (do
    let version ← Scan.nat truncated 1
    let flags ← Scan.nat truncated 3
    return (version, flags)) := by
  have single : Scan.nat truncated 1 = do return (← Scan.byte truncated).toNat := by
    funext input
    cases input with
    | nil => rfl
    | cons byte others =>
        have value : Bytes.toNat [byte] = byte.toNat := by simp [Bytes.toNat]
        exact congrArg (fun value => Except.ok (value, others)) value
  rw [single, bind_assoc]
  exact follows_byte.bind fun first => (follows_field 3).bind_pure fun flags => (first.toNat, flags)

theorem follows_sub (count : Nat) :
    Follows (sub count) (do return start (← Scan.bytes truncated count)) :=
  (follows_bytes count).bind_pure start

theorem follows_skip (count : Nat) :
    Follows (skip count) (do let _ ← Scan.bytes truncated count) :=
  (follows_bytes count).bind_pure fun _ => ()

/-- From a place that is not inside no bytes can be read. -/
theorem inside_of_nat {count value : Nat} {cursor after : Cursor} (positive : 0 < count)
    (done : nat count cursor = some (.ok value, after)) : cursor.IsInside := by
  refine Nat.le_of_not_lt fun outside => ?_
  have isShort : cursor.bytesLeft < count := by
    unfold bytesLeft
    omega
  have failed : bytes count cursor = some (.error truncated, cursor) := if_pos isShort
  have refused : nat count cursor = some (.error truncated, cursor) :=
    bind_of_failed (bind_of_failed failed)
  rw [refused] at done
  cases done

end Cursor

end AvifStill
