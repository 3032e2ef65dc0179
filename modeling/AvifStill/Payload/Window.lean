import AvifStill.Box.Basic

/-!
# Sequential windows

The strict reading of a file goes through it byte by byte. The content of a box is a window on the
bytes of its parent: what a reader leaves unread in it is not skipped but taken for the next box. In
some parents unread content is a fault instead. The boxes of a list share its bytes by what they
claim: a window reaches no further than the bytes that no box before it has claimed, so a list whose
boxes leave bytes unread runs out early. A box header that is cut off ends the list of boxes
quietly; anything else that is cut off is a fault.
-/

namespace AvifStill.Payload

/-- The start of a box as a strict reader sees it. -/
structure Head where
  kind : FourCC
  /-- The claimed size of the content; none if the box runs to the end. -/
  claimed : Option Nat
  /-- The bytes that the header itself takes. -/
  length : Nat

namespace Head

/-- The part of a header that every box has, at the front of some bytes. -/
def plain? (input : Bytes) : Except Fault (Option (Head × Bytes)) :=
  match input with
  | a :: b :: c :: d :: e :: f :: g :: h :: rest =>
      let kind : FourCC := ⟨e, f, g, h⟩
      let short := Bytes.toNat [a, b, c, d]
      if short = 1 then
        if Bytes.hasAtLeast 8 rest then
          let wide := Bytes.toNat (rest.take 8)
          let content := rest.drop 8
          if wide < 16 then .error .container
          else .ok (some (⟨kind, some (wide - 16), 16⟩, content))
        else .ok none
      else if short = 0 then .ok (some (⟨kind, none, 8⟩, rest))
      else if short < 8 then .error .container
      else .ok (some (⟨kind, some (short - 8), 8⟩, rest))
  | _ => .ok none

/-- Whether a header names an extended type, which needs sixteen bytes. -/
def isExtended (head : Head) : Bool :=
  head.kind == .uuid && head.claimed.all fun claimed => 16 ≤ claimed

/-- Counts an extended type to the header, as far as it is there. -/
def extend (head : Head) (rest : Bytes) : Head × Bytes :=
  if head.isExtended then
    let count := (rest.take 16).length
    (⟨head.kind, head.claimed.map fun claimed => claimed - count, head.length + count⟩,
      rest.drop count)
  else (head, rest)

/-- The header at the front of some bytes, with the bytes after it; none if it is cut off. -/
def next? (input : Bytes) : Except Fault (Option (Head × Bytes)) := do
  let found ← plain? input
  return found.map fun (head, rest) => head.extend rest

/-- How far the window of a box reaches if some bytes of its list are unclaimed. -/
def reach (head : Head) (unclaimed : Nat) : Nat :=
  match head.claimed with
  | some claimed => min claimed unclaimed
  | none => unclaimed

/-- What a box leaves unclaimed; one that runs to the end claims all. -/
def leave (head : Head) (unclaimed : Nat) : Nat :=
  match head.claimed with
  | some claimed => unclaimed - (head.length + claimed)
  | none => 0

theorem length_of_plain? {input rest : Bytes} {head : Head}
    (done : plain? input = .ok (some (head, rest))) : rest.length < input.length := by
  unfold plain? at done
  split at done
  · simp only at done
    split at done
    · split at done
      · split at done
        · simp at done
        · simp only [Except.ok.injEq, Option.some.injEq, Prod.mk.injEq] at done
          obtain ⟨-, rfl⟩ := done
          simp only [List.length_cons, List.length_drop]
          omega
      · simp at done
    · split at done
      · simp only [Except.ok.injEq, Option.some.injEq, Prod.mk.injEq] at done
        obtain ⟨-, rfl⟩ := done
        simp only [List.length_cons]
        omega
      · split at done
        · simp at done
        · simp only [Except.ok.injEq, Option.some.injEq, Prod.mk.injEq] at done
          obtain ⟨-, rfl⟩ := done
          simp only [List.length_cons]
          omega
  · simp at done

theorem length_extend_le (head : Head) (rest : Bytes) :
    (head.extend rest).2.length ≤ rest.length := by
  unfold extend
  split <;> simp

theorem length_of_next? {input rest : Bytes} {head : Head}
    (done : next? input = .ok (some (head, rest))) : rest.length < input.length := by
  unfold next? at done
  match found : plain? input with
  | .error fault => simp [found, bind, Except.bind] at done
  | .ok none => simp [found, bind, Except.bind, pure, Except.pure] at done
  | .ok (some (plain, after)) =>
      simp only [found, bind, Except.bind, pure, Except.pure, Option.map_some, Except.ok.injEq,
        Option.some.injEq] at done
      have shorter := length_of_plain? found
      have bound := length_extend_le plain after
      rw [done] at bound
      exact Nat.lt_of_le_of_lt bound shorter

/-- The header of a written box of a plain type. -/
theorem next?_toBytes {box : Box} {rest : Bytes} (plain : box.kind ≠ .uuid)
    (fits : box.content.length + 8 < Bytes.capacity 4) :
    next? (box.toBytes ++ rest) =
      .ok (some (⟨box.kind, some box.content.length, 8⟩, box.content ++ rest)) := by
  have size := Bytes.toNat_ofNat 4 (box.content.length + 8)
  rw [Nat.mod_eq_of_lt fits] at size
  simp only [Bytes.ofNat] at size
  have notWide : ¬box.content.length + 8 = 1 := by omega
  have found : plain? (box.toBytes ++ rest) =
      .ok (some (⟨box.kind, some box.content.length, 8⟩, box.content ++ rest)) := by
    simp only [Box.toBytes, Bytes.ofNat, FourCC.toBytes, List.cons_append, List.nil_append,
      plain?, size]
    simp [notWide]
  simp [next?, found, extend, isExtended, plain, bind, Except.bind, pure, Except.pure]

end Head

namespace Window

variable {σ : Type}

/-- Which unread content is a fault. -/
inductive Leftover where
  | isNextBox
  | isFault
  deriving DecidableEq

/-- Whether a box is read as far as its window reaches; one that runs to the end always is. -/
def isFinished (head : Head) (unclaimed consumed : Nat) : Bool :=
  head.claimed.isNone || consumed == head.reach unclaimed

/-- Runs a step on the window of a box; the parent goes on behind what the step has read. -/
def enter (leftover : Leftover) (head : Head) (unclaimed : Nat) (step : Scan σ) : Scan σ :=
  fun input => do
    let window := input.take (head.reach unclaimed)
    let (result, unread) ← step window
    let consumed := window.length - unread.length
    if leftover = .isFault ∧ ¬isFinished head unclaimed consumed then throw .container
    else return (result, input.drop consumed)

theorem length_of_enter {leftover : Leftover} {head : Head} {unclaimed : Nat} {step : Scan σ}
    {input after : Bytes} {result : σ}
    (done : enter leftover head unclaimed step input = .ok (result, after)) :
    after.length ≤ input.length := by
  unfold enter at done
  simp only [bind, Except.bind] at done
  split at done
  · simp at done
  · split at done
    · simp [throw, throwThe, MonadExceptOf.throw] at done
    · simp only [pure, Except.pure, Except.ok.injEq, Prod.mk.injEq] at done
      obtain ⟨-, rfl⟩ := done
      simp

/-- A step that reads all of a written box leaves what follows it. -/
theorem enter_append {leftover : Leftover} {kind : FourCC} {unclaimed : Nat} {step : Scan σ}
    {content rest : Bytes} {result : σ} (free : content.length ≤ unclaimed)
    (done : step content = .ok (result, [])) :
    enter leftover ⟨kind, some content.length, 8⟩ unclaimed step (content ++ rest) =
      .ok (result, rest) := by
  simp [enter, Head.reach, isFinished, Nat.min_eq_left free, done, bind, Except.bind, pure,
    Except.pure]

/-- Goes through boxes to the end of a window, some of whose bytes no box has claimed so far. -/
def foldFrom (leftover : Leftover) (step : σ → Head → Scan σ) (unclaimed : Nat) (state : σ)
    (input : Bytes) : Except Fault (σ × Bytes) :=
  match found : Head.next? input with
  | .error fault => .error fault
  | .ok none => .ok (state, [])
  | .ok (some (head, rest)) =>
      match entered : enter leftover head unclaimed (step state head) rest with
      | .error fault => .error fault
      | .ok (next, after) =>
          have := Head.length_of_next? found
          have := length_of_enter entered
          foldFrom leftover step (head.leave unclaimed) next after
termination_by input.length

/-- Goes through the boxes of a window, whose bytes are theirs to claim. -/
def fold (leftover : Leftover) (step : σ → Head → Scan σ) (state : σ) : Scan σ := fun input =>
  foldFrom leftover step input.length state input

@[simp]
theorem fold_nil {leftover : Leftover} {step : σ → Head → Scan σ} {state : σ} :
    fold leftover step state [] = .ok (state, []) := by
  rw [fold, foldFrom]
  rfl

/-- Going through a written box and more is the step on its content and going through the rest. -/
theorem fold_toBytes_append {leftover : Leftover} {step : σ → Head → Scan σ} {state next : σ}
    {box : Box} {rest : Bytes} (plain : box.kind ≠ .uuid)
    (fits : box.content.length + 8 < Bytes.capacity 4)
    (done : step state ⟨box.kind, some box.content.length, 8⟩ box.content = .ok (next, [])) :
    fold leftover step state (box.toBytes ++ rest) = fold leftover step next rest := by
  have size : (box.toBytes ++ rest).length = 8 + box.content.length + rest.length := by
    simp only [Box.toBytes, List.length_append, Bytes.length_ofNat, FourCC.length_toBytes]
  have free : box.content.length ≤ (box.toBytes ++ rest).length := by omega
  have left : (box.toBytes ++ rest).length - (8 + box.content.length) = rest.length := by omega
  rw [fold, foldFrom]
  split
  · rename_i found
    rw [Head.next?_toBytes plain fits] at found
    cases found
  · rename_i found
    rw [Head.next?_toBytes plain fits] at found
    cases found
  · rename_i found
    rw [Head.next?_toBytes plain fits] at found
    cases found
    split
    · rename_i entered
      rw [enter_append free done] at entered
      cases entered
    · rename_i entered
      rw [enter_append free done] at entered
      cases entered
      simp only [Head.leave, left, fold]

/-- Shorthand for the primitives, whose only fault here is the strict reader's. -/
def nat (width : Nat) : Scan Nat := Scan.nat .container width

def skip (count : Nat) : Scan Unit := do
  let _ ← Scan.bytes .container count
  return ()

/-- Reads over what is left of a window. -/
def skipRest : Scan Unit := do
  let _ ← Scan.rest
  return ()

/-- Skips a whole box, which has to be there as far as it claims to go. -/
def skipBox (head : Head) : Scan Unit :=
  match head.claimed with
  | some claimed => skip claimed
  | none => Scan.fail .container

/-- A condition that content has to meet. -/
def require (condition : Bool) : Scan Unit :=
  if condition then pure () else Scan.fail .container

end Window

end AvifStill.Payload
