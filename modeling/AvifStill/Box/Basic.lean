import AvifStill.Box.Kind
import AvifStill.Scan

/-!
# Boxes

A file is a sequence of boxes, and the content of many boxes is one again. A box starts with its
size and kind; the size counts the header, may be given in 64 bits, or may say that the box runs to
the end. `Box.split` takes a byte string apart into boxes as far as it can, which terminates because
a header has at least eight bytes.
-/

namespace AvifStill

/-- The fault of a box that ends too early. -/
abbrev truncated : Fault := .parse .truncatedBox

namespace Scan

def fourCC (short : Fault) : Scan FourCC
  | first :: second :: third :: fourth :: rest => .ok (⟨first, second, third, fourth⟩, rest)
  | _ => .error short

end Scan

/-- A box with its content. -/
structure Box where
  kind : FourCC
  content : Bytes
  deriving DecidableEq, Repr

namespace Box

/-- The start of a box: kind, claimed size with header (none for "to the end"), header length. -/
structure Header where
  kind : FourCC
  size : Option Nat
  length : Nat

/-- The size in 64 bits, which follows the kind when the first size field is one. -/
def Header.scanWide (short : Nat) : Scan (Option Nat) :=
  if short = 1 then some <$> Scan.nat truncated 8 else pure none

/-- The extended type, which only one kind of box has. -/
def Header.scanExtended (kind : FourCC) : Scan Bytes :=
  if kind = .uuid then Scan.bytes truncated 16 else pure []

def Header.scan : Scan Header := do
  let short ← Scan.nat truncated 4
  let kind ← Scan.fourCC truncated
  let wide ← scanWide short
  let extended ← scanExtended kind
  return {
    kind := kind
    size := if short = 0 then none else some (wide.getD short)
    length := (if wide.isSome then 16 else 8) + extended.length }

/-- Reads one box, whose content has to be there as a whole. -/
def scan : Scan Box := fun input => do
  let (header, rest) ← Header.scan input
  match header.size with
  | none => return (⟨header.kind, rest⟩, [])
  | some size =>
      if size < header.length then throw (.parse .sizeBelowHeader)
      else
        let (content, after) ← Scan.bytes truncated (size - header.length) rest
        return (⟨header.kind, content⟩, after)

end Box

namespace Scan

theorem length_of_bytes {short : Fault} {count : Nat} {input result rest : Bytes}
    (done : bytes short count input = .ok (result, rest)) :
    rest.length + count = input.length ∧ result.length = count := by
  unfold bytes at done
  split at done
  · rename_i enough
    have enough := Bytes.hasAtLeast_iff.mp enough
    simp only [Except.ok.injEq, Prod.mk.injEq] at done
    obtain ⟨rfl, rfl⟩ := done
    simp only [List.length_drop, List.length_take]
    omega
  · simp at done

theorem length_of_nat {short : Fault} {width value : Nat} {input rest : Bytes}
    (done : nat short width input = .ok (value, rest)) : rest.length + width = input.length := by
  obtain ⟨result, after, read, finish⟩ := bind_eq_ok_iff.mp done
  obtain ⟨-, rfl⟩ := pure_eq_ok_iff.mp finish
  exact (length_of_bytes read).1

theorem length_of_fourCC {short : Fault} {input rest : Bytes} {code : FourCC}
    (done : fourCC short input = .ok (code, rest)) : rest.length + 4 = input.length := by
  unfold fourCC at done
  split at done
  · simp only [Except.ok.injEq, Prod.mk.injEq] at done
    obtain ⟨-, rfl⟩ := done
    simp
  · simp at done

theorem fourCC_toBytes (short : Fault) (code : FourCC) (after : Bytes) :
    fourCC short (code.toBytes ++ after) = .ok (code, after) := rfl

end Scan

namespace Box

theorem Header.length_of_scanWide {short : Nat} {wide : Option Nat} {input rest : Bytes}
    (done : scanWide short input = .ok (wide, rest)) :
    rest.length + (if wide.isSome then 8 else 0) = input.length := by
  unfold scanWide at done
  split at done
  · rw [map_eq_pure_bind] at done
    obtain ⟨value, after, read, finish⟩ := Scan.bind_eq_ok_iff.mp done
    obtain ⟨rfl, rfl⟩ := Scan.pure_eq_ok_iff.mp finish
    simpa using Scan.length_of_nat read
  · obtain ⟨rfl, rfl⟩ := Scan.pure_eq_ok_iff.mp done
    simp

theorem Header.length_of_scanExtended {kind : FourCC} {extended input rest : Bytes}
    (done : scanExtended kind input = .ok (extended, rest)) :
    rest.length + extended.length = input.length ∧ extended.length ≤ 16 := by
  unfold scanExtended at done
  split at done
  · have := Scan.length_of_bytes done
    omega
  · obtain ⟨rfl, rfl⟩ := Scan.pure_eq_ok_iff.mp done
    simp

/-- A header accounts for the bytes it took: at least eight, at most thirty-two. -/
theorem Header.length_of_scan {input rest : Bytes} {header : Header}
    (done : Header.scan input = .ok (header, rest)) :
    rest.length + header.length = input.length ∧ 8 ≤ header.length ∧ header.length ≤ 32 := by
  obtain ⟨short, afterSize, readSize, done⟩ := Scan.bind_eq_ok_iff.mp done
  obtain ⟨kind, afterKind, readKind, done⟩ := Scan.bind_eq_ok_iff.mp done
  obtain ⟨wide, afterWide, readWide, done⟩ := Scan.bind_eq_ok_iff.mp done
  obtain ⟨extended, afterExtended, readExtended, done⟩ := Scan.bind_eq_ok_iff.mp done
  obtain ⟨rfl, rfl⟩ := Scan.pure_eq_ok_iff.mp done
  have sizeBytes := Scan.length_of_nat readSize
  have kindBytes := Scan.length_of_fourCC readKind
  have wideBytes := length_of_scanWide readWide
  have extendedBytes := length_of_scanExtended readExtended
  simp only
  split <;> simp_all <;> omega

/-- Reading a box takes at least eight bytes. -/
theorem length_of_scan {input rest : Bytes} {box : Box} (done : scan input = .ok (box, rest)) :
    rest.length + 8 ≤ input.length := by
  unfold scan at done
  simp only [bind, Except.bind] at done
  split at done
  · simp at done
  rename_i found readHeader
  obtain ⟨header, after⟩ := found
  have headerBytes := Header.length_of_scan readHeader
  simp only at done
  split at done
  · simp only [pure, Except.pure, Except.ok.injEq, Prod.mk.injEq] at done
    obtain ⟨-, rfl⟩ := done
    simp only [List.length_nil]
    omega
  · split at done
    · simp [throw, throwThe, MonadExceptOf.throw] at done
    · split at done
      · simp at done
      rename_i found readContent
      obtain ⟨content, rest'⟩ := found
      have contentBytes := Scan.length_of_bytes readContent
      simp only [pure, Except.pure, Except.ok.injEq, Prod.mk.injEq] at done
      obtain ⟨-, rfl⟩ := done
      omega

/-- A byte string taken apart: its boxes, and the fault that ended them, if one did. -/
structure Sequence where
  boxes : List Box
  fault : Option Fault

/-- Takes a byte string apart into boxes. -/
def split (input : Bytes) : Sequence :=
  if input = [] then ⟨[], none⟩
  else
    match done : scan input with
    | .error fault => ⟨[], some fault⟩
    | .ok (box, rest) =>
        have := length_of_scan done
        let after := split rest
        ⟨box :: after.boxes, after.fault⟩
termination_by input.length

namespace Sequence

variable {σ : Type}

/-- Goes through the boxes in order; a fault of the sequence comes after those of its boxes. -/
def foldM (sequence : Sequence) (step : σ → Box → Except Fault σ) (start : σ) : Except Fault σ := do
  let final ← sequence.boxes.foldlM step start
  match sequence.fault with
  | some fault => throw fault
  | none => return final

end Sequence

/-- The bytes of a box with a 32-bit size. -/
def toBytes (box : Box) : Bytes :=
  Bytes.ofNat 4 (box.content.length + 8) ++ box.kind.toBytes ++ box.content

/-- A written box is read back, unless its kind asks for an extended type. -/
theorem scan_toBytes {box : Box} {rest : Bytes} (fits : box.content.length + 8 < Bytes.capacity 4)
    (plain : box.kind ≠ .uuid) : scan (box.toBytes ++ rest) = .ok (box, rest) := by
  have readSize := Scan.nat_ofNat truncated (box.kind.toBytes ++ (box.content ++ rest)) fits
  have readKind := Scan.fourCC_toBytes truncated box.kind (box.content ++ rest)
  have readContent := Scan.bytes_append truncated rest (Eq.refl box.content.length)
  have notWide : ¬box.content.length + 8 = 1 := by omega
  simp only [toBytes, scan, Header.scan, Header.scanWide, Header.scanExtended, List.append_assoc,
    bind, StateT.bind, Except.bind, Scan.pure_apply, readSize, readKind, notWide, plain, if_false]
  simp [readContent, pure, Except.pure]

/-- A box whose content starts with a version and flags, all zero unless given. -/
def full (kind : FourCC) (version : UInt8) (content : Bytes) : Box :=
  ⟨kind, version :: 0 :: 0 :: 0 :: content⟩

end Box

end AvifStill
