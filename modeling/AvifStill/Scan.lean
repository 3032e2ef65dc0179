import AvifStill.Bytes
import AvifStill.Fault

/-!
# Reading byte strings

A `Scan` reads from the front of a byte string and leaves the rest. Every primitive is told which
fault it is for the bytes to run out, so that readers of different strictness share them.
-/

namespace AvifStill

abbrev Scan (α : Type) := StateT Bytes (Except Fault) α

namespace Scan

variable {α : Type}

def fail (fault : Fault) : Scan α := fun _ => .error fault

/-- The next bytes. -/
def bytes (short : Fault) (count : Nat) : Scan Bytes := fun input =>
  if input.hasAtLeast count then .ok (input.take count, input.drop count) else .error short

/-- The next bytes as a number, most significant first. -/
def nat (short : Fault) (width : Nat) : Scan Nat := do
  return Bytes.toNat (← bytes short width)

def byte (short : Fault) : Scan UInt8
  | [] => .error short
  | byte :: rest => .ok (byte, rest)

def word (short : Fault) : Scan UInt32 := do
  return UInt32.ofNat (← nat short 4)

/-- All bytes that are left. -/
def rest : Scan Bytes := fun input => .ok (input, [])

/-- Bytes up to a zero byte, which is consumed, or up to the end. -/
def text : Scan Bytes := fun input => .ok input.splitAtZero

/-- Repeats a step and collects its results. -/
def times (count : Nat) (step : Scan α) : Scan (List α) :=
  go count []
where
  /-- Collects in reverse, so that long tables need no deep stack. -/
  go : Nat → List α → Scan (List α)
    | 0, results => pure results.reverse
    | count + 1, results => do go count ((← step) :: results)

/-- Two steps succeed together when the second succeeds on what the first one leaves. -/
theorem bind_eq_ok_iff {β : Type} {first : Scan α} {next : α → Scan β} {input after : Bytes}
    {result : β} :
    (first >>= next) input = .ok (result, after) ↔
      ∃ middle between, first input = .ok (middle, between) ∧
        next middle between = .ok (result, after) := by
  simp only [bind, StateT.bind, Except.bind]
  cases first input with
  | error fault => simp
  | ok pair =>
      obtain ⟨middle, between⟩ := pair
      refine ⟨fun done => ⟨middle, between, rfl, done⟩, ?_⟩
      rintro ⟨_, _, found, done⟩
      cases found
      exact done

theorem pure_apply (value : α) (input : Bytes) :
    (pure value : Scan α) input = .ok (value, input) := rfl

@[simp]
theorem pure_eq_ok_iff {input after : Bytes} {value result : α} :
    (pure value : Scan α) input = .ok (result, after) ↔ value = result ∧ input = after := by
  simp [pure_apply]

/-- Once the first of two steps has succeeded, the second goes on with what it leaves. -/
theorem bind_of_ok {β : Type} {first : Scan α} {next : α → Scan β} {input between : Bytes}
    {middle : α} (done : first input = .ok (middle, between)) :
    (first >>= next) input = next middle between := by
  simp only [bind, StateT.bind, Except.bind, done]

/-- Bytes at the front are read back whole. -/
theorem bytes_append (short : Fault) {count : Nat} {front : Bytes} (after : Bytes)
    (size : front.length = count) : bytes short count (front ++ after) = .ok (front, after) := by
  subst size
  simp [bytes, Bytes.hasAtLeast_iff]

/-- A written number is read back if its width can hold it. -/
theorem nat_ofNat (short : Fault) {width value : Nat} (after : Bytes)
    (fits : value < Bytes.capacity width) :
    nat short width (Bytes.ofNat width value ++ after) = .ok (value, after) := by
  rw [nat, bind_of_ok (bytes_append short after (Bytes.length_ofNat width value)), pure_apply,
    Bytes.toNat_ofNat, Nat.mod_eq_of_lt fits]

/-- The result of a step on a byte string of its own. -/
def run' (step : Scan α) (input : Bytes) : Except Fault α :=
  (step input).map Prod.fst

end Scan

end AvifStill
