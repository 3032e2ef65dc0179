/-!
# Byte strings

Files are lists of bytes. Whole numbers are written with the most significant byte first; reading a
number back gives it modulo what its width can hold.
-/

namespace AvifStill

abbrev Bytes := List UInt8

namespace Bytes

/-- How many numbers so many bytes tell apart. -/
def capacity : (width : Nat) → Nat
  | 0 => 1
  | width + 1 => 256 * capacity width

/-- The lowest bytes of a number, most significant first. -/
def ofNat : (width : Nat) → (value : Nat) → Bytes
  | 0, _ => []
  | width + 1, value => UInt8.ofNat (value / capacity width) :: ofNat width value

/-- The number that bytes stand for, most significant first. -/
def toNat (bytes : Bytes) : Nat :=
  bytes.foldl (fun value byte => value * 256 + byte.toNat) 0

/-- The bytes of an ASCII text. -/
def ofText (text : String) : Bytes :=
  text.toList.map fun char => UInt8.ofNat char.toNat

/-- Whether there are at least so many bytes; looks no further than that. -/
def hasAtLeast (count : Nat) (bytes : Bytes) : Bool :=
  count == 0 || !(bytes.drop (count - 1)).isEmpty

theorem hasAtLeast_iff {count : Nat} {bytes : Bytes} :
    bytes.hasAtLeast count = true ↔ count ≤ bytes.length := by
  cases count with
  | zero => simp [hasAtLeast]
  | succ count => rw [Nat.add_one_le_iff]; simp [hasAtLeast]

/-- The bytes before the first zero byte, and those after it. -/
def splitAtZero : Bytes → Bytes × Bytes
  | [] => ([], [])
  | byte :: rest =>
      if byte = 0 then ([], rest)
      else
        let (text, after) := splitAtZero rest
        (byte :: text, after)

/-- A range of bytes, if all of it is there. -/
def slice? (bytes : Bytes) (start stop : Nat) : Option Bytes :=
  if start ≤ stop ∧ bytes.hasAtLeast stop then some ((bytes.drop start).take (stop - start))
  else none

@[simp]
theorem length_ofNat (width value : Nat) : (ofNat width value).length = width := by
  induction width with
  | zero => rfl
  | succ width ih => simp [ofNat, ih]

theorem toNat_append (left right : Bytes) :
    toNat (left ++ right) = toNat left * capacity right.length + toNat right := by
  have general (bytes : Bytes) : ∀ start : Nat,
      bytes.foldl (fun value byte => value * 256 + byte.toNat) start =
        start * capacity bytes.length + toNat bytes := by
    induction bytes with
    | nil => simp [toNat, capacity]
    | cons byte rest ih =>
        intro start
        simp only [toNat, List.foldl_cons, List.length_cons, capacity]
        rw [ih, ih (0 * 256 + byte.toNat)]
        grind
  unfold toNat
  rw [List.foldl_append, general]
  rfl

/-- Reading back what was written gives the number modulo what the width can hold. -/
theorem toNat_ofNat (width value : Nat) : toNat (ofNat width value) = value % capacity width := by
  induction width with
  | zero => simp [ofNat, toNat, capacity, Nat.mod_one]
  | succ width ih =>
      have step : ofNat (width + 1) value =
          [UInt8.ofNat (value / capacity width)] ++ ofNat width value := rfl
      rw [step, toNat_append, length_ofNat, ih]
      have first :
          toNat [UInt8.ofNat (value / capacity width)] = value / capacity width % 256 := by
        simp [toNat]
      rw [first, capacity, Nat.mul_comm 256, Nat.mod_mul, Nat.mul_comm, Nat.add_comm]

end Bytes

end AvifStill
