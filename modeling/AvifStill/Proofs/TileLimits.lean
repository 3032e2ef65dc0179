import AvifStill.Proofs.TileGrid
import Mathlib

/-!
# Tile limits of any size

The search for a tile grid takes any two words for the sides of a frame. It keeps to the limits on
columns and rows, except that a frame which is too wide for 64 columns starts with more of them, so
that its tiles are narrow enough. The limits themselves are computed with words, too. A cautious
copy of that computation, which gives up where an exact result is no word, shows for which sides the
limits are right: where it gives up, one of them is wrong. Each limit is the least number of doublings
that reaches a target; the search for it, which shifts words of 64 bits, never has to give up.
-/

namespace AvifStill.Tile

/-! ## Grids within the limits -/

theorem mostColumns_le (width height : UInt32) : (Limits.ofSize width height).mostColumns ≤ 6 :=
  (log2Ceil_le_iff one_pos _ _).mpr (min_le_right ..)

theorem mostRows_le (width height : UInt32) : (Limits.ofSize width height).mostRows ≤ 6 :=
  (log2Ceil_le_iff one_pos _ _).mpr (min_le_right ..)

theorem two_pow_le_of_le_six {cuts : ℕ} (few : cuts ≤ 6) : 2 ^ cuts ≤ 64 :=
  Nat.pow_le_pow_right (by decide) few

/-- As many columns as a frame may have make its tiles narrow enough, unless it is too wide. -/
theorem leastColumns_le_mostColumns_of_narrow {width : UInt32} (height : UInt32)
    (narrow : width.toNat ≤ maxColumns * maxWidth) :
    (Limits.ofSize width height).leastColumns ≤ (Limits.ofSize width height).mostColumns := by
  have few : (superblocks width).toNat ≤ 2048 := by
    rw [toNat_superblocks (lt_of_le_of_lt (Nat.add_le_add_right narrow 7) (by decide))]
    exact (ceilDiv_le_iff_le_mul (by decide)).mpr narrow
  have reached := le_mul_two_pow_log2Ceil one_pos (min (superblocks width).toNat maxColumns)
  rw [leastColumns_le_iff]
  change _ ≤ _ * 2 ^ log2Ceil 1 (min (superblocks width).toNat maxColumns)
  simp only [maxColumns, maxWidth] at reached ⊢
  omega

/-- What holds of the grid of a frame of any size. -/
structure Layout.KeepsTo (layout : Layout) (width height : UInt32) : Prop where
  rows : layout.rowsLog2 ≤ (Limits.ofSize width height).mostRows
  rowCount : layout.rows ≤ maxRows
  columns : layout.columnsLog2 ≤
    max (Limits.ofSize width height).mostColumns (Limits.ofSize width height).leastColumns
  /-- The columns are too many just where the width of the tiles asks for too many. -/
  admits_iff : layout.columnsLog2 ≤ (Limits.ofSize width height).mostColumns ↔
    (Limits.ofSize width height).leastColumns ≤ (Limits.ofSize width height).mostColumns
  /-- Then there are no more columns than that. -/
  least : (Limits.ofSize width height).mostColumns < layout.columnsLog2 →
    layout.columnsLog2 = (Limits.ofSize width height).leastColumns
  narrow : width.toNat ≤ maxColumns * maxWidth →
    layout.columnsLog2 ≤ (Limits.ofSize width height).mostColumns ∧ layout.columns ≤ maxColumns

/-- The grid of a frame keeps to its limits, but for columns that narrow tiles cannot do without. -/
theorem keepsTo_plan (width height : UInt32) : (plan width height).KeepsTo width height := by
  have rows : (plan width height).rowsLog2 ≤ (Limits.ofSize width height).mostRows :=
    rowsLog2_split_le (Nat.zero_le _)
  have columns : (plan width height).columnsLog2 ≤
      max (Limits.ofSize width height).mostColumns (Limits.ofSize width height).leastColumns :=
    columnsLog2_split_le (le_max_left ..) (le_max_right ..)
  have started : (Limits.ofSize width height).leastColumns ≤ (plan width height).columnsLog2 :=
    le_columnsLog2_split _ _ _ _ ⟨_, 0⟩
  have admits_iff : (plan width height).columnsLog2 ≤ (Limits.ofSize width height).mostColumns ↔
      (Limits.ofSize width height).leastColumns ≤ (Limits.ofSize width height).mostColumns :=
    ⟨started.trans, fun admitted => columns.trans (max_le le_rfl admitted)⟩
  refine ⟨rows, ?_, columns, admits_iff, ?_, ?_⟩
  · rw [Layout.rows_eq]
    exact two_pow_le_of_le_six (rows.trans (mostRows_le width height))
  · intro tooMany
    apply le_antisymm _ started
    exact (le_max_iff.mp columns).resolve_left (Nat.not_le_of_lt tooMany)
  · intro narrow
    have admitted := admits_iff.mpr (leastColumns_le_mostColumns_of_narrow height narrow)
    refine ⟨admitted, ?_⟩
    rw [Layout.columns_eq]
    exact two_pow_le_of_le_six (admitted.trans (mostColumns_le width height))

/-- A million samples in a row make 256 columns. -/
theorem not_admits_plan_wide : (Limits.ofSize 1048576 128).mostColumns = 6 ∧
    (plan 1048576 128).columnsLog2 = 8 ∧ (plan 1048576 128).columns = 256 ∧
    ¬(plan 1048576 128).columnsLog2 ≤ (Limits.ofSize 1048576 128).mostColumns ∧
    ¬(plan 1048576 128).columns ≤ maxColumns := by
  decide +kernel

/-! ## Exact limits -/

/-- A sum that is a word. -/
def add? (left right : UInt32) : Option UInt32 :=
  if left.toNat + right.toNat < UInt32.size then some (left + right) else none

/-- A product that is a word. -/
def mul? (left right : UInt32) : Option UInt32 :=
  if left.toNat * right.toNat < UInt32.size then some (left * right) else none

/-- A cautious `superblocks`. -/
def superblocks? (side : UInt32) : Option UInt32 := do
  let padded ← add? side 7
  let units ← mul? 2 (padded / 8)
  let raised ← add? units 31
  return raised / 32

/-- A cautious `Limits.ofSize`. -/
def Limits.ofSize? (width height : UInt32) : Option Limits := do
  let columns ← superblocks? width
  let rows ← superblocks? height
  let area ← mul? rows columns
  let leastColumns := log2Ceil (maxWidth / 128) columns.toNat
  return {
    superblockColumns := columns
    superblockRows := rows
    leastColumns := leastColumns
    mostColumns := log2Ceil 1 (min columns.toNat maxColumns)
    mostRows := log2Ceil 1 (min rows.toNat maxRows)
    leastTiles := max leastColumns (log2Ceil (maxArea / (128 * 128)) area.toNat) }

/-- Rounding up to eight samples is the only step that can be too much for a word. -/
theorem superblocks?_eq (side : UInt32) :
    superblocks? side =
      if side.toNat + 7 < UInt32.size then some (superblocks side) else none := by
  have seven : (7 : UInt32).toNat = 7 := rfl
  unfold superblocks? add?
  rw [seven]
  split
  · rename_i small
    have units : (2 : UInt32).toNat * ((side + 7) / 8).toNat < UInt32.size := by
      have bound := (side + 7).toNat_lt
      simp only [UInt32.toNat_div, UInt32.reduceToNat, UInt32.size]
      omega
    have raised : (2 * ((side + 7) / 8)).toNat + (31 : UInt32).toNat < UInt32.size := by
      simp only [UInt32.toNat_mul, UInt32.toNat_div, UInt32.toNat_add, UInt32.reduceToNat,
        UInt32.size] at small ⊢
      omega
    simp only [mul?, if_pos units, if_pos raised, Option.bind_eq_bind, Option.bind_some]
    rfl
  · rfl

/-- Where rounding up wraps around, nothing is left. -/
theorem superblocks_of_wrap {side : UInt32} (large : ¬side.toNat + 7 < UInt32.size) :
    superblocks side = 0 := by
  apply UInt32.toNat.inj
  have bound := side.toNat_lt
  simp only [superblocks, UInt32.toNat_add, UInt32.toNat_mul, UInt32.toNat_div,
    UInt32.reduceToNat, UInt32.size] at large ⊢
  omega

/-- Whether all numbers on the way to the limits are words. -/
structure Limits.Fits (width height : UInt32) : Prop where
  wide : width.toNat + 7 < UInt32.size
  high : height.toNat + 7 < UInt32.size
  area : (height.toNat ⌈/⌉ 128) * (width.toNat ⌈/⌉ 128) < UInt32.size

/-- Limits that are the whole numbers they stand for. -/
structure Limits.IsExactFor (limits : Limits) (width height : ℕ) : Prop where
  superblockColumns : limits.superblockColumns.toNat = width ⌈/⌉ 128
  superblockRows : limits.superblockRows.toNat = height ⌈/⌉ 128
  leastColumns : IsLeast {cuts | width ⌈/⌉ 128 ≤ maxWidth / 128 * 2 ^ cuts} limits.leastColumns
  mostColumns : IsLeast {cuts | min (width ⌈/⌉ 128) maxColumns ≤ 2 ^ cuts} limits.mostColumns
  mostRows : IsLeast {cuts | min (height ⌈/⌉ 128) maxRows ≤ 2 ^ cuts} limits.mostRows
  leastTiles : IsLeast {cuts | limits.leastColumns ≤ cuts ∧
    (height ⌈/⌉ 128) * (width ⌈/⌉ 128) ≤ maxArea / (128 * 128) * 2 ^ cuts} limits.leastTiles

theorem isLeast_log2Ceil {block : ℕ} (positive : 0 < block) (target : ℕ) :
    IsLeast {cuts | target ≤ block * 2 ^ cuts} (log2Ceil block target) :=
  ⟨le_mul_two_pow_log2Ceil positive target,
    fun cuts reached => (log2Ceil_le_iff positive target cuts).mpr reached⟩

theorem isLeast_log2Ceil_one (target : ℕ) : IsLeast {cuts | target ≤ 2 ^ cuts} (log2Ceil 1 target) := by
  simpa only [one_mul] using isLeast_log2Ceil one_pos target

namespace Limits

variable {width height : UInt32}

theorem toNat_area (fits : Fits width height) :
    (superblocks height * superblocks width).toNat =
      (height.toNat ⌈/⌉ 128) * (width.toNat ⌈/⌉ 128) := by
  rw [UInt32.toNat_mul, toNat_superblocks fits.wide, toNat_superblocks fits.high]
  exact Nat.mod_eq_of_lt fits.area

theorem ofSize?_of_fits (fits : Fits width height) :
    ofSize? width height = some (ofSize width height) := by
  have area : (superblocks height).toNat * (superblocks width).toNat < UInt32.size := by
    rw [toNat_superblocks fits.wide, toNat_superblocks fits.high]
    exact fits.area
  simp only [ofSize?, superblocks?_eq, if_pos fits.wide, if_pos fits.high, mul?, if_pos area,
    Option.bind_eq_bind, Option.bind_some]
  rfl

theorem isExactFor_of_fits (fits : Fits width height) :
    (ofSize width height).IsExactFor width.toNat height.toNat := by
  refine ⟨toNat_superblocks fits.wide, toNat_superblocks fits.high, ?_, ?_, ?_, ?_⟩
  · rw [← toNat_superblocks fits.wide]
    exact isLeast_log2Ceil (by decide) _
  · rw [← toNat_superblocks fits.wide]
    exact isLeast_log2Ceil_one _
  · rw [← toNat_superblocks fits.high]
    exact isLeast_log2Ceil_one _
  · rw [← toNat_area fits]
    constructor
    · exact (leastTiles_le_iff width height _).mp le_rfl
    · exact fun cuts reached => (leastTiles_le_iff width height cuts).mpr reached

theorem fits_of_ofSize? {limits : Limits} (done : ofSize? width height = some limits) :
    Fits width height := by
  simp only [ofSize?, superblocks?_eq, Option.bind_eq_bind, Option.bind_eq_some_iff,
    Option.ite_none_right_eq_some, mul?] at done
  rcases done with ⟨columns, ⟨wide, isColumns⟩, rows, ⟨high, isRows⟩, area, ⟨small, -⟩, -⟩
  cases isColumns
  cases isRows
  rw [toNat_superblocks wide, toNat_superblocks high] at small
  exact ⟨wide, high, small⟩

/-- A side that is not empty has superblocks, so its count is wrong where it wraps around. -/
theorem side_of_exact {side : UInt32}
    (exact : (superblocks side).toNat = side.toNat ⌈/⌉ 128) : side.toNat + 7 < UInt32.size := by
  by_contra large
  rw [superblocks_of_wrap large, Nat.ceilDiv_eq_add_pred_div] at exact
  simp only [UInt32.toNat_zero, UInt32.size] at exact large
  omega

theorem leastColumns_le_of_word (width height : UInt32) :
    (ofSize width height).leastColumns ≤ 22 := by
  rw [leastColumns_le_iff, superblocks, UInt32.toNat_div]
  have bound := (2 * ((width + 7) / 8) + 31).toNat_lt
  simp only [UInt32.reduceToNat, maxWidth]
  omega

/--
Where the area wraps around, the limit on tiles comes out below 23, while the area asks for at least
23 doublings.
-/
theorem area_of_exact (wide : width.toNat + 7 < UInt32.size) (high : height.toNat + 7 < UInt32.size)
    (reached : (height.toNat ⌈/⌉ 128) * (width.toNat ⌈/⌉ 128) ≤
      maxArea / (128 * 128) * 2 ^ (ofSize width height).leastTiles) :
    (height.toNat ⌈/⌉ 128) * (width.toNat ⌈/⌉ 128) < UInt32.size := by
  have columns := leastColumns_le_of_word width height
  have word : (superblocks height * superblocks width).toNat =
      (height.toNat ⌈/⌉ 128) * (width.toNat ⌈/⌉ 128) % UInt32.size := by
    rw [UInt32.toNat_mul, toNat_superblocks wide, toNat_superblocks high]
  generalize (height.toNat ⌈/⌉ 128) * (width.toNat ⌈/⌉ 128) = area at reached word ⊢
  have most : (ofSize width height).leastTiles ≤ 23 := by
    rw [leastTiles_le_iff, word]
    simp only [maxArea, UInt32.size]
    omega
  have below : area ≤ maxArea / (128 * 128) * 2 ^ 23 :=
    reached.trans (Nat.mul_le_mul_left _ (Nat.pow_le_pow_right (by decide) most))
  by_contra large
  have fewer : (ofSize width height).leastTiles ≤ 22 := by
    rw [leastTiles_le_iff, word]
    simp only [maxArea, UInt32.size] at below large ⊢
    omega
  have tooFew := reached.trans (Nat.mul_le_mul_left _ (Nat.pow_le_pow_right (by decide) fewer))
  simp only [maxArea, UInt32.size] at tooFew large
  omega

theorem fits_of_isExactFor (exact : (ofSize width height).IsExactFor width.toNat height.toNat) :
    Fits width height := by
  have wide := side_of_exact exact.superblockColumns
  have high := side_of_exact exact.superblockRows
  exact ⟨wide, high, area_of_exact wide high exact.leastTiles.1.2⟩

/--
No number wraps around on the way to the limits of a frame, and all limits are the numbers they stand
for, exactly if both sides can be rounded up and the area in superblocks is a word.
-/
theorem isExactFor_iff_fits (width height : UInt32) :
    (ofSize? width height = some (ofSize width height) ↔ Fits width height) ∧
      (ofSize? width height = none ↔ ¬Fits width height) ∧
      ((ofSize width height).IsExactFor width.toNat height.toNat ↔ Fits width height) := by
  refine ⟨⟨fits_of_ofSize?, ofSize?_of_fits⟩, ?_, fits_of_isExactFor, isExactFor_of_fits⟩
  constructor
  · intro gaveUp fits
    rw [ofSize?_of_fits fits] at gaveUp
    cases gaveUp
  · intro tooLarge
    rw [Option.eq_none_iff_forall_ne_some]
    exact fun limits done => tooLarge (fits_of_ofSize? done)

/-- A row of as many samples as a word can count is taken for one of no superblocks at all. -/
theorem not_isExactFor_longestRow : (ofSize 4294967295 1).superblockColumns = 0 ∧
    (4294967295 ⌈/⌉ 128 : ℕ) = 33554432 ∧ ofSize? 4294967295 1 = none ∧
    ¬(ofSize 4294967295 1).IsExactFor 4294967295 1 := by
  have wraps : ¬Fits 4294967295 1 := fun fits => absurd fits.wide (by decide)
  have exact := isExactFor_iff_fits 4294967295 1
  refine ⟨by decide, by decide, exact.2.1.mpr wraps, ?_⟩
  exact fun isExact => wraps (exact.2.2.mp isExact)

end Limits

/-! ## Doublings of a word -/

/-- A shift that leaves out no bits. -/
def shift? (word : UInt64) (count : UInt32) : Option UInt64 :=
  if count.toNat < 64 ∧ word.toNat * 2 ^ count.toNat < UInt64.size then
    some (word <<< count.toUInt64)
  else none

theorem toNat_shiftLeft {word : UInt64} {count : UInt32} (few : count.toNat < 64)
    (fits : word.toNat * 2 ^ count.toNat < UInt64.size) :
    (word <<< count.toUInt64).toNat = word.toNat * 2 ^ count.toNat := by
  rw [UInt64.toNat_shiftLeft, UInt32.toNat_toUInt64, Nat.mod_eq_of_lt few, Nat.shiftLeft_eq]
  exact Nat.mod_eq_of_lt fits

/-- The search for a number of doublings, which shifts the block size in every round. -/
def search? (block target : UInt32) (rounds : ℕ) (count : UInt32) : Option UInt32 :=
  match rounds with
  | 0 => none
  | rounds + 1 => do
      let blocks ← shift? block.toUInt64 count
      if blocks < target.toUInt64 then search? block target rounds (count + 1) else return count

section Search

variable {block target count : UInt32}

/-- So few doublings of a word of 32 bits are a word of 64 bits. -/
theorem shift_fits (few : count.toNat ≤ 32) :
    block.toUInt64.toNat * 2 ^ count.toNat < UInt64.size := by
  rw [UInt32.toNat_toUInt64]
  calc block.toNat * 2 ^ count.toNat
      ≤ block.toNat * 2 ^ 32 := Nat.mul_le_mul_left _ (Nat.pow_le_pow_right (by decide) few)
    _ < UInt32.size * 2 ^ 32 := Nat.mul_lt_mul_of_pos_right block.toNat_lt (by decide)
    _ = UInt64.size := rfl

theorem log2Ceil_le_of_word (positive : 0 < block.toNat) :
    log2Ceil block.toNat target.toNat ≤ 32 := by
  rw [log2Ceil_le_iff positive]
  calc target.toNat
      ≤ 1 * 2 ^ 32 := Nat.le_of_lt target.toNat_lt
    _ ≤ block.toNat * 2 ^ 32 := Nat.mul_le_mul_right _ positive

/-- One round goes on exactly if there are too few doublings yet. -/
theorem search?_succ (positive : 0 < block.toNat) (few : count.toNat ≤ 32) (rounds : ℕ) :
    search? block target (rounds + 1) count =
      if count.toNat < log2Ceil block.toNat target.toNat then
        search? block target rounds (count + 1)
      else some count := by
  have fits := @shift_fits block count few
  have bits : count.toNat < 64 := Nat.lt_of_le_of_lt few (by decide)
  have short : block.toUInt64 <<< count.toUInt64 < target.toUInt64 ↔
      count.toNat < log2Ceil block.toNat target.toNat := by
    rw [UInt64.lt_iff_toNat_lt, toNat_shiftLeft bits fits, UInt32.toNat_toUInt64,
      UInt32.toNat_toUInt64, ← Nat.not_le, ← log2Ceil_le_iff positive, Nat.not_le]
  rw [search?, shift?, if_pos ⟨bits, fits⟩]
  simp only [Option.bind_eq_bind, Option.bind_some, short]
  rfl

/-- From too few doublings on the search comes to the least number that is enough. -/
theorem search?_eq (positive : 0 < block.toNat) {rounds : ℕ}
    (notEnough : count.toNat ≤ log2Ceil block.toNat target.toNat)
    (rest : log2Ceil block.toNat target.toNat < count.toNat + rounds) :
    search? block target rounds count =
      some (UInt32.ofNat (log2Ceil block.toNat target.toNat)) := by
  have most := @log2Ceil_le_of_word block target positive
  induction rounds generalizing count with
  | zero => omega
  | succ rounds ih =>
      rw [search?_succ positive (notEnough.trans most)]
      split
      · rename_i tooFew
        have next : (count + 1).toNat = count.toNat + 1 := by
          rw [UInt32.toNat_add]
          exact Nat.mod_eq_of_lt (by simp; omega)
        apply ih
        · omega
        · omega
      · rename_i reached
        have same : count.toNat = log2Ceil block.toNat target.toNat := by omega
        rw [← same, UInt32.ofNat_toNat]

end Search

/-- How one word is doubled until it comes up to another. -/
structure IsLeastDoubling (block target count : UInt32) : Prop where
  /-- The search ends there, and no bit is lost before. -/
  found : ∀ rounds, 32 < rounds → search? block target rounds 0 = some count
  computed : count.toNat = log2Ceil block.toNat target.toNat
  least : IsLeast {doublings | target.toNat ≤ block.toNat * 2 ^ doublings} count.toNat
  most : count.toNat ≤ 32
  /-- The shifts on the way are the products that they stand for. -/
  exact : ∀ doublings ≤ count, (block.toUInt64 <<< doublings.toUInt64).toNat =
    block.toNat * 2 ^ doublings.toNat

/-- Within 33 rounds the least number of doublings is found, whatever the words. -/
theorem exists_isLeastDoubling {block : UInt32} (positive : 0 < block) (target : UInt32) :
    ∃ count, IsLeastDoubling block target count := by
  have positive : 0 < block.toNat := UInt32.lt_iff_toNat_lt.mp positive
  have most := @log2Ceil_le_of_word block target positive
  have computed : (UInt32.ofNat (log2Ceil block.toNat target.toNat)).toNat =
      log2Ceil block.toNat target.toNat :=
    UInt32.toNat_ofNat_of_lt' (Nat.lt_of_le_of_lt most (by decide))
  refine ⟨UInt32.ofNat (log2Ceil block.toNat target.toNat), ?_, computed, ?_, ?_, ?_⟩
  · intro rounds enough
    apply search?_eq positive (Nat.zero_le _)
    exact Nat.lt_of_le_of_lt most (by simpa using enough)
  · rw [computed]
    exact isLeast_log2Ceil positive target.toNat
  · rw [computed]
    exact most
  · intro doublings within
    have few : doublings.toNat ≤ 32 := by
      have within := UInt32.le_iff_toNat_le.mp within
      omega
    rw [toNat_shiftLeft (Nat.lt_of_le_of_lt few (by decide)) (shift_fits few),
      UInt32.toNat_toUInt64]

/-- From one to the largest word it takes all 32 doublings. -/
theorem isLeastDoubling_largest : (0 : UInt32) < 1 ∧ search? 1 4294967295 33 0 = some 32 ∧
    IsLeastDoubling 1 4294967295 32 := by
  have positive : (0 : UInt32) < 1 := by decide
  have last : search? 1 4294967295 33 0 = some 32 := by decide
  rcases exists_isLeastDoubling positive 4294967295 with ⟨count, isLeast⟩
  cases (isLeast.found 33 (by decide)).symm.trans last
  exact ⟨positive, last, isLeast⟩

end AvifStill.Tile
