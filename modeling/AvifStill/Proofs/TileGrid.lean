import AvifStill.Tile
import Mathlib.Algebra.Order.Floor.Div
import Mathlib.Tactic.Ring

/-!
# Tile grids of frames

Frames have at most 65536 samples on a side. For all of them the search for a tile grid ends with
exactly as many tiles as the limits ask for, and these tiles are as narrow and as small as they have
to be. The limits are on superblocks and the tiles are of samples; both agree because no side is cut
into more parts than a superblock has samples, so that cutting a side in superblocks leaves nothing
over.
-/

namespace AvifStill.Tile

/-! ## Doublings -/

/-- From the least number of doublings on the target is reached. -/
theorem log2Ceil_le_iff {block : ℕ} (positive : 0 < block) (target count : ℕ) :
    log2Ceil block target ≤ count ↔ target ≤ block * 2 ^ count := by
  constructor
  · intro enough
    have reached := le_shiftLeft_log2Ceil positive target
    rw [Nat.shiftLeft_eq] at reached
    apply reached.trans
    apply Nat.mul_le_mul_left
    exact Nat.pow_le_pow_right (by decide) enough
  · intro reached
    by_contra fewer
    have short := shiftLeft_lt_of_lt_log2Ceil (Nat.lt_of_not_le fewer)
    rw [Nat.shiftLeft_eq] at short
    omega

theorem le_mul_two_pow_log2Ceil {block : ℕ} (positive : 0 < block) (target : ℕ) :
    target ≤ block * 2 ^ log2Ceil block target :=
  (log2Ceil_le_iff positive target _).mp le_rfl

namespace Layout

variable (layout : Layout)

@[simp]
theorem columns_eq : layout.columns = 2 ^ layout.columnsLog2 :=
  Nat.one_shiftLeft _

@[simp]
theorem rows_eq : layout.rows = 2 ^ layout.rowsLog2 :=
  Nat.one_shiftLeft _

end Layout

/-! ## Superblocks -/

/-- The count is exact unless adding to the side wraps around. -/
theorem toNat_superblocks {side : UInt32} (small : side.toNat + 7 < UInt32.size) :
    (superblocks side).toNat = side.toNat ⌈/⌉ 128 := by
  rw [Nat.ceilDiv_eq_add_pred_div]
  simp only [superblocks, UInt32.toNat_add, UInt32.toNat_mul, UInt32.toNat_div,
    UInt32.reduceToNat, UInt32.size] at small ⊢
  omega

/-- Up to seven cuts go through the 128 samples of a superblock without a rest. -/
theorem two_pow_mul_two_pow_sub {cuts : ℕ} (few : cuts ≤ 7) : 2 ^ cuts * 2 ^ (7 - cuts) = 128 := by
  rw [← pow_add, Nat.add_sub_of_le few]
  rfl

/-- A side that is cut into parts is as long as if its last superblock were whole. -/
theorem ceilDiv_le_of_covered {side blocks cuts : ℕ} (covered : side ≤ 128 * blocks)
    (few : cuts ≤ 7) : side ⌈/⌉ 2 ^ cuts ≤ 2 ^ (7 - cuts) * blocks := by
  rw [ceilDiv_le_iff_le_mul (Nat.two_pow_pos cuts), ← mul_assoc, two_pow_mul_two_pow_sub few]
  exact covered

/-! ## The search -/

/-- Whether no side is cut more often than it may be. -/
structure Limits.Admits (limits : Limits) (layout : Layout) : Prop where
  columns : layout.columnsLog2 ≤ limits.mostColumns
  rows : layout.rowsLog2 ≤ limits.mostRows

section Search

variable {limits : Limits} {needed width height : ℕ} {layout : Layout}

/-- Columns are cut only while there are fewer than the most. -/
theorem columnsLog2_split_le {bound : ℕ} (most : limits.mostColumns ≤ bound)
    (columns : layout.columnsLog2 ≤ bound) :
    (split limits needed width height layout).columnsLog2 ≤ bound := by
  fun_induction split limits needed width height layout with
  | case1 => exact columns
  | case2 needed width height layout columnsOpen rowsOpen chosen ih =>
      exact ih ((Nat.succ_le_of_lt chosen.1).trans most)
  | case3 needed width height layout columnsOpen rowsOpen notChosen isOpen ih => exact ih columns
  | case4 => exact columns

/-- Rows are cut only while there are fewer than the most. -/
theorem rowsLog2_split_le (rows : layout.rowsLog2 ≤ limits.mostRows) :
    (split limits needed width height layout).rowsLog2 ≤ limits.mostRows := by
  fun_induction split limits needed width height layout with
  | case1 => exact rows
  | case2 needed width height layout columnsOpen rowsOpen chosen ih => exact ih rows
  | case3 needed width height layout columnsOpen rowsOpen notChosen isOpen ih =>
      exact ih (Nat.succ_le_of_lt isOpen)
  | case4 => exact rows

theorem admits_split (admits : limits.Admits layout) :
    limits.Admits (split limits needed width height layout) :=
  ⟨columnsLog2_split_le le_rfl admits.columns, rowsLog2_split_le admits.rows⟩

theorem le_columnsLog2_split (limits : Limits) (needed width height : ℕ) (layout : Layout) :
    layout.columnsLog2 ≤ (split limits needed width height layout).columnsLog2 := by
  fun_induction split limits needed width height layout with
  | case1 => rfl
  | case2 needed width height layout columnsOpen rowsOpen chosen ih => exact Nat.le_of_succ_le ih
  | case3 needed width height layout columnsOpen rowsOpen notChosen isOpen ih => exact ih
  | case4 => rfl

/-- As long as there is room for them, all cuts that are needed are made. -/
theorem cuts_split (room : layout.columnsLog2 + layout.rowsLog2 + needed ≤
      limits.mostColumns + limits.mostRows) :
    (split limits needed width height layout).columnsLog2 +
        (split limits needed width height layout).rowsLog2 =
      layout.columnsLog2 + layout.rowsLog2 + needed := by
  fun_induction split limits needed width height layout with
  | case1 => rfl
  | case2 needed width height layout columnsOpen rowsOpen chosen ih =>
      simp only at ih
      omega
  | case3 needed width height layout columnsOpen rowsOpen notChosen isOpen ih =>
      simp only at ih
      omega
  | case4 needed width height layout columnsOpen rowsOpen notChosen notOpen =>
      -- Neither side may be cut, so there was no room for another cut.
      have columnsFull : ¬layout.columnsLog2 < limits.mostColumns := fun isOpen =>
        notChosen ⟨isOpen, Or.inr notOpen⟩
      omega

end Search

/-! ## The limits of a frame -/

theorem leastColumns_le_iff (width height : UInt32) (cuts : ℕ) :
    (Limits.ofSize width height).leastColumns ≤ cuts ↔
      (superblocks width).toNat ≤ maxWidth / 128 * 2 ^ cuts :=
  log2Ceil_le_iff (by decide) _ _

theorem leastTiles_le_iff (width height : UInt32) (cuts : ℕ) :
    (Limits.ofSize width height).leastTiles ≤ cuts ↔
      (Limits.ofSize width height).leastColumns ≤ cuts ∧
        (superblocks height * superblocks width).toNat ≤ maxArea / (128 * 128) * 2 ^ cuts := by
  rw [← log2Ceil_le_iff (by decide)]
  exact max_le_iff

/-- Sides of frames have at most 512 superblocks. -/
theorem superblocks_of_frame {side : UInt32} (small : side.toNat ≤ 65536) :
    side.toNat ≤ 128 * (superblocks side).toNat ∧ (superblocks side).toNat ≤ 512 := by
  have exact : (superblocks side).toNat = side.toNat ⌈/⌉ 128 := by
    apply toNat_superblocks
    simp only [UInt32.size]
    omega
  rw [exact]
  constructor
  · exact le_smul_ceilDiv (show 0 < 128 by decide)
  · exact (ceilDiv_le_iff_le_mul (by decide)).mpr small

/-- Where a side is cut as often as it may be, its parts have at most eight superblocks. -/
theorem le_eight_mul_of_frame {blocks : ℕ} (few : blocks ≤ 512) :
    log2Ceil 1 (min blocks 64) ≤ 6 ∧ blocks ≤ 8 * 2 ^ log2Ceil 1 (min blocks 64) := by
  constructor
  · rw [log2Ceil_le_iff one_pos]
    exact min_le_right ..
  · have reached := le_mul_two_pow_log2Ceil one_pos (min blocks 64)
    omega

section Frame

variable {width height : UInt32}

theorem mostColumns_of_frame (wide : width.toNat ≤ 65536) :
    (Limits.ofSize width height).mostColumns ≤ 6 ∧
      (superblocks width).toNat ≤ 8 * 2 ^ (Limits.ofSize width height).mostColumns :=
  le_eight_mul_of_frame (superblocks_of_frame wide).2

theorem mostRows_of_frame (high : height.toNat ≤ 65536) :
    (Limits.ofSize width height).mostRows ≤ 6 ∧
      (superblocks height).toNat ≤ 8 * 2 ^ (Limits.ofSize width height).mostRows :=
  le_eight_mul_of_frame (superblocks_of_frame high).2

theorem toNat_area_of_frame (wide : width.toNat ≤ 65536) (high : height.toNat ≤ 65536) :
    (superblocks height * superblocks width).toNat =
      (superblocks height).toNat * (superblocks width).toNat := by
  have few := Nat.mul_le_mul (superblocks_of_frame high).2 (superblocks_of_frame wide).2
  rw [UInt32.toNat_mul]
  apply Nat.mod_eq_of_lt
  omega

theorem leastColumns_le_mostColumns (wide : width.toNat ≤ 65536) :
    (Limits.ofSize width height).leastColumns ≤ (Limits.ofSize width height).mostColumns := by
  rw [leastColumns_le_iff]
  apply (mostColumns_of_frame wide).2.trans
  exact Nat.mul_le_mul_right _ (by decide)

/-- There is room for all the cuts that the area asks for. -/
theorem leastTiles_le_most (wide : width.toNat ≤ 65536) (high : height.toNat ≤ 65536) :
    (Limits.ofSize width height).leastTiles ≤
      (Limits.ofSize width height).mostColumns + (Limits.ofSize width height).mostRows := by
  have columns := (@mostColumns_of_frame width height wide).2
  have rows := (@mostRows_of_frame width height high).2
  rw [leastTiles_le_iff, toNat_area_of_frame wide high]
  refine ⟨(leastColumns_le_mostColumns wide).trans (Nat.le_add_right ..), ?_⟩
  generalize (Limits.ofSize width height).mostColumns = mostColumns at columns ⊢
  generalize (Limits.ofSize width height).mostRows = mostRows at rows ⊢
  calc (superblocks height).toNat * (superblocks width).toNat
      ≤ (8 * 2 ^ mostRows) * (8 * 2 ^ mostColumns) := Nat.mul_le_mul rows columns
    _ = 64 * 2 ^ (mostColumns + mostRows) := by ring
    _ ≤ maxArea / (128 * 128) * 2 ^ (mostColumns + mostRows) :=
      Nat.mul_le_mul_right _ (by decide)

end Frame

/-! ## The grid of a frame -/

/-- A legal grid of a frame, with no more tiles than the limits of the frame ask for. -/
structure Layout.IsLeastFor (layout : Layout) (width height : UInt32) : Prop where
  leastColumns : (Limits.ofSize width height).leastColumns ≤ layout.columnsLog2
  mostColumns : layout.columnsLog2 ≤ (Limits.ofSize width height).mostColumns
  mostRows : layout.rowsLog2 ≤ (Limits.ofSize width height).mostRows
  tiles : layout.columnsLog2 + layout.rowsLog2 = (Limits.ofSize width height).leastTiles
  tileWidth : width.toNat ⌈/⌉ layout.columns ≤ maxWidth
  tileArea : (width.toNat ⌈/⌉ layout.columns) * (height.toNat ⌈/⌉ layout.rows) ≤ maxArea
  /-- No grid with fewer tiles keeps to the limits on superblocks. -/
  fewest : ∀ other : Layout, (superblocks width).toNat ≤ maxWidth / 128 * other.columns →
    (superblocks height).toNat * (superblocks width).toNat ≤
      maxArea / (128 * 128) * (other.columns * other.rows) →
    layout.columns * layout.rows ≤ other.columns * other.rows

/-- Tiles that are narrow and small enough in superblocks are so in samples. -/
theorem tile_le_of_cuts {width height columns rows columnCuts rowCuts : ℕ}
    (wide : width ≤ 128 * columns) (high : height ≤ 128 * rows) (fewColumns : columnCuts ≤ 7)
    (fewRows : rowCuts ≤ 7) (narrow : columns ≤ maxWidth / 128 * 2 ^ columnCuts)
    (small : rows * columns ≤ maxArea / (128 * 128) * 2 ^ (columnCuts + rowCuts)) :
    width ⌈/⌉ 2 ^ columnCuts ≤ maxWidth ∧
      (width ⌈/⌉ 2 ^ columnCuts) * (height ⌈/⌉ 2 ^ rowCuts) ≤ maxArea := by
  have tileWidth := ceilDiv_le_of_covered wide fewColumns
  have tileHeight := ceilDiv_le_of_covered high fewRows
  have columnParts := two_pow_mul_two_pow_sub fewColumns
  have rowParts := two_pow_mul_two_pow_sub fewRows
  constructor
  · calc width ⌈/⌉ 2 ^ columnCuts
        ≤ 2 ^ (7 - columnCuts) * columns := tileWidth
      _ ≤ 2 ^ (7 - columnCuts) * (maxWidth / 128 * 2 ^ columnCuts) :=
        Nat.mul_le_mul_left _ narrow
      _ = maxWidth / 128 * (2 ^ columnCuts * 2 ^ (7 - columnCuts)) := by ring
      _ = maxWidth := by rw [columnParts]; rfl
  · calc (width ⌈/⌉ 2 ^ columnCuts) * (height ⌈/⌉ 2 ^ rowCuts)
        ≤ (2 ^ (7 - columnCuts) * columns) * (2 ^ (7 - rowCuts) * rows) :=
        Nat.mul_le_mul tileWidth tileHeight
      _ = 2 ^ (7 - columnCuts) * 2 ^ (7 - rowCuts) * (rows * columns) := by ring
      _ ≤ 2 ^ (7 - columnCuts) * 2 ^ (7 - rowCuts) *
          (maxArea / (128 * 128) * 2 ^ (columnCuts + rowCuts)) := Nat.mul_le_mul_left _ small
      _ = maxArea / (128 * 128) * (2 ^ columnCuts * 2 ^ (7 - columnCuts)) *
          (2 ^ rowCuts * 2 ^ (7 - rowCuts)) := by ring
      _ = maxArea := by rw [columnParts, rowParts]; rfl

/-- Every frame is coded in a legal grid with as few tiles as its limits ask for. -/
theorem isLeastFor_plan {width height : UInt32} (wide : width.toNat ≤ 65536)
    (high : height.toNat ≤ 65536) : (plan width height).IsLeastFor width height := by
  have room := leastTiles_le_most wide high
  have order : (Limits.ofSize width height).leastColumns ≤
      (Limits.ofSize width height).leastTiles := le_max_left ..
  have admits : (Limits.ofSize width height).Admits (plan width height) :=
    admits_split ⟨leastColumns_le_mostColumns wide, Nat.zero_le _⟩
  have leastColumns : (Limits.ofSize width height).leastColumns ≤
      (plan width height).columnsLog2 := le_columnsLog2_split _ _ _ _ ⟨_, 0⟩
  have tiles : (plan width height).columnsLog2 + (plan width height).rowsLog2 =
      (Limits.ofSize width height).leastTiles := by
    refine (cuts_split ?_).trans ?_
    · simp only
      omega
    · simp only
      omega
  have narrow := (leastColumns_le_iff width height _).mp leastColumns
  have small := ((leastTiles_le_iff width height _).mp tiles.ge).2
  rw [toNat_area_of_frame wide high] at small
  have tile := tile_le_of_cuts (superblocks_of_frame wide).1 (superblocks_of_frame high).1
    (Nat.le_succ_of_le (admits.columns.trans (mostColumns_of_frame wide).1))
    (Nat.le_succ_of_le (admits.rows.trans (mostRows_of_frame high).1)) narrow small
  rw [← Layout.columns_eq, ← Layout.rows_eq] at tile
  refine ⟨leastColumns, admits.columns, admits.rows, tiles, tile.1, tile.2, ?_⟩
  intro other narrowOther smallOther
  simp only [Layout.columns_eq, Layout.rows_eq, ← pow_add] at narrowOther smallOther ⊢
  apply Nat.pow_le_pow_right (by decide)
  rw [tiles, leastTiles_le_iff, toNat_area_of_frame wide high, leastColumns_le_iff]
  refine ⟨narrowOther.trans ?_, smallOther⟩
  apply Nat.mul_le_mul_left
  exact Nat.pow_le_pow_right (by decide) (Nat.le_add_right ..)

/-- The largest frame has 16 columns and 32 rows of tiles. -/
theorem isLeastFor_plan_largest : (65536 : UInt32).toNat ≤ 65536 ∧
    plan 65536 65536 = ⟨4, 5⟩ ∧ (plan 65536 65536).IsLeastFor 65536 65536 :=
  ⟨by decide, by decide +kernel, isLeastFor_plan (by decide) (by decide)⟩

end AvifStill.Tile
