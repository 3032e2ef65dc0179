/-!
# Tile layout

A large frame is coded in a uniform grid of tiles. `Tile.plan` finds the smallest grid that keeps
every tile within the level limits on width and area, halving the longer side first. Frame sizes are
32-bit words, and so is the arithmetic on them.
-/

namespace AvifStill.Tile

/-- The widest tile, in luma samples. -/
def maxWidth : Nat := 4096

/-- The largest tile, in luma samples. -/
def maxArea : Nat := 4096 * 2304

def maxColumns : Nat := 64

def maxRows : Nat := 64

/--
The least number of doublings that bring a positive block size to a target. A block of no size never
gets there and counts as being there.
-/
def log2Ceil (block target : Nat) : Nat :=
  if reached : target ≤ block ∨ block = 0 then 0 else log2Ceil (2 * block) target + 1
termination_by target - block
decreasing_by omega

/-- So many doublings reach the target. -/
theorem le_shiftLeft_log2Ceil {block : Nat} (positive : 0 < block) (target : Nat) :
    target ≤ block <<< log2Ceil block target := by
  fun_induction log2Ceil block target with
  | case1 block reached => rw [Nat.shiftLeft_zero]; omega
  | case2 block notYet ih => rw [Nat.shiftLeft_succ_inside]; exact ih (by omega)

/-- Fewer doublings do not reach the target. -/
theorem shiftLeft_lt_of_lt_log2Ceil {block target count : Nat}
    (fewer : count < log2Ceil block target) : block <<< count < target := by
  induction count generalizing block with
  | zero =>
      unfold log2Ceil at fewer
      split at fewer
      · omega
      · rw [Nat.shiftLeft_zero]; omega
  | succ count ih =>
      unfold log2Ceil at fewer
      split at fewer
      · omega
      · rw [Nat.shiftLeft_succ_inside]; exact ih (by omega)

/-- How often each side may or must be halved, from the frame size alone. -/
structure Limits where
  superblockColumns : UInt32
  superblockRows : UInt32
  leastColumns : Nat
  mostColumns : Nat
  mostRows : Nat
  leastTiles : Nat
  deriving DecidableEq, Repr

/-- Superblocks of 128 samples that cover one side, counted in units of four samples. -/
def superblocks (side : UInt32) : UInt32 :=
  (2 * ((side + 7) / 8) + 31) / 32

def Limits.ofSize (width height : UInt32) : Limits :=
  let columns := superblocks width
  let rows := superblocks height
  let leastColumns := log2Ceil (maxWidth / 128) columns.toNat
  { superblockColumns := columns
    superblockRows := rows
    leastColumns := leastColumns
    mostColumns := log2Ceil 1 (min columns.toNat maxColumns)
    mostRows := log2Ceil 1 (min rows.toNat maxRows)
    leastTiles := max leastColumns (log2Ceil (maxArea / (128 * 128)) (rows * columns).toNat) }

/-- A tile grid, both sides as powers of two. -/
structure Layout where
  columnsLog2 : Nat
  rowsLog2 : Nat
  deriving DecidableEq, Repr

def Layout.columns (layout : Layout) : Nat :=
  1 <<< layout.columnsLog2

def Layout.rows (layout : Layout) : Nat :=
  1 <<< layout.rowsLog2

/--
Halves a side of the tiles as often as needed. The wider side goes first while it may still be
halved, then the other; when neither may, the search stops short.
-/
def split (limits : Limits) : Nat → Nat → Nat → Layout → Layout
  | 0, _, _, layout => layout
  | needed + 1, width, height, layout =>
      let columnsOpen := layout.columnsLog2 < limits.mostColumns
      let rowsOpen := layout.rowsLog2 < limits.mostRows
      if columnsOpen ∧ (height < width ∨ ¬rowsOpen) then
        split limits needed (width / 2) height
          { layout with columnsLog2 := layout.columnsLog2 + 1 }
      else if rowsOpen then
        split limits needed width (height / 2) { layout with rowsLog2 := layout.rowsLog2 + 1 }
      else layout

/-- The tile grid of a frame. -/
def plan (width height : UInt32) : Layout :=
  let limits := Limits.ofSize width height
  split limits (limits.leastTiles - limits.leastColumns)
    (width.toNat >>> limits.leastColumns) height.toNat ⟨limits.leastColumns, 0⟩

end AvifStill.Tile
