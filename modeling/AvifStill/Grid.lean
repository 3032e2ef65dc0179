/-!
# Grids of cells

A grid is a rectangle of cells stored row after row. Rows may be longer than the visible width; the
cells past the width are padding, which the last row may lack. Sides have no bound and may be zero;
what needs more of them checks it. `cell?` looks at a grid without its padding, and `addressed` at
whatever is stored where a column and row lead to. Inside the rectangle both give the same cell.
-/

namespace AvifStill

universe u v

structure Grid (α : Type u) where
  width : Nat
  height : Nat
  stride : Nat
  cells : Array α
  width_le_stride : width ≤ stride
  stored : 0 < height → stride * (height - 1) + width ≤ cells.size

namespace Grid

variable {α : Type u} {β : Type v}

/-- The visible cell in a column and row. -/
def cell? (grid : Grid α) (column row : Nat) : Option α :=
  if column < grid.width ∧ row < grid.height then grid.cells[row * grid.stride + column]? else none

/-- The visible cell in a column and row, or the type's default outside the grid. -/
def cell [Inhabited α] (grid : Grid α) (column row : Nat) : α :=
  (grid.cell? column row).getD default

theorem index_lt_size (grid : Grid α) {column row : Nat} (inWidth : column < grid.width)
    (inHeight : row < grid.height) : row * grid.stride + column < grid.cells.size := by
  have stored := grid.stored (Nat.zero_lt_of_lt inHeight)
  calc row * grid.stride + column
    _ ≤ (grid.height - 1) * grid.stride + column :=
      Nat.add_le_add_right (Nat.mul_le_mul_right _ (Nat.le_sub_one_of_lt inHeight)) _
    _ < grid.stride * (grid.height - 1) + grid.width := by
      rw [Nat.mul_comm]
      exact Nat.add_lt_add_left inWidth _
    _ ≤ grid.cells.size := stored

/-- A cell is there exactly inside the rectangle. -/
theorem isSome_cell?_iff (grid : Grid α) (column row : Nat) :
    (grid.cell? column row).isSome ↔ column < grid.width ∧ row < grid.height := by
  unfold cell?
  split
  · rename_i inside
    simp [inside, grid.index_lt_size inside.1 inside.2]
  · rename_i outside
    simp [outside]

theorem cell?_eq_none_iff (grid : Grid α) (column row : Nat) :
    grid.cell? column row = none ↔ ¬(column < grid.width ∧ row < grid.height) := by
  rw [← grid.isSome_cell?_iff, Option.not_isSome_iff_eq_none]

theorem cell?_eq_some_cell [Inhabited α] (grid : Grid α) {column row : Nat}
    (inWidth : column < grid.width) (inHeight : row < grid.height) :
    grid.cell? column row = some (grid.cell column row) := by
  obtain ⟨value, found⟩ :=
    Option.isSome_iff_exists.mp ((grid.isSome_cell?_iff column row).mpr ⟨inWidth, inHeight⟩)
  simp [cell, found]

theorem cell?_eq_ite [Inhabited α] (grid : Grid α) (column row : Nat) :
    grid.cell? column row =
      if column < grid.width ∧ row < grid.height then some (grid.cell column row) else none := by
  split
  · rename_i inside
    exact grid.cell?_eq_some_cell inside.1 inside.2
  · rename_i outside
    exact (grid.cell?_eq_none_iff column row).mpr outside

/--
The cell stored at the address of a column and row. Past the visible width that is padding or a cell
of a later row. Where nothing is stored it is the type's default.
-/
def addressed [Inhabited α] (grid : Grid α) (column row : Nat) : α :=
  grid.cells.getD (row * grid.stride + column) default

theorem addressed_eq_cell [Inhabited α] (grid : Grid α) {column row : Nat}
    (inWidth : column < grid.width) (inHeight : row < grid.height) :
    grid.addressed column row = grid.cell column row := by
  simp [addressed, cell, cell?, inWidth, inHeight, Array.getD_eq_getD_getElem?]

/-- The packed grid whose cell in each column and row is given by a function. -/
def build (width height : Nat) (content : Nat → Nat → α) : Grid α where
  width := width
  height := height
  stride := width
  cells := Array.ofFn fun index : Fin (width * height) => content (index % width) (index / width)
  width_le_stride := Nat.le_refl width
  stored isHigh := by
    have rows : width * (height - 1) + width = width * height := by
      rw [← Nat.mul_succ, Nat.succ_eq_add_one, Nat.sub_add_cancel isHigh]
    simp [rows]

@[simp]
theorem width_build (width height : Nat) (content : Nat → Nat → α) :
    (build width height content).width = width := rfl

@[simp]
theorem height_build (width height : Nat) (content : Nat → Nat → α) :
    (build width height content).height = height := rfl

theorem cell?_build (width height : Nat) (content : Nat → Nat → α) (column row : Nat) :
    (build width height content).cell? column row =
      if column < width ∧ row < height then some (content column row) else none := by
  by_cases inside : column < width ∧ row < height
  · obtain ⟨inWidth, inHeight⟩ := inside
    have size : row * width + column < (build width height content).cells.size :=
      (build width height content).index_lt_size inWidth inHeight
    have positive : 0 < width := by omega
    have column_eq : (row * width + column) % width = column := by
      rw [Nat.mul_comm, Nat.mul_add_mod]
      exact Nat.mod_eq_of_lt inWidth
    have row_eq : (row * width + column) / width = row := by
      rw [Nat.mul_comm, Nat.mul_add_div positive, Nat.div_eq_of_lt inWidth, Nat.add_zero]
    have stride_eq : (build width height content).stride = width := rfl
    simp only [cell?, width_build, height_build, inWidth, inHeight, and_self, if_true, stride_eq]
    rw [Array.getElem?_eq_getElem size]
    simp [build, column_eq, row_eq]
  · simp [cell?, inside]

/-- Only the values inside the rectangle count. -/
theorem build_congr {width height : Nat} {first second : Nat → Nat → α}
    (agree : ∀ column < width, ∀ row < height, first column row = second column row) :
    build width height first = build width height second := by
  have cells : (fun index : Fin (width * height) => first (index % width) (index / width)) =
      fun index : Fin (width * height) => second (index % width) (index / width) := by
    funext index
    have positive : 0 < width := Nat.pos_of_mul_pos_right (Nat.zero_lt_of_lt index.isLt)
    apply agree
    · exact Nat.mod_lt _ positive
    · exact Nat.div_lt_of_lt_mul index.isLt
  simp only [build, cells]

/-- The grid with another value in one visible cell; outside the rectangle nothing is written. -/
def set (grid : Grid α) (column row : Nat) (value : α) : Grid α :=
  if column < grid.width ∧ row < grid.height then
    { grid with
      cells := grid.cells.setIfInBounds (row * grid.stride + column) value
      stored := by simpa using grid.stored }
  else grid

@[simp]
theorem width_set (grid : Grid α) (column row : Nat) (value : α) :
    (grid.set column row value).width = grid.width := by
  unfold set
  split <;> rfl

@[simp]
theorem height_set (grid : Grid α) (column row : Nat) (value : α) :
    (grid.set column row value).height = grid.height := by
  unfold set
  split <;> rfl

/-- Cells are stored at different places. -/
theorem index_inj (grid : Grid α) {column row otherColumn otherRow : Nat}
    (inWidth : column < grid.width) (otherInWidth : otherColumn < grid.width)
    (same : row * grid.stride + column = otherRow * grid.stride + otherColumn) :
    column = otherColumn ∧ row = otherRow := by
  have wide := grid.width_le_stride
  have rows (column row : Nat) (inWidth : column < grid.width) :
      (row * grid.stride + column) / grid.stride = row := by
    rw [Nat.mul_comm, Nat.mul_add_div (by omega), Nat.div_eq_of_lt (by omega), Nat.add_zero]
  have sameRow : row = otherRow := by
    rw [← rows column row inWidth, same, rows otherColumn otherRow otherInWidth]
  subst sameRow
  exact ⟨by omega, rfl⟩

/-- Writing changes the cell that is written and no other. -/
theorem cell?_set (grid : Grid α) (column row otherColumn otherRow : Nat) (value : α) :
    (grid.set column row value).cell? otherColumn otherRow =
      if otherColumn = column ∧ otherRow = row then
        (grid.cell? otherColumn otherRow).map fun _ => value
      else grid.cell? otherColumn otherRow := by
  unfold set
  split
  · rename_i inside
    have size := grid.index_lt_size inside.1 inside.2
    split
    · rename_i same
      rcases same with ⟨rfl, rfl⟩
      simp [cell?, inside, size]
    · rename_i different
      by_cases otherInside : otherColumn < grid.width ∧ otherRow < grid.height
      · have apart : row * grid.stride + column ≠ otherRow * grid.stride + otherColumn := by
          intro same
          have equal := grid.index_inj inside.1 otherInside.1 same
          exact different ⟨equal.1.symm, equal.2.symm⟩
        simp [cell?, otherInside, Array.getElem?_setIfInBounds_ne apart]
      · simp [cell?, otherInside]
  · rename_i outside
    split
    · rename_i same
      rcases same with ⟨rfl, rfl⟩
      simp [cell?, outside]
    · rfl

/-- A grid over stored cells, if there are enough of them for its rows. -/
def ofCells? (width height stride : Nat) (cells : Array α) : Option (Grid α) :=
  if fits : width ≤ stride ∧ (0 < height → stride * (height - 1) + width ≤ cells.size) then
    some ⟨width, height, stride, cells, fits.1, fits.2⟩
  else none

/-- The visible cells in reading order. -/
def toList [Inhabited α] (grid : Grid α) : List α :=
  (List.range grid.height).flatMap fun row =>
    (List.range grid.width).map fun column => grid.cell column row

theorem mem_toList [Inhabited α] {grid : Grid α} {value : α} :
    value ∈ grid.toList ↔ ∃ column row, grid.cell? column row = some value := by
  simp only [toList, List.mem_flatMap, List.mem_map, List.mem_range]
  constructor
  · rintro ⟨row, inHeight, column, inWidth, rfl⟩
    exact ⟨column, row, grid.cell?_eq_some_cell inWidth inHeight⟩
  · rintro ⟨column, row, found⟩
    have inside := (grid.isSome_cell?_iff column row).mp (by rw [found, Option.isSome_some])
    refine ⟨row, inside.2, column, inside.1, ?_⟩
    rw [cell, found, Option.getD_some]

theorem length_toList [Inhabited α] (grid : Grid α) : grid.toList.length = grid.width * grid.height := by
  simp [toList, List.map_const', Nat.mul_comm]

/-- Applies a function to every visible cell; the result is packed. -/
def map [Inhabited α] (function : α → β) (grid : Grid α) : Grid β :=
  build grid.width grid.height fun column row => function (grid.cell column row)

@[simp]
theorem width_map [Inhabited α] (function : α → β) (grid : Grid α) :
    (grid.map function).width = grid.width := rfl

@[simp]
theorem height_map [Inhabited α] (function : α → β) (grid : Grid α) :
    (grid.map function).height = grid.height := rfl

/-- Mapping acts on each visible cell by itself. -/
theorem cell?_map [Inhabited α] (function : α → β) (grid : Grid α) (column row : Nat) :
    (grid.map function).cell? column row = (grid.cell? column row).map function := by
  rw [map, cell?_build]
  by_cases inside : column < grid.width ∧ row < grid.height
  · obtain ⟨value, found⟩ :=
      Option.isSome_iff_exists.mp ((grid.isSome_cell?_iff column row).mpr inside)
    simp [inside, cell, found]
  · have absent : grid.cell? column row = none := by
      simp [cell?, inside]
    simp [inside, absent]

/-- Combines two grids cell by cell over the first one's rectangle. -/
def zipWith {γ : Type v} [Inhabited α] [Inhabited γ] (function : α → γ → β) (left : Grid α)
    (right : Grid γ) : Grid β :=
  build left.width left.height fun column row =>
    function (left.cell column row) (right.cell column row)

/-- Combining acts on the cells at each place. -/
theorem cell?_zipWith {γ : Type v} [Inhabited α] [Inhabited γ] {function : α → γ → β}
    {left : Grid α} {right : Grid γ}
    (sizes : (right.width, right.height) = (left.width, left.height)) (column row : Nat) :
    (zipWith function left right).cell? column row =
      (left.cell? column row).bind fun first => (right.cell? column row).map (function first) := by
  simp only [Prod.mk.injEq] at sizes
  rw [zipWith, cell?_build]
  by_cases inside : column < left.width ∧ row < left.height
  · have rightInside : column < right.width ∧ row < right.height := by omega
    simp [inside, left.cell?_eq_some_cell inside.1 inside.2,
      right.cell?_eq_some_cell rightInside.1 rightInside.2]
  · simp [inside, (left.cell?_eq_none_iff column row).mpr inside]

/-- A grid of another size whose cells are taken from given places of this one. -/
def remap [Inhabited α] (grid : Grid α) (width height : Nat) (place : Nat → Nat → Nat × Nat) :
    Grid α :=
  build width height fun column row =>
    let source := place column row
    grid.addressed source.1 source.2

@[simp]
theorem width_remap [Inhabited α] (grid : Grid α) (width height : Nat)
    (place : Nat → Nat → Nat × Nat) : (grid.remap width height place).width = width := rfl

@[simp]
theorem height_remap [Inhabited α] (grid : Grid α) (width height : Nat)
    (place : Nat → Nat → Nat × Nat) : (grid.remap width height place).height = height := rfl

/-- A cell of the new grid is the one at its place in the old grid. -/
theorem cell?_remap [Inhabited α] {grid : Grid α} {width height : Nat}
    {place : Nat → Nat → Nat × Nat} {column row : Nat} (inside : column < width ∧ row < height)
    (source : (place column row).1 < grid.width ∧ (place column row).2 < grid.height) :
    (grid.remap width height place).cell? column row =
      grid.cell? (place column row).1 (place column row).2 := by
  rw [remap, cell?_build, if_pos inside, grid.cell?_eq_some_cell source.1 source.2]
  exact congrArg some (grid.addressed_eq_cell source.1 source.2)

end Grid

instance {α : Type u} : Inhabited (Grid α) :=
  ⟨0, 0, 0, #[], Nat.le_refl 0, by simp⟩

end AvifStill
