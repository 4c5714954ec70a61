import IrChart.Proofs.Layout.Cells
import IrChart.Proofs.Layout.Coverage
import Mathlib.Algebra.Order.Field.Rat
import Mathlib.Order.Interval.Set.Defs
import Mathlib.Tactic.Linarith

/-!
# Every node has a cell on the grid

The number of columns is the whole number nearest to the square root of the number of nodes
(`columns_eq_iff`), so there are as many rows as columns or one more. The nodes fill the rows one
after another: each has a cell to itself, no row is empty and only the last one has cells to spare.
As long as nothing rounds the last row ends at the far edge of the unit square (`gridded`).
-/

namespace IrChart.Layout

variable {n : Nat}

/-! ### Columns and rows -/

/-- The number of columns is the only whole number that is off the square root by less than one
half. -/
theorem columns_eq_iff (some : 1 ≤ n) {c : Nat} :
    columns n = c ↔ (2 * c - 1) ^ 2 ≤ 4 * n ∧ 4 * n < (2 * c + 1) ^ 2 := by
  have root : 1 ≤ Nat.sqrt (4 * n) := Nat.sqrt_pos.2 (by omega)
  rw [← Nat.le_sqrt', ← Nat.sqrt_lt']
  unfold columns
  omega

/-- The nodes are more than a square with one row less holds, and fit with one row more. -/
theorem columns_bounds (some : 1 ≤ n) :
    columns n * (columns n - 1) < n ∧ n ≤ columns n * (columns n + 1) := by
  obtain ⟨low, high⟩ := (columns_eq_iff some).1 rfl
  obtain ⟨c, eq⟩ : ∃ c, columns n = c + 1 := Nat.exists_eq_succ_of_ne_zero (columns_pos n).ne'
  rw [eq] at low high ⊢
  have odd : 2 * (c + 1) - 1 = 2 * c + 1 := by omega
  rw [odd] at low
  simp only [Nat.add_sub_cancel]
  constructor <;> nlinarith

theorem rows_eq (some : 1 ≤ n) : rows n = columns n ∨ rows n = columns n + 1 := by
  obtain ⟨low, high⟩ := columns_bounds some
  have pos := columns_pos n
  have square : columns n - 1 < rows n := by
    rw [lt_rows_iff, Nat.mul_comm]
    exact low
  have few : ¬ columns n + 1 < rows n := by
    rw [lt_rows_iff, Nat.mul_comm]
    omega
  omega

/-- The cells are as large as the rows allow, since there are no fewer rows than columns. -/
theorem cells_gridCell (some : 1 ≤ n) (place : Nat) : (gridCell n place).cells = rows n := by
  show max (columns n) (rows n) = rows n
  rcases rows_eq some with eq | eq <;> omega

/-! ### Cells in the order of the nodes -/

/-- The cells up to a cell are those of the rows before it and those of its row. -/
theorem cells_before (n place : Nat) :
    ((gridCell n place).row - 1) * columns n + (gridCell n place).column = place + 1 := by
  have split := Nat.div_add_mod' place (columns n)
  simp only [gridCell, Nat.add_sub_cancel]
  omega

theorem gridCell_at (row : Nat) {column : Nat} (inside : column < columns n) :
    (gridCell n (row * columns n + column)).row = row + 1 ∧
      (gridCell n (row * columns n + column)).column = column + 1 := by
  have pos := columns_pos n
  simp only [gridCell, Nat.mul_comm row, Nat.mul_add_div pos, Nat.mul_add_mod,
    Nat.div_eq_of_lt inside, Nat.mod_eq_of_lt inside, Nat.add_zero, and_self]

theorem column_mem (n place : Nat) : (gridCell n place).column ∈ Set.Icc 1 (columns n) :=
  ⟨Nat.succ_pos _, column_le_columns n place⟩

theorem row_mem {place : Nat} (h : place < n) : (gridCell n place).row ∈ Set.Icc 1 (rows n) :=
  ⟨Nat.succ_pos _, row_le_rows h⟩

/-- The cell of a later node is in a later row, or to the right in the same row. -/
theorem cell_lt_of_lt {place later : Nat} (h : place < later) :
    (gridCell n place).row < (gridCell n later).row ∨
      (gridCell n place).row = (gridCell n later).row ∧
        (gridCell n place).column < (gridCell n later).column := by
  have rows : (gridCell n place).row ≤ (gridCell n later).row :=
    Nat.succ_le_succ (Nat.div_le_div_right h.le)
  rcases rows.lt_or_eq with above | same
  · exact .inl above
  · have before := cells_before n place
    have before' := cells_before n later
    rw [same] at before
    exact .inr ⟨same, by omega⟩

/-- No two places have the same cell. -/
theorem place_eq_of_cell {place other : Nat}
    (column : (gridCell n place).column = (gridCell n other).column)
    (row : (gridCell n place).row = (gridCell n other).row) : place = other := by
  have before := cells_before n place
  have before' := cells_before n other
  rw [column, row] at before
  omega

/-- A cell of a row has a node if the row is not the last one. -/
theorem exists_place_of_cell {row column : Nat} (row_mem : row ∈ Set.Ico 1 (rows n))
    (column_mem : column ∈ Set.Icc 1 (columns n)) :
    ∃ place < n, (gridCell n place).row = row ∧ (gridCell n place).column = column := by
  obtain ⟨row, rfl⟩ := Nat.exists_eq_add_of_le' row_mem.1
  obtain ⟨column, rfl⟩ := Nat.exists_eq_add_of_le' column_mem.1
  have inside : column < columns n := column_mem.2
  refine ⟨row * columns n + column, ?_, gridCell_at row inside⟩
  -- The row below begins with a node, and all cells of this row come before it.
  have below := lt_rows_iff.1 row_mem.2
  rw [Nat.add_mul, Nat.one_mul] at below
  omega

theorem exists_place_of_row {row : Nat} (row_mem : row ∈ Set.Icc 1 (rows n)) :
    ∃ place < n, (gridCell n place).row = row := by
  obtain ⟨row, rfl⟩ := Nat.exists_eq_add_of_le' row_mem.1
  have first := gridCell_at (n := n) row (columns_pos n)
  exact ⟨row * columns n, lt_rows_iff.1 row_mem.2, first.1⟩

/-! ### Points -/

/-- The far corner of a cell in exact numbers. -/
def GridCell.exactCorner (cell : GridCell) : Point ℚ := cell.corner

/-- One of some equal parts of the unit interval ends in it. -/
theorem div_mem_Ioc {part parts : Nat} (some : 1 ≤ part) (inside : part ≤ parts) :
    (part / parts : ℚ) ∈ Set.Ioc (0 : ℚ) 1 := by
  have first : (0 : ℚ) < part := by exact_mod_cast some
  have last : (part : ℚ) ≤ parts := by exact_mod_cast inside
  have many : (0 : ℚ) < parts := first.trans_le last
  exact ⟨div_pos first many, (div_le_one₀ many).2 last⟩

/-- An id is at the corner of the cell of its last node. -/
theorem get?_grid {g : Graph} {id : String} {place : Nat} (last : IsLastAt g.ids id place) :
    (grid g).get? id = some (gridCell g.size place).corner := by
  have size : g.ids.length = g.size := List.length_map ..
  have inside : place < g.size := by
    rw [← size]
    exact (List.getElem?_eq_some_iff.1 last.1).1
  have zipped : grid g = .ofList
      (g.ids.zip ((List.range g.size).map fun place => (gridCell g.size place).corner)) := by
    rw [grid_eq, List.zipIdx_eq_zip_range', List.zip_map_right, size, List.range_eq_range']
    rfl
  rw [zipped, Keyed.get?_ofList_zip last (by simp [size])]
  simp [inside]

/-! ### The grid -/

/-- The cells of `n` nodes on a grid. -/
structure Gridded (n : Nat) : Prop where
  /-- The number of columns is the whole number nearest to the square root. -/
  columns_iff : ∀ c, columns n = c ↔ (2 * c - 1) ^ 2 ≤ 4 * n ∧ 4 * n < (2 * c + 1) ^ 2
  rows : rows n = columns n ∨ rows n = columns n + 1
  cells : ∀ place, (gridCell n place).cells = max (columns n) (Layout.rows n)
  column_mem : ∀ place < n, (gridCell n place).column ∈ Set.Icc 1 (columns n)
  row_mem : ∀ place < n, (gridCell n place).row ∈ Set.Icc 1 (Layout.rows n)
  within : ∀ place < n, (gridCell n place).column ≤ (gridCell n place).cells ∧
    (gridCell n place).row ≤ (gridCell n place).cells
  /-- No two nodes share a cell. -/
  apart : ∀ place < n, ∀ other < n, (gridCell n place).column = (gridCell n other).column →
    (gridCell n place).row = (gridCell n other).row → place = other
  /-- The cells are taken row by row in the order of the nodes, and none is left out. -/
  before : ∀ place < n,
    ((gridCell n place).row - 1) * columns n + (gridCell n place).column = place + 1
  ascending : ∀ later < n, ∀ place < later,
    (gridCell n place).row < (gridCell n later).row ∨
      (gridCell n place).row = (gridCell n later).row ∧
        (gridCell n place).column < (gridCell n later).column
  occupied : ∀ row ∈ Set.Icc 1 (Layout.rows n), ∃ place < n, (gridCell n place).row = row
  /-- All rows but the last are full. -/
  full : ∀ row ∈ Set.Ico 1 (Layout.rows n), ∀ column ∈ Set.Icc 1 (columns n),
    ∃ place < n, (gridCell n place).row = row ∧ (gridCell n place).column = column
  inside : ∀ place < n, (gridCell n place).exactCorner.x ∈ Set.Ioc (0 : ℚ) 1 ∧
    (gridCell n place).exactCorner.y ∈ Set.Ioc (0 : ℚ) 1
  /-- The last row ends at the far edge. -/
  last : ∀ place < n, (gridCell n place).row = Layout.rows n →
    (gridCell n place).exactCorner.y = 1
  /-- A graph of `n` nodes is placed in these cells, an id that repeats in that of its last node. -/
  placed : ∀ g : Graph, g.size = n → ∀ id place, IsLastAt g.ids id place →
    (grid g).get? id = some (gridCell n place).corner

/-- Any number of nodes fills a grid. -/
theorem gridded (some : 1 ≤ n) : Gridded n where
  columns_iff _ := columns_eq_iff some
  rows := rows_eq some
  cells _ := rfl
  column_mem place _ := column_mem n place
  row_mem _ h := row_mem h
  within _ h := ⟨(within_gridCell h).column, (within_gridCell h).row⟩
  apart _ _ _ _ column row := place_eq_of_cell column row
  before place _ := cells_before n place
  ascending _ _ _ before := cell_lt_of_lt before
  occupied _ h := exists_place_of_row h
  full _ row _ column := exists_place_of_cell row column
  inside place h :=
    ⟨div_mem_Ioc (column_mem n place).1 (within_gridCell h).column,
      div_mem_Ioc (row_mem h).1 (within_gridCell h).row⟩
  last place h lowest := by
    have many : ((gridCell n place).cells : ℚ) ≠ 0 := by
      have := (row_mem h).1
      rw [cells_gridCell some, ← lowest]
      exact_mod_cast Nat.one_le_iff_ne_zero.1 this
    show ((gridCell n place).row : ℚ) / ((gridCell n place).cells : ℚ) = 1
    rw [div_eq_one_iff_eq many, lowest, cells_gridCell some]
  placed g size id place last := by
    rw [get?_grid last, size]

/-- Six nodes are the most that two columns hold, and need a third row. -/
theorem gridded_six : 1 ≤ 6 ∧ Gridded 6 ∧ columns 6 = 2 ∧ rows 6 = 3 ∧ columns 7 = 3 := by
  have six : columns 6 = 2 := (columns_eq_iff (by decide)).2 (by decide)
  have seven : columns 7 = 3 := (columns_eq_iff (by decide)).2 (by decide)
  refine ⟨by decide, gridded (by decide), six, ?_, seven⟩
  rw [rows, six]

end IrChart.Layout
