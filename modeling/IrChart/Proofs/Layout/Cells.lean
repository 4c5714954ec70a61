import IrChart.Layout.Placement
import IrChart.Proofs.Graph.Depth
import Mathlib.Algebra.BigOperators.Group.List.Basic
import Mathlib.Data.Nat.Sqrt

/-!
# Cells of a layout

A layout first counts cells and only then computes points. The cell of a node lies among the cells
that are counted, and there are not more of them than nodes, give or take a few
(`within_gridCell`, `within_of_mem_cells`).
-/

namespace IrChart

namespace Layout

/-- The cell is one of those on the grid, which has at most `bound` cells on a side. -/
structure GridCell.Within (bound : Nat) (cell : GridCell) : Prop where
  column : cell.column ≤ cell.cells
  row : cell.row ≤ cell.cells
  some : 0 < cell.cells
  few : cell.cells ≤ bound

theorem columns_pos (n : Nat) : 0 < columns n := Nat.le_max_left ..

theorem columns_le (n : Nat) : columns n ≤ 2 * n + 1 := by
  have root : Nat.sqrt (4 * n) ≤ 4 * n := Nat.sqrt_le_self (4 * n)
  unfold columns
  omega

/-- A row is among those of the grid if the rows before it leave nodes over. -/
theorem lt_rows_iff {n row : Nat} : row < rows n ↔ row * columns n < n := by
  have pos := columns_pos n
  rw [rows, Nat.lt_iff_add_one_le, Nat.le_div_iff_mul_le pos, Nat.add_mul, Nat.one_mul]
  omega

theorem rows_le (n : Nat) : rows n ≤ n := by
  rw [← Nat.not_lt, lt_rows_iff, Nat.not_lt]
  exact Nat.le_mul_of_pos_right n (columns_pos n)

/-- The row of a node is among those of the grid. -/
theorem row_le_rows {n place : Nat} (h : place < n) : (gridCell n place).row ≤ rows n := by
  have above : place / columns n < rows n := by
    rw [lt_rows_iff]
    exact Nat.lt_of_le_of_lt (Nat.div_mul_le_self place (columns n)) h
  exact above

theorem column_le_columns (n place : Nat) : (gridCell n place).column ≤ columns n :=
  Nat.mod_lt place (columns_pos n)

/-- The node at a place has a cell on the grid. -/
theorem within_gridCell {n place : Nat} (h : place < n) :
    (gridCell n place).Within (2 * n + 1) where
  column := (column_le_columns n place).trans (Nat.le_max_left ..)
  row := (row_le_rows h).trans (Nat.le_max_right ..)
  some := Nat.lt_of_lt_of_le (columns_pos n) (Nat.le_max_left ..)
  few := Nat.max_le.2 ⟨columns_le n, (rows_le n).trans (by omega)⟩

end Layout

/-- The cell is one of those that are counted, of which there are at most `bound` in a row of any
kind. -/
structure Cell.Within (bound : Nat) (cell : Cell) : Prop where
  strip : cell.strip < cell.strips
  row : cell.row < cell.rows
  slot : cell.slot < cell.slots
  fewStrips : cell.strips ≤ bound
  fewRows : cell.rows ≤ bound
  fewSlots : cell.slots ≤ bound

theorem foldl_max_le {xs : List Nat} {start bound : Nat} (first : start ≤ bound)
    (all : ∀ x ∈ xs, x ≤ bound) : xs.foldl max start ≤ bound := by
  induction xs generalizing start with
  | nil => exact first
  | cons x xs ih =>
    apply ih (Nat.max_le.2 ⟨first, all x (List.mem_cons_self ..)⟩)
    intro y member
    exact all y (List.mem_cons_of_mem x member)

namespace Links

variable {n : Nat}

/-- There are at most as many groups as nodes, since no group is empty. -/
theorem length_groups_le (l : Links n) : l.groups.length ≤ n := by
  have some : ∀ size ∈ l.groups.map List.length, 1 ≤ size := by
    intro size member
    obtain ⟨group, inGroups, rfl⟩ := List.mem_map.1 member
    obtain ⟨front, last, rfl, -⟩ := l.grouped_groups.ends group inGroups
    simp
  have few := List.length_le_sum_of_one_le _ some
  rwa [List.length_map, ← List.length_flatten, l.grouped_groups.members.length_eq,
    List.length_finRange] at few

/-- No group has more members than there are nodes. -/
theorem length_group_le (l : Links n) {group : List (Fin n)} (member : group ∈ l.groups) :
    group.length ≤ n := by
  have part := (List.sublist_flatten_of_mem member).length_le
  rwa [l.grouped_groups.members.length_eq, List.length_finRange] at part

/-- No depth is greater than the number of nodes. -/
theorem depth_le (l : Links n) (group : List (Fin n)) (i : Fin n) :
    ((l.rank group).get i).depth?.getD 0 ≤ n := by
  cases mark : (l.rank group).get i with
  | fresh => exact Nat.zero_le n
  | waiting => exact Nat.zero_le n
  | ranked depth =>
    have below := (l.sound_rank group).lt_length (fun j _ _ => List.mem_finRange j) mark
    rw [List.length_finRange] at below
    exact Nat.le_of_lt below

/-- The cells are those of the groups, each of which has the strip at its place. -/
theorem mem_cells {l : Links n} {entry : Fin n × Cell} :
    entry ∈ l.cells ↔ ∃ group strip, l.groups[strip]? = some group ∧
      entry ∈ l.groupCells l.groups.length strip group := by
  simp only [cells, List.mem_flatMap, List.mem_zipIdx_iff_getElem?, Prod.exists]

theorem within_of_mem_cells (l : Links n) {entry : Fin n × Cell} (member : entry ∈ l.cells) :
    entry.2.Within (n + 1) := by
  have few := l.length_groups_le
  obtain ⟨group, strip, place, inGroup⟩ := mem_cells.1 member
  obtain ⟨row, inRows, inRow⟩ := List.mem_flatMap.1 inGroup
  obtain ⟨⟨i, slot⟩, inMembers, rfl⟩ := List.mem_map.1 inRow
  have inGroups : strip < l.groups.length := (List.getElem?_eq_some_iff.1 place).1
  have slots := List.snd_lt_of_mem_zipIdx inMembers
  have inRows' := List.mem_range.1 inRows
  have length : group.length ≤ n := l.length_group_le (List.mem_of_getElem? place)
  refine ⟨inGroups, inRows', by simpa using slots, ?_, ?_, ?_⟩
  · show l.groups.length ≤ n + 1
    omega
  · apply Nat.succ_le_succ
    apply foldl_max_le (Nat.zero_le n)
    intro depth inDepths
    obtain ⟨j, -, rfl⟩ := List.mem_map.1 inDepths
    exact l.depth_le group j
  · show (List.filter _ group).length ≤ n + 1
    exact (List.length_filter_le _ group).trans (length.trans (Nat.le_succ n))

end Links
end IrChart
