import IrChart.Proofs.Layout.Inside
import IrChart.Proofs.Random.Words
import Mathlib.Order.Bounds.Basic
import Mathlib.Order.Interval.Set.Disjoint

/-!
# Every node has a cell of its own

A layered layout counts before it computes points. What it counts is said without the layout by
`Graph.HasCell`: the strip is the place of the group, the row the depth, and the slot the place
among the members of the same depth (`mem_cells_iff`). Since the members of a group are those of its
rows, no node is left without a cell (`map_fst_cells_perm`), and no two nodes have the same one, nor
the same point as long as nothing rounds (`layered_cells`).

So every point that was drawn is replaced, and the layout is that of the graph alone
(`run_compute_layers`).
-/

namespace IrChart

namespace Layout

/-- One of some equal parts of the interval that begins at `low` and has the length `extent`. -/
def part (low extent : ℚ) (parts place : ℕ) : Set ℚ :=
  Set.Ico (low + extent / parts * place) (low + extent / parts * (place + 1))

section Parts

variable {low extent : ℚ} {parts place : ℕ}

theorem start_mem_part (some : 0 < extent) (inside : place < parts) :
    low + extent / parts * place ∈ part low extent parts place := by
  have many : (0 : ℚ) < parts := by exact_mod_cast Nat.zero_lt_of_lt inside
  have size : 0 < extent / parts := div_pos some many
  constructor
  · exact le_refl _
  · linarith

/-- The parts lie in the interval. -/
theorem part_subset (some : 0 ≤ extent) (inside : place < parts) :
    part low extent parts place ⊆ Set.Ico low (low + extent) := by
  have many : (0 : ℚ) < parts := by exact_mod_cast Nat.zero_lt_of_lt inside
  have size : 0 ≤ extent / parts := div_nonneg some many.le
  have next : (place : ℚ) + 1 ≤ parts := by exact_mod_cast inside
  have before : 0 ≤ extent / parts * place := mul_nonneg size (Nat.cast_nonneg place)
  have whole : extent / parts * (place + 1) ≤ extent := by
    calc extent / parts * (place + 1) ≤ extent / parts * parts := by gcongr
      _ = extent := div_mul_cancel₀ extent many.ne'
  apply Set.Ico_subset_Ico <;> linarith

/-- Different parts have nothing in common. -/
theorem disjoint_part (some : 0 ≤ extent) {first second : ℕ} (different : first ≠ second) :
    Disjoint (part low extent parts first) (part low extent parts second) := by
  wlog less : first < second generalizing first second
  · exact (this different.symm (by omega)).symm
  have size : 0 ≤ extent / parts := div_nonneg some (Nat.cast_nonneg parts)
  have next : (first : ℚ) + 1 ≤ second := by exact_mod_cast less
  rw [part, part, Set.Ico_disjoint_Ico]
  apply (min_le_left _ _).trans ((add_le_add_right _ _).trans (le_max_right _ _))
  gcongr

end Parts

end Layout

/-- Filtering by each value of a key below a bound takes a list apart. -/
theorem flatMap_filter_range_perm {α : Type} {key : α → Nat} {bound : Nat} {xs : List α}
    (below : ∀ x ∈ xs, key x < bound) :
    ((List.range bound).flatMap fun k => xs.filter (key · == k)).Perm xs := by
  induction bound generalizing xs with
  | zero =>
    have none : xs = [] := List.eq_nil_iff_forall_not_mem.2 fun x member =>
      Nat.not_lt_zero _ (below x member)
    rw [none]
    exact .refl _
  | succ bound ih =>
    let lower := xs.filter fun x => !(key x == bound)
    have parts : ((List.range bound).flatMap fun k => lower.filter (key · == k)).Perm lower := by
      apply ih
      intro x member
      obtain ⟨inside, other⟩ := List.mem_filter.1 member
      have other' : key x ≠ bound := by simpa using other
      have := below x inside
      omega
    have same : ((List.range bound).flatMap fun k => xs.filter (key · == k)) =
        (List.range bound).flatMap fun k => lower.filter (key · == k) := by
      apply List.flatMap_congr
      intro k inRange
      rw [List.filter_filter]
      apply List.filter_congr
      intro x _
      have := List.mem_range.1 inRange
      by_cases here : key x = k <;> simp [here]
      omega
    rw [List.range_succ, List.flatMap_append, List.flatMap_singleton, same]
    exact (parts.append_right _).trans
      (List.perm_append_comm.trans (List.filter_append_perm _ xs))

namespace Graph

variable {g : Graph} {group : List (Fin g.size)}

/-! ### Rows of a group -/

/-- The members of a group that have a depth, in group order. -/
def row (g : Graph) (group : List (Fin g.size)) (depth : Nat) : List (Fin g.size) :=
  group.filter (g.depth? group · == some depth)

theorem mem_row (isGroup : group ∈ (Links.ofGraph g).groups) {i : Fin g.size} {depth : Nat} :
    i ∈ g.row group depth ↔ g.depth? group i = some depth := by
  rw [row, List.mem_filter, beq_iff_eq, and_iff_right_iff_imp]
  exact mem_group_of_depth? isGroup

/-- The depth of a node, 0 for a node that is not ranked. -/
def depthOr0 (g : Graph) (group : List (Fin g.size)) (i : Fin g.size) : Nat :=
  (g.depth? group i).getD 0

theorem depth?_eq_some_depthOr0 (isGroup : group ∈ (Links.ofGraph g).groups) {i : Fin g.size}
    (member : i ∈ group) : g.depth? group i = some (g.depthOr0 group i) := by
  obtain ⟨depth, ranked⟩ := Option.isSome_iff_exists.1 ((depth?_isSome_iff isGroup i).2 member)
  rw [depthOr0, ranked, Option.getD_some]

/-- All members of a group are ranked, so none gets into a row by default. -/
theorem filter_depthOr0 (isGroup : group ∈ (Links.ofGraph g).groups) (depth : Nat) :
    group.filter (g.depthOr0 group · == depth) = g.row group depth := by
  apply List.filter_congr
  intro i member
  rw [depth?_eq_some_depthOr0 isGroup member]
  rfl

/-- The depths of a group. -/
def Depths (g : Graph) (group : List (Fin g.size)) : Set Nat :=
  {depth | ∃ i ∈ group, g.depth? group i = some depth}

/-- The greatest depth of a group. -/
def deepest (g : Graph) (group : List (Fin g.size)) : Nat :=
  (group.map (g.depthOr0 group)).foldl max 0

theorem depthOr0_le_deepest {i : Fin g.size} (member : i ∈ group) :
    g.depthOr0 group i ≤ g.deepest group := by
  rw [deepest, List.foldl_max]
  exact (List.le_max?_getD_of_mem (List.mem_map_of_mem member)).trans (Nat.le_max_right ..)

theorem isGreatest_deepest (isGroup : group ∈ (Links.ofGraph g).groups) :
    IsGreatest (g.Depths group) (g.deepest group) := by
  constructor
  · obtain ⟨front, last, rfl, -⟩ := (Links.ofGraph g).grouped_groups.ends group isGroup
    have some : ((front ++ [last]).map (g.depthOr0 (front ++ [last]))).max?.isSome := by simp
    obtain ⟨depth, greatest⟩ := Option.isSome_iff_exists.1 some
    obtain ⟨i, member, rfl⟩ := List.mem_map.1 (List.max?_eq_some_iff.1 greatest).1
    refine ⟨i, member, ?_⟩
    rw [depth?_eq_some_depthOr0 isGroup member, deepest, List.foldl_max, greatest]
    simp
  · rintro depth ⟨i, member, ranked⟩
    rw [depth?_eq_some_depthOr0 isGroup member] at ranked
    cases ranked
    exact depthOr0_le_deepest member

/-- No row up to the greatest depth is empty. -/
theorem exists_mem_row (isGroup : group ∈ (Links.ofGraph g).groups) {depth : Nat}
    (low : depth ≤ g.deepest group) : ∃ i, i ∈ g.row group depth := by
  obtain ⟨j, -, ranked⟩ := (isGreatest_deepest isGroup).1
  obtain ⟨i, given⟩ := (g.sound_rank group).exists_ranked (depth?_eq_some_iff.1 ranked) low
  exact ⟨i, (mem_row isGroup).2 (depth?_eq_some_iff.2 given)⟩

/-! ### The cells of a graph -/

/-- The cell of a member of a group: the strip is the place of the group, the row the depth of the
node, the slot its place among the members of the same depth. -/
structure HasCell (g : Graph) (group : List (Fin g.size)) (i : Fin g.size) (cell : Cell) :
    Prop where
  strip : (Links.ofGraph g).groups[cell.strip]? = some group
  strips : cell.strips = (Links.ofGraph g).groups.length
  row : g.depth? group i = some cell.row
  rows : ∃ deepest, IsGreatest (g.Depths group) deepest ∧ cell.rows = deepest + 1
  slot : (g.row group cell.row)[cell.slot]? = some i
  slots : cell.slots = (g.row group cell.row).length

namespace HasCell

variable {i j : Fin g.size} {cell cell' : Cell} {group' : List (Fin g.size)}

theorem isGroup (h : g.HasCell group i cell) : group ∈ (Links.ofGraph g).groups :=
  List.mem_of_getElem? h.strip

theorem rows_eq (h : g.HasCell group i cell) : cell.rows = g.deepest group + 1 := by
  obtain ⟨deepest, greatest, rows⟩ := h.rows
  rw [rows, greatest.unique (isGreatest_deepest h.isGroup)]

theorem strip_lt (h : g.HasCell group i cell) : cell.strip < cell.strips := by
  rw [h.strips]
  exact (List.getElem?_eq_some_iff.1 h.strip).1

theorem row_le (h : g.HasCell group i cell) : cell.row ≤ g.deepest group :=
  (isGreatest_deepest h.isGroup).2 ⟨i, mem_group_of_depth? h.isGroup h.row, h.row⟩

theorem row_lt (h : g.HasCell group i cell) : cell.row < cell.rows := by
  rw [h.rows_eq]
  exact Nat.lt_succ_of_le h.row_le

theorem slot_lt (h : g.HasCell group i cell) : cell.slot < cell.slots := by
  rw [h.slots]
  exact (List.getElem?_eq_some_iff.1 h.slot).1

/-- Cells of one strip belong to one group. -/
theorem group_eq (h : g.HasCell group i cell) (h' : g.HasCell group' j cell')
    (strip : cell.strip = cell'.strip) : group = group' := by
  have here := h.strip
  rw [strip, h'.strip] at here
  exact (Option.some.inj here).symm

/-- No two nodes have one cell. -/
theorem node_eq (h : g.HasCell group i cell) (h' : g.HasCell group' j cell')
    (strip : cell.strip = cell'.strip) (row : cell.row = cell'.row)
    (slot : cell.slot = cell'.slot) : i = j := by
  obtain rfl := h.group_eq h' strip
  have here := h.slot
  rw [row, slot, h'.slot] at here
  exact (Option.some.inj here).symm

/-- Some node is in each row of a strip. -/
theorem exists_of_row (h : g.HasCell group i cell) {row : Nat} (low : row < cell.rows) :
    ∃ j cell', g.HasCell group j cell' ∧ cell'.strip = cell.strip ∧ cell'.row = row := by
  rw [h.rows_eq] at low
  obtain ⟨j, member⟩ := exists_mem_row h.isGroup (Nat.le_of_lt_succ low)
  obtain ⟨slot, place⟩ := List.mem_iff_getElem?.1 member
  let cell' : Cell := { cell with row, slot, slots := (g.row group row).length }
  have has : g.HasCell group j cell' :=
    { strip := h.strip
      strips := h.strips
      row := (mem_row h.isGroup).1 member
      rows := h.rows
      slot := place
      slots := rfl }
  exact ⟨j, cell', has, rfl, rfl⟩

end HasCell

theorem groupCells_ofGraph (isGroup : group ∈ (Links.ofGraph g).groups) (strips strip : Nat) :
    (Links.ofGraph g).groupCells strips strip group =
      (List.range (g.deepest group + 1)).flatMap fun row =>
        (g.row group row).zipIdx.map fun (i, slot) =>
          (i, { strip, strips, row, rows := g.deepest group + 1, slot,
                slots := (g.row group row).length }) := by
  simp only [← filter_depthOr0 isGroup]
  rfl

/-- The cells of a group, in terms of its rows. -/
theorem mem_groupCells (isGroup : group ∈ (Links.ofGraph g).groups) {strips strip : Nat}
    {i : Fin g.size} {cell : Cell} :
    (i, cell) ∈ (Links.ofGraph g).groupCells strips strip group ↔
      cell.row ≤ g.deepest group ∧ (g.row group cell.row)[cell.slot]? = some i ∧
        cell.strip = strip ∧ cell.strips = strips ∧ cell.rows = g.deepest group + 1 ∧
        cell.slots = (g.row group cell.row).length := by
  rw [groupCells_ofGraph isGroup]
  simp only [List.mem_flatMap, List.mem_range, List.mem_map, List.mem_zipIdx_iff_getElem?,
    Prod.exists, Prod.mk.injEq]
  constructor
  · rintro ⟨row, low, j, slot, place, rfl, rfl⟩
    exact ⟨Nat.le_of_lt_succ low, place, rfl, rfl, rfl, rfl⟩
  · rintro ⟨low, place, rfl, rfl, rows, slots⟩
    refine ⟨cell.row, Nat.lt_succ_of_le low, i, cell.slot, place, rfl, ?_⟩
    rw [← rows, ← slots]

/-- The layout gives nodes their cells. -/
theorem mem_cells_iff {i : Fin g.size} {cell : Cell} :
    (i, cell) ∈ (Links.ofGraph g).cells ↔ ∃ group, g.HasCell group i cell := by
  rw [Links.mem_cells]
  constructor
  · rintro ⟨group, strip, place, inGroup⟩
    have isGroup := List.mem_of_getElem? place
    obtain ⟨-, place', rfl, strips, rows, slots⟩ := (mem_groupCells isGroup).1 inGroup
    exact ⟨group, place, strips, (mem_row isGroup).1 (List.mem_of_getElem? place'),
      ⟨_, isGreatest_deepest isGroup, rows⟩, place', slots⟩
  · rintro ⟨group, h⟩
    exact ⟨group, cell.strip, h.strip, (mem_groupCells h.isGroup).2
      ⟨h.row_le, h.slot, rfl, h.strips, h.rows_eq, h.slots⟩⟩

theorem map_fst_groupCells_perm (isGroup : group ∈ (Links.ofGraph g).groups)
    (strips strip : Nat) :
    (((Links.ofGraph g).groupCells strips strip group).map Prod.fst).Perm group := by
  have rows : ((Links.ofGraph g).groupCells strips strip group).map Prod.fst =
      (List.range (g.deepest group + 1)).flatMap fun depth =>
        group.filter (g.depthOr0 group · == depth) := by
    rw [groupCells_ofGraph isGroup, List.map_flatMap]
    apply List.flatMap_congr
    intro depth _
    rw [List.map_map, filter_depthOr0 isGroup]
    exact List.zipIdx_map_fst 0 (g.row group depth)
  rw [rows]
  apply flatMap_filter_range_perm
  intro i member
  exact Nat.lt_succ_of_le (depthOr0_le_deepest member)

/-- Every node has one cell. -/
theorem map_fst_cells_perm (g : Graph) :
    ((Links.ofGraph g).cells.map Prod.fst).Perm (List.finRange g.size) := by
  let groups := (Links.ofGraph g).groups
  have parts : ((Links.ofGraph g).cells.map Prod.fst).Perm
      (groups.zipIdx.flatMap fun entry => entry.1) := by
    rw [Links.cells, List.map_flatMap]
    apply List.Perm.flatMap_left
    intro entry member
    exact map_fst_groupCells_perm (List.fst_mem_of_mem_zipIdx member) _ _
  have members : (groups.zipIdx.flatMap fun entry => entry.1) = groups.flatten := by
    rw [List.flatMap_def]
    exact congrArg List.flatten (List.zipIdx_map_fst 0 groups)
  rw [members] at parts
  exact parts.trans (Links.ofGraph g).grouped_groups.members

end Graph

/-! ### Corners in exact numbers -/

open Layout (part start_mem_part part_subset disjoint_part)

namespace Cell

/-- The corner of a cell if nothing rounds. -/
def exactCorner (cell : Cell) : Point ℚ := cell.corner (1 / 20) (9 / 10)

/-- The first coordinates of a strip. -/
def stripSpan (strips strip : ℕ) : Set ℚ := part (1 / 20) (9 / 10) strips strip

theorem disjoint_stripSpan (strips : ℕ) :
    Pairwise fun first second => Disjoint (stripSpan strips first) (stripSpan strips second) :=
  fun _ _ different => disjoint_part (by norm_num) different

end Cell

namespace Graph

variable {g : Graph} {group group' : List (Fin g.size)} {i j : Fin g.size} {cell cell' : Cell}

namespace HasCell

/-- The part of a strip that a slot takes. -/
theorem x_mem_part (h : g.HasCell group i cell) :
    cell.exactCorner.x ∈ part (1 / 20 + 9 / 10 / cell.strips * cell.strip)
      (9 / 10 / cell.strips) cell.slots cell.slot := by
  have strips : max cell.strips 1 = cell.strips :=
    Nat.max_eq_left (Nat.zero_lt_of_lt h.strip_lt)
  have many : (0 : ℚ) < cell.strips := by exact_mod_cast Nat.zero_lt_of_lt h.strip_lt
  rw [Cell.exactCorner, Cell.corner, strips]
  exact start_mem_part (by positivity) h.slot_lt

theorem y_mem_part (h : g.HasCell group i cell) :
    cell.exactCorner.y ∈ part (1 / 20) (9 / 10) cell.rows cell.row :=
  start_mem_part (by norm_num) h.row_lt

theorem x_mem_stripSpan (h : g.HasCell group i cell) :
    cell.exactCorner.x ∈ Cell.stripSpan cell.strips cell.strip := by
  have inside := part_subset (by positivity) h.slot_lt h.x_mem_part
  have next : 1 / 20 + 9 / 10 / (cell.strips : ℚ) * cell.strip + 9 / 10 / cell.strips =
      1 / 20 + 9 / 10 / cell.strips * (cell.strip + 1) := by ring
  rw [next] at inside
  exact inside

/-- The corner lies in the square that the margins leave. -/
theorem exactCorner_mem (h : g.HasCell group i cell) :
    cell.exactCorner.x ∈ Set.Ico (1 / 20 : ℚ) (19 / 20) ∧
      cell.exactCorner.y ∈ Set.Ico (1 / 20 : ℚ) (19 / 20) := by
  have whole : (1 / 20 : ℚ) + 9 / 10 = 19 / 20 := by norm_num
  have across := part_subset (by norm_num) h.strip_lt h.x_mem_stripSpan
  have down := part_subset (by norm_num) h.row_lt h.y_mem_part
  rw [whole] at across down
  exact ⟨across, down⟩

/-- Nodes with the same corner are the same: their strips, rows and slots are parts that have a
point in common. -/
theorem node_eq_of_exactCorner (h : g.HasCell group i cell) (h' : g.HasCell group' j cell')
    (corner : cell.exactCorner = cell'.exactCorner) : i = j := by
  have strips : cell.strips = cell'.strips := h.strips.trans h'.strips.symm
  have strip : cell.strip = cell'.strip := by
    by_contra different
    have here := h.x_mem_stripSpan
    rw [corner, strips] at here
    exact Set.disjoint_left.1 (Cell.disjoint_stripSpan _ different) here h'.x_mem_stripSpan
  obtain rfl := h.group_eq h' strip
  have rows : cell.rows = cell'.rows := h.rows_eq.trans h'.rows_eq.symm
  have row : cell.row = cell'.row := by
    by_contra different
    have here := h.y_mem_part
    rw [corner, rows] at here
    exact Set.disjoint_left.1 (disjoint_part (by norm_num) different) here h'.y_mem_part
  have slots : cell.slots = cell'.slots := by rw [h.slots, h'.slots, row]
  have slot : cell.slot = cell'.slot := by
    by_contra different
    have here := h.x_mem_part
    rw [corner, strips, strip, slots] at here
    exact Set.disjoint_left.1 (disjoint_part (by positivity) different) here h'.x_mem_part
  exact h.node_eq h' strip row slot

end HasCell

end Graph

namespace Layout

/-! ### What was drawn is replaced -/

/-- Every id has a node with a cell. -/
theorem ids_subset_cells (g : Graph) :
    g.ids ⊆ (Links.ofGraph g).cells.map fun entry => (g.nodeAt entry.1).id := by
  intro id member
  rw [← g.map_id_table] at member
  obtain ⟨i, -, rfl⟩ := List.mem_map.1 member
  obtain ⟨entry, inCells, rfl⟩ :=
    List.mem_map.1 (g.map_fst_cells_perm.symm.subset (List.mem_finRange i))
  exact List.mem_map.2 ⟨entry, inCells, rfl⟩

/-- The layers are the same whatever was drawn. -/
theorem run_layers_eq (g : Graph) (first second : Random.Generator) :
    ((layers g).run first).1 = ((layers g).run second).1 := by
  have keys (generator : Random.Generator) :
      ((scatter g).run generator).1.keys = (Distinct.ofList g.ids).toList :=
    keys_placeEach g (fun _ => scatterPoint) generator
  rw [run_layers, run_layers]
  apply Keyed.insertAll_eq_of_keys
  · rw [keys, keys]
  · intro id member
    rw [keys, Distinct.mem_toList_ofList] at member
    rw [List.map_map]
    exact ids_subset_cells g member

/-- An id is at the corner of the last of its nodes, in the order of the cells. -/
theorem get?_layers {g : Graph} {id : String} (known : id ∈ g.ids)
    (generator : Random.Generator) :
    ∃ entry, (Links.ofGraph g).cells.reverse.find? (fun entry => (g.nodeAt entry.1).id == id) =
        some entry ∧
      ((layers g).run generator).1.get? id = some (entry.2.corner marginLow layersExtent) := by
  obtain ⟨entry, member, named⟩ := List.mem_map.1 (ids_subset_cells g known)
  have found : ((Links.ofGraph g).cells.reverse.find? fun entry =>
      (g.nodeAt entry.1).id == id).isSome :=
    List.find?_isSome.2 ⟨entry, List.mem_reverse.2 member, by simpa using named⟩
  obtain ⟨last, here⟩ := Option.isSome_iff_exists.1 found
  refine ⟨last, here, ?_⟩
  rw [run_layers, Keyed.get?_insertAll, ← List.map_reverse, List.find?_map, Option.map_map]
  have inserted : (Links.ofGraph g).cells.reverse.find?
      ((fun placed : String × Position => placed.1 == id) ∘ fun entry =>
        ((g.table.get entry.1).id, entry.2.corner marginLow layersExtent)) = some last := here
  rw [inserted]
  rfl

end Layout

namespace Graph

/-! ### Layers -/

/-- The cells of a layered layout. Each node has one: its strip is the place of its group, its row
its depth, its slot its place among the members of that depth. Strips, rows and slots are among
those that are counted, no two nodes share all three, and no row that is counted is empty. So in
exact numbers every corner lies in the square that the margins leave, inside the strip of its group,
the strips do not overlap, and different nodes have different corners. The layout places every id at
the corner of a cell, that of the last of its nodes. -/
structure Layered (g : Graph) (cells : List (Fin g.size × Cell)) : Prop where
  covers : (cells.map Prod.fst).Perm (List.finRange g.size)
  mem_iff : ∀ i cell, (i, cell) ∈ cells ↔ ∃ group, g.HasCell group i cell
  counted : ∀ i cell, (i, cell) ∈ cells →
    cell.strip < (Links.ofGraph g).groups.length ∧ cell.row < cell.rows ∧ cell.slot < cell.slots
  apart : ∀ i cell j cell', (i, cell) ∈ cells → (j, cell') ∈ cells →
    cell.strip = cell'.strip → cell.row = cell'.row → cell.slot = cell'.slot → i = j
  occupied : ∀ i cell, (i, cell) ∈ cells → ∀ row < cell.rows,
    ∃ j cell', (j, cell') ∈ cells ∧ cell'.strip = cell.strip ∧ cell'.row = row
  inside : ∀ i cell, (i, cell) ∈ cells →
    cell.exactCorner.x ∈ Set.Ico (1 / 20 : ℚ) (19 / 20) ∧
      cell.exactCorner.y ∈ Set.Ico (1 / 20 : ℚ) (19 / 20)
  inStrip : ∀ i cell, (i, cell) ∈ cells →
    cell.exactCorner.x ∈ Cell.stripSpan (Links.ofGraph g).groups.length cell.strip
  strips_disjoint : Pairwise fun first second =>
    Disjoint (Cell.stripSpan (Links.ofGraph g).groups.length first)
      (Cell.stripSpan (Links.ofGraph g).groups.length second)
  corners : ∀ i cell j cell', (i, cell) ∈ cells → (j, cell') ∈ cells → i ≠ j →
    cell.exactCorner ≠ cell'.exactCorner
  placed : ∀ id ∈ g.ids, ∀ generator, ∃ entry,
    cells.reverse.find? (fun entry => (g.nodeAt entry.1).id == id) = some entry ∧
      ((Layout.layers g).run generator).1.get? id =
        some (entry.2.corner Layout.marginLow Layout.layersExtent)

/-- Layers put no two nodes of a graph in one cell. -/
theorem layered_cells (g : Graph) : g.Layered (Links.ofGraph g).cells where
  covers := g.map_fst_cells_perm
  mem_iff := fun _ _ => mem_cells_iff
  counted := by
    intro i cell member
    obtain ⟨group, h⟩ := mem_cells_iff.1 member
    exact ⟨h.strips ▸ h.strip_lt, h.row_lt, h.slot_lt⟩
  apart := by
    intro i cell j cell' member member'
    obtain ⟨group, h⟩ := mem_cells_iff.1 member
    obtain ⟨group', h'⟩ := mem_cells_iff.1 member'
    exact h.node_eq h'
  occupied := by
    intro i cell member row low
    obtain ⟨group, h⟩ := mem_cells_iff.1 member
    obtain ⟨j, cell', h', strip, here⟩ := h.exists_of_row low
    exact ⟨j, cell', mem_cells_iff.2 ⟨group, h'⟩, strip, here⟩
  inside := by
    intro i cell member
    obtain ⟨group, h⟩ := mem_cells_iff.1 member
    exact h.exactCorner_mem
  inStrip := by
    intro i cell member
    obtain ⟨group, h⟩ := mem_cells_iff.1 member
    rw [← h.strips]
    exact h.x_mem_stripSpan
  strips_disjoint := Cell.disjoint_stripSpan _
  corners := by
    intro i cell j cell' member member' different same
    obtain ⟨group, h⟩ := mem_cells_iff.1 member
    obtain ⟨group', h'⟩ := mem_cells_iff.1 member'
    exact different (h.node_eq_of_exactCorner h' same)
  placed _ known generator := Layout.get?_layers known generator

-- The nodes 1 and 4 list the same input and share a row; the node 5 has a strip for itself.
example : ((Links.ofGraph ringGraph).cells.map fun (i, cell) =>
    ((ringGraph.nodeAt i).id, cell.strip, cell.row, cell.slot)) =
      [("2", 0, 0, 0), ("3", 0, 1, 0), ("1", 0, 2, 0), ("4", 0, 2, 1), ("5", 1, 0, 0)] := by
  rw [Links.ofGraph_eq]
  cbv

end Graph

namespace Layout

/-- Layers take two words for each node and depend on none of them. Two runs from any generators
have one result: each id is at the corner of a cell, never at a point that was drawn, and the check
passes as long as a machine word counts the nodes. -/
theorem run_compute_layers (g : Graph) (first second : Random.Generator) :
    ((compute g .layers).run first).1 = ((compute g .layers).run second).1 ∧
      ((compute g .layers).run first).2 = first.advance (2 * g.size) ∧
      (∀ id ∈ g.ids, ∃ entry,
        (Links.ofGraph g).cells.reverse.find? (fun entry => (g.nodeAt entry.1).id == id) =
            some entry ∧
          ((place g .layers).run first).1.get? id =
            some (entry.2.corner marginLow layersExtent)) ∧
      (g.size < 2 ^ 64 →
        ((compute g .layers).run first).1 = .ok ((place g .layers).run first).1) := by
  have same : ((place g .layers).run first).1 = ((place g .layers).run second).1 :=
    run_layers_eq g first second
  refine ⟨?_, takes_compute g .layers first, ?_, ?_⟩
  · rw [run_compute, run_compute, same]
  · intro id known
    exact get?_layers known first
  · intro counted
    apply run_compute_eq_ok
    rw [Single.most]
    omega

end Layout
end IrChart
