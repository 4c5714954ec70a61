import IrChart.Coloring
import IrChart.Proofs.Graph.Resolve
import IrChart.Proofs.Ordered

/-!
# Colored ids and labels

A palette has as many colors as were asked for, so every node id and every label gets colors
(`keys_nodes_assign`, `mem_keys_types_assign`). The reserved labels are black on white. `Assigned`
says which place of which palette the colors come from: that of the last node with an id, and that
of a type among all types, reserved or not (`assigned_run_assign`).
-/

namespace IrChart

/-- A palette has the size that was asked for. -/
theorem Palette.length_generate (count : Nat) (generator : Random.Generator) :
    ((generate count).run generator).1.length = count := by
  match count with
  | 0 => rfl
  | 1 => rfl
  | count + 2 =>
    show ((List.range (count + 2)).map (spreadPair (count + 2))).length = count + 2
    rw [List.length_map, List.length_range]

/-- A palette of two colors or more is the same for every state of the generator. -/
theorem Palette.getElem?_run_generate {count i : Nat} (several : 2 ≤ count) (inside : i < count)
    (generator : Random.Generator) :
    ((generate count).run generator).1[i]? = some (spreadPair count i) := by
  obtain ⟨more, rfl⟩ := Nat.exists_eq_add_of_le' several
  show ((List.range (more + 2)).map (spreadPair (more + 2)))[i]? = _
  rw [List.getElem?_map, List.getElem?_range inside, Option.map_some]

namespace Coloring

/-- Colors are assigned from a palette for the nodes and the one after it for the labels. -/
theorem run_assign (g : Graph) (generator : Random.Generator) :
    ((assign g).run generator).1 =
      ofPalettes g ((Palette.generate g.size).run generator).1
        ((Palette.generate (labels g).length).run
          ((Palette.generate g.size).run generator).2).1 := rfl

/-- Assigning colors takes them from two palettes. -/
theorem exists_run_assign (g : Graph) (generator : Random.Generator) :
    ∃ nodePalette labelPalette : List ColorPair, nodePalette.length = g.size ∧
      labelPalette.length = (labels g).length ∧
      ((assign g).run generator).1 = ofPalettes g nodePalette labelPalette := by
  exact ⟨_, _, Palette.length_generate .., Palette.length_generate .., run_assign g generator⟩

/-- Every node id has colors, and no other id has. -/
theorem keys_nodes_assign (g : Graph) (generator : Random.Generator) :
    ((assign g).run generator).1.nodes.keys = (Distinct.ofList g.ids).toList := by
  obtain ⟨nodePalette, labelPalette, size, -, run⟩ := exists_run_assign g generator
  rw [run, ofPalettes, Keyed.keys_ofList, List.map_fst_zip (by simp [size, Graph.size]),
    Graph.ids]

/-- Every label has colors, and no other text has. -/
theorem mem_keys_types_assign (g : Graph) (generator : Random.Generator) (label : String) :
    label ∈ ((assign g).run generator).1.types.keys ↔ label ∈ labels g := by
  obtain ⟨nodePalette, labelPalette, -, size, run⟩ := exists_run_assign g generator
  rw [run, ofPalettes, Keyed.mem_keys_insertAll, Keyed.mem_keys_ofList,
    List.map_fst_zip (by simp [size])]
  simp [labels]

/-- Reserved labels are black on white. -/
theorem type?_assign_of_reserved (g : Graph) (generator : Random.Generator) {label : String}
    (reserved : label ∈ reservedTypes) :
    ((assign g).run generator).1.type? label = some .neutral := by
  obtain ⟨nodePalette, labelPalette, -, -, run⟩ := exists_run_assign g generator
  rw [run, type?, ofPalettes, Keyed.get?_insertAll_map, if_pos reserved]

/-! ### Places in the palettes -/

/-- A type that is not reserved stands among the labels where it stands among the types, and
nowhere else. -/
theorem isLastAt_labels {g : Graph} {label : String} {i : Nat}
    (here : g.types.toList[i]? = some label) (real : label ∉ reservedTypes) :
    IsLastAt (labels g) label i := by
  obtain ⟨inside, -⟩ := List.getElem?_eq_some_iff.1 here
  constructor
  · rw [labels, List.getElem?_append_left inside, here]
  · intro j later found
    by_cases among : j < g.types.toList.length
    · rw [labels, List.getElem?_append_left among, ← here] at found
      have same := (List.getElem?_inj among g.types.nodup).1 found
      omega
    · rw [labels, List.getElem?_append_right (by omega)] at found
      exact real (List.mem_of_getElem? found)

/-- The labels with colors are the types, then the reserved labels that are no types. -/
theorem keys_types_assign (g : Graph) (generator : Random.Generator) :
    ((assign g).run generator).1.types.keys =
      g.types.toList ++ reservedTypes.filter (· ∉ g.types.toList) := by
  have labelled : ((assign g).run generator).1.types.keys =
      (Distinct.ofList (labels g)).toList := by
    rw [run_assign, ofPalettes, Keyed.keys_insertAll_of_subset, Keyed.keys_ofList,
      List.map_fst_zip (by simp [Palette.length_generate])]
    intro label reserved
    rw [Keyed.mem_keys_ofList, List.map_fst_zip (by simp [Palette.length_generate]), labels]
    apply List.mem_append_right
    simpa using reserved
  rw [labelled, labels, Distinct.toList_ofList_append g.types.nodup (by decide)]

/-- Where the colors of a graph come from. -/
structure Assigned (g : Graph) (generator : Random.Generator) (c : Coloring) : Prop where
  nodeKeys : c.nodes.keys = g.ids.eraseDups
  /-- Of the nodes with an id the last one decides. -/
  node (i : Nat) (id : String) : IsLastAt g.ids id i →
    ∃ pair, ((Palette.generate g.size).run generator).1[i]? = some pair ∧ c.node? id = some pair
  typeKeys : c.types.keys = g.types.toList ++ reservedTypes.filter (· ∉ g.types.toList)
  reserved : ∀ label ∈ reservedTypes, c.type? label = some .neutral
  /-- The palette of the labels has no random color. -/
  type (i : Nat) (label : String) : g.types.toList[i]? = some label → label ∉ reservedTypes →
    ∀ generator', ∃ pair,
      ((Palette.generate (g.types.toList.length + 3)).run generator').1[i]? = some pair ∧
        c.type? label = some pair

/-- The colors of every graph come from the palettes as `Assigned` says. -/
theorem assigned_run_assign (g : Graph) (generator : Random.Generator) :
    Assigned g generator ((assign g).run generator).1 := by
  have sizes : g.ids.length = g.size := List.length_map ..
  constructor
  case nodeKeys => rw [keys_nodes_assign, Distinct.toList_ofList_eq_eraseDups]
  case node =>
    intro i id last
    have full : ((Palette.generate g.size).run generator).1.length = g.ids.length := by
      rw [Palette.length_generate, sizes]
    have inside : i < ((Palette.generate g.size).run generator).1.length := by
      rw [full]
      exact (List.getElem?_eq_some_iff.1 last.1).1
    refine ⟨_, List.getElem?_eq_getElem inside, ?_⟩
    rw [run_assign, node?, ofPalettes, ← Graph.ids,
      Keyed.get?_ofList_zip last (Nat.le_of_eq full.symm), List.getElem?_eq_getElem inside]
  case typeKeys => exact keys_types_assign g generator
  case reserved => exact fun label reserved => type?_assign_of_reserved g generator reserved
  case type =>
    intro i label here real generator'
    have count : (labels g).length = g.types.toList.length + 3 := List.length_append
    have last := isLastAt_labels here real
    have inside : i < (labels g).length := (List.getElem?_eq_some_iff.1 last.1).1
    have pair := Palette.getElem?_run_generate (by omega : 2 ≤ (labels g).length) inside
    refine ⟨_, by rw [← count, pair generator'], ?_⟩
    rw [run_assign, type?, ofPalettes, Keyed.get?_insertAll_map, if_neg real,
      Keyed.get?_ofList_zip last (Nat.le_of_eq (Palette.length_generate ..).symm), pair]

end Coloring
end IrChart
