import IrChart.Layout.Compute
import IrChart.Proofs.Graph.Resolve
import IrChart.Proofs.Ordered
import Mathlib.Data.List.FinRange

/-!
# Every node is placed

Whatever is drawn, the keys of a placement are the ids of the nodes, each once, in the order of
first occurrence (`keys_place`). So no layout fails because a node has no place (`place_covers`).
-/

namespace IrChart

namespace Graph

theorem get_table (g : Graph) (i : Fin g.size) : g.table.get i = g.nodeAt i := rfl

theorem map_nodeAt_finRange (g : Graph) : (List.finRange g.size).map g.nodeAt = g.nodes :=
  List.map_get_finRange g.nodes

theorem map_id_table (g : Graph) :
    (List.finRange g.size).map (fun i => (g.table.get i).id) = g.ids := by
  calc (List.finRange g.size).map (fun i => (g.table.get i).id)
      = ((List.finRange g.size).map g.nodeAt).map (·.id) := by
        rw [List.map_map]
        rfl
    _ = g.ids := by rw [map_nodeAt_finRange, ids]

theorem id_table_mem_ids (g : Graph) (i : Fin g.size) : (g.table.get i).id ∈ g.ids := by
  rw [get_table]
  exact List.mem_map_of_mem (List.get_mem g.nodes i)

end Graph

namespace Layout

/-- Drawing something for each of some things leaves their order alone. -/
theorem map_fst_run_mapM {α β σ : Type} (key : α → String) (draw : α → StateM σ β) (xs : List α)
    (s : σ) :
    (((xs.mapM fun x => do return (key x, ← draw x)) : StateM σ (List (String × β))).run s).1.map
      Prod.fst = xs.map key := by
  induction xs generalizing s with
  | nil => rfl
  | cons x xs ih =>
    rw [List.mapM_cons]
    exact congrArg (key x :: ·) (ih ((draw x).run s).2)

/-- Placing each node by itself places every node. -/
theorem keys_placeEach (g : Graph) (draw : Fin g.size → Random.Draw Position)
    (generator : Random.Generator) :
    ((placeEach g draw).run generator).1.keys = (Distinct.ofList g.ids).toList := by
  have drawn := map_fst_run_mapM (fun i => (g.table.get i).id) draw (List.finRange g.size) generator
  rw [g.map_id_table] at drawn
  rw [← drawn, ← Keyed.keys_ofList]
  rfl

/-- The grid depends on the ids of the nodes only. -/
theorem grid_eq (g : Graph) :
    grid g = .ofList
      (g.ids.zipIdx.map fun (id, place) => (id, (gridCell g.ids.length place).corner)) := by
  have size : g.ids.length = g.size := List.length_map ..
  rw [grid, size, Graph.ids, List.zipIdx_map, List.map_map]
  rfl

theorem keys_grid (g : Graph) : (grid g).keys = (Distinct.ofList g.ids).toList := by
  have ids : (g.ids.zipIdx.map fun (id, place) =>
      (id, ((gridCell g.ids.length place).corner : Position))).map Prod.fst = g.ids := by
    rw [List.map_map]
    exact List.zipIdx_map_fst 0 g.ids
  rw [grid_eq, Keyed.keys_ofList, ids]

theorem run_layers (g : Graph) (generator : Random.Generator) :
    ((layers g).run generator).1 = ((scatter g).run generator).1.insertAll
      ((Links.ofGraph g).cells.map fun entry =>
        ((g.table.get entry.1).id, entry.2.corner marginLow layersExtent)) := rfl

/-- The layers move scattered nodes, and only these. -/
theorem keys_layers (g : Graph) (generator : Random.Generator) :
    ((layers g).run generator).1.keys = (Distinct.ofList g.ids).toList := by
  have scattered : ((scatter g).run generator).1.keys = (Distinct.ofList g.ids).toList :=
    keys_placeEach g (fun _ => scatterPoint) generator
  rw [run_layers, Keyed.keys_insertAll_of_subset, scattered]
  rw [List.map_map, scattered]
  intro id member
  obtain ⟨entry, -, rfl⟩ := List.mem_map.1 member
  rw [Distinct.mem_toList_ofList]
  exact g.id_table_mem_ids entry.1

/-- Every method places every node. -/
theorem keys_place (g : Graph) (method : Method) (generator : Random.Generator) :
    ((place g method).run generator).1.keys = (Distinct.ofList g.ids).toList := by
  cases method with
  | scatter => exact keys_placeEach g (fun _ => scatterPoint) generator
  | grid => exact keys_grid g
  | bands => exact keys_placeEach g _ generator
  | layers => exact keys_layers g generator

/-- Computing a layout checks the placement of its method. -/
theorem run_compute (g : Graph) (method : Method) (generator : Random.Generator) :
    ((compute g method).run generator).1 =
      match misplaced? g ((place g method).run generator).1 with
      | some fault => .error fault
      | none => .ok ((place g method).run generator).1 := by
  rw [compute, StateT.run_bind]
  show ((match misplaced? g ((place g method).run generator).1 with
    | some fault => return .error fault
    | none => return .ok ((place g method).run generator).1 :
      Random.Draw (Except Misplacement Placement)).run ((place g method).run generator).2).1 = _
  split <;> rfl

/-- The check finds every node in a placement that has all ids. -/
theorem find?_unplaced_eq_none_iff {g : Graph} {placement : Placement} :
    (g.nodes.find? fun node => (placement.get? node.id).isNone) = none ↔
      g.ids ⊆ placement.keys := by
  rw [List.find?_eq_none, Graph.ids, List.subset_def, List.forall_mem_map]
  refine forall₂_congr fun node _ => ?_
  rw [← Keyed.get?_isSome_iff]
  cases placement.get? node.id <;> simp

/-- A placement has no fault if it has every id and only points in the unit square. -/
theorem misplaced?_eq_none_iff {g : Graph} {placement : Placement} :
    misplaced? g placement = none ↔
      g.ids ⊆ placement.keys ∧ ∀ entry ∈ placement.entries, entry.2.inUnitSquare = true := by
  have outside : (placement.entries.find? fun entry => !entry.2.inUnitSquare) = none ↔
      ∀ entry ∈ placement.entries, entry.2.inUnitSquare = true := by
    rw [List.find?_eq_none]
    simp
  rw [← find?_unplaced_eq_none_iff, ← outside]
  unfold misplaced?
  split
  · rename_i found
    simp [found]
  · rename_i found
    simp [found]

/-- A placement that has every id can only have points outside the unit square for a fault. -/
theorem misplaced?_ne_missing {g : Graph} {placement : Placement} (covered : g.ids ⊆ placement.keys)
    (id : String) : misplaced? g placement ≠ some (.missing id) := by
  unfold misplaced?
  rw [find?_unplaced_eq_none_iff.2 covered]
  cases placement.entries.find? fun entry => !entry.2.inUnitSquare with
  | none => simp
  | some entry => simp

theorem ids_subset_keys_place (g : Graph) (method : Method) (generator : Random.Generator) :
    g.ids ⊆ ((place g method).run generator).1.keys := by
  intro id member
  rw [keys_place, Distinct.mem_toList_ofList]
  exact member

/-- A layout whose points lie in the unit square is computed. -/
theorem run_compute_of_inside {g : Graph} {method : Method} {generator : Random.Generator}
    (inside : ∀ entry ∈ ((place g method).run generator).1.entries,
      entry.2.inUnitSquare = true) :
    ((compute g method).run generator).1 = .ok ((place g method).run generator).1 := by
  have covered := ids_subset_keys_place g method generator
  rw [run_compute, misplaced?_eq_none_iff.2 ⟨covered, inside⟩]

/-- A layout that is computed places every node. -/
theorem keys_of_run_compute {g : Graph} {method : Method} {generator : Random.Generator}
    {placement : Placement} (done : ((compute g method).run generator).1 = .ok placement) :
    placement.keys = (Distinct.ofList g.ids).toList := by
  rw [run_compute] at done
  split at done
  · cases done
  · cases done
    exact keys_place g method generator

/-- Every method places every node: the keys of its map are the ids of the nodes, without all but
the first occurrence of each, and the check never finds a node without a place. -/
theorem place_covers (g : Graph) (method : Method) (generator : Random.Generator) :
    ((place g method).run generator).1.keys = g.ids.eraseDups ∧
      ((place g method).run generator).1.keys.Nodup ∧
      ∀ id, ((compute g method).run generator).1 ≠ .error (.missing id) := by
  refine ⟨?_, Keyed.keys_nodup _, ?_⟩
  · rw [keys_place, Distinct.toList_ofList_eq_eraseDups]
  · intro id failed
    have sound := misplaced?_ne_missing (ids_subset_keys_place g method generator) id
    rw [run_compute] at failed
    split at failed
    · rename_i fault found
      cases failed
      exact sound found
    · cases failed

end Layout
end IrChart
