import IrChart.Graph.Declared
import IrChart.Proofs.Graph.Links
import IrChart.Proofs.Graph.Resolve
import Mathlib.Data.List.FinRange

/-!
# What nodes see of each other

In a graph that holds the edges of all nodes, the edges that a node lists are told from those that
others list by their side (`inputs_ofGraph`, `outputs_ofGraph`). So a node sees what it lists itself,
in the reverse of the order in which it is first listed, and other nodes have no say in it; as a
neighbour it sees every node that it lists or that lists it (`connectivity_ofGraph`).
-/

namespace IrChart

/-- The laws of directed graphs: the edges of a node are visited with the last one first, and its
neighbours are at the other ends of its edges. -/
class LawfulEdgeStore (S : Nat → Type) [EdgeStore S] : Prop where
  incoming_empty : ∀ {n : Nat} (i : Fin n), EdgeStore.incoming (EdgeStore.empty n : S n) i = []
  outgoing_empty : ∀ {n : Nat} (i : Fin n), EdgeStore.outgoing (EdgeStore.empty n : S n) i = []
  incoming_add : ∀ {n : Nat} (s : S n) (edge : DeclaredEdge n) (i : Fin n),
    EdgeStore.incoming (EdgeStore.add s edge) i =
      if edge.target = i then edge :: EdgeStore.incoming s i else EdgeStore.incoming s i
  outgoing_add : ∀ {n : Nat} (s : S n) (edge : DeclaredEdge n) (i : Fin n),
    EdgeStore.outgoing (EdgeStore.add s edge) i =
      if edge.source = i then edge :: EdgeStore.outgoing s i else EdgeStore.outgoing s i
  mem_neighbors : ∀ {n : Nat} (s : S n) (i j : Fin n),
    j ∈ EdgeStore.neighbors s i ↔
      (∃ edge ∈ EdgeStore.outgoing s i, edge.target = j) ∨
        ∃ edge ∈ EdgeStore.incoming s i, edge.source = j

namespace Adjacency

variable {n : Nat}

theorem get_push (lists : Vector (List (DeclaredEdge n)) n) (i j : Fin n) (edge : DeclaredEdge n) :
    (push lists i edge).get j = if i = j then edge :: lists.get j else lists.get j := by
  show (lists.set i (edge :: lists.get i) i.isLt)[j.val] = _
  rw [Vector.getElem_set]
  by_cases same : i = j
  · subst same
    simp
  · rw [if_neg (by simpa [Fin.ext_iff] using same), if_neg same]
    rfl

theorem get_replicate (i : Fin n) :
    (Vector.replicate n ([] : List (DeclaredEdge n))).get i = [] := Vector.getElem_replicate i.isLt

/-- Lists of edges at each node obey the laws. -/
instance lawfulEdgeStore : LawfulEdgeStore Adjacency where
  incoming_empty := get_replicate
  outgoing_empty := get_replicate
  incoming_add s edge i := get_push s.incoming edge.target i edge
  outgoing_add s edge i := get_push s.outgoing edge.source i edge
  mem_neighbors s i j := by
    show j ∈ (s.outgoing.get i).map (·.target) ++ (s.incoming.get i).map (·.source) ↔ _
    rw [List.mem_append, List.mem_map, List.mem_map]
    rfl

end Adjacency

/-! ### The edges that are added -/

namespace EdgeStore

variable {S : Nat → Type} [EdgeStore S] [LawfulEdgeStore S] {n : Nat}

theorem incoming_foldl_add (edges : List (DeclaredEdge n)) (s : S n) (i : Fin n) :
    incoming (edges.foldl add s) i = (edges.filter (·.target = i)).reverse ++ incoming s i := by
  induction edges generalizing s with
  | nil => rfl
  | cons edge edges ih =>
    rw [List.foldl_cons, ih, LawfulEdgeStore.incoming_add, List.filter_cons]
    by_cases here : edge.target = i <;> simp [here]

theorem outgoing_foldl_add (edges : List (DeclaredEdge n)) (s : S n) (i : Fin n) :
    outgoing (edges.foldl add s) i = (edges.filter (·.source = i)).reverse ++ outgoing s i := by
  induction edges generalizing s with
  | nil => rfl
  | cons edge edges ih =>
    rw [List.foldl_cons, ih, LawfulEdgeStore.outgoing_add, List.filter_cons]
    by_cases here : edge.source = i <;> simp [here]

theorem incoming_ofGraph (g : Graph) (i : Fin g.size) :
    incoming (ofGraph S g) i = (g.declared.filter (·.target = i)).reverse := by
  rw [ofGraph, incoming_foldl_add, LawfulEdgeStore.incoming_empty, List.append_nil]

theorem outgoing_ofGraph (g : Graph) (i : Fin g.size) :
    outgoing (ofGraph S g) i = (g.declared.filter (·.source = i)).reverse := by
  rw [ofGraph, outgoing_foldl_add, LawfulEdgeStore.outgoing_empty, List.append_nil]

end EdgeStore

namespace Graph

variable {g : Graph}

theorem toList_known (g : Graph) (self : Fin g.size) (edges : List Edge) :
    (g.known self edges).toList = g.targets self edges :=
  List.reverse_injective (Links.targets_carriers g self edges)

/-- The outputs of a node in the order in which they are first listed. -/
def listedOutputs (g : Graph) (i : Fin g.size) : List (Fin g.size) :=
  g.targets i (g.nodeAt i).outputs

theorem declaredBy_eq (g : Graph) (i : Fin g.size) :
    g.declaredBy i = (g.listedInputs i).map (⟨·, i, .target⟩) ++
      (g.listedOutputs i).map (⟨i, ·, .source⟩) := by
  simp only [declaredBy, toList_known]
  rfl

/-- Among the edges of all nodes, those of one node come together. -/
theorem filter_declared {p : DeclaredEdge g.size → Bool} {i : Fin g.size}
    (others : ∀ j, j ≠ i → (g.declaredBy j).filter p = []) :
    g.declared.filter p = (g.declaredBy i).filter p := by
  obtain ⟨before, after, split⟩ := List.append_of_mem (List.mem_finRange i)
  have distinct := List.nodup_finRange g.size
  rw [split, List.nodup_middle] at distinct
  obtain ⟨absent, -⟩ := List.nodup_cons.1 distinct
  have nothing (nodes : List (Fin g.size)) (apart : i ∉ nodes) :
      nodes.flatMap (fun j => (g.declaredBy j).filter p) = [] := by
    rw [List.flatMap_eq_nil_iff]
    intro j member
    exact others j (ne_of_mem_of_not_mem member apart)
  rw [List.mem_append, not_or] at absent
  rw [declared, List.filter_flatMap, split, List.flatMap_append, List.flatMap_cons,
    nothing before absent.1, nothing after absent.2, List.nil_append, List.append_nil]

/-- The edges to a node that it lists itself. -/
theorem filter_target_declared (g : Graph) (i : Fin g.size) :
    g.declared.filter (fun e => e.target = i ∧ e.side = .target) =
      (g.listedInputs i).map (⟨·, i, .target⟩) := by
  rw [filter_declared (i := i)]
  · simp [declaredBy_eq, List.filter_append, List.filter_map, Function.comp_def]
  · intro j other
    simp [declaredBy_eq, List.filter_append, List.filter_map, Function.comp_def, other]

/-- The edges from a node that it lists itself. -/
theorem filter_source_declared (g : Graph) (i : Fin g.size) :
    g.declared.filter (fun e => e.source = i ∧ e.side = .source) =
      (g.listedOutputs i).map (⟨i, ·, .source⟩) := by
  rw [filter_declared (i := i)]
  · simp [declaredBy_eq, List.filter_append, List.filter_map, Function.comp_def]
  · intro j other
    simp [declaredBy_eq, List.filter_append, List.filter_map, Function.comp_def, other]

/-- An edge is added by the end that lists it. -/
theorem mem_declared {edge : DeclaredEdge g.size} :
    edge ∈ g.declared ↔
      (edge.side = .target ∧ edge.source ∈ g.listedInputs edge.target) ∨
        (edge.side = .source ∧ edge.target ∈ g.listedOutputs edge.source) := by
  obtain ⟨source, target, side⟩ := edge
  simp only [declared, declaredBy_eq, List.mem_flatMap, List.mem_finRange, List.mem_append,
    List.mem_map, DeclaredEdge.mk.injEq, true_and]
  constructor
  · rintro ⟨i, ⟨j, member, rfl, rfl, rfl⟩ | ⟨j, member, rfl, rfl, rfl⟩⟩
    · exact .inl ⟨rfl, member⟩
    · exact .inr ⟨rfl, member⟩
  · rintro (⟨rfl, member⟩ | ⟨rfl, member⟩)
    · exact ⟨target, .inl ⟨source, member, rfl, rfl, rfl⟩⟩
    · exact ⟨source, .inr ⟨target, member, rfl, rfl, rfl⟩⟩

end Graph

namespace EdgeStore

variable {S : Nat → Type} [EdgeStore S] [LawfulEdgeStore S] {g : Graph}

/-- The inputs of a node are those that it lists. -/
theorem inputs_ofGraph (g : Graph) (i : Fin g.size) :
    inputs (ofGraph S g) i = (g.listedInputs i).reverse := by
  have own : (g.declared.filter (·.target = i)).filter (·.side = .target) =
      (g.listedInputs i).map (⟨·, i, .target⟩) := by
    rw [← g.filter_target_declared i, List.filter_filter]
    simp only [Bool.decide_and, Bool.and_comm]
  rw [inputs, incoming_ofGraph, List.filter_reverse, own, ← List.map_reverse, List.map_map]
  exact List.map_id _

/-- The outputs of a node are those that it lists. -/
theorem outputs_ofGraph (g : Graph) (i : Fin g.size) :
    outputs (ofGraph S g) i = (g.listedOutputs i).reverse := by
  have own : (g.declared.filter (·.source = i)).filter (·.side = .source) =
      (g.listedOutputs i).map (⟨i, ·, .source⟩) := by
    rw [← g.filter_source_declared i, List.filter_filter]
    simp only [Bool.decide_and, Bool.and_comm]
  rw [outputs, outgoing_ofGraph, List.filter_reverse, own, ← List.map_reverse, List.map_map]
  exact List.map_id _

/-- An edge leads away from a node if it is an output of the node or the node an input of its
target. -/
theorem exists_outgoing_ofGraph_iff {i j : Fin g.size} :
    (∃ edge ∈ outgoing (ofGraph S g) i, edge.target = j) ↔
      i ∈ g.listedInputs j ∨ j ∈ g.listedOutputs i := by
  simp only [outgoing_ofGraph, List.mem_reverse, List.mem_filter, decide_eq_true_eq,
    Graph.mem_declared]
  constructor
  · rintro ⟨edge, ⟨⟨-, member⟩ | ⟨-, member⟩, rfl⟩, rfl⟩
    · exact .inl member
    · exact .inr member
  · rintro (member | member)
    · exact ⟨⟨i, j, .target⟩, ⟨.inl ⟨rfl, member⟩, rfl⟩, rfl⟩
    · exact ⟨⟨i, j, .source⟩, ⟨.inr ⟨rfl, member⟩, rfl⟩, rfl⟩

/-- An edge leads to a node if it is an input of the node or the node an output of its source. -/
theorem exists_incoming_ofGraph_iff {i j : Fin g.size} :
    (∃ edge ∈ incoming (ofGraph S g) i, edge.source = j) ↔
      j ∈ g.listedInputs i ∨ i ∈ g.listedOutputs j := by
  simp only [incoming_ofGraph, List.mem_reverse, List.mem_filter, decide_eq_true_eq,
    Graph.mem_declared]
  constructor
  · rintro ⟨edge, ⟨⟨-, member⟩ | ⟨-, member⟩, rfl⟩, rfl⟩
    · exact .inl member
    · exact .inr member
  · rintro (member | member)
    · exact ⟨⟨j, i, .target⟩, ⟨.inl ⟨rfl, member⟩, rfl⟩, rfl⟩
    · exact ⟨⟨j, i, .source⟩, ⟨.inr ⟨rfl, member⟩, rfl⟩, rfl⟩

/-- The neighbours of a node are those that it lists and those that list it. -/
theorem mem_neighbors_ofGraph_iff {i j : Fin g.size} :
    j ∈ neighbors (ofGraph S g) i ↔
      j ∈ inputs (ofGraph S g) i ∨ j ∈ outputs (ofGraph S g) i ∨
        i ∈ inputs (ofGraph S g) j ∨ i ∈ outputs (ofGraph S g) j := by
  rw [LawfulEdgeStore.mem_neighbors, exists_outgoing_ofGraph_iff, exists_incoming_ofGraph_iff]
  simp only [inputs_ofGraph, outputs_ofGraph, List.mem_reverse]
  grind

end EdgeStore

/-! ### What a node refers to -/

namespace Graph

variable {g : Graph}

/-- The place of the first edge that refers to a node. -/
def mention (g : Graph) (edges : List Edge) (j : Fin g.size) : Nat :=
  (edges.map (g.carrier? ·.id)).idxOf (some j)

/-- The nodes are the other nodes that the edges refer to, each once, in the reverse of the order in
which they are first listed. -/
structure References (g : Graph) (self : Fin g.size) (edges : List Edge)
    (nodes : List (Fin g.size)) : Prop where
  nodup : nodes.Nodup
  mem_iff : ∀ j, j ∈ nodes ↔ j ≠ self ∧ ∃ e ∈ edges, g.FirstCarrier e.id j
  latest_first : nodes.Pairwise fun i j => g.mention edges j < g.mention edges i

theorem references_targets (g : Graph) (self : Fin g.size) (edges : List Edge) :
    g.References self edges (g.targets self edges).reverse where
  nodup := by
    rw [List.nodup_reverse, ← toList_known]
    exact (g.known self edges).nodup
  mem_iff := by
    intro j
    rw [List.mem_reverse, mem_targets]
  latest_first := by
    have ordered := Distinct.pairwise_idxOf_ofList (edges.map (g.carrier? ·.id)) (· ≠ self)
    rw [List.filterMap_map, Distinct.toList_ofList_eq_eraseDups] at ordered
    rw [List.pairwise_reverse]
    exact ordered

/-- The place of the first node with an id is the place of the id among all ids. -/
theorem map_val_carrier? (g : Graph) (id : String) :
    (g.carrier? id).map Fin.val = g.ids.idxOf? id := by
  have size : g.ids.length = g.size := List.length_map ..
  have carries (i : Nat) (inside : i < g.size) (inIds : i < g.ids.length) :
      g.ids[i] = (g.nodeAt ⟨i, inside⟩).id := List.getElem_map ..
  ext place
  rw [Option.map_eq_some_iff, List.idxOf?, List.findIdx?_eq_some_iff_getElem]
  constructor
  · rintro ⟨i, found, rfl⟩
    obtain ⟨here, earlier⟩ := carrier?_eq_some_iff.1 found
    refine ⟨by rw [size]; exact i.isLt, by simpa [carries _ i.isLt] using here, ?_⟩
    intro j before
    have inside : j < g.size := Nat.lt_trans before i.isLt
    simpa [carries j inside] using earlier ⟨j, inside⟩ before
  · rintro ⟨inIds, here, earlier⟩
    have inside : place < g.size := by rwa [← size]
    refine ⟨⟨place, inside⟩, carrier?_eq_some_iff.2 ⟨?_, ?_⟩, rfl⟩
    · simpa [carries place inside] using here
    · intro j before
      simpa [carries j.val j.isLt] using earlier j.val before

/-- What a node refers to is told by its place, the ids of its edges and the ids of all nodes. -/
theorem map_val_targets (g : Graph) (self : Fin g.size) (edges : List Edge) :
    (g.targets self edges).map Fin.val =
      (((edges.map (·.id)).filterMap g.ids.idxOf?).filter (· ≠ self.val)).eraseDups := by
  have other : (fun j : Fin g.size => decide (j ≠ self)) =
      (fun place => decide (place ≠ self.val)) ∘ Fin.val := by
    funext j
    simp [Fin.ext_iff]
  rw [targets, ← Distinct.toList_ofList_eq_eraseDups,
    Distinct.map_toList_ofList (fun _ _ => Fin.ext), Distinct.toList_ofList_eq_eraseDups, other,
    ← List.filter_map, List.map_filterMap, List.filterMap_map]
  simp only [map_val_carrier?]
  rfl

/-- What the nodes of a graph see: what they list as inputs and special inputs, what they list as
outputs, and as neighbours what they list or are listed by. -/
structure Connectivity (g : Graph) (inputs outputs neighbors : Fin g.size → List (Fin g.size)) :
    Prop where
  references_inputs : ∀ i,
    g.References i ((g.nodeAt i).inputs ++ (g.nodeAt i).specials) (inputs i)
  references_outputs : ∀ i, g.References i (g.nodeAt i).outputs (outputs i)
  mem_neighbors_iff : ∀ i j,
    j ∈ neighbors i ↔ j ∈ inputs i ∨ j ∈ outputs i ∨ i ∈ inputs j ∨ i ∈ outputs j

/-- What a node lists is seen alike in all graphs with the same ids, whatever other nodes list. -/
theorem map_val_targets_congr {g other : Graph} (ids : other.ids = g.ids) {i : Fin g.size}
    {i' : Fin other.size} (place : i'.val = i.val) {edges edges' : List Edge}
    (same : edges'.map (·.id) = edges.map (·.id)) :
    (other.targets i' edges').map Fin.val = (g.targets i edges).map Fin.val := by
  rw [map_val_targets, map_val_targets, ids, place, same]

end Graph

open EdgeStore in
/-- In a graph of the edges of all nodes, each node sees what it lists itself and has for neighbours
what it lists or is listed by. The links of the graph are the same. What a node lists is told by its
own edges and the ids of all nodes. -/
theorem Graph.connectivity_ofGraph (S : Nat → Type) [EdgeStore S] [LawfulEdgeStore S]
    (g : Graph) :
    g.Connectivity (inputs (ofGraph S g)) (outputs (ofGraph S g)) (neighbors (ofGraph S g)) ∧
      (∀ i, (Links.ofGraph g).inputsOf i = inputs (ofGraph S g) i ∧
        (Links.ofGraph g).outputsOf i = outputs (ofGraph S g) i ∧
        ∀ j, (Links.ofGraph g).adjacent i j = true ↔ j ∈ neighbors (ofGraph S g) i) ∧
      ∀ (other : Graph) (i : Fin g.size) (i' : Fin other.size),
        other.ids = g.ids → i'.val = i.val →
          (((other.nodeAt i').inputs ++ (other.nodeAt i').specials).map (·.id) =
              ((g.nodeAt i).inputs ++ (g.nodeAt i).specials).map (·.id) →
            (inputs (ofGraph S other) i').map Fin.val = (inputs (ofGraph S g) i).map Fin.val) ∧
          ((other.nodeAt i').outputs.map (·.id) = (g.nodeAt i).outputs.map (·.id) →
            (outputs (ofGraph S other) i').map Fin.val =
              (outputs (ofGraph S g) i).map Fin.val) := by
  refine ⟨⟨?_, ?_, ?_⟩, ?_, ?_⟩
  · intro i
    rw [inputs_ofGraph]
    exact g.references_targets i _
  · intro i
    rw [outputs_ofGraph]
    exact g.references_targets i _
  · intro i j
    exact mem_neighbors_ofGraph_iff
  · intro i
    have inputs_eq (i : Fin g.size) : (Links.ofGraph g).inputsOf i = inputs (ofGraph S g) i := by
      rw [inputs_ofGraph, Links.inputsOf_ofGraph]
    have outputs_eq (i : Fin g.size) : (Links.ofGraph g).outputsOf i = outputs (ofGraph S g) i := by
      rw [outputs_ofGraph, Links.outputsOf_ofGraph, listedOutputs]
    refine ⟨inputs_eq i, outputs_eq i, ?_⟩
    intro j
    simp [Links.adjacent, mem_neighbors_ofGraph_iff, inputs_eq, outputs_eq, or_assoc]
  · intro other i i' ids place
    constructor
    · intro same
      rw [inputs_ofGraph, inputs_ofGraph, List.map_reverse, List.map_reverse, listedInputs,
        listedInputs, map_val_targets_congr ids place same]
    · intro same
      rw [outputs_ofGraph, outputs_ofGraph, List.map_reverse, List.map_reverse, listedOutputs,
        listedOutputs, map_val_targets_congr ids place same]

/-- Two nodes that list each other, one of them also itself and an id that no node carries; an input
of both; and a node that repeats an id. -/
def mutualGraph : Graph := .ofNodes
  [{ id := "1", type := "A", inputs := [{ id := "1" }, { id := "3" }, { id := "_" }],
      outputs := [{ id := "2" }, { id := "2" }] },
    { id := "2", type := "A", inputs := [{ id := "1" }], specials := [{ id := "3" }, { id := "1" }],
      outputs := [{ id := "1" }] },
    { id := "3", type := "A" },
    { id := "1", type := "A", outputs := [{ id := "1" }] }]

open EdgeStore in
theorem Graph.connectivity_ofGraph_mutualGraph :
    mutualGraph.Connectivity (inputs (ofGraph Adjacency mutualGraph))
        (outputs (ofGraph Adjacency mutualGraph)) (neighbors (ofGraph Adjacency mutualGraph)) ∧
      (List.finRange mutualGraph.size).map (inputs (ofGraph Adjacency mutualGraph)) =
        [[⟨2, by decide⟩], [⟨2, by decide⟩, ⟨0, by decide⟩], [], []] ∧
      (List.finRange mutualGraph.size).map (outputs (ofGraph Adjacency mutualGraph)) =
        [[⟨1, by decide⟩], [⟨0, by decide⟩], [], [⟨0, by decide⟩]] := by
  obtain ⟨seen, -, -⟩ := connectivity_ofGraph Adjacency mutualGraph
  refine ⟨seen, ?_, ?_⟩
  · rw [funext (inputs_ofGraph mutualGraph)]
    decide
  · rw [funext (outputs_ofGraph mutualGraph)]
    decide

end IrChart
