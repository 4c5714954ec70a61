import IrChart.Graph.Basic
import Mathlib.Data.List.Forall2
import Mathlib.Data.List.Nodup

/-!
# Edges of a resolved graph

What resolving does to the edges of a graph, by the index of its nodes and by scanning them.
-/

namespace IrChart

/-! ## Edges by the index

Resolving types every edge of a graph by the first node with its id, and keeps the rest
(`edges_resolveEdges`, `resolvedType_index`). Where ids differ, that node is the only one with its
id.
-/

namespace Graph

/-- The ids of the nodes in node order. -/
def ids (g : Graph) : List String := g.nodes.map (·.id)

/-- The edges of all nodes in node order. -/
def edges (g : Graph) : List Edge := g.nodes.flatMap (·.edges)

theorem ids_resolveEdges (g : Graph) : g.resolveEdges.ids = g.ids := by
  rw [ids, resolveEdges, List.map_map]
  rfl

/-- The only node with an id is the first one. -/
theorem node?_of_mem {g : Graph} (distinct : g.ids.Nodup) {node : Node} (member : node ∈ g.nodes) :
    g.node? node.id = some node := by
  have found : (g.node? node.id).isSome := by
    rw [node?, List.find?_isSome]
    exact ⟨node, member, by simp⟩
  obtain ⟨first, here⟩ := Option.isSome_iff_exists.1 found
  have same : first.id = node.id := by simpa using List.find?_some here
  have first_mem : first ∈ g.nodes := List.mem_of_find?_eq_some here
  rw [here, List.inj_on_of_nodup_map distinct first_mem member same]

theorem node?_of_not_mem {g : Graph} {id : String} (absent : id ∉ g.ids) : g.node? id = none := by
  rw [node?, List.find?_eq_none]
  intro node member same
  exact absent (List.mem_map.2 ⟨node, member, by simpa using same⟩)

/-- The type of an edge: `null` for the null edge, the type of the node it refers to, or the type
it has. -/
theorem resolvedType_index (g : Graph) (e : Edge) :
    resolvedType g.index e =
      if e.id = nullId then nullType else ((g.node? e.id).map (·.type)).getD e.type := by
  unfold resolvedType
  rw [Std.HashMap.getD_eq_getD_getElem?, getElem?_index]
  simp [Edge.isNull]

/-- The types of the first nodes with each id decide on the types of all edges. -/
theorem resolvedType_congr {g h : Graph}
    (same : ∀ id, (g.node? id).map (·.type) = (h.node? id).map (·.type)) :
    resolvedType g.index = resolvedType h.index := by
  funext e
  rw [resolvedType_index, resolvedType_index, same]

/-- A change to the nodes that keeps their ids and types keeps the types of first nodes. -/
theorem map_type_node?_map {g h : Graph} {f : Node → Node} (nodes : h.nodes = g.nodes.map f)
    (ids : ∀ node, (f node).id = node.id) (types : ∀ node, (f node).type = node.type)
    (id : String) : (h.node? id).map (·.type) = (g.node? id).map (·.type) := by
  simp only [node?, nodes, List.find?_map, Option.map_map, Function.comp_def, ids, types]

/-- The edges of a resolved graph are its edges with their types. -/
theorem edges_resolveEdges (g : Graph) :
    g.resolveEdges.edges = g.edges.map fun e => { e with type := resolvedType g.index e } := by
  rw [edges, resolveEdges, List.flatMap_map, edges, List.map_flatMap]
  simp only [Node.edges_mapEdges]

end Graph

/-! ## Edges by scanning

What resolving does to a graph, edge by edge and with a scan for the first node instead of the
index. `Graph.Resolved` relates a graph to the same graph with typed edges. It names every field of
every node, so only one graph is related to a graph, and resolving gives it
(`edges_resolved_by_scan`). Which nodes stand before an edge and which after it does not matter.
-/

/-- `e'` is the edge `e` with the type that `g` has for it. -/
structure Edge.Resolved (g : Graph) (e e' : Edge) : Prop where
  id : e'.id = e.id
  null : e.id = nullId → e'.type = nullType
  found (node : Node) : e.id ≠ nullId → g.node? e.id = some node → e'.type = node.type
  dangling : e.id ≠ nullId → g.node? e.id = none → e'.type = e.type

/-- `node'` is `node` with the types that `g` has for its edges. -/
structure Node.Resolved (g : Graph) (node node' : Node) : Prop where
  id : node'.id = node.id
  type : node'.type = node.type
  inputs : List.Forall₂ (Edge.Resolved g) node.inputs node'.inputs
  specials : List.Forall₂ (Edge.Resolved g) node.specials node'.specials
  outputs : List.Forall₂ (Edge.Resolved g) node.outputs node'.outputs
  details : node'.details = node.details
  focus : node'.focus = node.focus
  line : node'.line = node.line

namespace Graph

/-- `g'` is `g` with the types that it has for its edges. -/
structure Resolved (g g' : Graph) : Prop where
  nodes : List.Forall₂ (Node.Resolved g) g.nodes g'.nodes
  types : g'.types = g.types

/-- `h` has the nodes of `g` in some order in which nodes with the same id follow each other as they
do in `g`. -/
def Rearranges (h g : Graph) : Prop :=
  ∀ id, h.nodes.filter (·.id == id) = g.nodes.filter (·.id == id)

/-- The edge with its type. -/
def typed (g : Graph) (e : Edge) : Edge := { e with type := resolvedType g.index e }

theorem resolveEdges_eq (g : Graph) :
    g.resolveEdges = { g with nodes := g.nodes.map (Node.mapEdges g.typed) } := rfl

/-! ### One graph is related -/

/-- Lists are related element by element by a function if one is the image of the other. -/
theorem forall₂_iff_map_eq {α β : Type} {R : α → β → Prop} {f : α → β}
    (single : ∀ a b, R a b ↔ f a = b) (xs : List α) (ys : List β) :
    List.Forall₂ R xs ys ↔ xs.map f = ys := by
  have graph : R = fun a b => f a = b := by
    funext a b
    exact propext (single a b)
  rw [graph, ← List.forall₂_map_left_iff, List.forall₂_eq_eq_eq]

theorem resolved_edge_iff (g : Graph) (e e' : Edge) : e.Resolved g e' ↔ g.typed e = e' := by
  constructor
  · intro h
    have type : resolvedType g.index e = e'.type := by
      rw [resolvedType_index]
      by_cases null : e.id = nullId
      · rw [if_pos null, h.null null]
      · rw [if_neg null]
        cases first : g.node? e.id with
        | none => exact (h.dangling null first).symm
        | some node => exact (h.found node null first).symm
    rw [typed, type, ← h.id]
  · rintro rfl
    constructor
    · rfl
    · intro null
      rw [typed, resolvedType_index, if_pos null]
    · intro node present first
      rw [typed, resolvedType_index, if_neg present, first]
      rfl
    · intro present absent
      rw [typed, resolvedType_index, if_neg present, absent]
      rfl

theorem resolved_node_iff (g : Graph) (node node' : Node) :
    node.Resolved g node' ↔ node.mapEdges g.typed = node' := by
  have edges := forall₂_iff_map_eq g.resolved_edge_iff
  constructor
  · rintro ⟨id, type, inputs, specials, outputs, details, focus, line⟩
    rw [edges] at inputs specials outputs
    rw [Node.mapEdges, inputs, specials, outputs, ← id, ← type, ← details, ← focus, ← line]
  · rintro rfl
    exact ⟨rfl, rfl, (edges ..).2 rfl, (edges ..).2 rfl, (edges ..).2 rfl, rfl, rfl, rfl⟩

theorem resolved_iff (g g' : Graph) : g.Resolved g' ↔ g' = g.resolveEdges := by
  have nodes := forall₂_iff_map_eq g.resolved_node_iff
  rw [resolveEdges_eq]
  constructor
  · rintro ⟨related, types⟩
    rw [(nodes ..).1 related, ← types]
  · rintro rfl
    exact ⟨(nodes ..).2 rfl, rfl⟩

/-! ### Resolving again -/

/-- An edge that has its type is not changed. -/
theorem typed_typed (g : Graph) (e : Edge) : g.typed (g.typed e) = g.typed e := by
  apply ((g.resolved_edge_iff ..).1 _)
  have once := (g.resolved_edge_iff e (g.typed e)).2 rfl
  exact ⟨rfl, once.null, once.found, fun _ _ => rfl⟩

theorem typed_resolveEdges (g : Graph) : g.resolveEdges.typed = g.typed := by
  have types : resolvedType g.resolveEdges.index = resolvedType g.index :=
    resolvedType_congr
      (map_type_node?_map (f := Node.mapEdges g.typed) rfl (fun _ => rfl) fun _ => rfl)
  funext e
  rw [typed, typed, types]

theorem resolveEdges_resolveEdges (g : Graph) : g.resolveEdges.resolveEdges = g.resolveEdges := by
  have again : Node.mapEdges g.typed ∘ Node.mapEdges g.typed = Node.mapEdges g.typed := by
    funext node
    simp [Node.mapEdges, typed_typed]
  rw [resolveEdges_eq g.resolveEdges, typed_resolveEdges, resolveEdges_eq, List.map_map, again]

/-! ### The order of the nodes -/

namespace Rearranges
variable {g h : Graph}

theorem node?_eq (same : h.Rearranges g) (id : String) : h.node? id = g.node? id := by
  rw [node?, ← List.head?_filter, same id, List.head?_filter, node?]

theorem perm (same : h.Rearranges g) : h.nodes.Perm g.nodes := by
  rw [List.perm_iff_count]
  intro node
  calc h.nodes.count node
      = (h.nodes.filter (·.id == node.id)).count node := (List.count_filter (by simp)).symm
    _ = (g.nodes.filter (·.id == node.id)).count node := by rw [same node.id]
    _ = g.nodes.count node := List.count_filter (by simp)

theorem typed_eq (same : h.Rearranges g) : h.typed = g.typed := by
  have types : resolvedType h.index = resolvedType g.index :=
    resolvedType_congr fun id => by rw [same.node?_eq id]
  funext e
  rw [typed, typed, types]

end Rearranges

theorem zip_resolveEdges (g : Graph) :
    g.nodes.zip g.resolveEdges.nodes = g.nodes.map fun node => (node, node.mapEdges g.typed) := by
  rw [resolveEdges_eq, List.zip_eq_zipWith, List.zipWith_map_right, List.zipWith_self]

/-- Resolving keeps a graph but for the types of its edges, which are those that a scan for the
first node finds; the index finds the same nodes. Resolved graphs stay as they are, and in any order
of the nodes each node becomes the same node. -/
theorem edges_resolved_by_scan (g : Graph) :
    (∀ id, g.nodeIndex[id]? = g.node? id) ∧ (∀ g', g.Resolved g' ↔ g' = g.resolveEdges) ∧
      g.resolveEdges.resolveEdges = g.resolveEdges ∧
      ∀ h : Graph, h.Rearranges g →
        (h.nodes.zip h.resolveEdges.nodes).Perm (g.nodes.zip g.resolveEdges.nodes) := by
  refine ⟨g.getElem?_nodeIndex, g.resolved_iff, g.resolveEdges_resolveEdges, ?_⟩
  intro h same
  rw [zip_resolveEdges, zip_resolveEdges, same.typed_eq]
  exact same.perm.map _

/-- A repeated id, a node with the null id, and edges to nodes before, after and nowhere, of which
some have a type already. -/
def sampleNodes : List Node :=
  [{ id := "1", type := "A", inputs := [⟨"2", "stale"⟩, ⟨"_", "stale"⟩, ⟨"9", "kept"⟩] },
    { id := "_", type := "Odd" },
    { id := "2", type := "B", specials := [{ id := "1" }] },
    { id := "2", type := "C", outputs := [{ id := "2" }] }]

/-- The same nodes, the first one moved to the end. -/
def movedNodes : List Node := sampleNodes.tail ++ sampleNodes.take 1

theorem edges_resolved_by_scan_movedNodes :
    (ofNodes movedNodes).Rearranges (ofNodes sampleNodes) ∧
      (ofNodes sampleNodes).resolveEdges.edges.map (·.type) = ["B", "null", "kept", "A", "B"] ∧
      (movedNodes.zip (ofNodes movedNodes).resolveEdges.nodes).Perm
        (sampleNodes.zip (ofNodes sampleNodes).resolveEdges.nodes) := by
  have same : (ofNodes movedNodes).Rearranges (ofNodes sampleNodes) := by
    intro id
    by_cases first : "1" = id
    · subst first
      decide
    · have others : ("1" == id) = false := by simpa using first
      simp [ofNodes, movedNodes, sampleNodes, others, List.filter_cons]
  have types : (ofNodes sampleNodes).resolveEdges.edges.map (·.type) =
      ["B", "null", "kept", "A", "B"] := by
    rw [edges_resolveEdges, List.map_map]
    simp only [Function.comp_def, resolvedType_index]
    decide
  exact ⟨same, types, (edges_resolved_by_scan (ofNodes sampleNodes)).2.2.2 _ same⟩

end Graph
end IrChart
