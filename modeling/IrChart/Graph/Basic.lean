import IrChart.Ordered
import Std.Data.HashMap

/-!
# Graphs

Nodes that refer to each other by id, and the types of the references.
-/

namespace IrChart

/-! ## Nodes and edges

A graph is the list of nodes of a dump in source order, with the distinct node types. An edge
names its other end by id; ids may repeat or name no node, and the first node with an id stands
for it.
-/

/-- The id that a dump writes for "no node". -/
def nullId : String := "_"

/-- The type of an edge to no node. -/
def nullType : String := "null"

/-- The type of an edge whose other end is not in the dump. -/
def unknownType : String := "unknown"

/-- The type label of cells that do not apply. -/
def naType : String := "na"

/-- The labels that are no node's type. -/
def reservedTypes : List String := [nullType, unknownType, naType]

/-- A reference to a node, with the type of that node. -/
structure Edge where
  id : String
  type : String := unknownType
  deriving DecidableEq, Repr

/-- The edge refers to no node. -/
def Edge.isNull (e : Edge) : Bool := e.id == nullId

/-- One instruction or value of a dump. -/
structure Node where
  id : String
  type : String
  inputs : List Edge := []
  specials : List Edge := []
  outputs : List Edge := []
  details : String := ""
  focus : Bool := false
  line : Nat := 0
  deriving DecidableEq, Repr

namespace Node

/-- The edges in the order inputs, special inputs, outputs. -/
def edges (node : Node) : List Edge := node.inputs ++ node.specials ++ node.outputs

/-- `node` with `f` applied to each of its edges. -/
def mapEdges (f : Edge → Edge) (node : Node) : Node :=
  { node with
    inputs := node.inputs.map f
    specials := node.specials.map f
    outputs := node.outputs.map f }

theorem edges_mapEdges (f : Edge → Edge) (node : Node) :
    (node.mapEdges f).edges = node.edges.map f := by
  simp [mapEdges, edges]

end Node

/-- The nodes of a dump in order, and the distinct node types. -/
structure Graph where
  nodes : List Node
  types : Distinct String
  deriving DecidableEq, Repr

namespace Graph

/-- No nodes and no types. -/
def empty : Graph := ⟨[], .empty⟩

/-- The graph of `nodes`, with their types in the order of first occurrence. -/
def ofNodes (nodes : List Node) : Graph := ⟨nodes, .ofList (nodes.map (·.type))⟩

/-- Number of nodes. -/
def size (g : Graph) : Nat := g.nodes.length

/-- The first node with an id. -/
def node? (g : Graph) (id : String) : Option Node := g.nodes.find? (·.id == id)

/-- Some node carries the id. -/
def contains (g : Graph) (id : String) : Bool := (g.node? id).isSome

instance : Inhabited Graph := ⟨empty⟩

/-- An index to which only the first value of a key is added finds what a scan finds. -/
theorem getElem?_foldl_insertIfNew {α β : Type} (key : α → String) (value : α → β) (xs : List α)
    (index : Std.HashMap String β) (k : String) :
    (xs.foldl (fun index x => index.insertIfNew (key x) (value x)) index)[k]? =
      (index[k]?).or ((xs.find? (key · == k)).map value) := by
  induction xs generalizing index with
  | nil => simp
  | cons x xs ih =>
    rw [List.foldl_cons, ih, List.find?_cons, Std.HashMap.getElem?_insertIfNew]
    by_cases same : key x = k
    · subst same
      by_cases present : key x ∈ index
      · simp [present]
      · simp [present]
    · have differs : (key x == k) = false := by simpa using same
      simp [differs]

/-! ## Edge types

An edge gets its type from the node it refers to. `Graph.nodeIndex` finds that node after one pass
over the graph; it agrees with the scan `Graph.node?`, because only the first node with an id enters
it.
-/

/-- The first node with each id. -/
def nodeIndex (g : Graph) : Std.HashMap String Node :=
  g.nodes.foldl (fun index node => index.insertIfNew node.id node) ∅

/-- The type of the first node with each id. -/
def index (g : Graph) : Std.HashMap String String := g.nodeIndex.map fun _ node => node.type

/-- The type of an edge, from the types of the nodes: `null` for the null edge, the type of the
node it refers to, or the type it has. -/
def resolvedType (types : Std.HashMap String String) (edge : Edge) : String :=
  if edge.isNull then nullType else types.getD edge.id edge.type

/-- `g` with every edge typed by the node it refers to. -/
def resolveEdges (g : Graph) : Graph :=
  let types := g.index
  { g with nodes := g.nodes.map (Node.mapEdges fun edge =>
      { edge with type := resolvedType types edge }) }

/-- The index holds what a scan of the nodes finds. -/
theorem getElem?_nodeIndex (g : Graph) (id : String) : g.nodeIndex[id]? = g.node? id := by
  simp [nodeIndex, node?, getElem?_foldl_insertIfNew]

theorem getElem?_index (g : Graph) (id : String) : g.index[id]? = (g.node? id).map (·.type) := by
  rw [index, Std.HashMap.getElem?_map, getElem?_nodeIndex]

end Graph
end IrChart
