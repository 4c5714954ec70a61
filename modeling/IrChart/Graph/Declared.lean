import IrChart.Graph.Links

/-!
# Declared edges

The edges of all nodes in one directed graph. An edge leads from an input to the node that lists it,
or from a node to the output that it lists, and remembers which of its ends lists it; if both do, it
is there twice. The inputs of a node are read off the edges that lead to it and its outputs off those
that lead away from it, among which there are edges that other nodes list.
-/

namespace IrChart

/-- The end of an edge that lists it. -/
inductive Side where
  /-- The target, among its inputs. -/
  | target
  /-- The source, among its outputs. -/
  | source
  deriving DecidableEq, Repr

/-- An edge between two nodes, with the end that lists it. -/
structure DeclaredEdge (n : Nat) where
  source : Fin n
  target : Fin n
  side : Side
  deriving DecidableEq, Repr

/-- Directed graphs on `n` nodes, to which edges are added one at a time. -/
class EdgeStore (S : Nat → Type) where
  /-- The graph without edges. -/
  empty (n : Nat) : S n
  /-- The graph with one more edge. -/
  add {n : Nat} (s : S n) (edge : DeclaredEdge n) : S n
  /-- The edges that lead to a node, in visiting order. -/
  incoming {n : Nat} (s : S n) (i : Fin n) : List (DeclaredEdge n)
  /-- The edges that lead away from a node, in visiting order. -/
  outgoing {n : Nat} (s : S n) (i : Fin n) : List (DeclaredEdge n)
  /-- The nodes at the other ends of the edges of a node. -/
  neighbors {n : Nat} (s : S n) (i : Fin n) : List (Fin n)

namespace Graph

/-- The nodes other than `self` that `edges` refer to, in the order in which they are first
listed. -/
def known (g : Graph) (self : Fin g.size) (edges : List Edge) : Distinct (Fin g.size) :=
  .ofList ((edges.filterMap (g.carriers[·.id]?)).filter (· ≠ self))

/-- The edges that a node lists, from its inputs and to its outputs. -/
def declaredBy (g : Graph) (i : Fin g.size) : List (DeclaredEdge g.size) :=
  let node := g.nodeAt i
  (g.known i (node.inputs ++ node.specials)).toList.map (⟨·, i, .target⟩) ++
    (g.known i node.outputs).toList.map (⟨i, ·, .source⟩)

/-- The edges that the nodes list, in node order. -/
def declared (g : Graph) : List (DeclaredEdge g.size) := (List.finRange g.size).flatMap g.declaredBy

end Graph

namespace EdgeStore

variable {S : Nat → Type} [EdgeStore S] {n : Nat}

/-- The edges of a graph, added in node order. -/
def ofGraph (S : Nat → Type) [EdgeStore S] (g : Graph) : S g.size :=
  g.declared.foldl add (empty g.size)

/-- The nodes that `i` lists as inputs or special inputs. -/
def inputs (s : S n) (i : Fin n) : List (Fin n) :=
  ((incoming s i).filter (·.side = .target)).map (·.source)

/-- The nodes that `i` lists as outputs. -/
def outputs (s : S n) (i : Fin n) : List (Fin n) :=
  ((outgoing s i).filter (·.side = .source)).map (·.target)

end EdgeStore

/-- The edges at each node, the one that was added last in front. -/
structure Adjacency (n : Nat) where
  incoming : Vector (List (DeclaredEdge n)) n
  outgoing : Vector (List (DeclaredEdge n)) n

namespace Adjacency

variable {n : Nat}

/-- The lists with `edge` in front of the list of one node. -/
def push (lists : Vector (List (DeclaredEdge n)) n) (i : Fin n) (edge : DeclaredEdge n) :
    Vector (List (DeclaredEdge n)) n :=
  lists.set i (edge :: lists.get i) i.isLt

instance edgeStore : EdgeStore Adjacency where
  empty n := ⟨.replicate n [], .replicate n []⟩
  add s edge := ⟨push s.incoming edge.target edge, push s.outgoing edge.source edge⟩
  incoming s i := s.incoming.get i
  outgoing s i := s.outgoing.get i
  neighbors s i := (s.outgoing.get i).map (·.target) ++ (s.incoming.get i).map (·.source)

end Adjacency
end IrChart
