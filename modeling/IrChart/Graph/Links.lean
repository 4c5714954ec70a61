import IrChart.Graph.Basic

/-!
# Links, groups and depths

The structure of a graph: the nodes that a node lists, the groups that are connected, and the depth
of a node in its group.
-/

namespace IrChart

/-! ## Links

Which nodes a node lists. A link goes to the first node that carries the listed id; links of a
node to itself and ids that no node carries do not count, and a node that is listed twice is linked
once. Links are visited in the reverse of the order in which they were first listed.
-/

/-- The linked nodes of each of `n` nodes, in visiting order. -/
structure Links (n : Nat) where
  inputs : Vector (List (Fin n)) n
  outputs : Vector (List (Fin n)) n

namespace Graph

/-- The nodes by their places. -/
def table (g : Graph) : Vector Node g.size := ⟨g.nodes.toArray, by simp [size]⟩

/-- The node at a place. -/
def nodeAt (g : Graph) (i : Fin g.size) : Node := g.nodes.get i

/-- The place of the first node with each id. -/
def carriers (g : Graph) : Std.HashMap String (Fin g.size) :=
  let table := g.table
  (List.finRange g.size).foldl (fun places i => places.insertIfNew (table.get i).id i) ∅

end Graph

namespace Links

variable {n : Nat}

/-- The nodes other than `self` that `edges` refer to, in visiting order. -/
def targets (carriers : Std.HashMap String (Fin n)) (self : Fin n) (edges : List Edge) :
    List (Fin n) :=
  (Distinct.ofList ((edges.filterMap (carriers[·.id]?)).filter (· ≠ self))).toList.reverse

/-- The links of a graph. -/
def ofGraph (g : Graph) : Links g.size :=
  let table := g.table
  let carriers := g.carriers
  { inputs := .ofFn fun i => targets carriers i ((table.get i).inputs ++ (table.get i).specials)
    outputs := .ofFn fun i => targets carriers i (table.get i).outputs }

/-- The nodes that `i` lists as inputs or special inputs. -/
def inputsOf (l : Links n) (i : Fin n) : List (Fin n) := l.inputs.get i

/-- The nodes that `i` lists as outputs. -/
def outputsOf (l : Links n) (i : Fin n) : List (Fin n) := l.outputs.get i

/-- One of the two nodes lists the other. -/
def adjacent (l : Links n) (i j : Fin n) : Bool :=
  (l.inputsOf i).contains j || (l.outputsOf i).contains j ||
    (l.inputsOf j).contains i || (l.outputsOf j).contains i

/-! ## Connected groups

Nodes that are linked, directly or through others and in either direction, form a group. Groups
are built one node at a time: a node joins all groups it is adjacent to into one, which moves to
the end.
-/

/-- `i` is adjacent to some member of the group. -/
def touches (l : Links n) (i : Fin n) (group : List (Fin n)) : Bool := group.any (l.adjacent i)

/-- The groups after the node `i` is taken in. -/
def join (l : Links n) (groups : List (List (Fin n))) (i : Fin n) : List (List (Fin n)) :=
  let (touching, rest) := groups.partition (l.touches i)
  rest ++ [touching.flatten ++ [i]]

/-- The connected groups of all nodes. -/
def groups (l : Links n) : List (List (Fin n)) := (List.finRange n).foldl l.join []

end Links

/-! ## Depths

A node without ranked inputs has depth 0, any other node is one deeper than its deepest ranked
input. Inputs are ranked before the node; an input that is itself waiting for the node closes a
cycle and does not count.

The search keeps a stack of tasks. `visit` opens a node and puts its inputs before its own
`finish`, so the input that is listed first is ranked first.
-/

/-- How far a node has come in the search. -/
inductive Mark where
  | fresh
  | waiting
  | ranked (depth : Nat)
  deriving DecidableEq, Repr

namespace Mark

/-- The depth of a ranked node. -/
def depth? : Mark → Option Nat
  | ranked depth => some depth
  | _ => none

/-- The node was not reached yet. -/
def isFresh : Mark → Bool
  | fresh => true
  | _ => false

end Mark

/-- The marks of all nodes. -/
abbrev Marks (n : Nat) := Vector Mark n

/-- What is left to do for a node. -/
inductive Task (n : Nat) where
  | visit (i : Fin n)
  | finish (i : Fin n)
  deriving DecidableEq, Repr

namespace Marks

variable {n : Nat}

/-- Number of nodes that were not reached yet. -/
def freshCount (marks : Marks n) : Nat := marks.toArray.countP Mark.isFresh

theorem freshCount_set (marks : Marks n) (i : Fin n) (mark : Mark) :
    freshCount (marks.set i mark) + (if (marks.get i).isFresh then 1 else 0) =
      freshCount marks + (if mark.isFresh then 1 else 0) := by
  have hi : i.val < marks.toArray.size := by simp
  have hle : (if marks.toArray[i.val].isFresh then 1 else 0) ≤
      marks.toArray.countP Mark.isFresh := by
    split
    · exact Array.countP_pos_iff.2 ⟨_, Array.getElem_mem hi, by assumption⟩
    · exact Nat.zero_le _
  have hset : (marks.toArray.set i.val mark hi).countP Mark.isFresh = _ := Array.countP_set hi
  have hsame : marks.get i = marks.toArray[i.val] := rfl
  simp only [freshCount, Vector.toArray_set, hsame]
  omega

/-- Opening a fresh node leaves one fresh node less. -/
theorem freshCount_open_lt (marks : Marks n) (i : Fin n) (h : (marks.get i).isFresh = true) :
    freshCount (marks.set i .waiting) < freshCount marks := by
  have count := freshCount_set marks i .waiting
  have waiting : Mark.isFresh .waiting = false := rfl
  rw [h, waiting] at count
  simp only [if_true, Bool.false_eq_true, if_false] at count
  omega

/-- Ranking a node makes no node fresh. -/
theorem freshCount_rank_le (marks : Marks n) (i : Fin n) (depth : Nat) :
    freshCount (marks.set i (.ranked depth)) ≤ freshCount marks := by
  have count := freshCount_set marks i (.ranked depth)
  have ranked : Mark.isFresh (.ranked depth) = false := rfl
  rw [ranked] at count
  simp only [Bool.false_eq_true, if_false] at count
  omega

end Marks

namespace Links

variable {n : Nat}

/-- The depth of a node once its inputs are done. -/
def depthOver (l : Links n) (marks : Marks n) (i : Fin n) : Nat :=
  (((l.inputsOf i).filterMap fun j => (marks.get j).depth?).map (· + 1)).foldl max 0

/-- The tasks after `i` was opened: its fresh inputs, then `i` itself, then what was left. -/
def expand (l : Links n) (marks : Marks n) (i : Fin n) (rest : List (Task n)) : List (Task n) :=
  (l.inputsOf i).foldl
    (fun tasks j => if (marks.get j).isFresh then .visit j :: tasks else tasks) (.finish i :: rest)

/-- Does all tasks, the first one first. -/
def search (l : Links n) (marks : Marks n) : List (Task n) → Marks n
  | [] => marks
  | .visit i :: rest =>
    if (marks.get i).isFresh then
      l.search (marks.set i .waiting) (l.expand (marks.set i .waiting) i rest)
    else l.search marks rest
  | .finish i :: rest =>
    match marks.get i with
    | .ranked _ => l.search marks rest
    | _ => l.search (marks.set i (.ranked (l.depthOver marks i))) rest
termination_by tasks => (marks.freshCount, tasks.length)
decreasing_by
  · exact Prod.Lex.left _ _ (marks.freshCount_open_lt i (by assumption))
  · exact Prod.Lex.right _ (Nat.lt_succ_self _)
  · exact Prod.Lex.right _ (Nat.lt_succ_self _)
  · rcases Nat.lt_or_eq_of_le (marks.freshCount_rank_le i (l.depthOver marks i)) with h | h
    · exact Prod.Lex.left _ _ h
    · rw [h]
      exact Prod.Lex.right _ (Nat.lt_succ_self _)

/-- The marks after all nodes of a group were visited in order. The nodes that can be reached
from the group along inputs are ranked. -/
def rank (l : Links n) (group : List (Fin n)) : Marks n :=
  group.foldl (fun marks i => l.search marks [.visit i]) (Vector.replicate n .fresh)

end Links
end IrChart
