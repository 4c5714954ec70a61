import IrChart.Graph.Links
import IrChart.Proofs.Graph.Links
import Mathlib.Data.List.Fold

/-!
# The search is a recursion

Ranking nodes without a stack: to visit a fresh node is to open it, to visit its inputs in the order
in which they are listed and to rank it above those that are ranked by then (`Marks.visit_eq`). The
search along a stack of tasks does just that (`Links.search_visit`), since the tasks for the inputs
of a node come before its own, and the tasks for nodes that were reached meanwhile do nothing.
-/

namespace IrChart

namespace Marks

variable {n : Nat} {listed : Fin n → List (Fin n)} {marks : Marks n}

theorem get_set (marks : Marks n) (i j : Fin n) (mark : Mark) :
    (marks.set i mark i.isLt).get j = if i = j then mark else marks.get j := by
  show (marks.set i mark i.isLt)[j.val] = _
  rw [Vector.getElem_set]
  simp only [Fin.ext_iff]
  rfl

@[simp] theorem get_set_self (marks : Marks n) (i : Fin n) (mark : Mark) :
    (marks.set i mark i.isLt).get i = mark := by
  rw [get_set, if_pos rfl]

theorem get_set_of_ne {i j : Fin n} (different : i ≠ j) (mark : Mark) :
    (marks.set i mark i.isLt).get j = marks.get j := by
  rw [get_set, if_neg different]

/-- The marks at the start: no node was reached. -/
def unreached (n : Nat) : Marks n := Vector.replicate n .fresh

@[simp] theorem get_unreached (i : Fin n) : (unreached n).get i = .fresh :=
  Vector.getElem_replicate i.isLt

/-- The depth above the ranked ones of some nodes: one more than the greatest of their depths, or
0 if none of them is ranked. -/
def depthAbove (marks : Marks n) (nodes : List (Fin n)) : Nat :=
  match (nodes.filterMap fun j => (marks.get j).depth?).max? with
  | none => 0
  | some deepest => deepest + 1

/-- `i` waits for its inputs. -/
def opened (marks : Marks n) (i : Fin n) : Marks n := marks.set i .waiting i.isLt

/-- `i` is ranked above those of its inputs that are ranked. -/
def finish (listed : Fin n → List (Fin n)) (marks : Marks n) (i : Fin n) : Marks n :=
  marks.set i (.ranked (depthAbove marks (listed i))) i.isLt

/-- `visitAll` with the bound on fresh nodes by which it ends. -/
def visitAllBounded (listed : Fin n → List (Fin n)) (marks : Marks n) (nodes : List (Fin n)) :
    { after : Marks n // after.freshCount ≤ marks.freshCount } :=
  match nodes with
  | [] => ⟨marks, Nat.le_refl _⟩
  | i :: rest =>
    if fresh : (marks.get i).isFresh = true then
      let inputs := visitAllBounded listed (marks.opened i) (listed i)
      have fewer : (finish listed inputs.val i).freshCount < marks.freshCount :=
        Nat.lt_of_le_of_lt (freshCount_rank_le inputs.val i _)
          (Nat.lt_of_le_of_lt inputs.property (freshCount_open_lt marks i fresh))
      let after := visitAllBounded listed (finish listed inputs.val i) rest
      ⟨after.val, Nat.le_trans after.property (Nat.le_of_lt fewer)⟩
    else visitAllBounded listed marks rest
termination_by (marks.freshCount, nodes.length)
decreasing_by
  · exact Prod.Lex.left _ _ (freshCount_open_lt marks i fresh)
  · exact Prod.Lex.left _ _ fewer
  · exact Prod.Lex.right _ (Nat.lt_succ_self _)

/-- Visits the nodes in order. Nodes that were reached before are left alone. -/
def visitAll (listed : Fin n → List (Fin n)) (marks : Marks n) (nodes : List (Fin n)) : Marks n :=
  (visitAllBounded listed marks nodes).val

/-- Visits one node. -/
def visit (listed : Fin n → List (Fin n)) (marks : Marks n) (i : Fin n) : Marks n :=
  visitAll listed marks [i]

/-- The marks when all inputs of a node were visited after it was opened. -/
def visitInputs (listed : Fin n → List (Fin n)) (marks : Marks n) (i : Fin n) : Marks n :=
  visitAll listed (marks.opened i) (listed i)

@[simp] theorem visitAll_nil : visitAll listed marks [] = marks := by
  rw [visitAll, visitAllBounded]

theorem visitAll_cons_of_fresh {i : Fin n} (fresh : (marks.get i).isFresh = true)
    (rest : List (Fin n)) :
    visitAll listed marks (i :: rest) =
      visitAll listed (finish listed (visitInputs listed marks i) i) rest := by
  rw [visitAll, visitAllBounded, dif_pos fresh]
  rfl

theorem visitAll_cons_of_not_fresh {i : Fin n} (reached : (marks.get i).isFresh = false)
    (rest : List (Fin n)) : visitAll listed marks (i :: rest) = visitAll listed marks rest := by
  rw [visitAll, visitAllBounded, dif_neg (by simp [reached])]
  rfl

theorem freshCount_opened_lt {i : Fin n} (fresh : (marks.get i).isFresh = true) :
    (marks.opened i).freshCount < marks.freshCount := freshCount_open_lt marks i fresh

theorem freshCount_finish_lt {i : Fin n} (fresh : (marks.get i).isFresh = true) :
    (finish listed (visitInputs listed marks i) i).freshCount < marks.freshCount :=
  calc (finish listed (visitInputs listed marks i) i).freshCount
      ≤ (visitInputs listed marks i).freshCount := freshCount_rank_le _ i _
    _ ≤ (marks.opened i).freshCount :=
        (visitAllBounded listed (marks.opened i) (listed i)).property
    _ < marks.freshCount := freshCount_opened_lt fresh

/-- Induction along visits. What is to be shown of a fresh node and the nodes after it may be used
of any nodes once it is open, and of the nodes after it once it is ranked. -/
theorem visitAll_induction (listed : Fin n → List (Fin n))
    {motive : Marks n → List (Fin n) → Prop} (nil : ∀ marks, motive marks [])
    (fresh : ∀ marks i rest, (marks.get i).isFresh = true →
      (∀ nodes, motive (marks.opened i) nodes) →
      motive (finish listed (visitInputs listed marks i) i) rest → motive marks (i :: rest))
    (reached : ∀ marks i rest, (marks.get i).isFresh = false → motive marks rest →
      motive marks (i :: rest))
    (marks : Marks n) (nodes : List (Fin n)) : motive marks nodes := by
  cases nodes with
  | nil => exact nil marks
  | cons i rest =>
    by_cases isFresh : (marks.get i).isFresh = true
    · apply fresh marks i rest isFresh
      · intro nodes
        exact visitAll_induction listed nil fresh reached (marks.opened i) nodes
      · exact visitAll_induction listed nil fresh reached _ rest
    · exact reached marks i rest (by simpa using isFresh)
        (visitAll_induction listed nil fresh reached marks rest)
termination_by (marks.freshCount, nodes.length)
decreasing_by
  · exact Prod.Lex.left _ _ (freshCount_opened_lt isFresh)
  · exact Prod.Lex.left _ _ (freshCount_finish_lt isFresh)
  · exact Prod.Lex.right _ (Nat.lt_succ_self _)

/-- A node that was reached keeps its mark. -/
theorem get_visitAll_of_not_fresh {j : Fin n} (reached : (marks.get j).isFresh = false)
    (nodes : List (Fin n)) : (visitAll listed marks nodes).get j = marks.get j := by
  induction marks, nodes using visitAll_induction listed with
  | nil marks => rw [visitAll_nil]
  | fresh marks i rest fresh inputs later =>
    have different : i ≠ j := by
      rintro rfl
      simp [reached] at fresh
    have opened : (marks.opened i).get j = marks.get j := get_set_of_ne different _
    have below : (visitInputs listed marks i).get j = marks.get j := by
      rw [← opened]
      exact inputs _ (by rw [opened, reached])
    have here : (finish listed (visitInputs listed marks i) i).get j = marks.get j := by
      rw [finish, get_set_of_ne different, below]
    rw [visitAll_cons_of_fresh fresh, later (by rw [here, reached]), here]
  | reached marks i rest old later => rw [visitAll_cons_of_not_fresh old, later reached]

/-- While its inputs are visited, a node waits. -/
theorem get_visitInputs_self (marks : Marks n) (i : Fin n) :
    (visitInputs listed marks i).get i = .waiting := by
  have opened : (marks.opened i).get i = .waiting := get_set_self marks i _
  rw [visitInputs, get_visitAll_of_not_fresh (by rw [opened]; rfl), opened]

/-- Nodes are visited one after another. -/
theorem visitAll_eq_foldl (nodes : List (Fin n)) :
    visitAll listed marks nodes = nodes.foldl (visit listed) marks := by
  induction nodes generalizing marks with
  | nil => exact visitAll_nil
  | cons i nodes ih =>
    rw [List.foldl_cons, ← ih, visit]
    by_cases fresh : (marks.get i).isFresh = true
    · rw [visitAll_cons_of_fresh fresh, visitAll_cons_of_fresh fresh, visitAll_nil]
    · rw [Bool.not_eq_true] at fresh
      rw [visitAll_cons_of_not_fresh fresh, visitAll_cons_of_not_fresh fresh, visitAll_nil]

/-- To visit a fresh node is to open it, to visit its inputs and to rank it. -/
theorem visit_eq (marks : Marks n) (i : Fin n) :
    visit listed marks i =
      if (marks.get i).isFresh then
        finish listed ((listed i).foldl (visit listed) (marks.opened i)) i
      else marks := by
  by_cases fresh : (marks.get i).isFresh = true
  · rw [if_pos fresh, visit, visitAll_cons_of_fresh fresh, visitAll_nil, ← visitAll_eq_foldl]
    rfl
  · rw [if_neg fresh]
    rw [Bool.not_eq_true] at fresh
    rw [visit, visitAll_cons_of_not_fresh fresh, visitAll_nil]

/-- Nodes that were reached before need not be visited. -/
theorem visitAll_filter {wanted : Fin n → Bool}
    (reached : ∀ j, wanted j = false → (marks.get j).isFresh = false) (nodes : List (Fin n)) :
    visitAll listed marks (nodes.filter wanted) = visitAll listed marks nodes := by
  induction nodes generalizing marks with
  | nil => rfl
  | cons i nodes ih =>
    by_cases want : wanted i = true
    · have still : ∀ j, wanted j = false → ((visit listed marks i).get j).isFresh = false := by
        intro j unwanted
        rw [visit, get_visitAll_of_not_fresh (reached j unwanted)]
        exact reached j unwanted
      have after := ih still
      rw [visitAll_eq_foldl, visitAll_eq_foldl] at after ⊢
      rw [List.filter_cons_of_pos want]
      exact after
    · rw [Bool.not_eq_true] at want
      rw [List.filter_cons_of_neg (by simp [want]), ih reached,
        visitAll_cons_of_not_fresh (reached i want)]

end Marks

namespace Links

variable {n : Nat} {l : Links n}

/-- The inputs of a node in the order in which they are listed. -/
def listed (l : Links n) (i : Fin n) : List (Fin n) := (l.inputsOf i).reverse

private theorem foldl_visit_tasks (wanted : Fin n → Bool) (nodes : List (Fin n))
    (rest : List (Task n)) :
    nodes.foldl (fun tasks j => if wanted j then .visit j :: tasks else tasks) rest =
      (nodes.reverse.filter wanted).map .visit ++ rest := by
  induction nodes generalizing rest with
  | nil => rfl
  | cons j nodes ih =>
    rw [List.foldl_cons, ih, List.reverse_cons, List.filter_append, List.map_append]
    by_cases want : wanted j = true
    · simp [want]
    · simp [want]

/-- The tasks after a node was opened, the input that is listed first at the front. -/
theorem expand_eq (l : Links n) (marks : Marks n) (i : Fin n) (rest : List (Task n)) :
    l.expand marks i rest =
      ((l.listed i).filter fun j => (marks.get j).isFresh).map .visit ++ .finish i :: rest :=
  foldl_visit_tasks _ _ _

private theorem foldl_max_succ (depths : List Nat) (deepest : Nat) :
    (depths.map (· + 1)).foldl max (deepest + 1) = depths.foldl max deepest + 1 := by
  induction depths generalizing deepest with
  | nil => rfl
  | cons depth depths ih => rw [List.map_cons, List.foldl_cons, List.foldl_cons, ← ih, Nat.add_max_add_right]

/-- The depth of a node does not depend on the order of its inputs. -/
theorem depthOver_eq (l : Links n) (marks : Marks n) (i : Fin n) :
    l.depthOver marks i = marks.depthAbove (l.listed i) := by
  have backwards : l.depthOver marks i =
      ((((l.listed i).filterMap fun j => (marks.get j).depth?).map (· + 1)).foldl max 0) := by
    rw [depthOver, listed, List.filterMap_reverse, List.map_reverse, List.foldl_reverse,
      List.foldl_eq_foldr]
    simp only [Nat.max_comm]
  rw [backwards, Marks.depthAbove]
  cases (l.listed i).filterMap fun j => (marks.get j).depth? with
  | nil => rfl
  | cons depth depths =>
    rw [List.map_cons, List.foldl_cons, Nat.zero_max, foldl_max_succ, List.max?_cons']

/-- Doing the tasks to visit some nodes is visiting them. -/
theorem search_visit (l : Links n) (marks : Marks n) (nodes : List (Fin n))
    (rest : List (Task n)) :
    l.search marks (nodes.map .visit ++ rest) =
      l.search (marks.visitAll l.listed nodes) rest := by
  induction marks, nodes using Marks.visitAll_induction l.listed generalizing rest with
  | nil marks => rw [Marks.visitAll_nil, List.map_nil, List.nil_append]
  | fresh marks i others fresh inputs later =>
    have expanded := l.expand_eq (marks.opened i) i (others.map .visit ++ rest)
    -- Inputs that are reached already get no task; a visit would leave them alone.
    have skipped : (marks.opened i).visitAll l.listed
        ((l.listed i).filter fun j => ((marks.opened i).get j).isFresh) =
          marks.visitInputs l.listed i := Marks.visitAll_filter (fun _ old => old) _
    have finished : l.search (marks.visitInputs l.listed i)
          (.finish i :: (others.map .visit ++ rest)) =
        l.search (Marks.finish l.listed (marks.visitInputs l.listed i) i)
          (others.map .visit ++ rest) := by
      rw [search, Marks.get_visitInputs_self, depthOver_eq]
      rfl
    calc l.search marks ((i :: others).map .visit ++ rest)
        = l.search (marks.opened i) (l.expand (marks.opened i) i (others.map .visit ++ rest)) := by
          rw [List.map_cons, List.cons_append, search, if_pos fresh]
          rfl
      _ = l.search (marks.visitInputs l.listed i) (.finish i :: (others.map .visit ++ rest)) := by
          rw [expanded, inputs, skipped]
      _ = l.search (marks.visitAll l.listed (i :: others)) rest := by
          rw [finished, later, Marks.visitAll_cons_of_fresh fresh]
  | reached marks i others old later =>
    rw [List.map_cons, List.cons_append, search, if_neg (by simp [old]), later,
      Marks.visitAll_cons_of_not_fresh old]

/-- Ranking a group visits its nodes. -/
theorem rank_eq_visitAll (l : Links n) (group : List (Fin n)) :
    l.rank group = (Marks.unreached n).visitAll l.listed group := by
  have step : (fun marks i => l.search marks [.visit i]) = Marks.visit l.listed := by
    funext marks i
    have searched := l.search_visit marks [i] []
    rw [search] at searched
    exact searched
  rw [rank, step, Marks.visitAll_eq_foldl]
  rfl

theorem listed_ofGraph (g : Graph) : (ofGraph g).listed = g.listedInputs := by
  funext i
  rw [listed, inputsOf_ofGraph, List.reverse_reverse]

end Links

/-- Ranking some nodes of a graph visits them in order, where to visit a fresh node is to open it,
to visit its inputs in the order in which they are first listed, and to rank it above those of its
inputs that are ranked by then. -/
theorem Graph.rank_ofGraph (g : Graph) (nodes : List (Fin g.size)) :
    (Links.ofGraph g).rank nodes = nodes.foldl (Marks.visit g.listedInputs) (.unreached g.size) ∧
      ∀ (marks : Marks g.size) (i : Fin g.size),
        marks.visit g.listedInputs i =
          if (marks.get i).isFresh then
            Marks.finish g.listedInputs
              ((g.listedInputs i).foldl (Marks.visit g.listedInputs) (marks.opened i)) i
          else marks := by
  constructor
  · rw [Links.rank_eq_visitAll, Links.listed_ofGraph, Marks.visitAll_eq_foldl]
  · intro marks i
    exact marks.visit_eq i

end IrChart
