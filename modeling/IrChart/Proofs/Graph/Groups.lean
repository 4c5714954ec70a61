import IrChart.Graph.Links
import IrChart.Proofs.Graph.Links
import Mathlib.Data.List.FinRange
import Mathlib.Data.List.Lattice
import Mathlib.Data.List.Pairwise
import Mathlib.Logic.Relation

/-!
# Groups are connected components

Taking in one node keeps what is known of the groups of the nodes before it: they hold these nodes,
nodes of one group are connected, and adjacent nodes are in one group (`Grouped.join`). So the
groups of all nodes are the connected components of the graph, in the order of their greatest nodes
(`components_groups`).
-/

namespace IrChart

/-- Two things are in one of the groups. -/
def Together {α : Type} (groups : List (List α)) (a b : α) : Prop :=
  ∃ group ∈ groups, a ∈ group ∧ b ∈ group

/-- Groups without common members are equal if they share one. -/
theorem eq_of_common_member {α : Type} {groups : List (List α)}
    (disjoint : groups.Pairwise List.Disjoint) {first second : List α}
    (inFirst : first ∈ groups) (inSecond : second ∈ groups) {a : α} (here : a ∈ first)
    (there : a ∈ second) : first = second := by
  have : Std.Symm (List.Disjoint : List α → List α → Prop) := ⟨fun _ _ => List.Disjoint.symm⟩
  by_contra different
  exact disjoint.forall inFirst inSecond different here there

theorem Together.trans {α : Type} {groups : List (List α)}
    (disjoint : groups.Pairwise List.Disjoint) {a b c : α} (first : Together groups a b)
    (second : Together groups b c) : Together groups a c := by
  obtain ⟨group, member, inGroup, shared⟩ := first
  obtain ⟨group', member', shared', inGroup'⟩ := second
  have same := eq_of_common_member disjoint member member' shared shared'
  subst same
  exact ⟨group, member, inGroup, inGroup'⟩

namespace Links

variable {n : Nat} {l : Links n}

theorem adjacent_symm {i j : Fin n} (h : l.adjacent i j = true) : l.adjacent j i = true := by
  simp only [adjacent, Bool.or_eq_true] at h ⊢
  tauto

/-- A path of adjacent nodes leads from one node to the other. -/
def Connected (l : Links n) : Fin n → Fin n → Prop :=
  Relation.ReflTransGen fun i j => l.adjacent i j = true

theorem Connected.symm {i j : Fin n} (h : l.Connected i j) : l.Connected j i := by
  induction h with
  | refl => exact .refl
  | tail path last ih => exact .head (adjacent_symm last) ih

/-! ### Taking in one node -/

theorem join_eq (l : Links n) (groups : List (List (Fin n))) (i : Fin n) :
    l.join groups i = groups.filter (!l.touches i ·) ++
      [(groups.filter (l.touches i)).flatten ++ [i]] := by
  rw [join, List.partition_eq_filter_filter]
  rfl

theorem touches_iff {i : Fin n} {group : List (Fin n)} :
    l.touches i group = true ↔ ∃ j ∈ group, l.adjacent i j = true := by
  rw [touches, List.any_eq_true]

/-- A group is kept unless the node touches it; the groups that it touches make up a new one. -/
theorem mem_join_iff {groups : List (List (Fin n))} {i : Fin n} {group : List (Fin n)} :
    group ∈ l.join groups i ↔ group ∈ groups ∧ l.touches i group = false ∨
      group = (groups.filter (l.touches i)).flatten ++ [i] := by
  rw [join_eq, List.mem_append, List.mem_filter, List.mem_singleton, Bool.not_eq_true']

/-- The groups hold the nodes before and the new one. -/
theorem flatten_join_perm (l : Links n) (groups : List (List (Fin n))) (i : Fin n) :
    (l.join groups i).flatten.Perm (groups.flatten ++ [i]) := by
  have parts := (List.filter_append_perm (l.touches i) groups).flatten
  rw [List.flatten_append] at parts
  rw [join_eq, List.flatten_append, List.flatten_singleton, ← List.append_assoc]
  exact (List.perm_append_comm.trans parts).append_right [i]

/-- Nodes stay together. -/
theorem together_join {groups : List (List (Fin n))} {a b : Fin n} (h : Together groups a b)
    (i : Fin n) : Together (l.join groups i) a b := by
  obtain ⟨group, member, inGroup, inGroup'⟩ := h
  by_cases touched : l.touches i group = true
  · have merged : ∀ c ∈ group, c ∈ (groups.filter (l.touches i)).flatten ++ [i] := by
      intro c inside
      have kept : group ∈ groups.filter (l.touches i) := List.mem_filter.2 ⟨member, touched⟩
      exact List.mem_append_left _ (List.mem_flatten.2 ⟨group, kept, inside⟩)
    exact ⟨_, mem_join_iff.2 (.inr rfl), merged a inGroup, merged b inGroup'⟩
  · rw [Bool.not_eq_true] at touched
    exact ⟨group, mem_join_iff.2 (.inl ⟨member, touched⟩), inGroup, inGroup'⟩

/-- The groups of the nodes that were taken in so far. -/
structure Grouped (l : Links n) (seen : List (Fin n)) (groups : List (List (Fin n))) : Prop where
  members : groups.flatten.Perm seen
  connected : ∀ group ∈ groups, ∀ i ∈ group, ∀ j ∈ group, l.Connected i j
  adjacent : ∀ i ∈ seen, ∀ j ∈ seen, l.adjacent i j = true → Together groups i j
  ends : ∀ group ∈ groups, ∃ front last, group = front ++ [last] ∧ ∀ i ∈ front, i < last
  ascending : groups.Pairwise fun first second =>
    ∀ i ∈ first.getLast?, ∀ j ∈ second.getLast?, i < j

namespace Grouped

variable {seen : List (Fin n)} {groups : List (List (Fin n))}

theorem empty (l : Links n) : l.Grouped [] [] where
  members := .refl _
  connected := by simp
  adjacent := by simp
  ends := by simp
  ascending := .nil

theorem mem_seen (h : l.Grouped seen groups) {group : List (Fin n)} (member : group ∈ groups)
    {i : Fin n} (inside : i ∈ group) : i ∈ seen :=
  h.members.subset (List.mem_flatten.2 ⟨group, member, inside⟩)

theorem exists_group (h : l.Grouped seen groups) {i : Fin n} (known : i ∈ seen) :
    ∃ group ∈ groups, i ∈ group :=
  List.mem_flatten.1 (h.members.symm.subset known)

/-- The new node is connected to all members of its group. -/
theorem connected_merged (h : l.Grouped seen groups) {i a : Fin n}
    (member : a ∈ (groups.filter (l.touches i)).flatten ++ [i]) : l.Connected i a := by
  rcases List.mem_append.1 member with old | new
  · obtain ⟨group, kept, inside⟩ := List.mem_flatten.1 old
    obtain ⟨known, touched⟩ := List.mem_filter.1 kept
    obtain ⟨j, inGroup, neighbour⟩ := touches_iff.1 touched
    exact .head neighbour (h.connected group known j inGroup a inside)
  · rw [List.mem_singleton] at new
    subst new
    exact .refl

/-- The new node is in one group with every earlier node that it is adjacent to. -/
theorem together_new (h : l.Grouped seen groups) {i j : Fin n} (known : j ∈ seen)
    (neighbour : l.adjacent i j = true) : Together (l.join groups i) i j := by
  obtain ⟨group, member, inside⟩ := h.exists_group known
  have kept : group ∈ groups.filter (l.touches i) :=
    List.mem_filter.2 ⟨member, touches_iff.2 ⟨j, inside, neighbour⟩⟩
  refine ⟨_, mem_join_iff.2 (.inr rfl), by simp, ?_⟩
  exact List.mem_append_left _ (List.mem_flatten.2 ⟨group, kept, inside⟩)

/-- Taking in a node after all earlier ones keeps the groups as they should be. -/
theorem join (h : l.Grouped seen groups) {i : Fin n} (later : ∀ j ∈ seen, j < i) :
    l.Grouped (seen ++ [i]) (l.join groups i) where
  members := (l.flatten_join_perm groups i).trans (h.members.append_right [i])
  connected := by
    intro group member a inA b inB
    rcases mem_join_iff.1 member with ⟨old, -⟩ | rfl
    · exact h.connected group old a inA b inB
    · exact (h.connected_merged inA).symm.trans (h.connected_merged inB)
  adjacent := by
    intro a knownA b knownB neighbour
    rw [List.mem_append, List.mem_singleton] at knownA knownB
    rcases knownA with oldA | rfl
    · rcases knownB with oldB | rfl
      · exact together_join (h.adjacent a oldA b oldB neighbour) i
      · obtain ⟨group, member, inB, inA⟩ := h.together_new oldA (adjacent_symm neighbour)
        exact ⟨group, member, inA, inB⟩
    · rcases knownB with oldB | rfl
      · exact h.together_new oldB neighbour
      · exact ⟨_, mem_join_iff.2 (.inr rfl), by simp, by simp⟩
  ends := by
    intro group member
    rcases mem_join_iff.1 member with ⟨old, -⟩ | rfl
    · exact h.ends group old
    · refine ⟨_, i, rfl, ?_⟩
      intro j inFront
      obtain ⟨group, kept, inside⟩ := List.mem_flatten.1 inFront
      exact later j (h.mem_seen (List.mem_filter.1 kept).1 inside)
  ascending := by
    rw [join_eq, List.pairwise_append]
    refine ⟨h.ascending.sublist List.filter_sublist, List.pairwise_singleton _ _, ?_⟩
    intro first kept second new j lastOfFirst k lastOfSecond
    rw [List.mem_singleton] at new
    subst new
    have last : i = k := by simpa using lastOfSecond
    subst last
    have inside : j ∈ first := List.mem_of_getLast? lastOfFirst
    exact later j (h.mem_seen (List.mem_filter.1 kept).1 inside)

/-- Taking in more nodes in ascending order. -/
theorem foldl_join {nodes : List (Fin n)} (h : l.Grouped seen groups)
    (ordered : (seen ++ nodes).Pairwise (· < ·)) :
    l.Grouped (seen ++ nodes) (nodes.foldl l.join groups) := by
  induction nodes generalizing seen groups with
  | nil => simpa using h
  | cons i nodes ih =>
    have later : ∀ j ∈ seen, j < i := by
      intro j known
      exact (List.pairwise_append.1 ordered).2.2 j known i (List.mem_cons_self ..)
    have split : seen ++ i :: nodes = seen ++ [i] ++ nodes := by simp
    rw [split] at ordered ⊢
    exact ih (h.join later) ordered

end Grouped

/-- The groups of all nodes are as they should be. -/
theorem grouped_groups (l : Links n) : l.Grouped (List.finRange n) l.groups :=
  (Grouped.empty l).foldl_join (List.pairwise_lt_finRange n)

theorem nodup_flatten_groups (l : Links n) : l.groups.flatten.Nodup :=
  l.grouped_groups.members.nodup_iff.2 (List.nodup_finRange n)

theorem disjoint_groups (l : Links n) : l.groups.Pairwise List.Disjoint :=
  (List.nodup_flatten.1 l.nodup_flatten_groups).2

/-- Two nodes are in one group if a path connects them, and only then. -/
theorem together_groups_iff (l : Links n) {i j : Fin n} :
    Together l.groups i j ↔ l.Connected i j := by
  constructor
  · rintro ⟨group, member, inI, inJ⟩
    exact l.grouped_groups.connected group member i inI j inJ
  · intro path
    induction path with
    | refl =>
      obtain ⟨group, member, inside⟩ := l.grouped_groups.exists_group (List.mem_finRange i)
      exact ⟨group, member, inside, inside⟩
    | tail path last ih =>
      have step := l.grouped_groups.adjacent _ (List.mem_finRange _) _ (List.mem_finRange _) last
      exact ih.trans l.disjoint_groups step

/-- A group holds every node that is adjacent to one of its members. -/
theorem mem_group_of_adjacent {group : List (Fin n)} (member : group ∈ l.groups) {i j : Fin n}
    (inside : i ∈ group) (neighbour : l.adjacent i j = true) : j ∈ group := by
  obtain ⟨group', member', inI, inJ⟩ :=
    l.grouped_groups.adjacent i (List.mem_finRange i) j (List.mem_finRange j) neighbour
  have same := eq_of_common_member l.disjoint_groups member member' inside inI
  subst same
  exact inJ

end Links

/-- The groups are the connected components of the graph, each with its greatest node last, in the
order of these. -/
structure Graph.Components (g : Graph) (groups : List (List (Fin g.size))) : Prop where
  nonempty : ∀ group ∈ groups, group ≠ []
  disjoint : groups.Pairwise List.Disjoint
  nodup : ∀ group ∈ groups, group.Nodup
  covers : ∀ i, groups.flatten.count i = 1
  together_iff : ∀ i j, Together groups i j ↔ Relation.ReflTransGen g.Linked i j
  ends : ∀ group ∈ groups, ∃ last, group.getLast? = some last ∧ ∀ i ∈ group, i ≤ last
  ascending : groups.Pairwise fun first second =>
    ∀ i ∈ first.getLast?, ∀ j ∈ second.getLast?, i < j

/-- The groups of a graph are its connected components. -/
theorem Graph.components_groups (g : Graph) : g.Components (Links.ofGraph g).groups where
  nonempty := by
    intro group member
    obtain ⟨front, last, rfl, -⟩ := (Links.ofGraph g).grouped_groups.ends group member
    simp
  disjoint := (Links.ofGraph g).disjoint_groups
  nodup := (List.nodup_flatten.1 (Links.ofGraph g).nodup_flatten_groups).1
  covers := by
    intro i
    rw [(Links.ofGraph g).grouped_groups.members.count_eq, List.count_finRange]
  together_iff := by
    intro i j
    have linked : (fun i j => (Links.ofGraph g).adjacent i j = true) = g.Linked := by
      funext i j
      exact propext Links.adjacent_ofGraph_iff
    rw [Links.together_groups_iff, Links.Connected, linked]
  ends := by
    intro group member
    obtain ⟨front, last, rfl, below⟩ := (Links.ofGraph g).grouped_groups.ends group member
    refine ⟨last, by simp, ?_⟩
    intro i inside
    rcases List.mem_append.1 inside with before | here
    · exact Fin.le_of_lt (below i before)
    · exact Fin.le_of_eq (List.mem_singleton.1 here)
  ascending := (Links.ofGraph g).grouped_groups.ascending

end IrChart
