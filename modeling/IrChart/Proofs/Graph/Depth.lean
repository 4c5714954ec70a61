import IrChart.Proofs.Graph.Groups
import IrChart.Proofs.Graph.Search
import Mathlib.Order.Bounds.Defs

/-!
# Depths are sound

While a node waits, only nodes that it leads to along inputs are visited. So an input that a node
finds waiting closes a cycle, and any other input is ranked before the node (`Marks.sound_visitAll`).
The depths of a group follow: its members have one and no other node does, an input that lies on no
cycle is less deep, and depths go down to 0 in steps of one (`ranking_depth?`).
-/

namespace IrChart

theorem Mark.depth?_eq_some_iff {mark : Mark} {depth : Nat} :
    mark.depth? = some depth ↔ mark = .ranked depth := by
  cases mark <;> simp [depth?]

namespace Marks

variable {n : Nat} {listed : Fin n → List (Fin n)} {marks : Marks n}

/-- Inputs lead from one node to the other. -/
def Leads (listed : Fin n → List (Fin n)) : Fin n → Fin n → Prop :=
  Relation.ReflTransGen fun i j => j ∈ listed i

/-! ### The depth above ranked nodes -/

theorem mem_depths {nodes : List (Fin n)} {depth : Nat} :
    depth ∈ nodes.filterMap (fun j => (marks.get j).depth?) ↔
      ∃ j ∈ nodes, marks.get j = .ranked depth := by
  simp only [List.mem_filterMap, Mark.depth?_eq_some_iff]

theorem lt_depthAbove {nodes : List (Fin n)} {j : Fin n} (member : j ∈ nodes) {depth : Nat}
    (ranked : marks.get j = .ranked depth) : depth < marks.depthAbove nodes := by
  have listed := mem_depths.2 ⟨j, member, ranked⟩
  unfold depthAbove
  split
  · rename_i none
    rw [List.max?_eq_none_iff.1 none] at listed
    simp at listed
  · rename_i deepest some
    have least := (List.max?_eq_some_iff.1 some).2 depth listed
    omega

theorem exists_of_depthAbove_eq_succ {nodes : List (Fin n)} {depth : Nat}
    (above : marks.depthAbove nodes = depth + 1) :
    ∃ j ∈ nodes, marks.get j = .ranked depth := by
  unfold depthAbove at above
  split at above
  · cases above
  · rename_i deepest some
    cases above
    exact mem_depths.1 (List.max?_eq_some_iff.1 some).1

/-! ### What is visited -/

theorem get_finish_self (marks : Marks n) (i : Fin n) :
    (finish listed marks i).get i = .ranked (depthAbove marks (listed i)) := get_set_self marks i _

theorem get_finish_of_ne {i j : Fin n} (different : i ≠ j) :
    (finish listed marks i).get j = marks.get j := get_set_of_ne different _

theorem get_opened_of_ne {i j : Fin n} (different : i ≠ j) :
    (marks.opened i).get j = marks.get j := get_set_of_ne different _

/-- The nodes are reached by visiting them. -/
theorem reached_visitAll {nodes : List (Fin n)} {i : Fin n} (member : i ∈ nodes) :
    ((visitAll listed marks nodes).get i).isFresh = false := by
  induction nodes generalizing marks with
  | nil => cases member
  | cons j nodes ih =>
    rw [visitAll_eq_foldl, List.foldl_cons, ← visitAll_eq_foldl]
    rcases List.mem_cons.1 member with rfl | later
    · have here : ((visit listed marks i).get i).isFresh = false := by
        rw [visit_eq]
        split
        · rw [get_finish_self]
          rfl
        · rename_i reached
          simpa using reached
      rw [get_visitAll_of_not_fresh here, here]
    · exact ih later

/-- A node that is reached on the way is ranked, and one of the nodes leads to it. -/
theorem ranked_of_reached {nodes : List (Fin n)} {j : Fin n} (before : (marks.get j).isFresh = true)
    (after : ((visitAll listed marks nodes).get j).isFresh = false) :
    (∃ depth, (visitAll listed marks nodes).get j = .ranked depth) ∧
      ∃ i ∈ nodes, Leads listed i j := by
  induction marks, nodes using visitAll_induction listed with
  | nil marks =>
    rw [visitAll_nil, before] at after
    cases after
  | fresh marks i rest fresh inputs later =>
    rw [visitAll_cons_of_fresh fresh] at after ⊢
    by_cases same : i = j
    · subst same
      have here : (finish listed (visitInputs listed marks i) i).get i =
          .ranked (depthAbove (visitInputs listed marks i) (listed i)) := get_finish_self _ i
      have kept : (visitAll listed (finish listed (visitInputs listed marks i) i) rest).get i =
          (finish listed (visitInputs listed marks i) i).get i :=
        get_visitAll_of_not_fresh (by rw [here]; rfl) rest
      exact ⟨⟨_, kept.trans here⟩, i, List.mem_cons_self .., .refl⟩
    · have finished : (finish listed (visitInputs listed marks i) i).get j =
          (visitInputs listed marks i).get j := get_finish_of_ne same
      by_cases still : ((visitInputs listed marks i).get j).isFresh = true
      · obtain ⟨ranked, start, member, path⟩ := later (by rw [finished, still]) after
        exact ⟨ranked, start, List.mem_cons_of_mem i member, path⟩
      · rw [Bool.not_eq_true] at still
        have opened : ((marks.opened i).get j).isFresh = true := by
          rw [get_opened_of_ne same, before]
        obtain ⟨⟨depth, ranked⟩, start, member, path⟩ := inputs _ opened still
        have kept : (visitAll listed (finish listed (visitInputs listed marks i) i) rest).get j =
            (finish listed (visitInputs listed marks i) i).get j :=
          get_visitAll_of_not_fresh (by rw [finished, still]) rest
        exact ⟨⟨depth, by rw [kept, finished]; exact ranked⟩, i, List.mem_cons_self ..,
          .head member path⟩
  | reached marks i rest old later =>
    rw [visitAll_cons_of_not_fresh old] at after ⊢
    obtain ⟨ranked, start, member, path⟩ := later before after
    exact ⟨ranked, start, List.mem_cons_of_mem i member, path⟩

/-- No node is left waiting but those that waited before. -/
theorem waiting_of_visitAll {nodes : List (Fin n)} {j : Fin n}
    (waits : (visitAll listed marks nodes).get j = .waiting) : marks.get j = .waiting := by
  by_cases before : (marks.get j).isFresh = true
  · obtain ⟨⟨depth, ranked⟩, -⟩ := ranked_of_reached before (by rw [waits]; rfl)
    rw [waits] at ranked
    cases ranked
  · rw [Bool.not_eq_true] at before
    rwa [get_visitAll_of_not_fresh before] at waits

/-! ### What the depths say -/

/-- What the depth of a node says of its inputs: those that do not lead back to it are ranked less
deep, and unless the depth is 0 one of them is ranked one less deep. -/
structure Settled (listed : Fin n → List (Fin n)) (marks : Marks n) (i : Fin n) (depth : Nat) :
    Prop where
  below : ∀ j ∈ listed i, ¬Leads listed j i → ∃ lower < depth, marks.get j = .ranked lower
  next : ∀ lower, depth = lower + 1 → ∃ j ∈ listed i, marks.get j = .ranked lower

/-- All depths say what they should. -/
def Sound (listed : Fin n → List (Fin n)) (marks : Marks n) : Prop :=
  ∀ i depth, marks.get i = .ranked depth → Settled listed marks i depth

theorem Settled.mono {i : Fin n} {depth : Nat} (h : Settled listed marks i depth)
    {after : Marks n} (kept : ∀ j depth, marks.get j = .ranked depth → after.get j = .ranked depth) :
    Settled listed after i depth where
  below := by
    intro j member away
    obtain ⟨lower, less, ranked⟩ := h.below j member away
    exact ⟨lower, less, kept j lower ranked⟩
  next := by
    intro lower succ
    obtain ⟨j, member, ranked⟩ := h.next lower succ
    exact ⟨j, member, kept j lower ranked⟩

theorem sound_unreached (listed : Fin n → List (Fin n)) : Sound listed (unreached n) := by
  intro i depth ranked
  rw [get_unreached] at ranked
  cases ranked

/-- Marking a node that was not ranked keeps sound depths, if its own depth is sound. -/
theorem Sound.set (sound : Sound listed marks) {i : Fin n} (unranked : (marks.get i).depth? = none)
    {mark : Mark} (here : ∀ depth, mark = .ranked depth → Settled listed marks i depth) :
    Sound listed (marks.set i mark i.isLt) := by
  have kept : ∀ j depth, marks.get j = .ranked depth →
      (marks.set i mark i.isLt).get j = .ranked depth := by
    intro j depth ranked
    have different : i ≠ j := by
      rintro rfl
      rw [ranked] at unranked
      cases unranked
    rw [get_set_of_ne different, ranked]
  intro j depth ranked
  by_cases same : i = j
  · subst same
    rw [get_set_self] at ranked
    exact (here depth ranked).mono kept
  · rw [get_set_of_ne same] at ranked
    exact (sound j depth ranked).mono kept

theorem Sound.opened (sound : Sound listed marks) {i : Fin n}
    (fresh : (marks.get i).isFresh = true) : Sound listed (marks.opened i) := by
  have unranked : (marks.get i).depth? = none := by
    cases mark : marks.get i with
    | fresh => rfl
    | waiting => rfl
    | ranked depth =>
      rw [mark] at fresh
      cases fresh
  apply sound.set unranked
  intro depth ranked
  cases ranked

/-- Ranking a node above its ranked inputs is sound once all its inputs were reached and those that
wait lead to it. -/
theorem Sound.finish (sound : Sound listed marks) {i : Fin n} (waits : marks.get i = .waiting)
    (reached : ∀ j ∈ listed i, (marks.get j).isFresh = false)
    (ancestors : ∀ j, marks.get j = .waiting → Leads listed j i) :
    Sound listed (finish listed marks i) := by
  apply sound.set (by rw [waits]; rfl)
  intro depth ranked
  cases ranked
  constructor
  · intro j member away
    cases mark : marks.get j with
    | fresh =>
      have old := reached j member
      rw [mark] at old
      cases old
    | waiting => exact absurd (ancestors j mark) away
    | ranked lower => exact ⟨lower, lt_depthAbove member mark, rfl⟩
  · intro lower succ
    exact exists_of_depthAbove_eq_succ succ

/-- Visiting nodes keeps sound depths, if all nodes that wait lead to them. -/
theorem sound_visitAll {nodes : List (Fin n)} (sound : Sound listed marks)
    (ancestors : ∀ j, marks.get j = .waiting → ∀ i ∈ nodes, Leads listed j i) :
    Sound listed (visitAll listed marks nodes) := by
  induction marks, nodes using visitAll_induction listed with
  | nil marks =>
    rw [visitAll_nil]
    exact sound
  | fresh marks i rest fresh inputs later =>
    rw [visitAll_cons_of_fresh fresh]
    have here : ∀ j, (marks.opened i).get j = .waiting → Leads listed j i := by
      intro j waits
      by_cases same : i = j
      · subst same
        exact .refl
      · rw [get_opened_of_ne same] at waits
        exact ancestors j waits i (List.mem_cons_self ..)
    have below : Sound listed (visitInputs listed marks i) := by
      apply inputs (listed i) (sound.opened fresh)
      intro j waits k member
      exact (here j waits).tail member
    have finished : Sound listed (Marks.finish listed (visitInputs listed marks i) i) := by
      apply below.finish (get_visitInputs_self marks i)
      · intro j member
        exact reached_visitAll member
      · intro j waits
        exact here j (waiting_of_visitAll waits)
    apply later finished
    intro j waits k member
    have different : i ≠ j := by
      rintro rfl
      rw [get_finish_self] at waits
      cases waits
    rw [get_finish_of_ne different] at waits
    have opened := waiting_of_visitAll waits
    rw [get_opened_of_ne different] at opened
    exact ancestors j opened k (List.mem_cons_of_mem i member)
  | reached marks i rest old later =>
    rw [visitAll_cons_of_not_fresh old]
    apply later sound
    intro j waits k member
    exact ancestors j waits k (List.mem_cons_of_mem i member)

/-- Below a depth there are all lower ones. -/
theorem Sound.exists_ranked (sound : Sound listed marks) {i : Fin n} {depth lower : Nat}
    (ranked : marks.get i = .ranked depth) (low : lower ≤ depth) :
    ∃ j, marks.get j = .ranked lower := by
  induction depth generalizing i with
  | zero =>
    obtain rfl := Nat.le_zero.1 low
    exact ⟨i, ranked⟩
  | succ depth ih =>
    rcases Nat.lt_or_eq_of_le low with less | rfl
    · obtain ⟨j, -, next⟩ := (sound i _ ranked).next depth rfl
      exact ih next (Nat.le_of_lt_succ less)
    · exact ⟨i, ranked⟩

/-- There are more ranked nodes than the depth of any of them. -/
theorem Sound.lt_length (sound : Sound listed marks) {nodes : List (Fin n)}
    (all : ∀ j depth, marks.get j = .ranked depth → j ∈ nodes) {i : Fin n} {depth : Nat}
    (ranked : marks.get i = .ranked depth) : depth < nodes.length := by
  have depths : List.range (depth + 1) ⊆ nodes.filterMap fun j => (marks.get j).depth? := by
    intro lower member
    obtain ⟨j, given⟩ :=
      sound.exists_ranked ranked (Nat.le_of_lt_succ (List.mem_range.1 member))
    exact mem_depths.2 ⟨j, all j lower given, given⟩
  have count := List.nodup_range.length_le_of_subset depths
  rw [List.length_range] at count
  exact Nat.lt_of_lt_of_le (Nat.lt_of_succ_le count) (List.length_filterMap_le _ _)

/-- A group that holds the inputs of its members is ranked, and no other node is. -/
theorem ranked_iff_mem {group : List (Fin n)} (closed : ∀ i ∈ group, ∀ j ∈ listed i, j ∈ group)
    (i : Fin n) :
    (((unreached n).visitAll listed group).get i).depth?.isSome = true ↔ i ∈ group := by
  have fresh : ((unreached n).get i).isFresh = true := by
    rw [get_unreached]
    rfl
  constructor
  · intro ranked
    have reached : (((unreached n).visitAll listed group).get i).isFresh = false := by
      cases mark : ((unreached n).visitAll listed group).get i with
      | fresh =>
        rw [mark] at ranked
        cases ranked
      | waiting => rfl
      | ranked depth => rfl
    obtain ⟨-, start, member, path⟩ := ranked_of_reached fresh reached
    clear ranked reached fresh
    induction path with
    | refl => exact member
    | tail path last ih => exact closed _ ih _ last
  · intro member
    obtain ⟨⟨depth, ranked⟩, -⟩ := ranked_of_reached fresh (reached_visitAll member)
    rw [ranked]
    rfl

end Marks

/-- The depths that a search finds are sound. -/
theorem Links.sound_rank {n : Nat} (l : Links n) (nodes : List (Fin n)) :
    Marks.Sound l.listed (l.rank nodes) := by
  rw [rank_eq_visitAll]
  apply Marks.sound_visitAll (Marks.sound_unreached l.listed)
  intro j waits
  rw [Marks.get_unreached] at waits
  cases waits

namespace Graph

variable {g : Graph} {group : List (Fin g.size)}

/-- The depths of a group. A node has one if it is a member; an input that the node does not lead
back to is less deep; depths go down to 0 in steps of one, so there are as many members as depths at
least; and if no member leads back to itself, the depth of a node is the length of the longest chain
of inputs that leads to it. -/
structure Ranking (g : Graph) (group : List (Fin g.size)) (depth? : Fin g.size → Option Nat) :
    Prop where
  isSome_iff : ∀ i, (depth? i).isSome = true ↔ i ∈ group
  input_lt : ∀ i ∈ group, ∀ j, g.HasInput i j → ¬Relation.ReflTransGen g.HasInput j i →
    ∃ lower depth, depth? j = some lower ∧ depth? i = some depth ∧ lower < depth
  exists_input : ∀ i depth, depth? i = some (depth + 1) →
    ∃ j, g.HasInput i j ∧ depth? j = some depth
  filled : ∀ i depth, depth? i = some depth → ∀ lower ≤ depth, ∃ j ∈ group, depth? j = some lower
  lt_length : ∀ i depth, depth? i = some depth → depth < group.length
  longest : (∀ i ∈ group, ¬Relation.TransGen g.HasInput i i) →
    ∀ i depth, depth? i = some depth →
      IsGreatest {length | ∃ chain, List.IsChain g.HasInput (i :: chain) ∧ chain.length = length}
        depth

/-- The depth of a node after some nodes of the graph were ranked. -/
def depth? (g : Graph) (nodes : List (Fin g.size)) (i : Fin g.size) : Option Nat :=
  (((Links.ofGraph g).rank nodes).get i).depth?

theorem linked_of_hasInput {i j : Fin g.size} (h : g.HasInput i j) : g.Linked i j := by
  obtain ⟨other, e, member, carrier⟩ := h
  refine ⟨other.symm, .inl ⟨e, ?_, carrier⟩⟩
  rw [Node.edges]
  exact List.mem_append_left _ member

/-- A group holds the inputs of its members. -/
theorem mem_group_of_hasInput (isGroup : group ∈ (Links.ofGraph g).groups) {i j : Fin g.size}
    (member : i ∈ group) (input : g.HasInput i j) : j ∈ group :=
  Links.mem_group_of_adjacent isGroup member
    (Links.adjacent_ofGraph_iff.2 (linked_of_hasInput input))

theorem leads_listedInputs :
    Marks.Leads g.listedInputs = Relation.ReflTransGen g.HasInput := by
  have inputs : (fun i j => j ∈ g.listedInputs i) = g.HasInput := by
    funext i j
    exact propext mem_listedInputs
  rw [← inputs]
  rfl

theorem depth?_eq_some_iff {nodes : List (Fin g.size)} {i : Fin g.size} {depth : Nat} :
    g.depth? nodes i = some depth ↔ ((Links.ofGraph g).rank nodes).get i = .ranked depth :=
  Mark.depth?_eq_some_iff

theorem sound_rank (g : Graph) (nodes : List (Fin g.size)) :
    Marks.Sound g.listedInputs ((Links.ofGraph g).rank nodes) := by
  rw [← Links.listed_ofGraph]
  exact (Links.ofGraph g).sound_rank nodes

theorem depth?_isSome_iff (isGroup : group ∈ (Links.ofGraph g).groups) (i : Fin g.size) :
    (g.depth? group i).isSome = true ↔ i ∈ group := by
  rw [depth?, Links.rank_eq_visitAll, Links.listed_ofGraph]
  apply Marks.ranked_iff_mem
  intro i member j input
  exact mem_group_of_hasInput isGroup member (mem_listedInputs.1 input)

theorem mem_group_of_depth? (isGroup : group ∈ (Links.ofGraph g).groups) {i : Fin g.size}
    {depth : Nat} (ranked : g.depth? group i = some depth) : i ∈ group := by
  rw [← depth?_isSome_iff isGroup, ranked]
  rfl

theorem depth?_input_lt {nodes : List (Fin g.size)} {i j : Fin g.size} {depth : Nat}
    (ranked : g.depth? nodes i = some depth) (input : g.HasInput i j)
    (away : ¬Relation.ReflTransGen g.HasInput j i) :
    ∃ lower < depth, g.depth? nodes j = some lower := by
  simp only [depth?_eq_some_iff] at ranked ⊢
  rw [← leads_listedInputs] at away
  exact (g.sound_rank nodes i depth ranked).below j (mem_listedInputs.2 input) away

theorem exists_input_of_depth? {nodes : List (Fin g.size)} {i : Fin g.size} {depth : Nat}
    (ranked : g.depth? nodes i = some (depth + 1)) :
    ∃ j, g.HasInput i j ∧ g.depth? nodes j = some depth := by
  simp only [depth?_eq_some_iff, ← mem_listedInputs] at ranked ⊢
  exact (g.sound_rank nodes i _ ranked).next depth rfl

/-- A chain of inputs that leads to a node is no longer than the depth of the node, if no member of
the group leads back to itself. -/
theorem length_le_depth (isGroup : group ∈ (Links.ofGraph g).groups)
    (acyclic : ∀ i ∈ group, ¬Relation.TransGen g.HasInput i i) {chain : List (Fin g.size)}
    {i : Fin g.size} {depth : Nat} (ranked : g.depth? group i = some depth)
    (isChain : List.IsChain g.HasInput (i :: chain)) : chain.length ≤ depth := by
  induction chain generalizing i depth with
  | nil => exact Nat.zero_le depth
  | cons j chain ih =>
    obtain ⟨input, rest⟩ := List.isChain_cons_cons.1 isChain
    have away : ¬Relation.ReflTransGen g.HasInput j i := by
      intro back
      exact acyclic i (mem_group_of_depth? isGroup ranked) (.head' input back)
    obtain ⟨lower, less, given⟩ := depth?_input_lt ranked input away
    have shorter := ih given rest
    rw [List.length_cons]
    omega

/-- A chain of inputs as long as the depth of a node leads to it. -/
theorem exists_chain {nodes : List (Fin g.size)} {i : Fin g.size} {depth : Nat}
    (ranked : g.depth? nodes i = some depth) :
    ∃ chain, List.IsChain g.HasInput (i :: chain) ∧ chain.length = depth := by
  induction depth generalizing i with
  | zero => exact ⟨[], .singleton i, rfl⟩
  | succ depth ih =>
    obtain ⟨j, input, next⟩ := exists_input_of_depth? ranked
    obtain ⟨chain, isChain, length⟩ := ih next
    exact ⟨j :: chain, List.isChain_cons_cons.2 ⟨input, isChain⟩, by rw [List.length_cons, length]⟩

/-- The depths of each group are sound, whether or not its inputs form cycles. -/
theorem ranking_depth? (isGroup : group ∈ (Links.ofGraph g).groups) :
    g.Ranking group (g.depth? group) where
  isSome_iff := depth?_isSome_iff isGroup
  input_lt := by
    intro i member j input away
    obtain ⟨depth, ranked⟩ := Option.isSome_iff_exists.1 ((depth?_isSome_iff isGroup i).2 member)
    obtain ⟨lower, less, given⟩ := depth?_input_lt ranked input away
    exact ⟨lower, depth, given, ranked, less⟩
  exists_input := by
    intro i depth ranked
    exact exists_input_of_depth? ranked
  filled := by
    intro i depth ranked lower low
    obtain ⟨j, given⟩ := (g.sound_rank group).exists_ranked (depth?_eq_some_iff.1 ranked) low
    rw [← depth?_eq_some_iff] at given
    exact ⟨j, mem_group_of_depth? isGroup given, given⟩
  lt_length := by
    intro i depth ranked
    apply (g.sound_rank group).lt_length _ (depth?_eq_some_iff.1 ranked)
    intro j lower given
    exact mem_group_of_depth? isGroup (depth?_eq_some_iff.2 given)
  longest := by
    intro acyclic i depth ranked
    constructor
    · exact exists_chain ranked
    · rintro length ⟨chain, isChain, rfl⟩
      exact length_le_depth isGroup acyclic ranked isChain

/-- Three nodes in a ring of inputs, a node with an input in the ring, and a node by itself. -/
def ringGraph : Graph := .ofNodes
  [{ id := "1", type := "A", inputs := [{ id := "3" }] },
    { id := "2", type := "A", inputs := [{ id := "1" }] },
    { id := "3", type := "A", inputs := [{ id := "2" }] },
    { id := "4", type := "A", specials := [{ id := "3" }] },
    { id := "5", type := "A", inputs := [{ id := "_" }] }]

theorem ranking_depth?_ringGraph :
    (List.finRange ringGraph.size).take 4 ∈ (Links.ofGraph ringGraph).groups ∧
      ringGraph.Ranking ((List.finRange ringGraph.size).take 4)
        (ringGraph.depth? ((List.finRange ringGraph.size).take 4)) := by
  have isGroup : (List.finRange ringGraph.size).take 4 ∈ (Links.ofGraph ringGraph).groups := by
    rw [Links.ofGraph_eq]
    decide
  exact ⟨isGroup, ranking_depth? isGroup⟩

-- The search begins at the first node and finds it waiting, so the ring is cut below the second.
example : (List.finRange ringGraph.size).map
    (ringGraph.depth? ((List.finRange ringGraph.size).take 4)) =
      [some 2, some 0, some 1, some 2, none] := by
  unfold depth?
  rw [Links.ofGraph_eq]
  cbv

end Graph
end IrChart
