import IrChart.Graph.Basic
import IrChart.Proofs.Dump.Drafts
import IrChart.Proofs.Graph.Resolve

/-!
# The first definition wins

What becomes of the lines of a node dump, line by line. The types of a graph are those that its
lines name (`types_ofLines`), and its nodes are those that its lines give, but for nodes with the id
of an earlier one (`nodes_ofLines`). So the words of the lines decide on the graph up to the numbers
of the lines (`unnumbered_graph_ofLines`).
-/

namespace IrChart

/-- The type that a record names, if the record gets as far as its type. -/
def Record.Reading.type? : Reading → Option String
  | incomplete _ type _ => some type
  | complete record => some record.type
  | _ => none

/-- The type that a line names. -/
def SourceLine.type? (line : SourceLine) : Option String :=
  (Record.Reading.ofWords line.words).type?

namespace Node

/-- The later node has the id of the first one. -/
def isRepeatOf (later first : Node) : Bool := later.id == first.id

/-- The node without the number of its line. -/
def unnumbered (node : Node) : Node := { node with line := 0 }

/-- Numbers of lines do not matter for which nodes are repeats. -/
theorem eraseDupsBy_map_unnumbered (nodes : List Node) :
    (nodes.map unnumbered).eraseDupsBy isRepeatOf =
      (nodes.eraseDupsBy isRepeatOf).map unnumbered := by
  cases nodes with
  | nil => rfl
  | cons node rest =>
    have later := eraseDupsBy_map_unnumbered (rest.filter fun later => later.isRepeatOf node = false)
    rw [List.map_cons, List.eraseDupsBy_cons, List.filter_map, List.eraseDupsBy_cons,
      List.map_cons, ← later]
    rfl
termination_by nodes.length
decreasing_by
  exact Nat.lt_succ_of_le (List.length_filter_le _ _)

end Node

/-- The graph without the numbers of lines. -/
def Graph.unnumbered (g : Graph) : Graph := { g with nodes := g.nodes.map (·.unnumbered) }

/-- The types of edges do not depend on the numbers of lines. -/
theorem Graph.unnumbered_resolveEdges (g : Graph) :
    g.resolveEdges.unnumbered = g.unnumbered.resolveEdges := by
  have types : resolvedType g.unnumbered.index = resolvedType g.index :=
    resolvedType_congr (map_type_node?_map rfl (fun _ => rfl) fun _ => rfl)
  simp only [resolveEdges, types]
  simp only [unnumbered, List.map_map]
  rfl

namespace Draft

/-! ### Types -/

@[simp] theorem types_add (d : Draft) (record : Record) (line : SourceLine) :
    (d.add record line).types = d.types := by
  unfold add
  split <;> rfl

/-- A line adds the type that it names. -/
theorem types_step (d : Draft) (line : SourceLine) :
    (d.step line).types = line.type?.elim d.types d.types.insert := by
  unfold step SourceLine.type?
  cases Record.Reading.ofWords line.words with
  | other => rfl
  | headless => rfl
  | incomplete id type gap => rfl
  | complete record => exact types_add _ record line

theorem types_foldl_step (d : Draft) (lines : List SourceLine) :
    (lines.foldl step d).types = (lines.filterMap (·.type?)).foldl Distinct.insert d.types := by
  induction lines generalizing d with
  | nil => rfl
  | cons line lines ih =>
    rw [List.foldl_cons, ih, types_step]
    cases named : line.type? with
    | none => rw [List.filterMap_cons_none named, Option.elim_none]
    | some type => rw [List.filterMap_cons_some named, List.foldl_cons, Option.elim_some]

/-- The types are those that the lines name, in the order in which they are first named. -/
theorem types_ofLines (lines : List SourceLine) :
    (ofLines lines).types = .ofList (lines.filterMap (·.type?)) := types_foldl_step {} lines

/-! ### Nodes -/

/-- A line adds the node that it gives, unless an earlier node has its id. -/
theorem nodes_step {d : Draft} (h : d.Valid) (line : SourceLine) :
    (d.step line).nodes.toList =
      d.nodes.toList ++ (line.node?.filter fun node => node.id ∉ d.ids).toList := by
  unfold step SourceLine.node?
  cases Record.Reading.ofWords line.words with
  | other => simp [Record.Reading.record?]
  | headless => simp [Record.Reading.record?]
  | incomplete id type gap => simp [Record.Reading.record?]
  | complete record =>
    have id (number : Nat) : (record.node number).id = record.id := rfl
    by_cases taken : record.id ∈ d.firsts
    · obtain ⟨w, same⟩ := add_of_mem (d := d.noteType record.type) line taken
      have known := (h.mem_firsts record.id).1 taken
      simp [same, Record.Reading.record?, Option.filter, id, known]
    · have free : record.id ∉ (d.noteType record.type).firsts := taken
      have fresh : record.id ∉ d.ids := fun member => taken ((h.mem_firsts _).2 member)
      simp [add_of_not_mem line free, Record.Reading.record?, Option.filter, id, fresh]

theorem nodes_foldl_step {d : Draft} (h : d.Valid) (lines : List SourceLine) :
    (lines.foldl step d).nodes.toList = d.nodes.toList ++
      ((lines.filterMap (·.node?)).filter fun node => node.id ∉ d.ids).eraseDupsBy
        Node.isRepeatOf := by
  induction lines generalizing d with
  | nil => simp
  | cons line lines ih =>
    have nodes := nodes_step h line
    rw [List.foldl_cons, ih (h.step line)]
    cases given : line.node? with
    | none =>
      have same : (d.step line).nodes.toList = d.nodes.toList := by simpa [given] using nodes
      rw [List.filterMap_cons_none given, ids, same, ids]
    | some node =>
      rw [List.filterMap_cons_some given]
      by_cases known : node.id ∈ d.ids
      · have same : (d.step line).nodes.toList = d.nodes.toList := by
          simpa [given, known, Option.filter] using nodes
        rw [List.filter_cons_of_neg (by simpa using known), ids, same, ids]
      · have grown : (d.step line).nodes.toList = d.nodes.toList ++ [node] := by
          simpa [given, known, Option.filter] using nodes
        -- What the new node makes a repeat is what its id, now taken, keeps out.
        have kept (later : Node) :
            decide (later.id ∉ (d.step line).ids) =
              (decide (later.isRepeatOf node = false) && decide (later.id ∉ d.ids)) := by
          by_cases repeats : later.id = node.id <;> simp [Node.isRepeatOf, ids, grown, repeats]
        rw [List.filter_cons_of_pos (by simpa using known), List.eraseDupsBy_cons,
          List.filter_filter, grown, List.append_assoc]
        simp only [kept]
        rfl

/-- The nodes are those that the lines give, but for nodes with the id of an earlier one. -/
theorem nodes_ofLines (lines : List SourceLine) :
    (ofLines lines).nodes.toList = (lines.filterMap (·.node?)).eraseDupsBy Node.isRepeatOf := by
  have run := nodes_foldl_step valid_empty lines
  have all : (lines.filterMap (·.node?)).filter (fun node => node.id ∉ ids {}) =
      lines.filterMap (·.node?) := List.filter_eq_self.2 fun node _ => by simp [ids]
  rwa [all] at run

/-! ### Graphs of words -/

theorem filterMap_type?_eq (lines : List SourceLine) :
    lines.filterMap (·.type?) =
      (lines.map (·.words)).filterMap fun ws => (Record.Reading.ofWords ws).type? := by
  rw [List.filterMap_map]
  rfl

theorem map_unnumbered_filterMap_node?_eq (lines : List SourceLine) :
    (lines.filterMap (·.node?)).map (·.unnumbered) =
      (lines.map (·.words)).filterMap fun ws =>
        (Record.Reading.ofWords ws).record?.map (·.node 0) := by
  rw [List.map_filterMap, List.filterMap_map]
  congr 1
  funext line
  rw [SourceLine.node?, Option.map_map]
  rfl

/-- Lines with the same words give the same graph, up to the numbers of the lines. -/
theorem unnumbered_graph_ofLines {lines lines' : List SourceLine}
    (same : lines.map (·.words) = lines'.map (·.words)) :
    (ofLines lines).graph.unnumbered = (ofLines lines').graph.unnumbered := by
  simp only [Graph.unnumbered, graph, nodes_ofLines, types_ofLines, filterMap_type?_eq,
    ← Node.eraseDupsBy_map_unnumbered, map_unnumbered_filterMap_node?_eq, same]

end Draft
end IrChart
