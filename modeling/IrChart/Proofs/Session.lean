import IrChart.Proofs.Dump.Drafts
import IrChart.Proofs.Dump.Warnings
import IrChart.Proofs.Graph.Resolve
import IrChart.Session

/-!
# Sessions

What the graph of a parsed dump promises, and what a session makes of it.
-/

namespace IrChart

/-! ## Graphs of parsed dumps

Whatever lines a dump has, its graph has nodes with different numerals for ids, the types of all
nodes, and edges typed by the nodes they refer to (`parsed_of_parseSourceLines`).
-/

/-- What every graph of a parsed dump satisfies. -/
structure Graph.Parsed (g : Graph) : Prop where
  nonempty : g.nodes ≠ []
  distinct : g.ids.Nodup
  numeral : ∀ id ∈ g.ids, isNumeral id = true
  real : nullId ∉ g.ids
  named : "" ∉ g.ids
  typed : ∀ node ∈ g.nodes, node.type ∈ g.types.toList
  type_null : ∀ e ∈ g.edges, e.id = nullId → e.type = nullType
  type_node : ∀ e ∈ g.edges, ∀ node ∈ g.nodes, node.id = e.id → e.type = node.type
  type_unknown : ∀ e ∈ g.edges, e.id ≠ nullId → e.id ∉ g.ids → e.type = unknownType

namespace Draft

theorem type_of_mem_edges_resolveEdges {d : Draft} (h : d.Valid) {e : Edge}
    (member : e ∈ d.graph.resolveEdges.edges) :
    e.type = if e.id = nullId then nullType
      else ((d.graph.node? e.id).map (·.type)).getD unknownType := by
  rw [Graph.edges_resolveEdges] at member
  obtain ⟨e', inEdges, rfl⟩ := List.mem_map.1 member
  obtain ⟨node, inNodes, inNode⟩ := List.mem_flatMap.1 inEdges
  rw [Graph.resolvedType_index, h.untyped node inNodes e' inNode]

theorem Valid.not_mem_ids {d : Draft} (h : d.Valid) {id : String} (other : isNumeral id = false) :
    id ∉ d.ids := by
  intro member
  obtain ⟨node, inNodes, rfl⟩ := List.mem_map.1 member
  rw [h.numeral node inNodes] at other
  cases other

/-- Resolving a draft with a node gives a graph as it should be. -/
theorem Valid.parsed_resolveEdges {d : Draft} (h : d.Valid) (nonempty : d.nodes.toList ≠ []) :
    d.graph.resolveEdges.Parsed := by
  have ids : d.graph.resolveEdges.ids = d.ids := d.graph.ids_resolveEdges
  have numeral : ∀ id ∈ d.ids, isNumeral id = true := by
    intro id member
    obtain ⟨node, inNodes, rfl⟩ := List.mem_map.1 member
    exact h.numeral node inNodes
  have real : nullId ∉ d.ids := h.not_mem_ids (by decide)
  have named : "" ∉ d.ids := h.not_mem_ids (by decide)
  have unwrap : ∀ node ∈ d.graph.resolveEdges.nodes,
      ∃ node' ∈ d.graph.nodes, node'.id = node.id ∧ node'.type = node.type := by
    intro node member
    obtain ⟨node', inNodes, rfl⟩ := List.mem_map.1 member
    exact ⟨node', inNodes, rfl, rfl⟩
  constructor
  · intro empty
    exact nonempty (List.map_eq_nil_iff.1 empty)
  · rw [ids]
    exact h.nodup
  · rw [ids]
    exact numeral
  · rwa [ids]
  · rwa [ids]
  · intro node member
    obtain ⟨node', inNodes, -, type⟩ := unwrap node member
    rw [← type]
    exact h.typed node' inNodes
  · intro e member null
    rw [type_of_mem_edges_resolveEdges h member, if_pos null]
  · intro e member node inGraph refers
    obtain ⟨node', inNodes, id, type⟩ := unwrap node inGraph
    have own : e.id ∈ d.ids := List.mem_map.2 ⟨node', inNodes, id.trans refers⟩
    have present : e.id ≠ nullId := by
      intro null
      rw [null] at own
      exact real own
    have first := Graph.node?_of_mem (g := d.graph) h.nodup inNodes
    rw [type_of_mem_edges_resolveEdges h member, if_neg present, ← refers, ← id, first, ← type]
    rfl
  · intro e member present absent
    rw [ids] at absent
    rw [type_of_mem_edges_resolveEdges h member, if_neg present, Graph.node?_of_not_mem absent]
    rfl

end Draft

namespace Dump

/-- The graph of every dump that was parsed is as it should be. -/
theorem parsed_of_parseSourceLines {lines : List SourceLine} {dump : ParsedDump}
    (done : parseSourceLines lines = .ok dump) : dump.graph.Parsed := by
  simp only [parseSourceLines_eq] at done
  split at done
  · cases done
  · rename_i some
    cases done
    apply (Draft.valid_ofLines _).parsed_resolveEdges
    intro empty
    rw [← Array.isEmpty_toList, empty] at some
    exact some rfl

end Dump

/-! ## What the steps answer

A dump that is refused is not processed and leaves the session as it was
(`run_process_of_error`); any other dump is colored first and then placed (`run_process_of_ok`).
-/

namespace Session

/-- A draw takes its words from the generator of the session. -/
theorem run_draw {α : Type} (d : Random.Draw α) (s : Session) :
    (draw d).run s = ((d.run s.generator).1, { s with generator := (d.run s.generator).2 }) := rfl

theorem run_layoutWith (g : Graph) (method : Method) (s : Session) :
    ((layoutWith g method).run s).1 =
      ((Layout.compute g method).run s.generator).1.mapError
        fun fault => .layout (fault.message method) := rfl

/-- A dump that is refused is not processed. -/
theorem run_process_of_error {source : String} {failure : Failure}
    (refused : parse source = .error failure) (s : Session) :
    (process source).run s = (.error failure, s) := by
  unfold process
  rw [refused]
  rfl

/-- A dump that is parsed is colored first and then placed, by the method of the session. -/
theorem run_process_of_ok {source : String} {dump : ParsedDump} (parsed : parse source = .ok dump)
    (s : Session) :
    ((process source).run s).1 =
      match ((Layout.compute dump.graph s.config.method).run
        ((Coloring.assign dump.graph).run s.generator).2).1 with
      | .error fault => .error (.layout (fault.message s.config.method))
      | .ok placement => .ok
        { dump
          coloring := ((Coloring.assign dump.graph).run s.generator).1
          method := s.config.method
          placement } := by
  unfold process
  rw [parsed]
  generalize colored : (Coloring.assign dump.graph).run s.generator = coloring
  have color : (colorize dump.graph).run s =
      pure (coloring.1, { s with generator := coloring.2 }) := by
    rw [colorize, run_draw, colored]
    rfl
  generalize placed : (layoutWith dump.graph s.config.method).run
    { s with generator := coloring.2 } = placement
  have place : (layoutWith dump.graph s.config.method).run { s with generator := coloring.2 } =
      pure placement := placed
  have layout := congrArg Prod.fst placed
  rw [run_layoutWith] at layout
  simp only [StateT.run_bind, color, StateT.run_get, place, pure_bind, ← layout]
  cases ((Layout.compute dump.graph s.config.method).run coloring.2).1 <;> rfl

/-- A session parses what a dump parser parses. -/
theorem parse_eq_ok_iff {source : String} {dump : ParsedDump} :
    parse source = .ok dump ↔ Dump.parse source = .ok dump := by
  unfold parse
  cases Dump.parse source with
  | error failure => simp [Except.mapError]
  | ok dump' => simp [Except.mapError]

theorem parsed_of_parse {source : String} {dump : ParsedDump} (parsed : parse source = .ok dump) :
    dump.graph.Parsed :=
  Dump.parsed_of_parseSourceLines (parse_eq_ok_iff.1 parsed)

end Session
end IrChart
