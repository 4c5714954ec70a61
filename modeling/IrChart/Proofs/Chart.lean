import IrChart.Proofs.Coloring
import IrChart.Proofs.Dump.RoundTrip
import IrChart.Proofs.Layout.Coverage
import IrChart.Proofs.Session
import Mathlib.Data.Nat.Sqrt

/-!
# Charts are consistent

The maps of a chart fit its graph, for every source, every method and every state of the generator
(`consistent_of_process`): whoever draws the chart finds a place and colors for each node, and
colors for the label of each edge.
-/

namespace IrChart

/-- What a chart promises to those who draw it. -/
structure Chart.Consistent (chart : Chart) : Prop where
  graph : chart.dump.graph.Parsed
  colored : chart.coloring.nodes.keys = chart.dump.graph.ids
  placed : chart.placement.keys = chart.dump.graph.ids
  labelled : ∀ e ∈ chart.dump.graph.edges, e.type ∈ chart.coloring.types.keys
  neutral : ∀ e ∈ chart.dump.graph.edges, e.id ∉ chart.dump.graph.ids →
    chart.coloring.type? e.type = some .neutral ∧ chart.coloring.nodeOrNeutral e.id = .neutral

namespace Graph.Parsed

variable {g : Graph}

/-- An edge that refers to no node has a reserved label for its type. -/
theorem type_mem_reservedTypes (h : g.Parsed) {e : Edge} (member : e ∈ g.edges)
    (absent : e.id ∉ g.ids) : e.type ∈ reservedTypes := by
  by_cases null : e.id = nullId
  · rw [h.type_null e member null]
    decide
  · rw [h.type_unknown e member null absent]
    decide

/-- The type of every edge is one of the labels that get colors. -/
theorem type_mem_labels (h : g.Parsed) {e : Edge} (member : e ∈ g.edges) :
    e.type ∈ Coloring.labels g := by
  by_cases present : e.id ∈ g.ids
  · obtain ⟨node, inNodes, refers⟩ := List.mem_map.1 present
    rw [h.type_node e member node inNodes refers]
    exact List.mem_append_left _ (h.typed node inNodes)
  · exact List.mem_append_right _ (h.type_mem_reservedTypes member present)

end Graph.Parsed

namespace Session

/-- The maps of a parsed graph are consistent with it, if the layout places every node. -/
theorem consistent_of_parsed {dump : ParsedDump} (graph : dump.graph.Parsed)
    (generator : Random.Generator) (method : Method) {placement : Placement}
    (placed : placement.keys = (Distinct.ofList dump.graph.ids).toList) :
    Chart.Consistent ⟨dump, ((Coloring.assign dump.graph).run generator).1, method, placement⟩ := by
  have ids : (Distinct.ofList dump.graph.ids).toList = dump.graph.ids :=
    Distinct.toList_ofList graph.distinct
  have colored := Coloring.keys_nodes_assign dump.graph generator
  rw [ids] at colored placed
  refine ⟨graph, colored, placed, ?_, ?_⟩
  · intro e member
    rw [Coloring.mem_keys_types_assign]
    exact graph.type_mem_labels member
  · intro e member absent
    refine ⟨?_, ?_⟩
    · exact Coloring.type?_assign_of_reserved _ _ (graph.type_mem_reservedTypes member absent)
    · rw [← colored] at absent
      show (((Coloring.assign dump.graph).run generator).1.nodes.get? e.id).getD .neutral = .neutral
      rw [Keyed.get?_eq_none absent]
      rfl

/-- Every chart is consistent. -/
theorem consistent_of_process {source : String} {s : Session} {chart : Chart}
    (done : ((process source).run s).1 = .ok chart) : chart.Consistent := by
  cases parsed : parse source with
  | error failure =>
    rw [run_process_of_error parsed] at done
    cases done
  | ok dump =>
    rw [run_process_of_ok parsed] at done
    split at done
    · cases done
    · rename_i placement computed
      cases done
      exact consistent_of_parsed (parsed_of_parse parsed) s.generator s.config.method
        (Layout.keys_of_run_compute computed)

/-- An edge to no node, an edge to a node that is not there, and a node whose type is a reserved
label. -/
def sampleSource : String := "1 A === _ 9 [[ 2 ]]\n2 null === 1 [[]]"

theorem parse_sampleSource :
    ∃ dump, parse sampleSource = .ok dump ∧ dump.graph.ids = ["1", "2"] := by
  let first : Record :=
    { id := "1", focus := false, type := "A", inputs := ["_", "9"], specials := []
      outputs := ["2"], details := [] }
  let second : Record :=
    { id := "2", focus := false, type := "null", inputs := ["1"], specials := []
      outputs := [], details := [] }
  have dialect : Dump.detect ((SourceLine.ofSource sampleSource).map (·.text)) = .nodeDump := by
    decide
  have whole : ∀ line ∈ SourceLine.ofSource sampleSource,
      (Record.Reading.ofWords line.words).Whole := by decide
  have nodes : (SourceLine.ofSource sampleSource).filterMap (·.node?) =
      [(first, 1), (second, 2)].map fun entry => entry.1.node entry.2 := by decide
  obtain ⟨dump, read, -, -, shown⟩ :=
    Dump.parseSourceLines_of_whole dialect rfl whole nodes (by decide) (by decide)
  refine ⟨dump, ?_, ?_⟩
  · rw [parse, Dump.parse, read]
    rfl
  · exact map_id_of_shows shown

/-- A session that places nodes on the grid. -/
def sampleSession : Session := ⟨⟨.grid, none⟩, .ofSeed 7⟩

theorem consistent_of_process_sampleSource :
    ∃ chart, ((process sampleSource).run sampleSession).1 = .ok chart ∧ chart.Consistent := by
  obtain ⟨dump, parsed, ids⟩ := parse_sampleSource
  have columns : Layout.columns 2 = 1 := by
    have root : Nat.sqrt 8 = 2 := (Nat.eq_sqrt.2 (by decide)).symm
    rw [Layout.columns, root]
    rfl
  have grid : Layout.grid dump.graph =
      .ofList [("1", Layout.GridCell.corner ⟨1, 1, 2⟩),
        ("2", Layout.GridCell.corner ⟨1, 2, 2⟩)] := by
    rw [Layout.grid_eq, ids]
    simp [Layout.gridCell, Layout.rows, columns]
  have inside : ∀ entry ∈ (Layout.grid dump.graph).entries, entry.2.inUnitSquare = true := by
    rw [grid]
    decide
  have placed (generator : Random.Generator) :
      ((Layout.compute dump.graph .grid).run generator).1 = .ok (Layout.grid dump.graph) :=
    Layout.run_compute_of_inside inside
  have method : sampleSession.config.method = .grid := rfl
  have done := run_process_of_ok parsed sampleSession
  rw [method, placed] at done
  exact ⟨_, done, consistent_of_process done⟩

end Session
end IrChart
