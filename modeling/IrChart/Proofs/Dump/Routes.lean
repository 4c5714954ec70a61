import IrChart.Proofs.Dump.FirstDefinition
import IrChart.Proofs.Dump.SourceLines
import IrChart.Proofs.Dump.Warnings
import IrChart.Proofs.JitLog.Idempotence

/-!
# Routes to a parsed dump

A dump can be parsed as one text or as lines that were cut before; both give the same answer, spans
included (`parse_unlines`). A JIT log can be parsed at once or be normalized first and parsed later;
both give the same graph, but for the numbers of the lines (`parseLines_normalizeLines`).
-/

namespace IrChart

namespace SourceLine

/-- Joining lines and cutting them again gives them the same numbers and places. -/
theorem ofSource_unlines {ls : List String} (nonempty : ls ≠ [])
    (single : ∀ l ∈ ls, '\n' ∉ l.toList) : ofSource (Text.unlines ls) = ofTexts ls := by
  rw [ofSource, Text.lines_unlines nonempty single]

end SourceLine

namespace Graph

/-- The graph with its edges typed, if it has a node. -/
def resolved? (g : Graph) : Option Graph :=
  if g.nodes = [] then none else some g.resolveEdges

/-- Numbers of lines do not matter for which graphs are accepted. -/
theorem map_unnumbered_resolved? (g : Graph) :
    g.resolved?.map (·.unnumbered) = g.unnumbered.resolved? := by
  by_cases empty : g.nodes = []
  · have empty' : g.unnumbered.nodes = [] := by simp [unnumbered, empty]
    rw [resolved?, resolved?, if_pos empty, if_pos empty', Option.map_none]
  · have some' : g.unnumbered.nodes ≠ [] := by simpa [unnumbered] using empty
    rw [resolved?, resolved?, if_neg empty, if_neg some', Option.map_some,
      unnumbered_resolveEdges]

end Graph

namespace Dump

/-! ### Cut or joined -/

/-- Lines without words are refused, however many there are. -/
theorem parseSourceLines_of_blank {lines : List SourceLine}
    (blank : ∀ line ∈ lines, line.words = []) : parseSourceLines lines = .error ⟨[noNodes]⟩ := by
  have dialect : detect (lines.map (·.text)) = .unknown := by
    apply detectFrom_of_short
    rw [List.map_map, List.forall_mem_map]
    intro line member
    have none : Text.words line.text = [] := blank line member
    simp [none]
  have whole : ∀ line ∈ lines, (Record.Reading.ofWords line.words).Whole := by
    intro line member
    rw [blank line member]
    trivial
  have none : lines.filterMap (·.node?) = [] := by
    rw [List.filterMap_eq_nil_iff]
    intro line member
    rw [SourceLine.node?, blank line member]
    rfl
  obtain ⟨nodes, warnings⟩ := Draft.ofLines_of_whole whole (by rw [none]; exact List.nodup_nil)
  rw [none, Array.toList_eq_nil_iff] at nodes
  rw [parseSourceLines_eq, dialect]
  simp only [recordLines, nodes, warnings]
  rfl

/-- No line at all is refused just as an empty text is, which is one empty line. -/
theorem parse_empty : parse "" = parseLines [] := by
  have blank : ∀ line ∈ SourceLine.ofSource "", line.words = [] := by decide
  have none : ∀ line ∈ SourceLine.ofTexts [], line.words = [] := List.forall_mem_nil _
  rw [parse, parseLines, parseSourceLines_of_blank blank, parseSourceLines_of_blank none]

/-- Lines without newlines are parsed like the text that joins them, and a text is parsed like the
lines it is cut into. -/
theorem parse_unlines (ls : List String) :
    ((∀ l ∈ ls, '\n' ∉ l.toList) → parse (Text.unlines ls) = parseLines ls) ∧
      ∀ source, parseLines (Text.lines source) = parse source := by
  constructor
  · intro single
    by_cases none : ls = []
    · subst none
      exact parse_empty
    · rw [parse, SourceLine.ofSource_unlines none single, parseLines]
  · intro source
    rfl

/-- Lines of which some are empty, the last one among them. -/
def gappedLines : List String := ["1 Ä === _ [[ 2 ]]", "", "2 B\r", ""]

theorem parse_unlines_gappedLines :
    (∀ l ∈ gappedLines, '\n' ∉ l.toList) ∧
      parse "1 Ä === _ [[ 2 ]]\n\n2 B\r\n" = parseLines gappedLines := by
  have single : ∀ l ∈ gappedLines, '\n' ∉ l.toList := by decide
  exact ⟨single, (parse_unlines gappedLines).1 single⟩

/-! ### Normalizing first -/

/-- The graph of a dump, if it was parsed. -/
def graph? : Except ParseFailure ParsedDump → Option Graph
  | .ok dump => some dump.graph
  | .error _ => none

theorem graph?_parseSourceLines (lines : List SourceLine) :
    graph? (parseSourceLines lines) =
      (Draft.ofLines (recordLines (detect (lines.map (·.text))) lines).1).graph.resolved? := by
  rw [parseSourceLines_eq]
  unfold Graph.resolved? Draft.graph
  simp only [Array.isEmpty_iff, Array.toList_eq_nil_iff]
  split <;> rfl

/-- Source lines whose records have the same words give the same graph, but for the numbers of the
lines. -/
theorem unnumbered_graph?_parseSourceLines {lines lines' : List SourceLine}
    (same : (recordLines (detect (lines.map (·.text))) lines).1.map (·.words) =
      (recordLines (detect (lines'.map (·.text))) lines').1.map (·.words)) :
    (graph? (parseSourceLines lines)).map (·.unnumbered) =
      (graph? (parseSourceLines lines')).map (·.unnumbered) := by
  rw [graph?_parseSourceLines, graph?_parseSourceLines, Graph.map_unnumbered_resolved?,
    Graph.map_unnumbered_resolved?, Draft.unnumbered_graph_ofLines same]

open JitLog in
/-- A normalized log gives the graph of the log, unless it is taken for a log again. -/
theorem unnumbered_graph?_parseLines_normalizeLines {lines : List String}
    (dialect : detect lines = .jitLog) (again : detect (normalizeLines lines) ≠ .jitLog) :
    (graph? (parseLines (normalizeLines lines))).map (·.unnumbered) =
      (graph? (parseLines lines)).map (·.unnumbered) := by
  have texts : normalizeLines lines = (merged (read (SourceLine.ofTexts lines))).map (·.text) := by
    rw [normalizeLines, dialect]
  have kept (sources : List SourceLine) :
      (recordLines (detect (normalizeLines lines)) sources).1 = sources := by
    cases format : detect (normalizeLines lines) with
    | jitLog => exact absurd format again
    | nodeDump => rfl
    | unknown => rfl
  apply unnumbered_graph?_parseSourceLines
  rw [SourceLine.map_text_ofTexts, SourceLine.map_text_ofTexts, kept, dialect,
    SourceLine.map_words_ofTexts]
  calc (normalizeLines lines).map Text.words
      = ((merged (read (SourceLine.ofTexts lines))).map (·.text)).map Text.words := by rw [texts]
    _ = (merged (read (SourceLine.ofTexts lines))).map (·.words) := by
        rw [List.map_map]
        rfl

open JitLog in
/-- Normalizing a log in which the header mark is no word of its own, and parsing what comes out as
a node dump, gives the graph of the log: it is refused if the log is, and otherwise has the same
types and the same nodes, but for the numbers of the lines. -/
theorem parseLines_normalizeLines {lines : List String}
    (named : ∀ line ∈ lines, (Text.words line).head? ≠ some headerMark)
    (dialect : detect lines = .jitLog) :
    detect (normalizeLines lines) =
        (if normalizeLines lines = [] then .unknown else .nodeDump) ∧
      (graph? (parseLines (normalizeLines lines))).map (·.unnumbered) =
        (graph? (parseLines lines)).map (·.unnumbered) := by
  have format := detect_normalizeLines_of_named named dialect
  refine ⟨format, unnumbered_graph?_parseLines_normalizeLines dialect ?_⟩
  rw [format]
  split <;> simp

/-- A log with ids that begin with the header mark or open the inputs, with a header that cannot be
read, one that has no input line, and one that repeats an id. -/
def mixedLog : List String :=
  ["##1 A @(p) -> [ 3 (E) ];", "L[ _ ]", "#2 B @(q) [ ];", "#L[ C @(r) -> [ ];", "L[ 2 (B) ]",
    "#4 D @(s) -> [ ];", "stray", "#3 E @(t) -> [ ]; text", "  L[ 3 (E) 9 ] more",
    "#3 F @(u) -> [ ];", "L[ 3 ]"]

open JitLog in
theorem parseLines_normalizeLines_mixedLog :
    (∀ line ∈ mixedLog, (Text.words line).head? ≠ some headerMark) ∧
      detect mixedLog = .jitLog ∧
      normalizeLines mixedLog =
        ["#1 A === _ [[ 3 ]] @(p)", "L[ C === 2 [[ ]] @(r)", "3 E === 3 9 [[ ]] @(t) text",
          "3 F === 3 [[ ]] @(u)"] ∧
      detect (normalizeLines mixedLog) = .nodeDump ∧
      (graph? (parseLines (normalizeLines mixedLog))).map (·.unnumbered) =
        (graph? (parseLines mixedLog)).map (·.unnumbered) := by
  have named : ∀ line ∈ mixedLog, (Text.words line).head? ≠ some headerMark := by decide
  have dialect : detect mixedLog = .jitLog := by decide
  have merged : normalizeLines mixedLog =
      ["#1 A === _ [[ 3 ]] @(p)", "L[ C === 2 [[ ]] @(r)", "3 E === 3 9 [[ ]] @(t) text",
        "3 F === 3 [[ ]] @(u)"] := by decide
  obtain ⟨format, graphs⟩ := parseLines_normalizeLines named dialect
  rw [if_neg (by rw [merged]; simp)] at format
  exact ⟨named, dialect, merged, format, graphs⟩

end Dump
end IrChart
