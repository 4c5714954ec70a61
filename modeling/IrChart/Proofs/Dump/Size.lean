import IrChart.Proofs.Dump.Drafts
import IrChart.Proofs.JitLog.Pairing
import IrChart.Proofs.Session
import IrChart.Proofs.Text.Lines

/-!
# Graphs are no larger than their sources

A line gives at most one node, and a source has at most as many newlines as bytes, so the size of a
graph is bounded by the bytes of its source (`size_le_of_parse`).
-/

namespace IrChart

namespace Text

theorem length_le_extent (ls : List String) : ls.length ≤ extent ls := by
  induction ls with
  | nil => exact Nat.le_refl 0
  | cons line rest ih =>
    rw [extent_cons, List.length_cons]
    omega

/-- A text has at most one line more than bytes. -/
theorem length_lines_le (text : String) : (lines text).length ≤ text.utf8ByteSize + 1 := by
  have split := List.dropLast_concat_getLast (lines_ne_nil text)
  have before := length_le_extent (lines text).dropLast
  have bytes := congrArg String.utf8ByteSize (unlines_lines text)
  rw [← split, unlines_append (List.cons_ne_nil _ _), String.utf8ByteSize_append,
    utf8ByteSize_terminated] at bytes
  rw [List.length_dropLast] at before
  omega

end Text

theorem JitLog.length_merged_read_le (lines : List SourceLine) :
    (merged (read lines)).length ≤ lines.length := by
  have texts := congrArg List.length (map_text_merged lines)
  have halves := two_mul_length_pairs_le (lines.map (·.words))
  rw [List.length_map, List.length_map] at texts
  rw [List.length_map] at halves
  rw [read_eq_outcomesOf, texts]
  omega

namespace Draft

theorem size_nodes_add_le (d : Draft) (record : Record) (line : SourceLine) :
    (d.add record line).nodes.size ≤ d.nodes.size + 1 := by
  by_cases taken : record.id ∈ d.firsts
  · obtain ⟨w, warned⟩ := add_of_mem line taken
    rw [warned, nodes_warn]
    exact Nat.le_succ _
  · have grown : (d.add record line).nodes.size = d.nodes.size + 1 := by
      rw [add_of_not_mem line taken, Array.size_push]
    exact Nat.le_of_eq grown

theorem size_nodes_step_le (d : Draft) (line : SourceLine) :
    (d.step line).nodes.size ≤ d.nodes.size + 1 := by
  unfold step
  split
  · exact Nat.le_succ _
  · exact Nat.le_succ _
  · exact Nat.le_succ _
  · exact size_nodes_add_le _ _ line

theorem size_nodes_ofLines_le (lines : List SourceLine) :
    (ofLines lines).nodes.size ≤ lines.length := by
  have run (d : Draft) : (lines.foldl step d).nodes.size ≤ d.nodes.size + lines.length := by
    induction lines generalizing d with
    | nil => exact Nat.le_refl _
    | cons line lines ih =>
      have first := d.size_nodes_step_le line
      have rest := ih (d.step line)
      rw [List.foldl_cons, List.length_cons]
      omega
  have all := run {}
  rwa [Array.size_empty, Nat.zero_add] at all

end Draft

namespace Dump

theorem length_recordLines_le (format : Format) (lines : List SourceLine) :
    (recordLines format lines).1.length ≤ lines.length := by
  cases format with
  | jitLog => exact JitLog.length_merged_read_le lines
  | _ => exact Nat.le_refl _

/-- A dump gives at most one node a line. -/
theorem size_le_of_parseSourceLines {lines : List SourceLine} {dump : ParsedDump}
    (done : parseSourceLines lines = .ok dump) : dump.graph.size ≤ lines.length := by
  simp only [parseSourceLines_eq] at done
  split at done
  · cases done
  · cases done
    calc (List.map _ _).length
        = (Draft.ofLines (recordLines _ lines).1).nodes.size := List.length_map ..
      _ ≤ (recordLines _ lines).1.length := Draft.size_nodes_ofLines_le _
      _ ≤ lines.length := length_recordLines_le _ lines

end Dump

theorem Session.size_le_of_parse {source : String} {dump : ParsedDump}
    (parsed : parse source = .ok dump) : dump.graph.size ≤ source.utf8ByteSize + 1 := by
  have size := Dump.size_le_of_parseSourceLines (parse_eq_ok_iff.1 parsed)
  have texts := congrArg List.length (SourceLine.map_text_ofTexts (Text.lines source))
  have bytes := Text.length_lines_le source
  rw [List.length_map] at texts
  rw [SourceLine.ofSource, texts] at size
  omega

end IrChart
