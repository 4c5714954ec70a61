import IrChart.Text.Basic
import IrChart.Proofs.Text.Words
import Mathlib.Algebra.Order.Ring.Nat

/-!
# Lines and their bytes

Joining the lines of a text gives the text back (`unlines_lines`), so consecutive lines are a
stretch of its bytes. `Span.CoversLines` says that a span is such a stretch: its ends fall between
characters, and its bytes are those of the lines with the newlines between them.
-/

namespace IrChart

namespace Text

/-- Lines with a newline after each. -/
def terminated : List String → String
  | [] => ""
  | line :: rest => line ++ "\n" ++ terminated rest

/-- The number of bytes of some lines, each with a newline after it. -/
def extent (ls : List String) : Nat := (ls.map fun l => l.utf8ByteSize + 1).sum

theorem extent_cons (line : String) (rest : List String) :
    extent (line :: rest) = line.utf8ByteSize + 1 + extent rest := by
  rw [extent, List.map_cons, List.sum_cons, extent]

theorem utf8ByteSize_terminated (ls : List String) :
    (terminated ls).utf8ByteSize = extent ls := by
  induction ls with
  | nil => rfl
  | cons line rest ih =>
    have newline : "\n".utf8ByteSize = 1 := by decide
    rw [terminated, String.utf8ByteSize_append, String.utf8ByteSize_append, ih, newline,
      extent_cons]

theorem unlines_cons {rest : List String} (more : rest ≠ []) (line : String) :
    unlines (line :: rest) = line ++ "\n" ++ unlines rest := by
  obtain ⟨next, rest, rfl⟩ := List.exists_cons_of_ne_nil more
  exact String.intercalate_cons_cons

/-- Lines before other lines stand with a newline after each. -/
theorem unlines_append {rest : List String} (more : rest ≠ []) (ls : List String) :
    unlines (ls ++ rest) = terminated ls ++ unlines rest := by
  induction ls with
  | nil => rw [List.nil_append, terminated, String.empty_append]
  | cons line ls ih =>
    have full : ls ++ rest ≠ [] := List.append_ne_nil_of_right_ne_nil ls more
    rw [List.cons_append, unlines_cons full, ih, terminated, ← String.append_assoc]

theorem exists_unlines_append {ls : List String} (some : ls ≠ []) (rest : List String) :
    ∃ after, unlines (ls ++ rest) = unlines ls ++ after := by
  induction ls with
  | nil => contradiction
  | cons line ls ih =>
    by_cases last : ls = []
    · subst last
      cases rest with
      | nil => exact ⟨"", by simp⟩
      | cons next rest =>
        refine ⟨"\n" ++ unlines (next :: rest), ?_⟩
        rw [List.singleton_append, unlines_cons (List.cons_ne_nil next rest), String.append_assoc]
        rfl
    · obtain ⟨after, split⟩ := ih last
      refine ⟨after, ?_⟩
      rw [List.cons_append, unlines_cons (List.append_ne_nil_of_left_ne_nil last rest), split,
        unlines_cons last, String.append_assoc, String.append_assoc, String.append_assoc]

theorem lines_ne_nil (text : String) : lines text ≠ [] := by
  simp [lines, List.splitOnP_ne_nil]

/-- The lines of a text, joined by newlines, are the text. -/
theorem unlines_lines (text : String) : unlines (lines text) = text :=
  intercalate_splitOnP rfl text

end Text

/-- A span covers some consecutive lines of a source, whole and with the newlines between them. -/
structure Span.CoversLines (span : Span) (source : String) (covered : List String) : Prop where
  consecutive : ∃ before after,
    Text.lines source = before ++ covered ++ after ∧ span.start = Text.extent before
  stop_le : span.stop ≤ source.utf8ByteSize
  start_valid : (String.Pos.Raw.mk span.start).IsValid source
  stop_valid : (String.Pos.Raw.mk span.stop).IsValid source
  bytes : source.toByteArray.extract span.start span.stop = (Text.unlines covered).toByteArray

namespace Span

/-- A span that starts where some lines start and is as long as they are covers them. -/
theorem coversLines {span : Span} {source : String} {before covered after : List String}
    (split : Text.lines source = before ++ covered ++ after) (some : covered ≠ [])
    (start : span.start = Text.extent before)
    (stop : span.stop = span.start + (Text.unlines covered).utf8ByteSize) :
    span.CoversLines source covered := by
  obtain ⟨rest, whole⟩ := Text.exists_unlines_append some after
  have text : source = Text.terminated before ++ (Text.unlines covered ++ rest) := by
    rw [← whole, ← Text.unlines_append (List.append_ne_nil_of_left_ne_nil some after),
      ← List.append_assoc, ← split, Text.unlines_lines]
  have front : span.start = (Text.terminated before).utf8ByteSize := by
    rw [start, Text.utf8ByteSize_terminated]
  have back : span.stop = (Text.terminated before ++ Text.unlines covered).utf8ByteSize := by
    rw [stop, front, String.utf8ByteSize_append]
  have text' : source = Text.terminated before ++ Text.unlines covered ++ rest := by
    rw [text, String.append_assoc]
  refine ⟨⟨before, after, split, start⟩, ?_, ?_, ?_, ?_⟩
  · have size := congrArg String.utf8ByteSize text'
    rw [String.utf8ByteSize_append] at size
    omega
  · rw [String.Pos.Raw.isValid_iff_exists_append]
    exact ⟨_, _, text, congrArg String.Pos.Raw.mk front⟩
  · rw [String.Pos.Raw.isValid_iff_exists_append]
    exact ⟨_, _, text', congrArg String.Pos.Raw.mk back⟩
  · have size : (Text.terminated before).utf8ByteSize =
        (Text.terminated before).toByteArray.size := String.size_toByteArray.symm
    have size' : (Text.unlines covered).utf8ByteSize =
        (Text.unlines covered).toByteArray.size := String.size_toByteArray.symm
    rw [stop, front, text, String.toByteArray_append, String.toByteArray_append]
    calc ((Text.terminated before).toByteArray ++
            ((Text.unlines covered).toByteArray ++ rest.toByteArray)).extract
            ((Text.terminated before).utf8ByteSize + 0)
            ((Text.terminated before).utf8ByteSize + (Text.unlines covered).utf8ByteSize)
        = ((Text.unlines covered).toByteArray ++ rest.toByteArray).extract 0
            (Text.unlines covered).utf8ByteSize := ByteArray.extract_append_size_add' size
      _ = (Text.unlines covered).toByteArray := ByteArray.extract_append_eq_left size'

end Span
end IrChart
