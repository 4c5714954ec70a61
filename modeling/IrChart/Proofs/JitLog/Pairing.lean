import IrChart.Dump.JitLog
import IrChart.Proofs.Dump.SourceLines

/-!
# Headers and their input lines

The pass over a JIT log is a recursion on its lines: a header that can be read takes the next line
with it, any other line stands alone (`read_eq_outcomesOf`). Which lines are merged, and into which
texts, depends on the words of the lines only (`map_text_merged`); at most half as many lines come
out as went in (`two_mul_length_pairs_le`).
-/

namespace IrChart.JitLog
open Dump

/-- What becomes of the records of some lines. -/
def outcomesOf : List SourceLine → List Outcome
  | [] => []
  | line :: rest =>
    if isHeader line.words then
      match Header.read line.words with
      | .error code => .error (.unreadableHeader code line) :: outcomesOf rest
      | .ok header =>
        match rest with
        | [] => [.error (.noInputLine header line none)]
        | next :: rest => pair header line next :: outcomesOf rest
    else outcomesOf rest

theorem finish_foldl_step (outcomes : Array Outcome) (lines : List SourceLine) :
    (lines.foldl Scan.step ⟨none, outcomes⟩).finish = outcomes.toList ++ outcomesOf lines := by
  fun_induction outcomesOf lines generalizing outcomes with
  | case1 => simp [Scan.finish]
  | case2 line rest header code read ih =>
    rw [List.foldl_cons]
    simp only [Scan.step, header, read, if_true]
    rw [ih]
    simp
  | case3 line header record read =>
    rw [List.foldl_cons, List.foldl_nil]
    simp only [Scan.step, header, read, if_true]
    simp [Scan.finish]
  | case4 line header record read next rest ih =>
    rw [List.foldl_cons, List.foldl_cons]
    simp only [Scan.step, header, read, if_true]
    rw [ih]
    simp
  | case5 line rest other ih =>
    rw [List.foldl_cons]
    simp only [Scan.step, other, if_false, Bool.false_eq_true]
    exact ih outcomes

/-- The pass over a JIT log is the recursion on its lines. -/
theorem read_eq_outcomesOf (lines : List SourceLine) : read lines = outcomesOf lines := by
  have run := finish_foldl_step #[] lines
  rwa [Array.toList_empty, List.nil_append] at run

/-! ### Records by their words -/

/-- The headers and inputs that are merged, from the words of the lines. -/
def pairs : List (List String) → List (Header × List String)
  | [] => []
  | ws :: rest =>
    if isHeader ws then
      match Header.read ws with
      | .error _ => pairs rest
      | .ok header =>
        match rest with
        | [] => []
        | next :: rest =>
          match readInputs next with
          | .error _ => pairs rest
          | .ok inputs => (header, inputs) :: pairs rest
    else pairs rest

/-- The text of the line that a header and its inputs are merged into. -/
def mergedText (entry : Header × List String) : String :=
  Text.unwords (entry.1.mergedWords entry.2)

/-- A header is merged with the line after it if that line lists inputs. -/
theorem pair_eq_ok_iff {header : Header} {headerLine line merged : SourceLine} :
    pair header headerLine line = .ok merged ↔
      ∃ inputs, readInputs line.words = .ok inputs ∧
        merge header inputs headerLine line = merged := by
  unfold pair
  by_cases opens : line.words.head? = some inputLineOpen
  · rw [if_pos opens]
    cases readInputs line.words <;> simp
  · rw [if_neg opens]
    have unread (inputs : List String) : readInputs line.words ≠ .ok inputs := by
      unfold readInputs
      cases words : line.words with
      | nil => simp
      | cons opening listed =>
        have other : opening ≠ inputLineOpen := by simpa [words] using opens
        simp [other]
    simp [unread]

theorem merged_cons_ok (line : SourceLine) (outcomes : List Outcome) :
    merged (.ok line :: outcomes) = line :: merged outcomes := rfl

theorem merged_cons_error (dropped : Dropped) (outcomes : List Outcome) :
    merged (.error dropped :: outcomes) = merged outcomes := rfl

/-- A merged line has the number of its header. -/
theorem map_number_merged_sublist (lines : List SourceLine) :
    ((merged (outcomesOf lines)).map (·.number)).Sublist (lines.map (·.number)) := by
  fun_induction outcomesOf lines with
  | case1 => exact List.Sublist.slnil
  | case2 line rest header code read ih => exact ih.cons line.number
  | case3 line header record read => exact List.nil_sublist _
  | case4 line header record read next rest ih =>
    cases outcome : pair record line next with
    | ok entry =>
      obtain ⟨inputs, -, rfl⟩ := pair_eq_ok_iff.1 outcome
      exact (ih.cons next.number).cons_cons line.number
    | error why => exact (ih.cons next.number).cons line.number
  | case5 line rest other ih => exact ih.cons line.number

/-- The texts of the merged lines. -/
theorem map_text_merged (lines : List SourceLine) :
    (merged (outcomesOf lines)).map (·.text) = (pairs (lines.map (·.words))).map mergedText := by
  fun_induction outcomesOf lines with
  | case1 => rfl
  | case2 line rest header code read ih =>
    rw [merged_cons_error, ih, List.map_cons, pairs]
    simp only [header, read, if_true]
  | case3 line header record read =>
    rw [merged_cons_error, List.map_cons, List.map_nil, pairs]
    simp only [header, read, if_true]
    rfl
  | case4 line header record read next rest ih =>
    rw [List.map_cons, List.map_cons, pairs]
    simp only [header, read, if_true]
    cases inputs : readInputs next.words with
    | ok inputs' =>
      rw [pair_eq_ok_iff.2 ⟨inputs', inputs, rfl⟩, merged_cons_ok, List.map_cons, ih]
      rfl
    | error code =>
      cases outcome : pair record line next with
      | error dropped => rw [merged_cons_error, ih]
      | ok merged =>
        obtain ⟨inputs', read', -⟩ := pair_eq_ok_iff.1 outcome
        rw [inputs] at read'
        cases read'
  | case5 line rest other ih =>
    rw [ih, List.map_cons, pairs]
    simp only [other, if_false, Bool.false_eq_true]

/-- Every merged line takes two lines. -/
theorem two_mul_length_pairs_le (lines : List (List String)) :
    2 * (pairs lines).length ≤ lines.length := by
  fun_induction pairs lines <;> simp only [List.length_cons, List.length_nil] <;> omega

/-- A header and its inputs were read from two of the lines. -/
def ReadFrom (lines : List (List String)) (entry : Header × List String) : Prop :=
  (∃ ws ∈ lines, isHeader ws = true ∧ Header.read ws = .ok entry.1) ∧
    ∃ ws ∈ lines, readInputs ws = .ok entry.2

theorem ReadFrom.mono {lines more : List (List String)} {entry : Header × List String}
    (h : ReadFrom lines entry) (subset : lines ⊆ more) : ReadFrom more entry := by
  obtain ⟨⟨hs, inLines, heads⟩, is, inLines', inputs⟩ := h
  exact ⟨⟨hs, subset inLines, heads⟩, is, subset inLines', inputs⟩

theorem readFrom_of_mem_pairs {lines : List (List String)} {entry : Header × List String}
    (member : entry ∈ pairs lines) : ReadFrom lines entry := by
  fun_induction pairs lines with
  | case1 => simp at member
  | case2 ws rest header code read ih => exact (ih member).mono (List.subset_cons_self ..)
  | case3 => simp at member
  | case4 ws header record read next rest code unread ih =>
    exact (ih member).mono (List.subset_cons_of_subset ws (List.subset_cons_self ..))
  | case5 ws header record read next rest listed inputs ih =>
    rcases List.mem_cons.1 member with rfl | later
    · exact ⟨⟨ws, by simp, header, read⟩, next, by simp, inputs⟩
    · exact (ih later).mono (List.subset_cons_of_subset ws (List.subset_cons_self ..))
  | case6 ws rest other ih => exact (ih member).mono (List.subset_cons_self ..)

/-- A JIT log is normalized to the texts of its merged lines. -/
theorem normalizeLines_of_jitLog {lines : List String} (dialect : detect lines = .jitLog) :
    normalizeLines lines = (pairs (lines.map Text.words)).map mergedText := by
  unfold normalizeLines
  rw [dialect, ← SourceLine.map_words_ofTexts lines, ← map_text_merged, ← read_eq_outcomesOf]

/-- Lines of any other dialect are kept. -/
theorem normalizeLines_of_ne_jitLog {lines : List String} (dialect : detect lines ≠ .jitLog) :
    normalizeLines lines = lines := by
  unfold normalizeLines
  split
  · rename_i same
    exact absurd same dialect
  · rfl

end IrChart.JitLog
