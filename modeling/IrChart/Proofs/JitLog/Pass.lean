import IrChart.Proofs.Dump.Warnings
import Mathlib.Data.List.Forall2

/-!
# The pass over a log

`Pass` says, header by header, what a pass over a log makes of it: which headers are reached, which
lines they take with them, and what becomes of each. There is one way to go over a log, and it is
how the log is read (`recordLines_pass`). The merged lines come from pairs of neighbours that share
no line (`exists_places`).
-/

namespace IrChart.JitLog
open Dump

/-- A pass over some lines, with the headers that it reaches and what becomes of each. -/
inductive Pass : List SourceLine → List (SourceLine × Outcome) → Prop
  | done : Pass [] []
  /-- A line that is no header counts for nothing. -/
  | skipped {line : SourceLine} {rest : List SourceLine} {entries : List (SourceLine × Outcome)}
      (other : isHeader line.words = false) (pass : Pass rest entries) :
      Pass (line :: rest) entries
  /-- A header that cannot be read is dropped, and the next line is looked at as any other. -/
  | unreadable {line : SourceLine} {rest : List SourceLine}
      {entries : List (SourceLine × Outcome)} {code : Code}
      (header : isHeader line.words = true) (unread : Header.read line.words = .error code)
      (code_eq : code = .missingArrow ∨ code = .unclosedOutputs) (pass : Pass rest entries) :
      Pass (line :: rest) ((line, .error (.unreadableHeader code line)) :: entries)
  /-- A header in the last line is dropped. -/
  | last {line : SourceLine} {record : Header} (header : isHeader line.words = true)
      (read : Header.read line.words = .ok record) :
      Pass [line] [(line, .error (.noInputLine record line none))]
  /-- A header takes the next line with it if that is no input line, and is dropped. -/
  | unpaired {line next : SourceLine} {rest : List SourceLine}
      {entries : List (SourceLine × Outcome)} {record : Header}
      (header : isHeader line.words = true) (read : Header.read line.words = .ok record)
      (other : next.words.head? ≠ some "L[") (pass : Pass rest entries) :
      Pass (line :: next :: rest)
        ((line, .error (.noInputLine record line (some next))) :: entries)
  /-- A header is dropped with an input line that cannot be read. -/
  | unclosed {line next : SourceLine} {rest : List SourceLine}
      {entries : List (SourceLine × Outcome)} {record : Header}
      (header : isHeader line.words = true) (read : Header.read line.words = .ok record)
      (opens : next.words.head? = some "L[")
      (unread : readInputs next.words = .error .unclosedInputLine) (pass : Pass rest entries) :
      Pass (line :: next :: rest)
        ((line, .error (.unreadableInputs .unclosedInputLine line next)) :: entries)
  /-- A header is merged with its input line. -/
  | merged {line next : SourceLine} {rest : List SourceLine}
      {entries : List (SourceLine × Outcome)} {record : Header} {inputs : List String}
      (header : isHeader line.words = true) (read : Header.read line.words = .ok record)
      (opens : next.words.head? = some "L[") (inputsRead : readInputs next.words = .ok inputs)
      (pass : Pass rest entries) :
      Pass (line :: next :: rest) ((line, .ok (merge record inputs line next)) :: entries)

/-- A merged line comes from the lines at a place and after it. It reaches over both, if lines do
not overlap. -/
def MergedAt (lines : List SourceLine) (place : Nat) (line : SourceLine) : Prop :=
  ∃ header next, lines[place]? = some header ∧ lines[place + 1]? = some next ∧
    (∃ record inputs, isHeader header.words = true ∧ Header.read header.words = .ok record ∧
      readInputs next.words = .ok inputs ∧ line = merge record inputs header next) ∧
    line.number = header.number ∧
    (SourceLine.InOrder lines →
      line.span.start = header.span.start ∧ line.span.stop = next.span.stop)

/-- The merged lines come from pairs of neighbours, each from the pair at its place. No two pairs
share a line, and they stand in the order of the merged lines. -/
structure Places (lines merged : List SourceLine) (places : List Nat) : Prop where
  mergedAt : List.Forall₂ (MergedAt lines) places merged
  apart : places.Pairwise fun place later => place + 2 ≤ later

/-! ### One way to go over a log -/

section
variable {header : Header} {line next : SourceLine}

theorem pair_of_head?_ne (other : next.words.head? ≠ some "L[") :
    pair header line next = .error (.noInputLine header line (some next)) :=
  if_neg other

theorem pair_of_error {code : Code} (opens : next.words.head? = some "L[")
    (unread : readInputs next.words = .error code) :
    pair header line next = .error (.unreadableInputs code line next) := by
  rw [pair, if_pos (by exact opens), unread]

end

/-- A pass makes of the lines what becomes of them in reading. -/
theorem Pass.outcomes {lines : List SourceLine} {entries : List (SourceLine × Outcome)}
    (pass : Pass lines entries) : entries.map (·.2) = outcomesOf lines := by
  induction pass with
  | done => rfl
  | skipped other pass ih => simp only [outcomesOf, other, ih]; rfl
  | unreadable header unread code_eq pass ih =>
    simp only [outcomesOf, header, unread, if_true, List.map_cons, ih]
  | last header read =>
    simp only [outcomesOf, header, read, if_true, List.map_cons, List.map_nil]
  | unpaired header read other pass ih =>
    simp only [outcomesOf, header, read, if_true, List.map_cons, ih, pair_of_head?_ne other]
  | unclosed header read opens unread pass ih =>
    simp only [outcomesOf, header, read, if_true, List.map_cons, ih, pair_of_error opens unread]
  | merged header read opens inputsRead pass ih =>
    simp only [outcomesOf, header, read, if_true, List.map_cons, ih,
      pair_eq_ok_iff.2 ⟨_, inputsRead, rfl⟩]

/-- Some pass goes over any lines. -/
theorem exists_pass (lines : List SourceLine) : ∃ entries, Pass lines entries := by
  fun_induction outcomesOf lines with
  | case1 => exact ⟨[], .done⟩
  | case2 line rest header code read ih =>
    obtain ⟨entries, pass⟩ := ih
    exact ⟨_, .unreadable header read (code_of_read_error read) pass⟩
  | case3 line header record read => exact ⟨_, .last header read⟩
  | case4 line header record read next rest ih =>
    obtain ⟨entries, pass⟩ := ih
    by_cases opens : next.words.head? = some "L["
    · cases inputs : readInputs next.words with
      | ok ids => exact ⟨_, .merged header read opens inputs pass⟩
      | error code =>
        rw [code_of_readInputs_error inputs] at inputs
        exact ⟨_, .unclosed header read opens inputs pass⟩
    · exact ⟨_, .unpaired header read opens pass⟩
  | case5 line rest other ih =>
    obtain ⟨entries, pass⟩ := ih
    exact ⟨entries, .skipped (by simpa using other) pass⟩

/-! ### Places of merged lines -/

/-- What is merged from some lines is merged from more lines, one place further. -/
theorem MergedAt.cons {lines : List SourceLine} {place : Nat} {line : SourceLine}
    (h : MergedAt lines place line) (first : SourceLine) :
    MergedAt (first :: lines) (place + 1) line := by
  obtain ⟨header, next, here, below, made, number, span⟩ := h
  refine ⟨header, next, ?_, ?_, made, number, ?_⟩
  · simpa using here
  · simpa using below
  · intro inOrder
    exact span inOrder.of_cons

/-- A header is merged with its input line at the first two places. -/
theorem mergedAt_zero {record : Header} {inputs : List String} {line next : SourceLine}
    (rest : List SourceLine) (isHeader : isHeader line.words = true)
    (read : Header.read line.words = .ok record)
    (inputsRead : readInputs next.words = .ok inputs) :
    MergedAt (line :: next :: rest) 0 (merge record inputs line next) := by
  refine ⟨line, next, rfl, rfl, ⟨record, inputs, isHeader, read, inputsRead, rfl⟩, rfl, ?_⟩
  intro inOrder
  have apart := List.rel_of_pairwise_cons inOrder (List.mem_cons_self ..)
  have := line.span.start_le_stop
  have := next.span.start_le_stop
  simp only [merge, Span.union]
  omega

/-- A line before the others moves every pair one place further. -/
theorem Places.cons {lines merged : List SourceLine} {places : List Nat}
    (h : Places lines merged places) (first : SourceLine) :
    Places (first :: lines) merged (places.map (· + 1)) where
  mergedAt := by
    rw [List.forall₂_map_left_iff]
    apply h.mergedAt.imp
    intro place line at_place
    exact at_place.cons first
  apart := by
    rw [List.pairwise_map]
    apply h.apart.imp
    intro place later apart
    omega

/-- A pair in front of the others is the first one. -/
theorem Places.cons_pair {lines merged : List SourceLine} {places : List Nat}
    (h : Places lines merged places) {header next line : SourceLine}
    (front : MergedAt (header :: next :: lines) 0 line) :
    Places (header :: next :: lines) (line :: merged)
      (0 :: (places.map (· + 1)).map (· + 1)) where
  mergedAt := .cons front ((h.cons next).cons header).mergedAt
  apart := by
    refine .cons ?_ ((h.cons next).cons header).apart
    intro later member
    rw [List.map_map] at member
    obtain ⟨place, -, rfl⟩ := List.mem_map.1 member
    simp only [Function.comp_apply]
    omega

theorem exists_places (lines : List SourceLine) :
    ∃ places, Places lines (merged (outcomesOf lines)) places := by
  fun_induction outcomesOf lines with
  | case1 => exact ⟨[], .nil, .nil⟩
  | case2 line rest header code read ih =>
    obtain ⟨places, h⟩ := ih
    rw [merged_cons_error]
    exact ⟨_, h.cons line⟩
  | case3 line header record read => exact ⟨[], .nil, .nil⟩
  | case4 line header record read next rest ih =>
    obtain ⟨places, h⟩ := ih
    cases outcome : pair record line next with
    | ok out =>
      obtain ⟨inputs, inputsRead, rfl⟩ := pair_eq_ok_iff.1 outcome
      rw [merged_cons_ok]
      exact ⟨_, h.cons_pair (mergedAt_zero rest header read inputsRead)⟩
    | error why =>
      rw [merged_cons_error]
      exact ⟨_, (h.cons next).cons line⟩
  | case5 line rest other ih =>
    obtain ⟨places, h⟩ := ih
    exact ⟨_, h.cons line⟩

/-- Every merged line takes two lines. -/
theorem two_mul_length_merged_le (lines : List SourceLine) :
    2 * (merged (outcomesOf lines)).length ≤ lines.length := by
  have length : (merged (outcomesOf lines)).length = (pairs (lines.map (·.words))).length := by
    rw [← List.length_map (·.text), map_text_merged, List.length_map]
  have bound := two_mul_length_pairs_le (lines.map (·.words))
  rwa [List.length_map, ← length] at bound

/-! ### What a pass gives -/

/-- Every outcome is a merged line or a warning. -/
theorem length_merged_add_length_warnings (outcomes : List Outcome) :
    (merged outcomes).length + (warnings outcomes).length = outcomes.length := by
  induction outcomes with
  | nil => rfl
  | cons outcome outcomes ih =>
    cases outcome with
    | ok line =>
      rw [merged_cons_ok, warnings_eq_map, dropped_cons_ok, ← warnings_eq_map,
        List.length_cons, List.length_cons]
      omega
    | error why =>
      rw [merged_cons_error, warnings_eq_map, dropped_cons_error, List.map_cons, ← warnings_eq_map,
        List.length_cons, List.length_cons]
      omega

/-- Warnings have the codes of what was dropped. -/
theorem map_code_warnings (outcomes : List Outcome) :
    (warnings outcomes).map (·.code) = (dropped outcomes).map fun why => some why.code := by
  rw [warnings_eq_map, List.map_map]
  apply List.map_congr_left
  intro why _
  exact why.code_diagnostic

/-- A log can be gone over, and every way to go over it gives the lines and the warnings that it is
read as, one of either for each header that is reached. The merged lines come from pairs of
neighbours. -/
theorem recordLines_pass (lines : List SourceLine) :
    (∃ entries, Pass lines entries) ∧
      (∀ entries, Pass lines entries →
        recordLines .jitLog lines = (merged (entries.map (·.2)), warnings (entries.map (·.2))) ∧
        (merged (entries.map (·.2))).length + (warnings (entries.map (·.2))).length =
          entries.length ∧
        (warnings (entries.map (·.2))).map (·.code) =
          (dropped (entries.map (·.2))).map fun why => some why.code) ∧
      (∃ places, Places lines (recordLines .jitLog lines).1 places) ∧
      2 * (recordLines .jitLog lines).1.length ≤ lines.length ∧
      ∀ texts, SourceLine.InOrder (SourceLine.ofTexts texts) := by
  have read : recordLines .jitLog lines =
      (merged (outcomesOf lines), warnings (outcomesOf lines)) := by
    rw [recordLines, read_eq_outcomesOf]
  refine ⟨exists_pass lines, ?_, ?_, ?_, SourceLine.inOrder_ofTexts⟩
  · intro entries pass
    refine ⟨?_, ?_, map_code_warnings _⟩
    · rw [read, pass.outcomes]
    · rw [length_merged_add_length_warnings, List.length_map]
  · rw [read]
    exact exists_places lines
  · rw [read]
    exact two_mul_length_merged_le lines

-- The second header is the line after the first one, so the inputs after it are those of no header.
example :
    (pairs (["#3 A @(x) -> [ ];", "#4 B @(y) -> [ ];", "L[ 3 ]", "#5 C @(z) -> [ ];",
      "L[ 4 ]"].map Text.words)).map (·.1.id) = ["5"] := by decide

end IrChart.JitLog
