import IrChart.Proofs.Dump.Drafts
import IrChart.Proofs.Dump.SourceLines
import IrChart.Proofs.Dump.Warnings

/-!
# The order of warnings

Each of the two passes warns about lines from the top of a dump to its end. The answer has the
warnings of the first pass before those of the second, so it is in source order exactly when no
warning about a JIT log record stands below one about a node record
(`inSourceOrder_reported_iff`). A log with a repeated record above a broken header is not
(`inSourceOrder_repeatingLog`).
-/

namespace IrChart

namespace Diagnostic

/-- Where the primary labels of a diagnostic start. -/
def primaryStarts (d : Diagnostic) : List Nat := (d.labels.filter (·.primary)).map (·.span.start)

/-- Where the primary labels of some diagnostics start. -/
def starts (ds : List Diagnostic) : List Nat := ds.flatMap (·.primaryStarts)

/-- No diagnostic starts before one that stands earlier in the list. -/
def InSourceOrder (ds : List Diagnostic) : Prop := (starts ds).Pairwise (· ≤ ·)

theorem starts_append (ds more : List Diagnostic) :
    starts (ds ++ more) = starts ds ++ starts more :=
  List.flatMap_append

end Diagnostic

open Diagnostic (starts InSourceOrder)

namespace JitLog
open Dump

/-- Records are dropped at lines of the log, from its top to its end. -/
theorem map_line_dropped_sublist (lines : List SourceLine) :
    ((dropped (outcomesOf lines)).map (·.line)).Sublist lines := by
  fun_induction outcomesOf lines with
  | case1 => exact List.Sublist.slnil
  | case2 line rest header code read ih => exact ih.cons_cons line
  | case3 line header record read => exact List.Sublist.refl [line]
  | case4 line header record read next rest ih =>
    cases outcome : pair record line next with
    | ok merged =>
      rw [dropped_cons_ok]
      exact (ih.cons next).cons line
    | error why =>
      rw [dropped_cons_error, List.map_cons]
      rcases pair_eq_error outcome with rfl | ⟨code, -, rfl⟩
      · exact (ih.cons next).cons_cons line
      · exact (ih.cons_cons next).cons line
  | case5 line rest other ih => exact ih.cons line

theorem primaryStarts_diagnostic (why : Dropped) :
    why.diagnostic.primaryStarts = [why.line.span.start] := by
  cases why with
  | unreadableHeader code line => rfl
  | noInputLine header line next => cases next <;> rfl
  | unreadableInputs code headerLine line => rfl

/-- The warnings about a log point at lines of the log, from its top to its end. -/
theorem starts_warnings_sublist (lines : List SourceLine) :
    (starts (warnings (outcomesOf lines))).Sublist (lines.map (·.span.start)) := by
  have single : starts (warnings (outcomesOf lines)) =
      ((dropped (outcomesOf lines)).map (·.line)).map (·.span.start) := by
    rw [warnings_eq_map, starts, List.flatMap_map, List.map_map, List.map_eq_flatMap]
    simp only [primaryStarts_diagnostic, Function.comp_apply]
  rw [single]
  exact (map_line_dropped_sublist lines).map _

/-- A merged line starts where its header does, and so the merged lines keep the order of the
log. -/
theorem map_start_merged_sublist {lines : List SourceLine} (inOrder : SourceLine.InOrder lines) :
    ((merged (outcomesOf lines)).map (·.span.start)).Sublist (lines.map (·.span.start)) := by
  fun_induction outcomesOf lines with
  | case1 => exact List.Sublist.slnil
  | case2 line rest header code read ih => exact (ih inOrder.of_cons).cons _
  | case3 line header record read => exact List.nil_sublist _
  | case4 line header record read next rest ih =>
    have later := ih inOrder.of_cons.of_cons
    cases outcome : pair record line next with
    | ok entry =>
      obtain ⟨inputs, -, rfl⟩ := pair_eq_ok_iff.1 outcome
      have apart := List.rel_of_pairwise_cons inOrder (List.mem_cons_self ..)
      have first : (merge record inputs line next).span.start = line.span.start := by
        have := line.span.start_le_stop
        show min line.span.start next.span.start = line.span.start
        omega
      rw [merged_cons_ok, List.map_cons, first]
      exact (later.cons _).cons_cons _
    | error why =>
      rw [merged_cons_error]
      exact (later.cons _).cons _
  | case5 line rest other ih => exact (ih inOrder.of_cons).cons _

end JitLog

namespace Draft

theorem starts_warning?_sublist (d : Draft) (line : SourceLine) :
    (starts (d.warning? line).toList).Sublist [line.span.start] := by
  unfold warning?
  cases Record.Reading.ofWords line.words with
  | other => exact List.nil_sublist _
  | headless => exact List.Sublist.refl _
  | incomplete id type gap => exact List.Sublist.refl _
  | complete record =>
    show (starts ((d.firsts[record.id]?).map _).toList).Sublist _
    cases d.firsts[record.id]? with
    | none => exact List.nil_sublist _
    | some first => exact List.Sublist.refl _

theorem starts_warnings_foldl_sublist (lines : List SourceLine) (d : Draft) :
    (starts (lines.foldl step d).warnings.toList).Sublist
      (starts d.warnings.toList ++ lines.map (·.span.start)) := by
  induction lines generalizing d with
  | nil =>
    rw [List.map_nil, List.append_nil]
    exact List.Sublist.refl _
  | cons line lines ih =>
    refine (ih (d.step line)).trans ?_
    rw [warnings_step, Diagnostic.starts_append, List.append_assoc, List.map_cons]
    refine (List.append_sublist_append_left _).2 ?_
    exact (starts_warning?_sublist d line).append (List.Sublist.refl _)

/-- The warnings about records point at lines, from the first to the last. -/
theorem starts_warnings_sublist (lines : List SourceLine) :
    (starts (ofLines lines).warnings.toList).Sublist (lines.map (·.span.start)) :=
  starts_warnings_foldl_sublist lines {}

end Draft

namespace Dump

/-- The lines that are read as records start at places of the source, in order, and so do the
warnings of making them. -/
theorem recordLines_sublist {lines records : List SourceLine} {logged : List Diagnostic}
    {format : Format} (inOrder : SourceLine.InOrder lines)
    (h : recordLines format lines = (records, logged)) :
    (records.map (·.span.start)).Sublist (lines.map (·.span.start)) ∧
      (starts logged).Sublist (lines.map (·.span.start)) := by
  unfold recordLines at h
  split at h
  · rw [JitLog.read_eq_outcomesOf] at h
    cases h
    exact ⟨JitLog.map_start_merged_sublist inOrder, JitLog.starts_warnings_sublist lines⟩
  · cases h
    exact ⟨List.Sublist.refl _, List.nil_sublist _⟩

/-- A diagnostic is of one stage only. -/
theorem isOf_eq_false {d : Diagnostic} {stage other : Stage} (h : d.isOf stage = true)
    (differs : stage ≠ other) : d.isOf other = false := by
  unfold Diagnostic.isOf at h ⊢
  cases code : d.code with
  | none => rfl
  | some code' =>
    rw [code] at h
    simp only [Option.any_some, beq_iff_eq] at h
    simp [h, differs]

/-- The diagnostics of a stage are what the pass of that stage reports. -/
theorem filter_isOf_reported {lines records : List SourceLine} {logged : List Diagnostic}
    (h : recordLines (detect (lines.map (·.text))) lines = (records, logged)) :
    (reported (parseSourceLines lines)).filter (·.isOf .log) = logged ∧
      (reported (parseSourceLines lines)).filter (·.isOf .record) =
        (Draft.ofLines records).warnings.toList := by
  have log := isOf_log_of_recordLines h
  have record : ∀ w ∈ (Draft.ofLines records).warnings.toList, w.isOf .record = true :=
    fun w member => Draft.isOf_record member
  have front (stage : Stage) (other : stage ≠ .dump) :
      (if (Draft.ofLines records).nodes.isEmpty then [noNodes] else []).filter (·.isOf stage) =
        [] := by
    have dump : noNodes.isOf .dump = true := rfl
    have unlike := isOf_eq_false dump other.symm
    split <;> simp [unlike]
  rw [reported_parseSourceLines h]
  simp only [List.filter_append]
  rw [front .log (by decide), front .record (by decide), List.filter_eq_self.2 log,
    List.filter_eq_self.2 record]
  constructor
  · rw [List.filter_eq_nil_iff.2, List.append_nil, List.nil_append]
    intro w member
    have unlike : w.isOf .log = false := isOf_eq_false (record w member) (by decide)
    simp [unlike]
  · rw [List.filter_eq_nil_iff.2, List.nil_append, List.nil_append]
    intro w member
    have unlike : w.isOf .record = false := isOf_eq_false (log w member) (by decide)
    simp [unlike]

/-- What is reported is in source order if nothing about a log record stands below something about
a node record, and only then; without a log there is nothing about log records. -/
theorem inSourceOrder_reported_iff (source : String) :
    (InSourceOrder (reported (parse source)) ↔
      ∀ a ∈ starts ((reported (parse source)).filter (·.isOf .log)),
        ∀ b ∈ starts ((reported (parse source)).filter (·.isOf .record)), a ≤ b) ∧
      (detect (Text.lines source) ≠ .jitLog → InSourceOrder (reported (parse source))) := by
  generalize passes : recordLines (detect ((SourceLine.ofSource source).map (·.text)))
    (SourceLine.ofSource source) = out
  obtain ⟨records, logged⟩ := out
  have inOrder : SourceLine.InOrder (SourceLine.ofSource source) := SourceLine.inOrder_ofTexts _
  have increasing : ((SourceLine.ofSource source).map (·.span.start)).Pairwise (· ≤ ·) :=
    inOrder.pairwise_start.imp Nat.le_of_lt
  obtain ⟨recordsInOrder, loggedInOrder⟩ := recordLines_sublist inOrder passes
  have first : (starts logged).Pairwise (· ≤ ·) := increasing.sublist loggedInOrder
  have second : (starts (Draft.ofLines records).warnings.toList).Pairwise (· ≤ ·) :=
    increasing.sublist ((Draft.starts_warnings_sublist records).trans recordsInOrder)
  have whole : starts (reported (parse source)) =
      starts logged ++ starts (Draft.ofLines records).warnings.toList := by
    rw [parse, reported_parseSourceLines passes, Diagnostic.starts_append,
      Diagnostic.starts_append]
    split <;> rfl
  obtain ⟨log, record⟩ := filter_isOf_reported passes
  constructor
  · rw [InSourceOrder, whole, List.pairwise_append, parse, log, record]
    exact ⟨fun h => h.2.2, fun h => ⟨first, second, h⟩⟩
  · intro dialect
    have nothing : logged = [] := by
      rw [SourceLine.ofSource, SourceLine.map_text_ofTexts, recordLines] at passes
      · cases passes
        rfl
      · exact dialect
    rw [InSourceOrder, whole, nothing]
    exact second

/-- A log with a record, the same record again, and a header without an arrow. -/
def repeatingLog : String :=
  "#1 A @(x) -> [ ];\nL[ 2 (B) ]\n#1 A @(y) -> [ ];\nL[ 2 (B) ]\n#3 C @(z) [ ];"

theorem inSourceOrder_repeatingLog :
    ∃ dump, parse repeatingLog = .ok dump ∧ starts dump.warnings = [58, 29] ∧
      ¬ InSourceOrder dump.warnings := by
  let first : SourceLine := ⟨"1 A === 2 [[ ]] @(x)", 1, ⟨0, 28, by decide⟩⟩
  let again : SourceLine := ⟨"1 A === 2 [[ ]] @(y)", 3, ⟨29, 57, by decide⟩⟩
  let header : SourceLine := ⟨"#3 C @(z) [ ];", 5, ⟨58, 72, by decide⟩⟩
  let record (position : String) : Record := ⟨"1", false, "A", ["2"], [], [], [position]⟩
  let broken := JitLog.malformed .missingArrow header [] JitLog.headerHelp
  let repeated := Record.duplicateWarning "1" first.span again.span
  have dialect : detect ((SourceLine.ofSource repeatingLog).map (·.text)) = .jitLog := by decide
  have passes : recordLines .jitLog (SourceLine.ofSource repeatingLog) =
      ([first, again], [broken]) := by decide
  have readFirst : Record.Reading.ofWords first.words = .complete (record "@(x)") := by decide
  have readAgain : Record.Reading.ofWords again.words = .complete (record "@(y)") := by decide
  have afterFirst : Draft.step {} first =
      { nodes := #[(record "@(x)").node 1]
        types := Distinct.empty.insert "A"
        firsts := (∅ : Std.HashMap String Span).insert "1" first.span
        warnings := #[] } := by
    simp only [Draft.step, readFirst]
    rw [Draft.add_of_not_mem first (by simp [Draft.noteType])]
    rfl
  have draft : (Draft.ofLines [first, again]).nodes.isEmpty = false ∧
      (Draft.ofLines [first, again]).warnings.toList = [repeated] := by
    rw [Draft.ofLines, List.foldl_cons, List.foldl_cons, List.foldl_nil, afterFirst]
    simp [Draft.step, readAgain, Draft.add, Draft.noteType, Draft.warn, record, repeated]
  have parsed : parse repeatingLog = .ok
      { format := .jitLog
        graph := (Draft.ofLines [first, again]).graph.resolveEdges
        warnings := [broken, repeated] } := by
    simp only [parse, parseSourceLines_eq, dialect, passes, draft]
    rfl
  have order : starts [broken, repeated] = [58, 29] := rfl
  refine ⟨_, parsed, order, ?_⟩
  rw [InSourceOrder, order]
  decide

end Dump
end IrChart
