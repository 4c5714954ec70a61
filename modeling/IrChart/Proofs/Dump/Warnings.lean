import IrChart.Dump.Parse
import IrChart.Proofs.JitLog.Pairing

/-!
# What parsing reports

Two passes report what they leave out: the first one the records of a JIT log that cannot be
merged, the second one the node records that become no node. Each has codes of its own
(`isOf_log`, `isOf_record`), and none of them is an error. So a dump is refused only for want of
nodes (`parseSourceLines_eq`), and `reported_parseSourceLines` says how the warnings stand in the
answer.
-/

namespace IrChart

/-- The parts of parsing that codes come from: numbers below 100, below 200, and the others. -/
inductive Stage where
  | log
  | record
  | dump
  deriving DecidableEq, Repr

/-- The part of parsing that a code comes from. -/
def Code.stage : Code → Stage
  | missingArrow => .log
  | unclosedOutputs => .log
  | missingInputLine => .log
  | unclosedInputLine => .log
  | missingSeparator => .record
  | unclosedInputs => .record
  | unclosedSpecials => .record
  | missingOutputs => .record
  | duplicateNode => .record
  | noNodes => .dump

example : ∀ code ∈ Code.all, (code.stage = .log ↔ Text.opensWith "E0" code.name = true) ∧
    (code.stage = .record ↔ Text.opensWith "E1" code.name = true) := by decide

/-- The diagnostic has a code of the stage. -/
def Diagnostic.isOf (stage : Stage) (d : Diagnostic) : Bool := d.code.any (·.stage == stage)

theorem Record.Gap.stage_code (gap : Gap) : gap.code.stage = .record := by
  cases gap <;> rfl

namespace JitLog
open Dump

/-- The line that a dropped record is reported at. -/
def Dropped.line : Dropped → SourceLine
  | unreadableHeader _ line => line
  | noInputLine _ line _ => line
  | unreadableInputs _ _ line => line

/-- The code that a dropped record is reported with. -/
def Dropped.code : Dropped → Code
  | unreadableHeader code _ => code
  | noInputLine .. => .missingInputLine
  | unreadableInputs code .. => code

theorem Dropped.code_diagnostic (dropped : Dropped) :
    dropped.diagnostic.code = some dropped.code := by
  cases dropped <;> rfl

/-- The records that were dropped. -/
def dropped (outcomes : List Outcome) : List Dropped :=
  outcomes.filterMap fun
    | .ok _ => none
    | .error dropped => some dropped

theorem dropped_cons_ok (line : SourceLine) (outcomes : List Outcome) :
    dropped (.ok line :: outcomes) = dropped outcomes := rfl

theorem dropped_cons_error (first : Dropped) (outcomes : List Outcome) :
    dropped (.error first :: outcomes) = first :: dropped outcomes := rfl

theorem warnings_eq_map (outcomes : List Outcome) :
    warnings outcomes = (dropped outcomes).map (·.diagnostic) := by
  rw [warnings, dropped, List.map_filterMap]
  congr 1
  funext outcome
  cases outcome <;> rfl

/-- The codes of headers that cannot be read. -/
theorem code_of_read_error {ws : List String} {code : Code} (h : Header.read ws = .error code) :
    code = .missingArrow ∨ code = .unclosedOutputs := by
  unfold Header.read at h
  split at h
  · split at h
    · cases h; exact .inl rfl
    · cases h; exact .inr rfl
    · split at h
      · cases h; exact .inr rfl
      · cases h
  · cases h; exact .inl rfl

/-- The code of input lines that cannot be read. -/
theorem code_of_readInputs_error {ws : List String} {code : Code}
    (h : readInputs ws = .error code) : code = .unclosedInputLine := by
  unfold readInputs at h
  split at h
  · split at h
    · split at h
      · cases h
      · cases h; rfl
    · cases h; rfl
  · cases h; rfl

/-- How a header and the line after it are dropped: at the header, because the line is no input
line, or at the line, because its inputs cannot be read. -/
theorem pair_eq_error {header : Header} {headerLine line : SourceLine} {why : Dropped}
    (h : pair header headerLine line = .error why) :
    why = .noInputLine header headerLine (some line) ∨
      ∃ code, readInputs line.words = .error code ∧
        why = .unreadableInputs code headerLine line := by
  unfold pair at h
  split at h
  · cases inputs : readInputs line.words with
    | ok ids =>
      rw [inputs] at h
      cases h
    | error code =>
      rw [inputs] at h
      cases h
      exact .inr ⟨code, rfl, rfl⟩
  · cases h
    exact .inl rfl

/-- Records are dropped with codes of their own. -/
theorem stage_of_mem_dropped {lines : List SourceLine} {why : Dropped}
    (member : why ∈ dropped (outcomesOf lines)) : why.code.stage = .log := by
  fun_induction outcomesOf lines with
  | case1 => cases member
  | case2 line rest header code read ih =>
    rw [dropped_cons_error] at member
    rcases List.mem_cons.1 member with rfl | later
    · rcases code_of_read_error read with rfl | rfl <;> rfl
    · exact ih later
  | case3 line header record read =>
    rw [dropped_cons_error] at member
    rcases List.mem_cons.1 member with rfl | later
    · rfl
    · cases later
  | case4 line header record read next rest ih =>
    cases outcome : pair record line next with
    | ok merged =>
      rw [outcome, dropped_cons_ok] at member
      exact ih member
    | error first =>
      rw [outcome, dropped_cons_error] at member
      rcases List.mem_cons.1 member with rfl | later
      · rcases pair_eq_error outcome with rfl | ⟨code, unread, rfl⟩
        · rfl
        · rw [Dropped.code, code_of_readInputs_error unread]
          rfl
      · exact ih later
  | case5 line rest other ih => exact ih member

theorem isOf_log {lines : List SourceLine} {w : Diagnostic}
    (member : w ∈ warnings (outcomesOf lines)) : w.isOf .log = true := by
  rw [warnings_eq_map] at member
  obtain ⟨why, inDropped, rfl⟩ := List.mem_map.1 member
  rw [Diagnostic.isOf, Dropped.code_diagnostic]
  simp [stage_of_mem_dropped inDropped]

theorem isError_log {outcomes : List Outcome} {w : Diagnostic} (member : w ∈ warnings outcomes) :
    w.isError = false := by
  rw [warnings_eq_map] at member
  obtain ⟨why, -, rfl⟩ := List.mem_map.1 member
  cases why <;> rfl

end JitLog

namespace Draft

/-- The warning that a line gives. -/
def warning? (d : Draft) (line : SourceLine) : Option Diagnostic :=
  match Record.Reading.ofWords line.words with
  | .other => none
  | .headless => some (Record.headlessWarning line.span)
  | .incomplete id _ gap => some (Record.incompleteWarning id gap line.span)
  | .complete record =>
    (d.firsts[record.id]?).map fun first => Record.duplicateWarning record.id first line.span

theorem warnings_warn (d : Draft) (w : Diagnostic) :
    (d.warn w).warnings.toList = d.warnings.toList ++ [w] := by
  simp [warn]

/-- One line gives at most one warning. -/
theorem warnings_step (d : Draft) (line : SourceLine) :
    (d.step line).warnings.toList = d.warnings.toList ++ (d.warning? line).toList := by
  unfold step warning?
  cases Record.Reading.ofWords line.words with
  | other => simp
  | headless => exact warnings_warn d _
  | incomplete id type gap => exact warnings_warn (d.noteType type) _
  | complete record =>
    have same : (d.noteType record.type).firsts = d.firsts := rfl
    simp only [add, same]
    cases d.firsts[record.id]? with
    | none => simp [noteType]
    | some first => exact warnings_warn (d.noteType record.type) _

/-- A property of the warnings of single lines is one of all warnings. -/
theorem forall_mem_warnings_foldl {P : Diagnostic → Prop} (lines : List SourceLine) (d : Draft)
    (before : ∀ w ∈ d.warnings.toList, P w)
    (line : ∀ (d : Draft) (line : SourceLine), ∀ w ∈ d.warning? line, P w) :
    ∀ w ∈ (lines.foldl step d).warnings.toList, P w := by
  induction lines generalizing d with
  | nil => exact before
  | cons first lines ih =>
    apply ih
    intro w member
    rw [warnings_step, List.mem_append, Option.mem_toList] at member
    rcases member with earlier | here
    · exact before w earlier
    · exact line d first w here

/-- What one line gives is a warning about a record. -/
theorem isOf_record_of_mem_warning? {d : Draft} {line : SourceLine} {w : Diagnostic}
    (given : w ∈ d.warning? line) : w.isOf .record = true ∧ w.isError = false := by
  unfold warning? at given
  split at given
  · cases given
  · cases given
    exact ⟨rfl, rfl⟩
  · rename_i gap _
    cases given
    exact ⟨by simp [Diagnostic.isOf, Record.incompleteWarning, Record.skipped, gap.stage_code], rfl⟩
  · obtain ⟨first, -, rfl⟩ := Option.map_eq_some_iff.1 given
    exact ⟨rfl, rfl⟩

theorem isOf_record {lines : List SourceLine} {w : Diagnostic}
    (member : w ∈ (ofLines lines).warnings.toList) : w.isOf .record = true :=
  forall_mem_warnings_foldl (P := fun w => w.isOf .record = true) lines {} (by simp)
    (fun _ _ _ given => (isOf_record_of_mem_warning? given).1) w member

theorem isError_record {lines : List SourceLine} {w : Diagnostic}
    (member : w ∈ (ofLines lines).warnings.toList) : w.isError = false :=
  forall_mem_warnings_foldl (P := fun w => w.isError = false) lines {} (by simp)
    (fun _ _ _ given => (isOf_record_of_mem_warning? given).2) w member

end Draft

namespace Dump

/-! ### Errors and warnings -/

/-- Without an error the diagnostics are kept as they are. -/
theorem conclude_of_warnings {ds : List Diagnostic} (warnings : ∀ d ∈ ds, d.isError = false) :
    conclude ds = .ok ds := by
  have none : ds.any (·.isError) = false := by simpa using warnings
  rw [conclude, none]
  rfl

/-- An error after warnings is moved to their front, and the warnings keep their order. -/
theorem conclude_append_error {ds : List Diagnostic} {e : Diagnostic}
    (warnings : ∀ d ∈ ds, d.isError = false) (error : e.isError = true) :
    conclude (ds ++ [e]) = .error ⟨e :: ds⟩ := by
  have found : (ds ++ [e]).any (·.isError) = true := by simp [error]
  have errors : ds.filter (·.isError) = [] := by simpa using warnings
  have others : ds.filter (!·.isError) = ds := by simpa using warnings
  rw [conclude, if_pos found, List.partition_eq_filter_filter]
  simp [error, errors, others, Function.comp_def]

theorem isOf_log_of_recordLines {lines records : List SourceLine} {logged : List Diagnostic}
    {format : Format} (h : recordLines format lines = (records, logged)) :
    ∀ w ∈ logged, w.isOf .log = true := by
  unfold recordLines at h
  split at h
  · rw [JitLog.read_eq_outcomesOf] at h
    cases h
    exact fun w member => JitLog.isOf_log member
  · cases h
    simp

theorem isError_of_recordLines (format : Format) (lines : List SourceLine) :
    ∀ w ∈ (recordLines format lines).2, w.isError = false := by
  unfold recordLines
  split
  · exact fun w member => JitLog.isError_log member
  · simp

/-- No pass emits an error, so a dump is refused if it has no nodes, and only then. -/
theorem parseSourceLines_eq (lines : List SourceLine) :
    parseSourceLines lines =
      let format := detect (lines.map (·.text))
      let draft := Draft.ofLines (recordLines format lines).1
      let warnings := (recordLines format lines).2 ++ draft.warnings.toList
      if draft.nodes.isEmpty then .error ⟨noNodes :: warnings⟩
      else .ok { format, graph := draft.graph.resolveEdges, warnings } := by
  have emitted : ∀ w ∈ (recordLines (detect (lines.map (·.text))) lines).2 ++
      (Draft.ofLines (recordLines (detect (lines.map (·.text))) lines).1).warnings.toList,
      w.isError = false := by
    rw [List.forall_mem_append]
    exact ⟨isError_of_recordLines _ _, fun w member => Draft.isError_record member⟩
  simp only [parseSourceLines]
  split
  · rw [conclude_append_error emitted rfl]
    rfl
  · rw [conclude_of_warnings emitted]
    rfl

/-- What parsing reports: the warnings of a dump that was read, the diagnostics of any other. -/
def reported : Except ParseFailure ParsedDump → List Diagnostic
  | .ok dump => dump.warnings
  | .error failure => failure.diagnostics

/-- The error of a dump without nodes comes first, then the warnings of the JIT log, then those of
the records. -/
theorem reported_parseSourceLines {lines records : List SourceLine} {logged : List Diagnostic}
    (h : recordLines (detect (lines.map (·.text))) lines = (records, logged)) :
    reported (parseSourceLines lines) =
      (if (Draft.ofLines records).nodes.isEmpty then [noNodes] else []) ++
        (logged ++ (Draft.ofLines records).warnings.toList) := by
  simp only [parseSourceLines_eq, h]
  split <;> rfl

end Dump
end IrChart
