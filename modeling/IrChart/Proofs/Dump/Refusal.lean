import IrChart.Proofs.Dump.FirstDefinition
import IrChart.Proofs.Dump.Grammar
import IrChart.Proofs.Dump.Warnings

/-!
# When a dump is refused

One complete record is enough for a dump to be parsed, whatever the other lines hold: `Spells` says
what a complete record is, in the grammar of records. The passes emit nothing but warnings, so a
dump that was parsed comes with all of them, and one that was refused with the only error and all of
them after it (`parse_answers`).
-/

namespace IrChart

namespace Record

/-- The words are those of a complete record: a numeral, perhaps the mark of the focus node, the
type, the separator, and the body between fitting delimiters. -/
structure Spells (ws : List String) (r : Record) (d : Delimiters) : Prop where
  numeral : isNumeral r.id = true
  unmarked : r.focus = false → r.type ≠ ">"
  fit : d.Fit r.body
  words : ws = r.id :: (if r.focus then [">"] else []) ++ r.type :: "===" :: r.body.delimited d

namespace Reading

/-- A complete record has four words or more, and the first one is a numeral. -/
theorem head_of_complete {ws : List String} {r : Record} (read : ofWords ws = complete r) :
    ∃ id type mark, Head ws id type mark := by
  unfold ofWords at read
  split at read
  · split at read
    · cases read
    · rename_i numeral
      exact exists_head (by simp) (by simpa using numeral)
  · cases read

/-- The complete records are those that the grammar has. -/
theorem eq_complete_iff_spells {ws : List String} {r : Record} :
    ofWords ws = complete r ↔ ∃ d, Spells ws r d := by
  constructor
  · intro read
    obtain ⟨id, type, mark, head⟩ := head_of_complete read
    obtain ⟨separated, first, focus, second, outcome⟩ := (head.eq_complete_iff r).1 read
    obtain ⟨d, body, fit⟩ := Body.outcome_ok_iff.1 outcome
    have same : id = r.id := Option.some.inj (head.id.symm.trans first)
    have whole : Head ws r.id r.type "===" :=
      ⟨head.long, same ▸ head.numeral, first, second, separated⟩
    refine ⟨d, whole.numeral, ?_, fit, ?_⟩
    · rintro unfocused marked
      have unmarked : ws[1]? ≠ some ">" := by simp [← focus, unfocused]
      rw [focusOffset, if_neg unmarked, marked] at second
      exact unmarked second
    · simpa only [focus, body] using whole.split
  · rintro ⟨d, numeral, unmarked, fit, rfl⟩
    have nonempty : r.focus = false → r.body.delimited d ≠ [] := by
      simp [Body.delimited, Body.ending]
    rw [ofWords_append "===" numeral unmarked nonempty, ofHead_cons, if_pos rfl,
      Body.read_eq_iff.2 (.whole fit)]
    rfl

end Reading
end Record

namespace Draft

/-- A draft has a node if one of its lines holds a complete record. -/
theorem nodes_ofLines_ne_nil_iff (lines : List SourceLine) :
    (ofLines lines).nodes.toList ≠ [] ↔
      ∃ line ∈ lines, ∃ r, Record.Reading.ofWords line.words = .complete r := by
  have given (line : SourceLine) :
      line.node?.isSome ↔ ∃ r, Record.Reading.ofWords line.words = .complete r := by
    rw [SourceLine.node?]
    cases Record.Reading.ofWords line.words <;> simp [Record.Reading.record?]
  have some : (ofLines lines).nodes.toList ≠ [] ↔ lines.filterMap (·.node?) ≠ [] := by
    rw [nodes_ofLines]
    cases lines.filterMap (·.node?) <;> simp [List.eraseDupsBy_cons]
  rw [some, ne_eq, List.filterMap_eq_nil_iff]
  simp [← given, Option.isSome_iff_ne_none]

end Draft

namespace Dump

/-- The lines of a source that are read as records: the merged lines of a JIT log, all lines of any
other dump. -/
def records (source : String) : List SourceLine :=
  (recordLines (detect (Text.lines source)) (SourceLine.ofSource source)).1

/-- What the passes over a source emit: the warnings of merging lines, then those of reading
records. -/
def emitted (source : String) : List Diagnostic :=
  (recordLines (detect (Text.lines source)) (SourceLine.ofSource source)).2 ++
    (Draft.ofLines (records source)).warnings.toList

theorem map_words_records (source : String) :
    (records source).map (·.words) =
      (JitLog.normalizeLines (Text.lines source)).map Text.words := by
  unfold records recordLines JitLog.normalizeLines
  cases detect (Text.lines source) with
  | jitLog =>
    rw [List.map_map]
    rfl
  | nodeDump => exact SourceLine.map_words_ofTexts _
  | unknown => exact SourceLine.map_words_ofTexts _

/-- Some line is read as a complete record exactly if some normalized line spells one. -/
theorem exists_complete_iff (source : String) :
    (∃ line ∈ records source, ∃ r, Record.Reading.ofWords line.words = .complete r) ↔
      ∃ l ∈ JitLog.normalizeLines (Text.lines source), ∃ r d,
        Record.Spells (Text.words l) r d := by
  simp only [← Record.Reading.eq_complete_iff_spells]
  calc (∃ line ∈ records source, ∃ r, Record.Reading.ofWords line.words = .complete r)
      ↔ ∃ ws ∈ (records source).map (·.words), ∃ r, Record.Reading.ofWords ws = .complete r := by
        simp
    _ ↔ _ := by
      rw [map_words_records]
      simp

theorem parse_eq (source : String) :
    parse source =
      if (Draft.ofLines (records source)).nodes.toList = [] then
        .error ⟨noNodes :: emitted source⟩
      else .ok
        { format := detect (Text.lines source)
          graph := (Draft.ofLines (records source)).graph.resolveEdges
          warnings := emitted source } := by
  rw [parse, parseSourceLines_eq, SourceLine.ofSource, SourceLine.map_text_ofTexts]
  simp only [Array.isEmpty_iff, Array.toList_eq_nil_iff]
  rfl

theorem exists_code_of_isOf {stage : Stage} {w : Diagnostic} (h : w.isOf stage = true)
    (pass : stage ≠ .dump) : ∃ code, w.code = some code ∧ code.name ≠ "E300" := by
  unfold Diagnostic.isOf at h
  cases given : w.code with
  | none => simp [given] at h
  | some code =>
    refine ⟨code, rfl, ?_⟩
    rw [given, Option.any_some, beq_iff_eq] at h
    cases code with
    | noNodes => exact absurd h.symm pass
    | _ => decide

/-- The passes emit nothing but warnings, with codes of their own. -/
theorem warning_of_mem_emitted {source : String} {w : Diagnostic} (member : w ∈ emitted source) :
    w.severity = .warning ∧ ∃ code, w.code = some code ∧ code.name ≠ "E300" := by
  have severity : w.isError = false → w.severity = .warning := by
    unfold Diagnostic.isError
    cases w.severity <;> simp
  rcases List.mem_append.1 member with logged | recorded
  · exact ⟨severity (isError_of_recordLines _ _ w logged),
      exists_code_of_isOf (isOf_log_of_recordLines rfl w logged) (by decide)⟩
  · exact ⟨severity (Draft.isError_record recorded),
      exists_code_of_isOf (Draft.isOf_record recorded) (by decide)⟩

/-- A source is parsed exactly if one of its lines, or of the lines that a JIT log is turned into,
is a complete record. If it is, every warning that the passes emitted is returned; if not, the only
error is followed by all of them, in the order in which they were emitted. -/
theorem parse_answers (source : String) :
    ((∃ dump, parse source = .ok dump) ↔
      ∃ l ∈ JitLog.normalizeLines (Text.lines source), ∃ r d, Record.Spells (Text.words l) r d) ∧
    (∀ dump, parse source = .ok dump → dump.warnings = emitted source ∧
      ∀ w ∈ dump.warnings, w.severity = .warning ∧
        ∃ code, w.code = some code ∧ code.name ≠ "E300") ∧
    ∀ failure, parse source = .error failure → ∃ e,
      failure.diagnostics = e :: emitted source ∧ e.severity = .error ∧
        e.code.map Code.name = some "E300" ∧ e.labels = [] ∧
          ∀ w ∈ emitted source, w.severity = .warning ∧
            ∃ code, w.code = some code ∧ code.name ≠ "E300" := by
  rw [parse_eq, ← exists_complete_iff, ← Draft.nodes_ofLines_ne_nil_iff]
  refine ⟨?_, ?_, ?_⟩
  · split <;> simp_all
  · intro dump parsed
    split at parsed
    · cases parsed
    · cases parsed
      exact ⟨rfl, fun w member => warning_of_mem_emitted member⟩
  · intro failure refused
    split at refused
    · cases refused
      exact ⟨noNodes, rfl, rfl, rfl, rfl, fun w member => warning_of_mem_emitted member⟩
    · cases refused

/-- A log with a header without an arrow, and a record that has no separator once it is merged. -/
def brokenLog : String := "#1 A @(x) [ ];\n#2 > @(y) -> [ ];\nL[ 3 (C) ]"

theorem parse_answers_brokenLog :
    ∃ failure, parse brokenLog = .error failure ∧
      failure.diagnostics.map (·.code.map Code.name) =
        [some "E300", some "E001", some "E100"] := by
  obtain ⟨complete, -, refused⟩ := parse_answers brokenLog
  have lines : JitLog.normalizeLines (Text.lines brokenLog) = ["2 > === 3 [[ ]] @(y)"] := by
    decide
  have headless : Record.Reading.ofWords (Text.words "2 > === 3 [[ ]] @(y)") = .headless := by
    decide
  have emits : (emitted brokenLog).map (·.code.map Code.name) = [some "E001", some "E100"] := by
    decide
  rw [lines] at complete
  simp only [List.mem_singleton, exists_eq_left, ← Record.Reading.eq_complete_iff_spells,
    headless, reduceCtorEq, exists_false, iff_false] at complete
  cases answer : parse brokenLog with
  | ok dump => exact absurd ⟨dump, answer⟩ complete
  | error failure =>
    obtain ⟨e, all, -, code, -⟩ := refused failure answer
    exact ⟨failure, rfl, by rw [all, List.map_cons, code, emits]⟩

end Dump
end IrChart
