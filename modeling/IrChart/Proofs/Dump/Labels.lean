import IrChart.Proofs.Dump.SourceLines
import IrChart.Proofs.Dump.Warnings
import IrChart.Session
import Mathlib.Data.List.Forall2

/-!
# Labels point at lines

Labels are carried from the lines of a source through merged lines, the index of ids and the
answer. Wherever they end up, they cover lines of the source: one, or the two lines that a record of
a JIT log was merged from (`labels_cover_lines`). What is shown of a failed parse points at the
same bytes.
-/

namespace IrChart

namespace JitLog
open Dump

/-- A record is dropped with labels for its own lines. -/
theorem span_of_mem_labels {lines : List SourceLine} {w : Diagnostic} {l : Label}
    (member : w ∈ warnings (outcomesOf lines)) (label : l ∈ w.labels) :
    ∃ line ∈ lines, l.span = line.span := by
  rw [warnings_eq_map] at member
  obtain ⟨why, inDropped, rfl⟩ := List.mem_map.1 member
  clear member
  fun_induction outcomesOf lines with
  | case1 => cases inDropped
  | case2 line rest header code read ih =>
    rw [dropped_cons_error] at inDropped
    rcases List.mem_cons.1 inDropped with rfl | later
    · simp only [Dropped.diagnostic, malformed, List.mem_singleton] at label
      exact ⟨line, List.mem_cons_self .., by rw [label]⟩
    · obtain ⟨source, inRest, span⟩ := ih later
      exact ⟨source, List.mem_cons_of_mem line inRest, span⟩
  | case3 line header record read =>
    rw [dropped_cons_error] at inDropped
    rcases List.mem_cons.1 inDropped with rfl | later
    · simp only [Dropped.diagnostic, List.mem_singleton] at label
      exact ⟨line, List.mem_cons_self .., by rw [label]⟩
    · cases later
  | case4 line header record read next rest ih =>
    have here : line ∈ line :: next :: rest := List.mem_cons_self ..
    have below : next ∈ line :: next :: rest := List.mem_cons_of_mem line (List.mem_cons_self ..)
    have further (later : why ∈ dropped (outcomesOf rest)) :
        ∃ source ∈ line :: next :: rest, l.span = source.span := by
      obtain ⟨source, inRest, span⟩ := ih later
      exact ⟨source, List.mem_cons_of_mem line (List.mem_cons_of_mem next inRest), span⟩
    cases outcome : pair record line next with
    | ok merged =>
      rw [outcome, dropped_cons_ok] at inDropped
      exact further inDropped
    | error first =>
      rw [outcome, dropped_cons_error] at inDropped
      rcases List.mem_cons.1 inDropped with rfl | later
      · rcases pair_eq_error outcome with rfl | ⟨code, -, rfl⟩
        · simp only [Dropped.diagnostic, List.mem_cons, List.not_mem_nil, or_false] at label
          rcases label with rfl | rfl
          · exact ⟨line, here, rfl⟩
          · exact ⟨next, below, rfl⟩
        · simp only [Dropped.diagnostic, malformed, List.mem_cons, List.not_mem_nil,
            or_false] at label
          rcases label with rfl | rfl
          · exact ⟨next, below, rfl⟩
          · exact ⟨line, here, rfl⟩
      · exact further later
  | case5 line rest other ih =>
    obtain ⟨source, inRest, span⟩ := ih inDropped
    exact ⟨source, List.mem_cons_of_mem line inRest, span⟩

/-- A merged line covers a header and the line after it. -/
theorem adjacent_of_mem_merged {lines : List SourceLine} {entry : SourceLine}
    (member : entry ∈ merged (outcomesOf lines)) :
    ∃ before line next after, lines = before ++ line :: next :: after ∧
      entry.span = line.span.union next.span := by
  fun_induction outcomesOf lines with
  | case1 => cases member
  | case2 line rest header code read ih =>
    obtain ⟨before, head, input, after, split, span⟩ := ih member
    exact ⟨line :: before, head, input, after, by rw [split, List.cons_append], span⟩
  | case3 line header record read => cases member
  | case4 line header record read next rest ih =>
    have further (later : entry ∈ merged (outcomesOf rest)) :
        ∃ before head input after, line :: next :: rest = before ++ head :: input :: after ∧
          entry.span = head.span.union input.span := by
      obtain ⟨before, head, input, after, split, span⟩ := ih later
      exact ⟨line :: next :: before, head, input, after, by rw [split]; rfl, span⟩
    cases outcome : pair record line next with
    | ok first =>
      rw [outcome, merged_cons_ok] at member
      rcases List.mem_cons.1 member with rfl | later
      · obtain ⟨inputs, -, rfl⟩ := pair_eq_ok_iff.1 outcome
        exact ⟨[], line, next, rest, rfl, rfl⟩
      · exact further later
    | error why =>
      rw [outcome, merged_cons_error] at member
      exact further member
  | case5 line rest other ih =>
    obtain ⟨before, head, input, after, split, span⟩ := ih member
    exact ⟨line :: before, head, input, after, by rw [split, List.cons_append], span⟩

end JitLog

namespace Draft

variable {P : Span → Prop}

/-- The index and the warnings hold only spans of a kind. -/
structure Placed (P : Span → Prop) (d : Draft) : Prop where
  firsts : ∀ (id : String) (span : Span), d.firsts[id]? = some span → P span
  labels : ∀ w ∈ d.warnings.toList, ∀ l ∈ w.labels, P l.span

theorem placed_empty : Placed P {} where
  firsts id span found := by simp at found
  labels := by simp

/-- The labels of a warning point at the line that it is about, or at the line that an id was
first taken by. -/
theorem Placed.labels_warning? {d : Draft} (h : d.Placed P) {line : SourceLine} (here : P line.span)
    {w : Diagnostic} (given : w ∈ d.warning? line) : ∀ l ∈ w.labels, P l.span := by
  intro l label
  unfold warning? at given
  split at given
  · cases given
  · cases given
    simp only [Record.headlessWarning, Record.skipped, List.mem_singleton] at label
    rwa [label]
  · cases given
    simp only [Record.incompleteWarning, Record.skipped, List.mem_singleton] at label
    rwa [label]
  · rename_i record read
    obtain ⟨first, found, rfl⟩ := Option.map_eq_some_iff.1 given
    simp only [Record.duplicateWarning, List.mem_cons, List.not_mem_nil, or_false] at label
    rcases label with rfl | rfl
    · exact here
    · exact h.firsts _ first found

theorem firsts_step (d : Draft) (line : SourceLine) :
    (d.step line).firsts = d.firsts ∨
      ∃ id, (d.step line).firsts = d.firsts.insert id line.span := by
  unfold step
  cases Record.Reading.ofWords line.words with
  | other => exact .inl rfl
  | headless => exact .inl rfl
  | incomplete id type gap => exact .inl rfl
  | complete record =>
    simp only [add]
    cases (d.noteType record.type).firsts[record.id]? with
    | none => exact .inr ⟨record.id, rfl⟩
    | some first => exact .inl rfl

/-- A line brings in no span but its own. -/
theorem Placed.step {d : Draft} (h : d.Placed P) {line : SourceLine} (here : P line.span) :
    (d.step line).Placed P := by
  constructor
  · intro id span found
    rcases firsts_step d line with same | ⟨taken, same⟩
    · rw [same] at found
      exact h.firsts id span found
    · rw [same, Std.HashMap.getElem?_insert] at found
      split at found
      · cases found
        exact here
      · exact h.firsts id span found
  · intro w member
    rw [warnings_step, List.mem_append, Option.mem_toList] at member
    rcases member with earlier | given
    · exact h.labels w earlier
    · exact h.labels_warning? here given

theorem Placed.foldl_step {d : Draft} (h : d.Placed P) {lines : List SourceLine}
    (all : ∀ line ∈ lines, P line.span) : (lines.foldl Draft.step d).Placed P := by
  induction lines generalizing d with
  | nil => exact h
  | cons line lines ih =>
    apply ih (h.step (all line (List.mem_cons_self ..)))
    intro later member
    exact all later (List.mem_cons_of_mem line member)

end Draft

namespace Dump

/-- The span covers one line of the source. -/
def CoversLine (source : String) (span : Span) : Prop :=
  ∃ line, span.CoversLines source [line]

/-- The span covers two neighbouring lines of the source. -/
def CoversPair (source : String) (span : Span) : Prop :=
  ∃ line next, span.CoversLines source [line, next]

/-- The labels of both passes cover lines: those of the first pass one line each, those of the
second pass one line each in a node dump and two in a JIT log. -/
theorem covers_of_recordLines {source : String} {format : Format} {records : List SourceLine}
    {logged : List Diagnostic}
    (h : recordLines format (SourceLine.ofSource source) = (records, logged)) :
    (∀ w ∈ logged, ∀ l ∈ w.labels, CoversLine source l.span) ∧
      ∀ line ∈ records, if format = .jitLog then CoversPair source line.span
        else CoversLine source line.span := by
  unfold recordLines at h
  split at h
  · rw [JitLog.read_eq_outcomesOf] at h
    cases h
    constructor
    · intro w member l label
      obtain ⟨line, inSource, span⟩ := JitLog.span_of_mem_labels member label
      rw [span]
      exact ⟨line.text, SourceLine.coversLines_of_mem inSource⟩
    · intro entry member
      obtain ⟨before, line, next, after, split, span⟩ := JitLog.adjacent_of_mem_merged member
      rw [if_pos rfl, span]
      exact ⟨line.text, next.text, SourceLine.coversLines_union split⟩
  · rename_i other
    cases h
    constructor
    · simp
    · intro line member
      rw [if_neg other]
      exact ⟨line.text, SourceLine.coversLines_of_mem member⟩

/-- A label of what is reported covers one line, or it belongs to a record of a JIT log and covers
the two lines of the record. -/
theorem covers_of_mem_reported {source : String} {d : Diagnostic}
    (member : d ∈ reported (parse source)) {l : Label} (label : l ∈ d.labels) :
    CoversLine source l.span ∨
      CoversPair source l.span ∧ d.isOf .record = true ∧
        detect (Text.lines source) = .jitLog := by
  generalize passes : recordLines (detect ((SourceLine.ofSource source).map (·.text)))
    (SourceLine.ofSource source) = out
  obtain ⟨records, logged⟩ := out
  obtain ⟨ofLog, ofRecords⟩ := covers_of_recordLines passes
  rw [parse, reported_parseSourceLines passes, List.mem_append, List.mem_append] at member
  rcases member with front | inLog | inRecords
  · split at front
    · rw [List.mem_singleton] at front
      subst front
      cases label
    · cases front
  · exact .inl (ofLog d inLog l label)
  · rw [SourceLine.ofSource, SourceLine.map_text_ofTexts] at ofRecords
    by_cases dialect : detect (Text.lines source) = .jitLog
    · simp only [if_pos dialect] at ofRecords
      have pair := (Draft.placed_empty.foldl_step ofRecords).labels d inRecords l label
      exact .inr ⟨pair, Draft.isOf_record inRecords, dialect⟩
    · simp only [if_neg dialect] at ofRecords
      exact .inl ((Draft.placed_empty.foldl_step ofRecords).labels d inRecords l label)

theorem CoversLine.stop_le {source : String} {span : Span} (h : CoversLine source span) :
    span.stop ≤ source.utf8ByteSize := by
  obtain ⟨line, covers⟩ := h
  exact covers.stop_le

theorem CoversPair.stop_le {source : String} {span : Span} (h : CoversPair source span) :
    span.stop ≤ source.utf8ByteSize := by
  obtain ⟨line, next, covers⟩ := h
  exact covers.stop_le

end Dump

/-- An explanation points into the source, where the labels of a diagnostic do. -/
structure Explanation.PointsAt (source : String) (e : Explanation) (d : Diagnostic) : Prop where
  quoted : e.source = some source
  starts : e.ranges.map (·.1) = d.labels.map (·.span.start)
  stops : e.ranges.map (fun range => range.1 + range.2) = d.labels.map (·.span.stop)
  inside : ∀ range ∈ e.ranges, range.1 + range.2 ≤ source.utf8ByteSize

namespace Dump

theorem pointsAt_explain {source : String} {d : Diagnostic}
    (inside : ∀ l ∈ d.labels, l.span.stop ≤ source.utf8ByteSize) :
    (d.explain source).PointsAt source d := by
  have stop (l : Label) : l.span.start + l.span.length = l.span.stop := by
    have := l.span.start_le_stop
    rw [Span.length]
    omega
  constructor
  · rfl
  · simp [Explanation.ranges, Diagnostic.explain]
  · simp [Explanation.ranges, Diagnostic.explain, stop]
  · intro range member
    obtain ⟨l, label, rfl⟩ := List.mem_map.1 member
    rw [stop]
    exact inside l label

/-- Every label covers one whole line of the source, or it is about a record of a JIT log and covers
the two lines of the record. If the source is refused, each diagnostic is explained at its
labels. -/
theorem labels_cover_lines (source : String) :
    (∀ d ∈ reported (parse source), ∀ l ∈ d.labels,
      CoversLine source l.span ∨
        CoversPair source l.span ∧ d.isOf .record = true ∧
          detect (Text.lines source) = .jitLog) ∧
      ∀ failure, Session.parse source = .error failure →
        List.Forall₂ (Explanation.PointsAt source) failure.explanations
          (reported (parse source)) := by
  refine ⟨fun d member l label => covers_of_mem_reported member label, ?_⟩
  intro failure refused
  have inside : ∀ d ∈ reported (parse source), ∀ l ∈ d.labels,
      l.span.stop ≤ source.utf8ByteSize := by
    intro d member l label
    rcases covers_of_mem_reported member label with line | ⟨pair, -, -⟩
    · exact line.stop_le
    · exact pair.stop_le
  unfold Session.parse at refused
  cases answer : parse source with
  | ok dump =>
    rw [answer] at refused
    cases refused
  | error why =>
    rw [answer] at refused inside
    cases refused
    show List.Forall₂ _ (why.diagnostics.map (·.explain source)) why.diagnostics
    rw [List.forall₂_map_left_iff, List.forall₂_same]
    intro d member
    exact pointsAt_explain (inside d member)

/-- A line that is no record, and a record without separator. -/
def headlessSource : String := "é\n1 Ü x y"

theorem labels_cover_headlessSource :
    ∃ failure, Session.parse headlessSource = .error failure ∧
      failure.explanations.map (·.ranges) = [[], [(3, 8)]] ∧
      List.Forall₂ (Explanation.PointsAt headlessSource) failure.explanations
        (reported (parse headlessSource)) := by
  let failure : ParseFailure := ⟨[noNodes, Record.headlessWarning ⟨3, 11, by decide⟩]⟩
  have refused : Session.parse headlessSource = .error (.parse failure headlessSource) := rfl
  exact ⟨_, refused, rfl, (labels_cover_lines headlessSource).2 _ refused⟩

end Dump
end IrChart
