import IrChart.Proofs.Dump.RoundTrip
import IrChart.Proofs.JitLog.Pairing
import IrChart.Proofs.JitLog.Written

/-!
# JIT logs are read back

A JIT log that holds nothing but records is recognized as one, as soon as one of its input lines
lists an id, and parsing it gives the records back, one node each, in order and with the line
numbers of their headers (`parse_unlines_logEntries`).
-/

namespace IrChart.JitLog
open Dump Text

/-- A record of a JIT log with the spacing of its two lines. -/
structure LogEntry where
  record : LogRecord
  headerSpacing : Spacing
  inputSpacing : Spacing

namespace LogEntry

/-- The header and the input line. -/
def lines (e : LogEntry) : List String :=
  [e.headerSpacing.write e.record.headerWords, e.inputSpacing.write e.record.inputWords]

/-- The records of a log with the numbers of their headers, the first one being at `place` among
the records. -/
def numberedFrom (place : Nat) (entries : List LogEntry) : List (Record × Nat) :=
  (entries.zipIdx place).map fun (e, place) => (e.record.record, 2 * place + 1)

/-- The records of a log with the numbers of their headers. -/
def numbered (entries : List LogEntry) : List (Record × Nat) := numberedFrom 0 entries

theorem map_fst_numberedFrom (place : Nat) (entries : List LogEntry) :
    (numberedFrom place entries).map Prod.fst = entries.map (·.record.record) := by
  induction entries generalizing place with
  | nil => rfl
  | cons e entries ih =>
    have later := ih (place + 1)
    rw [numberedFrom] at later ⊢
    rw [List.zipIdx_cons, List.map_cons, List.map_cons, List.map_cons, later]

theorem words_header {e : LogEntry} (h : e.record.Writable) :
    words (e.headerSpacing.write e.record.headerWords) = e.record.headerWords :=
  words_write _ (LogRecord.isWord_of_mem_headerWords h)

theorem words_input {e : LogEntry} (h : e.record.Writable) :
    words (e.inputSpacing.write e.record.inputWords) = e.record.inputWords :=
  words_write _ (LogRecord.isWord_of_mem_inputWords h)

theorem newline_not_mem_lines {e : LogEntry} (h : e.record.Writable) :
    ∀ text ∈ e.lines, '\n' ∉ text.toList := by
  simp only [lines, List.forall_mem_cons, List.not_mem_nil, false_implies, implies_true, and_true]
  exact ⟨newline_not_mem_write _ (LogRecord.isWord_of_mem_headerWords h),
    newline_not_mem_write _ (LogRecord.isWord_of_mem_inputWords h)⟩

/-! ### The dialect -/

/-- A header is never taken for an input line or a record. -/
theorem detectFrom_headerWords_cons {r : LogRecord} (h : r.Writable) (afterHeader : Bool)
    (rest : List (List String)) :
    detectFrom afterHeader (r.headerWords :: rest) = detectFrom true rest := by
  obtain ⟨position, tail, leading, -⟩ := LogRecord.exists_position h
  have long : ¬ r.headerWords.length ≤ 2 := by
    simp only [LogRecord.headerWords, leading, List.cons_append, List.length_cons]
    omega
  have head : r.headerWords.head? ≠ some inputLineOpen := by
    simp only [LogRecord.headerWords, List.cons_append, List.head?_cons, inputLineOpen]
    intro same
    have chars := congrArg String.toList (Option.some.inj same)
    rw [String.toList_append] at chars
    exact absurd (List.cons.inj chars).1 (by decide)
  rw [detectFrom, if_neg long, if_neg (by simp [head]), if_pos (LogRecord.isHeader_headerWords h)]

/-- An input line after a header settles the dialect if it lists an id; otherwise it is too short to
count. -/
theorem detectFrom_inputWords_cons (r : LogRecord) (rest : List (List String)) :
    detectFrom true (r.inputWords :: rest) =
      if r.inputs = [] then detectFrom true rest else .jitLog := by
  cases inputs : r.inputs with
  | nil =>
    have short : r.inputWords.length ≤ 2 := by simp [LogRecord.inputWords, inputs]
    rw [detectFrom, if_pos short, if_pos rfl]
  | cons ref refs =>
    have long : ¬ r.inputWords.length ≤ 2 := by
      simp [LogRecord.inputWords, inputs, Reference.words]
    have head : r.inputWords.head? = some inputLineOpen := rfl
    rw [detectFrom, if_neg long, if_pos (by simp [head]), if_neg (by simp)]

theorem detectFrom_flatMap_append {entries : List LogEntry}
    (writable : ∀ e ∈ entries, e.record.Writable) (listed : ∃ e ∈ entries, e.record.inputs ≠ [])
    (afterHeader : Bool) (rest : List (List String)) :
    detectFrom afterHeader
      (entries.flatMap (fun e => [e.record.headerWords, e.record.inputWords]) ++ rest) =
        .jitLog := by
  induction entries generalizing afterHeader with
  | nil => simp at listed
  | cons e entries ih =>
    rw [List.flatMap_cons, List.append_assoc, List.cons_append, List.cons_append, List.nil_append,
      detectFrom_headerWords_cons (writable e (by simp)), detectFrom_inputWords_cons]
    split
    · rename_i none
      apply ih fun e' member => writable e' (List.mem_cons_of_mem e member)
      obtain ⟨e', member, some⟩ := listed
      rcases List.mem_cons.1 member with rfl | later
      · exact absurd none some
      · exact ⟨e', later, some⟩
    · rfl

theorem detect_flatMap_lines_append {entries : List LogEntry}
    (writable : ∀ e ∈ entries, e.record.Writable) (listed : ∃ e ∈ entries, e.record.inputs ≠ [])
    (rest : List String) : detect (entries.flatMap lines ++ rest) = .jitLog := by
  have read : (entries.flatMap lines).map Text.words =
      entries.flatMap fun e => [e.record.headerWords, e.record.inputWords] := by
    rw [List.map_flatMap]
    apply List.flatMap_congr
    intro e member
    simp [lines, words_header (writable e member), words_input (writable e member)]
  rw [detect, List.map_append, read]
  exact detectFrom_flatMap_append writable listed false _

/-! ### The merged lines -/

/-- A header and its input line are merged into a line that reads as the record. -/
theorem ofWords_merge {r : LogRecord} (h : r.Writable) (headerLine inputLine : SourceLine) :
    Record.Reading.ofWords
      (merge r.header (r.inputs.map (·.id)) headerLine inputLine).words = .complete r.record := by
  have writable := LogRecord.writable_record h
  rw [SourceLine.words, merge, LogRecord.mergedWords_header,
    words_unwords (Record.isWord_of_mem_words writable)]
  exact r.record.ofWords_words writable _

theorem outcomesOf_cons_cons {r : LogRecord} (h : r.Writable) {headerLine inputLine : SourceLine}
    (header : headerLine.words = r.headerWords) (input : inputLine.words = r.inputWords)
    (rest : List SourceLine) :
    outcomesOf (headerLine :: inputLine :: rest) =
      .ok (merge r.header (r.inputs.map (·.id)) headerLine inputLine) :: outcomesOf rest := by
  have inputs : readInputs inputLine.words = .ok (r.inputs.map (·.id)) := by
    rw [input]
    exact LogRecord.readInputs_inputWords h
  rw [outcomesOf]
  simp only [header, LogRecord.isHeader_headerWords h, LogRecord.read_headerWords h, if_true]
  rw [pair_eq_ok_iff.2 ⟨_, inputs, rfl⟩]

/-- The header as the line of a dump, where the record is at `place` among the records and begins at
byte `offset`. -/
def headerLine (e : LogEntry) (place offset : Nat) : SourceLine :=
  let text := e.headerSpacing.write e.record.headerWords
  ⟨text, 2 * place + 1, .ofLength offset text.utf8ByteSize⟩

/-- The input line as the line of a dump. -/
def inputLine (e : LogEntry) (place offset : Nat) : SourceLine :=
  let before := e.headerSpacing.write e.record.headerWords
  let text := e.inputSpacing.write e.record.inputWords
  ⟨text, 2 * place + 2, .ofLength (offset + before.utf8ByteSize + 1) text.utf8ByteSize⟩

/-- Where the next record begins. -/
def next (e : LogEntry) (offset : Nat) : Nat :=
  offset + (e.headerSpacing.write e.record.headerWords).utf8ByteSize + 1 +
    (e.inputSpacing.write e.record.inputWords).utf8ByteSize + 1

theorem words_headerLine {e : LogEntry} (h : e.record.Writable) (place offset : Nat) :
    (e.headerLine place offset).words = e.record.headerWords := by
  have text : (e.headerLine place offset).text = e.headerSpacing.write e.record.headerWords := rfl
  rw [SourceLine.words, text, words_header h]

theorem words_inputLine {e : LogEntry} (h : e.record.Writable) (place offset : Nat) :
    (e.inputLine place offset).words = e.record.inputWords := by
  have text : (e.inputLine place offset).text = e.inputSpacing.write e.record.inputWords := rfl
  rw [SourceLine.words, text, words_input h]

theorem enumerateFrom_flatMap_cons (e : LogEntry) (entries : List LogEntry) (rest : List String)
    (place offset : Nat) :
    SourceLine.enumerateFrom (2 * place + 1) offset ((e :: entries).flatMap lines ++ rest) =
      e.headerLine place offset :: e.inputLine place offset ::
        SourceLine.enumerateFrom (2 * (place + 1) + 1) (e.next offset)
          (entries.flatMap lines ++ rest) := rfl

/-- Blank lines hold no records. -/
theorem outcomesOf_blank {ending : List String} (blank : ∀ text ∈ ending, IsGap text)
    (number offset : Nat) : outcomesOf (SourceLine.enumerateFrom number offset ending) = [] := by
  induction ending generalizing number offset with
  | nil => rfl
  | cons text ending ih =>
    have read : words text = [] := by
      have added := words_append_gap (blank text (by simp)) ""
      rwa [String.empty_append, words_empty] at added
    rw [SourceLine.enumerateFrom, outcomesOf]
    simp only [SourceLine.words, read]
    exact ih (fun later member => blank later (List.mem_cons_of_mem text member)) _ _

/-- Each record is merged into one line that reads as the record and has the number of its
header. -/
theorem exists_merged {entries : List LogEntry} (writable : ∀ e ∈ entries, e.record.Writable)
    {ending : List String} (blank : ∀ text ∈ ending, IsGap text) (place offset : Nat) :
    ∃ records : List SourceLine,
      outcomesOf
        (SourceLine.enumerateFrom (2 * place + 1) offset (entries.flatMap lines ++ ending)) =
          records.map .ok ∧
      (∀ line ∈ records, (Record.Reading.ofWords line.words).Whole) ∧
      records.filterMap (·.node?) =
        (numberedFrom place entries).map fun entry => entry.1.node entry.2 := by
  induction entries generalizing place offset with
  | nil => exact ⟨[], outcomesOf_blank blank _ offset, by simp, rfl⟩
  | cons e entries ih =>
    have h := writable e (by simp)
    obtain ⟨records, outcomes, whole, nodes⟩ := ih
      (fun e' member => writable e' (List.mem_cons_of_mem e member)) (place + 1) (e.next offset)
    refine ⟨merge e.record.header (e.record.inputs.map (·.id)) (e.headerLine place offset)
      (e.inputLine place offset) :: records, ?_, ?_, ?_⟩
    · rw [enumerateFrom_flatMap_cons, outcomesOf_cons_cons h (words_headerLine h place offset)
        (words_inputLine h place offset), outcomes, List.map_cons]
    · rw [List.forall_mem_cons, ofWords_merge h]
      exact ⟨trivial, whole⟩
    · rw [List.filterMap_cons, SourceLine.node?, ofWords_merge h, nodes]
      rfl

theorem merged_map_ok (lines : List SourceLine) : merged (lines.map .ok) = lines := by
  induction lines with
  | nil => rfl
  | cons line lines ih => rw [List.map_cons, merged_cons_ok, ih]

theorem warnings_map_ok (lines : List SourceLine) : warnings (lines.map .ok) = [] := by
  simp [warnings]

end LogEntry

/-- A JIT log is read back. Ids may be annotated, words spaced in any way, and blank lines may
follow the records; if some input line lists an id, the dialect is recognized, each record becomes a
node that shows it and the number of its header, in order, and nothing is warned about. -/
theorem parse_unlines_logEntries (entries : List LogEntry) (ending : List String)
    (writable : ∀ e ∈ entries, e.record.Writable)
    (distinct : (entries.map (·.record.id)).Nodup)
    (listed : ∃ e ∈ entries, e.record.inputs ≠ [])
    (blank : ∀ text ∈ ending, IsGap text) :
    ∃ dump, parse (unlines (entries.flatMap LogEntry.lines ++ ending)) = .ok dump ∧
      dump.format = .jitLog ∧ dump.warnings = [] ∧
      List.Forall₂ (fun node entry => node.Shows entry.1 entry.2) dump.graph.nodes
        (LogEntry.numbered entries) := by
  have nonempty : entries ≠ [] := by
    rintro rfl
    simp at listed
  have cut : Text.lines (unlines (entries.flatMap LogEntry.lines ++ ending)) =
      entries.flatMap LogEntry.lines ++ ending := by
    apply lines_unlines
    · obtain ⟨e, rest, rfl⟩ := List.exists_cons_of_ne_nil nonempty
      simp [LogEntry.lines]
    · intro text member
      rcases List.mem_append.1 member with inRecords | inEnding
      · obtain ⟨e, inEntries, inLines⟩ := List.mem_flatMap.1 inRecords
        exact LogEntry.newline_not_mem_lines (writable e inEntries) text inLines
      · exact fun newline => (blank text inEnding _ newline).2 rfl
  obtain ⟨records, outcomes, whole, nodes⟩ := LogEntry.exists_merged writable blank 0 0
  have shown := LogEntry.map_fst_numberedFrom 0 entries
  rw [parse, SourceLine.ofSource, cut]
  apply parseSourceLines_of_whole
  · rw [SourceLine.map_text_ofTexts]
    exact LogEntry.detect_flatMap_lines_append writable listed ending
  · rw [recordLines, read_eq_outcomesOf, SourceLine.ofTexts, outcomes, LogEntry.merged_map_ok,
      LogEntry.warnings_map_ok]
  · exact whole
  · exact nodes
  · have ids := congrArg (List.map Record.id) shown
    rw [List.map_map, List.map_map] at ids
    exact ids ▸ distinct
  · rintro empty
    rw [LogEntry.numbered] at empty
    rw [empty, List.map_nil] at shown
    exact nonempty (List.map_eq_nil_iff.1 shown.symm)

/-- A log with two records: the first one has annotated ids, the second one no inputs and a tab for
a space. -/
def sampleLog : List LogEntry :=
  [{ record :=
      { id := "13", type := "Return", leading := ["@(bci:", "3)"], outputs := [⟨"1", some "(Con)"⟩]
        inputs := [⟨"10", some "(Parm)"⟩, ⟨"_", none⟩], trailing := ["#int"] }
     headerSpacing := .single
     inputSpacing := { Spacing.single with lead := "  ", lead_gap := by decide } },
   { record :=
      { id := "0x1F", type := "AddI", leading := ["@("], outputs := [⟨"13", none⟩], inputs := []
        trailing := [] }
     headerSpacing := { Spacing.single with trail := "\t", trail_gap := by decide }
     inputSpacing := .single }]

theorem parse_unlines_sampleLog :
    (∀ e ∈ sampleLog, e.record.Writable) ∧ (sampleLog.map (·.record.id)).Nodup ∧
      (∃ e ∈ sampleLog, e.record.inputs ≠ []) ∧ (∀ text ∈ [""], IsGap text) ∧
      ∃ dump, parse (unlines (sampleLog.flatMap LogEntry.lines ++ [""])) = .ok dump ∧
        dump.format = .jitLog ∧ dump.warnings = [] ∧
        List.Forall₂ (fun node entry => node.Shows entry.1 entry.2) dump.graph.nodes
          (LogEntry.numbered sampleLog) := by
  have writable : ∀ e ∈ sampleLog, e.record.Writable := by decide
  have distinct : (sampleLog.map (·.record.id)).Nodup := by decide
  have listed : ∃ e ∈ sampleLog, e.record.inputs ≠ [] := by decide
  have blank : ∀ text ∈ [""], IsGap text := by decide
  exact ⟨writable, distinct, listed, blank,
    parse_unlines_logEntries sampleLog [""] writable distinct listed blank⟩

end IrChart.JitLog
