import IrChart.Proofs.Dump.Drafts
import IrChart.Proofs.Dump.SourceLines
import IrChart.Proofs.Dump.Warnings
import IrChart.Proofs.Dump.Written
import Mathlib.Data.List.Forall2

/-!
# Node dumps are read back

A node dump may write its records in any spelling and spacing, and may hold any other lines between
them. Parsing it gives the records back, one node each, in order and with their line numbers
(`parse_unlines_dumpLines`).
-/

namespace IrChart

/-- The node says what a record on a line says. The types of its edges are left open. -/
structure Node.Shows (node : Node) (r : Record) (line : Nat) : Prop where
  id : node.id = r.id
  type : node.type = r.type
  focus : node.focus = r.focus
  inputs : node.inputs.map (·.id) = r.inputs
  specials : node.specials.map (·.id) = r.specials
  outputs : node.outputs.map (·.id) = r.outputs
  details : node.details = Text.unwords r.details
  line : node.line = line

/-- The node of a record shows it, also after its edges were typed. -/
theorem Record.shows_mapEdges_node (r : Record) (line : Nat) {f : Edge → Edge}
    (keeps : ∀ e, (f e).id = e.id) : ((r.node line).mapEdges f).Shows r line := by
  have ids (words : List String) :
      ((words.map fun id => ({ id } : Edge)).map f).map (·.id) = words := by
    simp [Function.comp_def, keeps]
  exact ⟨rfl, rfl, rfl, ids r.inputs, ids r.specials, ids r.outputs, rfl, rfl⟩

theorem map_id_of_shows {nodes : List Node} {entries : List (Record × Nat)}
    (shown : List.Forall₂ (fun node entry => node.Shows entry.1 entry.2) nodes entries) :
    nodes.map (·.id) = entries.map (·.1.id) := by
  induction shown with
  | nil => rfl
  | cons here _ later => rw [List.map_cons, List.map_cons, here.id, later]

/-- Typing the edges of the nodes of some records leaves nodes that show the records. -/
theorem Graph.forall₂_shows_resolveEdges {g : Graph} {entries : List (Record × Nat)}
    (nodes : g.nodes = entries.map fun entry => entry.1.node entry.2) :
    List.Forall₂ (fun node entry => node.Shows entry.1 entry.2) g.resolveEdges.nodes entries := by
  rw [resolveEdges, nodes, List.map_map, List.forall₂_map_left_iff, List.forall₂_same]
  intro entry _
  exact entry.1.shows_mapEdges_node entry.2 fun e => rfl

namespace Dump
open Text

/-- A dump whose record lines hold no broken record and no id twice is parsed without warnings, and
every record becomes a node. -/
theorem parseSourceLines_of_whole {lines records : List SourceLine} {format : Format}
    {entries : List (Record × Nat)} (dialect : detect (lines.map (·.text)) = format)
    (recordLines : recordLines format lines = (records, []))
    (whole : ∀ line ∈ records, (Record.Reading.ofWords line.words).Whole)
    (nodes : records.filterMap (·.node?) = entries.map fun entry => entry.1.node entry.2)
    (distinct : (entries.map (·.1.id)).Nodup) (nonempty : entries ≠ []) :
    ∃ dump, parseSourceLines lines = .ok dump ∧ dump.format = format ∧ dump.warnings = [] ∧
      List.Forall₂ (fun node entry => node.Shows entry.1 entry.2) dump.graph.nodes entries := by
  have ids : (records.filterMap (·.node?)).map (·.id) = entries.map (·.1.id) := by
    rw [nodes, List.map_map]
    rfl
  obtain ⟨drafted, unwarned⟩ := Draft.ofLines_of_whole whole (by rwa [ids])
  rw [nodes] at drafted
  have some : (Draft.ofLines records).nodes.isEmpty = false := by
    rw [← Array.isEmpty_toList, drafted]
    simpa using nonempty
  refine ⟨⟨format, (Draft.ofLines records).graph.resolveEdges, []⟩, ?_, rfl, rfl, ?_⟩
  · simp only [parseSourceLines_eq, dialect, recordLines, some, unwarned]
    rfl
  · exact Graph.forall₂_shows_resolveEdges drafted

/-! ### Lines of node dumps -/

/-- A line of a node dump: a record, written somehow, or any other text. -/
inductive DumpLine where
  | record (r : Record) (spelling : Record.Spelling) (spacing : Spacing)
  | other (text : String)

namespace DumpLine

/-- The text of a line. -/
def text : DumpLine → String
  | record r spelling spacing => spacing.write (r.words spelling)
  | other text => text

/-- The record on a line. -/
def record? : DumpLine → Option Record
  | record r _ _ => some r
  | other _ => none

/-- Words that make no record: there are less than four, or the first is no numeral. -/
def NoRecord (ws : List String) : Prop := ws.length < 4 ∨ ∀ w ∈ ws.head?, isNumeral w = false

instance (ws : List String) : Decidable (NoRecord ws) :=
  inferInstanceAs (Decidable (ws.length < 4 ∨ ∀ w ∈ ws.head?, isNumeral w = false))

/-- A record can be told from its words, and any other text is a line that is no record. -/
def Valid : DumpLine → Prop
  | record r _ _ => r.Writable
  | other text => '\n' ∉ text.toList ∧ NoRecord (words text)

/-- The records on some lines with the numbers of their lines, the first one being `number`. -/
def numberedFrom (number : Nat) (lines : List DumpLine) : List (Record × Nat) :=
  (lines.zipIdx number).filterMap fun (line, number) => line.record?.map (·, number)

/-- The records of a dump with the numbers of their lines. -/
def numbered (lines : List DumpLine) : List (Record × Nat) := numberedFrom 1 lines

theorem map_fst_numberedFrom (number : Nat) (lines : List DumpLine) :
    (numberedFrom number lines).map Prod.fst = lines.filterMap record? := by
  have unnumbered (line : DumpLine) (number : Nat) :
      (line.record?.map (·, number)).map Prod.fst = line.record? := by
    cases line.record? <;> rfl
  unfold numberedFrom
  rw [List.map_filterMap]
  simp only [unnumbered]
  calc (lines.zipIdx number).filterMap (fun x => x.1.record?)
      = ((lines.zipIdx number).map Prod.fst).filterMap record? := by
        rw [List.filterMap_map]
        rfl
    _ = lines.filterMap record? := by rw [List.zipIdx_map_fst]

instance (line : DumpLine) : Decidable line.Valid :=
  match line with
  | record r _ _ => inferInstanceAs (Decidable r.Writable)
  | other text => inferInstanceAs (Decidable ('\n' ∉ text.toList ∧ NoRecord (words text)))

theorem ofWords_of_noRecord {ws : List String} (h : NoRecord ws) :
    Record.Reading.ofWords ws = .other := by
  unfold Record.Reading.ofWords
  split
  · rename_i id second third fourth rest
    rcases h with short | unnumeral
    · simp only [List.length_cons] at short
      omega
    · rw [unnumeral id rfl]
      rfl
  · rfl

/-- The reading of a line is its record, or that it holds none. -/
theorem ofWords_words_text {line : DumpLine} (valid : line.Valid) :
    Record.Reading.ofWords (words line.text) =
      line.record?.elim Record.Reading.other Record.Reading.complete := by
  cases line with
  | record r spelling spacing =>
    rw [text, words_write spacing (Record.isWord_of_mem_words valid)]
    exact r.ofWords_words valid spelling
  | other text => exact ofWords_of_noRecord valid.2

theorem newline_not_mem_text {line : DumpLine} (valid : line.Valid) :
    '\n' ∉ line.text.toList := by
  cases line with
  | record r spelling spacing =>
    exact newline_not_mem_write spacing (Record.isWord_of_mem_words valid)
  | other text => exact valid.1

/-- The lines of a dump read as they were meant. -/
theorem whole_of_mem_enumerateFrom {lines : List DumpLine} (valid : ∀ line ∈ lines, line.Valid)
    (number offset : Nat) :
    ∀ line ∈ SourceLine.enumerateFrom number offset (lines.map text),
      (Record.Reading.ofWords line.words).Whole := by
  induction lines generalizing number offset with
  | nil => simp [SourceLine.enumerateFrom]
  | cons line lines ih =>
    rw [List.map_cons, SourceLine.enumerateFrom, List.forall_mem_cons]
    refine ⟨?_, ih (fun later member => valid later (List.mem_cons_of_mem line member)) _ _⟩
    rw [SourceLine.words, ofWords_words_text (valid line (by simp))]
    cases line.record? <;> trivial

theorem filterMap_node?_enumerateFrom {lines : List DumpLine} (valid : ∀ line ∈ lines, line.Valid)
    (number offset : Nat) :
    (SourceLine.enumerateFrom number offset (lines.map text)).filterMap (·.node?) =
      (numberedFrom number lines).map fun entry => entry.1.node entry.2 := by
  induction lines generalizing number offset with
  | nil => rfl
  | cons line lines ih =>
    have read := ofWords_words_text (valid line (by simp))
    have later := ih (fun later member => valid later (List.mem_cons_of_mem line member))
      (number + 1) (offset + line.text.utf8ByteSize + 1)
    rw [numberedFrom, List.map_cons, SourceLine.enumerateFrom, List.zipIdx_cons,
      List.filterMap_cons, List.filterMap_cons, later]
    simp only [SourceLine.node?, SourceLine.words, read]
    cases line.record? <;> rfl

end DumpLine

/-- A node dump is read back. Its records may be written in any spelling and spacing, and any lines
that are no records may stand between them; if the dump is not taken for a JIT log, each record
becomes a node that shows it and its line number, in order, and nothing is warned about. -/
theorem parse_unlines_dumpLines (lines : List DumpLine) (valid : ∀ line ∈ lines, line.Valid)
    (nonempty : lines.filterMap DumpLine.record? ≠ [])
    (distinct : ((lines.filterMap DumpLine.record?).map (·.id)).Nodup)
    (dialect : detect (lines.map DumpLine.text) ≠ .jitLog) :
    ∃ dump, parse (unlines (lines.map DumpLine.text)) = .ok dump ∧
      dump.format = detect (lines.map DumpLine.text) ∧ dump.warnings = [] ∧
      List.Forall₂ (fun node entry => node.Shows entry.1 entry.2) dump.graph.nodes
        (DumpLine.numbered lines) := by
  have records := DumpLine.map_fst_numberedFrom 1 lines
  have cut : Text.lines (unlines (lines.map DumpLine.text)) = lines.map DumpLine.text := by
    apply lines_unlines
    · rintro empty
      rw [List.map_eq_nil_iff] at empty
      simp [empty] at nonempty
    · intro text member
      obtain ⟨line, inLines, rfl⟩ := List.mem_map.1 member
      exact DumpLine.newline_not_mem_text (valid line inLines)
  rw [parse, SourceLine.ofSource, cut]
  apply parseSourceLines_of_whole
  · rw [SourceLine.map_text_ofTexts]
  · cases format : detect (lines.map DumpLine.text) with
    | jitLog => exact absurd format dialect
    | nodeDump => rfl
    | unknown => rfl
  · exact DumpLine.whole_of_mem_enumerateFrom valid 1 0
  · exact DumpLine.filterMap_node?_enumerateFrom valid 1 0
  · rw [← records, List.map_map] at distinct
    exact distinct
  · rintro empty
    rw [← records, ← DumpLine.numbered, empty] at nonempty
    exact nonempty rfl

/-- A dump with a heading, a focus record that fills all its lists, an empty line and a record with
empty lists. -/
def sampleDump : List DumpLine :=
  [.other "--- after parsing ---",
    .record
      { id := "10", focus := true, type := "Phi", inputs := ["5"], specials := ["7", "_"],
        outputs := ["0x1F"], details := ["#int", "]]"] }
      ⟨.spaced, .joined⟩
      { Spacing.single with lead := "\t ", lead_gap := by decide },
    .other "",
    .record
      { id := "0x1F", focus := false, type := "===", inputs := [], specials := [], outputs := [],
        details := [] }
      ⟨.omitted, .joined⟩ .single]

theorem parse_unlines_sampleDump :
    (∀ line ∈ sampleDump, line.Valid) ∧ sampleDump.filterMap DumpLine.record? ≠ [] ∧
      ((sampleDump.filterMap DumpLine.record?).map (·.id)).Nodup ∧
      detect (sampleDump.map DumpLine.text) ≠ .jitLog ∧
      ∃ dump, parse (unlines (sampleDump.map DumpLine.text)) = .ok dump ∧
        dump.format = detect (sampleDump.map DumpLine.text) ∧ dump.warnings = [] ∧
        List.Forall₂ (fun node entry => node.Shows entry.1 entry.2) dump.graph.nodes
          (DumpLine.numbered sampleDump) := by
  have valid : ∀ line ∈ sampleDump, line.Valid := by decide
  have nonempty : sampleDump.filterMap DumpLine.record? ≠ [] := by decide
  have distinct : ((sampleDump.filterMap DumpLine.record?).map (·.id)).Nodup := by decide
  have dialect : detect (sampleDump.map DumpLine.text) ≠ .jitLog := by decide
  exact ⟨valid, nonempty, distinct, dialect,
    parse_unlines_dumpLines sampleDump valid nonempty distinct dialect⟩

end Dump
end IrChart
