import IrChart.Proofs.Dump.Drafts
import IrChart.Proofs.Dump.Warnings
import IrChart.Proofs.Text.Words
import Mathlib.Data.List.Forall2

/-!
# Parsing sees words only

Nothing but the words of its lines decides what becomes of a dump. Two dumps whose lines have the
same words are taken through both passes side by side, and each pass keeps them alike; only the
spans of the labels may differ in the end (`unplaced_parseLines`). A carriage return at the end of
a line is a blank, so a dump may end its lines either way.
-/

namespace IrChart

namespace Text

/-- The text with a carriage return before every newline. -/
def crlf (text : String) : String :=
  String.ofList (text.toList.flatMap fun c => if c = '\n' then ['\r', '\n'] else [c])

theorem words_append_return (line : String) : words (line ++ "\r") = words line :=
  words_append_gap (by decide) line

/-- Each line gets a carriage return at its end, except for the last one. -/
theorem splitOnP_crlf (cs : List Char) :
    List.Forall₂ (fun ended plain => ended = plain ∨ ended = plain ++ ['\r'])
      ((cs.flatMap fun c => if c = '\n' then ['\r', '\n'] else [c]).splitOnP (· == '\n'))
      (cs.splitOnP (· == '\n')) := by
  induction cs with
  | nil => exact List.Forall₂.cons (.inl rfl) List.Forall₂.nil
  | cons c cs ih =>
    rw [List.flatMap_cons]
    by_cases newline : c = '\n'
    · subst newline
      exact List.Forall₂.cons (.inr rfl) ih
    · have inside : ¬(c == '\n') = true := by simpa using newline
      rw [if_neg newline, List.singleton_append, List.splitOnP_cons_eq_if_modifyHead,
        List.splitOnP_cons_eq_if_modifyHead, if_neg inside, if_neg inside]
      obtain ⟨plain, rest, split⟩ :=
        List.exists_cons_of_ne_nil (List.splitOnP_ne_nil (· == '\n') cs)
      rw [split, List.forall₂_cons_right_iff] at ih
      obtain ⟨ended, rest', first, later, split'⟩ := ih
      rw [split, split', List.modifyHead_cons, List.modifyHead_cons]
      refine List.Forall₂.cons ?_ later
      rcases first with rfl | rfl
      · exact .inl rfl
      · exact .inr rfl

/-- The words of the lines stay. -/
theorem map_words_lines_crlf (text : String) :
    (lines (crlf text)).map words = (lines text).map words := by
  have pieces := splitOnP_crlf text.toList
  rw [lines, lines, crlf, String.toList_ofList, List.map_map, List.map_map,
    ← List.forall₂_eq_eq_eq, List.forall₂_map_left_iff, List.forall₂_map_right_iff]
  refine pieces.imp ?_
  intro ended plain pair
  rcases pair with rfl | rfl
  · rfl
  · rw [Function.comp_apply, Function.comp_apply, String.ofList_append]
    exact words_append_return _

end Text

/-- The label without its place. -/
def Label.unplaced (l : Label) : Label := { l with span := default }

/-- The diagnostic without the places of its labels. -/
def Diagnostic.unplaced (d : Diagnostic) : Diagnostic :=
  { d with labels := d.labels.map (·.unplaced) }

namespace SourceLine

/-- Two lines with the same words and the same number. -/
structure Alike (line line' : SourceLine) : Prop where
  words : line.words = line'.words
  number : line.number = line'.number

theorem alike_enumerateFrom {texts texts' : List String} (number offset offset' : Nat)
    (h : texts.map Text.words = texts'.map Text.words) :
    List.Forall₂ Alike (enumerateFrom number offset texts)
      (enumerateFrom number offset' texts') := by
  induction texts generalizing number offset offset' texts' with
  | nil =>
    rw [List.map_nil, eq_comm, List.map_eq_nil_iff] at h
    subst h
    exact List.Forall₂.nil
  | cons text texts ih =>
    rw [List.map_cons, eq_comm, List.map_eq_cons_iff] at h
    obtain ⟨text', rest, rfl, words, later⟩ := h
    exact List.Forall₂.cons ⟨words.symm, rfl⟩ (ih _ _ _ later.symm)

theorem alike_ofTexts {texts texts' : List String}
    (h : texts.map Text.words = texts'.map Text.words) :
    List.Forall₂ Alike (ofTexts texts) (ofTexts texts') := alike_enumerateFrom 1 0 0 h

theorem map_words_of_alike {lines lines' : List SourceLine} (h : List.Forall₂ Alike lines lines') :
    lines.map (·.words) = lines'.map (·.words) := by
  rw [← List.forall₂_eq_eq_eq, List.forall₂_map_left_iff, List.forall₂_map_right_iff]
  exact h.imp fun _ _ alike => alike.words

end SourceLine

namespace JitLog
open SourceLine (Alike)

/-- Two records of which the same became: lines that are alike, or warnings that differ in the
places of their labels only. -/
inductive AlikeOutcome : Outcome → Outcome → Prop where
  | merged {line line' : SourceLine} (alike : Alike line line') :
      AlikeOutcome (.ok line) (.ok line')
  | dropped {why why' : Dropped} (same : why.diagnostic.unplaced = why'.diagnostic.unplaced) :
      AlikeOutcome (.error why) (.error why')

theorem alike_pair {headerLine headerLine' line line' : SourceLine} (header : Header)
    (heads : Alike headerLine headerLine') (alike : Alike line line') :
    AlikeOutcome (pair header headerLine line) (pair header headerLine' line') := by
  unfold pair
  rw [← alike.words]
  by_cases opens : line.words.head? = some Dump.inputLineOpen
  · rw [if_pos opens, if_pos opens]
    cases readInputs line.words with
    | ok inputs => exact .merged ⟨rfl, heads.number⟩
    | error code => exact .dropped rfl
  · rw [if_neg opens, if_neg opens]
    exact .dropped rfl

/-- The pass over a JIT log keeps lines alike. -/
theorem alike_outcomesOf {lines lines' : List SourceLine}
    (h : List.Forall₂ Alike lines lines') :
    List.Forall₂ AlikeOutcome (outcomesOf lines) (outcomesOf lines') := by
  fun_induction outcomesOf lines generalizing lines' with
  | case1 =>
    cases h
    exact List.Forall₂.nil
  | case2 line rest header code read ih =>
    obtain - | ⟨first, later⟩ := h
    rw [first.words] at header read
    rw [outcomesOf, if_pos header, read]
    exact List.Forall₂.cons (.dropped rfl) (ih later)
  | case3 line header record read =>
    obtain - | ⟨first, ⟨⟩⟩ := h
    rw [first.words] at header read
    rw [outcomesOf, if_pos header, read]
    exact List.Forall₂.cons (.dropped rfl) List.Forall₂.nil
  | case4 line header record read next rest ih =>
    obtain - | ⟨first, - | ⟨second, later⟩⟩ := h
    rw [first.words] at header read
    rw [outcomesOf, if_pos header, read]
    exact List.Forall₂.cons (alike_pair record first second) (ih later)
  | case5 line rest other ih =>
    obtain - | ⟨first, later⟩ := h
    rw [first.words] at other
    rw [outcomesOf, if_neg other]
    exact ih later

theorem alike_merged {outcomes outcomes' : List Outcome}
    (h : List.Forall₂ AlikeOutcome outcomes outcomes') :
    List.Forall₂ Alike (merged outcomes) (merged outcomes') := by
  induction h with
  | nil => exact List.Forall₂.nil
  | cons first later ih =>
    cases first with
    | merged alike => exact List.Forall₂.cons alike ih
    | dropped same => exact ih

theorem map_unplaced_warnings {outcomes outcomes' : List Outcome}
    (h : List.Forall₂ AlikeOutcome outcomes outcomes') :
    (warnings outcomes).map (·.unplaced) = (warnings outcomes').map (·.unplaced) := by
  induction h with
  | nil => rfl
  | cons first later ih =>
    cases first with
    | merged alike => exact ih
    | dropped same => exact congrArg₂ List.cons same ih

end JitLog

namespace Draft
open SourceLine (Alike)

/-- Two drafts that differ in places only. -/
structure Alike (d d' : Draft) : Prop where
  nodes : d.nodes = d'.nodes
  types : d.types = d'.types
  taken : ∀ id, id ∈ d.firsts ↔ id ∈ d'.firsts
  warnings : d.warnings.toList.map (·.unplaced) = d'.warnings.toList.map (·.unplaced)

theorem Alike.warn {d d' : Draft} (h : d.Alike d') {w w' : Diagnostic}
    (same : w.unplaced = w'.unplaced) : (d.warn w).Alike (d'.warn w') where
  nodes := h.nodes
  types := h.types
  taken := h.taken
  warnings := by
    rw [warnings_warn, warnings_warn, List.map_append, List.map_append, h.warnings,
      List.map_singleton, List.map_singleton, same]

theorem Alike.noteType {d d' : Draft} (h : d.Alike d') (type : String) :
    (d.noteType type).Alike (d'.noteType type) where
  nodes := h.nodes
  types := congrArg (·.insert type) h.types
  taken := h.taken
  warnings := h.warnings

theorem Alike.add {d d' : Draft} (h : d.Alike d') (record : Record) {line line' : SourceLine}
    (alike : line.Alike line') : (d.add record line).Alike (d'.add record line') := by
  by_cases taken : record.id ∈ d.firsts
  · obtain ⟨first, found⟩ := Option.isSome_iff_exists.1
      (Std.HashMap.isSome_getElem?_iff_mem.2 taken)
    obtain ⟨first', found'⟩ := Option.isSome_iff_exists.1
      (Std.HashMap.isSome_getElem?_iff_mem.2 ((h.taken record.id).1 taken))
    rw [Draft.add, found, Draft.add, found']
    exact h.warn rfl
  · have free : record.id ∉ d'.firsts := fun member => taken ((h.taken record.id).2 member)
    rw [add_of_not_mem line taken, add_of_not_mem line' free]
    constructor
    · rw [h.nodes, alike.number]
    · exact h.types
    · intro id
      rw [Std.HashMap.mem_insert, Std.HashMap.mem_insert, h.taken id]
    · exact h.warnings

/-- Lines that are alike keep drafts alike. -/
theorem Alike.step {d d' : Draft} (h : d.Alike d') {line line' : SourceLine}
    (alike : line.Alike line') : (d.step line).Alike (d'.step line') := by
  unfold Draft.step
  rw [← alike.words]
  cases Record.Reading.ofWords line.words with
  | other => exact h
  | headless => exact h.warn rfl
  | incomplete id type gap => exact (h.noteType type).warn rfl
  | complete record => exact (h.noteType record.type).add record alike

theorem Alike.foldl_step {d d' : Draft} (h : d.Alike d') {lines lines' : List SourceLine}
    (alike : List.Forall₂ SourceLine.Alike lines lines') :
    (lines.foldl Draft.step d).Alike (lines'.foldl Draft.step d') := by
  induction alike generalizing d d' with
  | nil => exact h
  | cons first later ih => exact ih (h.step first)

theorem alike_ofLines {lines lines' : List SourceLine}
    (alike : List.Forall₂ SourceLine.Alike lines lines') : (ofLines lines).Alike (ofLines lines') :=
  Alike.foldl_step ⟨rfl, rfl, fun _ => Iff.rfl, rfl⟩ alike

end Draft

namespace Dump
open SourceLine (Alike)

/-- The answer of parsing without the places of its labels. -/
def unplaced : Except ParseFailure ParsedDump → Except ParseFailure ParsedDump
  | .ok dump => .ok { dump with warnings := dump.warnings.map (·.unplaced) }
  | .error failure => .error ⟨failure.diagnostics.map (·.unplaced)⟩

theorem alike_recordLines (format : Format) {lines lines' : List SourceLine}
    (h : List.Forall₂ Alike lines lines') :
    List.Forall₂ Alike (recordLines format lines).1 (recordLines format lines').1 ∧
      (recordLines format lines).2.map (·.unplaced) =
        (recordLines format lines').2.map (·.unplaced) := by
  cases format with
  | jitLog =>
    have outcomes := JitLog.alike_outcomesOf h
    simp only [recordLines, JitLog.read_eq_outcomesOf]
    exact ⟨JitLog.alike_merged outcomes, JitLog.map_unplaced_warnings outcomes⟩
  | nodeDump => exact ⟨h, rfl⟩
  | unknown => exact ⟨h, rfl⟩

theorem detect_of_alike {lines lines' : List SourceLine} (h : List.Forall₂ Alike lines lines') :
    detect (lines.map (·.text)) = detect (lines'.map (·.text)) := by
  have words := SourceLine.map_words_of_alike h
  unfold detect
  rw [List.map_map, List.map_map]
  exact congrArg (detectFrom false) words

theorem unplaced_parseSourceLines {lines lines' : List SourceLine}
    (h : List.Forall₂ Alike lines lines') :
    unplaced (parseSourceLines lines) = unplaced (parseSourceLines lines') := by
  obtain ⟨records, logged⟩ := alike_recordLines (detect (lines.map (·.text))) h
  have drafts := Draft.alike_ofLines records
  rw [parseSourceLines_eq, parseSourceLines_eq, ← detect_of_alike h]
  simp only [← drafts.nodes]
  split
  · simp only [unplaced, List.map_cons, List.map_append, logged, drafts.warnings]
  · simp only [unplaced, List.map_append, logged, drafts.warnings, Draft.graph, drafts.nodes,
      drafts.types]

/-- Dumps with the same words on their lines are parsed alike: to the same graph, with the same
diagnostics but for the places of the labels. The newlines of a source may have carriage returns
before them. -/
theorem unplaced_parseLines (ls ls' : List String) :
    (ls.map Text.words = ls'.map Text.words →
      unplaced (parseLines ls) = unplaced (parseLines ls')) ∧
      ∀ source, unplaced (parse (Text.crlf source)) = unplaced (parse source) := by
  constructor
  · intro same
    exact unplaced_parseSourceLines (SourceLine.alike_ofTexts same)
  · intro source
    exact unplaced_parseSourceLines
      (SourceLine.alike_ofTexts (Text.map_words_lines_crlf source))

theorem unplaced_parseLines_indented :
    ["1 A === _ [[ ]]", "2 B"].map Text.words = ["  1\tA === _  [[ ]]\r", "2 B "].map Text.words ∧
      unplaced (parseLines ["1 A === _ [[ ]]", "2 B"]) =
        unplaced (parseLines ["  1\tA === _  [[ ]]\r", "2 B "]) := by
  have same : ["1 A === _ [[ ]]", "2 B"].map Text.words =
      ["  1\tA === _  [[ ]]\r", "2 B "].map Text.words := by decide
  exact ⟨same, (unplaced_parseLines _ _).1 same⟩

end Dump
end IrChart
