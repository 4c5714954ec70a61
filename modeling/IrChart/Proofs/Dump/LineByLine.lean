import IrChart.Proofs.Dump.FirstDefinition
import IrChart.Proofs.Dump.Grammar
import IrChart.Proofs.Dump.SourceLines
import IrChart.Proofs.Dump.Warnings
import IrChart.Proofs.Ordered
import Mathlib.Data.List.Forall2

/-!
# What becomes of each line

Building a graph reads each line on its own (`SourceLine.Reads`) and keeps the first node with an
id. Every line that holds a record becomes a node or is warned about, and not both: `Ledger` says so
of the lines so far, and each line keeps it (`Ledger.step`). From it and from what is known of nodes
and types follows what a graph and its warnings are in terms of the lines (`built_ofLines`).
-/

namespace IrChart

namespace SourceLine

/-- The line holds a record: it has four words or more, and the first one is a numeral. -/
def isRecord (line : SourceLine) : Bool :=
  4 ≤ line.words.length && line.words.head?.any isNumeral

/-- The code that the line is skipped with, whatever the other lines are. -/
def code? (line : SourceLine) : Option Code := (Record.Reading.ofWords line.words).code?

/-- What a line holds on its own: no record, a record that is skipped before or after its type was
read, or a node. -/
inductive Reads (line : SourceLine) : Prop
  | other (noRecord : line.isRecord = false) (coded : line.code? = none)
      (typed : line.type? = none) (given : line.node? = none)
  | headless (isRecord : line.isRecord = true) (coded : line.code? = some .missingSeparator)
      (typed : line.type? = none) (given : line.node? = none)
  | incomplete {code : Code} {type : String} (isRecord : line.isRecord = true)
      (coded : line.code? = some code)
      (among : code ∈ [Code.unclosedInputs, .unclosedSpecials, .missingOutputs])
      (typed : line.type? = some type) (given : line.node? = none)
  | complete {node : Node} (isRecord : line.isRecord = true) (coded : line.code? = none)
      (typed : line.type? = some node.type) (given : line.node? = some node)
      (numbered : node.line = line.number)

end SourceLine

namespace Record.Reading

theorem ofHead_ne_other (id : String) (focus : Bool) (type : String) (ws : List String) :
    ofHead id focus type ws ≠ other := by
  intro same
  unfold ofHead at same
  split at same
  · cases same
  · split at same
    · split at same <;> cases same
    · cases same

/-- Only a line without a record is read as nothing. -/
theorem isRecord_eq_false_iff {line : SourceLine} :
    line.isRecord = false ↔ ofWords line.words = other := by
  unfold SourceLine.isRecord ofWords
  rcases line.words with _ | ⟨id, _ | ⟨second, _ | ⟨third, _ | ⟨fourth, rest⟩⟩⟩⟩
  · simp
  · simp
  · simp
  · simp
  · cases numeral : isNumeral id with
    | true =>
      simp only [numeral, Bool.not_true, Bool.false_eq_true, if_false]
      split <;> simp [numeral, ofHead_ne_other]
    | false => simp [numeral]

theorem isRecord_of_ne_other {line : SourceLine} (holds : ofWords line.words ≠ other) :
    line.isRecord = true := by
  rw [← Bool.not_eq_false]
  intro noRecord
  exact holds (isRecord_eq_false_iff.1 noRecord)

end Record.Reading

open Record.Reading (isRecord_eq_false_iff isRecord_of_ne_other)

/-- Every line holds one of four things. -/
theorem SourceLine.reads (line : SourceLine) : line.Reads := by
  cases read : Record.Reading.ofWords line.words with
  | other =>
    apply Reads.other (isRecord_eq_false_iff.2 read) <;>
      simp [code?, type?, node?, read, Record.Reading.code?, Record.Reading.type?,
        Record.Reading.record?]
  | headless =>
    apply Reads.headless (isRecord_of_ne_other (by simp [read])) <;>
      simp [code?, type?, node?, read, Record.Reading.code?, Record.Reading.type?,
        Record.Reading.record?]
  | incomplete id type gap =>
    have coded : line.code? = some gap.code := by simp [code?, read, Record.Reading.code?]
    have typed : line.type? = some type := by simp [type?, read, Record.Reading.type?]
    apply Reads.incomplete (isRecord_of_ne_other (by simp [read])) coded _ typed
    · simp [node?, read, Record.Reading.record?]
    · cases gap <;> simp [Record.Gap.code]
  | complete record =>
    have given : line.node? = some (record.node line.number) := by
      simp [node?, read, Record.Reading.record?]
    apply Reads.complete (isRecord_of_ne_other (by simp [read])) _ _ given rfl
    · simp [code?, read, Record.Reading.code?]
    · simp [type?, read, Record.Reading.type?, Record.node]

namespace Draft

/-- The line became a node. -/
def keeps (nodes : List Node) (line : SourceLine) : Bool := nodes.any (·.line == line.number)

/-- The lines that hold a record and became no node. -/
def lost (nodes : List Node) (lines : List SourceLine) : List SourceLine :=
  lines.filter fun line => line.isRecord && !keeps nodes line

/-- Why a line became no node, as the warning says: its record has no separator, or it breaks off,
or the node of an earlier line has its id. -/
inductive Explains (lines : List SourceLine) (nodes : List Node) (line : SourceLine) :
    Diagnostic → Prop
  | headless (read : Record.Reading.ofWords line.words = .headless) :
      Explains lines nodes line (Record.headlessWarning line.span)
  | incomplete {id type : String} {gap : Record.Gap}
      (read : Record.Reading.ofWords line.words = .incomplete id type gap) :
      Explains lines nodes line (Record.incompleteWarning id gap line.span)
  | repeated {record : Record} {first : SourceLine} {node : Node}
      (read : Record.Reading.ofWords line.words = .complete record)
      (member : first ∈ lines) (earlier : first.number < line.number)
      (given : first.node? = some node) (kept : node ∈ nodes) (same : node.id = record.id) :
      Explains lines nodes line (Record.duplicateWarning record.id first.span line.span)

theorem lost_append (nodes : List Node) (lines more : List SourceLine) :
    lost nodes (lines ++ more) = lost nodes lines ++ lost nodes more :=
  List.filter_append ..

/-- Where the ids in the index of a draft come from, and that its nodes stand in the order of their
lines. -/
structure Indexed (lines : List SourceLine) (d : Draft) : Prop where
  firsts : ∀ id span, d.firsts[id]? = some span → ∃ first ∈ lines, ∃ node ∈ d.nodes.toList,
    first.node? = some node ∧ node.id = id ∧ first.span = span
  numbers : (d.nodes.toList.map (·.line)).Sublist (lines.map (·.number))

/-- What is known of a draft after some lines: besides its index, that each record is a node or
explained by a warning. -/
structure Ledger (lines : List SourceLine) (d : Draft) : Prop extends Indexed lines d where
  explained : List.Forall₂ (Explains lines d.nodes.toList) (lost d.nodes.toList lines)
    d.warnings.toList
  total : d.nodes.toList.length + d.warnings.toList.length = (lines.filter (·.isRecord)).length

variable {lines : List SourceLine} {d : Draft} {line : SourceLine}

theorem Explains.mono {more : List SourceLine} {nodes moreNodes : List Node} {w : Diagnostic}
    (h : Explains lines nodes line w) (subset : lines ⊆ more) (subset' : nodes ⊆ moreNodes) :
    Explains more moreNodes line w := by
  cases h with
  | headless read => exact .headless read
  | incomplete read => exact .incomplete read
  | repeated read member earlier given kept same =>
    exact .repeated read (subset member) earlier given (subset' kept) same

theorem explained_mono {more skipped : List SourceLine} {nodes moreNodes : List Node}
    {warnings : List Diagnostic} (h : List.Forall₂ (Explains lines nodes) skipped warnings)
    (subset : lines ⊆ more) (subset' : nodes ⊆ moreNodes) :
    List.Forall₂ (Explains more moreNodes) skipped warnings := by
  apply h.imp
  intro line w explains
  exact explains.mono subset subset'

/-- The warning has the code that the line is skipped with, or that of a repeated node. -/
theorem Explains.code {nodes : List Node} {w : Diagnostic} (h : Explains lines nodes line w) :
    w.code = some (line.code?.getD .duplicateNode) := by
  cases h with
  | headless read =>
    rw [SourceLine.code?, read]
    rfl
  | incomplete read =>
    rw [SourceLine.code?, read]
    rfl
  | repeated read member earlier given kept same =>
    rw [SourceLine.code?, read]
    rfl

theorem map_code_of_explained {nodes : List Node} {skipped : List SourceLine}
    {warnings : List Diagnostic} (h : List.Forall₂ (Explains lines nodes) skipped warnings) :
    warnings.map (·.code) = skipped.map fun line => some (line.code?.getD .duplicateNode) := by
  induction h with
  | nil => rfl
  | cons here _ ih => rw [List.map_cons, List.map_cons, here.code, ih]

/-- What a line does: nothing, or it gives a warning that explains it, or it adds its node. -/
theorem Indexed.step_cases (h : Indexed lines d) (later : ∀ l ∈ lines, l.number < line.number) :
    (line.isRecord = false ∧ d.step line = d) ∨
      (line.isRecord = true ∧ ∃ w, Explains lines d.nodes.toList line w ∧
        (d.step line).nodes = d.nodes ∧ (d.step line).firsts = d.firsts ∧
          (d.step line).warnings = d.warnings.push w) ∨
      (line.isRecord = true ∧ ∃ node, line.node? = some node ∧ node.line = line.number ∧
        (d.step line).nodes = d.nodes.push node ∧
          (d.step line).firsts = d.firsts.insert node.id line.span ∧
            (d.step line).warnings = d.warnings) := by
  unfold Draft.step
  cases read : Record.Reading.ofWords line.words with
  | other => exact .inl ⟨isRecord_eq_false_iff.2 read, rfl⟩
  | headless =>
    exact .inr (.inl ⟨isRecord_of_ne_other (by simp [read]), _, .headless read, rfl, rfl, rfl⟩)
  | incomplete id type gap =>
    exact .inr (.inl ⟨isRecord_of_ne_other (by simp [read]), _, .incomplete read, rfl, rfl, rfl⟩)
  | complete record =>
    right
    have firsts : (d.noteType record.type).firsts = d.firsts := rfl
    cases found : d.firsts[record.id]? with
    | some span =>
      left
      obtain ⟨first, member, node, kept, given, same, rfl⟩ := h.firsts record.id span found
      have explains := Explains.repeated read member (later first member) given kept same
      refine ⟨isRecord_of_ne_other (by simp [read]), _, explains, ?_, ?_, ?_⟩ <;>
        simp only [add, firsts, found] <;> rfl
    | none =>
      right
      refine ⟨isRecord_of_ne_other (by simp [read]), record.node line.number, ?_, rfl, ?_, ?_, ?_⟩
      · simp [SourceLine.node?, read, Record.Reading.record?]
      all_goals
        simp only [add, firsts, found]
        rfl

/-! ### One line -/

theorem ledger_empty : Ledger [] {} where
  firsts := by simp
  numbers := by simp
  explained := by simp [lost]
  total := by simp

/-- A line without a node of its own leaves the index as it is. -/
theorem Indexed.of_eq {d' : Draft} (h : Indexed lines d) (nodes : d'.nodes = d.nodes)
    (firsts : d'.firsts = d.firsts) : Indexed (lines ++ [line]) d' where
  firsts id span found := by
    rw [firsts] at found
    rw [nodes]
    obtain ⟨first, member, rest⟩ := h.firsts id span found
    exact ⟨first, List.mem_append_left _ member, rest⟩
  numbers := by
    rw [nodes, List.map_append]
    exact h.numbers.trans (List.sublist_append_left ..)

theorem Indexed.of_push {d' : Draft} {node : Node} (h : Indexed lines d)
    (given : line.node? = some node) (number : node.line = line.number)
    (nodes : d'.nodes = d.nodes.push node)
    (firsts : d'.firsts = d.firsts.insert node.id line.span) : Indexed (lines ++ [line]) d' where
  firsts id span found := by
    rw [firsts, Std.HashMap.getElem?_insert] at found
    rw [nodes, Array.toList_push]
    split at found
    · rename_i same
      cases found
      exact ⟨line, by simp, node, by simp, given, by simpa using same, rfl⟩
    · obtain ⟨first, member, node', kept, rest⟩ := h.firsts id span found
      exact ⟨first, List.mem_append_left _ member, node', List.mem_append_left _ kept, rest⟩
  numbers := by
    rw [nodes, Array.toList_push, List.map_append, List.map_append]
    apply h.numbers.append
    simp [number]

/-- No node has the number of a line after the others. -/
theorem Indexed.not_keeps (h : Indexed lines d) (later : ∀ l ∈ lines, l.number < line.number) :
    keeps d.nodes.toList line = false := by
  rw [keeps, List.any_eq_false]
  intro node member same
  have numbered : node.line ∈ lines.map (·.number) :=
    h.numbers.subset (List.mem_map_of_mem member)
  obtain ⟨l, inLines, number⟩ := List.mem_map.1 numbered
  have before := later l inLines
  rw [beq_iff_eq] at same
  omega

theorem Ledger.skip (h : Ledger lines d) (noRecord : line.isRecord = false) :
    Ledger (lines ++ [line]) d where
  toIndexed := h.toIndexed.of_eq rfl rfl
  explained := by
    have same : lost d.nodes.toList (lines ++ [line]) = lost d.nodes.toList lines := by
      rw [lost_append]
      simp [lost, noRecord]
    rw [same]
    exact explained_mono h.explained (List.subset_append_left ..) (List.Subset.refl _)
  total := by
    rw [h.total]
    simp [noRecord]

theorem Ledger.warn {d' : Draft} (h : Ledger lines d) (isRecord : line.isRecord = true)
    (later : ∀ l ∈ lines, l.number < line.number) {w : Diagnostic}
    (explains : Explains lines d.nodes.toList line w) (nodes : d'.nodes = d.nodes)
    (firsts : d'.firsts = d.firsts) (warnings : d'.warnings = d.warnings.push w) :
    Ledger (lines ++ [line]) d' where
  toIndexed := h.toIndexed.of_eq nodes firsts
  explained := by
    have more : lost d.nodes.toList (lines ++ [line]) = lost d.nodes.toList lines ++ [line] := by
      rw [lost_append]
      simp [lost, isRecord, h.not_keeps later]
    rw [nodes, warnings, more, Array.toList_push]
    exact explained_mono (List.rel_append h.explained (.cons explains .nil))
      (List.subset_append_left ..) (List.Subset.refl _)
  total := by
    rw [nodes, warnings, Array.toList_push, List.length_append, ← Nat.add_assoc, h.total]
    simp [isRecord]

theorem Ledger.add {d' : Draft} (h : Ledger lines d) (isRecord : line.isRecord = true)
    (later : ∀ l ∈ lines, l.number < line.number) {node : Node}
    (given : line.node? = some node) (number : node.line = line.number)
    (nodes : d'.nodes = d.nodes.push node)
    (firsts : d'.firsts = d.firsts.insert node.id line.span)
    (warnings : d'.warnings = d.warnings) : Ledger (lines ++ [line]) d' where
  toIndexed := h.toIndexed.of_push given number nodes firsts
  explained := by
    -- The new node has the number of the new line, so it is the node of no line before.
    have same : lost (d.nodes.push node).toList (lines ++ [line]) = lost d.nodes.toList lines := by
      have new : lost (d.nodes.push node).toList [line] = [] := by simp [lost, keeps, number]
      rw [lost_append, new, List.append_nil]
      apply List.filter_congr
      intro l member
      have before := later l member
      have other : (line.number == l.number) = false := by
        rw [beq_eq_false_iff_ne]
        omega
      simp [keeps, number, other]
    rw [nodes, warnings, same, Array.toList_push]
    exact explained_mono h.explained (List.subset_append_left ..) (List.subset_append_left ..)
  total := by
    rw [nodes, warnings, Array.toList_push, List.length_append, Nat.add_right_comm, h.total]
    simp [isRecord]

/-- A line with a number after those of the others keeps the ledger. -/
theorem Ledger.step (h : Ledger lines d) (later : ∀ l ∈ lines, l.number < line.number) :
    Ledger (lines ++ [line]) (d.step line) := by
  rcases h.step_cases later with ⟨noRecord, same⟩ |
    ⟨isRecord, w, explains, nodes, firsts, warnings⟩ |
    ⟨isRecord, node, given, number, nodes, firsts, warnings⟩
  · rw [same]
    exact h.skip noRecord
  · exact h.warn isRecord later explains nodes firsts warnings
  · exact h.add isRecord later given number nodes firsts warnings

/-! ### All lines -/

theorem Ledger.foldl_step {before : List SourceLine} (h : Ledger before d)
    (ascending : SourceLine.Ascending (before ++ lines)) :
    Ledger (before ++ lines) (lines.foldl Draft.step d) := by
  induction lines generalizing before d with
  | nil => rwa [List.append_nil]
  | cons line lines ih =>
    have split : before ++ line :: lines = before ++ [line] ++ lines := by simp
    have later : ∀ l ∈ before, l.number < line.number := by
      intro l member
      exact (List.pairwise_append.1 ascending).2.2 l member line (List.mem_cons_self ..)
    rw [split] at ascending ⊢
    exact ih (h.step later) ascending

theorem ledger_ofLines (ascending : SourceLine.Ascending lines) : Ledger lines (ofLines lines) :=
  ledger_empty.foldl_step ascending

/-- What a graph and its warnings are in terms of the lines that they come from. -/
structure Built (lines : List SourceLine) (g : Graph) (warnings : List Diagnostic) : Prop where
  reads : ∀ line ∈ lines, line.Reads
  /-- Of the nodes with an id, the first is kept. -/
  nodes : g.nodes = (lines.filterMap (·.node?)).eraseDupsBy Node.isRepeatOf
  /-- The types are those of all records that name one. -/
  types : g.types.toList = (lines.filterMap (·.type?)).eraseDups
  /-- Each record that became no node is explained by one warning. -/
  explained : List.Forall₂ (Explains lines g.nodes) (lost g.nodes lines) warnings
  codes : warnings.map (·.code) =
    (lost g.nodes lines).map fun line => some (line.code?.getD .duplicateNode)
  distinct : (g.nodes.map (·.id)).Nodup
  ascending : (g.nodes.map (·.line)).Pairwise (· < ·)
  typed : ∀ node ∈ g.nodes, node.type ∈ g.types.toList
  total : g.nodes.length + warnings.length = (lines.filter (·.isRecord)).length

end Draft

namespace Dump
open Draft

/-- The lines that are read as records have ascending numbers. -/
theorem ascending_recordLines (format : Format) (texts : List String) :
    SourceLine.Ascending (recordLines format (SourceLine.ofTexts texts)).1 := by
  have ascending := SourceLine.ascending_ofTexts texts
  unfold recordLines
  split
  · rw [JitLog.read_eq_outcomesOf]
    have numbers := (List.pairwise_map.2 ascending).sublist
      (JitLog.map_number_merged_sublist (SourceLine.ofTexts texts))
    exact List.pairwise_map.1 numbers
  · exact ascending

/-- Lines with ascending numbers, as those of any dump have them, are built into the first nodes of
their ids. -/
theorem built_ofLines :
    (∀ lines, SourceLine.Ascending lines →
      Built lines (ofLines lines).graph (ofLines lines).warnings.toList) ∧
      ∀ format texts, SourceLine.Ascending (recordLines format (SourceLine.ofTexts texts)).1 := by
  refine ⟨?_, ascending_recordLines⟩
  intro lines ascending
  have ledger := ledger_ofLines ascending
  have valid := valid_ofLines lines
  constructor
  case reads => exact fun line _ => line.reads
  case nodes => exact nodes_ofLines lines
  case types =>
    show (ofLines lines).types.toList = _
    rw [types_ofLines, Distinct.toList_ofList_eq_eraseDups]
  case explained => exact ledger.explained
  case codes => exact map_code_of_explained ledger.explained
  case distinct => exact valid.nodup
  case ascending =>
    have numbers : (lines.map (·.number)).Pairwise (· < ·) := List.pairwise_map.2 ascending
    exact numbers.sublist ledger.numbers
  case typed => exact valid.typed
  case total => exact ledger.total

/-- A record that breaks off, two with its id, and one without separator. -/
def mixedLines : List SourceLine :=
  SourceLine.ofTexts
    ["1 A === 2", "1 B === [[ 2 ]]", "graph", "1 A === 2 [[]]", "2 C 1 [[ ]]", "2 C === 1 [[]]"]

theorem built_ofLines_mixedLines :
    SourceLine.Ascending mixedLines ∧
      (ofLines mixedLines).graph.nodes.map (fun node => (node.id, node.type, node.line)) =
        [("1", "B", 2), ("2", "C", 6)] ∧
      (ofLines mixedLines).graph.types.toList = ["A", "B", "C"] ∧
      (ofLines mixedLines).warnings.toList.length = 3 := by
  have ascending : SourceLine.Ascending mixedLines := SourceLine.ascending_ofTexts _
  have built := built_ofLines.1 mixedLines ascending
  have nodes : (ofLines mixedLines).graph.nodes.map (fun node => (node.id, node.type, node.line)) =
      [("1", "B", 2), ("2", "C", 6)] := by
    rw [built.nodes]
    decide
  refine ⟨ascending, nodes, ?_, ?_⟩
  · rw [built.types]
    decide
  · have total := built.total
    have kept : (ofLines mixedLines).graph.nodes.length = 2 := by
      rw [← List.length_map, nodes]
      rfl
    have records : (mixedLines.filter (·.isRecord)).length = 5 := by decide
    omega

end Dump
end IrChart
