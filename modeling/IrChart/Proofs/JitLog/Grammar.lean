import IrChart.Dump.JitLog
import IrChart.Proofs.Text.Words
import Mathlib.Data.List.TakeWhile
import Mathlib.Data.Nat.Find

/-!
# The grammar of headers and input lines

What the two lines of a record say, told by the places of their words. A list of ids reaches to the
first word that closes it; of the words in between, those that annotate an id are left out
(`withoutAnnotations`). So the places of the arrow and of the closing words decide whether a line is
read and what it says (`grammar_read`).
-/

namespace IrChart.JitLog
open Dump Text

/-! ### Places of words -/

/-- The word stands at place `i`, and nowhere from place `start` up to there. -/
structure FirstAt (start : Nat) (word : String) (ws : List String) (i : Nat) : Prop where
  le : start ≤ i
  here : ws[i]? = some word
  earlier : ∀ k < i, start ≤ k → ws[k]? ≠ some word

instance (start : Nat) (word : String) (ws : List String) (i : Nat) :
    Decidable (FirstAt start word ws i) :=
  decidable_of_iff (start ≤ i ∧ ws[i]? = some word ∧ ∀ k < i, start ≤ k → ws[k]? ≠ some word)
    ⟨fun h => ⟨h.1, h.2.1, h.2.2⟩, fun h => ⟨h.le, h.here, h.earlier⟩⟩

/-- The word stands at no place from `start` on. -/
def AbsentFrom (start : Nat) (word : String) (ws : List String) : Prop :=
  ∀ k, start ≤ k → ws[k]? ≠ some word

theorem absentFrom_or_firstAt (start : Nat) (word : String) (ws : List String) :
    AbsentFrom start word ws ∨ ∃ i, FirstAt start word ws i := by
  by_cases present : ∃ k, start ≤ k ∧ ws[k]? = some word
  · right
    obtain ⟨le, here⟩ := Nat.find_spec present
    refine ⟨Nat.find present, le, here, ?_⟩
    intro k before from_start found
    exact Nat.find_min present before ⟨from_start, found⟩
  · left
    intro k from_start found
    exact present ⟨k, from_start, found⟩

theorem AbsentFrom.not_mem {start : Nat} {word : String} {ws : List String}
    (h : AbsentFrom start word ws) : word ∉ ws.drop start := by
  intro member
  obtain ⟨k, found⟩ := List.mem_iff_getElem?.1 member
  rw [List.getElem?_drop] at found
  exact h (start + k) (Nat.le_add_right start k) found

namespace FirstAt
variable {start i j : Nat} {word : String} {ws : List String}

theorem not_absentFrom (h : FirstAt start word ws i) : ¬ AbsentFrom start word ws :=
  fun absent => absent i h.le h.here

/-- The word is not among the words before its place. -/
theorem not_mem (h : FirstAt start word ws i) : word ∉ (ws.take i).drop start := by
  intro member
  obtain ⟨k, found⟩ := List.mem_iff_getElem?.1 member
  rw [List.getElem?_drop] at found
  have before : start + k < i := by
    obtain ⟨inside, -⟩ := List.getElem?_eq_some_iff.1 found
    rw [List.length_take] at inside
    omega
  rw [List.getElem?_take_of_lt before] at found
  exact h.earlier (start + k) before (Nat.le_add_right start k) found

/-- The words from `start` on are those before the place, the word, and those after it. -/
theorem drop_eq (h : FirstAt start word ws i) :
    ws.drop start = (ws.take i).drop start ++ word :: ws.drop (i + 1) := by
  obtain ⟨inside, here⟩ := List.getElem?_eq_some_iff.1 h.here
  have split : ws = ws.take i ++ word :: ws.drop (i + 1) := by
    rw [← here, List.getElem_cons_drop, List.take_append_drop]
  have long : start ≤ (ws.take i).length := by
    rw [List.length_take]
    have := h.le
    omega
  calc ws.drop start = (ws.take i ++ word :: ws.drop (i + 1)).drop start := by rw [← split]
    _ = (ws.take i).drop start ++ word :: ws.drop (i + 1) :=
      List.drop_append_of_le_length long

/-- What comes after the word does not matter for its place. -/
theorem take_append (h : FirstAt start word ws i) (rest : List String) :
    FirstAt start word (ws.take (i + 1) ++ rest) i := by
  obtain ⟨inside, -⟩ := List.getElem?_eq_some_iff.1 h.here
  have same (k : Nat) (before : k < i + 1) : (ws.take (i + 1) ++ rest)[k]? = ws[k]? := by
    rw [List.getElem?_append_left (by rw [List.length_take]; omega),
      List.getElem?_take_of_lt before]
  refine ⟨h.le, ?_, ?_⟩
  · rw [same i (by omega)]
    exact h.here
  · intro k before from_start
    rw [same k (by omega)]
    exact h.earlier k before from_start

end FirstAt

/-! ### Lists of annotated ids -/

/-- The words of a list without its annotations. From left to right, a word that opens like an
annotation is left out if the word before it is not; `afterId` says whether there is such a word
before the first one. -/
def withoutAnnotations (afterId : Bool) : List String → List String
  | [] => []
  | word :: rest =>
    if afterId && opensWith "(" word then withoutAnnotations false rest
    else word :: withoutAnnotations true rest

/-- What is left to read of a list, after an id or not. -/
def unread (afterId : Bool) : List String → List String
  | [] => []
  | word :: rest => if afterId && opensWith "(" word then rest else word :: rest

theorem unread_false (ws : List String) : unread false ws = ws := by
  cases ws <;> rfl

theorem annotatedIds_cons (close id : String) (rest : List String) :
    annotatedIds close (id :: rest) =
      if id = close then some ([], rest)
      else (annotatedIds close (unread true rest)).map fun (ids, after) => (id :: ids, after) := by
  cases rest with
  | nil => rfl
  | cons next rest =>
    rw [annotatedIds, unread, Bool.true_and, annotationOpen]
    split
    · rfl
    · split <;> rfl

/-- A list that nothing closes is not read. -/
theorem annotatedIds_unread_of_not_mem {close : String} (afterId : Bool) {ws : List String}
    (unclosed : close ∉ ws) : annotatedIds close (unread afterId ws) = none := by
  induction ws generalizing afterId with
  | nil => rfl
  | cons word rest ih =>
    rw [List.mem_cons, not_or] at unclosed
    obtain ⟨other, later⟩ := unclosed
    rw [unread]
    split
    · rw [← unread_false rest]
      exact ih false later
    · rw [annotatedIds_cons, if_neg (Ne.symm other), ih true later, Option.map_none]

/-- A list is read up to the word that closes it, and its annotations are left out. -/
theorem annotatedIds_unread_append {close : String} (unmarked : opensWith "(" close = false)
    (afterId : Bool) {ws : List String} (unclosed : close ∉ ws) (after : List String) :
    annotatedIds close (unread afterId (ws ++ close :: after)) =
      some (withoutAnnotations afterId ws, after) := by
  induction ws generalizing afterId with
  | nil =>
    have closes : unread afterId ([] ++ close :: after) = close :: after := by
      simp [unread, unmarked]
    rw [closes, annotatedIds_cons, if_pos rfl, withoutAnnotations]
  | cons word rest ih =>
    rw [List.mem_cons, not_or] at unclosed
    obtain ⟨other, later⟩ := unclosed
    rw [List.cons_append, unread, withoutAnnotations]
    split
    · rw [← unread_false (rest ++ close :: after)]
      exact ih false later
    · rw [annotatedIds_cons, if_neg (Ne.symm other), ih true later, Option.map_some]

/-- The first word of a list is left in, whatever it is. -/
theorem annotatedIds_append {close : String} (unmarked : opensWith "(" close = false)
    {ws : List String} (unclosed : close ∉ ws) (after : List String) :
    annotatedIds close (ws ++ close :: after) = some (withoutAnnotations false ws, after) := by
  rw [← unread_false (ws ++ close :: after)]
  exact annotatedIds_unread_append unmarked false unclosed after

theorem annotatedIds_of_not_mem {close : String} {ws : List String} (unclosed : close ∉ ws) :
    annotatedIds close ws = none := by
  rw [← unread_false ws]
  exact annotatedIds_unread_of_not_mem false unclosed

/-! ### Headers -/

/-- What a header says, by its words. The word after the arrow opens the outputs, whatever it is. -/
structure HeaderGrammar (ws : List String) (answer : Except Code Header) : Prop where
  missingArrow : answer = .error .missingArrow ↔ AbsentFrom 2 "->" ws
  unclosedOutputs (i : Nat) : FirstAt 2 "->" ws i →
    (answer = .error .unclosedOutputs ↔ AbsentFrom (i + 2) "];" ws)
  complete (i j : Nat) : FirstAt 2 "->" ws i → FirstAt (i + 2) "];" ws j →
    ∃ header, answer = .ok header ∧ ws[0]? = some ("#" ++ header.id) ∧
      ws[1]? = some header.type ∧
      header.metadata = (ws.take i).drop 2 ++ ws.drop (j + 1) ∧
      header.outputs = withoutAnnotations false ((ws.take j).drop (i + 2))

/-- A header begins with its mark and id, and its type. -/
theorem exists_of_isHeader {ws : List String} (header : isHeader ws = true) :
    ∃ id type, ws = ("#" ++ id) :: type :: ws.drop 2 := by
  unfold isHeader at header
  split at header
  · rename_i mark type position rest
    rw [Bool.and_eq_true] at header
    obtain ⟨id, rfl⟩ := exists_append_of_opensWith header.1
    exact ⟨id, type, rfl⟩
  · cases header

theorem bne_of_not_mem {word : String} {ws : List String} (absent : word ∉ ws) :
    ∀ other ∈ ws, (other != word) = true := by
  intro other member
  rw [bne_iff_ne]
  rintro rfl
  exact absent member

/-- A header without an arrow is not read. -/
theorem read_of_absentFrom {ws : List String} (header : isHeader ws = true)
    (absent : AbsentFrom 2 "->" ws) : Header.read ws = .error .missingArrow := by
  obtain ⟨id, type, split⟩ := exists_of_isHeader header
  have nothing : (ws.drop 2).dropWhile (· != arrow) = [] := by
    rw [List.dropWhile_eq_nil_iff]
    exact bne_of_not_mem absent.not_mem
  rw [split, Header.read, nothing]

/-- A header with an arrow is read as far as its outputs. -/
theorem read_of_firstAt {ws : List String} {i : Nat} (header : isHeader ws = true)
    (arrowAt : FirstAt 2 "->" ws i) :
    ∃ id type, ws[0]? = some ("#" ++ id) ∧ ws[1]? = some type ∧
      Header.read ws = match annotatedIds "];" (ws.drop (i + 2)) with
        | none => .error .unclosedOutputs
        | some (outputs, trailing) =>
          .ok { id, type, outputs, metadata := (ws.take i).drop 2 ++ trailing } := by
  obtain ⟨id, type, split⟩ := exists_of_isHeader header
  have before : ∀ word ∈ (ws.take i).drop 2, (word != arrow) = true :=
    bne_of_not_mem arrowAt.not_mem
  obtain ⟨taken, dropped⟩ := cut_append before ("->" :: ws.drop (i + 1)) (by simp [arrow])
  rw [← arrowAt.drop_eq] at taken dropped
  have listed : ws.drop (i + 2) = (ws.drop (i + 1)).drop 1 := by rw [List.drop_drop]
  have first : ws[0]? = some ("#" ++ id) := by rw [split]; rfl
  have second : ws[1]? = some type := by rw [split]; rfl
  refine ⟨id, type, first, second, ?_⟩
  rw [listed]
  rw [split, Header.read, ← split, taken, dropped]
  cases ws.drop (i + 1) with
  | nil => rfl
  | cons opening rest =>
    rw [List.drop_one, List.tail_cons, headerMark, after?_append, Option.getD_some]
    rfl

theorem headerGrammar_read {ws : List String} (header : isHeader ws = true) :
    HeaderGrammar ws (Header.read ws) := by
  constructor
  case missingArrow =>
    constructor
    · intro missing
      rcases absentFrom_or_firstAt 2 "->" ws with absent | ⟨i, arrowAt⟩
      · exact absent
      · obtain ⟨id, type, -, -, read⟩ := read_of_firstAt header arrowAt
        rw [read] at missing
        split at missing <;> cases missing
    · exact read_of_absentFrom header
  case unclosedOutputs =>
    intro i arrowAt
    obtain ⟨id, type, -, -, read⟩ := read_of_firstAt header arrowAt
    rw [read]
    rcases absentFrom_or_firstAt (i + 2) "];" ws with absent | ⟨j, closedAt⟩
    · rw [annotatedIds_of_not_mem absent.not_mem]
      simp [absent]
    · rw [closedAt.drop_eq, annotatedIds_append (by decide) closedAt.not_mem]
      simp [closedAt.not_absentFrom]
  case complete =>
    intro i j arrowAt closedAt
    obtain ⟨id, type, first, second, read⟩ := read_of_firstAt header arrowAt
    rw [closedAt.drop_eq, annotatedIds_append (by decide) closedAt.not_mem] at read
    exact ⟨_, read, first, second, rfl, rfl⟩

/-! ### Input lines -/

/-- What an input line says, by its words. -/
structure InputGrammar (ws : List String) (answer : Except Code (List String)) : Prop where
  unclosed : answer = .error .unclosedInputLine ↔ AbsentFrom 1 "]" ws
  complete (j : Nat) : FirstAt 1 "]" ws j →
    answer = .ok (withoutAnnotations false ((ws.take j).drop 1))

theorem readInputs_of_head? {ws : List String} (opens : ws.head? = some "L[") :
    readInputs ws = match annotatedIds "]" (ws.drop 1) with
      | none => .error .unclosedInputLine
      | some (inputs, _) => .ok inputs := by
  obtain ⟨listed, rfl⟩ := List.head?_eq_some_iff.1 opens
  rw [readInputs, if_pos (by decide), List.drop_one, List.tail_cons, inputLineClose]
  cases annotatedIds "]" listed <;> rfl

theorem readInputs_of_firstAt {ws : List String} {j : Nat} (opens : ws.head? = some "L[")
    (closedAt : FirstAt 1 "]" ws j) :
    readInputs ws = .ok (withoutAnnotations false ((ws.take j).drop 1)) := by
  rw [readInputs_of_head? opens, closedAt.drop_eq,
    annotatedIds_append (by decide) closedAt.not_mem]

theorem inputGrammar_readInputs {ws : List String} (opens : ws.head? = some "L[") :
    InputGrammar ws (readInputs ws) := by
  constructor
  case unclosed =>
    rcases absentFrom_or_firstAt 1 "]" ws with absent | ⟨j, closedAt⟩
    · rw [readInputs_of_head? opens, annotatedIds_of_not_mem absent.not_mem]
      simp [absent]
    · rw [readInputs_of_firstAt opens closedAt]
      simp [closedAt.not_absentFrom]
  case complete => exact fun j => readInputs_of_firstAt opens

/-- Words after the one that closes the inputs do not count. -/
theorem readInputs_take_append {ws : List String} {j : Nat} (opens : ws.head? = some "L[")
    (closedAt : FirstAt 1 "]" ws j) (rest : List String) :
    readInputs (ws.take (j + 1) ++ rest) = readInputs ws := by
  have opens' : (ws.take (j + 1) ++ rest).head? = some "L[" := by
    obtain ⟨listed, rfl⟩ := List.head?_eq_some_iff.1 opens
    rfl
  have same : (ws.take (j + 1) ++ rest).take j = ws.take j := by
    obtain ⟨inside, -⟩ := List.getElem?_eq_some_iff.1 closedAt.here
    rw [List.take_append_of_le_length (by rw [List.length_take]; omega), List.take_take,
      Nat.min_eq_left (Nat.le_succ j)]
  rw [readInputs_of_firstAt opens' (closedAt.take_append rest),
    readInputs_of_firstAt opens closedAt, same]

/-- Headers and input lines are read as their grammars have it, and what follows the inputs does not
count. -/
theorem grammar_read (ws : List String) :
    (isHeader ws = true → HeaderGrammar ws (Header.read ws)) ∧
      (ws.head? = some "L[" → InputGrammar ws (readInputs ws) ∧
        ∀ j, FirstAt 1 "]" ws j → ∀ rest,
          readInputs (ws.take (j + 1) ++ rest) = readInputs ws) := by
  refine ⟨headerGrammar_read, ?_⟩
  intro opens
  exact ⟨inputGrammar_readInputs opens, fun j => readInputs_take_append opens⟩

/-- A header whose outputs open with the word that closes them, and hold several annotations in a
row. -/
def crossedHeader : List String :=
  ["##7", "Call", "@(x", "->", "];", "(8", "(Proj)", "(9", "10", "(A)", "(B)", "(C)", "];", "->",
    "];"]

/-- An input line that goes on after it was closed. -/
def crossedInputs : List String := ["L[", "(1", "(A)", "2", "3", "(B)", "]", "4", "]"]

theorem grammar_read_crossed :
    isHeader crossedHeader = true ∧ crossedInputs.head? = some "L[" ∧
      (∃ header, Header.read crossedHeader = .ok header ∧ header.metadata = ["@(x", "->", "];"] ∧
        header.outputs = ["(8", "(9", "10", "(B)"]) ∧
      ∀ rest, readInputs (crossedInputs.take 7 ++ rest) = .ok ["(1", "2", "3"] := by
  have header : isHeader crossedHeader = true := by decide
  have opens : crossedInputs.head? = some "L[" := rfl
  have closedAt : FirstAt 1 "]" crossedInputs 6 := by decide
  obtain ⟨h, read, -, -, metadata, outputs⟩ :=
    ((grammar_read crossedHeader).1 header).complete 3 12 (by decide) (by decide)
  obtain ⟨inputs, ignored⟩ := (grammar_read crossedInputs).2 opens
  refine ⟨header, opens, ⟨h, read, metadata, ?_⟩, ?_⟩
  · rw [outputs]
    decide
  · intro rest
    rw [ignored 6 closedAt rest, inputs.complete 6 closedAt]
    decide

end IrChart.JitLog
