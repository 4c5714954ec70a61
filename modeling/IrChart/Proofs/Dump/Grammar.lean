import IrChart.Dump.Parse
import IrChart.Proofs.Text.Words
import Mathlib.Data.List.TakeWhile

/-!
# The grammar of records

What a record is, said without reading it from left to right. The words of a body are its lists
between delimiters (`Body.delimited`), and `Delimiters.Fit` tells which words may delimit which
lists. `Body.Outcome` adds the ways in which the lists break off. Every list of words has exactly
one outcome, the one that is read (`Body.read_eq_iff`). So a line that begins like a record gives
the diagnostic or the record that the grammar has for it, and a record has lost no word of its line
but the delimiters (`Reading.grammar_ofWords`).
-/

namespace IrChart
namespace Record
open Dump Text

/-- The words that stand around the lists of a body. Special inputs may do without any, outputs
without the second. -/
structure Delimiters where
  specialsOpening : Option String
  specialsClosing : Option String
  outputsOpening : String
  outputsClosing : Option String
  deriving DecidableEq, Repr

/-- Special inputs between the words that open and close them, in front of the words `rest`. -/
inductive SpecialsBefore (rest : List String) :
    Option String → List String → Option String → Prop
  /-- No word opens them. -/
  | absent (opens : ∃ next ∈ rest.head?, opensWith "[[" next = true) :
      SpecialsBefore rest none [] none
  /-- One word opens and closes them. -/
  | empty : SpecialsBefore rest (some "()") [] none
  /-- They reach to the first word that closes them. -/
  | closed {opening closing : String} {ids : List String} (opens : opensWith "(" opening = true)
      (nonempty : opening ≠ "()") (unclosing : ∀ w ∈ ids, opensWith ")" w = false)
      (closes : opensWith ")" closing = true) :
      SpecialsBefore rest (some opening) ids (some closing)

/-- Outputs between the words that open and close them, in front of the details. -/
inductive OutputsBefore : List String → String → List String → Option String → Prop
  /-- One word opens and closes them. -/
  | empty {details : List String} : OutputsBefore details "[[]]" [] none
  /-- They reach to the first word that closes them. -/
  | closed {details ids : List String} {opening closing : String} (nonempty : opening ≠ "[[]]")
      (unclosing : ∀ w ∈ ids, opensWith "]]" w = false) (closes : opensWith "]]" closing = true) :
      OutputsBefore details opening ids (some closing)
  /-- They reach to the end of the line. -/
  | unclosed {ids : List String} {opening : String} (nonempty : opening ≠ "[[]]")
      (unclosing : ∀ w ∈ ids, opensWith "]]" w = false) : OutputsBefore [] opening ids none

/-- No word opens a list after the inputs. -/
def Unopening (ws : List String) : Prop :=
  ∀ w ∈ ws, opensWith "[[" w = false ∧ opensWith "(" w = false

/-- The words of the outputs and the details. -/
def Body.ending (b : Body) (d : Delimiters) : List String :=
  d.outputsOpening :: (b.outputs ++ d.outputsClosing.toList ++ b.details)

/-- The words of a body. -/
def Body.delimited (b : Body) (d : Delimiters) : List String :=
  b.inputs ++ (d.specialsOpening.toList ++ b.specials ++ d.specialsClosing.toList ++ b.ending d)

/-- The words may delimit the lists of the body. -/
structure Delimiters.Fit (d : Delimiters) (b : Body) : Prop where
  inputs : Unopening b.inputs
  specials : SpecialsBefore (b.ending d) d.specialsOpening b.specials d.specialsClosing
  outputs : OutputsBefore b.details d.outputsOpening b.outputs d.outputsClosing

/-- What the words after the separator hold: lists that break off, or a body. -/
inductive Body.Outcome : List String → Except Gap Body → Prop
  /-- No word ends the inputs. -/
  | unopened {ws : List String} (unopening : Unopening ws) : Outcome ws (.error .inputs)
  /-- No word closes the special inputs. -/
  | unclosed {inputs rest : List String} {opening : String} (unopening : Unopening inputs)
      (opens : opensWith "(" opening = true) (nonempty : opening ≠ "()")
      (unclosing : ∀ w ∈ rest, opensWith ")" w = false) :
      Outcome (inputs ++ opening :: rest) (.error .specials)
  /-- No word is left after the special inputs. -/
  | unfinished {inputs specials : List String} {opening closing : Option String}
      (unopening : Unopening inputs) (before : SpecialsBefore [] opening specials closing) :
      Outcome (inputs ++ (opening.toList ++ specials ++ closing.toList)) (.error .outputs)
  /-- Every list is there. -/
  | whole {b : Body} {d : Delimiters} (fit : d.Fit b) : Outcome (b.delimited d) (.ok b)

/-! ### Marks -/

/-- A list has no word that stops it, or a first one. -/
theorem all_or_split (stop : String → Bool) (ws : List String) :
    (∀ w ∈ ws, stop w = false) ∨
      ∃ before first after, ws = before ++ first :: after ∧
        (∀ w ∈ before, stop w = false) ∧ stop first = true := by
  cases found : ws.find? stop with
  | none =>
    left
    intro w member
    simpa using List.find?_eq_none.1 found w member
  | some first =>
    obtain ⟨stops, before, after, split, unstopped⟩ := List.find?_eq_some_iff_append.1 found
    exact .inr ⟨before, first, after, split, by simpa using unstopped, stops⟩

theorem unopening_iff {ws : List String} : Unopening ws ↔ ∀ w ∈ ws, endsInputs w = false := by
  simp [Unopening, endsInputs, outputsOpen, specialsOpen]

/-- A word opens one list at most. -/
theorem not_opensSpecials {w : String} (opens : opensWith "[[" w = true) :
    opensWith "(" w = false := by
  obtain ⟨rest, split⟩ := List.isPrefixOf_iff_prefix.1 opens
  simp [opensWith, ← split, List.isPrefixOf]

/-! ### Special inputs -/

theorem readSpecials_cons (opening : String) (rest : List String) :
    readSpecials (opening :: rest) =
      if opening = "()" then some ([], rest)
      else if opensWith "(" opening = true then
        match rest.dropWhile (!opensWith ")" ·) with
        | [] => none
        | _ :: after => some (rest.takeWhile (!opensWith ")" ·), after)
      else some ([], opening :: rest) := rfl

/-- The first word of special inputs and what follows them ends the inputs. -/
theorem SpecialsBefore.exists_first {rest specials : List String} {opening closing : Option String}
    (h : SpecialsBefore rest opening specials closing) :
    ∃ first after, opening.toList ++ specials ++ closing.toList ++ rest = first :: after ∧
      endsInputs first = true := by
  cases h with
  | absent opens =>
    obtain ⟨next, first, opens⟩ := opens
    obtain ⟨after, rfl⟩ := List.head?_eq_some_iff.1 first
    exact ⟨next, after, rfl, by simp [endsInputs, outputsOpen, opens]⟩
  | empty => exact ⟨"()", rest, rfl, by decide⟩
  | closed opens nonempty unclosing closes =>
    exact ⟨_, _, rfl, by simp [endsInputs, specialsOpen, opens]⟩

/-- Special inputs are read back. -/
theorem SpecialsBefore.read_eq {rest specials : List String} {opening closing : Option String}
    (h : SpecialsBefore rest opening specials closing) :
    readSpecials (opening.toList ++ specials ++ closing.toList ++ rest) = some (specials, rest) := by
  cases h with
  | absent opens =>
    obtain ⟨next, first, opens⟩ := opens
    obtain ⟨after, rfl⟩ := List.head?_eq_some_iff.1 first
    have unopening := not_opensSpecials opens
    have unjoined : next ≠ "()" := by
      rintro rfl
      revert unopening
      decide
    change readSpecials (next :: after) = some ([], next :: after)
    rw [readSpecials_cons, if_neg unjoined, if_neg (by simp [unopening])]
  | empty => rfl
  | @closed opening closing _ opens nonempty unclosing closes =>
    obtain ⟨taken, dropped⟩ := cut_append (p := (!opensWith ")" ·)) (by simpa using unclosing)
      (closing :: rest) (by simpa using closes)
    have split : (some opening).toList ++ specials ++ (some closing).toList ++ rest =
        opening :: (specials ++ closing :: rest) := by simp
    rw [split, readSpecials_cons, if_neg nonempty, if_pos opens, taken, dropped]

/-- Special inputs that nothing closes are not read. -/
theorem readSpecials_unclosed {opening : String} {rest : List String}
    (opens : opensWith "(" opening = true) (nonempty : opening ≠ "()")
    (unclosing : ∀ w ∈ rest, opensWith ")" w = false) : readSpecials (opening :: rest) = none := by
  have nothing : rest.dropWhile (!opensWith ")" ·) = [] :=
    List.dropWhile_eq_nil_iff.2 (by simpa using unclosing)
  rw [readSpecials_cons, if_neg nonempty, if_pos opens, nothing]

/-- A word that ends the inputs opens special inputs that nothing closes, or it is the first word of
special inputs and what follows them. -/
theorem exists_specialsBefore {first : String} {rest : List String}
    (ends : endsInputs first = true) :
    (opensWith "(" first = true ∧ first ≠ "()" ∧ ∀ w ∈ rest, opensWith ")" w = false) ∨
      ∃ opening specials closing left,
        first :: rest = Option.toList opening ++ specials ++ Option.toList closing ++ left ∧
          SpecialsBefore left opening specials closing := by
  by_cases joined : first = "()"
  · subst joined
    exact .inr ⟨some "()", [], none, rest, rfl, .empty⟩
  · by_cases opens : opensWith "(" first = true
    · rcases all_or_split (opensWith ")") rest with
        unclosing | ⟨specials, closing, left, rfl, unclosing, closes⟩
      · exact .inl ⟨opens, joined, unclosing⟩
      · refine .inr ⟨some first, specials, some closing, left, by simp, ?_⟩
        exact .closed opens joined unclosing closes
    · have opensOutputs : opensWith "[[" first = true := by
        simpa [endsInputs, outputsOpen, specialsOpen, opens] using ends
      exact .inr ⟨none, [], none, first :: rest, rfl, .absent ⟨first, rfl, opensOutputs⟩⟩

/-! ### Outputs -/

theorem readOutputs_eq (opening : String) (rest : List String) :
    readOutputs opening rest =
      if opening = "[[]]" then ([], rest)
      else (rest.takeWhile (!opensWith "]]" ·), (rest.dropWhile (!opensWith "]]" ·)).drop 1) := rfl

/-- Outputs are read back. -/
theorem OutputsBefore.read_eq {details outputs : List String} {opening : String}
    {closing : Option String} (h : OutputsBefore details opening outputs closing) :
    readOutputs opening (outputs ++ closing.toList ++ details) = (outputs, details) := by
  cases h with
  | empty => rfl
  | @closed _ _ _ closing nonempty unclosing closes =>
    obtain ⟨taken, dropped⟩ := cut_append (p := (!opensWith "]]" ·)) (by simpa using unclosing)
      ((some closing).toList ++ details) (by simpa using closes)
    rw [List.append_assoc, readOutputs_eq, if_neg nonempty, taken, dropped]
    rfl
  | unclosed nonempty unclosing =>
    obtain ⟨taken, dropped⟩ := cut_append (p := (!opensWith "]]" ·)) (by simpa using unclosing)
      ((none : Option String).toList ++ []) (by simp)
    rw [List.append_assoc, readOutputs_eq, if_neg nonempty, taken, dropped]
    rfl

/-- Whatever word opens outputs, they and the details are what follows it. -/
theorem exists_outputsBefore (opening : String) (rest : List String) :
    ∃ outputs closing details, rest = outputs ++ Option.toList closing ++ details ∧
      OutputsBefore details opening outputs closing := by
  by_cases joined : opening = "[[]]"
  · subst joined
    exact ⟨[], none, rest, rfl, .empty⟩
  · rcases all_or_split (opensWith "]]") rest with
      unclosing | ⟨outputs, closing, details, rfl, unclosing, closes⟩
    · exact ⟨rest, none, [], by simp, .unclosed joined unclosing⟩
    · exact ⟨outputs, some closing, details, by simp, .closed joined unclosing closes⟩

/-! ### Bodies -/

namespace Body

/-- The inputs are cut off before the word that ends them. -/
theorem cut_inputs {inputs rest : List String} {first : String} (unopening : Unopening inputs)
    (ends : endsInputs first = true) :
    (inputs ++ first :: rest).takeWhile (!endsInputs ·) = inputs ∧
      (inputs ++ first :: rest).dropWhile (!endsInputs ·) = first :: rest :=
  cut_append (by simpa using unopening_iff.1 unopening) (first :: rest) (by simpa using ends)

/-- The outcome is read. -/
theorem Outcome.read_eq {ws : List String} {outcome : Except Gap Body} (h : Outcome ws outcome) :
    read ws = outcome := by
  cases h with
  | unopened unopening =>
    have nothing : ws.dropWhile (!endsInputs ·) = [] :=
      List.dropWhile_eq_nil_iff.2 (by simpa using unopening_iff.1 unopening)
    rw [read, nothing]
  | @unclosed inputs rest opening unopening opens nonempty unclosing =>
    have ends : endsInputs opening = true := by simp [endsInputs, specialsOpen, opens]
    simp only [read, cut_inputs unopening ends, readSpecials_unclosed opens nonempty unclosing]
  | unfinished unopening before =>
    obtain ⟨first, after, split, ends⟩ := before.exists_first
    have readBack := before.read_eq
    rw [split] at readBack
    rw [List.append_nil] at split
    simp only [split, read, cut_inputs unopening ends, readBack]
  | @whole b d fit =>
    obtain ⟨first, after, split, ends⟩ := fit.specials.exists_first
    have readBack := fit.specials.read_eq
    rw [split] at readBack
    rw [delimited, split]
    simp only [read, cut_inputs fit.inputs ends, readBack, ending, fit.outputs.read_eq]

/-- Words have an outcome. -/
theorem exists_outcome (ws : List String) : ∃ outcome, Outcome ws outcome := by
  rcases all_or_split endsInputs ws with unopening | ⟨inputs, first, rest, rfl, unopening, ends⟩
  · exact ⟨_, .unopened (unopening_iff.2 unopening)⟩
  · have unopening := unopening_iff.2 unopening
    rcases exists_specialsBefore ends with
      ⟨opens, nonempty, unclosing⟩ | ⟨opening, specials, closing, left, split, before⟩
    · exact ⟨_, .unclosed unopening opens nonempty unclosing⟩
    · rw [split]
      cases left with
      | nil =>
        rw [List.append_nil]
        exact ⟨_, .unfinished unopening before⟩
      | cons outputsOpening rest =>
        obtain ⟨outputs, outputsClosing, details, rfl, outputsBefore⟩ :=
          exists_outputsBefore outputsOpening rest
        have fit : Delimiters.Fit ⟨opening, closing, outputsOpening, outputsClosing⟩
            ⟨inputs, specials, outputs, details⟩ := ⟨unopening, before, outputsBefore⟩
        exact ⟨_, .whole fit⟩

/-- Words are read as the outcome that they have, which is the only one. -/
theorem read_eq_iff {ws : List String} {outcome : Except Gap Body} :
    read ws = outcome ↔ Outcome ws outcome := by
  constructor
  -- There is an outcome, and it is what is read.
  · rintro rfl
    obtain ⟨outcome, h⟩ := exists_outcome ws
    rwa [h.read_eq]
  · exact Outcome.read_eq

theorem outcome_inputs_iff {ws : List String} : Outcome ws (.error .inputs) ↔ Unopening ws := by
  constructor
  · rintro ⟨unopening⟩
    exact unopening
  · exact .unopened

theorem outcome_specials_iff {ws : List String} :
    Outcome ws (.error .specials) ↔
      ∃ inputs opening rest, ws = inputs ++ opening :: rest ∧ Unopening inputs ∧
        opensWith "(" opening = true ∧ opening ≠ "()" ∧ ∀ w ∈ rest, opensWith ")" w = false := by
  constructor
  · rintro ⟨⟩
    exact ⟨_, _, _, rfl, ‹_›, ‹_›, ‹_›, ‹_›⟩
  · rintro ⟨inputs, opening, rest, rfl, unopening, opens, nonempty, unclosing⟩
    exact .unclosed unopening opens nonempty unclosing

theorem outcome_outputs_iff {ws : List String} :
    Outcome ws (.error .outputs) ↔
      ∃ inputs opening specials closing,
        ws = inputs ++ (Option.toList opening ++ specials ++ Option.toList closing) ∧
          Unopening inputs ∧ SpecialsBefore [] opening specials closing := by
  constructor
  · rintro ⟨⟩
    exact ⟨_, _, _, _, rfl, ‹_›, ‹_›⟩
  · rintro ⟨inputs, opening, specials, closing, rfl, unopening, before⟩
    exact .unfinished unopening before

theorem outcome_ok_iff {ws : List String} {b : Body} :
    Outcome ws (.ok b) ↔ ∃ d : Delimiters, ws = b.delimited d ∧ d.Fit b := by
  constructor
  · rintro ⟨⟩
    exact ⟨_, rfl, ‹_›⟩
  · rintro ⟨d, rfl, fit⟩
    exact .whole fit

end Body

/-! ### Records -/

/-- The lists and the details of a record. -/
def body (r : Record) : Body := ⟨r.inputs, r.specials, r.outputs, r.details⟩

namespace Reading

/-- The code of the diagnostic for a record that is skipped. -/
def code? : Reading → Option Code
  | headless => some .missingSeparator
  | incomplete _ _ gap => some gap.code
  | _ => none

/-- How many words stand between the id and the type: the mark of the focus node or none. -/
def focusOffset (ws : List String) : Nat := if ws[1]? = some ">" then 1 else 0

/-- The words after the separator. -/
def afterSeparator (ws : List String) : List String := ws.drop (3 + focusOffset ws)

/-- The reading that words have if they begin like a record. A record is skipped for want of a
separator, or because its lists break off as `Body.Outcome` says; any other is complete. -/
structure Grammar (ws : List String) (reading : Reading) : Prop where
  missingSeparator : reading.code? = some .missingSeparator ↔
    ws[2 + focusOffset ws]? ≠ some "==="
  unclosedInputs : reading.code? = some .unclosedInputs ↔
    ws[2 + focusOffset ws]? = some "===" ∧ Unopening (afterSeparator ws)
  unclosedSpecials : reading.code? = some .unclosedSpecials ↔
    ws[2 + focusOffset ws]? = some "===" ∧ ∃ inputs opening rest,
      afterSeparator ws = inputs ++ opening :: rest ∧ Unopening inputs ∧
        opensWith "(" opening = true ∧ opening ≠ "()" ∧ ∀ w ∈ rest, opensWith ")" w = false
  missingOutputs : reading.code? = some .missingOutputs ↔
    ws[2 + focusOffset ws]? = some "===" ∧ ∃ inputs opening specials closing,
      afterSeparator ws = inputs ++ (Option.toList opening ++ specials ++ Option.toList closing) ∧
        Unopening inputs ∧ SpecialsBefore [] opening specials closing
  /-- The id and the type of a record that breaks off. -/
  named (id type : String) (gap : Gap) : reading = .incomplete id type gap →
    ws[0]? = some id ∧ ws[1 + focusOffset ws]? = some type
  /-- No other record is skipped. -/
  accepted : reading.code? = none ↔ ∃ r, reading = .complete r
  complete (r : Record) : reading = .complete r ↔
    ws[2 + focusOffset ws]? = some "===" ∧ ws[0]? = some r.id ∧
      (r.focus = true ↔ ws[1]? = some ">") ∧ ws[1 + focusOffset ws]? = some r.type ∧
        ∃ d : Delimiters, afterSeparator ws = r.body.delimited d ∧ d.Fit r.body
  /-- Nothing but delimiters stands between the parts of a record. -/
  kept (r : Record) : reading = .complete r → ∃ d : Delimiters, d.Fit r.body ∧
    ws = r.id :: (if r.focus then [">"] else []) ++ r.type :: "===" :: r.body.delimited d

/-! ### The reading of an outcome -/

/-- The reading of a record with a separator, from what its body holds. -/
def ofOutcome (id : String) (focus : Bool) (type : String) : Except Gap Body → Reading
  | .error gap => incomplete id type gap
  | .ok body => complete
    { id, focus, type, inputs := body.inputs, specials := body.specials,
      outputs := body.outputs, details := body.details }

theorem ofHead_cons (id : String) (focus : Bool) (type mark : String) (rest : List String) :
    ofHead id focus type (mark :: rest) =
      if mark = "===" then ofOutcome id focus type (Body.read rest) else headless := by
  rw [ofHead]
  cases Body.read rest <;> rfl

section
variable {id type : String} {focus : Bool} {outcome : Except Gap Body}

theorem code?_ofOutcome_ne_missingSeparator :
    (ofOutcome id focus type outcome).code? ≠ some .missingSeparator := by
  cases outcome with
  | error gap => cases gap <;> simp [ofOutcome, code?, Gap.code]
  | ok b => simp [ofOutcome, code?]

theorem code?_ofOutcome_eq_some_iff {gap : Gap} :
    (ofOutcome id focus type outcome).code? = some gap.code ↔ outcome = .error gap := by
  cases outcome with
  | error other => cases other <;> cases gap <;> simp [ofOutcome, code?, Gap.code]
  | ok b => simp [ofOutcome, code?]

theorem code?_ofOutcome_eq_none_iff :
    (ofOutcome id focus type outcome).code? = none ↔
      ∃ r, ofOutcome id focus type outcome = complete r := by
  cases outcome <;> simp [ofOutcome, code?]

theorem eq_of_ofOutcome_eq_incomplete {id' type' : String} {gap : Gap}
    (same : ofOutcome id focus type outcome = incomplete id' type' gap) :
    id = id' ∧ type = type' := by
  cases outcome with
  | error other =>
    cases same
    exact ⟨rfl, rfl⟩
  | ok b => cases same

theorem ofOutcome_eq_complete_iff {r : Record} :
    ofOutcome id focus type outcome = complete r ↔
      id = r.id ∧ focus = r.focus ∧ type = r.type ∧ outcome = .ok r.body := by
  cases outcome with
  | error gap => simp [ofOutcome]
  | ok b =>
    cases b
    cases r
    simp [ofOutcome, body]

end

/-! ### The head of a record -/

/-- The mark of the focus node is told from a type. -/
theorem ofWords_append {id type : String} {focus : Bool} {rest : List String} (mark : String)
    (numeral : isNumeral id = true) (unmarked : focus = false → type ≠ ">")
    (nonempty : focus = false → rest ≠ []) :
    ofWords (id :: (if focus then [">"] else []) ++ type :: mark :: rest) =
      ofHead id focus type (mark :: rest) := by
  cases focus with
  | true => simp [ofWords, numeral, focusMark]
  | false =>
    obtain ⟨next, others, rfl⟩ := List.exists_cons_of_ne_nil (nonempty rfl)
    simp [ofWords, numeral, focusMark, unmarked rfl]

/-- The words begin like a record, and `mark` stands in the place of its separator. -/
structure Head (ws : List String) (id type mark : String) : Prop where
  long : 4 ≤ ws.length
  numeral : isNumeral id = true
  id : ws[0]? = some id
  type : ws[1 + focusOffset ws]? = some type
  mark : ws[2 + focusOffset ws]? = some mark

theorem exists_head {ws : List String} (long : 4 ≤ ws.length) (numeral : isNumeral ws[0] = true) :
    ∃ id type mark, Head ws id type mark := by
  have offset : focusOffset ws ≤ 1 := by
    unfold focusOffset
    split <;> simp
  have present {i : Nat} (inside : i < ws.length) : ws[i]? = some ws[i] :=
    List.getElem?_eq_getElem inside
  exact ⟨_, _, _, long, numeral, present (by omega), present (by omega), present (by omega)⟩

theorem drop_eq_cons {ws : List String} {i : Nat} {w : String} (here : ws[i]? = some w) :
    ws.drop i = w :: ws.drop (i + 1) := by
  obtain ⟨inside, rfl⟩ := List.getElem?_eq_some_iff.1 here
  exact List.drop_eq_getElem_cons inside

/-- The mark of the focus node is all that may stand between the id and the type. -/
theorem drop_one_eq (ws : List String) :
    ws.drop 1 = (if ws[1]? = some ">" then [">"] else []) ++ ws.drop (1 + focusOffset ws) := by
  by_cases focus : ws[1]? = some ">"
  · simp only [focusOffset, if_pos focus]
    exact drop_eq_cons focus
  · simp only [focusOffset, if_neg focus]
    rfl

namespace Head
variable {ws : List String} {id type mark : String}

/-- The words are the head and the words after it. -/
theorem split (h : Head ws id type mark) :
    ws = id :: (if ws[1]? = some ">" then [">"] else []) ++ type :: mark :: afterSeparator ws := by
  have afterType : 1 + focusOffset ws + 1 = 2 + focusOffset ws := by omega
  have afterMark : 2 + focusOffset ws + 1 = 3 + focusOffset ws := by omega
  calc ws = id :: ws.drop 1 := drop_eq_cons h.id
    _ = id :: (if ws[1]? = some ">" then [">"] else []) ++ ws.drop (1 + focusOffset ws) := by
      rw [drop_one_eq, List.cons_append]
    _ = _ := by
      rw [drop_eq_cons h.type, afterType, drop_eq_cons h.mark, afterMark, afterSeparator]

theorem ofWords_eq_ofHead (h : Head ws id type mark) :
    ofWords ws = ofHead id (ws[1]? = some ">") type (mark :: afterSeparator ws) := by
  have split := h.split
  have unmarked : decide (ws[1]? = some ">") = false → type ≠ ">" := by
    rintro unfocused rfl
    rw [decide_eq_false_iff_not] at unfocused
    apply unfocused
    rw [if_neg unfocused] at split
    rw [split]
    rfl
  have nonempty : decide (ws[1]? = some ">") = false → afterSeparator ws ≠ [] := by
    intro unfocused empty
    have long := h.long
    rw [split, empty, if_neg (by simpa using unfocused)] at long
    simp at long
  have read := ofWords_append mark h.numeral unmarked nonempty
  simp only [decide_eq_true_eq] at read
  rwa [← split] at read

theorem ofWords_eq (h : Head ws id type mark) :
    ofWords ws =
      if mark = "===" then
        ofOutcome id (ws[1]? = some ">") type (Body.read (afterSeparator ws))
      else headless := by
  rw [h.ofWords_eq_ofHead, ofHead_cons]

theorem code?_eq_missingSeparator_iff (h : Head ws id type mark) :
    (ofWords ws).code? = some .missingSeparator ↔ ws[2 + focusOffset ws]? ≠ some "===" := by
  rw [h.ofWords_eq, h.mark, ne_eq, Option.some.injEq]
  by_cases separated : mark = "==="
  · simp [separated, code?_ofOutcome_ne_missingSeparator]
  · simp [separated, code?]

/-- A record breaks off where its body does, if it has a separator. -/
theorem code?_eq_some_iff (h : Head ws id type mark) (gap : Gap) :
    (ofWords ws).code? = some gap.code ↔
      ws[2 + focusOffset ws]? = some "===" ∧
        Body.Outcome (afterSeparator ws) (.error gap) := by
  rw [h.ofWords_eq, h.mark, Option.some.injEq, ← Body.read_eq_iff]
  by_cases separated : mark = "==="
  · rw [if_pos separated, code?_ofOutcome_eq_some_iff]
    simp [separated]
  · rw [if_neg separated]
    cases gap <;> simp [code?, Gap.code, separated]

/-- A record is complete if its body is and it has a separator. -/
theorem eq_complete_iff (h : Head ws id type mark) (r : Record) :
    ofWords ws = complete r ↔
      ws[2 + focusOffset ws]? = some "===" ∧ ws[0]? = some r.id ∧
        (r.focus = true ↔ ws[1]? = some ">") ∧ ws[1 + focusOffset ws]? = some r.type ∧
          Body.Outcome (afterSeparator ws) (.ok r.body) := by
  simp only [h.ofWords_eq, h.id, h.type, h.mark, Option.some.injEq, ← Body.read_eq_iff]
  by_cases separated : mark = "==="
  · have focus : decide (ws[1]? = some ">") = r.focus ↔ (r.focus = true ↔ ws[1]? = some ">") := by
      cases r.focus <;> simp
    rw [if_pos separated, ofOutcome_eq_complete_iff, focus]
    simp [separated]
  · simp [separated]

end Head

/-- Words that begin like a record are read as the grammar has it. -/
theorem grammar_ofWords {ws : List String} (long : 4 ≤ ws.length)
    (numeral : isNumeral ws[0] = true) : Grammar ws (ofWords ws) := by
  obtain ⟨id, type, mark, head⟩ := exists_head long numeral
  constructor
  case missingSeparator => exact head.code?_eq_missingSeparator_iff
  case unclosedInputs =>
    rw [← Body.outcome_inputs_iff]
    exact head.code?_eq_some_iff .inputs
  case unclosedSpecials =>
    rw [← Body.outcome_specials_iff]
    exact head.code?_eq_some_iff .specials
  case missingOutputs =>
    rw [← Body.outcome_outputs_iff]
    exact head.code?_eq_some_iff .outputs
  case named =>
    intro id' type' gap incomplete
    rw [head.ofWords_eq] at incomplete
    split at incomplete
    · obtain ⟨rfl, rfl⟩ := eq_of_ofOutcome_eq_incomplete incomplete
      exact ⟨head.id, head.type⟩
    · cases incomplete
  case accepted =>
    rw [head.ofWords_eq]
    split
    · exact code?_ofOutcome_eq_none_iff
    · simp [code?]
  case complete =>
    intro r
    rw [← Body.outcome_ok_iff]
    exact head.eq_complete_iff r
  case kept =>
    intro r complete
    obtain ⟨separated, first, focus, type, outcome⟩ := (head.eq_complete_iff r).1 complete
    obtain ⟨d, body, fit⟩ := Body.outcome_ok_iff.1 outcome
    have same : id = r.id := Option.some.inj (head.id.symm.trans first)
    have whole : Head ws r.id r.type "===" := ⟨long, same ▸ head.numeral, first, type, separated⟩
    refine ⟨d, fit, ?_⟩
    simpa only [focus, body] using whole.split

/-- A record whose lists hold words that look like marks of other lists. -/
def crossedWords : List String :=
  ["7", ">", "Phi", "===", "3", "_", "(4", "5)", "()", ")", "6", "[[]]", "]]]", "[[", "1"]

theorem grammar_ofWords_crossedWords :
    4 ≤ crossedWords.length ∧ isNumeral crossedWords[0] = true ∧
      Grammar crossedWords (.complete
        { id := "7", focus := true, type := "Phi", inputs := ["3", "_"], specials := ["5)", "()"],
          outputs := ["[[]]"], details := ["[[", "1"] }) := by
  have long : 4 ≤ crossedWords.length := by decide
  have numeral : isNumeral "7" = true := by decide
  exact ⟨long, numeral, grammar_ofWords long numeral⟩

-- Outputs do not end special inputs, so these are not closed.
example : (ofWords ["12", "Phi", "===", "10", "(", "11", "[[", "13", "]]"]).code?.map Code.name =
    some "E102" := by decide

end Reading
end Record

namespace Draft

/-- A line whose record is skipped gives one warning, with the code of its reading, and no node. -/
theorem step_of_code? (d : Draft) {line : SourceLine} {code : Code}
    (skipped : (Record.Reading.ofWords line.words).code? = some code) :
    ∃ w, (d.step line).warnings = d.warnings.push w ∧ w.code = some code ∧
      (d.step line).nodes = d.nodes := by
  unfold step
  cases read : Record.Reading.ofWords line.words with
  | other => simp [read, Record.Reading.code?] at skipped
  | complete r => simp [read, Record.Reading.code?] at skipped
  | headless =>
    rw [read] at skipped
    exact ⟨Record.headlessWarning line.span, rfl, skipped, rfl⟩
  | incomplete id type gap =>
    rw [read] at skipped
    exact ⟨Record.incompleteWarning id gap line.span, rfl, skipped, rfl⟩

end Draft
end IrChart
