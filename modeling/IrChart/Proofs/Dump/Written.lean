import IrChart.Proofs.Dump.Grammar

/-!
# Writing records

A record can be written in several ways: an empty list of special inputs is left out, or written
as one word or as two, an empty list of outputs as one word or as two. Reading the words of a
record gives the record back whichever way was taken (`ofWords_words`), if no word of a list looks
like the mark that ends the list.
-/

namespace IrChart.Record
open Dump Text

/-- How special inputs are written if there are none. -/
inductive NoSpecials where
  | omitted
  | joined
  | spaced
  deriving DecidableEq, Repr

/-- How outputs are written if there are none. -/
inductive NoOutputs where
  | joined
  | spaced
  deriving DecidableEq, Repr

/-- How the empty lists of a record are written. -/
structure Spelling where
  noSpecials : NoSpecials
  noOutputs : NoOutputs
  deriving DecidableEq, Repr

/-- The words for no special inputs. -/
def NoSpecials.words : NoSpecials → List String
  | omitted => []
  | joined => ["()"]
  | spaced => ["(", ")"]

/-- The words for no outputs. -/
def NoOutputs.words : NoOutputs → List String
  | joined => ["[[]]"]
  | spaced => ["[[", "]]"]

/-- The words for a list of ids between marks; an empty list has words of its own. -/
def listWords (opening closing : String) (empty : List String) : List String → List String
  | [] => empty
  | id :: ids => opening :: id :: ids ++ [closing]

/-- The words for the special inputs. -/
def specialsWords (r : Record) (s : Spelling) : List String :=
  listWords "(" ")" s.noSpecials.words r.specials

/-- The words for the outputs. -/
def outputsWords (r : Record) (s : Spelling) : List String :=
  listWords "[[" "]]" s.noOutputs.words r.outputs

/-- The words after the separator. -/
def bodyWords (r : Record) (s : Spelling) : List String :=
  r.inputs ++ (r.specialsWords s ++ (r.outputsWords s ++ r.details))

/-- The words of a record. -/
def words (r : Record) (s : Spelling) : List String :=
  r.id :: (if r.focus then [">"] else []) ++ r.type :: "===" :: r.bodyWords s

/-- The texts of a record, in the order in which they are written. -/
def texts (r : Record) : List String :=
  r.id :: r.type :: r.inputs ++ r.specials ++ r.outputs ++ r.details

/-- A record can be told from its words: its texts are words, its id is a numeral, and neither its
type nor an id of its lists looks like the mark that may stand in its place. -/
structure Writable (r : Record) : Prop where
  texts : ∀ w ∈ r.texts, IsWord w
  id : isNumeral r.id = true
  type : r.focus = false → r.type ≠ ">"
  inputs : ∀ w ∈ r.inputs, opensWith "[[" w = false ∧ opensWith "(" w = false
  specials : ∀ w ∈ r.specials, opensWith ")" w = false
  outputs : ∀ w ∈ r.outputs, opensWith "]]" w = false

instance (r : Record) : Decidable r.Writable :=
  decidable_of_iff
    ((∀ w ∈ r.texts, IsWord w) ∧ isNumeral r.id = true ∧ (r.focus = false → r.type ≠ ">") ∧
      (∀ w ∈ r.inputs, opensWith "[[" w = false ∧ opensWith "(" w = false) ∧
      (∀ w ∈ r.specials, opensWith ")" w = false) ∧ ∀ w ∈ r.outputs, opensWith "]]" w = false)
    ⟨fun ⟨texts, id, type, inputs, specials, outputs⟩ =>
        ⟨texts, id, type, inputs, specials, outputs⟩,
      fun h => ⟨h.texts, h.id, h.type, h.inputs, h.specials, h.outputs⟩⟩

/-! ### The words are words -/

/-- The marks that delimit the parts of a written record. -/
def marks : List String := [">", "===", "(", ")", "()", "[[", "]]", "[[]]"]

theorem isWord_of_mem_marks : ∀ w ∈ marks, IsWord w := by decide

theorem NoSpecials.words_subset_marks (empty : NoSpecials) : ∀ w ∈ empty.words, w ∈ marks := by
  cases empty <;> decide

theorem NoOutputs.words_subset_marks (empty : NoOutputs) : ∀ w ∈ empty.words, w ∈ marks := by
  cases empty <;> decide

private theorem mem_listWords {opening closing : String} {empty ids : List String} {w : String}
    (marked : opening ∈ marks ∧ closing ∈ marks) (unlisted : ∀ w ∈ empty, w ∈ marks)
    (member : w ∈ listWords opening closing empty ids) : w ∈ ids ∨ w ∈ marks := by
  cases ids with
  | nil => exact .inr (unlisted w member)
  | cons id ids =>
    rw [listWords, List.mem_append, List.mem_cons, List.mem_singleton] at member
    rcases member with (rfl | inIds) | rfl
    · exact .inr marked.1
    · exact .inl inIds
    · exact .inr marked.2

/-- A written record holds its texts and marks. -/
theorem mem_words {r : Record} {s : Spelling} {w : String} (member : w ∈ r.words s) :
    w ∈ r.texts ∨ w ∈ marks := by
  simp only [words, bodyWords, List.mem_append, List.mem_cons] at member
  simp only [texts, List.mem_append, List.mem_cons]
  rcases member with (rfl | focus) | rfl | rfl | inputs | specials | outputs | details
  · simp
  · split at focus
    · rw [List.mem_singleton] at focus
      simp [marks, focus]
    · simp at focus
  · simp
  · simp [marks]
  · simp [inputs]
  · rcases mem_listWords (by decide) s.noSpecials.words_subset_marks specials with inIds | inMarks
    · simp [inIds]
    · exact .inr inMarks
  · rcases mem_listWords (by decide) s.noOutputs.words_subset_marks outputs with inIds | inMarks
    · simp [inIds]
    · exact .inr inMarks
  · simp [details]

theorem isWord_of_mem_words {r : Record} (h : r.Writable) {s : Spelling} :
    ∀ w ∈ r.words s, IsWord w := by
  intro w member
  rcases mem_words member with inTexts | inMarks
  · exact h.texts w inTexts
  · exact isWord_of_mem_marks w inMarks

/-! ### The delimiters -/

/-- The words for special inputs are delimited in front of words that open the outputs. -/
theorem exists_specialsWords_eq (r : Record) (h : r.Writable) (s : Spelling) {rest : List String}
    (opens : ∃ next ∈ rest.head?, opensWith "[[" next = true) :
    ∃ opening closing,
      r.specialsWords s = Option.toList opening ++ r.specials ++ Option.toList closing ∧
        SpecialsBefore rest opening r.specials closing := by
  have bracketed : SpecialsBefore rest (some "(") r.specials (some ")") :=
    .closed (by decide) (by decide) h.specials (by decide)
  unfold specialsWords
  cases specials : r.specials with
  | nil =>
    cases s.noSpecials with
    | omitted => exact ⟨none, none, rfl, .absent opens⟩
    | joined => exact ⟨some "()", none, rfl, .empty⟩
    | spaced => exact ⟨some "(", some ")", rfl, specials ▸ bracketed⟩
  | cons id ids => exact ⟨some "(", some ")", rfl, specials ▸ bracketed⟩

/-- The words for outputs are delimited in front of the details. -/
theorem exists_outputsWords_eq (r : Record) (h : r.Writable) (s : Spelling) :
    ∃ opening closing,
      r.outputsWords s = opening :: (r.outputs ++ Option.toList closing) ∧
        opensWith "[[" opening = true ∧ OutputsBefore r.details opening r.outputs closing := by
  have bracketed : OutputsBefore r.details "[[" r.outputs (some "]]") :=
    .closed (by decide) h.outputs (by decide)
  unfold outputsWords
  cases outputs : r.outputs with
  | nil =>
    cases s.noOutputs with
    | joined => exact ⟨"[[]]", none, rfl, by decide, .empty⟩
    | spaced => exact ⟨"[[", some "]]", rfl, by decide, outputs ▸ bracketed⟩
  | cons id ids => exact ⟨"[[", some "]]", rfl, by decide, outputs ▸ bracketed⟩

/-- The words after the separator are the lists of the record between delimiters. -/
theorem exists_bodyWords_eq (r : Record) (h : r.Writable) (s : Spelling) :
    ∃ d : Delimiters, r.bodyWords s = r.body.delimited d ∧ d.Fit r.body := by
  obtain ⟨outputsOpening, outputsClosing, outputs, opens, outputsBefore⟩ :=
    exists_outputsWords_eq r h s
  have next : ∃ next ∈ (r.outputsWords s ++ r.details).head?, opensWith "[[" next = true :=
    ⟨outputsOpening, by simp [outputs], opens⟩
  obtain ⟨opening, closing, specials, specialsBefore⟩ := exists_specialsWords_eq r h s next
  refine ⟨⟨opening, closing, outputsOpening, outputsClosing⟩, ?_, ⟨h.inputs, ?_, outputsBefore⟩⟩
  · simp [bodyWords, specials, outputs, body, Body.delimited, Body.ending]
  · simpa [outputs, body, Body.ending] using specialsBefore

/-! ### Whole records -/

/-- A record is read back from its words. -/
theorem ofWords_words (r : Record) (h : r.Writable) (s : Spelling) :
    Reading.ofWords (r.words s) = .complete r := by
  obtain ⟨d, delimited, fit⟩ := exists_bodyWords_eq r h s
  have read : Body.read (r.bodyWords s) = .ok r.body :=
    delimited ▸ (Body.Outcome.whole fit).read_eq
  have nonempty : r.bodyWords s ≠ [] := by
    simp [delimited, Body.delimited, Body.ending]
  rw [words, Reading.ofWords_append "===" h.id h.type fun _ => nonempty, Reading.ofHead_cons,
    if_pos rfl, read]
  rfl

end IrChart.Record
