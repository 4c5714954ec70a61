import IrChart.Proofs.Dump.Written
import IrChart.Proofs.JitLog.Grammar

/-!
# Writing records of JIT logs

A record of a JIT log takes two lines, and any id in its lists may be followed by an annotation.
Both lines are read back (`read_headerWords`, `readInputs_inputWords`), and what they are merged
into is a way of writing the record of a node dump that says the same (`mergedWords_header`).
-/

namespace IrChart.JitLog
open Dump Text

/-- An id of a list and the annotation that may follow it. -/
structure Reference where
  id : String
  annotation : Option String
  deriving DecidableEq, Repr

/-- The words for an id. -/
def Reference.words (ref : Reference) : List String := ref.id :: ref.annotation.toList

/-- A record of a JIT log. The leading words stand before its outputs, the trailing ones after. -/
structure LogRecord where
  id : String
  type : String
  leading : List String
  outputs : List Reference
  inputs : List Reference
  trailing : List String
  deriving DecidableEq, Repr

namespace LogRecord

/-- The words of the header. -/
def headerWords (r : LogRecord) : List String :=
  ("#" ++ r.id) :: r.type :: r.leading ++
    "->" :: "[" :: (r.outputs.flatMap Reference.words ++ "];" :: r.trailing)

/-- The words of the input line. -/
def inputWords (r : LogRecord) : List String :=
  "L[" :: (r.inputs.flatMap Reference.words ++ ["]"])

/-- The texts of a record, in the order in which they are written. -/
def texts (r : LogRecord) : List String :=
  r.id :: r.type :: r.leading ++ r.outputs.flatMap Reference.words ++ r.trailing ++
    r.inputs.flatMap Reference.words

/-- What the header says. -/
def header (r : LogRecord) : Header :=
  { id := r.id, type := r.type, outputs := r.outputs.map (·.id),
    metadata := r.leading ++ r.trailing }

/-- The record of a node dump that says the same. -/
def record (r : LogRecord) : Record :=
  { id := r.id, focus := false, type := r.type, inputs := r.inputs.map (·.id), specials := [],
    outputs := r.outputs.map (·.id), details := r.leading ++ r.trailing }

/-- A record can be told from its words: its texts are words, its id is a numeral, its leading words
begin with a position, annotations look like annotations, and no other word looks like the mark that
may stand in its place in either dialect. -/
structure Writable (r : LogRecord) : Prop where
  texts : ∀ w ∈ r.texts, IsWord w
  id : isNumeral r.id = true
  type : r.type ≠ ">"
  position : r.leading.head?.any (opensWith "@(") = true
  leading : ∀ w ∈ r.leading, w ≠ "->"
  outputs : ∀ ref ∈ r.outputs,
    opensWith "(" ref.id = false ∧ opensWith "]]" ref.id = false ∧ ref.id ≠ "];"
  inputs : ∀ ref ∈ r.inputs,
    opensWith "(" ref.id = false ∧ opensWith "[[" ref.id = false ∧ ref.id ≠ "]"
  annotations : ∀ ref ∈ r.outputs ++ r.inputs, ∀ w ∈ ref.annotation, opensWith "(" w = true

instance (r : LogRecord) : Decidable r.Writable :=
  decidable_of_iff
    ((∀ w ∈ r.texts, IsWord w) ∧ isNumeral r.id = true ∧ r.type ≠ ">" ∧
      r.leading.head?.any (opensWith "@(") = true ∧ (∀ w ∈ r.leading, w ≠ "->") ∧
      (∀ ref ∈ r.outputs,
        opensWith "(" ref.id = false ∧ opensWith "]]" ref.id = false ∧ ref.id ≠ "];") ∧
      (∀ ref ∈ r.inputs,
        opensWith "(" ref.id = false ∧ opensWith "[[" ref.id = false ∧ ref.id ≠ "]") ∧
      ∀ ref ∈ r.outputs ++ r.inputs, ∀ w ∈ ref.annotation, opensWith "(" w = true)
    ⟨fun ⟨texts, id, type, position, leading, outputs, inputs, annotations⟩ =>
        ⟨texts, id, type, position, leading, outputs, inputs, annotations⟩,
      fun h => ⟨h.texts, h.id, h.type, h.position, h.leading, h.outputs, h.inputs,
        h.annotations⟩⟩

end LogRecord

/-! ### Annotated ids -/

/-- Leaving out annotations leaves the ids. -/
theorem withoutAnnotations_flatMap_words {refs : List Reference}
    (ids : ∀ ref ∈ refs, opensWith "(" ref.id = false)
    (annotations : ∀ ref ∈ refs, ∀ w ∈ ref.annotation, opensWith "(" w = true) (afterId : Bool) :
    withoutAnnotations afterId (refs.flatMap Reference.words) = refs.map (·.id) := by
  induction refs generalizing afterId with
  | nil => rfl
  | cons ref refs ih =>
    have id := ids ref (by simp)
    have later := ih (fun r member => ids r (List.mem_cons_of_mem ref member))
      (fun r member => annotations r (List.mem_cons_of_mem ref member))
    cases annotation : ref.annotation with
    | none => simp [Reference.words, annotation, withoutAnnotations, id, later]
    | some w =>
      have marked := annotations ref (by simp) w annotation
      simp [Reference.words, annotation, withoutAnnotations, id, marked, later]

/-- Ids are read up to the mark that closes their list, without their annotations. -/
theorem annotatedIds_flatMap_words {close : String} (unannotating : opensWith "(" close = false)
    {refs : List Reference}
    (ids : ∀ ref ∈ refs, opensWith "(" ref.id = false ∧ ref.id ≠ close)
    (annotations : ∀ ref ∈ refs, ∀ w ∈ ref.annotation, opensWith "(" w = true)
    (rest : List String) :
    annotatedIds close (refs.flatMap Reference.words ++ close :: rest) =
      some (refs.map (·.id), rest) := by
  have unclosed : close ∉ refs.flatMap Reference.words := by
    intro member
    obtain ⟨ref, inRefs, inWords⟩ := List.mem_flatMap.1 member
    rcases List.mem_cons.1 inWords with same | annotation
    · exact (ids ref inRefs).2 same.symm
    · have marked := annotations ref inRefs close (Option.mem_toList.1 annotation)
      rw [unannotating] at marked
      cases marked
  rw [annotatedIds_append unannotating unclosed,
    withoutAnnotations_flatMap_words (fun ref member => (ids ref member).1) annotations]

namespace LogRecord

/-! ### Headers and input lines -/

theorem exists_position {r : LogRecord} (h : r.Writable) :
    ∃ position rest, r.leading = position :: rest ∧ opensWith "@(" position = true := by
  have position := h.position
  cases leading : r.leading with
  | nil => simp [leading] at position
  | cons first rest => exact ⟨first, rest, rfl, by simpa [leading] using position⟩

theorem isHeader_headerWords {r : LogRecord} (h : r.Writable) : isHeader r.headerWords = true := by
  obtain ⟨position, rest, leading, opens⟩ := exists_position h
  have marked : opensWith headerMark ("#" ++ r.id) = true := by
    rw [opensWith, String.toList_append, headerMark, List.isPrefixOf_iff_prefix]
    exact List.prefix_append ..
  simp only [headerWords, leading, List.cons_append, isHeader, marked, Bool.true_and]
  exact opens

/-- A header is read back. -/
theorem read_headerWords {r : LogRecord} (h : r.Writable) :
    Header.read r.headerWords = .ok r.header := by
  have before : ∀ w ∈ r.leading, (w != arrow) = true := by
    intro w member
    simpa [arrow] using h.leading w member
  obtain ⟨taken, dropped⟩ := cut_append before
    ("->" :: "[" :: (r.outputs.flatMap Reference.words ++ "];" :: r.trailing)) (by simp [arrow])
  have outputs : annotatedIds headerClose
      (r.outputs.flatMap Reference.words ++ "];" :: r.trailing) =
        some (r.outputs.map (·.id), r.trailing) := by
    apply annotatedIds_flatMap_words (by decide)
    · intro ref member
      exact ⟨(h.outputs ref member).1, (h.outputs ref member).2.2⟩
    · intro ref member
      exact h.annotations ref (List.mem_append_left _ member)
  rw [headerWords, List.cons_append, List.cons_append, Header.read, taken, dropped]
  simp only [outputs]
  rw [headerMark, after?_append]
  rfl

/-- An input line is read back. -/
theorem readInputs_inputWords {r : LogRecord} (h : r.Writable) :
    readInputs r.inputWords = .ok (r.inputs.map (·.id)) := by
  have inputs : annotatedIds inputLineClose (r.inputs.flatMap Reference.words ++ ["]"]) =
      some (r.inputs.map (·.id), []) := by
    apply annotatedIds_flatMap_words (by decide)
    · intro ref member
      exact ⟨(h.inputs ref member).1, (h.inputs ref member).2.2⟩
    · intro ref member
      exact h.annotations ref (List.mem_append_right _ member)
  rw [inputWords, readInputs, if_pos (by decide), inputs]

/-! ### Merged lines -/

/-- The merged line is a way of writing the record. -/
theorem mergedWords_header (r : LogRecord) :
    r.header.mergedWords (r.inputs.map (·.id)) = r.record.words ⟨.omitted, .spaced⟩ := by
  have specials : r.record.specialsWords ⟨.omitted, .spaced⟩ = [] := rfl
  have outputs : r.record.outputsWords ⟨.omitted, .spaced⟩ =
      "[[" :: r.outputs.map (·.id) ++ ["]]"] := by
    rw [Record.outputsWords, record]
    cases r.outputs <;> rfl
  rw [Record.words, Record.bodyWords, specials, outputs]
  simp [Header.mergedWords, record, header, separator, outputsOpen, outputsClose]

theorem id_mem_flatMap_words {refs : List Reference} {id : String}
    (member : id ∈ refs.map (·.id)) : id ∈ refs.flatMap Reference.words := by
  obtain ⟨ref, inRefs, rfl⟩ := List.mem_map.1 member
  exact List.mem_flatMap.2 ⟨ref, inRefs, by simp [Reference.words]⟩

theorem writable_record {r : LogRecord} (h : r.Writable) : r.record.Writable where
  texts w member := by
    apply h.texts
    simp only [Record.texts, record, List.append_nil, List.mem_append, List.mem_cons] at member
    simp only [texts, List.mem_append, List.mem_cons]
    rcases member with ((rfl | rfl | inputs) | outputs) | leading | trailing
    · simp
    · simp
    · simp [id_mem_flatMap_words inputs]
    · simp [id_mem_flatMap_words outputs]
    · simp [leading]
    · simp [trailing]
  id := h.id
  type _ := h.type
  inputs := by
    simp only [record, List.forall_mem_map]
    exact fun ref member => ⟨(h.inputs ref member).2.1, (h.inputs ref member).1⟩
  specials := by simp [record]
  outputs := by
    simp only [record, List.forall_mem_map]
    exact fun ref member => (h.outputs ref member).2.1

/-- The marks of a JIT log that stand alone. -/
def marks : List String := ["->", "[", "];", "L[", "]"]

theorem isWord_of_mem_marks : ∀ w ∈ marks, IsWord w := by decide

theorem isWord_of_mem_headerWords {r : LogRecord} (h : r.Writable) :
    ∀ w ∈ r.headerWords, IsWord w := by
  intro w member
  simp only [headerWords, List.mem_append, List.mem_cons] at member
  rcases member with (rfl | rfl | leading) | rfl | rfl | outputs | rfl | trailing
  · have mark : IsWord "#" := by decide
    exact mark.append (h.texts r.id (by simp [texts]))
  · exact h.texts _ (by simp [texts])
  · exact h.texts w (by simp [texts, leading])
  · exact isWord_of_mem_marks _ (by decide)
  · exact isWord_of_mem_marks _ (by decide)
  · exact h.texts w (by simp only [texts, List.mem_append]; simp [outputs])
  · exact isWord_of_mem_marks _ (by decide)
  · exact h.texts w (by simp [texts, trailing])

theorem isWord_of_mem_inputWords {r : LogRecord} (h : r.Writable) :
    ∀ w ∈ r.inputWords, IsWord w := by
  intro w member
  simp only [inputWords, List.mem_append, List.mem_cons, List.not_mem_nil, or_false] at member
  rcases member with rfl | inputs | rfl
  · exact isWord_of_mem_marks _ (by decide)
  · exact h.texts w (by simp only [texts, List.mem_append]; simp [inputs])
  · exact isWord_of_mem_marks _ (by decide)

end LogRecord
end IrChart.JitLog
