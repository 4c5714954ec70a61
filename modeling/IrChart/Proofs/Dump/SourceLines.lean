import IrChart.Dump.Format
import IrChart.Proofs.Text.Lines

/-!
# Numbering lines

Numbering texts as source lines keeps the texts in order, and so their words. The lines do not
overlap: each ends before the next one starts (`inOrder_ofTexts`), and their numbers grow
(`ascending_ofTexts`). In a source the span of a line covers the line, and that of two neighbours
covers both (`coversLines_of_mem`, `coversLines_union`).
-/

namespace IrChart.SourceLine

theorem map_text_enumerateFrom (number offset : Nat) (texts : List String) :
    (enumerateFrom number offset texts).map (·.text) = texts := by
  induction texts generalizing number offset with
  | nil => rfl
  | cons text texts ih => rw [enumerateFrom, List.map_cons, ih]

@[simp] theorem map_text_ofTexts (texts : List String) :
    (ofTexts texts).map (·.text) = texts := map_text_enumerateFrom 1 0 texts

@[simp] theorem map_words_ofTexts (texts : List String) :
    (ofTexts texts).map (·.words) = texts.map Text.words := by
  calc (ofTexts texts).map (·.words)
      = ((ofTexts texts).map (·.text)).map Text.words := by
        rw [List.map_map]
        rfl
    _ = texts.map Text.words := by rw [map_text_ofTexts]

/-! ### Places of lines -/

theorem enumerateFrom_append (number offset : Nat) (before after : List String) :
    enumerateFrom number offset (before ++ after) =
      enumerateFrom number offset before ++
        enumerateFrom (number + before.length) (offset + Text.extent before) after := by
  induction before generalizing number offset with
  | nil => rfl
  | cons text before ih =>
    have number' : number + 1 + before.length = number + (text :: before).length := by
      rw [List.length_cons]
      omega
    have offset' : offset + text.utf8ByteSize + 1 + Text.extent before =
        offset + Text.extent (text :: before) := by
      rw [Text.extent_cons]
      omega
    rw [List.cons_append, enumerateFrom, ih, number', offset']
    rfl

/-- Each line ends before the lines after it start. -/
def InOrder (lines : List SourceLine) : Prop :=
  lines.Pairwise fun line later => line.span.stop < later.span.start

theorem offset_le_of_mem_enumerateFrom {number offset : Nat} {texts : List String}
    {line : SourceLine} (member : line ∈ enumerateFrom number offset texts) :
    offset ≤ line.span.start := by
  induction texts generalizing number offset with
  | nil => cases member
  | cons text texts ih =>
    rcases List.mem_cons.1 member with rfl | later
    · exact Nat.le_refl offset
    · have := ih later
      omega

theorem inOrder_enumerateFrom (number offset : Nat) (texts : List String) :
    InOrder (enumerateFrom number offset texts) := by
  induction texts generalizing number offset with
  | nil => exact List.Pairwise.nil
  | cons text texts ih =>
    refine List.Pairwise.cons ?_ (ih ..)
    intro later member
    have := offset_le_of_mem_enumerateFrom member
    show offset + text.utf8ByteSize < later.span.start
    omega

theorem inOrder_ofTexts (texts : List String) : InOrder (ofTexts texts) :=
  inOrder_enumerateFrom 1 0 texts

/-- Lines in order start at increasing places. -/
theorem InOrder.pairwise_start {lines : List SourceLine} (h : InOrder lines) :
    (lines.map (·.span.start)).Pairwise (· < ·) := by
  rw [List.pairwise_map]
  refine List.Pairwise.imp ?_ h
  intro line later apart
  have := line.span.start_le_stop
  omega

/-- The numbers of the lines grow. -/
def Ascending (lines : List SourceLine) : Prop :=
  lines.Pairwise fun line later => line.number < later.number

theorem number_le_of_mem_enumerateFrom {number offset : Nat} {texts : List String}
    {line : SourceLine} (member : line ∈ enumerateFrom number offset texts) :
    number ≤ line.number := by
  induction texts generalizing number offset with
  | nil => cases member
  | cons text texts ih =>
    rcases List.mem_cons.1 member with rfl | later
    · exact Nat.le_refl number
    · exact Nat.le_of_succ_le (ih later)

theorem ascending_enumerateFrom (number offset : Nat) (texts : List String) :
    Ascending (enumerateFrom number offset texts) := by
  induction texts generalizing number offset with
  | nil => exact List.Pairwise.nil
  | cons text texts ih =>
    refine List.Pairwise.cons ?_ (ih ..)
    intro later member
    exact number_le_of_mem_enumerateFrom member

theorem ascending_ofTexts (texts : List String) : Ascending (ofTexts texts) :=
  ascending_enumerateFrom 1 0 texts

/-- A line stands after the bytes of the lines before it. -/
theorem span_of_enumerateFrom {number offset : Nat} {texts : List String}
    {before after : List SourceLine} {line : SourceLine}
    (split : enumerateFrom number offset texts = before ++ line :: after) :
    line.span = .ofLength (offset + Text.extent (before.map (·.text))) line.text.utf8ByteSize := by
  have names : texts = before.map (·.text) ++ line.text :: after.map (·.text) := by
    rw [← map_text_enumerateFrom number offset texts, split, List.map_append, List.map_cons]
  rw [names, enumerateFrom_append, enumerateFrom] at split
  have length : (enumerateFrom number offset (before.map (·.text))).length = before.length := by
    rw [← List.length_map (·.text), map_text_enumerateFrom, List.length_map]
  have here := (List.append_inj split length).2
  rw [List.cons.injEq] at here
  exact (congrArg SourceLine.span here.1).symm

theorem lines_of_ofSource {source : String} {before covered after : List SourceLine}
    (split : ofSource source = before ++ covered ++ after) :
    Text.lines source =
      before.map (·.text) ++ covered.map (·.text) ++ after.map (·.text) := by
  rw [← map_text_ofTexts (Text.lines source), ← List.map_append, ← List.map_append]
  exact congrArg (List.map (·.text)) split

theorem coversLines_of_mem {source : String} {line : SourceLine} (member : line ∈ ofSource source) :
    line.span.CoversLines source [line.text] := by
  obtain ⟨before, after, split⟩ := List.append_of_mem member
  have place := span_of_enumerateFrom split
  rw [Nat.zero_add] at place
  have split' : ofSource source = before ++ [line] ++ after := by
    rw [split, List.append_assoc]
    rfl
  refine Span.coversLines (lines_of_ofSource split') (by simp) ?_ ?_
  · rw [place]
    rfl
  · rw [place]
    rfl

/-- The union of the spans of a line and the next one covers both lines. -/
theorem coversLines_union {source : String} {before after : List SourceLine}
    {line next : SourceLine} (split : ofSource source = before ++ line :: next :: after) :
    (line.span.union next.span).CoversLines source [line.text, next.text] := by
  have place := span_of_enumerateFrom split
  have split' : ofSource source = (before ++ [line]) ++ next :: after := by
    rw [split, List.append_assoc]
    rfl
  have place' := span_of_enumerateFrom split'
  have between : Text.extent ((before ++ [line]).map (·.text)) =
      Text.extent (before.map (·.text)) + (line.text.utf8ByteSize + 1) := by
    simp [Text.extent]
  have both : ofSource source = before ++ [line, next] ++ after := by
    rw [split, List.append_assoc]
    rfl
  have size : (Text.unlines [line.text, next.text]).utf8ByteSize =
      line.text.utf8ByteSize + 1 + next.text.utf8ByteSize := by
    have newline : "\n".utf8ByteSize = 1 := by decide
    rw [Text.unlines_cons (List.cons_ne_nil next.text []), String.utf8ByteSize_append,
      String.utf8ByteSize_append, newline]
    rfl
  rw [between] at place'
  rw [place, place']
  refine Span.coversLines (lines_of_ofSource both) (by simp) ?_ ?_
  · simp only [Span.union, Span.ofLength]
    omega
  · rw [size]
    simp only [Span.union, Span.ofLength]
    omega

end IrChart.SourceLine
