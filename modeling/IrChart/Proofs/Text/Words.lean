import IrChart.Text.Basic

/-!
# Writing words and lines

Reading a text as words undoes every way of writing words on a line: a `Spacing` says which blanks
stand before, between and after the words, and `words_write` holds for all of them. Reading a text
as lines undoes joining lines with newlines (`lines_unlines`).
-/

namespace IrChart.Text

/-- A word of a text: it has characters, and none of them is a blank. -/
structure IsWord (word : String) : Prop where
  nonempty : word ≠ ""
  unblank : ∀ c ∈ word.toList, isBlank c = false

-- The characters of the word are tried, not all characters.
instance (word : String) : Decidable (IsWord word) :=
  haveI : Decidable (∀ c ∈ word.toList, isBlank c = false) := List.decidableBAll _ _
  decidable_of_iff (word ≠ "" ∧ ∀ c ∈ word.toList, isBlank c = false)
    ⟨fun h => ⟨h.1, h.2⟩, fun h => ⟨h.nonempty, h.unblank⟩⟩

theorem IsWord.append {first second : String} (h : IsWord first) (h' : IsWord second) :
    IsWord (first ++ second) where
  nonempty := by simp [h.nonempty]
  unblank := by
    rw [String.toList_append, List.forall_mem_append]
    exact ⟨h.unblank, h'.unblank⟩

/-- Blanks that stay on one line. -/
def IsGap (gap : String) : Prop := ∀ c ∈ gap.toList, isBlank c = true ∧ c ≠ '\n'

instance (gap : String) : Decidable (IsGap gap) :=
  List.decidableBAll (fun c => isBlank c = true ∧ c ≠ '\n') gap.toList

/-- The blanks around words on one line: before the first word, after each word but the last, and
after the last. There is a blank between any two words. -/
structure Spacing where
  lead : String
  gap : Nat → String
  trail : String
  lead_gap : IsGap lead
  gap_gap : ∀ i, IsGap (gap i)
  gap_nonempty : ∀ i, gap i ≠ ""
  trail_gap : IsGap trail

/-- Words with blanks between them, `gap i` after the word at place `i`. -/
def between (gap : Nat → String) : List String → String
  | [] => ""
  | [word] => word
  | word :: next :: rest => word ++ gap 0 ++ between (fun i => gap (i + 1)) (next :: rest)

/-- The line on which a spacing writes words. -/
def Spacing.write (s : Spacing) (ws : List String) : String :=
  s.lead ++ between s.gap ws ++ s.trail

/-- One space between neighbours and no other blanks. -/
def Spacing.single : Spacing where
  lead := ""
  gap _ := " "
  trail := ""
  lead_gap := by simp [IsGap]
  gap_gap _ := by simp [IsGap, isBlank]
  gap_nonempty _ := by decide
  trail_gap := by simp [IsGap]

/-! ### Pieces between marks -/

/-- No piece holds a character that the list was cut at. -/
theorem not_of_mem_splitOnP {p : Char → Bool} {cs piece : List Char}
    (member : piece ∈ cs.splitOnP p) : ∀ c ∈ piece, p c = false := by
  induction cs generalizing piece with
  | nil =>
    rw [List.splitOnP_nil, List.mem_singleton] at member
    simp [member]
  | cons d cs ih =>
    rw [List.splitOnP_cons_eq_if_modifyHead] at member
    split at member
    · rcases List.mem_cons.1 member with rfl | later
      · simp
      · exact ih later
    · rename_i inside
      obtain ⟨first, rest, split⟩ := List.exists_cons_of_ne_nil (List.splitOnP_ne_nil p cs)
      rw [split, List.modifyHead_cons] at member
      rw [split] at ih
      rcases List.mem_cons.1 member with rfl | later
      · intro c inPiece
        rcases List.mem_cons.1 inPiece with rfl | inFirst
        · simpa using inside
        · exact ih (List.mem_cons_self ..) c inFirst
      · exact ih (List.mem_cons_of_mem first later)

section Joined

variable {separator : String} {mark : Char}

/-- Pieces joined by a mark are cut apart again. -/
theorem splitOnP_intercalate (joins : separator.toList = [mark]) {pieces : List String}
    (nonempty : pieces ≠ []) (whole : ∀ piece ∈ pieces, mark ∉ piece.toList) :
    ((separator.intercalate pieces).toList.splitOnP (· == mark)).map String.ofList = pieces := by
  have split : ([mark].intercalate (pieces.map String.toList)).splitOn mark =
      pieces.map String.toList := by
    apply List.splitOn_intercalate mark
    · intro cs member
      obtain ⟨piece, inPieces, rfl⟩ := List.mem_map.1 member
      exact whole piece inPieces
    · simpa using nonempty
  rw [String.toList_intercalate, joins, ← List.splitOn_eq_splitOnP, split, List.map_map]
  simp

/-- The pieces of a text, joined again, are the text. -/
theorem intercalate_splitOnP (joins : separator.toList = [mark]) (text : String) :
    separator.intercalate ((text.toList.splitOnP (· == mark)).map String.ofList) = text := by
  have same : String.toList ∘ String.ofList = id := funext fun cs => String.toList_ofList
  apply String.toList_injective
  rw [String.toList_intercalate, joins, List.map_map, same, List.map_id,
    ← List.splitOn_eq_splitOnP]
  exact List.intercalate_splitOn mark

end Joined

/-! ### Words of characters -/

/-- The words of a text as lists of characters. -/
private def runs (cs : List Char) : List (List Char) := (cs.splitOnP isBlank).filter (!·.isEmpty)

private theorem words_eq_runs (text : String) :
    words text = (runs text.toList).map String.ofList := rfl

/-- A blank ends a word, if there is one before it. -/
private theorem runs_append_blank {c : Char} (blank : isBlank c = true) (xs ys : List Char) :
    runs (xs ++ c :: ys) = runs xs ++ runs ys := by
  unfold runs
  rw [List.splitOnP_append_cons xs ys blank, List.filter_append]

private theorem runs_unblank {xs : List Char} (unblank : ∀ c ∈ xs, isBlank c = false) :
    runs xs = if xs = [] then [] else [xs] := by
  unfold runs
  rw [List.splitOnP_eq_singleton unblank]
  cases xs <;> simp

private theorem runs_blanks_append {gap : List Char} (blank : ∀ c ∈ gap, isBlank c = true)
    (ys : List Char) : runs (gap ++ ys) = runs ys := by
  induction gap with
  | nil => rfl
  | cons c gap ih =>
    have step := runs_append_blank (blank c (by simp)) [] (gap ++ ys)
    rw [List.nil_append] at step
    rw [List.cons_append, step]
    exact ih fun d member => blank d (List.mem_cons_of_mem c member)

/-! ### Words of texts -/

theorem IsGap.blank {gap : String} (h : IsGap gap) : ∀ c ∈ gap.toList, isBlank c = true :=
  fun c member => (h c member).1

theorem words_empty : words "" = [] := rfl

/-- Blanks in front of a text add no word. -/
theorem words_gap_append {gap : String} (h : IsGap gap) (text : String) :
    words (gap ++ text) = words text := by
  rw [words_eq_runs, words_eq_runs, String.toList_append, runs_blanks_append h.blank]

/-- A text without blanks is a word, or it is empty. -/
theorem words_of_unblank {text : String} (unblank : ∀ c ∈ text.toList, isBlank c = false) :
    words text = if text = "" then [] else [text] := by
  rw [words_eq_runs, runs_unblank unblank]
  by_cases empty : text = ""
  · simp [empty]
  · have full : text.toList ≠ [] := by simpa using empty
    simp [empty, full]

/-- Blanks end a word, if there is one before them. -/
theorem words_append_gap_append {gap : String} (h : IsGap gap) (full : gap ≠ "")
    (before after : String) : words (before ++ gap ++ after) = words before ++ words after := by
  have chars : gap.toList ≠ [] := by simpa using full
  obtain ⟨c, rest, split⟩ := List.exists_cons_of_ne_nil chars
  have blank := h.blank
  rw [split] at blank
  simp only [words_eq_runs, String.toList_append, split, List.append_assoc, List.cons_append]
  rw [runs_append_blank (blank c (by simp)),
    runs_blanks_append fun d member => blank d (List.mem_cons_of_mem c member), List.map_append]

theorem words_append_gap {gap : String} (h : IsGap gap) (text : String) :
    words (text ++ gap) = words text := by
  by_cases full : gap = ""
  · simp [full]
  · have split := words_append_gap_append h full text ""
    rw [String.append_empty, words_empty, List.append_nil] at split
    exact split

/-- Texts without blanks come back from any gaps between them, except that an empty one leaves no
word. -/
theorem words_between (gap : Nat → String) (gaps : ∀ i, IsGap (gap i)) (full : ∀ i, gap i ≠ "")
    (ws : List String) (unblank : ∀ w ∈ ws, ∀ c ∈ w.toList, isBlank c = false) :
    words (between gap ws) = ws.filter (· ≠ "") := by
  fun_induction between gap ws with
  | case1 => rfl
  | case2 gap word =>
    rw [words_of_unblank (unblank word (by simp))]
    by_cases empty : word = "" <;> simp [empty]
  | case3 gap word next rest ih =>
    rw [words_append_gap_append (gaps 0) (full 0),
      ih (fun i => gaps (i + 1)) (fun i => full (i + 1))
        (fun w member => unblank w (List.mem_cons_of_mem word member)),
      words_of_unblank (unblank word (by simp))]
    by_cases empty : word = "" <;> simp [empty]

private theorem filter_nonempty_of_isWord {ws : List String} (h : ∀ w ∈ ws, IsWord w) :
    ws.filter (· ≠ "") = ws :=
  List.filter_eq_self.2 fun w member => by simpa using (h w member).nonempty

/-- The words that a spacing writes are the words of the line. -/
theorem words_write (s : Spacing) {ws : List String} (h : ∀ w ∈ ws, IsWord w) :
    words (s.write ws) = ws := by
  unfold Spacing.write
  rw [words_append_gap s.trail_gap, words_gap_append s.lead_gap,
    words_between s.gap s.gap_gap s.gap_nonempty ws fun w member => (h w member).unblank,
    filter_nonempty_of_isWord h]

theorem unwords_eq_between (ws : List String) : unwords ws = between (fun _ => " ") ws := by
  unfold unwords
  induction ws with
  | nil => rfl
  | cons word rest ih =>
    cases rest with
    | nil => rw [String.intercalate_singleton]; rfl
    | cons next rest => rw [String.intercalate_cons_cons, ih]; rfl

/-- Joining texts without blanks by spaces loses only the empty ones. -/
theorem words_unwords_of_unblank {ws : List String}
    (unblank : ∀ w ∈ ws, ∀ c ∈ w.toList, isBlank c = false) :
    words (unwords ws) = ws.filter (· ≠ "") := by
  rw [unwords_eq_between]
  exact words_between _ Spacing.single.gap_gap Spacing.single.gap_nonempty ws unblank

/-- Words joined by spaces are read back. -/
theorem words_unwords {ws : List String} (h : ∀ w ∈ ws, IsWord w) : words (unwords ws) = ws := by
  rw [words_unwords_of_unblank fun w member => (h w member).unblank, filter_nonempty_of_isWord h]

/-- What is read as a word is one. -/
theorem isWord_of_mem_words {text word : String} (member : word ∈ words text) : IsWord word := by
  rw [words_eq_runs] at member
  obtain ⟨run, inRuns, rfl⟩ := List.mem_map.1 member
  obtain ⟨inPieces, full⟩ := List.mem_filter.1 inRuns
  refine ⟨by simpa using full, fun c inRun => ?_⟩
  rw [String.toList_ofList] at inRun
  exact not_of_mem_splitOnP inPieces c inRun

/-! ### Lists of words up to a mark -/

/-- Words are cut before the first one that does not go on, or nowhere. -/
theorem cut_append {p : String → Bool} {ws : List String} (before : ∀ w ∈ ws, p w = true)
    (rest : List String) (ends : ∀ w ∈ rest.head?, p w = false) :
    (ws ++ rest).takeWhile p = ws ∧ (ws ++ rest).dropWhile p = rest := by
  rw [List.takeWhile_append_of_pos before, List.dropWhile_append_of_pos before]
  cases rest with
  | nil => simp
  | cons w rest => simp [ends w rfl]

/-- A text that begins with a mark goes on after it. -/
theorem after?_append (mark text : String) : after? mark (mark ++ text) = some text := by
  have opens : opensWith mark (mark ++ text) = true := by
    rw [opensWith, String.toList_append, List.isPrefixOf_iff_prefix]
    exact List.prefix_append ..
  rw [after?, if_pos opens, String.toList_append, ← String.length_toList, List.drop_left]
  simp

/-- A text that begins with a mark is the mark and what comes after it. -/
theorem exists_append_of_opensWith {mark text : String} (opens : opensWith mark text = true) :
    ∃ rest, text = mark ++ rest := by
  obtain ⟨rest, split⟩ := List.isPrefixOf_iff_prefix.1 opens
  refine ⟨String.ofList rest, ?_⟩
  rw [← String.toList_inj, String.toList_append, String.toList_ofList, split]

/-! ### Lines -/

/-- Lines joined by newlines are read back. -/
theorem lines_unlines {ls : List String} (nonempty : ls ≠ [])
    (single : ∀ l ∈ ls, '\n' ∉ l.toList) : lines (unlines ls) = ls :=
  splitOnP_intercalate rfl nonempty single

private theorem mem_between {c : Char} {gap : Nat → String} {ws : List String}
    (member : c ∈ (between gap ws).toList) :
    (∃ i, c ∈ (gap i).toList) ∨ ∃ w ∈ ws, c ∈ w.toList := by
  fun_induction between gap ws with
  | case1 => simp at member
  | case2 gap word => exact .inr ⟨word, by simp, member⟩
  | case3 gap word next rest ih =>
    simp only [String.toList_append, List.mem_append] at member
    rcases member with (inWord | inGap) | later
    · exact .inr ⟨word, by simp, inWord⟩
    · exact .inl ⟨0, inGap⟩
    · rcases ih later with ⟨i, inGap⟩ | ⟨w, inWords, inWord⟩
      · exact .inl ⟨i + 1, inGap⟩
      · exact .inr ⟨w, List.mem_cons_of_mem word inWords, inWord⟩

/-- A spacing writes words on one line. -/
theorem newline_not_mem_write (s : Spacing) {ws : List String} (h : ∀ w ∈ ws, IsWord w) :
    '\n' ∉ (s.write ws).toList := by
  intro member
  simp only [Spacing.write, String.toList_append, List.mem_append] at member
  rcases member with (inLead | inside) | inTrail
  · exact (s.lead_gap _ inLead).2 rfl
  · rcases mem_between inside with ⟨i, inGap⟩ | ⟨w, inWords, inWord⟩
    · exact (s.gap_gap i _ inGap).2 rfl
    · have blank : isBlank '\n' = true := by decide
      rw [(h w inWords).unblank _ inWord] at blank
      exact Bool.false_ne_true blank
  · exact (s.trail_gap _ inTrail).2 rfl

end IrChart.Text
