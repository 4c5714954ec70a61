import IrChart.Proofs.Dump.Detection
import IrChart.Proofs.JitLog.Pairing
import IrChart.Proofs.Text.Words

/-!
# Normalizing twice

The lines that a JIT log is normalized to are lines of a node dump, and normalizing them again
should keep them. They are kept exactly if they are not taken for a JIT log themselves
(`normalizeLines_normalizeLines_iff`). That takes headers without an id: the header mark alone is a
word, an empty id leaves no word, and then the type stands first and an input third.
-/

namespace IrChart.JitLog
open Dump Text

/-! ### Words of headers and inputs -/

theorem subset_of_annotatedIds {close : String} {ws ids after : List String}
    (read : annotatedIds close ws = some (ids, after)) : ids ⊆ ws ∧ after ⊆ ws := by
  fun_induction annotatedIds close ws generalizing ids after with
  | case1 => cases read
  | case2 => cases read; simp
  | case3 => cases read
  | case4 next rest => cases read; simp
  | case5 id next rest other annotation ih =>
    obtain ⟨⟨ids', after'⟩, later, same⟩ := Option.map_eq_some_iff.1 read
    cases same
    obtain ⟨listed, following⟩ := ih later
    have tail : rest ⊆ id :: next :: rest :=
      List.subset_cons_of_subset id (List.subset_cons_self next rest)
    exact ⟨List.cons_subset.2 ⟨by simp, List.Subset.trans listed tail⟩,
      List.Subset.trans following tail⟩
  | case6 id next rest other plain ih =>
    obtain ⟨⟨ids', after'⟩, later, same⟩ := Option.map_eq_some_iff.1 read
    cases same
    obtain ⟨listed, following⟩ := ih later
    have tail : next :: rest ⊆ id :: next :: rest := List.subset_cons_self id (next :: rest)
    exact ⟨List.cons_subset.2 ⟨by simp, List.Subset.trans listed tail⟩,
      List.Subset.trans following tail⟩

theorem subset_of_readInputs {ws inputs : List String} (read : readInputs ws = .ok inputs) :
    inputs ⊆ ws := by
  unfold readInputs at read
  split at read
  · rename_i opening listed
    split at read
    · split at read
      · rename_i inputs' after ids
        cases read
        exact List.subset_cons_of_subset opening (subset_of_annotatedIds ids).1
      · cases read
    · cases read
  · cases read

/-- What a header says is words of the line, but for the id, which lost its mark. -/
theorem Header.subset_of_read {ws : List String} {header : Header}
    (read : Header.read ws = .ok header) :
    header.type :: header.outputs ++ header.metadata ⊆ ws ∧
      ∃ mark, ws.head? = some mark ∧ header.id = (after? headerMark mark).getD mark := by
  unfold Header.read at read
  split at read
  · rename_i mark type rest
    split at read
    · cases read
    · cases read
    · rename_i arrow' opening listed found
      split at read
      · cases read
      · rename_i outputs trailing ids
        cases read
        obtain ⟨inOutputs, inTrailing⟩ := subset_of_annotatedIds ids
        have stop : listed ⊆ rest := by
          intro w member
          apply (List.dropWhile_sublist (· != arrow)).subset
          rw [found]
          simp [member]
        have tail : rest ⊆ mark :: type :: rest :=
          List.subset_cons_of_subset mark (List.subset_cons_self type rest)
        have leading : rest.takeWhile (· != arrow) ⊆ rest :=
          (List.takeWhile_sublist (· != arrow)).subset
        refine ⟨?_, mark, rfl, rfl⟩
        simp only [List.cons_append, List.cons_subset, List.append_subset]
        have later : listed ⊆ mark :: type :: rest := List.Subset.trans stop tail
        exact ⟨by simp, List.Subset.trans inOutputs later, List.Subset.trans leading tail,
          List.Subset.trans inTrailing later⟩
  · cases read

/-- Blanks that a text does not have do not appear when a mark is cut off. -/
theorem unblank_getD_after? {mark text : String} (unblank : ∀ c ∈ text.toList, isBlank c = false) :
    ∀ c ∈ ((after? mark text).getD text).toList, isBlank c = false := by
  unfold after?
  split
  · intro c member
    rw [Option.getD_some, String.toList_ofList] at member
    exact unblank c (List.mem_of_mem_drop member)
  · exact unblank

theorem getD_after?_ne_empty {mark text : String} (full : text ≠ "") (longer : text ≠ mark) :
    (after? mark text).getD text ≠ "" := by
  unfold after?
  split
  · rename_i opens
    obtain ⟨rest, split⟩ := List.isPrefixOf_iff_prefix.1 opens
    rw [Option.getD_some, ← split, ← String.length_toList, List.drop_left]
    intro empty
    have nothing : rest = [] := by simpa using empty
    rw [nothing, List.append_nil] at split
    exact longer (String.toList_inj.1 split.symm)
  · exact full

/-! ### Merged lines -/

/-- The words of the line that a header and its inputs are merged into. -/
def lineWords (entry : Header × List String) : List String :=
  (if entry.1.id = "" then [] else [entry.1.id]) ++ [entry.1.type, separator] ++ entry.2 ++
    [outputsOpen] ++ entry.1.outputs ++ [outputsClose] ++ entry.1.metadata

theorem two_lt_length_lineWords (entry : Header × List String) : 2 < (lineWords entry).length := by
  simp only [lineWords, List.length_append, List.length_cons, List.length_nil]
  omega

theorem words_mergedText {lines : List String} {entry : Header × List String}
    (origin : ReadFrom (lines.map words) entry) : words (mergedText entry) = lineWords entry := by
  obtain ⟨⟨hs, inLines, -, heads⟩, is, inLines', listed⟩ := origin
  obtain ⟨said, mark, inHeader, id⟩ := Header.subset_of_read heads
  have whole : ∀ ws ∈ lines.map words, ∀ w ∈ ws, IsWord w := by
    intro ws member w inWords
    obtain ⟨line, -, rfl⟩ := List.mem_map.1 member
    exact isWord_of_mem_words inWords
  have tail : ∀ w ∈ [entry.1.type, separator] ++ entry.2 ++ [outputsOpen] ++ entry.1.outputs ++
      [outputsClose] ++ entry.1.metadata, IsWord w := by
    have header : ∀ w ∈ entry.1.type :: entry.1.outputs ++ entry.1.metadata, IsWord w :=
      fun w member => whole hs inLines w (said member)
    have inputs : ∀ w ∈ entry.2, IsWord w :=
      fun w member => whole is inLines' w (subset_of_readInputs listed member)
    have marks : ∀ w ∈ [separator, outputsOpen, outputsClose], IsWord w := by decide
    intro w member
    simp only [List.mem_append, List.mem_cons, List.not_mem_nil, or_false] at member header marks
    grind
  have unblank : ∀ c ∈ entry.1.id.toList, isBlank c = false := by
    rw [id]
    exact unblank_getD_after? (whole hs inLines mark (List.mem_of_head? inHeader)).unblank
  have split : entry.1.mergedWords entry.2 = entry.1.id :: ([entry.1.type, separator] ++ entry.2 ++
      [outputsOpen] ++ entry.1.outputs ++ [outputsClose] ++ entry.1.metadata) := by
    simp [Header.mergedWords]
  have allUnblank : ∀ w ∈ entry.1.mergedWords entry.2, ∀ c ∈ w.toList, isBlank c = false := by
    rw [split, List.forall_mem_cons]
    exact ⟨unblank, fun w member => (tail w member).unblank⟩
  have kept := List.filter_eq_self.2 fun w member => decide_eq_true (tail w member).nonempty
  rw [mergedText, words_unwords_of_unblank allUnblank, split, List.filter_cons, kept]
  by_cases empty : entry.1.id = "" <;> simp [lineWords, empty]

/-- A merged line that reads as a header: it has no id, its type begins with the header mark, and
its first input is a position. -/
def LikeHeader (entry : Header × List String) : Prop :=
  entry.1.id = "" ∧ opensWith headerMark entry.1.type = true ∧
    entry.2.head?.any (opensWith positionMark) = true

/-- A merged line that reads as an input line: its first word opens the inputs. -/
def LikeInputs (entry : Header × List String) : Prop :=
  entry.1.id = inputLineOpen ∨ entry.1.id = "" ∧ entry.1.type = inputLineOpen

/-- A merged line that reads as a record: it has an id, or its first input is the separator. -/
def LikeRecord (entry : Header × List String) : Prop :=
  entry.1.id ≠ "" ∨ entry.2.head? = some separator

/-- The merged lines read as a JIT log: a line that reads as a header stands directly before one
that reads as an input line, and none before them reads as a record. -/
def Relapses (entries : List (Header × List String)) : Prop :=
  ∃ before header inputs after, entries = before ++ header :: inputs :: after ∧
    LikeHeader header ∧ LikeInputs inputs ∧ ∀ entry ∈ before, ¬ LikeRecord entry

/-- A line without an id has an input for its third word, or the mark that opens the outputs. -/
theorem lineWords_of_id_eq_empty {entry : Header × List String} (empty : entry.1.id = "") :
    ∃ rest, lineWords entry =
      entry.1.type :: separator :: entry.2.head?.getD outputsOpen :: rest := by
  cases inputs : entry.2 with
  | nil => exact ⟨entry.1.outputs ++ [outputsClose] ++ entry.1.metadata, by simp [lineWords, *]⟩
  | cons first inputs' =>
    exact ⟨inputs' ++ [outputsOpen] ++ entry.1.outputs ++ [outputsClose] ++ entry.1.metadata,
      by simp [lineWords, *]⟩

theorem lineWords_of_id_ne_empty {entry : Header × List String} (full : entry.1.id ≠ "") :
    ∃ rest, lineWords entry = entry.1.id :: entry.1.type :: separator :: rest :=
  ⟨entry.2 ++ [outputsOpen] ++ entry.1.outputs ++ [outputsClose] ++ entry.1.metadata,
    by simp [lineWords, full]⟩

theorem lineWords_third_eq_separator_iff (entry : Header × List String) :
    (lineWords entry)[2]? = some separator ↔ LikeRecord entry := by
  by_cases empty : entry.1.id = ""
  · obtain ⟨rest, split⟩ := lineWords_of_id_eq_empty empty
    have unlike : outputsOpen ≠ separator := by decide
    rw [split]
    cases inputs : entry.2 <;> simp [LikeRecord, empty, unlike, inputs]
  · obtain ⟨rest, split⟩ := lineWords_of_id_ne_empty empty
    simp [split, LikeRecord, empty]

theorem isHeader_lineWords_iff (entry : Header × List String) :
    isHeader (lineWords entry) = true ↔ LikeHeader entry := by
  by_cases empty : entry.1.id = ""
  · obtain ⟨rest, split⟩ := lineWords_of_id_eq_empty empty
    have unlike : opensWith positionMark outputsOpen = false := by decide
    rw [split, isHeader]
    cases inputs : entry.2 <;> simp [LikeHeader, empty, unlike, inputs]
  · have record := (lineWords_third_eq_separator_iff entry).2 (.inl empty)
    constructor
    · intro header
      exact absurd record (separator_ne_of_isHeader header)
    · intro like
      exact absurd like.1 empty

theorem head?_lineWords_iff (entry : Header × List String) :
    (lineWords entry).head? = some inputLineOpen ↔ LikeInputs entry := by
  by_cases empty : entry.1.id = ""
  · obtain ⟨rest, split⟩ := lineWords_of_id_eq_empty empty
    have unlike : inputLineOpen ≠ "" := by decide
    simp [split, LikeInputs, empty, unlike.symm]
  · obtain ⟨rest, split⟩ := lineWords_of_id_ne_empty empty
    simp [split, LikeInputs, empty]

theorem isLog_map_lineWords_iff (entries : List (Header × List String)) :
    IsLog (entries.map lineWords) ↔ Relapses entries := by
  constructor
  · rintro ⟨before, header, after, split, heads, ⟨inputs, rest, rfl, opens⟩, inconclusive⟩
    obtain ⟨before', fromHeader, rfl, rfl, splitHeader⟩ := List.map_eq_append_iff.1 split
    obtain ⟨header', fromInputs, rfl, rfl, splitInputs⟩ := List.map_eq_cons_iff.1 splitHeader
    obtain ⟨inputs', after', rfl, rfl, rfl⟩ := List.map_eq_cons_iff.1 splitInputs
    refine ⟨before', header', inputs', after', rfl, (isHeader_lineWords_iff header').1 heads,
      (head?_lineWords_iff inputs').1 opens, ?_⟩
    intro entry member record
    exact inconclusive _ (List.mem_map_of_mem member)
      ((lineWords_third_eq_separator_iff entry).2 record)
  · rintro ⟨before, header, inputs, after, rfl, heads, opens, inconclusive⟩
    refine ⟨before.map lineWords, lineWords header, (inputs :: after).map lineWords, by simp,
      (isHeader_lineWords_iff header).2 heads,
      ⟨lineWords inputs, after.map lineWords, rfl, (head?_lineWords_iff inputs).2 opens⟩, ?_⟩
    intro ws member third
    obtain ⟨entry, inBefore, rfl⟩ := List.mem_map.1 member
    exact inconclusive entry inBefore ((lineWords_third_eq_separator_iff entry).1 third)

/-! ### Normalizing a normalized log -/

theorem map_words_normalizeLines {lines : List String} (dialect : detect lines = .jitLog) :
    (normalizeLines lines).map words = (pairs (lines.map words)).map lineWords := by
  rw [normalizeLines_of_jitLog dialect, List.map_map, List.map_inj_left]
  intro entry member
  rw [Function.comp_apply, words_mergedText (readFrom_of_mem_pairs member)]

/-- The dialect of a normalized log. -/
theorem detect_normalizeLines_iff {lines : List String} (dialect : detect lines = .jitLog) :
    detect (normalizeLines lines) = .jitLog ↔ Relapses (pairs (lines.map words)) := by
  have long : ∀ ws ∈ (pairs (lines.map words)).map lineWords, decide (2 < ws.length) = true := by
    intro ws member
    obtain ⟨entry, -, rfl⟩ := List.mem_map.1 member
    exact decide_eq_true (two_lt_length_lineWords entry)
  rw [detect_eq_jitLog_iff, map_words_normalizeLines dialect, List.filter_eq_self.2 long,
    isLog_map_lineWords_iff]

/-- Normalizing never makes lines more, and makes a JIT log at most half as long. -/
theorem two_mul_length_normalizeLines_le {lines : List String} (dialect : detect lines = .jitLog) :
    2 * (normalizeLines lines).length ≤ lines.length := by
  have bound := two_mul_length_pairs_le (lines.map words)
  rwa [List.length_map, ← List.length_map mergedText, ← normalizeLines_of_jitLog dialect] at bound

/-- Merged records have ids if the header mark begins no line as a word of its own. -/
theorem id_ne_empty_of_named {lines : List String}
    (named : ∀ line ∈ lines, (words line).head? ≠ some headerMark) {entry : Header × List String}
    (member : entry ∈ pairs (lines.map words)) : entry.1.id ≠ "" := by
  obtain ⟨⟨ws, inWords, -, heads⟩, -⟩ := readFrom_of_mem_pairs member
  obtain ⟨line, inLines, rfl⟩ := List.mem_map.1 inWords
  obtain ⟨-, mark, first, id⟩ := Header.subset_of_read heads
  have full : mark ≠ "" := (isWord_of_mem_words (List.mem_of_head? first)).nonempty
  have longer : mark ≠ headerMark := by
    rintro rfl
    exact named line inLines first
  rw [id]
  exact getD_after?_ne_empty full longer

/-- A normalized log is a node dump, if anything is left of it and the header mark begins no line as
a word of its own. -/
theorem detect_normalizeLines_of_named {lines : List String}
    (named : ∀ line ∈ lines, (words line).head? ≠ some headerMark)
    (dialect : detect lines = .jitLog) :
    detect (normalizeLines lines) = if normalizeLines lines = [] then .unknown else .nodeDump := by
  have read := map_words_normalizeLines dialect
  have ids : ∀ entry ∈ pairs (lines.map words), entry.1.id ≠ "" :=
    fun entry member => id_ne_empty_of_named named member
  cases entries : pairs (lines.map words) with
  | nil =>
    have nothing : normalizeLines lines = [] := by simpa [entries] using read
    rw [nothing]
    rfl
  | cons entry rest =>
    rw [entries] at read ids
    have some : normalizeLines lines ≠ [] := by
      intro nothing
      simp [nothing] at read
    obtain ⟨others, split⟩ := lineWords_of_id_ne_empty (ids entry (List.mem_cons_self ..))
    rw [if_neg some, detect, read, List.map_cons]
    exact detectFrom_of_separator (by simp [split]) _

/-- A normalized log is kept if the header mark begins no line as a word of its own. -/
theorem normalizeLines_normalizeLines_of_named {lines : List String}
    (named : ∀ line ∈ lines, (words line).head? ≠ some headerMark) :
    normalizeLines (normalizeLines lines) = normalizeLines lines := by
  by_cases dialect : detect lines = .jitLog
  · apply normalizeLines_of_ne_jitLog
    rw [detect_normalizeLines_of_named named dialect]
    split <;> simp
  · rw [normalizeLines_of_ne_jitLog dialect, normalizeLines_of_ne_jitLog dialect]

/-- Normalizing twice is normalizing once exactly if the lines are no JIT log, or the lines they are
merged into do not read as one again. -/
theorem normalizeLines_normalizeLines_iff (lines : List String) :
    normalizeLines (normalizeLines lines) = normalizeLines lines ↔
      (detect lines = .jitLog → ¬ Relapses (pairs (lines.map words))) := by
  by_cases dialect : detect lines = .jitLog
  · by_cases relapses : Relapses (pairs (lines.map words))
    · -- The second pass halves the lines, and there are some.
      have again := (detect_normalizeLines_iff dialect).2 relapses
      have bound := two_mul_length_normalizeLines_le again
      have some : 0 < (normalizeLines lines).length := by
        obtain ⟨before, header, inputs, after, split, -⟩ := relapses
        rw [normalizeLines_of_jitLog dialect, split]
        simp only [List.length_map, List.length_append, List.length_cons]
        omega
      simp only [dialect, relapses, not_true_eq_false, imp_false, iff_false]
      intro same
      rw [same] at bound
      omega
    · have kept : detect (normalizeLines lines) ≠ .jitLog :=
        fun again => relapses ((detect_normalizeLines_iff dialect).1 again)
      simp [normalizeLines_of_ne_jitLog kept, relapses]
  · simp [normalizeLines_of_ne_jitLog dialect, dialect]

/-- Headers without ids: the first merged line reads as a header, the second one as its inputs. -/
def relapsingLog : List String :=
  ["# #1 @(p -> [ ];", "L[ @(x ]", "# L[ @(p -> [ ];", "L[ a ]"]

theorem normalizeLines_relapsingLog :
    normalizeLines relapsingLog = [" #1 === @(x [[ ]] @(p", " L[ === a [[ ]] @(p"] ∧
      normalizeLines (normalizeLines relapsingLog) = [] ∧
      normalizeLines (normalizeLines relapsingLog) ≠ normalizeLines relapsingLog := by
  have once : normalizeLines relapsingLog =
      [" #1 === @(x [[ ]] @(p", " L[ === a [[ ]] @(p"] := by decide
  have twice : normalizeLines (normalizeLines relapsingLog) = [] := by
    rw [once]
    decide
  refine ⟨once, twice, ?_⟩
  rw [twice, once]
  simp

end IrChart.JitLog
