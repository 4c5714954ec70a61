import IrChart.Proofs.Dump.Detection
import IrChart.Proofs.JitLog.Pass
import Mathlib.Algebra.Group.Nat.Even
import Mathlib.Data.List.Induction

/-!
# The record that tells a log

A dump is told to be a log by a header and an input line (`detect_eq_jitLog_iff_tells`). Lines of
fewer than three words may stand between the two, and every header takes the place of the one before
it. The pass over a log pairs lines otherwise: the line after a header that can be read is its own,
whatever it is. So the record that tells a log is merged if its lines are neighbours and the headers
directly before them are even in number, and only then (`merges_iff_of_tells`).
-/

namespace IrChart

namespace Dump
open Text

/-- An input line tells a log, by the header that is the last line of three words or more before it.
The lines up to there tell no dialect. -/
structure Tells (before : List String) (header : String) (between : List String)
    (inputs : String) : Prop where
  heads : isHeader (words header) = true
  short : ∀ line ∈ between, (words line).length ≤ 2
  long : 2 < (words inputs).length
  opens : (words inputs).head? = some "L["
  undecided : detect (before ++ header :: between) = .unknown

/-! ### Telling a log -/

/-- A line that tells nothing is remembered only as a header or none, and not at all if it is
short. -/
theorem detectFrom_cons_of_unknown {afterHeader : Bool} {ws : List String}
    (unknown : detectFrom afterHeader [ws] = .unknown) (rest : List (List String)) :
    detectFrom afterHeader (ws :: rest) =
      detectFrom (if ws.length ≤ 2 then afterHeader else isHeader ws) rest := by
  rw [detectFrom] at unknown ⊢
  by_cases short : ws.length ≤ 2
  · rw [if_pos short, if_pos short]
  · rw [if_neg short] at unknown ⊢
    rw [if_neg short]
    split at unknown
    · cases unknown
    · rename_i log
      rw [if_neg log]
      split at unknown
      · rename_i header
        rw [if_pos header, header]
      · rename_i header
        rw [if_neg header]
        split at unknown
        · cases unknown
        · rename_i record
          rw [if_neg record, Bool.not_eq_true] at *
          rw [header]

/-- Lines of fewer than three words do not count. -/
theorem significant_append_of_short (lines : List String) {more : List String}
    (short : ∀ line ∈ more, (words line).length ≤ 2) :
    significant (lines ++ more) = significant lines := by
  have nothing : (more.map words).filter (2 < ·.length) = [] := by
    rw [List.filter_eq_nil_iff]
    intro ws member
    obtain ⟨line, inMore, rfl⟩ := List.mem_map.1 member
    simpa using short line inMore
  rw [significant, List.map_append, List.filter_append, nothing, List.append_nil, significant]

theorem significant_append_of_long (lines : List String) {line : String}
    (long : ¬ (words line).length ≤ 2) :
    significant (lines ++ [line]) = significant lines ++ [words line] := by
  simp [significant, Nat.lt_of_not_le long]

/-- What comes after lines that tell nothing depends on whether the last long one is a header. -/
theorem detect_append_of_unknown {lines : List String} (unknown : detect lines = .unknown)
    (more : List String) :
    detect (lines ++ more) = detectFrom (endsWithHeader (significant lines)) (more.map words) := by
  induction lines using List.reverseRecOn generalizing more with
  | nil => rfl
  | append_singleton lines line ih =>
    have before : detect lines = .unknown := by
      by_contra known
      rw [detect, List.map_append, detectFrom_append known] at unknown
      exact known unknown
    rw [ih before, List.map_singleton] at unknown
    rw [List.append_assoc, ih before, List.map_append, List.map_singleton, List.singleton_append,
      detectFrom_cons_of_unknown unknown]
    by_cases short : (words line).length ≤ 2
    · rw [if_pos short, significant_append_of_short lines (by simpa using short)]
    · rw [if_neg short, significant_append_of_long lines short, endsWithHeader_append]

theorem two_lt_length_of_isHeader {ws : List String} (header : isHeader ws = true) :
    2 < ws.length := by
  unfold isHeader at header
  split at header
  · simp
  · cases header

/-- The first word of a header opens no input line. -/
theorem head?_ne_of_isHeader {ws : List String} (header : isHeader ws = true) :
    ws.head? ≠ some "L[" := by
  unfold isHeader at header
  split at header
  · rename_i mark type position rest
    rintro first
    have same : mark = "L[" := by simpa using first
    rw [same] at header
    have unlike : opensWith headerMark "L[" = false := by decide
    simp [unlike] at header
  · cases header

/-- The last long line is a header exactly if only short lines follow some header. -/
theorem endsWithHeader_significant_iff {lines : List String} :
    endsWithHeader (significant lines) = true ↔
      ∃ before header between, lines = before ++ header :: between ∧
        isHeader (words header) = true ∧ ∀ line ∈ between, (words line).length ≤ 2 := by
  constructor
  · induction lines using List.reverseRecOn with
    | nil => simp [significant, endsWithHeader]
    | append_singleton lines line ih =>
      intro ends
      by_cases short : (words line).length ≤ 2
      · rw [significant_append_of_short lines (by simpa using short)] at ends
        obtain ⟨before, header, between, rfl, isHeader, shorts⟩ := ih ends
        refine ⟨before, header, between ++ [line], by simp, isHeader, ?_⟩
        intro other member
        rcases List.mem_append.1 member with old | new
        · exact shorts other old
        · rwa [List.mem_singleton.1 new]
      · rw [significant_append_of_long lines short, endsWithHeader_append] at ends
        exact ⟨lines, line, [], rfl, ends, by simp⟩
  · rintro ⟨before, header, between, rfl, isHeader, shorts⟩
    have long := Nat.not_le_of_lt (two_lt_length_of_isHeader isHeader)
    rw [List.append_cons, significant_append_of_short _ shorts,
      significant_append_of_long before long, endsWithHeader_append, isHeader]

theorem Tells.detect_eq {before between : List String} {header inputs : String}
    (tells : Tells before header between inputs) (after : List String) :
    detect (before ++ header :: between ++ inputs :: after) = .jitLog := by
  have remembered := endsWithHeader_significant_iff.2
    ⟨before, header, between, rfl, tells.heads, tells.short⟩
  have long : ¬ (words inputs).length ≤ 2 := by
    have := tells.long
    omega
  rw [detect_append_of_unknown tells.undecided, remembered, List.map_cons, detectFrom,
    if_neg long, if_pos]
  simp [tells.opens, inputLineOpen]

/-- A line at which the dialect turns out to be a log tells it. -/
theorem exists_tells_of_append {lines : List String} {line : String}
    (unknown : detect lines = .unknown) (log : detect (lines ++ [line]) = .jitLog) :
    ∃ before header between, lines = before ++ header :: between ∧
      Tells before header between line := by
  rw [detect_append_of_unknown unknown, List.map_singleton, detectFrom] at log
  split at log
  · cases log
  · rename_i long
    split at log
    · rename_i opens
      rw [Bool.and_eq_true, beq_iff_eq] at opens
      obtain ⟨before, header, between, rfl, isHeader, short⟩ :=
        endsWithHeader_significant_iff.1 opens.1
      exact ⟨before, header, between, rfl, isHeader, short, by omega, opens.2, unknown⟩
    · -- Whatever else the line is, alone after the others it makes no log.
      simp only [detectFrom] at log
      split at log
      · cases log
      · split at log <;> cases log

/-- A dump is a log exactly if one of its lines tells so. -/
theorem detect_eq_jitLog_iff_tells {lines : List String} :
    detect lines = .jitLog ↔
      ∃ before header between inputs after,
        lines = before ++ header :: between ++ inputs :: after ∧
          Tells before header between inputs := by
  constructor
  · intro log
    -- The lines that were read so far tell nothing; the rest is read one line at a time.
    suffices step : ∀ seen rest, detect seen = .unknown → detect (seen ++ rest) = .jitLog →
        ∃ before header between inputs after,
          seen ++ rest = before ++ header :: between ++ inputs :: after ∧
            Tells before header between inputs from step [] lines rfl log
    intro seen rest unknown log
    induction rest generalizing seen with
    | nil =>
      rw [List.append_nil, unknown] at log
      cases log
    | cons line rest ih =>
      have split : seen ++ line :: rest = seen ++ [line] ++ rest := by simp
      by_cases still : detect (seen ++ [line]) = .unknown
      · rw [split] at log ⊢
        exact ih _ still log
      · rw [split, detect, List.map_append, detectFrom_append still] at log
        obtain ⟨before, header, between, rfl, tells⟩ := exists_tells_of_append unknown log
        exact ⟨before, header, between, line, rest, rfl, tells⟩
  · rintro ⟨before, header, between, inputs, after, rfl, tells⟩
    exact tells.detect_eq after

end Dump

namespace JitLog
open Dump

/-! ### Reading a log behind some lines -/

/-- The line is a header that can be read. -/
def isReadable (ws : List String) : Bool := isHeader ws && (Header.read ws).isOk

/-- How many headers that can be read stand at the end of the lines, one directly after the other. -/
def headersAtEnd (lines : List (List String)) : Nat :=
  (lines.reverse.takeWhile isReadable).length

theorem headersAtEnd_append (lines : List (List String)) (ws : List String) :
    headersAtEnd (lines ++ [ws]) = if isReadable ws then headersAtEnd lines + 1 else 0 := by
  rw [headersAtEnd, List.reverse_append, List.reverse_singleton, List.singleton_append,
    List.takeWhile_cons]
  split <;> rfl

/-- A header waits after a line exactly if the line can be read as one and none waited for it. -/
theorem Scan.isSome_pending_step (s : Scan) (line : SourceLine) :
    (s.step line).pending.isSome = (!s.pending.isSome && isReadable line.words) := by
  unfold Scan.step isReadable
  cases waiting : s.pending with
  | some header => rfl
  | none =>
    cases isHeader line.words with
    | false => simp [waiting]
    | true => cases Header.read line.words <;> rfl

/-- Of headers that follow each other every second one is taken by the one before it. -/
theorem Scan.isSome_pending_foldl (lines : List SourceLine) :
    (lines.foldl Scan.step {}).pending.isSome = true ↔
      Odd (headersAtEnd (lines.map (·.words))) := by
  induction lines using List.reverseRecOn with
  | nil => simp [headersAtEnd]
  | append_singleton lines line ih =>
    rw [List.foldl_append, List.foldl_cons, List.foldl_nil, Scan.isSome_pending_step,
      List.map_append, List.map_singleton, headersAtEnd_append]
    by_cases readable : isReadable line.words = true
    · rw [readable, Bool.and_true, if_pos rfl, Nat.odd_add_one, ← ih]
      simp
    · rw [Bool.not_eq_true] at readable
      simp [readable]

theorem merged_append (outcomes more : List Outcome) :
    merged (outcomes ++ more) = merged outcomes ++ merged more := List.filterMap_append

/-- Lines after which no header waits are read by themselves. -/
theorem merged_outcomesOf_append {before : List SourceLine}
    (even : Even (headersAtEnd (before.map (·.words)))) (rest : List SourceLine) :
    merged (outcomesOf (before ++ rest)) =
      merged (outcomesOf before) ++ merged (outcomesOf rest) := by
  have free : (before.foldl Scan.step {}).pending = none := by
    rw [← Option.not_isSome_iff_eq_none, Scan.isSome_pending_foldl, Nat.not_odd_iff_even]
    exact even
  rw [← read_eq_outcomesOf, ← read_eq_outcomesOf before, read, read, List.foldl_append]
  generalize before.foldl Scan.step {} = s at free
  obtain ⟨pending, outcomes⟩ := s
  cases free
  rw [finish_foldl_step, merged_append]
  rfl

/-- Lines after which a header waits take the next line with them. -/
theorem merged_outcomesOf_append_of_odd {before : List SourceLine} {line : SourceLine}
    (odd : Odd (headersAtEnd (before.map (·.words)))) (other : line.words.head? ≠ some "L[")
    (rest : List SourceLine) :
    merged (outcomesOf (before ++ line :: rest)) =
      merged (outcomesOf before) ++ merged (outcomesOf rest) := by
  have waits := (Scan.isSome_pending_foldl before).2 odd
  rw [← read_eq_outcomesOf, ← read_eq_outcomesOf before, read, read, List.foldl_append,
    List.foldl_cons]
  generalize before.foldl Scan.step {} = s at waits
  obtain ⟨pending, outcomes⟩ := s
  obtain ⟨⟨header, headerLine⟩, rfl⟩ := Option.isSome_iff_exists.1 waits
  have dropped : pair header headerLine line = .error (.noInputLine header headerLine (some line)) :=
    pair_of_head?_ne other
  have step : Scan.step ⟨some (header, headerLine), outcomes⟩ line =
      ⟨none, outcomes.push (.error (.noInputLine header headerLine (some line)))⟩ := by
    rw [← dropped]
    rfl
  have finish : Scan.finish ⟨some (header, headerLine), outcomes⟩ =
      outcomes.toList ++ [.error (.noInputLine header headerLine none)] := Array.toList_push
  rw [step, finish_foldl_step, finish, Array.toList_push, merged_append, merged_append,
    merged_append]
  rfl

/-! ### The record that tells a log -/

/-- A line that has the number of none of the lines is not one of those that they are merged into. -/
theorem not_mem_merged_of_number {lines : List SourceLine} {line : SourceLine}
    (other : ∀ first ∈ lines, first.number ≠ line.number) : line ∉ merged (outcomesOf lines) := by
  intro member
  have numbered := (map_number_merged_sublist lines).subset (List.mem_map_of_mem member)
  obtain ⟨first, inLines, same⟩ := List.mem_map.1 numbered
  exact other first inLines same

/-- Merging with a line further down gives another line. -/
theorem merge_ne_of_before {record record' : Header} {ids ids' : List String}
    {header next inputs : SourceLine} (below : header.span.stop < next.span.start)
    (before : next.span.stop < inputs.span.start) :
    merge record ids header inputs ≠ merge record' ids' header next := by
  intro same
  have stop := congrArg (·.span.stop) same
  simp only [merge, Span.union] at stop
  have := next.span.start_le_stop
  have := inputs.span.start_le_stop
  omega

/-- In lines that begin with a header and that an input line is among, the two are merged exactly if
they are neighbours. -/
theorem merge_mem_merged_cons_iff {between after : List SourceLine} {header inputs : SourceLine}
    {record : Header} {ids : List String}
    (ascending : SourceLine.Ascending (header :: (between ++ inputs :: after)))
    (inOrder : SourceLine.InOrder (header :: (between ++ inputs :: after)))
    (heads : isHeader header.words = true) (read : Header.read header.words = .ok record)
    (inputsRead : readInputs inputs.words = .ok ids) :
    merge record ids header inputs ∈
        merged (outcomesOf (header :: (between ++ inputs :: after))) ↔ between = [] := by
  cases between with
  | nil =>
    have kept : pair record header inputs = .ok (merge record ids header inputs) :=
      pair_eq_ok_iff.2 ⟨ids, inputsRead, rfl⟩
    have first : outcomesOf (header :: ([] ++ inputs :: after)) =
        .ok (merge record ids header inputs) :: outcomesOf after := by
      simp only [List.nil_append, outcomesOf, heads, read, if_true, kept]
    rw [first, merged_cons_ok]
    simp
  | cons next between =>
    have first : outcomesOf (header :: (next :: between ++ inputs :: after)) =
        pair record header next :: outcomesOf (between ++ inputs :: after) := by
      simp only [List.cons_append, outcomesOf, heads, read, if_true]
    have elsewhere : merge record ids header inputs ∉
        merged (outcomesOf (between ++ inputs :: after)) := by
      apply not_mem_merged_of_number
      intro line member
      have later := List.rel_of_pairwise_cons ascending (List.mem_cons_of_mem next member)
      exact Nat.ne_of_gt later
    have absent : merge record ids header inputs ∉
        merged (pair record header next :: outcomesOf (between ++ inputs :: after)) := by
      cases outcome : pair record header next with
      | error why => exact elsewhere
      | ok line =>
        obtain ⟨ids', -, rfl⟩ := pair_eq_ok_iff.1 outcome
        rw [merged_cons_ok, List.mem_cons, not_or]
        have below := List.rel_of_pairwise_cons inOrder (List.mem_cons_self ..)
        have before := List.rel_of_pairwise_cons inOrder.of_cons
          (List.mem_append_right between (List.mem_cons_self ..))
        exact ⟨merge_ne_of_before below before, elsewhere⟩
    rw [first]
    simp [absent]

/-- In lines that a header and an input line are among, the two are merged exactly if they are
neighbours and no header waits for the header. -/
theorem merge_mem_merged_iff {before between after : List SourceLine} {header inputs : SourceLine}
    {record : Header} {ids : List String}
    (ascending : SourceLine.Ascending (before ++ header :: between ++ inputs :: after))
    (inOrder : SourceLine.InOrder (before ++ header :: between ++ inputs :: after))
    (heads : isHeader header.words = true) (read : Header.read header.words = .ok record)
    (inputsRead : readInputs inputs.words = .ok ids) :
    merge record ids header inputs ∈
        merged (outcomesOf (before ++ header :: between ++ inputs :: after)) ↔
      between = [] ∧ Even (headersAtEnd (before.map (·.words))) := by
  rw [List.append_assoc, List.cons_append] at ascending inOrder ⊢
  obtain ⟨-, ascending, earlier⟩ := List.pairwise_append.1 ascending
  obtain ⟨-, inOrder, -⟩ := List.pairwise_append.1 inOrder
  -- The merged line has the number of the header, so it comes from no other line.
  have notBefore : merge record ids header inputs ∉ merged (outcomesOf before) := by
    apply not_mem_merged_of_number
    intro line member
    exact Nat.ne_of_lt (earlier line member header (List.mem_cons_self ..))
  by_cases even : Even (headersAtEnd (before.map (·.words)))
  · rw [merged_outcomesOf_append even, List.mem_append, or_iff_right notBefore,
      merge_mem_merged_cons_iff ascending inOrder heads read inputsRead, and_iff_left even]
  · have odd := Nat.not_even_iff_odd.1 even
    have notAfter : merge record ids header inputs ∉
        merged (outcomesOf (between ++ inputs :: after)) := by
      apply not_mem_merged_of_number
      intro line member
      exact Nat.ne_of_gt (List.rel_of_pairwise_cons ascending member)
    rw [merged_outcomesOf_append_of_odd odd (head?_ne_of_isHeader heads), List.mem_append]
    simp [notBefore, notAfter, even]

/-- The lines at two places are merged, the first one as a header and the second one as its input
line. -/
def Merges (lines : List String) (i j : Nat) (record : Header) (ids : List String) : Prop :=
  ∃ header inputs, (SourceLine.ofTexts lines)[i]? = some header ∧
    (SourceLine.ofTexts lines)[j]? = some inputs ∧
    merge record ids header inputs ∈ merged (JitLog.read (SourceLine.ofTexts lines))

theorem mem_normalizeLines_of_merges {lines : List String} {i j : Nat} {record : Header}
    {ids : List String} (dialect : detect lines = .jitLog) (merges : Merges lines i j record ids) :
    mergedText (record, ids) ∈ normalizeLines lines := by
  obtain ⟨header, inputs, -, -, member⟩ := merges
  rw [normalizeLines, dialect]
  exact List.mem_map_of_mem member

/-- The record that tells a log, if its two lines can be read, is merged exactly if the lines are
neighbours and the headers that can be read directly before them are even in number. -/
theorem merges_iff_of_tells {lines before between after : List String} {header inputs : String}
    (split : lines = before ++ header :: between ++ inputs :: after)
    (tells : Tells before header between inputs) {record : Header} {ids : List String}
    (read : Header.read (Text.words header) = .ok record)
    (inputsRead : readInputs (Text.words inputs) = .ok ids) :
    detect lines = .jitLog ∧
      (Merges lines before.length (before.length + between.length + 1) record ids ↔
        between = [] ∧ Even (headersAtEnd (before.map Text.words))) ∧
      (between = [] → Even (headersAtEnd (before.map Text.words)) →
        mergedText (record, ids) ∈ normalizeLines lines) := by
  have dialect : detect lines = .jitLog := by
    rw [split]
    exact tells.detect_eq after
  have ascending := SourceLine.ascending_ofTexts lines
  have inOrder := SourceLine.inOrder_ofTexts lines
  have merges : Merges lines before.length (before.length + between.length + 1) record ids ↔
      between = [] ∧ Even (headersAtEnd (before.map Text.words)) := by
    have texts := (SourceLine.map_text_ofTexts lines).trans split
    obtain ⟨front, rest, lined, textsFront, textsRest⟩ := List.map_eq_append_iff.1 texts
    obtain ⟨inputsLine, after', rfl, rfl, -⟩ := List.map_eq_cons_iff.1 textsRest
    obtain ⟨before', middle, rfl, rfl, textsMiddle⟩ := List.map_eq_append_iff.1 textsFront
    obtain ⟨headerLine, between', rfl, rfl, rfl⟩ := List.map_eq_cons_iff.1 textsMiddle
    rw [lined] at ascending inOrder
    have kept := merge_mem_merged_iff ascending inOrder tells.heads read inputsRead
    have words : (before'.map (·.text)).map Text.words = before'.map (·.words) := by
      rw [List.map_map]
      rfl
    have here : (before' ++ headerLine :: between' ++ inputsLine :: after')[before'.length]? =
        some headerLine := by simp
    have below : (before' ++ headerLine :: between' ++ inputsLine :: after')[
        before'.length + between'.length + 1]? = some inputsLine := by
      rw [List.getElem?_append_right (by simp; omega)]
      simp [Nat.add_assoc]
    rw [words, List.map_eq_nil_iff, ← kept, Merges, lined, List.length_map, List.length_map, here,
      below, read_eq_outcomesOf]
    simp
  refine ⟨dialect, merges, ?_⟩
  intro neighbours even
  exact mem_normalizeLines_of_merges dialect (merges.2 ⟨neighbours, even⟩)

/-- Two headers before the one that has inputs. -/
def tripledLog : List String :=
  ["#1 A @(x) -> [ ];", "#2 B @(x) -> [ ];", "#3 C @(x) -> [ ];", "L[ 1 ]"]

theorem merges_iff_of_tells_tripledLog :
    detect tripledLog = .jitLog ∧
      Merges tripledLog 2 3 ⟨"3", "C", [], ["@(x)"]⟩ ["1"] ∧
      "3 C === 1 [[ ]] @(x)" ∈ normalizeLines tripledLog := by
  have tells : Tells ["#1 A @(x) -> [ ];", "#2 B @(x) -> [ ];"] "#3 C @(x) -> [ ];" [] "L[ 1 ]" :=
    ⟨by decide, by decide, by decide, by decide, by decide⟩
  have even : Even (headersAtEnd (["#1 A @(x) -> [ ];", "#2 B @(x) -> [ ];"].map Text.words)) := by
    decide
  have split : tripledLog = ["#1 A @(x) -> [ ];", "#2 B @(x) -> [ ];"] ++
      "#3 C @(x) -> [ ];" :: [] ++ "L[ 1 ]" :: [] := rfl
  have read : Header.read (Text.words "#3 C @(x) -> [ ];") = .ok ⟨"3", "C", [], ["@(x)"]⟩ := by rfl
  have inputsRead : readInputs (Text.words "L[ 1 ]") = .ok ["1"] := by rfl
  obtain ⟨dialect, merges, member⟩ := merges_iff_of_tells split tells read inputsRead
  exact ⟨dialect, merges.2 ⟨rfl, even⟩, member rfl even⟩

/-- An empty line between a header and its inputs. -/
def partedLog : List String := ["#1 A @(x) -> [ ];", "", "L[ 2 (B) ]"]

/-- A header between a header and its inputs. -/
def doubledLog : List String := ["#1 A @(x) -> [ ];", "#2 B @(x) -> [ ];", "L[ 1 ]"]

/-- Not every record that tells a log is merged. -/
theorem not_mem_normalizeLines_partedLog :
    (Tells [] "#1 A @(x) -> [ ];" [""] "L[ 2 (B) ]" ∧
      Header.read (Text.words "#1 A @(x) -> [ ];") = .ok ⟨"1", "A", [], ["@(x)"]⟩ ∧
      readInputs (Text.words "L[ 2 (B) ]") = .ok ["2"] ∧
      mergedText (⟨"1", "A", [], ["@(x)"]⟩, ["2"]) ∉ normalizeLines partedLog) ∧
    Tells ["#1 A @(x) -> [ ];"] "#2 B @(x) -> [ ];" [] "L[ 1 ]" ∧
      Header.read (Text.words "#2 B @(x) -> [ ];") = .ok ⟨"2", "B", [], ["@(x)"]⟩ ∧
      readInputs (Text.words "L[ 1 ]") = .ok ["1"] ∧
      mergedText (⟨"2", "B", [], ["@(x)"]⟩, ["1"]) ∉ normalizeLines doubledLog := by
  have parted : normalizeLines partedLog = [] := by decide
  have doubled : normalizeLines doubledLog = [] := by decide
  refine ⟨⟨⟨by decide, by decide, by decide, by decide, by decide⟩, by rfl, by rfl, ?_⟩,
    ⟨by decide, by decide, by decide, by decide, by decide⟩, by rfl, by rfl, ?_⟩
  · simp [parted]
  · simp [doubled]

end JitLog
end IrChart
