import IrChart.Dump.Format
import Mathlib.Data.List.Basic

/-!
# Which dialect a dump is told to have

Among the lines of three words or more, a JIT log has a header directly before an input line, and
no line before the two has the separator for its third word (`detect_eq_jitLog_iff`). By places:
the first line that is conclusive, for a log or for a node dump, tells the dialect, and the lines
after it do not matter (`detect_firstWitness`).
-/

namespace IrChart.Dump
open Text

/-- The first line opens a list of inputs. -/
def BeginsWithInputs (lines : List (List String)) : Prop :=
  ∃ inputs rest, lines = inputs :: rest ∧ inputs.head? = some inputLineOpen

/-- A header and an input line follow each other, and no line before them has the separator for its
third word. -/
def IsLog (lines : List (List String)) : Prop :=
  ∃ before header after, lines = before ++ header :: after ∧ isHeader header = true ∧
    BeginsWithInputs after ∧ ∀ ws ∈ before, ws[2]? ≠ some separator

theorem not_isLog_nil : ¬ IsLog [] := by
  rintro ⟨before, header, after, split, -⟩
  simp at split

theorem beginsWithInputs_cons {ws : List String} {rest : List (List String)} :
    BeginsWithInputs (ws :: rest) ↔ ws.head? = some inputLineOpen := by
  constructor
  · rintro ⟨inputs, rest', same, opens⟩
    cases same
    exact opens
  · intro opens
    exact ⟨ws, rest, rfl, opens⟩

/-- The third word of a header is its position. -/
theorem separator_ne_of_isHeader {ws : List String} (header : isHeader ws = true) :
    ws[2]? ≠ some separator := by
  unfold isHeader at header
  split at header
  · rename_i id second position rest
    rintro third
    have same : position = separator := by simpa using third
    rw [same] at header
    have unlike : opensWith positionMark separator = false := by decide
    simp [unlike] at header
  · simp at header

/-- A first line with the separator for its third word makes a node dump. -/
theorem detectFrom_of_separator {ws : List String} (record : ws[2]? = some separator)
    (rest : List (List String)) : detectFrom false (ws :: rest) = .nodeDump := by
  have long : ¬ ws.length ≤ 2 := by
    obtain ⟨more, -⟩ := List.getElem?_eq_some_iff.1 record
    omega
  have other : ¬ isHeader ws = true := fun header => separator_ne_of_isHeader header record
  simp [detectFrom, long, other, record]

/-- Lines of fewer than three words say nothing about the dialect. -/
theorem detectFrom_of_short {lines : List (List String)} (short : ∀ ws ∈ lines, ws.length ≤ 2)
    (afterHeader : Bool) : detectFrom afterHeader lines = .unknown := by
  induction lines with
  | nil => rfl
  | cons ws rest ih =>
    obtain ⟨here, later⟩ := List.forall_mem_cons.1 short
    rw [detectFrom, if_pos here, ih later]

theorem isLog_cons {ws : List String} {rest : List (List String)} :
    IsLog (ws :: rest) ↔
      (isHeader ws = true ∧ BeginsWithInputs rest) ∨ (ws[2]? ≠ some separator ∧ IsLog rest) := by
  constructor
  · rintro ⟨before, header, after, split, isHeader, inputs, inconclusive⟩
    cases before with
    | nil =>
      cases split
      exact .inl ⟨isHeader, inputs⟩
    | cons first before =>
      cases split
      obtain ⟨here, later⟩ := List.forall_mem_cons.1 inconclusive
      exact .inr ⟨here, before, header, after, rfl, isHeader, inputs, later⟩
  · rintro (⟨header, inputs⟩ | ⟨here, before, header, after, rfl, isHeader, inputs, later⟩)
    · exact ⟨[], ws, rest, rfl, header, inputs, by simp⟩
    · exact ⟨ws :: before, header, after, rfl, isHeader, inputs,
        List.forall_mem_cons.2 ⟨here, later⟩⟩

/-- Lines of fewer than three words do not count. -/
theorem detectFrom_filter (afterHeader : Bool) (lines : List (List String)) :
    detectFrom afterHeader (lines.filter (2 < ·.length)) = detectFrom afterHeader lines := by
  induction lines generalizing afterHeader with
  | nil => rfl
  | cons ws rest ih =>
    by_cases short : ws.length ≤ 2
    · rw [List.filter_cons_of_neg (by simpa using short), ih, detectFrom, if_pos short]
    · rw [List.filter_cons_of_pos (by simpa using short), detectFrom, detectFrom]
      simp only [ih]

/-- The lines that come after a header, or after none, decide on a JIT log. -/
theorem detectFrom_eq_jitLog_iff (afterHeader : Bool) {lines : List (List String)}
    (long : ∀ ws ∈ lines, 2 < ws.length) :
    detectFrom afterHeader lines = .jitLog ↔
      (afterHeader = true ∧ BeginsWithInputs lines) ∨ IsLog lines := by
  induction lines generalizing afterHeader with
  | nil => simp [detectFrom, not_isLog_nil, BeginsWithInputs]
  | cons ws rest ih =>
    obtain ⟨here, later⟩ := List.forall_mem_cons.1 long
    rw [detectFrom, if_neg (by omega), isLog_cons, beginsWithInputs_cons]
    by_cases inputs : afterHeader = true ∧ ws.head? = some inputLineOpen
    · simp [inputs]
    · rw [if_neg (by simpa using inputs)]
      simp only [inputs, false_or]
      by_cases header : isHeader ws = true
      · simp [header, ih true later, separator_ne_of_isHeader header]
      · by_cases record : ws[2]? = some separator
        · simp [header, record]
        · simp [header, record, ih false later]

/-- A dump is a JIT log if, among its lines of three words or more, a header and an input line
follow each other before any line has the separator for its third word. -/
theorem detect_eq_jitLog_iff (lines : List String) :
    detect lines = .jitLog ↔ IsLog ((lines.map words).filter (2 < ·.length)) := by
  have long : ∀ ws ∈ (lines.map words).filter (2 < ·.length), 2 < ws.length := by
    intro ws member
    simpa using (List.mem_filter.1 member).2
  rw [detect, ← detectFrom_filter, detectFrom_eq_jitLog_iff false long]
  simp

/-! ### The first conclusive line -/

/-- The lines of three words or more, by their words. -/
def significant (lines : List String) : List (List String) :=
  (lines.map words).filter (2 < ·.length)

/-- The line at place `j` opens a list of inputs, and the one before it is a header. -/
def LogWitness (lines : List (List String)) (j : Nat) : Prop :=
  0 < j ∧ (∃ inputs ∈ lines[j]?, inputs.head? = some "L[") ∧
    ∃ header ∈ lines[j - 1]?, isHeader header = true

/-- The line at place `j` has the separator for its third word. -/
def RecordWitness (lines : List (List String)) (j : Nat) : Prop :=
  ∃ record ∈ lines[j]?, record[2]? = some "==="

/-- The line at place `j` tells the dialect. -/
def Witness (lines : List (List String)) (j : Nat) : Prop :=
  LogWitness lines j ∨ RecordWitness lines j

/-- The line at place `j` is the first one that tells the dialect. -/
structure FirstWitness (lines : List (List String)) (j : Nat) : Prop where
  witness : Witness lines j
  earlier : ∀ i < j, ¬ Witness lines i

instance (lines : List (List String)) (j : Nat) : Decidable (LogWitness lines j) :=
  inferInstanceAs (Decidable (_ ∧ _ ∧ _))

instance (lines : List (List String)) (j : Nat) : Decidable (RecordWitness lines j) :=
  inferInstanceAs (Decidable (∃ record ∈ lines[j]?, record[2]? = some "==="))

instance (lines : List (List String)) (j : Nat) : Decidable (Witness lines j) :=
  inferInstanceAs (Decidable (_ ∨ _))

instance (lines : List (List String)) (j : Nat) : Decidable (FirstWitness lines j) :=
  decidable_of_iff (Witness lines j ∧ ∀ i < j, ¬ Witness lines i)
    ⟨fun h => ⟨h.1, h.2⟩, fun h => ⟨h.witness, h.earlier⟩⟩

/-- The dialect that the first conclusive line tells. -/
inductive Told (lines : List (List String)) : Format → Prop
  | unknown (none : ∀ j, ¬ Witness lines j) : Told lines .unknown
  | jitLog {j : Nat} (first : FirstWitness lines j) (log : LogWitness lines j) :
      Told lines .jitLog
  | nodeDump {j : Nat} (first : FirstWitness lines j) (other : ¬ LogWitness lines j) :
      Told lines .nodeDump

theorem FirstWitness.eq {lines : List (List String)} {i j : Nat} (h : FirstWitness lines i)
    (h' : FirstWitness lines j) : i = j := by
  rcases Nat.lt_trichotomy i j with before | same | after
  · exact absurd h.witness (h'.earlier i before)
  · exact same
  · exact absurd h'.witness (h.earlier j after)

/-- The last of some lines is a header. This is what the scan remembers of them. -/
def endsWithHeader (lines : List (List String)) : Bool := lines.getLast?.any isHeader

theorem endsWithHeader_append (before : List (List String)) (ws : List String) :
    endsWithHeader (before ++ [ws]) = isHeader ws := by
  simp [endsWithHeader]

/-- Whether a line is a witness depends on it and on what is remembered of the lines before it. -/
theorem logWitness_length_iff {before : List (List String)} {ws : List String}
    {rest : List (List String)} :
    LogWitness (before ++ ws :: rest) before.length ↔
      endsWithHeader before = true ∧ ws.head? = some "L[" := by
  rcases List.eq_nil_or_concat before with rfl | ⟨front, last, rfl⟩
  · simp [LogWitness, endsWithHeader]
  · simp [LogWitness, endsWithHeader, and_comm]

theorem recordWitness_length_iff {before : List (List String)} {ws : List String}
    {rest : List (List String)} :
    RecordWitness (before ++ ws :: rest) before.length ↔ ws[2]? = some "===" := by
  simp [RecordWitness]

/-- Beyond the last line there is no witness. -/
theorem Witness.lt_length {lines : List (List String)} {j : Nat} (h : Witness lines j) :
    j < lines.length := by
  have present : ∃ ws, lines[j]? = some ws := by
    rcases h with ⟨-, ⟨ws, here, -⟩, -⟩ | ⟨ws, here, -⟩ <;> exact ⟨ws, here⟩
  obtain ⟨ws, here⟩ := present
  exact (List.getElem?_eq_some_iff.1 here).1

/-- The scan tells what the first conclusive line tells, if none of the lines behind it was
conclusive. -/
theorem told_detectFrom {before rest : List (List String)} (long : ∀ ws ∈ rest, 2 < ws.length)
    (silent : ∀ i < before.length, ¬ Witness (before ++ rest) i) :
    Told (before ++ rest) (detectFrom (endsWithHeader before) rest) := by
  induction rest generalizing before with
  | nil =>
    apply Told.unknown
    intro j witness
    have inside := witness.lt_length
    rw [List.append_nil] at inside
    exact silent j inside witness
  | cons ws rest ih =>
    obtain ⟨here, later⟩ := List.forall_mem_cons.1 long
    have split : before ++ ws :: rest = before ++ [ws] ++ rest := by simp
    rw [detectFrom, if_neg (by omega)]
    by_cases log : endsWithHeader before = true ∧ ws.head? = some "L["
    · have log' : LogWitness (before ++ ws :: rest) before.length := logWitness_length_iff.2 log
      rw [if_pos (by simpa [inputLineOpen] using log)]
      exact .jitLog ⟨.inl log', silent⟩ log'
    · have unlog : ¬ LogWitness (before ++ ws :: rest) before.length :=
        fun witness => log (logWitness_length_iff.1 witness)
      rw [if_neg (by simpa [inputLineOpen] using log)]
      by_cases record : ws[2]? = some "==="
      · have header : ¬ isHeader ws = true := fun header => separator_ne_of_isHeader header record
        rw [if_neg header, if_pos (by simpa [separator] using record)]
        exact .nodeDump ⟨.inr (recordWitness_length_iff.2 record), silent⟩ unlog
      · -- The line is no witness, and only whether it is a header is remembered of it.
        have silent' : ∀ i < (before ++ [ws]).length, ¬ Witness (before ++ [ws] ++ rest) i := by
          intro i inside
          rw [← split]
          rw [List.length_append, List.length_singleton] at inside
          rcases Nat.lt_succ_iff_lt_or_eq.1 inside with earlier | rfl
          · exact silent i earlier
          · rintro (witness | witness)
            · exact unlog witness
            · exact record (recordWitness_length_iff.1 witness)
        have next := ih later silent'
        rw [endsWithHeader_append, ← split] at next
        by_cases header : isHeader ws = true
        · rw [if_pos header]
          rwa [header] at next
        · have plain : isHeader ws = false := by simpa using header
          rw [if_neg header, if_neg (by simpa [separator] using record)]
          rwa [plain] at next

theorem told_detect (lines : List String) : Told (significant lines) (detect lines) := by
  have long : ∀ ws ∈ significant lines, 2 < ws.length := by
    intro ws member
    simpa using (List.mem_filter.1 member).2
  have told : Told ([] ++ significant lines) (detectFrom false (significant lines)) :=
    told_detectFrom long (by simp)
  rwa [List.nil_append, significant, detectFrom_filter] at told

/-- Lines after a conclusive one do not count. -/
theorem detectFrom_append {lines : List (List String)} {afterHeader : Bool}
    (known : detectFrom afterHeader lines ≠ .unknown) (more : List (List String)) :
    detectFrom afterHeader (lines ++ more) = detectFrom afterHeader lines := by
  fun_induction detectFrom afterHeader lines with
  | case1 => exact absurd rfl known
  | case2 afterHeader ws rest short ih =>
    rw [List.cons_append, detectFrom, if_pos short, ih known]
  | case3 afterHeader ws rest long log =>
    rw [List.cons_append, detectFrom, if_neg long, if_pos log]
  | case4 afterHeader ws rest long log header ih =>
    rw [List.cons_append, detectFrom, if_neg long, if_neg log, if_pos header, ih known]
  | case5 afterHeader ws rest long log header record =>
    rw [List.cons_append, detectFrom, if_neg long, if_neg log, if_neg header, if_pos record]
  | case6 afterHeader ws rest long log header record ih =>
    rw [List.cons_append, detectFrom, if_neg long, if_neg log, if_neg header, if_neg record,
      ih known]

/-- The first conclusive line tells the dialect, and the dialect is unknown if there is none. Lines
of fewer than three words do not matter, nor does anything after a conclusive line. -/
theorem detect_firstWitness (lines : List String) :
    (detect lines = .unknown ↔ ∀ j, ¬ Witness (significant lines) j) ∧
      (∀ j, FirstWitness (significant lines) j →
        detect lines = if LogWitness (significant lines) j then .jitLog else .nodeDump) ∧
      (∀ other, significant other = significant lines → detect other = detect lines) ∧
      (detect lines ≠ .unknown → ∀ more, detect (lines ++ more) = detect lines) := by
  have told := told_detect lines
  refine ⟨?_, ?_, ?_, ?_⟩
  · constructor
    · intro unknown
      rw [unknown] at told
      cases told with
      | unknown none => exact none
    · intro none
      generalize detect lines = format at told
      cases told with
      | unknown => rfl
      | jitLog first => exact absurd first.witness (none _)
      | nodeDump first => exact absurd first.witness (none _)
  · intro j first
    generalize detect lines = format at told
    cases told with
    | unknown none => exact absurd first.witness (none j)
    | jitLog first' log =>
      rw [first.eq first', if_pos log]
    | nodeDump first' other =>
      rw [first.eq first', if_neg other]
  · intro other same
    have filtered (lines : List String) :
        detect lines = detectFrom false (significant lines) := by
      rw [significant, detectFrom_filter, detect]
    rw [filtered, filtered, same]
  · intro known more
    rw [detect, List.map_append]
    exact detectFrom_append known _

/-- A header, a line of two words, and an input line with the separator for its third word. -/
def crossedLog : List String := ["#1 A @(x", "L[ ]", "L[ 2 === ]", "3 B === [[ ]]"]

theorem detect_firstWitness_crossedLog :
    FirstWitness (significant crossedLog) 1 ∧ RecordWitness (significant crossedLog) 1 ∧
      detect crossedLog = .jitLog ∧
      ∀ more, detect (crossedLog ++ more) = .jitLog := by
  have first : FirstWitness (significant crossedLog) 1 := by decide
  have log : LogWitness (significant crossedLog) 1 := by decide
  obtain ⟨-, verdict, -, kept⟩ := detect_firstWitness crossedLog
  have dialect := verdict 1 first
  rw [if_pos log] at dialect
  refine ⟨first, by decide, dialect, ?_⟩
  intro more
  rw [kept (by simp [dialect]) more, dialect]

end IrChart.Dump
