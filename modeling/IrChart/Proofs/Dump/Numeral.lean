import IrChart.Dump.Record
import Mathlib.Data.List.TakeWhile
import Mathlib.Data.String.Basic

/-!
# The words that are numbers

A grammar of number literals, and the four tests that decide whether a word is one. The forms of the
grammar begin alike (`0e5` is a decimal, `0b1` is not), and the reader of floating-point numbers
knows more words than the grammar; still the tests accept its literals and nothing else
(`isNumeral_iff_literal`).
-/

namespace IrChart.Numeral

/-! ### The grammar -/

/-- Nothing or a sign. -/
inductive Sign : List Char → Prop
  | absent : Sign []
  | plus : Sign ['+']
  | minus : Sign ['-']

/-- The decimal digits. -/
def decimals : String := "0123456789"

/-- The letter after the zero that announces the digits of a base. -/
inductive Mark : Char → String → Prop
  | hexadecimal {mark : Char} : mark = 'x' ∨ mark = 'X' → Mark mark "0123456789abcdefABCDEF"
  | octal {mark : Char} : mark = 'o' ∨ mark = 'O' → Mark mark "01234567"
  | binary {mark : Char} : mark = 'b' ∨ mark = 'B' → Mark mark "01"

/-- At least one character, and all of them among the given ones. -/
structure Digits (among : String) (cs : List Char) : Prop where
  nonempty : cs ≠ []
  all : ∀ c ∈ cs, c ∈ among.toList

/-- Decimal digits with at most one point among, before or after them. -/
inductive Mantissa : List Char → Prop
  | whole {digits : List Char} : Digits decimals digits → Mantissa digits
  | pointed {front back : List Char} :
    Digits decimals (front ++ back) → Mantissa (front ++ '.' :: back)

/-- Nothing, or `e` or `E`, an optional sign and decimal digits. -/
inductive Exponent : List Char → Prop
  | absent : Exponent []
  | present {mark : Char} {sign digits : List Char} :
    mark = 'e' ∨ mark = 'E' → Sign sign → Digits decimals digits → Exponent (mark :: (sign ++ digits))

/-- The number literals. -/
inductive Literal : List Char → Prop
  | infinity {sign : List Char} : Sign sign → Literal (sign ++ "Infinity".toList)
  | marked {mark : Char} {among : String} {digits : List Char} :
    Mark mark among → Digits among digits → Literal ('0' :: mark :: digits)
  | decimal {sign mantissa exponent : List Char} :
    Sign sign → Mantissa mantissa → Exponent exponent → Literal (sign ++ (mantissa ++ exponent))

/-! ### Digits -/

/-- A digit of any base is among the first 128 characters. -/
theorem lt_of_isDigitOf {base : Nat} {c : Char} (digit : Text.isDigitOf base c = true) :
    c.toNat < 128 := by
  have last : '9'.toNat < 128 ∧ 'z'.toNat < 128 ∧ 'Z'.toNat < 128 := by decide
  simp only [Text.isDigitOf, Text.digitValue?, Char.le_def, UInt32.le_iff_toNat_le,
    Char.toNat_val] at digit
  split_ifs at digit with decimal lower upper
  · omega
  · omega
  · omega
  · simp at digit

/-- The digits of a base are those of a table, if this is so for the first 128 characters. -/
theorem isDigitOf_iff_of_each {base : Nat} {among : String}
    (each : ∀ n < 128, Text.isDigitOf base (Char.ofNat n) = true → Char.ofNat n ∈ among.toList)
    (digits : among.toList.all (Text.isDigitOf base) = true) {c : Char} :
    Text.isDigitOf base c = true ↔ c ∈ among.toList := by
  constructor
  · intro digit
    have here := each c.toNat (lt_of_isDigitOf digit)
    rw [Char.ofNat_toNat] at here
    exact here digit
  · intro member
    exact List.all_eq_true.1 digits c member

theorem isDigitOf_ten_iff {c : Char} : Text.isDigitOf 10 c = true ↔ c ∈ decimals.toList :=
  isDigitOf_iff_of_each (by decide) (by decide)

/-- Digits of a base, all of them. -/
theorem digits_iff {base : Nat} {among : String} {cs : List Char}
    (table : ∀ c, Text.isDigitOf base c = true ↔ c ∈ among.toList) :
    (!cs.isEmpty && cs.all (Text.isDigitOf base)) = true ↔ Digits among cs := by
  have all : cs.all (Text.isDigitOf base) = true ↔ ∀ c ∈ cs, c ∈ among.toList := by
    rw [List.all_eq_true]
    exact forall₂_congr fun c _ => table c
  rw [Bool.and_eq_true, all]
  constructor
  · rintro ⟨nonempty, inTable⟩
    exact ⟨by simpa using nonempty, inTable⟩
  · rintro ⟨nonempty, inTable⟩
    exact ⟨by simpa using nonempty, inTable⟩

/-! ### The mark of a base -/

theorem append_of_splitBytes? {n : Nat} {cs front rest : List Char}
    (split : splitBytes? n cs = some (front, rest)) :
    front ++ rest = cs ∧ String.utf8Len front = n := by
  fun_induction splitBytes? n cs generalizing front rest with
  | case1 cs =>
    cases split
    exact ⟨rfl, rfl⟩
  | case2 n => cases split
  | case3 n c cs fits ih =>
    obtain ⟨⟨front', rest'⟩, later, parts⟩ := Option.map_eq_some_iff.1 split
    cases parts
    obtain ⟨rfl, bytes⟩ := ih later
    refine ⟨rfl, ?_⟩
    rw [String.utf8Len_cons]
    omega
  | case4 n c cs wide => cases split

theorem splitBytes?_append (front rest : List Char) :
    splitBytes? (String.utf8Len front) (front ++ rest) = some (front, rest) := by
  induction front with
  | nil => cases rest <;> rfl
  | cons c front ih =>
    have size := c.utf8Size_pos
    obtain ⟨n, bytes⟩ : ∃ n, String.utf8Len (c :: front) = n + 1 := by
      refine ⟨String.utf8Len front + c.utf8Size - 1, ?_⟩
      rw [String.utf8Len_cons]
      omega
    have after : n + 1 - c.utf8Size = String.utf8Len front := by
      rw [← bytes, String.utf8Len_cons]
      omega
    have fits : c.utf8Size ≤ n + 1 := by
      rw [← bytes, String.utf8Len_cons]
      omega
    rw [bytes, List.cons_append, splitBytes?, if_pos fits, after, ih]
    rfl

/-- A text is split after `n` bytes exactly where its parts say so. -/
theorem splitBytes?_eq_some_iff {n : Nat} {cs front rest : List Char} :
    splitBytes? n cs = some (front, rest) ↔ front ++ rest = cs ∧ String.utf8Len front = n := by
  constructor
  · exact append_of_splitBytes?
  · rintro ⟨rfl, rfl⟩
    exact splitBytes?_append front rest

/-- The digits that a mark announces are those of its base. -/
theorem Mark.exists_base {mark : Char} {among : String} (h : Mark mark among) (digits : List Char) :
    ∃ base, marked? ('0' :: mark :: digits) = some (base, digits) ∧
      ∀ c, Text.isDigitOf base c = true ↔ c ∈ among.toList := by
  have split (one : mark.utf8Size = 1) :
      splitBytes? 2 ('0' :: mark :: digits) = some (['0', mark], digits) := by
    rw [splitBytes?_eq_some_iff, String.utf8Len_cons, String.utf8Len_cons, one]
    exact ⟨rfl, rfl⟩
  cases h with
  | hexadecimal h =>
    refine ⟨16, ?_, fun c => isDigitOf_iff_of_each (by decide) (by decide)⟩
    rcases h with rfl | rfl <;> simp [marked?, split (by decide)]
  | octal h =>
    refine ⟨8, ?_, fun c => isDigitOf_iff_of_each (by decide) (by decide)⟩
    rcases h with rfl | rfl <;> simp [marked?, split (by decide)]
  | binary h =>
    refine ⟨2, ?_, fun c => isDigitOf_iff_of_each (by decide) (by decide)⟩
    rcases h with rfl | rfl <;> simp [marked?, split (by decide)]

/-- A text with a mark begins with a zero and the mark. -/
theorem exists_mark {cs digits : List Char} {base : Nat}
    (marked : marked? cs = some (base, digits)) :
    ∃ mark among, Mark mark among ∧ cs = '0' :: mark :: digits := by
  unfold marked? at marked
  split at marked
  · rename_i mark digits' split
    obtain ⟨rfl, -⟩ := append_of_splitBytes? split
    split_ifs at marked with x o b
    · cases marked
      exact ⟨mark, _, .hexadecimal x, rfl⟩
    · cases marked
      exact ⟨mark, _, .octal o, rfl⟩
    · cases marked
      exact ⟨mark, _, .binary b, rfl⟩
  · cases marked

theorem Mark.not_isDecimalCharacter {mark : Char} {among : String} (h : Mark mark among) :
    isDecimalCharacter mark = false := by
  cases h with
  | hexadecimal h => rcases h with rfl | rfl <;> decide
  | octal h => rcases h with rfl | rfl <;> decide
  | binary h => rcases h with rfl | rfl <;> decide

/-! ### Decimals -/

theorem exists_sign (cs : List Char) : ∃ sign, Sign sign ∧ cs = sign ++ dropSign cs := by
  unfold dropSign
  split
  · exact ⟨_, .plus, rfl⟩
  · exact ⟨_, .minus, rfl⟩
  · exact ⟨_, .absent, rfl⟩

/-- The sign is dropped, and nothing after it if that has no sign of its own. -/
theorem Sign.dropSign_append {sign rest : List Char} (h : Sign sign)
    (unsigned : dropSign rest = rest) : dropSign (sign ++ rest) = rest := by
  cases h with
  | absent => exact unsigned
  | plus => rfl
  | minus => rfl

theorem dropSign_cons {c : Char} {cs : List Char} (digit : c ∈ '.' :: decimals.toList) :
    dropSign (c :: cs) = c :: cs := by
  have unsigned : ('.' :: decimals.toList).all (fun d => d ≠ '+' ∧ d ≠ '-') = true := by decide
  obtain ⟨plus, minus⟩ := of_decide_eq_true (List.all_eq_true.1 unsigned c digit)
  unfold dropSign
  split <;> simp_all

theorem Digits.dropSign {digits : List Char} (h : Digits decimals digits) (rest : List Char) :
    dropSign (digits ++ rest) = digits ++ rest := by
  cases digits with
  | nil => exact absurd rfl h.nonempty
  | cons c digits => exact dropSign_cons (List.mem_cons_of_mem '.' (h.all c (List.mem_cons_self ..)))

theorem Mantissa.dropSign {mantissa : List Char} (h : Mantissa mantissa) (rest : List Char) :
    dropSign (mantissa ++ rest) = mantissa ++ rest := by
  cases h with
  | whole digits => exact digits.dropSign rest
  | @pointed front back digits =>
    cases front with
    | nil => exact dropSign_cons (List.mem_cons_self ..)
    | cons c front =>
      exact dropSign_cons (List.mem_cons_of_mem '.' (digits.all c (List.mem_cons_self ..)))

theorem isExponent_iff {cs : List Char} : isExponent cs = true ↔ Exponent cs := by
  constructor
  · intro exponent
    cases cs with
    | nil => exact .absent
    | cons mark rest =>
      rw [isExponent, Bool.and_assoc, Bool.and_eq_true, digits_iff fun _ => isDigitOf_ten_iff]
        at exponent
      obtain ⟨marked, digits⟩ := exponent
      obtain ⟨sign, signed, split⟩ := exists_sign rest
      rw [split]
      exact .present (by simpa using marked) signed digits
  · intro exponent
    cases exponent with
    | absent => rfl
    | @present mark sign digits marked signed all =>
      have unsigned : Numeral.dropSign digits = digits := by simpa using all.dropSign []
      rw [isExponent, Bool.and_assoc, signed.dropSign_append unsigned, Bool.and_eq_true,
        digits_iff fun _ => isDigitOf_ten_iff]
      exact ⟨by simpa using marked, all⟩

/-- Digits end where something begins that begins with no digit. -/
theorem span_digits {digits rest : List Char} (all : ∀ c ∈ digits, c ∈ decimals.toList)
    (stop : ∀ c ∈ rest.head?, c ∉ decimals.toList) :
    (digits ++ rest).takeWhile (Text.isDigitOf 10) = digits ∧
      (digits ++ rest).dropWhile (Text.isDigitOf 10) = rest := by
  have digit : ∀ c ∈ digits, Text.isDigitOf 10 c = true :=
    fun c member => isDigitOf_ten_iff.2 (all c member)
  rw [List.takeWhile_append_of_pos digit, List.dropWhile_append_of_pos digit]
  cases rest with
  | nil => simp
  | cons c rest =>
    have other : ¬ Text.isDigitOf 10 c = true := by
      rw [isDigitOf_ten_iff]
      exact stop c rfl
    simp [other]

theorem Exponent.stop {cs : List Char} (h : Exponent cs) :
    ∀ c ∈ cs.head?, c ∉ '.' :: decimals.toList := by
  cases h with
  | absent => simp
  | present marked signed digits =>
    rcases marked with rfl | rfl
    · simp [decimals]
    · simp [decimals]

/-- Text after a point is digits and an exponent. -/
theorem isUnsignedDecimal_pointed {front back exponent : List Char}
    (digits : Digits decimals (front ++ back)) (ends : Exponent exponent) :
    isUnsignedDecimal (front ++ '.' :: (back ++ exponent)) = true := by
  have inFront : ∀ c ∈ front, c ∈ decimals.toList :=
    fun c member => digits.all c (List.mem_append_left back member)
  have inBack : ∀ c ∈ back, c ∈ decimals.toList :=
    fun c member => digits.all c (List.mem_append_right front member)
  have point : ∀ c ∈ ('.' :: (back ++ exponent)).head?, c ∉ decimals.toList := by
    simp [decimals]
  obtain ⟨whole, rest⟩ := span_digits inFront point
  obtain ⟨fraction, after⟩ := span_digits inBack fun c member inDigits =>
    ends.stop c member (List.mem_cons_of_mem '.' inDigits)
  have some : (!front.isEmpty || !back.isEmpty) = true := by
    have := digits.nonempty
    cases front <;> cases back <;> simp_all
  simp only [isUnsignedDecimal, whole, rest, fraction, after, some, isExponent_iff.2 ends,
    Bool.and_self]

theorem isUnsignedDecimal_whole {digits exponent : List Char} (all : Digits decimals digits)
    (ends : Exponent exponent) : isUnsignedDecimal (digits ++ exponent) = true := by
  obtain ⟨whole, rest⟩ := span_digits all.all fun c member inDigits =>
    ends.stop c member (List.mem_cons_of_mem '.' inDigits)
  have some : (!digits.isEmpty) = true := by simpa using all.nonempty
  unfold isUnsignedDecimal
  rw [whole, rest]
  split
  · rename_i tail
    exact absurd (List.mem_cons_self ..) (ends.stop '.' rfl)
  · dsimp only
    rw [some, isExponent_iff.2 ends, Bool.and_self]

theorem isUnsignedDecimal_iff {cs : List Char} :
    isUnsignedDecimal cs = true ↔
      ∃ mantissa exponent, Mantissa mantissa ∧ Exponent exponent ∧ cs = mantissa ++ exponent := by
  constructor
  · intro decimal
    have digits (xs : List Char) :
        ∀ c ∈ xs.takeWhile (Text.isDigitOf 10), c ∈ decimals.toList := by
      intro c member
      exact isDigitOf_ten_iff.1 (List.mem_takeWhile_imp member)
    have split := List.takeWhile_append_dropWhile (p := Text.isDigitOf 10) (l := cs)
    unfold isUnsignedDecimal at decimal
    generalize whole : cs.takeWhile (Text.isDigitOf 10) = front at decimal split
    have inFront := digits cs
    rw [whole] at inFront
    split at decimal
    · rename_i rest after
      obtain ⟨some, ends⟩ := Bool.and_eq_true_iff.1 decimal
      refine ⟨front ++ '.' :: rest.takeWhile (Text.isDigitOf 10), _, .pointed ⟨?_, ?_⟩,
        isExponent_iff.1 ends, ?_⟩
      · intro none
        rw [List.append_eq_nil_iff] at none
        simp [none] at some
      · exact List.forall_mem_append.2 ⟨inFront, digits rest⟩
      · rw [List.append_assoc, List.cons_append, List.takeWhile_append_dropWhile, ← after, split]
    · rename_i rest _
      obtain ⟨some, ends⟩ := Bool.and_eq_true_iff.1 decimal
      exact ⟨front, _, .whole ⟨by simpa using some, inFront⟩, isExponent_iff.1 ends, split.symm⟩
  · rintro ⟨mantissa, exponent, shape, ends, rfl⟩
    cases shape with
    | whole all => exact isUnsignedDecimal_whole all ends
    | pointed digits =>
      rw [List.append_assoc, List.cons_append]
      exact isUnsignedDecimal_pointed digits ends

/-! ### Decimals among floating-point numbers -/

theorem isDecimalCharacter_of_mem {c : Char} (digit : c ∈ decimals.toList) :
    isDecimalCharacter c = true := by
  rw [isDecimalCharacter, isDigitOf_ten_iff.2 digit, Bool.true_or]

theorem Sign.isDecimalCharacter {sign : List Char} (h : Sign sign) :
    ∀ c ∈ sign, isDecimalCharacter c = true := by
  rw [← List.all_eq_true]
  cases h <;> decide

theorem Mantissa.isDecimalCharacter {mantissa : List Char} (h : Mantissa mantissa) :
    ∀ c ∈ mantissa, isDecimalCharacter c = true := by
  cases h with
  | whole digits => exact fun c member => isDecimalCharacter_of_mem (digits.all c member)
  | @pointed front back digits =>
    obtain ⟨inFront, inBack⟩ := List.forall_mem_append.1 digits.all
    rw [List.forall_mem_append, List.forall_mem_cons]
    exact ⟨fun c member => isDecimalCharacter_of_mem (inFront c member), by decide,
      fun c member => isDecimalCharacter_of_mem (inBack c member)⟩

theorem Exponent.isDecimalCharacter {exponent : List Char} (h : Exponent exponent) :
    ∀ c ∈ exponent, isDecimalCharacter c = true := by
  cases h with
  | absent => simp
  | present marked signed digits =>
    rw [List.forall_mem_cons, List.forall_mem_append]
    refine ⟨?_, signed.isDecimalCharacter, fun c member =>
      isDecimalCharacter_of_mem (digits.all c member)⟩
    rcases marked with rfl | rfl <;> decide

/-- No name of a floating-point number is spelled with the characters of a decimal: each holds an
`n`. -/
theorem not_mem_floatNames {cs : List Char} (all : ∀ c ∈ cs, isDecimalCharacter c = true) :
    cs.map Char.toLower ∉ floatNames := by
  intro named
  have holds : ∀ name ∈ floatNames, 'n' ∈ name := by decide
  obtain ⟨c, member, lower⟩ := List.mem_map.1 (holds _ named)
  have other : (['+', '-', '.', 'e', 'E'] ++ decimals.toList).all (·.toLower ≠ 'n') = true := by
    decide
  refine of_decide_eq_true (List.all_eq_true.1 other c ?_) lower
  have spelled := all c member
  rw [Numeral.isDecimalCharacter, Bool.or_eq_true, isDigitOf_ten_iff, List.contains_iff_mem]
    at spelled
  exact List.mem_append.2 spelled.symm

/-- Among the words with characters of decimals, floating-point numbers are the decimals. -/
theorem decimal_iff {cs : List Char} :
    (cs.all isDecimalCharacter && isFloat cs) = true ↔
      ∃ sign mantissa exponent, Sign sign ∧ Mantissa mantissa ∧ Exponent exponent ∧
        cs = sign ++ (mantissa ++ exponent) := by
  rw [Bool.and_eq_true, List.all_eq_true, isFloat, Bool.or_eq_true, List.contains_iff_mem,
    isUnsignedDecimal_iff]
  constructor
  · rintro ⟨all, named | ⟨mantissa, exponent, shape, ends, rest⟩⟩
    · obtain ⟨sign, -, split⟩ := exists_sign cs
      rw [split] at all
      exact absurd named (not_mem_floatNames fun c member => all c (List.mem_append_right _ member))
    · obtain ⟨sign, signed, split⟩ := exists_sign cs
      rw [rest] at split
      exact ⟨sign, mantissa, exponent, signed, shape, ends, split⟩
  · rintro ⟨sign, mantissa, exponent, signed, shape, ends, rfl⟩
    constructor
    · rw [List.forall_mem_append, List.forall_mem_append]
      exact ⟨signed.isDecimalCharacter, shape.isDecimalCharacter, ends.isDecimalCharacter⟩
    · rw [signed.dropSign_append (shape.dropSign exponent)]
      exact .inr ⟨mantissa, exponent, shape, ends, rfl⟩

/-! ### Words -/

theorem mem_infinities_iff {word : String} :
    word ∈ infinities ↔ ∃ sign, Sign sign ∧ word.toList = sign ++ "Infinity".toList := by
  simp only [infinities, List.mem_cons, List.not_mem_nil, or_false, ← String.toList_inj]
  constructor
  · rintro (plain | plus | minus)
    · exact ⟨[], .absent, plain⟩
    · exact ⟨['+'], .plus, plus⟩
    · exact ⟨['-'], .minus, minus⟩
  · rintro ⟨sign, signed, spelled⟩
    cases signed with
    | absent => exact .inl spelled
    | plus => exact .inr (.inl spelled)
    | minus => exact .inr (.inr spelled)

/-- A literal with a mark has the digits of that mark: a decimal holds no mark, and the name of
infinity does not begin with a zero. -/
theorem literal_marked_iff {mark : Char} {among : String} {digits : List Char}
    (h : Mark mark among) :
    Literal ('0' :: mark :: digits) ↔ Digits among digits := by
  constructor
  · generalize spelled : '0' :: mark :: digits = cs
    intro literal
    cases literal with
    | infinity signed => cases signed <;> simp at spelled
    | @marked mark' among' digits' h' all =>
      cases spelled
      -- The mark stands for one base, so both tables hold its digits.
      obtain ⟨base, read, table⟩ := h.exists_base digits
      obtain ⟨base', read', table'⟩ := h'.exists_base digits
      rw [read] at read'
      cases read'
      exact ⟨all.nonempty, fun c member => (table c).1 ((table' c).2 (all.all c member))⟩
    | decimal signed shape ends =>
      have decimal := decimal_iff.2 ⟨_, _, _, signed, shape, ends, rfl⟩
      rw [← spelled, Bool.and_eq_true, List.all_eq_true] at decimal
      have := decimal.1 mark (by simp)
      rw [h.not_isDecimalCharacter] at this
      cases this
  · exact .marked h

/-- The words that are numbers are the literals of the grammar, all of them and no others. -/
theorem isNumeral_iff_literal (word : String) :
    isNumeral word = true ↔ Literal word.toList := by
  unfold isNumeral
  by_cases named : word ∈ infinities
  · obtain ⟨sign, signed, spelled⟩ := mem_infinities_iff.1 named
    rw [if_pos (List.contains_iff_mem.2 named), spelled]
    exact iff_of_true rfl (.infinity signed)
  · rw [if_neg (by simpa using named)]
    cases marked : marked? word.toList with
    | some split =>
      obtain ⟨base, digits⟩ := split
      obtain ⟨mark, among, h, spelled⟩ := exists_mark marked
      obtain ⟨base', read, table⟩ := h.exists_base digits
      rw [spelled, read] at marked
      cases marked
      rw [spelled, literal_marked_iff h]
      exact digits_iff table
    | none =>
      dsimp only
      rw [decimal_iff]
      constructor
      · rintro ⟨sign, mantissa, exponent, signed, shape, ends, spelled⟩
        rw [spelled]
        exact .decimal signed shape ends
      · generalize spelled : word.toList = cs at marked
        intro literal
        cases literal with
        | infinity signed => exact absurd (mem_infinities_iff.2 ⟨_, signed, spelled⟩) named
        | @marked mark among digits h all =>
          obtain ⟨base, read, -⟩ := h.exists_base digits
          rw [read] at marked
          cases marked
        | decimal signed shape ends => exact ⟨_, _, _, signed, shape, ends, rfl⟩

-- A mark takes precedence over a decimal, and is no mark after a sign.
example : isNumeral "0b1" = true ∧ isNumeral "0e5" = true ∧ isNumeral "0x" = false ∧
    isNumeral "+0x1" = false ∧ isNumeral "nan" = false := by decide

end IrChart.Numeral
