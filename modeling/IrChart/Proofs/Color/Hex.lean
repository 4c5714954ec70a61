import Mathlib.Data.List.DropRight
import Mathlib.Data.String.Basic
import IrChart.Color.Hex

/-!
# The texts that are colors

A color is written as `#` and six hexadecimal digits of either case, and such a text is read as the
color that is written back with its letters in uppercase. One other kind of text is read: three or
four digits with blanks after them, since only the bytes of a text are counted before its blanks are
cut off (`parse_written`).
-/

namespace IrChart.Rgb

/-- A hexadecimal digit of either case. -/
def IsHexDigit (c : Char) : Prop :=
  ('0' ≤ c ∧ c ≤ '9') ∨ ('a' ≤ c ∧ c ≤ 'f') ∨ ('A' ≤ c ∧ c ≤ 'F')

instance (c : Char) : Decidable (IsHexDigit c) := inferInstanceAs (Decidable (_ ∨ _ ∨ _))

/-- `text` is `#` and six hexadecimal digits. -/
structure SixDigits (text : String) (digits : List Char) : Prop where
  marked : text.toList = '#' :: digits
  hex : ∀ d ∈ digits, IsHexDigit d
  six : digits.length = 6

/-- `text` is `#`, hexadecimal digits and blanks, with six bytes after the `#`. -/
structure Written (text : String) (digits blanks : List Char) : Prop where
  marked : text.toList = '#' :: (digits ++ blanks)
  hex : ∀ d ∈ digits, IsHexDigit d
  blank : ∀ b ∈ blanks, Text.isBlank b = true
  bytes : digits.length + (String.ofList blanks).utf8ByteSize = 6

/-- Blanks stand for the digits that three or four leave out of six. -/
structure Padded (text : String) (digits blanks : List Char) : Prop
    extends Written text digits blanks where
  short : digits.length = 3 ∨ digits.length = 4

/-- The six digits that three or four stand for: each of the first three twice. -/
def doubled (digits : List Char) : List Char := (digits.take 3).flatMap fun d => [d, d]

/-! ### Digits -/

/-- The value of a hexadecimal digit. -/
def digitValue (d : Char) : Nat := (Text.digitValue? d).getD 0

namespace IsHexDigit

variable {d : Char}

/-- What is so for each hexadecimal digit among the first 128 characters is so for all of them. -/
theorem of_each {P : Char → Prop} (each : ∀ n < 128, IsHexDigit (Char.ofNat n) → P (Char.ofNat n))
    (hex : IsHexDigit d) : P d := by
  have ascii : d.toNat < 128 := by
    have : '9'.toNat < 128 ∧ 'f'.toNat < 128 ∧ 'F'.toNat < 128 := by decide
    simp only [IsHexDigit, Char.le_def, UInt32.le_iff_toNat_le, Char.toNat_val] at hex
    omega
  have at_d := each d.toNat ascii
  rw [Char.ofNat_toNat] at at_d
  exact at_d hex

theorem isDigitOf (hex : IsHexDigit d) : Text.isDigitOf 16 d = true :=
  hex.of_each (P := fun c => Text.isDigitOf 16 c = true) (by decide)

theorem not_isBlank (hex : IsHexDigit d) : Text.isBlank d = false :=
  hex.of_each (P := fun c => Text.isBlank c = false) (by decide)

theorem digitValue? (hex : IsHexDigit d) : Text.digitValue? d = some (digitValue d) :=
  hex.of_each (P := fun c => Text.digitValue? c = some (digitValue c)) (by decide)

theorem digitValue_lt (hex : IsHexDigit d) : digitValue d < 16 :=
  hex.of_each (P := fun c => digitValue c < 16) (by decide)

/-- A digit is written back in uppercase. -/
theorem hexDigit_digitValue (hex : IsHexDigit d) : hexDigit (digitValue d) = d.toUpper :=
  hex.of_each (P := fun c => hexDigit (digitValue c) = c.toUpper) (by decide)

end IsHexDigit

/-- The reader takes no other digits. -/
theorem isHexDigit_of_isDigitOf {d : Char} (digit : Text.isDigitOf 16 d = true) :
    IsHexDigit d := by
  have a_f : 'f'.toNat = 'a'.toNat + 5 ∧ 'F'.toNat = 'A'.toNat + 5 := by decide
  simp only [Text.isDigitOf, Text.digitValue?] at digit
  simp only [IsHexDigit, Char.le_def, UInt32.le_iff_toNat_le, Char.toNat_val] at digit ⊢
  split_ifs at digit with decimal lower upper
  · exact .inl decimal
  · have small : d.toNat - 'a'.toNat + 10 < 16 := by simpa using digit
    omega
  · have small : d.toNat - 'A'.toNat + 10 < 16 := by simpa using digit
    omega
  · simp at digit

/-- A digit that is written is one, and has the value it was written for. -/
theorem isHexDigit_hexDigit {n : Nat} (small : n < 16) :
    IsHexDigit (hexDigit n) ∧ digitValue (hexDigit n) = n := by
  have each : ∀ n < 16, IsHexDigit (hexDigit n) ∧ digitValue (hexDigit n) = n := by decide
  exact each n small

/-! ### Colors of digits -/

theorem hexDigits_byteOf {high low : Nat} (high_lt : high < 16) (low_lt : low < 16) :
    hexDigits (byteOf high low) = [hexDigit high, hexDigit low] := by
  have whole : (byteOf high low).toNat = 16 * high + low := by
    rw [byteOf, UInt8.toNat_ofNat', Nat.mod_eq_of_lt (by omega)]
  rw [hexDigits, whole, Nat.mul_add_div (by decide), Nat.mul_add_mod, Nat.div_eq_of_lt low_lt,
    Nat.mod_eq_of_lt low_lt, Nat.add_zero]

theorem halves_lt (b : UInt8) : b.toNat / 16 < 16 ∧ b.toNat % 16 < 16 := by
  have := b.toNat_lt
  omega

theorem byteOf_div_mod (b : UInt8) : byteOf (b.toNat / 16) (b.toNat % 16) = b := by
  rw [byteOf, Nat.div_add_mod, UInt8.ofNat_toNat]

/-- A byte of two digits is written with these digits. -/
theorem IsHexDigit.hexDigits {high low : Char} (h : IsHexDigit high) (l : IsHexDigit low) :
    hexDigits (byteOf (digitValue high) (digitValue low)) = [high.toUpper, low.toUpper] := by
  rw [hexDigits_byteOf h.digitValue_lt l.digitValue_lt, h.hexDigit_digitValue,
    l.hexDigit_digitValue]

theorem isHexDigit_of_mem_hexDigits {b : UInt8} {d : Char} (mem : d ∈ hexDigits b) :
    IsHexDigit d := by
  obtain ⟨high_lt, low_lt⟩ := halves_lt b
  rcases List.mem_pair.1 mem with rfl | rfl
  · exact (isHexDigit_hexDigit high_lt).1
  · exact (isHexDigit_hexDigit low_lt).1

theorem map_digitValue_hexDigits (b : UInt8) :
    (hexDigits b).map digitValue = [b.toNat / 16, b.toNat % 16] := by
  obtain ⟨high_lt, low_lt⟩ := halves_lt b
  rw [hexDigits, List.map_cons, List.map_cons, (isHexDigit_hexDigit high_lt).2,
    (isHexDigit_hexDigit low_lt).2, List.map_nil]

/-- The digits that a color is written with are those of the color. -/
theorem ofDigits?_toHex (c : Rgb) : ofDigits? (c.toHex.toList.tail.map digitValue) = some c := by
  rw [toHex, String.toList_ofList, List.tail_cons, List.map_append, List.map_append,
    map_digitValue_hexDigits, map_digitValue_hexDigits, map_digitValue_hexDigits]
  show some (Rgb.mk _ _ _) = _
  rw [byteOf_div_mod, byteOf_div_mod, byteOf_div_mod]

/-- Different colors are written differently. -/
theorem toHex_injective : Function.Injective toHex := by
  intro c c' same
  have color := ofDigits?_toHex c
  rw [same, ofDigits?_toHex] at color
  exact (Option.some.inj color).symm

section
variable {digits : List Char}

/-- Six digits are those of a color, which is written with them. -/
theorem exists_ofDigits?_of_six (hex : ∀ d ∈ digits, IsHexDigit d) (six : digits.length = 6) :
    ∃ c, ofDigits? (digits.map digitValue) = some c ∧
      c.toHex = String.ofList ('#' :: digits.map Char.toUpper) := by
  match digits, six with
  | [r, r', g, g', b, b'], _ =>
    simp only [List.forall_mem_cons] at hex
    obtain ⟨hr, hr', hg, hg', hb, hb', -⟩ := hex
    refine ⟨_, rfl, ?_⟩
    rw [toHex, hr.hexDigits hr', hg.hexDigits hg', hb.hexDigits hb']
    rfl

/-- Three digits, and a fourth that is not used, are those of the six that they stand for. -/
theorem ofDigits?_doubled (short : digits.length = 3 ∨ digits.length = 4) :
    (doubled digits).length = 6 ∧
      ofDigits? (digits.map digitValue) = ofDigits? ((doubled digits).map digitValue) := by
  match digits, short with
  | [r, g, b], _ => exact ⟨rfl, rfl⟩
  | [r, g, b, opacity], _ => exact ⟨rfl, rfl⟩

/-- Only three, four or six digits make a color. -/
theorem length_of_ofDigits? {ns : List Nat} {c : Rgb} (color : ofDigits? ns = some c) :
    ns.length = 3 ∨ ns.length = 4 ∨ ns.length = 6 := by
  unfold ofDigits? at color
  split at color <;> simp at color ⊢

end

/-! ### Reading -/

/-- The blanks after digits are cut off. -/
theorem trimEnd_append {digits blanks : List Char} (hex : ∀ d ∈ digits, IsHexDigit d)
    (blank : ∀ b ∈ blanks, Text.isBlank b = true) : trimEnd (digits ++ blanks) = digits := by
  have unblank : digits.reverse.dropWhile Text.isBlank = digits.reverse := by
    rw [List.dropWhile_eq_self_iff]
    intro nonempty
    have digit := hex _ (List.mem_reverse.1 (List.getElem_mem nonempty))
    exact Bool.eq_false_iff.1 digit.not_isBlank
  rw [trimEnd, List.reverse_append, List.dropWhile_append_of_pos (by simpa using blank), unblank,
    List.reverse_reverse]

/-- The hexadecimal digits that a list of them begins with are the list. -/
theorem takeWhile_isDigitOf {digits : List Char} (hex : ∀ d ∈ digits, IsHexDigit d) :
    digits.takeWhile (Text.isDigitOf 16) = digits :=
  List.takeWhile_eq_self_iff.2 fun d mem => (hex d mem).isDigitOf

theorem filterMap_digitValue? {digits : List Char} (hex : ∀ d ∈ digits, IsHexDigit d) :
    digits.filterMap Text.digitValue? = digits.map digitValue := by
  rw [← List.filterMap_eq_map]
  exact List.filterMap_congr fun d mem => (hex d mem).digitValue?

/-- A color is read from digits with blanks after them, and from nothing else. -/
theorem ofMarked_eq_ok_iff {cs : List Char} (short : cs.length ≤ 8) {c : Rgb} :
    ofMarked cs = .ok c ↔ ∃ digits blanks, cs = digits ++ blanks ∧
      (∀ d ∈ digits, IsHexDigit d) ∧ (∀ b ∈ blanks, Text.isBlank b = true) ∧
      ofDigits? (digits.map digitValue) = some c := by
  constructor
  · intro read
    have cut : trimEnd cs ++ cs.rtakeWhile Text.isBlank = cs := List.rdropWhile_append_rtakeWhile
    have long : (trimEnd cs).length ≤ 8 := by
      have := congrArg List.length cut
      rw [List.length_append] at this
      omega
    rw [ofMarked, List.take_of_length_le long] at read
    split at read
    · cases read
    · rename_i color colored
      split_ifs at read with whole
      obtain rfl := Except.ok.inj read
      -- Nothing is left over only if the digits at the front are the whole trimmed text.
      have all : (trimEnd cs).takeWhile (Text.isDigitOf 16) = trimEnd cs :=
        (List.takeWhile_prefix _).eq_of_length whole.symm
      have hex : ∀ d ∈ trimEnd cs, IsHexDigit d := fun d mem =>
        isHexDigit_of_isDigitOf (List.takeWhile_eq_self_iff.1 all d mem)
      rw [all, filterMap_digitValue? hex] at colored
      exact ⟨_, _, cut.symm, hex, fun b mem => List.mem_rtakeWhile_imp mem, colored⟩
  · rintro ⟨digits, blanks, rfl, hex, blank, colored⟩
    have long : digits.length ≤ 8 := by
      rw [List.length_append] at short
      omega
    simp only [ofMarked, trimEnd_append hex blank, List.take_of_length_le long,
      takeWhile_isDigitOf hex, filterMap_digitValue? hex, colored, if_true]

/-- A digit is one byte. -/
theorem utf8Len_of_hex {digits : List Char} (hex : ∀ d ∈ digits, IsHexDigit d) :
    String.utf8Len digits = digits.length := by
  induction digits with
  | nil => rfl
  | cons d digits ih =>
    obtain ⟨digit, rest⟩ := List.forall_mem_cons.1 hex
    have one : d.utf8Size = 1 := digit.of_each (P := fun c => c.utf8Size = 1) (by decide)
    rw [String.utf8Len_cons, ih rest, one, List.length_cons]

/-- A text has no more characters than bytes. -/
theorem length_le_utf8Len (cs : List Char) : cs.length ≤ String.utf8Len cs := by
  induction cs with
  | nil => exact Nat.le_refl _
  | cons c cs ih =>
    have := c.utf8Size_pos
    rw [String.utf8Len_cons, List.length_cons]
    omega

theorem ofHex_eq_ok_iff {text : String} {c : Rgb} :
    ofHex text = .ok c ↔ ∃ rest, text.toList = '#' :: rest ∧
      (String.ofList rest).utf8ByteSize = 6 ∧ ofMarked rest = .ok c := by
  constructor
  · intro read
    unfold ofHex at read
    split at read
    · rename_i rest marked
      split_ifs at read with bytes
      exact ⟨rest, marked, bytes, read⟩
    · cases read
  · rintro ⟨rest, marked, bytes, read⟩
    simp only [ofHex, marked, bytes, if_true, read]

theorem parse_eq_ok_iff {text : String} {c : Rgb} : parse text = .ok c ↔ ofHex text = .ok c := by
  unfold parse
  cases ofHex text <;> simp [Except.mapError]

/-- The color of a text is that of its digits. -/
theorem parse_eq_ok_iff_written {text : String} {c : Rgb} :
    parse text = .ok c ↔ ∃ digits blanks, Written text digits blanks ∧
      ofDigits? (digits.map digitValue) = some c := by
  rw [parse_eq_ok_iff, ofHex_eq_ok_iff]
  constructor
  · rintro ⟨rest, marked, bytes, read⟩
    rw [String.utf8ByteSize_ofList] at bytes
    -- Six bytes are at most six characters, so the limit of eight digits cuts nothing off.
    have short : rest.length ≤ 8 := by
      have := length_le_utf8Len rest
      omega
    obtain ⟨digits, blanks, rfl, hex, blank, color⟩ := (ofMarked_eq_ok_iff short).1 read
    rw [String.utf8Len_append, utf8Len_of_hex hex, ← String.utf8ByteSize_ofList] at bytes
    exact ⟨digits, blanks, ⟨marked, hex, blank, bytes⟩, color⟩
  · rintro ⟨digits, blanks, ⟨marked, hex, blank, bytes⟩, color⟩
    have whole : String.utf8Len (digits ++ blanks) = 6 := by
      rw [String.utf8Len_append, utf8Len_of_hex hex, ← String.utf8ByteSize_ofList, bytes]
    have short : (digits ++ blanks).length ≤ 8 := by
      have := length_le_utf8Len (digits ++ blanks)
      omega
    exact ⟨_, marked, by rw [String.utf8ByteSize_ofList, whole],
      (ofMarked_eq_ok_iff short).2 ⟨digits, blanks, rfl, hex, blank, color⟩⟩

/-- The color that a text is read as is told by the way it is written. -/
theorem parse_eq_ok_iff_toHex {text shown : String}
    (read : ∃ c, parse text = .ok c ∧ c.toHex = shown) {c : Rgb} :
    parse text = .ok c ↔ c.toHex = shown := by
  obtain ⟨color, whole, rfl⟩ := read
  rw [whole, toHex_injective.eq_iff, Except.ok.injEq, eq_comm]

theorem input_of_parse_error {text : String} {e : InvalidHex} (refused : parse text = .error e) :
    e.input = text := by
  unfold parse at refused
  cases read : ofHex text with
  | ok c =>
    rw [read] at refused
    cases refused
  | error fault =>
    rw [read] at refused
    exact (Except.error.inj refused) ▸ rfl

namespace SixDigits

variable {text : String} {digits : List Char}

/-- Six digits fill six bytes, so no blanks follow. -/
theorem written_iff : SixDigits text digits ↔ Written text digits [] ∧ digits.length = 6 := by
  constructor
  · rintro ⟨marked, hex, six⟩
    exact ⟨⟨by rw [marked, List.append_nil], hex, by simp, by rw [six]; rfl⟩, six⟩
  · rintro ⟨⟨marked, hex, -, -⟩, six⟩
    exact ⟨by rw [marked, List.append_nil], hex, six⟩

/-- The mark and the digits in uppercase are the text in uppercase. -/
theorem toUpper (h : SixDigits text digits) :
    String.ofList ('#' :: digits.map Char.toUpper) = text.toUpper := by
  rw [String.toUpper, ← String.toList_inj, String.toList_map, h.marked, String.toList_ofList]
  rfl

/-- Six digits are read as the color that is written with them. -/
theorem exists_parse (h : SixDigits text digits) :
    ∃ c, parse text = .ok c ∧ c.toHex = text.toUpper := by
  obtain ⟨c, color, shown⟩ := exists_ofDigits?_of_six h.hex h.six
  exact ⟨c, parse_eq_ok_iff_written.2 ⟨digits, [], (written_iff.1 h).1, color⟩,
    shown.trans h.toUpper⟩

/-- A color is written with six digits. -/
theorem toHex (c : Rgb) : SixDigits c.toHex c.toHex.toList.tail := by
  rw [Rgb.toHex, String.toList_ofList, List.tail_cons]
  refine ⟨String.toList_ofList, fun d mem => ?_, rfl⟩
  rcases List.mem_append.1 mem with front | blue
  · rcases List.mem_append.1 front with red | green
    · exact isHexDigit_of_mem_hexDigits red
    · exact isHexDigit_of_mem_hexDigits green
  · exact isHexDigit_of_mem_hexDigits blue

end SixDigits

/-- Reading undoes writing. -/
theorem parse_toHex (c : Rgb) : parse c.toHex = .ok c :=
  parse_eq_ok_iff_written.2
    ⟨_, [], (SixDigits.written_iff.1 (SixDigits.toHex c)).1, ofDigits?_toHex c⟩

namespace Padded

variable {text : String} {digits blanks : List Char}

/-- Three or four digits are read as the color that is written with those that they stand for. -/
theorem exists_parse (h : Padded text digits blanks) :
    ∃ c, parse text = .ok c ∧
      c.toHex = String.ofList ('#' :: (doubled digits).map Char.toUpper) := by
  obtain ⟨six, same⟩ := ofDigits?_doubled h.short
  have hex : ∀ d ∈ doubled digits, IsHexDigit d := by
    intro d mem
    obtain ⟨e, taken, twice⟩ := List.mem_flatMap.1 mem
    obtain rfl : d = e := by simpa using twice
    exact h.hex d (List.mem_of_mem_take taken)
  obtain ⟨c, color, shown⟩ := exists_ofDigits?_of_six hex six
  exact ⟨c, parse_eq_ok_iff_written.2 ⟨digits, blanks, h.toWritten, same.trans color⟩, shown⟩

end Padded

/-- A text that is read as a color has six digits, or three or four and blanks. -/
theorem sixDigits_or_padded {text : String} {c : Rgb} (read : parse text = .ok c) :
    (∃ digits, SixDigits text digits) ∨ ∃ digits blanks, Padded text digits blanks := by
  obtain ⟨digits, blanks, written, color⟩ := parse_eq_ok_iff_written.1 read
  have count := length_of_ofDigits? color
  rw [List.length_map] at count
  rcases count with three | four | six
  · exact .inr ⟨digits, blanks, written, .inl three⟩
  · exact .inr ⟨digits, blanks, written, .inr four⟩
  · have none : (String.ofList blanks).utf8ByteSize = 0 := by
      have := written.bytes
      omega
    obtain rfl : blanks = [] := by simpa using none
    exact .inl ⟨digits, SixDigits.written_iff.2 ⟨written, six⟩⟩

/-- The colors that texts are read as. Six digits are read as the color that is written with them in
uppercase; the only other texts that are read are three or four digits with blanks up to six bytes,
as the color of the six digits that they stand for. Every color is read from what it is written as,
and the error of any other text keeps the text. -/
theorem parse_written (text : String) :
    (∀ c, parse text = .ok c ↔
      (∃ digits, SixDigits text digits) ∧ c.toHex = text.toUpper ∨
      ∃ digits blanks, Padded text digits blanks ∧
        c.toHex = String.ofList ('#' :: (doubled digits).map Char.toUpper)) ∧
    ((∃ c, parse text = .ok c) ↔
      (∃ digits, SixDigits text digits) ∨ ∃ digits blanks, Padded text digits blanks) ∧
    (∀ c, parse c.toHex = .ok c) ∧
    ∀ e, parse text = .error e → e.input = text := by
  refine ⟨fun c => ⟨fun read => ?_, ?_⟩, ⟨fun ⟨c, read⟩ => sixDigits_or_padded read, ?_⟩,
    parse_toHex, fun e refused => ?_⟩
  · rcases sixDigits_or_padded read with ⟨digits, six⟩ | ⟨digits, blanks, padded⟩
    · exact .inl ⟨⟨digits, six⟩, (parse_eq_ok_iff_toHex six.exists_parse).1 read⟩
    · exact .inr ⟨digits, blanks, padded, (parse_eq_ok_iff_toHex padded.exists_parse).1 read⟩
  · rintro (⟨⟨digits, six⟩, shown⟩ | ⟨digits, blanks, padded, shown⟩)
    · exact (parse_eq_ok_iff_toHex six.exists_parse).2 shown
    · exact (parse_eq_ok_iff_toHex padded.exists_parse).2 shown
  · rintro (⟨digits, six⟩ | ⟨digits, blanks, padded⟩)
    · exact six.exists_parse.imp fun _ => And.left
    · exact padded.exists_parse.imp fun _ => And.left
  · exact input_of_parse_error refused

/-- Three digits and three blanks are read as a color, though they are not six digits. -/
theorem parse_paddedHex :
    parse "#123   " = .ok ⟨0x11, 0x22, 0x33⟩ ∧ ¬ ∃ digits, SixDigits "#123   " digits := by
  refine ⟨by decide, ?_⟩
  rintro ⟨digits, marked, hex, -⟩
  obtain rfl : "123   ".toList = digits := (List.cons.inj marked).2
  exact absurd (hex ' ' (by decide)) (by decide)

end IrChart.Rgb
