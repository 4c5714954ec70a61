/-!
# Texts

The digits, words and lines of a text, and spans of its bytes.
-/

namespace IrChart

/-! ## Digits

The digits of number bases up to 36: `0` to `9`, then the letters of either case.
-/

namespace Text

/-- The value of a digit. -/
def digitValue? (c : Char) : Option Nat :=
  if '0' ≤ c ∧ c ≤ '9' then some (c.toNat - '0'.toNat)
  else if 'a' ≤ c ∧ c ≤ 'z' then some (c.toNat - 'a'.toNat + 10)
  else if 'A' ≤ c ∧ c ≤ 'Z' then some (c.toNat - 'A'.toNat + 10)
  else none

/-- `c` is a digit of `base`. -/
def isDigitOf (base : Nat) (c : Char) : Bool := (digitValue? c).any (· < base)

/-- The number that digits of `base` write, the most significant one first. -/
def ofDigits (base : Nat) (digits : List Char) : Nat :=
  digits.foldl (fun n c => n * base + (digitValue? c).getD 0) 0

/-! ## Words and lines

A text is cut into words at runs of blanks and into lines at newlines. Both cuts are
`List.splitOnP` on the characters; words drop the empty pieces, lines keep them, so joining the
lines with newlines gives the text back.
-/

/-- The blanks between words: the characters with the Unicode property `White_Space`. -/
def isBlank (c : Char) : Bool :=
  let code := c.toNat
  (9 ≤ code && code ≤ 13) || code == 0x20 || code == 0x85 || code == 0xA0 || code == 0x1680 ||
    (0x2000 ≤ code && code ≤ 0x200A) || code == 0x2028 || code == 0x2029 || code == 0x202F ||
    code == 0x205F || code == 0x3000

/-- The maximal runs of characters that are not blank, in order. -/
def words (text : String) : List String :=
  ((text.toList.splitOnP isBlank).filter (!·.isEmpty)).map String.ofList

/-- The pieces between newlines, in order; a text without a newline is one line. -/
def lines (text : String) : List String :=
  (text.toList.splitOnP (· == '\n')).map String.ofList

/-- Words written with one space between neighbours. -/
def unwords (ws : List String) : String := " ".intercalate ws

/-- Lines written with one newline between neighbours. -/
def unlines (ls : List String) : String := "\n".intercalate ls

/-- `text` begins with `mark`. -/
def opensWith (mark text : String) : Bool := mark.toList.isPrefixOf text.toList

/-- `text` without a leading `mark`, or `none` if it does not begin with it. -/
def after? (mark text : String) : Option String :=
  if opensWith mark text then some (String.ofList (text.toList.drop mark.length)) else none

end Text

/-! ## Spans

Offsets count UTF-8 bytes. A span never ends before it starts.
-/

/-- The bytes from `start` up to, not including, `stop`. -/
structure Span where
  start : Nat
  stop : Nat
  start_le_stop : start ≤ stop := by omega
  deriving DecidableEq, Repr

namespace Span

/-- The span from `start` to `stop`, empty at `start` if `stop` comes before it. -/
def between (start stop : Nat) : Span := ⟨start, max stop start, by omega⟩

/-- The span of `length` bytes at `start`. -/
def ofLength (start length : Nat) : Span := ⟨start, start + length, by omega⟩

/-- The least span that covers both. -/
def union (a b : Span) : Span :=
  ⟨min a.start b.start, max a.stop b.stop, by have := a.start_le_stop; omega⟩

/-- Its number of bytes. -/
def length (s : Span) : Nat := s.stop - s.start

/-- It covers no byte. -/
def isEmpty (s : Span) : Bool := s.start == s.stop

/-- The empty span at the beginning of a text. -/
instance : Inhabited Span := ⟨between 0 0⟩

@[simp] theorem length_ofLength (start length : Nat) : (ofLength start length).length = length := by
  simp [ofLength, Span.length]

end Span
end IrChart
