import IrChart.Color.Rgb
import IrChart.Text.Basic

/-!
# Reading colors

A color is read from `#` and six more bytes of text. Blanks at the end do not count; what is left
must be three, four or six hexadecimal digits. A short form gives each digit twice, and the fourth
digit, an opacity, is not used.
-/

namespace IrChart

/-- Why a text is no color. -/
inductive HexFault where
  | noMark
  | notSixBytes
  | digitCount
  | leftover
  deriving DecidableEq, Repr

namespace HexFault

/-- The fault in words. -/
def reason : HexFault → String
  | noMark => "expected a leading `#`"
  | notSixBytes => "expected six hex digits"
  | digitCount => "wrong number of hex digits"
  | leftover => "expected end of string"

/-- The message for a text that is no color. -/
def message (fault : HexFault) (text : String) : String :=
  "invalid hex color `" ++ text ++ "`: " ++ fault.reason

end HexFault

/-- A text that is no color, and why. -/
structure InvalidHex where
  input : String
  fault : HexFault
  deriving DecidableEq, Repr

/-- The error in words. -/
def InvalidHex.message (e : InvalidHex) : String := e.fault.message e.input

namespace Rgb

/-- The byte of two hexadecimal digits. -/
def byteOf (high low : Nat) : UInt8 := UInt8.ofNat (16 * high + low)

/-- The color of a list of digits: two a channel, or one that counts twice. -/
def ofDigits? : List Nat → Option Rgb
  | [r, g, b] => some ⟨byteOf r r, byteOf g g, byteOf b b⟩
  | [r, g, b, _] => some ⟨byteOf r r, byteOf g g, byteOf b b⟩
  | [r, r', g, g', b, b'] => some ⟨byteOf r r', byteOf g g', byteOf b b'⟩
  | _ => none

/-- `cs` without the blanks at its end. -/
def trimEnd (cs : List Char) : List Char := (cs.reverse.dropWhile Text.isBlank).reverse

/-- The color written after a `#`. At most eight digits are read. -/
def ofMarked (cs : List Char) : Except HexFault Rgb :=
  let cs := trimEnd cs
  let digits := (cs.take 8).takeWhile (Text.isDigitOf 16)
  match ofDigits? (digits.filterMap Text.digitValue?) with
  | none => .error .digitCount
  | some color => if cs.length = digits.length then .ok color else .error .leftover

/-- The color that a text stands for. -/
def ofHex (text : String) : Except HexFault Rgb :=
  match text.toList with
  | '#' :: rest =>
    if (String.ofList rest).utf8ByteSize = 6 then ofMarked rest else .error .notSixBytes
  | _ => .error .noMark

/-- Reads a color. The error keeps the text. -/
def parse (text : String) : Except InvalidHex Rgb :=
  (ofHex text).mapError fun fault => { input := text, fault }

end Rgb
end IrChart
