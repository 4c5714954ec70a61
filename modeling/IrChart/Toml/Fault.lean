import IrChart.Toml.DateTime
import IrChart.Toml.Token

/-!
# Faults of TOML texts

What can be wrong with a TOML document. A fault of its structure is found before any fault of its
keys and values, and within each of the two the first one in the text is reported.
-/

namespace IrChart.Toml

/-- What an inline table needs next. -/
inductive Need where
  | key
  | equals
  | value
  | comma
  deriving DecidableEq, Repr

/-- A need in words. -/
def Need.expected : Need → String
  | key => "key"
  | equals => "`=`"
  | value => "value"
  | comma => "`,`"

/-- The bases of whole numbers that are announced by a mark after a zero. -/
inductive Radix where
  | hexadecimal
  | octal
  | binary
  | decimal
  deriving DecidableEq, Repr

namespace Radix

/-- The base. -/
def base : Radix → Nat
  | hexadecimal => 16
  | octal => 8
  | binary => 2
  | decimal => 10

/-- The zero and the mark. -/
def mark : Radix → String
  | hexadecimal => "0x"
  | octal => "0o"
  | binary => "0b"
  | decimal => "0d"

/-- The name of the numbers. -/
def name : Radix → String
  | hexadecimal => "hexadecimal"
  | octal => "octal"
  | binary => "binary"
  | decimal => "integer"

end Radix

/-- The parts of a number with a point. -/
inductive FloatPart where
  | mantissa
  | fraction
  | exponent
  deriving DecidableEq, Repr

/-- The name of a part. -/
def FloatPart.name : FloatPart → String
  | mantissa => "mantissa"
  | fraction => "fraction"
  | exponent => "exponent"

/-- What is wrong with a TOML document. -/
inductive Fault where
  | unclosedTable
  | unclosedTableArray (halfClosed : Bool)
  | missingTableOpening
  | missingKey
  | keyWithoutValue
  | dotWithoutValue
  | surplusText
  | extraEquals
  | unclosedArray
  | missingArrayComma
  | extraArrayComma
  | equalsInArray
  | missingArrayOpening
  | unclosedInlineTable
  | missingInlineComma
  | extraInlineComma (need : Need)
  | missingInlineEquals
  | extraInlineEquals (need : Need)
  | missingInlineKey (need : Need)
  | strayInlineBracket (need : Need)
  | missingInlineOpening
  | loneCarriageReturn
  | tooDeep
  | commentCharacter
  | emptyKey
  | unquotedKey
  | longQuotedKey (quote : Quote)
  | longPath
  | unquotedString
  | missingQuote (quote : Quote)
  | unclosedString (quote : Quote)
  | stringCharacter (quote : Quote)
  | badEscape
  | missingHexDigits
  | badCodePoint
  | badLineEnd
  | badBoolean (expected : String)
  | badFloat (expected : String)
  | missingDigits (part : FloatPart)
  | surplusAfterFloat
  | leadingZero
  | strayUnderscore
  | extraSign
  | signedRadix
  | upperRadix (radix : Radix)
  | uselessRadix
  | signAfterRadix
  | badDigit (radix : Radix)
  | badDateTime (fault : DateTime.Fault)
  | duplicateKey
  | notATable (type : String)
  deriving DecidableEq, Repr

namespace Fault

/-- The characters that a string may hold, for a message. -/
def allowedIn : Quote → String
  | .basic => "non-double-quote visible characters, `\\`"
  | .literal => "non-single-quote visible characters"
  | .longBasic => "`\\`, characters"
  | .longLiteral => "non-single-quote characters"

/-- The fault in words, with what could stand in its place. -/
def message : Fault → String
  | unclosedTable => "unclosed table, expected `]`"
  | unclosedTableArray halfClosed =>
    "unclosed array table, expected " ++ (if halfClosed then "`]`" else "`]]`")
  | missingTableOpening => "missing table open, expected `[`"
  | missingKey => "invalid key-value pair, expected key"
  | keyWithoutValue => "key with no value, expected `=`"
  | dotWithoutValue => "missing value for key, expected `=`"
  | surplusText => "unexpected key or value, expected newline, `#`"
  | extraEquals => "extra `=`, expected nothing"
  | unclosedArray => "unclosed array, expected `]`"
  | missingArrayComma => "missing comma between array elements, expected `,`"
  | extraArrayComma => "extra comma in array, expected value"
  | equalsInArray => "unexpected `=` in array, expected value, `]`"
  | missingArrayOpening => "missing array opening, expected `[`"
  | unclosedInlineTable => "unclosed inline table, expected `\x7d`"
  | missingInlineComma => "missing comma between key-value pairs, expected `,`"
  | extraInlineComma need => "extra comma in inline table, expected " ++ need.expected
  | missingInlineEquals => "missing assignment between key-value pairs, expected `=`"
  | extraInlineEquals need =>
    "extra assignment between key-value pairs, expected " ++ need.expected
  | missingInlineKey need => "missing key for inline table element, expected " ++ need.expected
  | strayInlineBracket need => "invalid inline table element, expected " ++ need.expected
  | missingInlineOpening => "missing inline table opening, expected `\x7b`"
  | loneCarriageReturn => "carriage return must be followed by newline, expected newline"
  | tooDeep => "cannot recurse further; max recursion depth met"
  | commentCharacter => "invalid comment character, expected printable characters"
  | emptyKey => "unquoted keys cannot be empty, expected letters, numbers, `-`, `_`"
  | unquotedKey => "invalid unquoted key, expected letters, numbers, `-`, `_`"
  | longQuotedKey quote =>
    "keys cannot be " ++ quote.name ++ " strings, expected basic string, literal string"
  | longPath => "recursion limit"
  | unquotedString => "string values must be quoted, expected literal string"
  | missingQuote quote => "missing opening quote, expected `" ++ quote.opening ++ "`"
  | unclosedString quote =>
    "invalid " ++ quote.name ++ " string, expected `" ++ String.singleton quote.mark ++ "`"
  | stringCharacter quote => "invalid " ++ quote.name ++ " string, expected " ++ allowedIn quote
  | badEscape =>
    "missing escaped value, expected `b`, `e`, `f`, `n`, `r`, `\\`, `\"`, `x`, `u`, `U`"
  | missingHexDigits => "too few unicode value digits, expected unicode hexadecimal value"
  | badCodePoint => "invalid value, expected unicode hexadecimal value"
  | badLineEnd => "invalid multi-line basic string, expected newline"
  | badBoolean expected => "invalid boolean, expected `" ++ expected ++ "`"
  | badFloat expected => "invalid float, expected `" ++ expected ++ "`"
  | missingDigits part => "invalid " ++ part.name ++ ", expected digits"
  | surplusAfterFloat => "invalid float, expected nothing"
  | leadingZero => "unexpected leading zero, expected nothing"
  | strayUnderscore => "`_` may only go between digits, expected nothing"
  | extraSign => "redundant numeric sign, expected nothing"
  | signedRadix => "integers with a radix cannot be signed, expected nothing"
  | upperRadix radix => "radix must be lowercase, expected `" ++ radix.mark ++ "`"
  | uselessRadix => "redundant integer number prefix, expected nothing"
  | signAfterRadix => "unexpected sign, expected nothing"
  | badDigit radix => "invalid " ++ radix.name ++ " number"
  | badDateTime fault => fault.message
  | duplicateKey => "duplicate key"
  | notATable type => "cannot extend value of type " ++ type ++ " with a dotted key"

end Fault
end IrChart.Toml
