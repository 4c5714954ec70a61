import IrChart.Text.Basic
import IrChart.Toml.Statement
import IrChart.Toml.Value

/-!
# Keys and single values of TOML

How a quoted string, a key and an unquoted value are read from their characters. The first
character of an unquoted value tells what it is meant to be; of several faults the first one is
reported.
-/

namespace IrChart.Toml.Scalar

/-- The character that a letter stands for after a backslash. -/
def escaped? : Char → Option Char
  | 'b' => some '\x08'
  | 'e' => some '\x1b'
  | 't' => some '\t'
  | 'n' => some '\n'
  | 'f' => some '\x0c'
  | 'r' => some '\r'
  | '"' => some '"'
  | '\\' => some '\\'
  | _ => none

/-- How many hexadecimal digits a letter announces after a backslash. -/
def hexCount? : Char → Option Nat
  | 'x' => some 2
  | 'u' => some 4
  | 'U' => some 8
  | _ => none

/-- The character whose code is written by `count` hexadecimal digits. -/
def codePoint (count : Nat) (cs : List Char) : Except Fault Char :=
  let digits := (cs.take count).takeWhile (Text.isDigitOf 16)
  let code := Text.ofDigits 16 digits
  if digits.length < count then .error .missingHexDigits
  else if h : code.isValidChar then .ok (Char.ofNatAux code h)
  else .error .badCodePoint

/-- The character after a backslash and what follows its escape. -/
def escape : List Char → Except Fault (Char × List Char)
  | [] => .error .badEscape
  | mark :: rest =>
    match hexCount? mark, escaped? mark with
    | some count, _ => (codePoint count rest).map fun c => (c, rest.drop count)
    | none, some c => .ok (c, rest)
    | none, none => .error .badEscape

/-- The characters of a string in double quotes; `fuel` bounds their number. -/
def unescape : Nat → List Char → Except Fault (List Char)
  | 0, _ => .ok []
  | _, [] => .ok []
  | fuel + 1, '\\' :: rest => do
    let (c, rest) ← escape rest
    return c :: (← unescape fuel rest)
  | fuel + 1, c :: rest =>
    if Statement.isControl c then .error (.stringCharacter .basic)
    else (unescape fuel rest).map (c :: ·)

/-- A space or a tab. -/
def isBlank (c : Char) : Bool := c == ' ' || c == '\t'

/-- What follows the blanks and newlines after a backslash at the end of a line. -/
def dropLines : List Char → Except Fault (List Char)
  | '\n' :: rest => dropLines rest
  | '\r' :: '\n' :: rest => dropLines rest
  | '\r' :: _ => .error .loneCarriageReturn
  | c :: rest => if isBlank c then dropLines rest else .ok (c :: rest)
  | [] => .ok []

/-- What follows a backslash at the end of a line. There must be a newline. -/
def continued (cs : List Char) : Except Fault (List Char) :=
  match cs.dropWhile isBlank with
  | '\n' :: rest => dropLines rest
  | '\r' :: '\n' :: rest => dropLines rest
  | '\r' :: _ => .error .loneCarriageReturn
  | _ => .error .badLineEnd

/-- The characters of a string in three double quotes; `fuel` bounds their number. -/
def unescapeLong : Nat → List Char → Except Fault (List Char)
  | 0, _ => .ok []
  | _, [] => .ok []
  | fuel + 1, '\\' :: rest =>
    if rest.head?.any fun c => isBlank c || c == '\r' || c == '\n' then do
      unescapeLong fuel (← continued rest)
    else do
      let (c, rest) ← escape rest
      return c :: (← unescapeLong fuel rest)
  | fuel + 1, '\r' :: rest =>
    if rest.head? = some '\n' then (unescapeLong fuel rest).map ('\r' :: ·)
    else .error .loneCarriageReturn
  | fuel + 1, c :: rest =>
    if Statement.isControl c && c != '\n' then .error (.stringCharacter .longBasic)
    else (unescapeLong fuel rest).map (c :: ·)

/-- What is wrong with the characters of a string without escapes. -/
def literalFault? (quote : Quote) : List Char → Option Fault
  | [] => none
  | c :: rest =>
    if quote.isLong && c == '\n' then literalFault? quote rest
    else if quote.isLong && c == '\r' then
      if rest.head? = some '\n' then literalFault? quote rest else some .loneCarriageReturn
    else if Statement.isControl c then some (.stringCharacter quote)
    else literalFault? quote rest

/-- The characters between the quotes of a string, or `none` if it is not closed. -/
def inner? (quote : Quote) (text : List Char) : Option (List Char) :=
  let marks := quote.opening.toList
  let body := text.drop marks.length
  if body.length < marks.length ∨ body.drop (body.length - marks.length) ≠ marks then none
  else some (body.take (body.length - marks.length))

/-- The characters after a newline that may begin them. -/
def dropNewline : List Char → List Char
  | '\n' :: rest => rest
  | '\r' :: '\n' :: rest => rest
  | cs => cs

/-- The string that quoted text stands for. -/
def string (quote : Quote) (text : List Char) : Except Fault String :=
  match inner? quote text with
  | none => .error (.unclosedString quote)
  | some body =>
    match quote with
    | .basic => (unescape body.length body).map String.ofList
    | .longBasic => (unescapeLong body.length (dropNewline body)).map String.ofList
    | .literal => match literalFault? .literal body with
      | some fault => .error fault
      | none => .ok (String.ofList body)
    | .longLiteral => match literalFault? .longLiteral (dropNewline body) with
      | some fault => .error fault
      | none => .ok (String.ofList (dropNewline body))

/-- The character may stand in a key without quotes. -/
def isBareKeyChar (c : Char) : Bool := c.isAlphanum || c == '-' || c == '_'

/-- The key that is written. -/
def key : RawKey → Except Fault String
  | .bare [] => .error .emptyKey
  | .bare text =>
    if text.all isBareKeyChar then .ok (String.ofList text) else .error .unquotedKey
  | .quoted quote text => if quote.isLong then .error (.longQuotedKey quote) else string quote text

/-- How many parts a key may have. -/
def partLimit : Nat := 80

/-- The parts of a key. -/
def keys (parts : List RawKey) : Except Fault (List String) := do
  let keys ← parts.mapM key
  if partLimit < keys.length then throw .longPath else return keys

/-- The text ends with some marks. -/
def endsWith (cs : List Char) (marks : String) : Bool := marks.toList.isSuffixOf cs

/-- The fault of an unquoted text that is no value: if it ends with quotes, the opening ones are
missing, otherwise both are. -/
def noValue (cs : List Char) : Except Fault Value :=
  match [Quote.longLiteral, .longBasic, .literal, .basic].find? (endsWith cs ·.opening) with
  | some quote => .error (.missingQuote quote)
  | none => .error .unquotedString

/-- The word that an unquoted text is meant to be, with its value. A text with a space is not meant
to be one. -/
def word (cs : List Char) (name : String) (fault : String → Fault) (value : Value) :
    Except Fault Value :=
  if cs = name.toList then .ok value
  else if cs.contains ' ' then noValue cs
  else .error (fault name)

/-- The characters of a number without their underscores. Each end of a piece between underscores
must be a digit, but for the beginning of the first one, which may be a sign. -/
def joined (isDigit : Char → Bool) (cs : List Char) : Except Fault (List Char) :=
  let pieces := cs.splitOnP (· == '_')
  let startsRight (piece : List Char) : Bool := piece.head?.any isDigit
  let endsRight (piece : List Char) : Bool := piece.length == 1 || piece.getLast?.any isDigit
  if pieces.length ≤ 1 then .ok cs
  else if cs.head? = some '_' ∨ cs.getLast? = some '_' then .error .strayUnderscore
  else if (pieces.drop 1).all startsRight && pieces.dropLast.all endsRight then .ok pieces.flatten
  else .error .strayUnderscore

/-- What follows a sign that may stand first. -/
def dropSign : List Char → List Char
  | '+' :: rest => rest
  | '-' :: rest => rest
  | cs => cs

/-- The number that digits with an optional sign write, if it is one. -/
def signed? (base : Nat) (cs : List Char) : Option Int :=
  let digits := dropSign cs
  let n : Int := Text.ofDigits base digits
  if digits.isEmpty || !digits.all (Text.isDigitOf base) then none
  else some (if cs.head? = some '-' then -n else n)

/-- The whole number that digits of a base write. It can be held if it has at most 128 bits. -/
def whole (base : Nat) (cs : List Char) : Except Fault Value := do
  match signed? base (← joined (Text.isDigitOf 16) cs) with
  | some n => return if -Nat.pow 2 127 ≤ n ∧ n < Nat.pow 2 128 then .integer n else .overflow true
  | none => return .overflow true

/-- The number that a whole part, a fraction and an exponent of ten write, in double precision.
Exponents that are out of the range of all numbers are not computed with. -/
def scientific (whole fraction : List Char) (exponent : Int) : Float :=
  let digits := (whole ++ fraction).dropWhile (· == '0')
  let power := exponent - fraction.length
  if digits.isEmpty ∨ digits.length + power < -400 then 0
  else if 400 < digits.length + power then 1 / 0
  else Float.ofScientific (Text.ofDigits 10 digits) (power < 0) power.natAbs

/-- The number that decimal digits with point and exponent write, in double precision. -/
def floatOf (cs : List Char) : Float :=
  let isMark (c : Char) : Bool := c == 'e' || c == 'E'
  let unsigned := dropSign cs
  let mantissa := unsigned.takeWhile (!isMark ·)
  let exponent := (signed? 10 ((unsigned.dropWhile (!isMark ·)).drop 1)).getD 0
  let fraction := (mantissa.dropWhile (· != '.')).drop 1
  let x := scientific (mantissa.takeWhile (· != '.')) fraction exponent
  if cs.head? = some '-' then -x else x

/-- A digit or an underscore. -/
def isNumberChar (c : Char) : Bool := c.isDigit || c == '_'

/-- What follows the digits of a part of a number, of which there must be one at least. Only the
digits before the point may not begin with a zero. -/
def floatPart (part : FloatPart) (cs : List Char) : Except Fault (List Char) :=
  match ((cs.takeWhile isNumberChar).filter Char.isDigit).length with
  | 0 => .error (.missingDigits part)
  | 1 => .ok (cs.dropWhile isNumberChar)
  | _ =>
    if part = .mantissa ∧ cs.head? = some '0' then .error .leadingZero
    else .ok (cs.dropWhile isNumberChar)

/-- Checks the parts of a number with a point or an exponent, without its sign. -/
def checkFloat (cs : List Char) : Except Fault Unit := do
  let cs ← floatPart .mantissa cs
  let cs ← match cs with
    | '.' :: rest => floatPart .fraction rest
    | cs => pure cs
  let cs ← match cs with
    | e :: rest =>
      if e = 'e' ∨ e = 'E' then
        floatPart .exponent (dropSign rest)
      else pure (e :: rest)
    | [] => pure []
  if cs.isEmpty then return else throw .surplusAfterFloat

/-- A number with a point or an exponent, and with its sign. -/
def float (sign cs : List Char) : Except Fault Value := do
  checkFloat cs
  let x := floatOf (← joined Char.isDigit (sign ++ cs))
  return if x.isInf then .overflow false else .double x

/-- A date or a time, with the sign that it should not have. -/
def dateTime (cs : List Char) : Except Fault Value :=
  match DateTime.check cs with
  | .ok () => .ok (.dateTime (String.ofList cs))
  | .error fault => .error (.badDateTime fault)

/-- A decimal number; only zero itself begins with a zero. -/
def decimal (sign cs : List Char) : Except Fault Value :=
  if cs.head? = some '0' ∧ cs.length > 1 then .error .leadingZero else whole 10 (sign ++ cs)

/-- A value that begins with digits or an underscore. -/
def numeric (sign cs : List Char) : Except Fault Value :=
  match cs.dropWhile Char.isDigit with
  | [] => decimal sign cs
  | mark :: rest =>
    if mark = '-' ∨ mark = ':' then dateTime (sign ++ cs)
    else if (mark :: rest).contains ' ' then noValue (sign ++ cs)
    else if (mark :: rest).any fun c => c == '.' || c == 'e' || c == 'E' then float sign cs
    else if mark = '_' then decimal sign cs
    else noValue (sign ++ cs)

/-- A whole number in the base that its mark announces. -/
def radixed (radix : Radix) (isUpper : Bool) (sign digits : List Char) : Except Fault Value :=
  if !sign.isEmpty then .error .signedRadix
  else if radix = .decimal then .error .uselessRadix
  else if isUpper then .error (.upperRadix radix)
  else if digits.head? = some '+' ∨ digits.head? = some '-' then .error .signAfterRadix
  else if digits.any fun c => c != '_' && !Text.isDigitOf radix.base c then
    .error (.badDigit radix)
  else whole radix.base digits

/-- The base that a letter after a zero announces. -/
def radix? (c : Char) : Option Radix :=
  [('x', Radix.hexadecimal), ('o', .octal), ('b', .binary), ('d', .decimal)].lookup c.toLower

/-- A value that begins with a digit, an underscore or a point. -/
def number (sign : List Char) : List Char → Except Fault Value
  | '0' :: mark :: rest =>
    match radix? mark with
    | some radix => radixed radix mark.isUpper sign rest
    | none => numeric sign ('0' :: mark :: rest)
  | '.' :: rest => float sign ('.' :: rest)
  | cs => numeric sign cs

/-- The character begins a number. -/
def beginsNumber (c : Char) : Bool := isNumberChar c || c == '.'

/-- A value that begins with a sign. -/
def withSign (sign : Char) (cs : List Char) : Except Fault Value :=
  match cs with
  | [] => noValue (sign :: cs)
  | c :: _ =>
    if c = '+' ∨ c = '-' then .error .extraSign
    else if beginsNumber c then number [sign] cs
    else if c.toLower = 'i' then
      if cs = "inf".toList then .ok (.double (if sign = '-' then -1 / 0 else 1 / 0))
      else .error (.badFloat "inf")
    else if c.toLower = 'n' then
      if cs = "nan".toList then .ok (.double (0 / 0)) else .error (.badFloat "nan")
    else noValue (sign :: cs)

/-- The value that unquoted text stands for. -/
def bare : List Char → Except Fault Value
  | [] => noValue []
  | c :: rest =>
    if c = '+' ∨ c = '-' then withSign c rest
    else if beginsNumber c then number [] (c :: rest)
    else if c.toLower = 't' then word (c :: rest) "true" .badBoolean (.boolean true)
    else if c.toLower = 'f' then word (c :: rest) "false" .badBoolean (.boolean false)
    else if c.toLower = 'i' then word (c :: rest) "inf" .badFloat (.double (1 / 0))
    else if c.toLower = 'n' then word (c :: rest) "nan" .badFloat (.double (0 / 0))
    else noValue (c :: rest)

end IrChart.Toml.Scalar
