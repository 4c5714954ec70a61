import IrChart.Toml.Fault
import IrChart.Toml.Token

/-!
# Statements of TOML

The structure of a TOML text, before its keys and values are read: a list of table headers and of
keys with values. A key may have several parts; values nest by arrays and inline tables, which may
go over several lines.

Reading stops at the first fault of the structure. A part of a key or a value that is missing is no
such fault: it counts as an empty one, and is refused when it is read.
-/

namespace IrChart.Toml

/-- A part of a key as it is written. -/
inductive RawKey where
  | bare (text : List Char)
  | quoted (quote : Quote) (text : List Char)
  deriving DecidableEq, Repr

/-- The part is missing. -/
def RawKey.isMissing (key : RawKey) : Bool := key == .bare []

/-- A value as it is written. -/
inductive RawValue where
  /-- No value. A key of an inline table without a value is left out. -/
  | missing
  | bare (text : List Char)
  | quoted (quote : Quote) (text : List Char)
  | array (items : List RawValue)
  | inlineTable (pairs : List (List RawKey × RawValue))

/-- A statement. -/
inductive Statement where
  /-- A header `[key]`. -/
  | table (key : List RawKey)
  /-- A header `[[key]]`. -/
  | tableArray (key : List RawKey)
  /-- A key with its value. -/
  | pair (key : List RawKey) (value : RawValue)

namespace Statement

/-- A reader of the front of a token list, with the tokens it leaves. -/
abbrev Reader (α : Type) := List Token → Except Fault (α × List Token)

/-- How deep arrays and inline tables may nest. -/
def depthLimit : Nat := 80

/-- The character is a control character other than a tab. -/
def isControl (c : Char) : Bool := (c.toNat < 0x20 && c != '\t') || c.toNat == 0x7F

/-- What is wrong with a comment or a newline. -/
def layoutFault? : Token → Option Fault
  | .comment text => if text.any isControl then some .commentCharacter else none
  | .newline text => if text = ['\r'] then some .loneCarriageReturn else none
  | _ => none

/-- The tokens after blanks. -/
def skipBlanks : List Token → List Token
  | .blanks _ :: rest => rest
  | tokens => tokens

/-- The tokens after blanks, comments and newlines. -/
def skipLines : List Token → Except Fault (List Token)
  | .blanks _ :: rest => skipLines rest
  | .comment text :: rest => match layoutFault? (.comment text) with
    | some fault => .error fault
    | none => skipLines rest
  | .newline text :: rest => match layoutFault? (.newline text) with
    | some fault => .error fault
    | none => skipLines rest
  | tokens => .ok tokens

/-- The tokens after a line break, with the comment before it. -/
def breakLine : List Token → Except Fault (List Token)
  | .comment text :: rest => match layoutFault? (.comment text) with
    | some fault => .error fault
    | none => breakLine rest
  | .newline text :: rest => match layoutFault? (.newline text) with
    | some fault => .error fault
    | none => .ok rest
  | tokens => .ok tokens

/-- The tokens after the rest of a line, which may hold blanks and a comment only. -/
def endLine (tokens : List Token) : Except Fault (List Token) :=
  match skipBlanks tokens with
  | [] => .ok []
  | .comment text :: rest => breakLine (.comment text :: rest)
  | .newline text :: rest => breakLine (.newline text :: rest)
  | _ => .error .surplusText

/-- The tokens after the rest of a line, whatever it holds. -/
def dropLine (tokens : List Token) : Except Fault (List Token) :=
  breakLine (tokens.dropWhile fun
    | .comment _ => false
    | .newline _ => false
    | _ => true)

/-- The part of a key at the front. -/
def keyPart : List Token → RawKey × List Token
  | .atom text :: rest => (.bare text, rest)
  | .quoted quote text :: rest => (.quoted quote text, rest)
  | tokens => (.bare [], tokens)

/-- The parts of a key, with the dots between them; `fuel` bounds their number. -/
def keyParts : Nat → List Token → List RawKey × List Token
  | 0, tokens => ([], tokens)
  | fuel + 1, tokens =>
    let (part, rest) := keyPart (skipBlanks tokens)
    match skipBlanks rest with
    | .dot :: rest =>
      let (parts, rest) := keyParts fuel rest
      (part :: parts, rest)
    | rest => ([part], rest)

/-- A key and the tokens after it. -/
def key (tokens : List Token) : List RawKey × List Token := keyParts (tokens.length + 1) tokens

/-- An unquoted value: atoms and dots, and the blanks between them. -/
def bareText : List Token → List Char × List Token
  | .atom text :: rest => let (more, rest) := bareText rest; (text ++ more, rest)
  | .dot :: rest => let (more, rest) := bareText rest; ('.' :: more, rest)
  | .blanks gap :: .atom text :: rest =>
    let (more, rest) := bareText rest; (gap ++ text ++ more, rest)
  | .blanks gap :: .dot :: rest => let (more, rest) := bareText rest; (gap ++ '.' :: more, rest)
  | tokens => ([], tokens)

mutual

/-- A value. -/
def value : Nat → Nat → Reader RawValue
  | 0, _, _ => .error .tooDeep
  | fuel + 1, depth, tokens =>
    match tokens with
    | .quoted quote text :: rest => .ok (.quoted quote text, rest)
    | .openBracket :: rest =>
      if depth = 0 then .error .tooDeep else do
        let (items, rest) ← arrayItems fuel (depth - 1) rest
        return (.array items, rest)
    | .openBrace :: rest =>
      if depth = 0 then .error .tooDeep else do
        let (pairs, rest) ← inlinePairs fuel (depth - 1) rest
        return (.inlineTable pairs, rest)
    | .closeBracket :: _ => .error .missingArrayOpening
    | .closeBrace :: _ => .error .missingInlineOpening
    | .equals :: _ => .error .extraEquals
    | _ =>
      let (text, rest) := bareText tokens
      .ok (if text.isEmpty then .missing else .bare text, rest)

/-- The items of an array up to its closing bracket. -/
def arrayItems : Nat → Nat → Reader (List RawValue)
  | 0, _, _ => .error .unclosedArray
  | fuel + 1, depth, tokens => do
    match ← skipLines tokens with
    | [] => throw .unclosedArray
    | .closeBracket :: rest => return ([], rest)
    | .comma :: _ => throw .extraArrayComma
    | .equals :: _ => throw .equalsInArray
    | tokens =>
      let (item, rest) ← value fuel depth tokens
      match ← skipLines rest with
      | [] => throw .unclosedArray
      | .comma :: rest =>
        let (items, rest) ← arrayItems fuel depth rest
        return (item :: items, rest)
      | .closeBracket :: rest => return ([item], rest)
      | .equals :: _ => throw .equalsInArray
      | _ => throw .missingArrayComma

/-- The keys and values of an inline table up to its closing brace. -/
def inlinePairs : Nat → Nat → Reader (List (List RawKey × RawValue))
  | 0, _, _ => .error .unclosedInlineTable
  | fuel + 1, depth, tokens => do
    match ← skipLines tokens with
    | [] => throw .unclosedInlineTable
    | .closeBrace :: rest => return ([], rest)
    | .comma :: _ => throw (.extraInlineComma .key)
    | .openBracket :: _ => throw (.missingInlineKey .key)
    | .openBrace :: _ => throw (.missingInlineKey .key)
    | .closeBracket :: _ => throw (.strayInlineBracket .key)
    | tokens =>
      let (name, rest) := key tokens
      match ← skipLines rest with
      | [] => throw .unclosedInlineTable
      | .closeBrace :: rest => return ([(name, .missing)], rest)
      | .comma :: _ => throw (.extraInlineComma .equals)
      | .closeBracket :: _ => throw (.strayInlineBracket .equals)
      | .equals :: rest => inlineValue fuel depth name rest
      | _ => throw .missingInlineEquals

/-- The value of a key of an inline table, and the keys and values after it. -/
def inlineValue : Nat → Nat → List RawKey → Reader (List (List RawKey × RawValue))
  | 0, _, _, _ => .error .unclosedInlineTable
  | fuel + 1, depth, name, tokens => do
    match ← skipLines tokens with
    | [] => throw .unclosedInlineTable
    | .closeBrace :: rest => return ([(name, .missing)], rest)
    | .comma :: _ => throw (.extraInlineComma .value)
    | .equals :: _ => throw (.extraInlineEquals .value)
    | tokens =>
      let (item, rest) ← value fuel depth tokens
      match ← skipLines rest with
      | [] => throw .unclosedInlineTable
      | .closeBrace :: rest => return ([(name, item)], rest)
      | .comma :: rest =>
        let (pairs, rest) ← inlinePairs fuel depth rest
        return ((name, item) :: pairs, rest)
      | .equals :: _ => throw (.extraInlineEquals .comma)
      | .openBracket :: _ => throw (.missingInlineKey .comma)
      | .openBrace :: _ => throw (.missingInlineKey .comma)
      | .closeBracket :: _ => throw (.strayInlineBracket .comma)
      | _ => throw .missingInlineComma

end

/-- A key and its value, and the tokens after their line. -/
def pairAt (tokens : List Token) : Except Fault (Statement × List Token) := do
  let (name, rest) := key tokens
  match rest with
  | .equals :: rest =>
    let (item, rest) ← value (2 * tokens.length + 2) depthLimit (skipBlanks rest)
    return (.pair name item, ← endLine rest)
  | _ => throw (if tokens.head? = some .dot then .dotWithoutValue else .keyWithoutValue)

/-- A header after its opening brackets, and the tokens after its line. A header whose key breaks
off is not looked at any further. -/
def headerAt (isArray : Bool) (tokens : List Token) : Except Fault (Statement × List Token) := do
  let (name, rest) := key tokens
  let header : Statement := if isArray then .tableArray name else .table name
  match isArray, rest with
  | false, .closeBracket :: rest => return (header, ← endLine rest)
  | true, .closeBracket :: .closeBracket :: rest => return (header, ← endLine rest)
  | true, .closeBracket :: _ => throw (.unclosedTableArray true)
  | _, _ =>
    if name.getLast?.any RawKey.isMissing then return (header, ← dropLine rest)
    else throw (if isArray then .unclosedTableArray false else .unclosedTable)

/-- The statements of a token list; `fuel` bounds their number. -/
def ofTokens : Nat → List Token → Except Fault (List Statement)
  | 0, _ => .ok []
  | fuel + 1, tokens => do
    match ← skipLines tokens with
    | [] => return []
    | .openBracket :: .openBracket :: rest =>
      let (statement, rest) ← headerAt true rest
      return statement :: (← ofTokens fuel rest)
    | .openBracket :: rest =>
      let (statement, rest) ← headerAt false rest
      return statement :: (← ofTokens fuel rest)
    | .closeBracket :: _ => throw .missingTableOpening
    | .comma :: _ => throw .missingKey
    | .openBrace :: _ => throw .missingKey
    | .closeBrace :: _ => throw .missingKey
    | tokens =>
      let (statement, rest) ← pairAt tokens
      return statement :: (← ofTokens fuel rest)

/-- The statements of a text. -/
def read (text : String) : Except Fault (List Statement) :=
  let tokens := Token.scanText text
  ofTokens (tokens.length + 1) tokens

end Statement
end IrChart.Toml
