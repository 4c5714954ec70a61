import IrChart.Decimal.Shortest

/-!
# Values of TOML

Values and tables, and the text that they are written as.
-/

namespace IrChart.Toml

/-! ## Values

A table is a list of keys with values in the order in which they are written. Numbers with a point
are held in single or in double precision, which decides how many digits they are written with.
-/

/-- A value. -/
inductive Value where
  | string (text : String)
  | integer (number : Int)
  | double (number : Float)
  | single (number : Float32)
  /-- A number, whole or not, that is written but cannot be held. -/
  | overflow (isWhole : Bool)
  | boolean (truth : Bool)
  | dateTime (text : String)
  | array (items : List Value)
  | table (entries : List (String × Value))

/-- A table by itself. -/
abbrev Table := List (String × Value)

/-- The name of the type of a value. -/
def Value.typeName : Value → String
  | string _ => "string"
  | integer _ => "integer"
  | double _ => "float"
  | single _ => "float"
  | overflow isWhole => if isWhole then "integer" else "float"
  | boolean _ => "boolean"
  | dateTime _ => "datetime"
  | array _ => "array"
  | table _ => "table"

/-! ## Quoting

A string is written in the plainest quotes that hold it: double quotes if nothing but tabs has to
be escaped, then single quotes, then three quotes of either kind, and double quotes with escapes if
nothing else will do. Only three quotes hold newlines. A key is written without quotes if it can be.
-/

/-- The longest run of `mark` in a text; `run` of them stand just before it. -/
def longestRun (mark : Char) (run : Nat) : List Char → Nat
  | [] => run
  | c :: rest =>
    if c = mark then longestRun mark (run + 1) rest else max run (longestRun mark 0 rest)

/-- A control character other than a tab and a newline. -/
def isControl (c : Char) : Bool :=
  (c.toNat < 0x20 && c != '\t' && c != '\n') || c.toNat == 0x7F

/-- The character may stand in a key without quotes. -/
def isKeyChar (c : Char) : Bool := c.isAlphanum || c == '-' || c == '_'

/-- The escape of a control character by its code, in four uppercase digits. -/
def codeEscape (c : Char) : List Char :=
  let digits := (Nat.toDigits 16 c.toNat).map Char.toUpper
  '\\' :: 'u' :: (List.replicate (4 - digits.length) '0' ++ digits)

/-- A character between double quotes. -/
def escape (c : Char) : List Char :=
  if c = '"' then ['\\', '"']
  else if c = '\\' then ['\\', '\\']
  else if c = '\t' then ['\\', 't']
  else if c = '\n' then ['\\', 'n']
  else if c = '\r' then ['\\', 'r']
  else if c = '\x08' then ['\\', 'b']
  else if c = '\x0c' then ['\\', 'f']
  else if isControl c then codeEscape c
  else [c]

/-- The characters of a text between three double quotes. Newlines stand for themselves, and so do
quotes, but for every third of those that follow each other; `run` of them stand just before. -/
def escapeLong (run : Nat) : List Char → List Char
  | [] => []
  | '"' :: rest =>
    if run < 2 then '"' :: escapeLong (run + 1) rest else escape '"' ++ escapeLong 0 rest
  | '\n' :: rest => '\n' :: escapeLong 0 rest
  | c :: rest => escape c ++ escapeLong 0 rest

/-- A text between double quotes, with escapes. -/
def quoteBasic (cs : List Char) : List Char := '"' :: (cs.flatMap escape ++ ['"'])

/-- A text between single quotes. -/
def quoteLiteral (cs : List Char) : List Char := '\'' :: (cs ++ ['\''])

/-- A text between marks for several lines. If it holds a newline, it begins on the next line. -/
def quoteLong (mark : String) (text : List Char) (hasNewline : Bool) : List Char :=
  mark.toList ++ (if hasNewline then ['\n'] else []) ++ text ++ mark.toList

/-- A string value. -/
def quoteString (text : String) : String :=
  let cs := text.toList
  let control := cs.any isControl
  let backslash := cs.contains '\\'
  let newline := cs.contains '\n'
  let singles := longestRun '\'' 0 cs
  let doubles := longestRun '"' 0 cs
  String.ofList <|
    if !control && !backslash && doubles == 0 && !newline then quoteBasic cs
    else if !control && singles == 0 && !newline then quoteLiteral cs
    else if !control && !backslash && doubles ≤ 2 then
      quoteLong "\"\"\"" (escapeLong 0 cs) newline
    else if !control && singles ≤ 2 then quoteLong "'''" cs newline
    else if newline then quoteLong "\"\"\"" (escapeLong 0 cs) newline
    else quoteBasic cs

/-- A key. -/
def quoteKey (text : String) : String :=
  let cs := text.toList
  let control := cs.any fun c => isControl c || c == '\n'
  String.ofList <|
    if !cs.isEmpty && cs.all isKeyChar then cs
    else if !control && !cs.contains '\\' && !cs.contains '"' then quoteBasic cs
    else if !control && !cs.contains '\'' then quoteLiteral cs
    else quoteBasic cs

/-! ## Documents

A table is written as its single values first, one `key = value` a line, and then its subtables
and lists of tables, each under a header with the whole path. A table that holds nothing but
tables has no header of its own. A blank line stands before each header but one that begins the
text.
-/

/-- Numbers with a point: a whole number keeps its point, so that it stays one. -/
def numberStyle : Decimal.Style := { nan := "nan", infinity := "inf", wholePoint := true }

mutual

/-- A value on one line. A number that could not be held is written as an infinite one. -/
def Value.inline : Value → String
  | .string text => quoteString text
  | .integer number => toString number
  | .double number => (FloatDatum.ofFloat number).render numberStyle
  | .single number => (FloatDatum.ofFloat32 number).render numberStyle
  | .overflow _ => numberStyle.infinity
  | .boolean truth => if truth then "true" else "false"
  | .dateTime text => text
  | .array items => "[" ++ ", ".intercalate (inlineItems items) ++ "]"
  | .table entries => "\x7b " ++ ", ".intercalate (inlineEntries entries) ++ " \x7d"

/-- The items of an array, each on one line. -/
def inlineItems : List Value → List String
  | [] => []
  | item :: rest => item.inline :: inlineItems rest

/-- The entries of a table, each on one line. -/
def inlineEntries : List (String × Value) → List String
  | [] => []
  | (key, value) :: rest => (quoteKey key ++ " = " ++ value.inline) :: inlineEntries rest

end

/-- The value is a table, or a list of tables with at least one of them, and so has headers. -/
def Value.hasHeader : Value → Bool
  | .table _ => true
  | .array [] => false
  | .array items => items.all fun
    | .table _ => true
    | _ => false
  | _ => false

/-- The path of a header. -/
def headerPath (path : List String) : String := ".".intercalate (path.map quoteKey)

/-- The lines of the single values of a table. -/
def valueLines (entries : Table) : List String :=
  (entries.filter (!·.2.hasHeader)).map fun (key, value) => quoteKey key ++ " = " ++ value.inline

/-- The lines that begin the table at `path`: a blank line, its header and its single values. The
root, which has no path, has no header, and a table that holds only tables needs none. -/
def openingLines (inList : Bool) (path : List String) (entries : Table) : List String :=
  let values := valueLines entries
  if path.isEmpty then values
  else if inList then "" :: ("[[" ++ headerPath path ++ "]]") :: values
  else if values.isEmpty && !entries.isEmpty then []
  else "" :: ("[" ++ headerPath path ++ "]") :: values

mutual

/-- The lines of the entries of the table at `path` that have headers. -/
def sectionLines (path : List String) : List (String × Value) → List String
  | [] => []
  | (key, value) :: rest => value.linesAt (path ++ [key]) ++ sectionLines path rest

/-- The lines of a value with headers at a path. -/
def Value.linesAt (path : List String) : Value → List String
  | .table entries => openingLines false path entries ++ sectionLines path entries
  | .array items => if (Value.array items).hasHeader then listLines path items else []
  | _ => []

/-- The lines of a list of tables at a path. -/
def listLines (path : List String) : List Value → List String
  | [] => []
  | .table entries :: rest =>
    openingLines true path entries ++ sectionLines path entries ++ listLines path rest
  | _ :: rest => listLines path rest

end

/-- A document, each line ended by a newline. -/
def render (table : Table) : String :=
  let lines := openingLines false [] table ++ sectionLines [] table
  let lines := match lines with
    | "" :: rest => rest
    | lines => lines
  String.join (lines.map (· ++ "\n"))

end IrChart.Toml
