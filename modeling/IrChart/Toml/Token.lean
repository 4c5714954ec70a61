import IrChart.Text.Basic

/-!
# Tokens of TOML

A TOML text is cut into punctuation, blanks, comments, newlines, quoted strings and atoms. No
character is lost, and a string that nothing closes ends with its line or with the text. Every
token but the last of a line is cut by its width, which is at least one character.
-/

namespace IrChart.Toml

/-- The four ways to quote a string: escapes or none, on one line or on several. -/
inductive Quote where
  | basic
  | literal
  | longBasic
  | longLiteral
  deriving DecidableEq, Repr

namespace Quote

/-- The quote character. -/
def mark : Quote → Char
  | basic => '"'
  | longBasic => '"'
  | literal => '\''
  | longLiteral => '\''

/-- A backslash escapes the next character. -/
def escapes : Quote → Bool
  | basic => true
  | longBasic => true
  | literal => false
  | longLiteral => false

/-- The string is opened and closed by three quotes and may hold newlines. -/
def isLong : Quote → Bool
  | basic => false
  | longBasic => true
  | literal => false
  | longLiteral => true

/-- What opens the string, and closes it. -/
def opening (quote : Quote) : String :=
  String.ofList (List.replicate (if quote.isLong then 3 else 1) quote.mark)

/-- The name of the strings that are quoted like this. -/
def name : Quote → String
  | basic => "basic"
  | literal => "literal"
  | longBasic => "multi-line basic"
  | longLiteral => "multi-line literal"

end Quote

/-- A token. Strings and atoms keep their characters, quotes included. -/
inductive Token where
  | dot
  | equals
  | comma
  | openBracket
  | closeBracket
  | openBrace
  | closeBrace
  | blanks (text : List Char)
  | comment (text : List Char)
  | newline (text : List Char)
  | quoted (quote : Quote) (text : List Char)
  | atom (text : List Char)
  deriving DecidableEq, Repr

namespace Token

/-- Characters that end an atom. -/
def endsAtom (c : Char) : Bool := ".=,[]\x7b\x7d \t#\r\n".toList.contains c

/-- The width of what follows an opening quote, up to and with the closing quote. -/
def shortWidth (quote : Quote) : List Char → Nat
  | [] => 0
  | '\n' :: _ => 0
  | c :: rest =>
    if c = quote.mark then 1
    else if quote.escapes && c == '\\' then
      match rest with
      | '\n' :: _ => 1
      | [] => 1
      | _ :: rest => 2 + shortWidth quote rest
    else 1 + shortWidth quote rest

/-- The width of what follows three opening quotes, up to and with three closing quotes. Two
quotes more belong to the string. -/
def longWidth (quote : Quote) : List Char → Nat
  | [] => 0
  | c :: rest =>
    if c = quote.mark ∧ rest.take 2 = [c, c] then
      3 + min 2 ((rest.drop 2).takeWhile (· == c)).length
    else if quote.escapes && c == '\\' then
      match rest with
      | [] => 1
      | _ :: rest => 2 + longWidth quote rest
    else 1 + longWidth quote rest

/-- The string that the first characters open, and its width beyond the first character. -/
def quotedAt (short long : Quote) (cs : List Char) : Quote × Nat :=
  if cs.take 2 = [short.mark, short.mark] then (long, 2 + longWidth long (cs.drop 2))
  else (short, shortWidth short cs)

/-- The first token of the text `c :: rest`, and how many characters of `rest` it takes. -/
def first (c : Char) (rest : List Char) : Token × Nat :=
  match c with
  | '.' => (dot, 0)
  | '=' => (equals, 0)
  | ',' => (comma, 0)
  | '[' => (openBracket, 0)
  | ']' => (closeBracket, 0)
  | '{' => (openBrace, 0)
  | '}' => (closeBrace, 0)
  | '\n' => (newline [c], 0)
  | '\r' => if rest.head? = some '\n' then (newline ['\r', '\n'], 1) else (newline [c], 0)
  | '#' =>
    let text := rest.takeWhile fun c => c != '\n' && c != '\r'
    (comment (c :: text), text.length)
  | '"' =>
    let (quote, width) := quotedAt .basic .longBasic rest
    (quoted quote (c :: rest.take width), width)
  | '\'' =>
    let (quote, width) := quotedAt .literal .longLiteral rest
    (quoted quote (c :: rest.take width), width)
  | _ =>
    if c = ' ' ∨ c = '\t' then
      let text := rest.takeWhile fun c => c == ' ' || c == '\t'
      (blanks (c :: text), text.length)
    else
      let text := rest.takeWhile (!endsAtom ·)
      (atom (c :: text), text.length)

/-- The tokens of a text. -/
def scan : List Char → List Token
  | [] => []
  | c :: rest => (first c rest).1 :: scan (rest.drop (first c rest).2)
termination_by cs => cs.length
decreasing_by simp only [List.length_drop, List.length_cons]; omega

/-- The tokens of a text, without the byte order mark that may begin it. -/
def scanText (text : String) : List Token :=
  match text.toList with
  | '\uFEFF' :: rest => scan rest
  | cs => scan cs

end Token
end IrChart.Toml
