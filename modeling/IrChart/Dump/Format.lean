import IrChart.Text.Basic

/-!
# Dumps in two dialects

The marks that delimit the parts of a record, the lines of a source, and how the dialect of a dump
is told.
-/

namespace IrChart

/-! ## Marks

A node dump has one record a line, `<id> [>] <type> === <ids> [( <ids> )] [[ <ids> ]] <details>`.
A JIT log has two lines a record, a header `#<id> <type> @(...) -> [ <ids> ]; <text>` and an input
line `L[ <ids> ]`. Both are read as lists of words, and the words below delimit their parts.
-/

namespace Dump

/-- Stands between the type of a node and its inputs. -/
def separator : String := "==="

/-- Stands between the id and the type of the focus node. -/
def focusMark : String := ">"

/-- Begins the word that opens the outputs. -/
def outputsOpen : String := "[["

/-- Begins the word that closes the outputs. -/
def outputsClose : String := "]]"

/-- An empty list of outputs in one word. -/
def outputsEmpty : String := "[[]]"

/-- Begins the word that opens the special inputs. -/
def specialsOpen : String := "("

/-- Begins the word that closes the special inputs. -/
def specialsClose : String := ")"

/-- An empty list of special inputs in one word. -/
def specialsEmpty : String := "()"

/-- Begins the id of a JIT log header. -/
def headerMark : String := "#"

/-- Begins the third word of a JIT log header. -/
def positionMark : String := "@("

/-- Stands before the outputs of a JIT log header. -/
def arrow : String := "->"

/-- Closes the outputs of a JIT log header. -/
def headerClose : String := "];"

/-- Opens a JIT log input line. -/
def inputLineOpen : String := "L["

/-- Closes the inputs of a JIT log input line. -/
def inputLineClose : String := "]"

/-- Begins the type annotation that may follow an id in a JIT log. -/
def annotationOpen : String := "("

/-- The words are those of a JIT log header: three or more, the first and the third with their
marks. -/
def isHeader : List String → Bool
  | id :: _ :: position :: _ => Text.opensWith headerMark id && Text.opensWith positionMark position
  | _ => false

end Dump

/-! ## Source lines

A source line is a text with its number and its place in the dump. Lines follow each other with
one newline between them, so the next line starts one byte after the end of a line.
-/

/-- A line of a dump, numbered from one. -/
structure SourceLine where
  text : String
  number : Nat
  span : Span
  deriving DecidableEq, Repr

namespace SourceLine

/-- The words of the line. -/
def words (line : SourceLine) : List String := Text.words line.text

/-- Lines with the given texts, the first one numbered `number` at byte `offset`. -/
def enumerateFrom (number offset : Nat) : List String → List SourceLine
  | [] => []
  | text :: texts =>
    ⟨text, number, .ofLength offset text.utf8ByteSize⟩ ::
      enumerateFrom (number + 1) (offset + text.utf8ByteSize + 1) texts

/-- The lines of a dump that was cut already. -/
def ofTexts (texts : List String) : List SourceLine := enumerateFrom 1 0 texts

/-- The lines of a source text. -/
def ofSource (source : String) : List SourceLine := ofTexts (Text.lines source)

end SourceLine

/-! ## Telling the dialects apart

The first conclusive line decides: an input line after a header makes the dump a JIT log, a line
whose third word is the separator makes it a node dump. Lines of fewer than three words say
nothing, and do not part a header from its input line.
-/

/-- The dialect of a dump. A dump of unknown dialect is read as a node dump. -/
inductive Format where
  | jitLog
  | nodeDump
  | unknown
  deriving DecidableEq, Repr

/-- The word a dialect is written as. -/
def Format.name : Format → String
  | .jitLog => "jit_log"
  | .nodeDump => "node_dump"
  | .unknown => "unknown"

namespace Dump

/-- The dialect of the lines with the given words; `afterHeader` says whether the last line that
counted was a header. -/
def detectFrom (afterHeader : Bool) : List (List String) → Format
  | [] => .unknown
  | ws :: rest =>
    if ws.length ≤ 2 then detectFrom afterHeader rest
    else if afterHeader && ws.head? == some inputLineOpen then .jitLog
    else if isHeader ws then detectFrom true rest
    else if ws[2]? == some separator then .nodeDump
    else detectFrom false rest

/-- The dialect of a dump, from its lines. -/
def detect (lines : List String) : Format := detectFrom false (lines.map Text.words)

end Dump
end IrChart
