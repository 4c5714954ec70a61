import IrChart.Diagnostic
import IrChart.Dump.Format
import IrChart.Graph.Basic
import IrChart.Text.Basic

/-!
# Node records

What a line of a node dump holds, from its id on.
-/

namespace IrChart

/-! ## Numerals

A node id is a number: a decimal with optional sign, fraction and exponent, an unsigned integer
in base 16, 8 or 2 with its mark, or `Infinity` with optional sign. A word is told by its name, by
the mark in its first bytes, or by its characters and the reader of floating-point numbers, in this
order; that reader also knows names that are no ids.
-/

namespace Numeral

/-- The names of infinity. -/
def infinities : List String := ["Infinity", "+Infinity", "-Infinity"]

/-- The characters in the first `n` bytes and those after them, if a character ends there. -/
def splitBytes? : Nat → List Char → Option (List Char × List Char)
  | 0, cs => some ([], cs)
  | _ + 1, [] => none
  | n + 1, c :: cs =>
    if c.utf8Size ≤ n + 1 then
      (splitBytes? (n + 1 - c.utf8Size) cs).map fun (front, rest) => (c :: front, rest)
    else none

/-- The base that the first two bytes announce, and the characters after them. -/
def marked? (cs : List Char) : Option (Nat × List Char) :=
  match splitBytes? 2 cs with
  | some (['0', mark], digits) =>
    if mark = 'x' ∨ mark = 'X' then some (16, digits)
    else if mark = 'o' ∨ mark = 'O' then some (8, digits)
    else if mark = 'b' ∨ mark = 'B' then some (2, digits)
    else none
  | _ => none

/-- The characters after an optional sign. -/
def dropSign : List Char → List Char
  | '+' :: rest => rest
  | '-' :: rest => rest
  | cs => cs

/-- Nothing, or `e` with an optional sign and at least one digit. -/
def isExponent : List Char → Bool
  | [] => true
  | e :: rest =>
    (e == 'e' || e == 'E') && !(dropSign rest).isEmpty && (dropSign rest).all (Text.isDigitOf 10)

/-- Digits before the point and after it, at least one in all, and an exponent. -/
def isUnsignedDecimal (cs : List Char) : Bool :=
  let whole := cs.takeWhile (Text.isDigitOf 10)
  match cs.dropWhile (Text.isDigitOf 10) with
  | '.' :: rest =>
    (!whole.isEmpty || !(rest.takeWhile (Text.isDigitOf 10)).isEmpty) &&
      isExponent (rest.dropWhile (Text.isDigitOf 10))
  | rest => !whole.isEmpty && isExponent rest

/-- What a floating-point number may be besides a decimal. -/
def floatNames : List (List Char) := ["inf".toList, "infinity".toList, "nan".toList]

/-- The text of a floating-point number: a decimal or a name in any case, with an optional sign. -/
def isFloat (cs : List Char) : Bool :=
  floatNames.contains ((dropSign cs).map Char.toLower) || isUnsignedDecimal (dropSign cs)

/-- A character that a decimal may hold. -/
def isDecimalCharacter (c : Char) : Bool :=
  Text.isDigitOf 10 c || ['+', '-', '.', 'e', 'E'].contains c

end Numeral

/-- `word` is a number, so it can be a node id. -/
def isNumeral (word : String) : Bool :=
  if Numeral.infinities.contains word then true
  else
    match Numeral.marked? word.toList with
    | some (base, digits) => !digits.isEmpty && digits.all (Text.isDigitOf base)
    | none => word.toList.all Numeral.isDecimalCharacter && Numeral.isFloat word.toList

/-! ## Records

A line of four or more words that begins with a numeral is a record. `Record.Reading.ofWords`
says what its words hold: nothing that is a record, a record without separator, a record whose
lists break off, or a complete one.
-/

/-- The words of a complete record. -/
structure Record where
  id : String
  focus : Bool
  type : String
  inputs : List String
  specials : List String
  outputs : List String
  details : List String
  deriving DecidableEq, Repr

namespace Record
open Dump

/-- How a record looks, for a reader whose line was skipped. -/
def help : String := "node dump lines look like `12 AddI === 10 11 [[ 13 ]] details`"

/-- The list in which an incomplete record breaks off. -/
inductive Gap where
  /-- No word opens the outputs or the special inputs. -/
  | inputs
  /-- No word closes the special inputs. -/
  | specials
  /-- Nothing is left for the outputs. -/
  | outputs
  deriving DecidableEq, Repr

/-- The code of an incomplete record. -/
def Gap.code : Gap → Code
  | .inputs => .unclosedInputs
  | .specials => .unclosedSpecials
  | .outputs => .missingOutputs

/-- The edge lists and the details of a record. -/
structure Body where
  inputs : List String
  specials : List String
  outputs : List String
  details : List String
  deriving DecidableEq, Repr

/-- The word ends the inputs, because it opens the outputs or the special inputs. -/
def endsInputs (word : String) : Bool :=
  Text.opensWith outputsOpen word || Text.opensWith specialsOpen word

/-- The special inputs at the front of some words, and the words after them; `none` if they are
opened and not closed. -/
def readSpecials : List String → Option (List String × List String)
  | [] => some ([], [])
  | opening :: rest =>
    if opening = specialsEmpty then some ([], rest)
    else if Text.opensWith specialsOpen opening then
      match rest.dropWhile (!Text.opensWith specialsClose ·) with
      | [] => none
      | _ :: after => some (rest.takeWhile (!Text.opensWith specialsClose ·), after)
    else some ([], opening :: rest)

/-- The outputs and the details after the word that opens the outputs. Outputs that nothing
closes reach to the end of the line. -/
def readOutputs (opening : String) (rest : List String) : List String × List String :=
  if opening = outputsEmpty then ([], rest)
  else
    (rest.takeWhile (!Text.opensWith outputsClose ·),
      (rest.dropWhile (!Text.opensWith outputsClose ·)).drop 1)

/-- The body in the words after the separator. -/
def Body.read (ws : List String) : Except Gap Body :=
  match ws.dropWhile (!endsInputs ·) with
  | [] => .error .inputs
  | listed =>
    match readSpecials listed with
    | none => .error .specials
    | some (_, []) => .error .outputs
    | some (specials, opening :: rest) =>
      let (outputs, details) := readOutputs opening rest
      .ok { inputs := ws.takeWhile (!endsInputs ·), specials, outputs, details }

/-- What a line holds. -/
inductive Reading where
  /-- No record. -/
  | other
  /-- A record with no separator after its type. -/
  | headless
  /-- A record that breaks off after its type. -/
  | incomplete (id type : String) (gap : Gap)
  /-- A complete record. -/
  | complete (record : Record)
  deriving DecidableEq, Repr

namespace Reading

/-- The reading of a record with the given id, mark and type, from the words after the type. -/
def ofHead (id : String) (focus : Bool) (type : String) : List String → Reading
  | [] => headless
  | mark :: rest =>
    if mark = separator then
      match Body.read rest with
      | .error gap => incomplete id type gap
      | .ok body => complete
        { id, focus, type, inputs := body.inputs, specials := body.specials,
          outputs := body.outputs, details := body.details }
    else headless

/-- The reading of a line with the given words. -/
def ofWords (ws : List String) : Reading :=
  match ws with
  | id :: second :: third :: fourth :: rest =>
    if !isNumeral id then other
    else if second = focusMark then ofHead id true third (fourth :: rest)
    else ofHead id false second (third :: fourth :: rest)
  | _ => other

end Reading

/-- The node of a record on the given line. The types of its edges are not known yet. -/
def node (r : Record) (line : Nat) : Node :=
  let edges (ids : List String) : List Edge := ids.map fun id => { id }
  { id := r.id
    type := r.type
    inputs := edges r.inputs
    specials := edges r.specials
    outputs := edges r.outputs
    details := Text.unwords r.details
    focus := r.focus
    line }

/-- The warning for a line that is skipped. -/
def skipped (code : Code) (message : String) (span : Span) : Diagnostic :=
  { severity := .warning
    code := some code
    message
    labels := [{ span, message := code.description }]
    help := some help }

/-- The warning for a record without separator. -/
def headlessWarning (span : Span) : Diagnostic :=
  skipped .missingSeparator ("expected `" ++ separator ++ "` after the node type") span

/-- The warning for a record that breaks off. -/
def incompleteWarning (id : String) (gap : Gap) (span : Span) : Diagnostic :=
  skipped gap.code ("record for node `" ++ id ++ "` is incomplete") span

/-- The warning for a record whose id was taken by the line at `first`. -/
def duplicateWarning (id : String) (first span : Span) : Diagnostic :=
  { severity := .warning
    code := some .duplicateNode
    message := "node `" ++ id ++ "` is defined more than once"
    labels :=
      [{ span, message := "duplicate skipped" },
        { span := first, message := "first defined here", primary := false }] }

end Record
end IrChart
