import IrChart.Diagnostic
import IrChart.Dump.Format

/-!
# JIT logs

A JIT log is read in one pass that pairs each header with the line after it. A pair becomes one
line of a node dump; a header that cannot be read, or that has no readable input line, is dropped
with a warning. Type annotations such as `(Proj)` are left out of the new line, because the types
of edges are found from the nodes.
-/

namespace IrChart.JitLog
open Dump

/-- How a header looks, for a reader whose header was dropped. -/
def headerHelp : String :=
  "JIT log headers look like `#12 AddI @(bci: 3) -> [ 13 (Return) ]; trailing text`"

/-- How an input line looks, for a reader whose record was dropped. -/
def inputsHelp : String := "JIT log input lines look like `L[ 10 (Parm) 11 (ConI) ]`"

/-- What a header says: the metadata are the words between type and arrow and after the outputs. -/
structure Header where
  id : String
  type : String
  outputs : List String
  metadata : List String
  deriving DecidableEq, Repr

/-- The ids before the first `close` and the words after it, or `none` if nothing closes the
list. A word after an id that opens like an annotation is left out. -/
def annotatedIds (close : String) : List String → Option (List String × List String)
  | [] => none
  | [id] => if id = close then some ([], []) else none
  | id :: next :: rest =>
    if id = close then some ([], next :: rest)
    else if Text.opensWith annotationOpen next then
      (annotatedIds close rest).map fun (ids, after) => (id :: ids, after)
    else
      (annotatedIds close (next :: rest)).map fun (ids, after) => (id :: ids, after)

/-- The header with the given words. The word after the arrow opens the outputs, whatever it is. -/
def Header.read : List String → Except Code Header
  | mark :: type :: rest =>
    match rest.dropWhile (· != arrow) with
    | [] => .error .missingArrow
    | [_] => .error .unclosedOutputs
    | _ :: _ :: listed =>
      match annotatedIds headerClose listed with
      | none => .error .unclosedOutputs
      | some (outputs, trailing) => .ok
        { id := (Text.after? headerMark mark).getD mark
          type
          outputs
          metadata := rest.takeWhile (· != arrow) ++ trailing }
  | _ => .error .missingArrow

/-- The inputs of an input line with the given words; words after the closing mark do not count. -/
def readInputs : List String → Except Code (List String)
  | opening :: listed =>
    if opening = inputLineOpen then
      match annotatedIds inputLineClose listed with
      | some (inputs, _) => .ok inputs
      | none => .error .unclosedInputLine
    else .error .unclosedInputLine
  | [] => .error .unclosedInputLine

/-- The words of the node dump line for a header with its inputs. -/
def Header.mergedWords (h : Header) (inputs : List String) : List String :=
  [h.id, h.type, separator] ++ inputs ++ [outputsOpen] ++ h.outputs ++ [outputsClose] ++ h.metadata

/-- The node dump line for a header and its input line. It carries the number of the header and
covers both lines. -/
def merge (header : Header) (inputs : List String) (headerLine inputLine : SourceLine) :
    SourceLine :=
  { text := Text.unwords (header.mergedWords inputs)
    number := headerLine.number
    span := headerLine.span.union inputLine.span }

/-- Why a record was dropped. -/
inductive Dropped where
  /-- The header cannot be read. -/
  | unreadableHeader (code : Code) (line : SourceLine)
  /-- The header is followed by a line that is no input line, or by the end of the dump. -/
  | noInputLine (header : Header) (line : SourceLine) (next : Option SourceLine)
  /-- The input line cannot be read. -/
  | unreadableInputs (code : Code) (headerLine line : SourceLine)
  deriving DecidableEq, Repr

/-- The warning for a line that cannot be read. -/
def malformed (code : Code) (line : SourceLine) (context : List Label) (help : String) :
    Diagnostic :=
  { severity := .warning
    code := some code
    message := "skipping JIT log record: " ++ code.description
    labels := { span := line.span, message := "line skipped" } :: context
    help := some help }

/-- The warning for a dropped record. -/
def Dropped.diagnostic : Dropped → Diagnostic
  | .unreadableHeader code line => malformed code line [] headerHelp
  | .noInputLine header line next =>
    { severity := .warning
      code := some .missingInputLine
      message := "JIT header for node `" ++ header.id ++ "` is not followed by an `L[` input line"
      labels := match next with
        | some next =>
          [{ span := line.span, message := "record dropped" },
            { span := next.span, message := "expected `L[` here", primary := false }]
        | none => [{ span := line.span, message := "record dropped at end of input" }]
      help := some inputsHelp }
  | .unreadableInputs code headerLine line =>
    malformed code line
      [{ span := headerLine.span, message := "header of the dropped record", primary := false }]
      inputsHelp

/-- What became of a record: the node dump line, or the reason for dropping it. -/
abbrev Outcome := Except Dropped SourceLine

/-- A pass over the lines: the header that waits for its input line, and the outcomes so far. -/
structure Scan where
  pending : Option (Header × SourceLine) := none
  outcomes : Array Outcome := #[]

/-- What becomes of a header with the line after it. -/
def pair (header : Header) (headerLine line : SourceLine) : Outcome :=
  if line.words.head? = some inputLineOpen then
    match readInputs line.words with
    | .ok inputs => .ok (merge header inputs headerLine line)
    | .error code => .error (.unreadableInputs code headerLine line)
  else .error (.noInputLine header headerLine (some line))

/-- Takes one line: the line after a header ends that header's record, any other line counts only
if it is a header. -/
def Scan.step (s : Scan) (line : SourceLine) : Scan :=
  match s.pending with
  | some (header, headerLine) => ⟨none, s.outcomes.push (pair header headerLine line)⟩
  | none =>
    if isHeader line.words then
      match Header.read line.words with
      | .ok header => ⟨some (header, line), s.outcomes⟩
      | .error code => ⟨none, s.outcomes.push (.error (.unreadableHeader code line))⟩
    else s

/-- Ends the pass: a header that still waits is dropped. -/
def Scan.finish (s : Scan) : List Outcome :=
  match s.pending with
  | some (header, line) => (s.outcomes.push (.error (.noInputLine header line none))).toList
  | none => s.outcomes.toList

/-- What becomes of the records of a JIT log, in order. -/
def read (lines : List SourceLine) : List Outcome := (lines.foldl Scan.step {}).finish

/-- The node dump lines among the outcomes. -/
def merged (outcomes : List Outcome) : List SourceLine :=
  outcomes.filterMap fun
    | .ok line => some line
    | .error _ => none

/-- The warnings of the dropped records. -/
def warnings (outcomes : List Outcome) : List Diagnostic :=
  outcomes.filterMap fun
    | .ok _ => none
    | .error dropped => some dropped.diagnostic

/-- The lines of a JIT log as lines of a node dump; other lines are kept as they are. -/
def normalizeLines (lines : List String) : List String :=
  match detect lines with
  | .jitLog => (merged (read (SourceLine.ofTexts lines))).map (·.text)
  | _ => lines

end IrChart.JitLog
