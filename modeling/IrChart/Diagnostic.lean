import IrChart.Text.Basic

/-!
# Diagnostics

A diagnostic is a message about a dump: an error when no graph can be made of it, a warning for
each line that was skipped. Labels point into the source text.
-/

namespace IrChart

/-- How much a diagnostic matters. -/
inductive Severity where
  | error
  | warning
  deriving DecidableEq, Repr

/-- The word a severity is written as. -/
def Severity.name : Severity → String
  | .error => "error"
  | .warning => "warning"

/-- The kinds of fault that a dump can show. -/
inductive Code where
  | missingArrow
  | unclosedOutputs
  | missingInputLine
  | unclosedInputLine
  | missingSeparator
  | unclosedInputs
  | unclosedSpecials
  | missingOutputs
  | duplicateNode
  | noNodes
  deriving DecidableEq, Repr

namespace Code

/-- Every code, by number. -/
def all : List Code :=
  [missingArrow, unclosedOutputs, missingInputLine, unclosedInputLine, missingSeparator,
    unclosedInputs, unclosedSpecials, missingOutputs, duplicateNode, noNodes]

/-- The number a code is written as: 0 to 99 for JIT logs, 100 to 199 for node records, 300 on
for whole dumps. -/
def name : Code → String
  | missingArrow => "E001"
  | unclosedOutputs => "E002"
  | missingInputLine => "E003"
  | unclosedInputLine => "E004"
  | missingSeparator => "E100"
  | unclosedInputs => "E101"
  | unclosedSpecials => "E102"
  | missingOutputs => "E103"
  | duplicateNode => "E104"
  | noNodes => "E300"

/-- What a code means, in a few words. -/
def description : Code → String
  | missingArrow => "header missing `->`"
  | unclosedOutputs => "unterminated output list"
  | missingInputLine => "header without input line"
  | unclosedInputLine => "unterminated input list"
  | missingSeparator => "missing `===`"
  | unclosedInputs => "unterminated input list"
  | unclosedSpecials => "unterminated special input list"
  | missingOutputs => "missing output list"
  | duplicateNode => "duplicate node id"
  | noNodes => "no nodes"

/-- The code written as `text`. -/
def ofName? (text : String) : Option Code := all.find? (·.name == text)

end Code

/-- A remark on a stretch of the source. The primary label is the place a diagnostic is about,
the others are context. -/
structure Label where
  span : Span
  message : String
  primary : Bool := true
  deriving DecidableEq, Repr

/-- A message about a dump. -/
structure Diagnostic where
  severity : Severity
  code : Option Code := none
  message : String
  labels : List Label := []
  help : Option String := none
  deriving DecidableEq, Repr

namespace Diagnostic

/-- The diagnostic is an error. -/
def isError (d : Diagnostic) : Bool := d.severity == .error

/-- One line of text: severity, code in brackets, message. -/
def render (d : Diagnostic) : String :=
  let code := match d.code with
    | some code => "[" ++ code.name ++ "]"
    | none => ""
  d.severity.name ++ code ++ ": " ++ d.message

/-- The first diagnostic and how many follow it. -/
def summary : List Diagnostic → String
  | [] => ""
  | [d] => d.render
  | d :: more => d.render ++ " (+" ++ toString more.length ++ " more)"

end Diagnostic
end IrChart
