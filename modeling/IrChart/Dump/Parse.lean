import IrChart.Dump.JitLog
import IrChart.Dump.Record
import IrChart.Graph.Basic
import Std.Data.HashMap

/-!
# Parsing a dump

The graph of a dump, with a diagnostic for every line that is skipped.
-/

namespace IrChart

/-! ## From records to a graph

The lines of a node dump are read in order. A complete record becomes a node unless an earlier
one has its id; a record that breaks off still makes its type known. Every record that does not
become a node gives one warning.
-/

/-- A graph under construction: the nodes and types so far, the place where each id was first
taken, and the warnings. -/
structure Draft where
  nodes : Array Node := #[]
  types : Distinct String := .empty
  firsts : Std.HashMap String Span := ∅
  warnings : Array Diagnostic := #[]

namespace Draft

/-- `d` with a warning. -/
def warn (d : Draft) (warning : Diagnostic) : Draft :=
  { d with warnings := d.warnings.push warning }

/-- `d` with the node of a complete record, or with a warning if its id is taken. -/
def add (d : Draft) (record : Record) (line : SourceLine) : Draft :=
  match d.firsts[record.id]? with
  | some first => d.warn (Record.duplicateWarning record.id first line.span)
  | none =>
    { d with
      nodes := d.nodes.push (record.node line.number)
      firsts := d.firsts.insert record.id line.span }

/-- `d` with a type that was read. -/
def noteType (d : Draft) (type : String) : Draft := { d with types := d.types.insert type }

/-- Takes one line. -/
def step (d : Draft) (line : SourceLine) : Draft :=
  match Record.Reading.ofWords line.words with
  | .other => d
  | .headless => d.warn (Record.headlessWarning line.span)
  | .incomplete id type gap =>
    (d.noteType type).warn (Record.incompleteWarning id gap line.span)
  | .complete record => (d.noteType record.type).add record line

/-- The draft that some lines give. -/
def ofLines (lines : List SourceLine) : Draft := lines.foldl step {}

/-- The graph of a draft. -/
def graph (d : Draft) : Graph := ⟨d.nodes.toList, d.types⟩

end Draft

/-! ## The steps of parsing

A dump is parsed in four steps: its dialect is told, a JIT log is turned into a node dump, the
records become a graph, and the edges get their types. A dump without a single node is refused. The
diagnostics of all steps are collected in the order in which they are emitted, and whether one of
them is an error decides on the answer.
-/

/-- A dump that was read. The warnings are those of the JIT log, then those of the records. -/
structure ParsedDump where
  format : Format
  graph : Graph
  warnings : List Diagnostic

/-- Why a dump was refused: the errors, then the warnings. -/
structure ParseFailure where
  diagnostics : List Diagnostic
  deriving DecidableEq, Repr

/-- The failure in one line. -/
def ParseFailure.message (f : ParseFailure) : String := Diagnostic.summary f.diagnostics

namespace Dump

/-- The error for a dump in which no record is complete. -/
def noNodes : Diagnostic :=
  { severity := .error
    code := some .noNodes
    message := "no nodes found in dump"
    help := some "expected lines such as `12 AddI === 10 11 [[ 13 ]]`" }

/-- The node dump lines of a dump in the given dialect, and the warnings of making them. -/
def recordLines (format : Format) (lines : List SourceLine) :
    List SourceLine × List Diagnostic :=
  match format with
  | .jitLog =>
    let outcomes := JitLog.read lines
    (JitLog.merged outcomes, JitLog.warnings outcomes)
  | _ => (lines, [])

/-- What the diagnostics of a run come to: a failure if there is an error among them, otherwise
they are warnings. The errors of a failure are moved to the front, so that it begins with its
reason. -/
def conclude (emitted : List Diagnostic) : Except ParseFailure (List Diagnostic) :=
  if emitted.any (·.isError) then
    let (errors, warnings) := emitted.partition (·.isError)
    .error ⟨errors ++ warnings⟩
  else .ok emitted

/-- Parses source lines. -/
def parseSourceLines (lines : List SourceLine) : Except ParseFailure ParsedDump := do
  let format := detect (lines.map (·.text))
  let (records, jitWarnings) := recordLines format lines
  let draft := Draft.ofLines records
  let emitted := jitWarnings ++ draft.warnings.toList
  let warnings ← conclude (if draft.nodes.isEmpty then emitted ++ [noNodes] else emitted)
  return { format, graph := draft.graph.resolveEdges, warnings }

/-- Parses a dump that was cut into lines already. -/
def parseLines (lines : List String) : Except ParseFailure ParsedDump :=
  parseSourceLines (SourceLine.ofTexts lines)

/-- Parses a source text. -/
def parse (source : String) : Except ParseFailure ParsedDump :=
  parseSourceLines (SourceLine.ofSource source)

end Dump
end IrChart
