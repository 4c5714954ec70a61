import IrChart.Dump.Parse
import IrChart.Files.Access

/-!
# Failures

Everything that can stop the processing of a dump, and how a failure is explained to the reader:
a refused dump by its diagnostics, any other failure by itself.
-/

namespace IrChart

/-- Why a dump was not processed. Layout and settings faults carry their reason in words. -/
inductive Failure where
  | io (fault : FileFault)
  | parse (failure : ParseFailure) (source : String)
  | layout (reason : String)
  | config (reason : String)
  deriving DecidableEq, Repr

/-- One remark that explains a failure. Its labels point into `source`. -/
structure Explanation where
  display : String
  code : Option String := none
  severity : Option Severity := none
  help : Option String := none
  source : Option String := none
  labels : List Label := []
  deriving DecidableEq, Repr

/-- The explanation of a diagnostic about a source text. -/
def Diagnostic.explain (source : String) (d : Diagnostic) : Explanation :=
  { display := d.message
    code := d.code.map Code.name
    severity := some d.severity
    help := d.help
    source := some source
    labels := d.labels }

/-- The stretches of the source that an explanation points at, each by offset and length. -/
def Explanation.ranges (e : Explanation) : List (Nat × Nat) :=
  e.labels.map fun l => (l.span.start, l.span.length)

namespace Failure

/-- The failure in one line. -/
def message : Failure → String
  | io fault => "I/O error: " ++ fault.message
  | parse failure _ => failure.message
  | layout reason => "Layout error: " ++ reason
  | config reason => "Configuration error: " ++ reason

/-- What settings there are, for a reader whose settings were refused. -/
def configHelp : String :=
  "irscope.toml accepts `[layout] method` (random, grid, proto_1, proto_2), `[layout] seed` and `[report] path`"

/-- The explanations of a failure, in order. -/
def explanations : Failure → List Explanation
  | parse failure source => failure.diagnostics.map (·.explain source)
  | f@(io _) => [{ display := f.message, code := some "irscope::io" }]
  | f@(layout _) => [{ display := f.message, code := some "irscope::layout" }]
  | f@(config _) =>
    [{ display := f.message, code := some "irscope::config", help := some configHelp }]

end Failure
end IrChart
