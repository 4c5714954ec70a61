import IrChart.Run

/-!
# The program

What the program answers to a command line: its exit status, what it prints, and what it says
about arguments and failures.
-/

namespace IrChart

/-- What a call of the program leaves behind, files apart. -/
structure Answer where
  exit : UInt32 := 0
  output : String := ""
  notices : List String := []
  remarks : List Explanation := []

namespace Program

/-- The line for a question after the version. -/
def version : String := "irscope-cli 0.1.0\n"

/-- The text for a question after the use. -/
def usage : String :=
  Text.unlines [
    "Usage: irscope [OPTIONS] <INPUT>",
    "",
    "Arguments:",
    "  <INPUT>  Path to the node dump or JIT log",
    "",
    "Options:",
    "  -o, --output <OUTPUT>        Path to the output TOML report [default: report.toml]",
    "  -c, --config <CONFIG>        Settings file to use instead of the irscope.toml lookup",
    "  -l, --layout <LAYOUT>        Layout method (random, grid, proto_1, proto_2)",
    "  -s, --seed <SEED>            Seed for colors and layout, for reproducible reports",
    "      --log-level <LOG_LEVEL>  Log level (off, error, warn, info, debug, trace) [default: info]",
    "  -h, --help                   Print help",
    "  -V, --version                Print version",
    ""]

/-- The exit status for a command line that is refused. -/
def badArguments : UInt32 := 2

/-- The exit status of a failure: 2 for a dump without nodes, 3 for settings, 1 for the rest. -/
def exitOf : Failure → UInt32
  | .parse .. => 2
  | .config _ => 3
  | .io _ => 1
  | .layout _ => 1

/-- The names of the log levels. -/
def logLevels : List String := ["off", "error", "warn", "info", "debug", "trace"]

/-- The notice for a log level that is not known, in lower or upper case. -/
def logLevelNotices (level : String) : List String :=
  if logLevels.contains (level.map Char.toLower) then []
  else ["irscope: unknown log level `" ++ level ++ "`, logging warnings only"]

variable {m : Type → Type} [Monad m] [FileAccess m]

/-- Answers a command line. -/
def answer (around : Surroundings) (arguments : List String) : m Answer := do
  match Arguments.read arguments with
  | .error _ => return { exit := badArguments }
  | .ok .help => return { output := usage }
  | .ok .version => return { output := version }
  | .ok (.run arguments) =>
    let notices := logLevelNotices arguments.logLevel
    match ← run around arguments with
    | .ok () => return { notices }
    | .error failure => return { exit := exitOf failure, notices, remarks := failure.explanations }

end Program
end IrChart
