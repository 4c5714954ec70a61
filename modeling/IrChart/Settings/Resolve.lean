import IrChart.Arguments
import IrChart.Files.Access
import IrChart.Settings.Sections

/-!
# Settings of a run

A run consults at most one settings file: the one that is named on the command line, else the one
in the directory of the input, else the one of the user. What the command line gives goes before
what the file gives, and that before the defaults.
-/

namespace IrChart

/-- Everything a run needs besides its input. -/
structure Settings where
  config : Config
  output : String
  deriving DecidableEq, Repr

namespace Settings

/-- The name of a settings file. -/
def fileName : String := "irscope.toml"

/-- The path of the report, if nothing else is asked for. -/
def defaultReport : String := "report.toml"

/-- Why the settings of a run cannot be used. -/
inductive Problem where
  | unreadable (path : String) (fault : FileFault)
  | invalid (path : String) (fault : Fault)
  deriving DecidableEq, Repr

/-- The problem in words. -/
def Problem.message : Problem → String
  | unreadable path fault => "cannot read `" ++ path ++ "`: " ++ fault.message
  | invalid path fault => "invalid settings in `" ++ path ++ "`: " ++ fault.message

/-- The paths where a settings file is looked for if none is named. -/
def candidates (input : String) (user : Option String) : List String :=
  ((Path.parent? input).map (Path.join · fileName)).toList ++ user.toList

variable {m : Type → Type} [Monad m] [FileAccess m]

/-- The first of some paths that leads to a regular file. -/
def firstFile : List String → m (Option String)
  | [] => return none
  | path :: rest => do
    if ← FileAccess.isFile path then return some path else firstFile rest

/-- The settings file that a run consults, if any. -/
def locate (arguments : Arguments) (user : Option String) : m (Option String) :=
  match arguments.config with
  | some path => return some path
  | none => firstFile (candidates arguments.input user)

/-- What the settings file at a path sets. -/
def readFile (path : String) : m (Except Problem Sections) := do
  match ← FileAccess.readText path with
  | .error fault => return .error (.unreadable path fault)
  | .ok text => return (Sections.read text).mapError (.invalid path)

/-- The settings of the command line before those of the sections; the path of the report in the
sections is seen from the directory `base`. -/
def combine (arguments : Arguments) (sections : Sections) (base : String) : Settings :=
  { config :=
      { method := arguments.method.getD sections.config.method
        seed := arguments.seed.or sections.config.seed }
    output := match arguments.output, sections.reportPath with
      | some output, _ => output
      | none, some path => Path.join base path
      | none, none => defaultReport }

/-- The settings of a run. -/
def resolve (arguments : Arguments) (user : Option String) : m (Except Problem Settings) := do
  match ← locate arguments user with
  | none => return .ok (combine arguments {} "")
  | some path =>
    match ← readFile path with
    | .error problem => return .error problem
    | .ok sections => return .ok (combine arguments sections ((Path.parent? path).getD ""))

end Settings
end IrChart
