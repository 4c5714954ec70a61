import IrChart.Coloring
import IrChart.Failure
import IrChart.Layout.Compute

/-!
# Sessions

A session colors and places the graphs of dumps. All its draws come from one generator, which
every step leaves behind the words it took; `process` draws nothing unless its dump can be parsed.
-/

namespace IrChart

/-- What a session is set to: the layout method, and the seed if the draws are to be repeatable. -/
structure Config where
  method : Method := default
  seed : Option UInt64 := none
  deriving DecidableEq, Repr

/-- A dump with the colors and the places of its nodes. -/
structure Chart where
  dump : ParsedDump
  coloring : Coloring
  method : Method
  placement : Placement

/-- The state of a session. -/
structure Session where
  config : Config
  generator : Random.Generator

/-- A step of a session. -/
inductive Step where
  | parse (source : String)
  | colorize (g : Graph)
  | layout (g : Graph)
  | layoutWith (g : Graph) (method : Method)
  | process (source : String)

/-- What a step answers. -/
inductive Result where
  | parsed (dump : Except Failure ParsedDump)
  | colored (coloring : Coloring)
  | placed (placement : Except Failure Placement)
  | processed (chart : Except Failure Chart)

namespace Session

/-- A session with the given settings. Its draws are those of the seed; without one they are those
of the key `entropy`, which the system makes up and which may be any key. -/
def start (config : Config) (entropy : Random.Key) : Session :=
  ⟨config, match config.seed with
    | some seed => .ofSeed seed
    | none => .ofKey entropy⟩

/-- Draws from the generator of the session. -/
def draw {α : Type} (d : Random.Draw α) : StateM Session α := fun s =>
  let (a, generator) := d s.generator
  (a, { s with generator })

/-- Parses a dump. -/
def parse (source : String) : Except Failure ParsedDump :=
  (Dump.parse source).mapError fun failure => .parse failure source

/-- Colors a graph. -/
def colorize (g : Graph) : StateM Session Coloring := draw (Coloring.assign g)

/-- Places the nodes of a graph by a method. -/
def layoutWith (g : Graph) (method : Method) : StateM Session (Except Failure Placement) := do
  return (← draw (Layout.compute g method)).mapError fun fault => .layout (fault.message method)

/-- Places the nodes of a graph by the method of the session. -/
def layout (g : Graph) : StateM Session (Except Failure Placement) := do
  layoutWith g (← get).config.method

/-- Parses a dump, colors its graph and places its nodes. -/
def process (source : String) : StateM Session (Except Failure Chart) := do
  match parse source with
  | .error failure => return .error failure
  | .ok dump =>
    let coloring ← colorize dump.graph
    let method := (← get).config.method
    match ← layoutWith dump.graph method with
    | .error failure => return .error failure
    | .ok placement => return .ok { dump, coloring, method, placement }

/-- Takes one step. -/
def perform : Step → StateM Session Result
  | .parse source => return .parsed (parse source)
  | .colorize g => return .colored (← colorize g)
  | .layout g => return .placed (← layout g)
  | .layoutWith g method => return .placed (← layoutWith g method)
  | .process source => return .processed (← process source)

/-- Takes steps one after another. -/
def performAll (steps : List Step) : StateM Session (List Result) := steps.mapM perform

end Session
end IrChart
