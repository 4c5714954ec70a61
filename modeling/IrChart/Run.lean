import IrChart.Session
import IrChart.Settings.Resolve
import IrChart.Toml.Value

/-!
# Runs

The report of a dump, and the run that writes it.
-/

namespace IrChart

/-! ## Reports

The report of a dump is a TOML document with all that a renderer needs: the graph, the colors and
the places of the nodes.
-/

namespace Report
open Toml (Value Table)

/-- An edge as a table. -/
def edge (e : Edge) : Value := .table [("id", .string e.id), ("type", .string e.type)]

/-- A node as a table. -/
def node (n : Node) : Value :=
  .table [
    ("id", .string n.id),
    ("type", .string n.type),
    ("in_edges", .array (n.inputs.map edge)),
    ("special_in_edges", .array (n.specials.map edge)),
    ("out_edges", .array (n.outputs.map edge)),
    ("details", .string n.details),
    ("focus", .boolean n.focus),
    ("line", .integer n.line)]

/-- A graph as a table. -/
def graph (g : Graph) : Value :=
  .table [
    ("nodes", .array (g.nodes.map node)),
    ("node_types", .array (g.types.toList.map .string))]

/-- A map as a table with an entry for each key. -/
def keyed {β : Type} (value : β → Value) (m : Keyed β) : Value :=
  .table (m.entries.map fun (key, b) => (key, value b))

/-- A pair of colors as a table. -/
def colorPair (p : ColorPair) : Value :=
  .table [("color", .string p.color.toHex), ("complimentary", .string p.text.toHex)]

/-- A coloring as a table. -/
def coloring (c : Coloring) : Value :=
  .table [("node_colors", keyed colorPair c.nodes), ("type_colors", keyed colorPair c.types)]

/-- A place as a table. -/
def position (p : Position) : Value := .table [("x", .single p.x), ("y", .single p.y)]

/-- The report of a chart that was made from `input`. -/
def table (input : String) (c : Chart) : Table :=
  [("input", .string input),
    ("format", .string c.dump.format.name),
    ("method", .string c.method.name),
    ("skipped_lines", .integer c.dump.warnings.length),
    ("graph", graph c.dump.graph),
    ("coloring", coloring c.coloring),
    ("layout", keyed position c.placement)]

/-- The text of a report. -/
def render (input : String) (c : Chart) : String := Toml.render (table input c)

end Report

/-! ## Runs

A run resolves its settings, reads its input, processes it and writes the report, in this order.
Nothing is written unless all the rest has succeeded.
-/

/-- What a run finds around it: where the settings of the user would be, and the key that the
system makes up for the draws of a run without a seed. -/
structure Surroundings where
  userSettings : Option String
  entropy : Random.Key

variable {m : Type → Type} [Monad m] [FileAccess m]

/-- The report of a source text under the given settings. -/
def reportOf (input source : String) (config : Config) (entropy : Random.Key) :
    Except Failure String :=
  (((Session.process source).run (Session.start config entropy)).1).map (Report.render input)

/-- Carries out a run. -/
def run (around : Surroundings) (arguments : Arguments) : m (Except Failure Unit) := do
  match ← Settings.resolve arguments around.userSettings with
  | .error problem => return .error (.config problem.message)
  | .ok settings =>
    match ← FileAccess.readText arguments.input with
    | .error fault => return .error (.io fault)
    | .ok source =>
      match reportOf arguments.input source settings.config around.entropy with
      | .error failure => return .error failure
      | .ok report =>
        return (← FileAccess.writeText settings.output report).mapError .io

end IrChart
