import IrChart.Color.Rgb
import IrChart.Graph.Basic
import IrChart.Ordered

/-!
# Coloring a graph

Palettes of different colors, and the colors of nodes and types.
-/

namespace IrChart

/-! ## Palettes

A palette spreads its colors evenly over the hue circle and lets saturation and value run through
a cycle of four, so that neighbours differ in brightness too. Only a palette of one color is
random.
-/

/-- A background color and the color of text on it. -/
structure ColorPair where
  color : Rgb
  text : Rgb
  deriving DecidableEq, Repr

namespace ColorPair

/-- A color with its complement for text. -/
def ofColor (color : Rgb) : ColorPair := ⟨color, color.complement⟩

/-- Black on white, for labels that are no node's. -/
def neutral : ColorPair := ⟨.white, .black⟩

end ColorPair

namespace Palette

/-- Saturation and value of the color at a position, in percent: 80, 90, 100, 70 and so on. -/
def strength (position : Nat) : Float :=
  match position % 4 with
  | 0 => 80
  | 1 => 90
  | 2 => 100
  | _ => 70

/-- The pair at a position of a palette of `count` colors, for more than one color. -/
def spreadPair (count position : Nat) : ColorPair :=
  let step : Float := 360 / Float.ofNat (count - 1)
  let strength := strength position
  .ofColor (.ofHsv (step * Float.ofNat position) strength strength)

/-- A palette of `count` colors. -/
def generate (count : Nat) : Random.Draw (List ColorPair) :=
  match count with
  | 0 => return []
  | 1 => do return [.ofColor (← Rgb.random)]
  | count => return (List.range count).map (spreadPair count)

end Palette

/-! ## Colors of nodes and types

Every node id and every type label gets a pair of colors from a palette. The reserved labels take
part in the palette of the types, so that the other types keep their place in it, and are black on
white in the end.
-/

/-- Colors by node id and by type label. -/
structure Coloring where
  nodes : Keyed ColorPair
  types : Keyed ColorPair

namespace Coloring

/-- The colors of a node id. -/
def node? (c : Coloring) (id : String) : Option ColorPair := c.nodes.get? id

/-- The colors of a type label. -/
def type? (c : Coloring) (label : String) : Option ColorPair := c.types.get? label

/-- The colors of a node id; an id that is no node's is black on white. -/
def nodeOrNeutral (c : Coloring) (id : String) : ColorPair := (c.node? id).getD .neutral

/-- The labels that get colors: the types of the graph, then the reserved ones. -/
def labels (g : Graph) : List String := g.types.toList ++ reservedTypes

/-- The coloring from a palette for the nodes and one for the labels. -/
def ofPalettes (g : Graph) (nodePalette labelPalette : List ColorPair) : Coloring :=
  { nodes := .ofList ((g.nodes.map (·.id)).zip nodePalette)
    types := (Keyed.ofList ((labels g).zip labelPalette)).insertAll
      (reservedTypes.map (·, .neutral)) }

/-- Colors the nodes, then the types. -/
def assign (g : Graph) : Random.Draw Coloring := do
  let nodePalette ← Palette.generate g.size
  let labelPalette ← Palette.generate (labels g).length
  return ofPalettes g nodePalette labelPalette

end Coloring
end IrChart
