import IrChart.Graph.Links
import IrChart.Ordered
import IrChart.Random.Generator

/-!
# Placing nodes

Points of the unit square, and the ways to give one to every node: at random, on a grid, in bands
and in layers.
-/

namespace IrChart

/-! ## Points

Nodes are placed in the unit square. Its origin is the corner at the top left, and the second
coordinate grows downwards.
-/

/-- A point with coordinates of some type of numbers. -/
structure Point (α : Type) where
  x : α
  y : α
  deriving DecidableEq, Repr

/-- A point in single precision, as layouts hold it. -/
abbrev Position := Point Float32

/-- Whole numbers in single precision. -/
instance natCastFloat32 : NatCast Float32 := ⟨Float32.ofNat⟩

namespace Point

/-- The point with its coordinates exchanged. -/
def swap {α : Type} (p : Point α) : Point α := ⟨p.y, p.x⟩

/-- The point lies in the unit square, edges included. -/
def inUnitSquare (p : Position) : Bool := 0 ≤ p.x && p.x ≤ 1 && 0 ≤ p.y && p.y ≤ 1

/-- The coordinates are equal as numbers: zeros of either sign are, and nothing equals what is not
a number. -/
def sameAs (p q : Position) : Bool := p.x == q.x && p.y == q.y

end Point

/-! ## Scattered nodes

Each node goes to a random point inside the margins.
-/

/-- The places of the nodes by id, in node order. -/
abbrev Placement := Keyed Position

namespace Layout

/-- The least coordinate inside the margins. -/
def marginLow : Float32 := 0.05

/-- The greatest coordinate inside the margins. -/
def marginHigh : Float32 := 0.95

/-- A random point inside the margins. -/
def scatterPoint : Random.Draw Position := do
  let x ← Random.range marginLow marginHigh
  let y ← Random.range marginLow marginHigh
  return ⟨x, y⟩

/-- Places the nodes in order, each at a point drawn for it. -/
def placeEach (g : Graph) (draw : Fin g.size → Random.Draw Position) : Random.Draw Placement := do
  let table := g.table
  let entries ← (List.finRange g.size).mapM fun i => do return ((table.get i).id, ← draw i)
  return .ofList entries

/-- Every node at a random point. -/
def scatter (g : Graph) : Random.Draw Placement := placeEach g fun _ => scatterPoint

/-! ## Nodes on a grid

The nodes fill a grid row by row. It has as many columns as the square root of their number says,
rounded, and its cells are squares as large as the longer side allows. The last row ends at the
far edge if there are as many rows as cells on a side.
-/

/-- The column and row of a grid cell, counted from one, and the number of cells on the longer
side of the grid. -/
structure GridCell where
  column : Nat
  row : Nat
  cells : Nat
  deriving DecidableEq, Repr

/-- The number of columns for `n` nodes: the whole number nearest to the square root of `n`, and
at least one. -/
def columns (n : Nat) : Nat := max 1 ((Nat.sqrt (4 * n) + 1) / 2)

/-- The number of rows that `n` nodes fill, the last one perhaps in part. -/
def rows (n : Nat) : Nat := (n + columns n - 1) / columns n

/-- The cell of the node at a place. -/
def gridCell (n place : Nat) : GridCell :=
  { column := place % columns n + 1
    row := place / columns n + 1
    cells := max (columns n) (rows n) }

/-- The far corner of a cell. -/
def GridCell.corner {α : Type} [NatCast α] [Div α] (cell : GridCell) : Point α :=
  ⟨(cell.column : α) / (cell.cells : α), (cell.row : α) / (cell.cells : α)⟩

/-- Every node at the far corner of its cell. -/
def grid (g : Graph) : Placement :=
  .ofList (g.nodes.zipIdx.map fun (node, place) => (node.id, (gridCell g.size place).corner))

/-! ## Nodes in bands

A node that lists outputs only goes to the upper band, one that lists inputs only to the lower
band, one that lists both to the middle band. A node that lists neither goes anywhere.
-/

/-- A range of the second coordinate. -/
structure Band where
  low : Float32
  high : Float32

/-- The band of a node, by whether it lists inputs and outputs. -/
def band? (listsInputs listsOutputs : Bool) : Option Band :=
  match listsInputs, listsOutputs with
  | false, true => some ⟨0.05, 0.25⟩
  | true, true => some ⟨0.45, 0.65⟩
  | true, false => some ⟨0.75, 0.95⟩
  | false, false => none

/-- A random point of a band. -/
def bandPoint (band : Band) : Random.Draw Position := do
  let x ← Random.range marginLow marginHigh
  let y ← Random.range band.low band.high
  return ⟨x, y⟩

/-- Every node in its band. -/
def bands (g : Graph) : Random.Draw Placement :=
  let links := Links.ofGraph g
  placeEach g fun i =>
    match band? (!(links.inputsOf i).isEmpty) (!(links.outputsOf i).isEmpty) with
    | some band => bandPoint band
    | none => scatterPoint

end Layout

/-! ## Nodes in layers

Each connected group has a vertical strip, each depth in a group a row of the strip, and each node
of a row a slot. Strips, rows and slots are counted; only then are points computed from them.
-/

/-- The place of a node in a layered layout: one of the strips, one of its rows, one of the slots
of that row, each counted from zero, with their numbers. -/
structure Cell where
  strip : Nat
  strips : Nat
  row : Nat
  rows : Nat
  slot : Nat
  slots : Nat
  deriving DecidableEq, Repr

namespace Cell

/-- The corner of a cell, if the strips together have the side `extent` and begin at `low`. -/
def corner {α : Type} [NatCast α] [Add α] [Mul α] [Div α] (low extent : α) (cell : Cell) :
    Point α :=
  let width := extent / ((max cell.strips 1 : Nat) : α)
  let left := low + width * (cell.strip : α)
  let height := extent / (cell.rows : α)
  let spacing := width / (cell.slots : α)
  ⟨left + spacing * (cell.slot : α), low + height * (cell.row : α)⟩

end Cell

namespace Links

variable {n : Nat}

/-- The cells of the members of a group, row by row. -/
def groupCells (l : Links n) (strips strip : Nat) (group : List (Fin n)) :
    List (Fin n × Cell) :=
  let marks := l.rank group
  let depth (i : Fin n) : Nat := (marks.get i).depth?.getD 0
  let rows := (group.map depth).foldl max 0 + 1
  (List.range rows).flatMap fun row =>
    let members := group.filter (depth · == row)
    members.zipIdx.map fun (i, slot) =>
      (i, { strip, strips, row, rows, slot, slots := members.length })

/-- The cells of all nodes, group by group. -/
def cells (l : Links n) : List (Fin n × Cell) :=
  let groups := l.groups
  groups.zipIdx.flatMap fun (group, strip) => l.groupCells groups.length strip group

end Links

namespace Layout

/-- The side of the square that the strips fill. -/
def layersExtent : Float32 := 0.9

/-- Every node at the corner of its cell. The nodes are scattered first, which fixes the order of
the ids and leaves no node without a place. -/
def layers (g : Graph) : Random.Draw Placement := do
  let scattered ← scatter g
  let table := g.table
  return scattered.insertAll ((Links.ofGraph g).cells.map fun (i, cell) =>
    ((table.get i).id, cell.corner marginLow layersExtent))

end Layout
end IrChart
