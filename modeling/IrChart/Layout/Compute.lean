import IrChart.Decimal.Shortest
import IrChart.Layout.Placement

/-!
# Computing a layout

The methods by name, and the check that every layout has to pass.
-/

namespace IrChart

/-! ## Methods

The ways to place nodes, with the names they have in settings and reports.
-/

/-- A way to place nodes. -/
inductive Method where
  /-- Anywhere inside the margins. -/
  | scatter
  /-- On a square grid in node order. -/
  | grid
  /-- In horizontal bands, by the links that a node lists. -/
  | bands
  /-- A strip for each connected group and a row for each depth. -/
  | layers
  deriving DecidableEq, Repr

namespace Method

/-- All methods. -/
def all : List Method := [scatter, grid, bands, layers]

/-- The name of a method. -/
def name : Method → String
  | scatter => "random"
  | grid => "grid"
  | bands => "proto_1"
  | layers => "proto_2"

/-- The method with a name. -/
def ofName? (text : String) : Option Method := all.find? (·.name == text)

/-- The message for a text that is no method's name. -/
def unsupported : String := "Unsupported layout method"

/-- Layers, unless another method is asked for. -/
instance : Inhabited Method := ⟨layers⟩

@[simp] theorem ofName?_name (m : Method) : ofName? m.name = some m := by
  cases m <;> decide

end Method

/-! ## Layouts

A layout is computed by one of the methods and then checked: it must place every node, and inside
the unit square.
-/

namespace Layout

/-- What is wrong with a placement. -/
inductive Misplacement where
  | missing (id : String)
  | outside (id : String) (point : Position)

/-- Coordinates in messages: whole numbers have no point. -/
def messageStyle : Decimal.Style := { nan := "NaN", infinity := "inf", wholePoint := false }

/-- The fault of a layout by some method in words. -/
def Misplacement.message (method : Method) : Misplacement → String
  | missing id => method.name ++ " layout did not place node `" ++ id ++ "`"
  | outside id point =>
    let coordinate (x : Float32) : String := (FloatDatum.ofFloat32 x).render messageStyle
    method.name ++ " layout placed node `" ++ id ++ "` outside the unit square at (" ++
      coordinate point.x ++ ", " ++ coordinate point.y ++ ")"

/-- The placement by a method, unchecked. -/
def place (g : Graph) : Method → Random.Draw Placement
  | .scatter => scatter g
  | .grid => return grid g
  | .bands => bands g
  | .layers => layers g

/-- The first fault of a placement of `g`, if it has one. -/
def misplaced? (g : Graph) (placement : Placement) : Option Misplacement :=
  match g.nodes.find? (fun node => (placement.get? node.id).isNone) with
  | some node => some (.missing node.id)
  | none => (placement.entries.find? (!·.2.inUnitSquare)).map fun (id, point) => .outside id point

/-- The checked placement by a method. -/
def compute (g : Graph) (method : Method) : Random.Draw (Except Misplacement Placement) := do
  let placement ← place g method
  match misplaced? g placement with
  | some fault => return .error fault
  | none => return .ok placement

end Layout
end IrChart
