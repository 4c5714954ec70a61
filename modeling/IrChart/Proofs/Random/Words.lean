import IrChart.Coloring
import IrChart.Layout.Compute
import Mathlib.Data.List.FinRange

/-!
# Words that are drawn

How many words a draw takes does not depend on the words: `Takes` says that a draw moves every
generator by the same number. A palette takes words only for a single color, a layout two for each
node or none at all (`takes_assign`, `takes_compute`).
-/

namespace IrChart

namespace Random

variable {α β : Type}

/-- The draw takes `n` words from every generator. -/
def Takes (d : Draw α) (n : Nat) : Prop := ∀ g : Generator, (d.run g).2 = g.advance n

theorem takes_pure (a : α) : Takes (pure a) 0 := fun _ => rfl

theorem Takes.bind {d : Draw α} {f : α → Draw β} {m n : Nat} (h : Takes d m)
    (next : ∀ a, Takes (f a) n) : Takes (d >>= f) (m + n) := by
  intro g
  calc ((d >>= f).run g).2
      = ((f (d.run g).1).run (d.run g).2).2 := rfl
    _ = (g.advance m).advance n := by rw [h g, next]
    _ = g.advance (m + n) := g.advance_advance m n

/-- Going on without drawing. -/
theorem Takes.bind_pure {d : Draw α} {f : α → β} {n : Nat} (h : Takes d n) :
    Takes (do return f (← d)) n := h.bind fun a => takes_pure (f a)

theorem takes_nextWord : Takes nextWord 1 := fun _ => rfl

theorem takes_byte : Takes byte 1 := takes_nextWord.bind_pure

theorem takes_range (low high : Float32) : Takes (range low high) 1 := takes_nextWord.bind_pure

/-- Drawing for each of some things takes as many words as the draws together. -/
theorem takes_mapM {f : α → Draw β} {n : Nat} (each : ∀ a, Takes (f a) n) (xs : List α) :
    Takes (xs.mapM f) (n * xs.length) := by
  induction xs with
  | nil => exact takes_pure []
  | cons x xs ih =>
    have split : n * (x :: xs).length = n + n * xs.length := by
      rw [List.length_cons, Nat.mul_add, Nat.mul_one, Nat.add_comm]
    rw [List.mapM_cons, split]
    exact (each x).bind fun y => ih.bind_pure

end Random

open IrChart.Random (Takes)

theorem Rgb.takes_random : Takes Rgb.random 3 :=
  Random.takes_byte.bind fun _ => Random.takes_byte.bind fun _ => Random.takes_byte.bind_pure

namespace Coloring

/-- The number of words for the palette of the nodes. -/
def words (g : Graph) : Nat := if g.size = 1 then 3 else 0

theorem takes_generate (count : Nat) :
    Takes (Palette.generate count) (if count = 1 then 3 else 0) := by
  match count with
  | 0 => exact Random.takes_pure []
  | 1 => exact Rgb.takes_random.bind_pure
  | count + 2 => exact Random.takes_pure _

/-- Coloring takes words for a single node. The labels are at least the three reserved ones. -/
theorem takes_assign (g : Graph) : Takes (assign g) (words g) := by
  have several : (labels g).length ≠ 1 := by
    simp [labels, reservedTypes]
  have labelled := takes_generate (labels g).length
  rw [if_neg several] at labelled
  exact (takes_generate g.size).bind fun _ => labelled.bind_pure

end Coloring

namespace Layout

/-- The number of words for a layout. -/
def words (g : Graph) : Method → Nat
  | .scatter => 2 * g.size
  | .grid => 0
  | .bands => 2 * g.size
  | .layers => 2 * g.size

theorem takes_scatterPoint : Takes scatterPoint 2 :=
  (Random.takes_range _ _).bind fun _ => (Random.takes_range _ _).bind_pure

theorem takes_bandPoint (band : Band) : Takes (bandPoint band) 2 :=
  (Random.takes_range _ _).bind fun _ => (Random.takes_range _ _).bind_pure

theorem takes_placeEach {g : Graph} {draw : Fin g.size → Random.Draw Position} {n : Nat}
    (each : ∀ i, Takes (draw i) n) : Takes (placeEach g draw) (n * g.size) := by
  have entries := Random.takes_mapM
    (fun i => (each i).bind_pure (f := fun point => ((g.table.get i).id, point)))
    (List.finRange g.size)
  rw [List.length_finRange] at entries
  exact entries.bind_pure

/-- Every branch of a layout takes the same number of words. -/
theorem takes_place (g : Graph) (method : Method) : Takes (place g method) (words g method) := by
  cases method with
  | scatter => exact takes_placeEach fun _ => takes_scatterPoint
  | grid => exact Random.takes_pure _
  | bands =>
    apply takes_placeEach
    intro i
    split
    · exact takes_bandPoint _
    · exact takes_scatterPoint
  | layers => exact (takes_placeEach fun _ => takes_scatterPoint).bind_pure

/-- Checking a layout takes nothing. -/
theorem takes_compute (g : Graph) (method : Method) :
    Takes (compute g method) (words g method) := by
  refine (takes_place g method).bind (n := 0) fun placement => ?_
  split <;> exact Random.takes_pure _

end Layout
end IrChart
