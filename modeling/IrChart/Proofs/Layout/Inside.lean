import IrChart.Proofs.Layout.Cells
import IrChart.Proofs.Layout.Coverage
import IrChart.Proofs.Random.Range

/-!
# Placements stay in the unit square

Layouts compute in single precision, where every operation rounds, and then check their points.
The check never fails: the margins are wide enough for what rounding adds, as long as the nodes can
be counted in single precision (`run_compute_eq_ok`).
-/

namespace IrChart

open Single (Holds toSingle toSingle_le toSingle_mono exact_one limit)

namespace Single

/-- Counts up to this one are far from the largest float. -/
def most : ℕ := 2 ^ 65

theorem cast_le_limit {n : ℕ} (few : n ≤ most) : (n : ℚ) ≤ limit := by
  have cast : (n : ℚ) ≤ most := by exact_mod_cast few
  norm_num [limit, most] at cast ⊢
  linarith

/-- A whole number in single precision is off by little. -/
theorem holds_natCast {n : ℕ} (few : n ≤ most) :
    ∃ q, Holds (n : Float32) q ∧ q ≤ n * (1 + 1 / 2 ^ 20) + 1 / 2 ^ 140 ∧
      n ≤ q * (1 + 1 / 2 ^ 20) + 1 / 2 ^ 140 := by
  have nonneg : (0 : ℚ) ≤ n := Nat.cast_nonneg n
  have up := toSingle_le_add nonneg
  have down := sub_le_toSingle nonneg
  refine ⟨toSingle n, holds_ofNat (cast_le_limit few), ?_, ?_⟩ <;>
    norm_num at up down ⊢ <;> linarith

/-- One of several equal parts. -/
theorem Holds.part {x : Float32} {q : ℚ} (whole : Holds x q) (short : q ≤ 1) {n : ℕ} (some : 0 < n)
    (few : n ≤ most) :
    ∃ w, Holds (x / (n : Float32)) w ∧ w ≤ 2 ∧ w * n ≤ q * (1001 / 1000) + 1 / 1000 := by
  obtain ⟨d, divisor, high, low⟩ := holds_natCast few
  have nonneg := whole.nonneg
  have one : (1 : ℚ) ≤ n := by exact_mod_cast some
  have many : (n : ℚ) ≤ 2 ^ 65 := by exact_mod_cast few
  have pos : 1 / 2 ≤ d := by
    norm_num at low
    linarith
  have below : q / d ≤ 2 := by
    rw [div_le_iff₀ (by linarith)]
    linarith
  have quotient := whole.div divisor (by linarith) (by norm_num [limit]; linarith)
  have nonneg' : 0 ≤ q / d := div_nonneg nonneg (by linarith)
  have two : toSingle (q / d) ≤ 2 := by
    have power : Exact 2 := exact_zpow (k := 1) (by norm_num)
    exact toSingle_le nonneg' power below
  have rounded := toSingle_le_add nonneg'
  have some' := quotient.nonneg
  refine ⟨toSingle (q / d), quotient, two, ?_⟩
  generalize toSingle (q / d) = w at rounded some' ⊢
  have scaled : w * d ≤ q * (1 + 1 / 2 ^ 23) + d / 2 ^ 149 := by
    have bound := mul_le_mul_of_nonneg_right rounded (by linarith : 0 ≤ d)
    have cancel : q / d * d = q := div_mul_cancel₀ q (by linarith)
    linear_combination bound + (1 + 1 / 2 ^ 23) * cancel
  have counted := mul_le_mul_of_nonneg_left low some'
  norm_num at scaled counted high ⊢
  linarith

/-- Some of several equal parts. -/
theorem Holds.parts {x : Float32} {w : ℚ} (part : Holds x w) (short : w ≤ 2) {n : ℕ}
    (few : n ≤ most) :
    ∃ v, Holds (x * (n : Float32)) v ∧ v ≤ w * n * (1001 / 1000) + 1 / 1000 := by
  obtain ⟨d, count, high, low⟩ := holds_natCast few
  have nonneg := part.nonneg
  have nonneg' := count.nonneg
  have many : (n : ℚ) ≤ 2 ^ 65 := by exact_mod_cast few
  have counted := mul_le_mul_of_nonneg_left high nonneg
  have small : w * d ≤ 2 * d := mul_le_mul_of_nonneg_right short nonneg'
  have product := part.mul count (by norm_num [limit] at high ⊢; linarith)
  have rounded := toSingle_le_add (mul_nonneg nonneg nonneg')
  have total : 0 ≤ w * n := mul_nonneg nonneg (Nat.cast_nonneg n)
  refine ⟨toSingle (w * d), product, ?_⟩
  norm_num at rounded counted ⊢
  linarith

/-- A part that is followed by others. -/
theorem Holds.one_of_parts {x : Float32} {q : ℚ} (whole : Holds x q) (short : q ≤ 1) {i n : ℕ}
    (less : i < n) (few : n ≤ most) :
    ∃ w v, Holds (x / (n : Float32)) w ∧ Holds (x / (n : Float32) * (i : Float32)) v ∧
      v + w ≤ q * (1003 / 1000) + 3 / 1000 := by
  obtain ⟨w, holdsPart, narrow, all⟩ := whole.part short (Nat.zero_lt_of_lt less) few
  obtain ⟨v, holdsParts, before⟩ := holdsPart.parts narrow (less.le.trans few)
  have last : w * (i + 1) ≤ w * n :=
    mul_le_mul_of_nonneg_left (by exact_mod_cast less) holdsPart.nonneg
  rw [mul_add, mul_one] at last
  refine ⟨w, v, holdsPart, holdsParts, ?_⟩
  linarith [whole.nonneg, holdsPart.nonneg]

/-- The sum of two numbers, as far as one goes. -/
theorem Holds.sum {x y : Float32} {p q : ℚ} (hx : Holds x p) (hy : Holds y q) (size : p + q ≤ 1) :
    ∃ v ≤ 1, Holds (x + y) v ∧ v ≤ (p + q) * (1001 / 1000) + 1 / 1000 := by
  have nonneg := add_nonneg hx.nonneg hy.nonneg
  have rounded := toSingle_le_add nonneg
  refine ⟨_, toSingle_le nonneg exact_one size, hx.add hy (by norm_num [limit]; linarith), ?_⟩
  norm_num at rounded
  linarith

end Single

open Single (most)

/-- The point has coordinates from zero to one. -/
theorem inUnitSquare_of_holds {point : Position} {p q : ℚ} (first : Holds point.x p) (right : p ≤ 1)
    (second : Holds point.y q) (low : q ≤ 1) : point.inUnitSquare = true := by
  have left := Single.holds_zero.le first first.nonneg
  have right := first.le Single.holds_one right
  have top := Single.holds_zero.le second second.nonneg
  have bottom := second.le Single.holds_one low
  simp [Point.inUnitSquare, left, right, top, bottom]

namespace Layout

/-- A constant, by its mantissa and exponent. -/
theorem holds_constant {x : Float32} (m : ℕ) (e : ℤ) (full : 2 ^ 23 ≤ m ∧ m < 2 ^ 24)
    (least : -149 ≤ e) (h : x.toModel.unpack = .finite .positive m e (by omega)) :
    Holds x (m * 2 ^ e) :=
  Single.holds_of_unpack _ ⟨full.2, least, .inl full.1⟩ h

theorem holds_marginLow : ∃ q ≤ 51 / 1000, Holds marginLow q :=
  ⟨_, by norm_num, holds_constant 13421773 (-28) (by norm_num) (by norm_num) rfl⟩

theorem holds_layersExtent : ∃ q ≤ 9 / 10, Holds layersExtent q :=
  ⟨_, by norm_num, holds_constant 15099494 (-24) (by norm_num) (by norm_num) rfl⟩

/-- The far corner of a cell on the grid is at most at the far edge. -/
theorem GridCell.Within.inUnitSquare {bound : ℕ} {cell : GridCell} (h : cell.Within bound)
    (few : bound ≤ most) : (cell.corner : Position).inUnitSquare = true := by
  have holds {n : ℕ} (count : n ≤ cell.cells) : Holds (n : Float32) (toSingle n) :=
    Single.holds_ofNat (Single.cast_le_limit (count.trans (h.few.trans few)))
  have one : 1 ≤ toSingle cell.cells :=
    Single.le_toSingle_of_le (by exact_mod_cast h.some) exact_one (by exact_mod_cast h.some)
  have quotient {n : ℕ} (count : n ≤ cell.cells) :
      ∃ q ≤ 1, Holds ((n : Float32) / (cell.cells : Float32)) q := by
    have order : toSingle n ≤ toSingle cell.cells :=
      toSingle_mono (Nat.cast_nonneg n) (by exact_mod_cast count)
    have below : toSingle n / toSingle cell.cells ≤ 1 := (div_le_one (by linarith)).2 order
    have divided := (holds count).div (holds le_rfl) (by linarith) (by norm_num [limit]; linarith)
    refine ⟨_, toSingle_le ?_ exact_one below, divided⟩
    exact div_nonneg (holds count).nonneg (by linarith)
  obtain ⟨p, right, first⟩ := quotient h.column
  obtain ⟨q, low, second⟩ := quotient h.row
  exact inUnitSquare_of_holds first right second low

end Layout

open Layout

/-- The corner of a cell in the layers is at most as far as the strips reach, give or take what
rounding adds. -/
theorem Cell.Within.inUnitSquare {bound : ℕ} {cell : Cell} (h : cell.Within bound)
    (few : bound ≤ most) : (cell.corner marginLow layersExtent).inUnitSquare = true := by
  obtain ⟨low, atLow, margin⟩ := holds_marginLow
  obtain ⟨extent, short, whole⟩ := holds_layersExtent
  obtain ⟨width, left, holdsWidth, holdsLeft, strips⟩ :=
    whole.one_of_parts (by linarith) h.strip (h.fewStrips.trans few)
  obtain ⟨height, above, holdsHeight, holdsAbove, rows⟩ :=
    whole.one_of_parts (by linarith) h.row (h.fewRows.trans few)
  have := holdsWidth.nonneg
  have := holdsHeight.nonneg
  have := holdsLeft.nonneg
  obtain ⟨spacing, beyond, holdsSpacing, holdsBeyond, slots⟩ :=
    holdsWidth.one_of_parts (by linarith) h.slot (h.fewSlots.trans few)
  have := holdsSpacing.nonneg
  obtain ⟨start, -, holdsStart, near⟩ := margin.sum holdsLeft (by linarith)
  obtain ⟨x, right, holdsX, -⟩ := holdsStart.sum holdsBeyond (by linarith)
  obtain ⟨y, bottom, holdsY, -⟩ := margin.sum holdsAbove (by linarith)
  have strips : max cell.strips 1 = cell.strips := max_eq_left (Nat.zero_lt_of_lt h.strip)
  unfold Cell.corner
  rw [strips]
  exact inUnitSquare_of_holds holdsX right holdsY bottom

namespace Layout

/-- A band is inside the margins. -/
def Band.Inner (band : Band) : Prop :=
  ∃ l h, Holds band.low l ∧ Holds band.high h ∧ l ≤ h ∧ h ≤ 24 / 25

theorem inner_margins : Band.Inner ⟨marginLow, marginHigh⟩ :=
  ⟨_, _, holds_constant 13421773 (-28) (by norm_num) (by norm_num) rfl,
    holds_constant 15938355 (-24) (by norm_num) (by norm_num) rfl, by norm_num, by norm_num⟩

/-- The bands are inside the margins, by the bits of their edges. -/
theorem inner_of_band? {listsInputs listsOutputs : Bool} {band : Band}
    (given : band? listsInputs listsOutputs = some band) : band.Inner := by
  cases listsInputs <;> cases listsOutputs <;> cases given
  · exact ⟨_, _, holds_constant 13421773 (-28) (by norm_num) (by norm_num) rfl,
      holds_constant 8388608 (-25) (by norm_num) (by norm_num) rfl, by norm_num, by norm_num⟩
  · exact ⟨_, _, holds_constant 12582912 (-24) (by norm_num) (by norm_num) rfl,
      holds_constant 15938355 (-24) (by norm_num) (by norm_num) rfl, by norm_num, by norm_num⟩
  · exact ⟨_, _, holds_constant 15099494 (-25) (by norm_num) (by norm_num) rfl,
      holds_constant 10905190 (-24) (by norm_num) (by norm_num) rfl, by norm_num, by norm_num⟩

/-- What is drawn has the property, whatever the words are. -/
def Always {α : Type} (d : Random.Draw α) (P : α → Prop) : Prop :=
  ∀ generator : Random.Generator, P (d.run generator).1

/-- A number drawn from a band inside the margins lies between zero and one. -/
theorem always_range {band : Band} (inner : band.Inner) :
    Always (Random.range band.low band.high) fun x => ∃ q ≤ 1, Holds x q := by
  obtain ⟨l, h, low, high, order, margin⟩ := inner
  intro generator
  exact Random.holds_range low high order margin (Random.word generator.key generator.position)

theorem always_point {first second : Random.Draw Float32}
    (across : Always first fun x => ∃ q ≤ 1, Holds x q)
    (down : Always second fun y => ∃ q ≤ 1, Holds y q) :
    Always (do return Point.mk (← first) (← second)) (Point.inUnitSquare · = true) := by
  intro generator
  obtain ⟨p, right, holdsFirst⟩ := across generator
  obtain ⟨q, bottom, holdsSecond⟩ := down (first.run generator).2
  exact inUnitSquare_of_holds holdsFirst right holdsSecond bottom

theorem always_scatterPoint : Always scatterPoint (Point.inUnitSquare · = true) := by
  have across := always_range inner_margins
  unfold scatterPoint
  exact always_point across across

theorem always_bandPoint {band : Band} (inner : band.Inner) :
    Always (bandPoint band) (Point.inUnitSquare · = true) := by
  have across := always_range inner_margins
  have down := always_range inner
  unfold bandPoint
  exact always_point across down

theorem always_placeEach {g : Graph} {draw : Fin g.size → Random.Draw Position}
    (each : ∀ i, Always (draw i) (Point.inUnitSquare · = true)) :
    Always (placeEach g draw) fun placement =>
      ∀ entry ∈ placement.entries, entry.2.inUnitSquare = true := by
  have drawn (nodes : List (Fin g.size)) (generator : Random.Generator) :
      ∀ entry ∈ (((nodes.mapM fun i => do return ((g.table.get i).id, ← draw i)) :
        Random.Draw (List (String × Position))).run generator).1, entry.2.inUnitSquare = true := by
    induction nodes generalizing generator with
    | nil =>
      intro entry member
      cases member
    | cons i nodes ih =>
      rw [List.mapM_cons]
      intro entry member
      rcases List.mem_cons.1 member with rfl | later
      · exact each i generator
      · exact ih ((draw i).run generator).2 entry later
  intro generator
  exact Keyed.forall_ofList (P := (Point.inUnitSquare · = true))
    (drawn (List.finRange g.size) generator)

/-- Every method places every node in the unit square. -/
theorem always_place {g : Graph} (few : 2 * g.size + 1 ≤ most) (method : Method) :
    Always (place g method) fun placement =>
      ∀ entry ∈ placement.entries, entry.2.inUnitSquare = true := by
  intro generator
  cases method with
  | scatter => exact always_placeEach (fun _ => always_scatterPoint) generator
  | grid =>
    apply Keyed.forall_ofList (P := (Point.inUnitSquare · = true))
    intro entry member
    obtain ⟨⟨node, place⟩, inNodes, rfl⟩ := List.mem_map.1 member
    have before : place < g.size := by
      have := List.snd_lt_of_mem_zipIdx inNodes
      rwa [Nat.add_zero] at this
    exact (within_gridCell before).inUnitSquare few
  | bands =>
    apply always_placeEach
    intro i
    split
    · rename_i band given
      exact always_bandPoint (inner_of_band? given)
    · exact always_scatterPoint
  | layers =>
    have scattered := always_placeEach (fun _ : Fin g.size => always_scatterPoint) generator
    apply Keyed.forall_insertAll (P := (Point.inUnitSquare · = true)) scattered
    intro entry member
    obtain ⟨⟨i, cell⟩, inCells, rfl⟩ := List.mem_map.1 member
    exact ((Links.ofGraph g).within_of_mem_cells inCells).inUnitSquare (by omega)

/-- No layout of so few nodes fails. -/
theorem run_compute_eq_ok {g : Graph} (few : 2 * g.size + 1 ≤ most) (method : Method)
    (generator : Random.Generator) :
    ((compute g method).run generator).1 = .ok ((place g method).run generator).1 :=
  run_compute_of_inside (always_place few method generator)

end Layout
end IrChart
