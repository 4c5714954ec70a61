import Mathlib.Algebra.Order.Floor.Ring
import Mathlib.Algebra.Order.Round
import Mathlib.Data.Int.Log
import Mathlib.Data.Rat.Floor
import Mathlib.Tactic.FieldSimp
import Mathlib.Tactic.Linarith
import Mathlib.Tactic.NormNum
import Mathlib.Tactic.Positivity
import Mathlib.Tactic.Ring

/-!
# Rounding to single precision

Single precision has the numbers `m * 2 ^ e` with `m < 2 ^ 24` and `-149 ≤ e` (`Exact`), as far as
they are not too large. A number is rounded to the nearest multiple of a power of two that depends
on its size (`unit`). Rounding keeps the order, keeps exact numbers, and changes others by little
(`toSingle_mono`, `toSingle_of_exact`, `toSingle_le_add`, `sub_le_toSingle`).
-/

namespace IrChart.Single

/-- The whole number nearest to `q`, the even one of two. -/
def nearest (q : ℚ) : ℤ :=
  if Int.fract q < 1 / 2 then ⌊q⌋
  else if 1 / 2 < Int.fract q then ⌊q⌋ + 1
  else if Even ⌊q⌋ then ⌊q⌋ else ⌊q⌋ + 1

theorem floor_le_nearest (q : ℚ) : ⌊q⌋ ≤ nearest q := by
  unfold nearest
  split_ifs <;> omega

theorem nearest_le_floor_add_one (q : ℚ) : nearest q ≤ ⌊q⌋ + 1 := by
  unfold nearest
  split_ifs <;> omega

@[simp] theorem nearest_intCast (n : ℤ) : nearest n = n := by
  simp [nearest]

theorem nearest_mono {p q : ℚ} (h : p ≤ q) : nearest p ≤ nearest q := by
  rcases (Int.floor_mono h).lt_or_eq with below | same
  · have := nearest_le_floor_add_one p
    have := floor_le_nearest q
    omega
  · have fract : Int.fract p ≤ Int.fract q := by
      rw [Int.fract, Int.fract, same]
      linarith
    unfold nearest
    rw [same]
    split_ifs <;> first | omega | linarith

/-- The numbers of single precision, and larger ones with as many digits. -/
def Exact (q : ℚ) : Prop := ∃ (m : ℕ) (e : ℤ), m < 2 ^ 24 ∧ -149 ≤ e ∧ q = m * 2 ^ e

theorem exact_zero : Exact 0 := ⟨0, 0, by norm_num, by norm_num, by norm_num⟩

theorem exact_one : Exact 1 := ⟨1, 0, by norm_num, by norm_num, by norm_num⟩

theorem exact_zpow {k : ℤ} (h : -149 ≤ k) : Exact (2 ^ k) := ⟨1, k, by norm_num, h, by norm_num⟩

/-- Numbers of the size of `q` are rounded to multiples of `2 ^ unit q`. -/
def unit (q : ℚ) : ℤ := max (Int.log 2 q - 23) (-149)

/-- The number of single precision that is nearest to `q`, for `q` that is not negative. -/
def toSingle (q : ℚ) : ℚ := nearest (q / 2 ^ unit q) * 2 ^ unit q

theorem two_zpow_pos (k : ℤ) : (0 : ℚ) < 2 ^ k := zpow_pos (by norm_num) k

@[simp] theorem toSingle_zero : toSingle 0 = 0 := by
  simp [toSingle, nearest]

theorem unit_mono {p q : ℚ} (pos : 0 < p) (h : p ≤ q) : unit p ≤ unit q := by
  have := Int.log_mono_right (b := 2) pos h
  unfold unit
  omega

/-- Above the least unit the unit says how large a number is. -/
theorem zpow_le_of_lt_unit {q : ℚ} {k : ℤ} (pos : 0 < q) (least : -149 ≤ k) (h : k < unit q) :
    (2 : ℚ) ^ (k + 24) ≤ q := by
  have log : k + 24 ≤ Int.log 2 q := by
    unfold unit at h
    omega
  calc (2 : ℚ) ^ (k + 24) ≤ (2 : ℚ) ^ Int.log 2 q := zpow_le_zpow_right₀ (by norm_num) log
    _ ≤ q := Int.zpow_log_le_self (by norm_num) pos

theorem mul_zpow_lt {m : ℕ} {e : ℤ} (small : m < 2 ^ 24) : (m : ℚ) * 2 ^ e < 2 ^ (e + 24) := by
  have : (m : ℚ) < 2 ^ 24 := by exact_mod_cast small
  calc (m : ℚ) * 2 ^ e < 2 ^ 24 * 2 ^ e := mul_lt_mul_of_pos_right this (two_zpow_pos e)
    _ = 2 ^ (e + 24) := by
      rw [add_comm, zpow_add₀ (by norm_num)]
      norm_num

/-- An exact number is a multiple of any unit that is not above its own. -/
theorem exists_intCast_eq_div {m : ℕ} {e k : ℤ} (h : k ≤ e) :
    ∃ n : ℤ, (m : ℚ) * 2 ^ e / 2 ^ k = n := by
  refine ⟨m * 2 ^ (e - k).toNat, ?_⟩
  have split : (2 : ℚ) ^ e = 2 ^ (e - k).toNat * 2 ^ k := by
    rw [← zpow_natCast, ← zpow_add₀ (by norm_num)]
    congr 1
    omega
  have := (two_zpow_pos k).ne'
  push_cast
  rw [split]
  field_simp

/-- Rounding does not pass an exact number on the way up. -/
theorem toSingle_le_of_pos {q y : ℚ} (pos : 0 < q) (exact : Exact y) (h : q ≤ y) :
    toSingle q ≤ y := by
  obtain ⟨m, e, small, least, rfl⟩ := exact
  have fine : unit q ≤ e := by
    by_contra above
    have := zpow_le_of_lt_unit pos least (not_le.1 above)
    have := mul_zpow_lt (e := e) small
    linarith
  obtain ⟨n, multiple⟩ := exists_intCast_eq_div (m := m) fine
  have below : q / 2 ^ unit q ≤ (n : ℚ) := by
    rw [← multiple]
    exact div_le_div_of_nonneg_right h (two_zpow_pos _).le
  have rounded : (nearest (q / 2 ^ unit q) : ℚ) ≤ n := by
    have := nearest_mono below
    rw [nearest_intCast] at this
    exact_mod_cast this
  calc toSingle q ≤ n * 2 ^ unit q := mul_le_mul_of_nonneg_right rounded (two_zpow_pos _).le
    _ = m * 2 ^ e := by rw [← multiple, div_mul_cancel₀ _ (two_zpow_pos _).ne']

/-- Rounding does not pass an exact number on the way down. -/
theorem le_toSingle_of_le {q y : ℚ} (pos : 0 < q) (exact : Exact y) (h : y ≤ q) :
    y ≤ toSingle q := by
  obtain ⟨m, e, small, least, rfl⟩ := exact
  -- A number with a finer unit lies below the least number of the unit of `q`.
  have reached (m : ℕ) (e : ℤ) (fine : unit q ≤ e) (h : (m : ℚ) * 2 ^ e ≤ q) :
      (m : ℚ) * 2 ^ e ≤ toSingle q := by
    obtain ⟨n, multiple⟩ := exists_intCast_eq_div (m := m) fine
    have above : (n : ℚ) ≤ q / 2 ^ unit q := by
      rw [← multiple]
      exact div_le_div_of_nonneg_right h (two_zpow_pos _).le
    have rounded : (n : ℚ) ≤ nearest (q / 2 ^ unit q) := by
      have := nearest_mono above
      rw [nearest_intCast] at this
      exact_mod_cast this
    calc (m : ℚ) * 2 ^ e = n * 2 ^ unit q := by
          rw [← multiple, div_mul_cancel₀ _ (two_zpow_pos _).ne']
      _ ≤ toSingle q := mul_le_mul_of_nonneg_right rounded (two_zpow_pos _).le
  rcases le_or_gt (unit q) e with fine | coarse
  · exact reached m e fine h
  · have large := zpow_le_of_lt_unit (k := unit q - 1) pos (by omega) (by omega)
    have short : (1 : ℕ) * (2 : ℚ) ^ (unit q - 1 + 24) ≤ q := by simpa using large
    have := reached 1 (unit q - 1 + 24) (by omega) short
    have less := mul_zpow_lt (e := e) small
    have : (2 : ℚ) ^ (e + 24) ≤ 2 ^ (unit q - 1 + 24) :=
      zpow_le_zpow_right₀ (by norm_num) (by omega)
    rw [Nat.cast_one, one_mul] at *
    linarith

theorem toSingle_nonneg {q : ℚ} (h : 0 ≤ q) : 0 ≤ toSingle q := by
  rcases h.eq_or_lt with rfl | pos
  · rw [toSingle_zero]
  · exact le_toSingle_of_le pos exact_zero h

theorem toSingle_le {q y : ℚ} (nonneg : 0 ≤ q) (exact : Exact y) (h : q ≤ y) : toSingle q ≤ y := by
  rcases nonneg.eq_or_lt with rfl | pos
  · rwa [toSingle_zero]
  · exact toSingle_le_of_pos pos exact h

/-- Exact numbers are kept. -/
theorem toSingle_of_exact {q : ℚ} (nonneg : 0 ≤ q) (exact : Exact q) : toSingle q = q := by
  rcases nonneg.eq_or_lt with rfl | pos
  · exact toSingle_zero
  · exact le_antisymm (toSingle_le_of_pos pos exact le_rfl) (le_toSingle_of_le pos exact le_rfl)

/-- Rounding keeps the order. -/
theorem toSingle_mono {p q : ℚ} (nonneg : 0 ≤ p) (h : p ≤ q) : toSingle p ≤ toSingle q := by
  rcases nonneg.eq_or_lt with rfl | pos
  · rw [toSingle_zero]
    exact toSingle_nonneg h
  rcases (unit_mono pos h).lt_or_eq with below | same
  · -- A power of two stands between them.
    have least : -149 ≤ unit p := le_max_right ..
    have large := zpow_le_of_lt_unit (pos.trans_le h) (k := unit q - 1) (by omega) (by omega)
    have power : Exact ((2 : ℚ) ^ (unit q - 1 + 24)) := exact_zpow (by omega)
    have small : p ≤ 2 ^ (unit q - 1 + 24) := by
      have log : Int.log 2 p < unit q - 1 + 24 := by
        have : Int.log 2 p - 23 ≤ unit p := le_max_left ..
        omega
      exact ((Int.lt_zpow_iff_log_lt (by norm_num) pos).2 log).le
    exact (toSingle_le_of_pos pos power small).trans
      (le_toSingle_of_le (pos.trans_le h) power large)
  · have : nearest (p / 2 ^ unit p) ≤ nearest (q / 2 ^ unit p) :=
      nearest_mono (div_le_div_of_nonneg_right h (two_zpow_pos _).le)
    unfold toSingle
    rw [← same]
    exact mul_le_mul_of_nonneg_right (by exact_mod_cast this) (two_zpow_pos _).le

/-- A unit is small, or the least there is. -/
theorem zpow_unit_le {q : ℚ} (pos : 0 < q) : (2 : ℚ) ^ unit q ≤ q / 2 ^ 23 + 1 / 2 ^ 149 := by
  unfold unit
  rcases max_cases (Int.log 2 q - 23) (-149) with ⟨same, -⟩ | ⟨same, -⟩
  · have size : (2 : ℚ) ^ Int.log 2 q ≤ q := Int.zpow_log_le_self (by norm_num) pos
    have split : (2 : ℚ) ^ (Int.log 2 q - 23) = 2 ^ Int.log 2 q / 2 ^ 23 := by
      rw [zpow_sub₀ (by norm_num)]
      norm_num
    rw [same, split]
    have := div_le_div_of_nonneg_right size (by norm_num : (0 : ℚ) ≤ 2 ^ 23)
    have : (0 : ℚ) ≤ 1 / 2 ^ 149 := by positivity
    linarith
  · have : (2 : ℚ) ^ (-149 : ℤ) = 1 / 2 ^ 149 := by norm_num
    rw [same, this]
    have : 0 ≤ q / 2 ^ 23 := by positivity
    linarith

theorem toSingle_le_add {q : ℚ} (nonneg : 0 ≤ q) : toSingle q ≤ q + (q / 2 ^ 23 + 1 / 2 ^ 149) := by
  rcases nonneg.eq_or_lt with rfl | pos
  · rw [toSingle_zero]
    positivity
  · have up : (nearest (q / 2 ^ unit q) : ℚ) ≤ q / 2 ^ unit q + 1 := by
      have : (nearest (q / 2 ^ unit q) : ℚ) ≤ ⌊q / 2 ^ unit q⌋ + 1 := by
        exact_mod_cast nearest_le_floor_add_one _
      have := Int.floor_le (q / 2 ^ unit q)
      linarith
    calc toSingle q ≤ (q / 2 ^ unit q + 1) * 2 ^ unit q :=
          mul_le_mul_of_nonneg_right up (two_zpow_pos _).le
      _ = q + 2 ^ unit q := by rw [add_mul, div_mul_cancel₀ _ (two_zpow_pos _).ne', one_mul]
      _ ≤ q + (q / 2 ^ 23 + 1 / 2 ^ 149) := by linarith [zpow_unit_le pos]

theorem sub_le_toSingle {q : ℚ} (nonneg : 0 ≤ q) : q - (q / 2 ^ 23 + 1 / 2 ^ 149) ≤ toSingle q := by
  rcases nonneg.eq_or_lt with rfl | pos
  · rw [toSingle_zero]
    norm_num
  · have down : q / 2 ^ unit q - 1 ≤ (nearest (q / 2 ^ unit q) : ℚ) := by
      have : (⌊q / 2 ^ unit q⌋ : ℚ) ≤ nearest (q / 2 ^ unit q) := by
        exact_mod_cast floor_le_nearest _
      have := Int.lt_floor_add_one (q / 2 ^ unit q)
      linarith
    calc q - (q / 2 ^ 23 + 1 / 2 ^ 149) ≤ q - 2 ^ unit q := by linarith [zpow_unit_le pos]
      _ = (q / 2 ^ unit q - 1) * 2 ^ unit q := by
        rw [sub_mul, div_mul_cancel₀ _ (two_zpow_pos _).ne', one_mul]
      _ ≤ toSingle q := mul_le_mul_of_nonneg_right down (two_zpow_pos _).le

end IrChart.Single
