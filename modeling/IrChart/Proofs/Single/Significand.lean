import IrChart.Proofs.Single.Rounding
import Mathlib

/-!
# Rounding in the float model

The model of floating-point numbers rounds a mantissa by shifting bits out of it, of which it keeps
the last one and whether there was any other. `Shows` says which number such a mantissa stands
for, and `stands_roundWithAccuracy` that the model rounds to the nearest number of single
precision.
-/

namespace IrChart.Single
open Float.Model Float.Model.UnpackedFloat

/-- The mantissa with its two further bits stands for `q`: the bits tell where the fraction of `q`
lies, from `0` to `1 / 2` to `1`. -/
structure Shows (em : ExtendedMantissa) (q : ℚ) : Prop where
  floor : ⌊q⌋ = em.mantissa
  roundBit : em.roundBit = true ↔ 1 / 2 ≤ Int.fract q
  stickyBit : em.stickyBit = true ↔ Int.fract q ≠ 0 ∧ Int.fract q ≠ 1 / 2

/-- A mantissa is rounded to the number that is nearest to what it stands for. -/
theorem Shows.roundedMantissa {em : ExtendedMantissa} {q : ℚ} (h : Shows em q) :
    (em.roundedMantissa : ℤ) = nearest q := by
  obtain ⟨mantissa, roundBit, stickyBit⟩ := em
  obtain ⟨floor, half, between⟩ := h
  have nonneg := Int.fract_nonneg q
  simp only at floor half between
  rw [nearest, floor]
  cases roundBit <;> cases stickyBit <;>
    simp only [Bool.false_eq_true, true_iff, false_iff, not_le, not_and_or, not_not] at half between
  · rw [if_pos half]
    rfl
  · rw [if_pos half]
    rfl
  · have tie : Int.fract q = 1 / 2 := by
      rcases between with zero | tie
      · linarith
      · exact tie
    rw [tie, if_neg (lt_irrefl _), if_neg (lt_irrefl _)]
    show ((mantissa + mantissa % 2 : ℕ) : ℤ) = _
    by_cases even : Even mantissa
    · rw [if_pos (by exact_mod_cast even), Nat.even_iff.1 even]
      rfl
    · rw [if_neg (by exact_mod_cast even), Nat.not_even_iff.1 even]
      rfl
  · have above : 1 / 2 < Int.fract q := lt_of_le_of_ne half (Ne.symm between.2)
    rw [if_neg (not_lt.2 half), if_pos above]
    rfl

/-- Rounding does not pass a whole number on the way up. -/
theorem Shows.roundedMantissa_le {em : ExtendedMantissa} {q : ℚ} (h : Shows em q) {n : ℕ}
    (below : q ≤ n) : em.roundedMantissa ≤ n := by
  have rounded := nearest_mono (q := ((n : ℤ) : ℚ)) (by exact_mod_cast below)
  rw [nearest_intCast, ← h.roundedMantissa] at rounded
  exact_mod_cast rounded

/-- Rounding does not pass a whole number on the way down. -/
theorem Shows.le_roundedMantissa {em : ExtendedMantissa} {q : ℚ} (h : Shows em q) {n : ℕ}
    (above : n ≤ q) : n ≤ em.roundedMantissa := by
  have rounded := nearest_mono (p := ((n : ℤ) : ℚ)) (by exact_mod_cast above)
  rw [nearest_intCast, ← h.roundedMantissa] at rounded
  exact_mod_cast rounded

theorem Shows.shiftRightOne {em : ExtendedMantissa} {q : ℚ} (h : Shows em q) :
    Shows em.shiftRightOne (q / 2) := by
  obtain ⟨mantissa, roundBit, stickyBit⟩ := em
  obtain ⟨floor, half, between⟩ := h
  simp only at floor half between
  obtain ⟨k, bit, binary, rfl⟩ : ∃ k bit, (bit = 0 ∨ bit = 1) ∧ mantissa = 2 * k + bit :=
    ⟨mantissa / 2, mantissa % 2, Nat.mod_two_eq_zero_or_one mantissa, by omega⟩
  have quotient : (2 * k + bit) / 2 = k := by omega
  have remainder : (2 * k + bit) % 2 = bit := by omega
  have nonneg := Int.fract_nonneg q
  have less := Int.fract_lt_one q
  have whole : q = 2 * k + bit + Int.fract q := by
    have := Int.floor_add_fract q
    rw [floor] at this
    exact_mod_cast this.symm
  have floor' : ⌊q / 2⌋ = (k : ℤ) := by
    rw [Int.floor_eq_iff]
    push_cast
    rcases binary with rfl | rfl <;> push_cast at whole <;> constructor <;> linarith
  have fract : Int.fract (q / 2) = (bit + Int.fract q) / 2 := by
    have := Int.floor_add_fract (q / 2)
    rw [floor'] at this
    push_cast at this
    linarith
  refine ⟨?_, ?_, ?_⟩
  · show ⌊q / 2⌋ = (((2 * k + bit) / 2 : ℕ) : ℤ)
    rw [quotient, floor']
  · show ((2 * k + bit) % 2 != 0) = true ↔ _
    rw [remainder, fract]
    rcases binary with rfl | rfl <;> simp <;> linarith
  · -- The bit that is shifted out and the ones before it are the new fraction.
    show (roundBit || stickyBit) = true ↔ _
    have some : (roundBit || stickyBit) = true ↔ Int.fract q ≠ 0 := by
      rw [Bool.or_eq_true, half, between]
      by_cases above : 1 / 2 ≤ Int.fract q
      · exact ⟨fun _ zero => by linarith, fun _ => .inl above⟩
      · exact ⟨fun given => (given.resolve_left above).1,
          fun nonzero => .inr ⟨nonzero, fun tie => above tie.ge⟩⟩
    rw [some, fract, ← not_iff_not, not_not, not_and_or, not_not, not_not]
    rcases binary with rfl | rfl <;> push_cast
    · constructor
      · intro zero
        exact .inl (by linarith)
      · rintro (zero | half) <;> linarith
    · constructor
      · intro zero
        exact .inr (by linarith)
      · rintro (zero | half) <;> linarith

/-- Shifting a mantissa divides what it stands for. -/
theorem Shows.shiftRight {em : ExtendedMantissa} {q : ℚ} (h : Shows em q) (n : ℕ) :
    Shows (em >>> n) (q / 2 ^ n) := by
  induction n with
  | zero =>
    rw [pow_zero, div_one]
    exact h
  | succ n ih =>
    rw [pow_succ, ← div_div]
    exact ih.shiftRightOne

/-- A mantissa is known as accurately as some fraction tells. -/
def Accurate (accuracy : Accuracy) (f : ℚ) : Prop :=
  match accuracy with
  | .exact => f = 0
  | .inexact .lt => 0 < f ∧ f < 1 / 2
  | .inexact .eq => f = 1 / 2
  | .inexact .gt => 1 / 2 < f ∧ f < 1

theorem accurate_exact : Accurate .exact 0 := rfl

theorem Accurate.nonneg {accuracy : Accuracy} {f : ℚ} (h : Accurate accuracy f) : 0 ≤ f := by
  unfold Accurate at h
  split at h <;> linarith

theorem Accurate.lt_one {accuracy : Accuracy} {f : ℚ} (h : Accurate accuracy f) : f < 1 := by
  unfold Accurate at h
  split at h <;> linarith

theorem Accurate.shows {accuracy : Accuracy} {f : ℚ} (h : Accurate accuracy f) (m : ℕ) :
    Shows (.ofMantissaAndAccuracy m accuracy) (m + f) := by
  have floor : ⌊(m : ℚ) + f⌋ = m := by
    rw [Int.floor_eq_iff]
    push_cast
    constructor <;> linarith [h.nonneg, h.lt_one]
  have fract : Int.fract ((m : ℚ) + f) = f := by
    rw [Int.fract, floor]
    push_cast
    ring
  cases accuracy with
  | exact =>
    have zero : f = 0 := h
    refine ⟨floor, ?_, ?_⟩ <;> rw [fract]
    · exact iff_of_false Bool.false_ne_true (by rw [zero]; norm_num)
    · exact iff_of_false Bool.false_ne_true fun between => between.1 zero
  | inexact order =>
    cases order with
    | lt =>
      obtain ⟨pos, below⟩ : 0 < f ∧ f < 1 / 2 := h
      refine ⟨floor, ?_, ?_⟩ <;> rw [fract]
      · exact iff_of_false Bool.false_ne_true (not_le.2 below)
      · exact iff_of_true rfl ⟨pos.ne', below.ne⟩
    | eq =>
      have tie : f = 1 / 2 := h
      refine ⟨floor, ?_, ?_⟩ <;> rw [fract]
      · exact iff_of_true rfl tie.ge
      · exact iff_of_false Bool.false_ne_true fun between => between.2 tie
    | gt =>
      obtain ⟨above, -⟩ : 1 / 2 < f ∧ f < 1 := h
      refine ⟨floor, ?_, ?_⟩ <;> rw [fract]
      · exact iff_of_true rfl above.le
      · exact iff_of_true rfl ⟨fun zero => by linarith, above.ne'⟩

/-! ### Rounding of a mantissa -/

/-- The mantissa and the exponent that the model gives to a number of single precision. -/
structure Canonical (m : ℕ) (e : ℤ) : Prop where
  small : m < 2 ^ 24
  least : -149 ≤ e
  full : 2 ^ 23 ≤ m ∨ e = -149

/-- A float of the model that is not negative, and the number that it stands for. -/
inductive Stands : UnpackedFloat → ℚ → Prop where
  | zero : Stands (.zero .positive) 0
  | finite {m : ℕ} {e : ℤ} (pos : 0 < m) (canonical : Canonical m e) :
      Stands (.finite .positive m e pos) (m * 2 ^ e)

theorem Stands.nonneg {u : UnpackedFloat} {q : ℚ} (h : Stands u q) : 0 ≤ q := by
  cases h with
  | zero => exact le_rfl
  | finite pos canonical => exact mul_nonneg (Nat.cast_nonneg _) (two_zpow_pos _).le

theorem Stands.exact {u : UnpackedFloat} {q : ℚ} (h : Stands u q) : Exact q := by
  cases h with
  | zero => exact exact_zero
  | finite pos canonical => exact ⟨_, _, canonical.small, canonical.least, rfl⟩

theorem targetExponent_eq (m : ℕ) (e : ℤ) :
    Format.binary32.targetExponent (totalExponent m e) = max (m.log2 + e - 23) (-149) := by
  simp only [Format.targetExponent, totalExponent, Format.mantissaBits, Format.minExponent]
  norm_num
  omega

theorem log_eq {q : ℚ} {k : ℤ} (low : 2 ^ k ≤ q) (high : q < 2 ^ (k + 1)) :
    Int.log 2 q = k := by
  have pos : 0 < q := (two_zpow_pos k).trans_le low
  have := (Int.zpow_le_iff_le_log (b := 2) (by norm_num) pos).1 low
  have := (Int.lt_zpow_iff_log_lt (b := 2) (by norm_num) pos).1 high
  omega

/-- The model rounds to multiples of the unit. -/
theorem unit_eq_targetExponent {m : ℕ} {e : ℤ} {f : ℚ} (nonneg : 0 ≤ f) (less : f < 1)
    (bits : 0 < m ∨ e ≤ -149) (pos : 0 < (m + f) * 2 ^ e) :
    unit ((m + f) * 2 ^ e) = Format.binary32.targetExponent (totalExponent m e) := by
  rw [targetExponent_eq, unit]
  rcases m.eq_zero_or_pos with rfl | some
  · have low : e ≤ -149 := bits.resolve_left (lt_irrefl 0)
    have below : ((0 : ℕ) + f) * 2 ^ e < (2 : ℚ) ^ e := by
      rw [Nat.cast_zero, zero_add]
      exact (mul_lt_iff_lt_one_left (two_zpow_pos e)).2 less
    have := (Int.lt_zpow_iff_log_lt (b := 2) (by norm_num) pos).1 below
    have : Nat.log2 0 = 0 := by decide
    omega
  · have low : ((2 ^ m.log2 : ℕ) : ℚ) ≤ m := by exact_mod_cast Nat.log2_self_le some.ne'
    have high : (m : ℚ) + 1 ≤ (2 ^ (m.log2 + 1) : ℕ) := by
      exact_mod_cast Nat.lt_log2_self
    have log : Int.log 2 ((m + f) * 2 ^ e) = m.log2 + e := by
      apply log_eq
      · rw [zpow_add₀ (by norm_num), zpow_natCast]
        push_cast at low
        exact mul_le_mul_of_nonneg_right (by linarith) (two_zpow_pos e).le
      · rw [add_right_comm, zpow_add₀ (by norm_num)]
        push_cast at high
        have below : (m : ℚ) + f < 2 ^ (m.log2 + 1) := by linarith
        exact mul_lt_mul_of_pos_right (by exact_mod_cast below) (two_zpow_pos e)
    rw [log]

theorem shiftToTargetExponent_of_lt {r : ℕ} {t : ℤ} (small : r < 2 ^ 24) (least : -149 ≤ t) :
    shiftToTargetExponent Format.binary32 r t .exact = (⟨r, false, false⟩, t) := by
  have log : r.log2 ≤ 23 := by
    rcases r.eq_zero_or_pos with rfl | pos
    · decide
    · have := (Nat.log2_lt pos.ne').2 small
      omega
  have stays : (Format.binary32.targetExponent (totalExponent r t) - t).toNat = 0 := by
    rw [targetExponent_eq]
    omega
  rw [shiftToTargetExponent, shiftToExponent, stays]
  simp [HShiftRight.hShiftRight, Nat.repeat, ExtendedMantissa.ofMantissaAndAccuracy]

theorem shiftToTargetExponent_of_eq {t : ℤ} (least : -149 ≤ t) :
    shiftToTargetExponent Format.binary32 (2 ^ 24) t .exact = (⟨2 ^ 23, false, false⟩, t + 1) := by
  have log : (2 ^ 24).log2 = 24 := Nat.log2_two_pow
  have one : (Format.binary32.targetExponent (totalExponent (2 ^ 24) t) - t).toNat = 1 := by
    rw [targetExponent_eq, log]
    omega
  rw [shiftToTargetExponent, shiftToExponent, one]
  rfl

/-- A rounded mantissa may have one bit too many, which is shifted out. -/
theorem stands_shiftToTargetExponent {r : ℕ} {t : ℤ} (bound : r ≤ 2 ^ 24) (least : -149 ≤ t)
    (full : 2 ^ 23 ≤ r ∨ t = -149) :
    Stands
      (if h : (shiftToTargetExponent Format.binary32 r t .exact).1.mantissa = 0 then .zero .positive
        else .finite .positive (shiftToTargetExponent Format.binary32 r t .exact).1.mantissa
          (shiftToTargetExponent Format.binary32 r t .exact).2 (Nat.pos_of_ne_zero h))
      (r * 2 ^ t) := by
  rcases bound.lt_or_eq with small | rfl
  · rw [shiftToTargetExponent_of_lt small least]
    split
    · rename_i zero
      rw [show r = 0 from zero, Nat.cast_zero, zero_mul]
      exact Stands.zero
    · exact Stands.finite _ ⟨small, least, full⟩
  · have carried : ((2 ^ 24 : ℕ) : ℚ) * 2 ^ t = (2 ^ 23 : ℕ) * 2 ^ (t + 1) := by
      rw [zpow_add₀ (by norm_num)]
      norm_num
      ring
    rw [shiftToTargetExponent_of_eq least, carried, dif_neg (by norm_num)]
    exact Stands.finite _ ⟨by norm_num, by omega, .inl le_rfl⟩

/-- A mantissa in the unit of a number is rounded like that number. -/
theorem Shows.toSingle_eq {em : ExtendedMantissa} {q p : ℚ} {t : ℤ} (h : Shows em p)
    (scaled : q / 2 ^ t = p) (nonneg : 0 ≤ q) (unit : 0 < q → unit q = t) :
    toSingle q = em.roundedMantissa * 2 ^ t := by
  have rounded := h.roundedMantissa
  rcases nonneg.eq_or_lt with rfl | pos
  · rw [← scaled, zero_div] at rounded
    have none : em.roundedMantissa = 0 := by
      have : nearest 0 = 0 := nearest_intCast 0
      omega
    rw [toSingle_zero, none, Nat.cast_zero, zero_mul]
  · rw [toSingle, unit pos, scaled, ← rounded]
    norm_cast

/-- The model rounds a mantissa to the nearest number of single precision, if it has bits enough. -/
theorem stands_roundWithAccuracy {m : ℕ} {e : ℤ} {f : ℚ} {accuracy : Accuracy}
    (accurate : Accurate accuracy f) (bits : 0 < m ∨ e ≤ -149)
    (fine : e ≤ Format.binary32.targetExponent (totalExponent m e)) :
    Stands (roundWithAccuracy Format.binary32 .positive m e accuracy)
      (toSingle ((m + f) * 2 ^ e)) := by
  have target := targetExponent_eq m e
  generalize exponent : Format.binary32.targetExponent (totalExponent m e) = t at fine target
  have nonneg := accurate.nonneg
  have less := accurate.lt_one
  let k := (t - e).toNat
  have sum : e + k = t := by omega
  let em := ExtendedMantissa.ofMantissaAndAccuracy m accuracy >>> k
  have shift : shiftToTargetExponent Format.binary32 m e accuracy = (em, t) := by
    rw [shiftToTargetExponent, exponent, shiftToExponent]
    exact congrArg (Prod.mk em) sum
  have shows : Shows em ((m + f) / 2 ^ k) := (accurate.shows m).shiftRight k
  have scaled : ((m : ℚ) + f) * 2 ^ e / 2 ^ t = (m + f) / 2 ^ k := by
    have := (two_zpow_pos e).ne'
    rw [← sum, zpow_add₀ (by norm_num), zpow_natCast]
    field_simp
  have value : toSingle ((m + f) * 2 ^ e) = em.roundedMantissa * 2 ^ t := by
    have size : 0 ≤ ((m : ℚ) + f) * 2 ^ e :=
      mul_nonneg (add_nonneg m.cast_nonneg nonneg) (two_zpow_pos e).le
    apply shows.toSingle_eq scaled size
    intro pos
    rw [unit_eq_targetExponent nonneg less bits pos, exponent]
  have bound : em.roundedMantissa ≤ 2 ^ 24 := by
    have high : (m : ℚ) + 1 ≤ 2 ^ (m.log2 + 1) := by exact_mod_cast Nat.lt_log2_self
    have wide : (2 : ℚ) ^ (m.log2 + 1) ≤ 2 ^ (24 + k) :=
      pow_le_pow_right₀ (by norm_num) (by omega)
    apply shows.roundedMantissa_le
    rw [div_le_iff₀ (by positivity)]
    rw [pow_add (2 : ℚ) 24 k] at wide
    push_cast
    linarith
  have full : 2 ^ 23 ≤ em.roundedMantissa ∨ t = -149 := by
    by_cases least : t = -149
    · exact .inr least
    · have some : m ≠ 0 := by
        rintro rfl
        have := bits.resolve_left (lt_irrefl 0)
        have : Nat.log2 0 = 0 := by decide
        omega
      have low : (2 : ℚ) ^ m.log2 ≤ m := by exact_mod_cast Nat.log2_self_le some
      have length : m.log2 = 23 + k := by omega
      left
      apply shows.le_roundedMantissa
      rw [le_div_iff₀ (by positivity)]
      rw [length, pow_add] at low
      push_cast
      linarith
  have stands := stands_shiftToTargetExponent bound (by omega) full
  rw [value]
  unfold roundWithAccuracy
  rw [shift]
  exact stands

theorem log2_shiftLeft {m : ℕ} (pos : 0 < m) (s : ℕ) : (m <<< s).log2 = m.log2 + s := by
  have low := Nat.log2_self_le pos.ne'
  have high := Nat.lt_log2_self (n := m)
  rw [Nat.shiftLeft_eq, Nat.log2_eq_iff (by positivity), pow_add, Nat.add_right_comm, pow_add]
  exact ⟨Nat.mul_le_mul_right _ low, Nat.mul_lt_mul_of_pos_right high (by positivity)⟩

theorem shiftLeft_mul_zpow (m s : ℕ) (e : ℤ) : ((m <<< s : ℕ) : ℚ) * 2 ^ (e - s) = m * 2 ^ e := by
  have := (two_zpow_pos s).ne'
  rw [Nat.shiftLeft_eq, zpow_sub₀ (by norm_num), zpow_natCast]
  push_cast
  field_simp

/-- The model rounds every number that it is given as a mantissa and an exponent. -/
theorem stands_round {m : ℕ} (pos : 0 < m) (e : ℤ) :
    Stands (UnpackedFloat.round Format.binary32 .positive m e) (toSingle (m * 2 ^ e)) := by
  let s := (e - Format.binary32.targetExponent (totalExponent m e)).toNat
  have length := log2_shiftLeft pos s
  have bits : 0 < m <<< s := by
    rw [Nat.shiftLeft_eq]
    positivity
  have target := targetExponent_eq m e
  have target' := targetExponent_eq (m <<< s) (e - s)
  have fine : e - s ≤ Format.binary32.targetExponent (totalExponent (m <<< s) (e - s)) := by
    rw [target', length]
    omega
  have stands := stands_roundWithAccuracy accurate_exact (.inl bits) fine
  rw [add_zero, shiftLeft_mul_zpow] at stands
  exact stands

/-- The model rounds sums. -/
theorem stands_normalize {m : ℤ} (nonneg : 0 ≤ m) (e : ℤ) :
    Stands (Float.Model.UnpackedFloat.normalize Format.binary32 m e .positive)
      (toSingle (m * 2 ^ e)) := by
  unfold Float.Model.UnpackedFloat.normalize
  rcases nonneg.eq_or_lt with rfl | pos
  · rw [Int.cast_zero, zero_mul, toSingle_zero]
    exact Stands.zero
  · rw [Int.compare_eq_gt.2 pos]
    have cast : ((m.toNat : ℕ) : ℚ) = m := by exact_mod_cast Int.toNat_of_nonneg nonneg
    rw [← cast]
    exact stands_round (by omega) e

end IrChart.Single
