import IrChart.Proofs.Single.Packing

/-!
# Arithmetic in single precision

`Holds x q` says that the float `x` is the number `q`. Each operation on floats that are not
negative gives the nearest number of single precision to the exact result, unless that is too
large.
-/

namespace IrChart.Single
open Float.Model (Format totalExponent)
open Float.Model.UnpackedFloat

/-- The float is the number `q`, and not negative. -/
def Holds (x : Float32) (q : ℚ) : Prop := Stands x.toModel.unpack q

theorem Holds.nonneg {x : Float32} {q : ℚ} (h : Holds x q) : 0 ≤ q := Stands.nonneg h

theorem Holds.exact {x : Float32} {q : ℚ} (h : Holds x q) : Exact q := Stands.exact h

/-- Numbers above this one may be too large for a float. -/
def limit : ℚ := 2 ^ 127

theorem toSingle_le_limit {q : ℚ} (nonneg : 0 ≤ q) (size : q ≤ limit) : toSingle q < 2 ^ 128 := by
  have : toSingle q ≤ limit := toSingle_le nonneg (exact_zpow (k := 127) (by norm_num)) size
  have : limit < 2 ^ 128 := by norm_num [limit]
  linarith

/-- The result of an operation is packed. -/
theorem holds_pack {u : Float.Model.UnpackedFloat} {q : ℚ} (h : Stands u (toSingle q))
    (nonneg : 0 ≤ q) (size : q ≤ limit) : Holds (.ofModel (.pack u)) (toSingle q) := by
  have unpacked : (Float32.Model.pack u).unpack = u := unpack_pack h (toSingle_le_limit nonneg size)
  rwa [Holds, unpacked]

/-- The mantissas of two numbers with a common exponent. -/
theorem decreaseExponent_mul_zpow {m : ℕ} {e t : ℤ} (h : t ≤ e) :
    (((decreaseExponent m e t).1 : ℕ) : ℚ) * 2 ^ t = m * 2 ^ e := by
  have value := shiftLeft_mul_zpow m (e - t).toNat e
  have exponent : e - ((e - t).toNat : ℤ) = t := by omega
  rwa [exponent] at value

theorem Stands.add {u v : Float.Model.UnpackedFloat} {p q : ℚ} (hp : Stands u p)
    (hq : Stands v q) : Stands (add Format.binary32 u v) (toSingle (p + q)) := by
  have exact := hp.exact
  have exact' := hq.exact
  cases hp with
  | zero =>
    cases hq with
    | zero =>
      rw [add_zero, toSingle_zero]
      exact Stands.zero
    | finite pos canonical =>
      rw [zero_add, toSingle_of_exact (mul_nonneg (Nat.cast_nonneg _) (two_zpow_pos _).le) exact']
      exact Stands.finite pos canonical
  | @finite m e pos canonical =>
    cases hq with
    | zero =>
      rw [add_zero, toSingle_of_exact (mul_nonneg (Nat.cast_nonneg _) (two_zpow_pos _).le) exact]
      exact Stands.finite pos canonical
    | @finite m' e' pos' canonical' =>
      have sum := stands_normalize (m := ((decreaseExponent m e (min e e')).1 : ℤ) +
        ((decreaseExponent m' e' (min e e')).1 : ℤ)) (by positivity) (min e e')
      push_cast at sum
      rw [add_mul, decreaseExponent_mul_zpow (min_le_left e e'),
        decreaseExponent_mul_zpow (min_le_right e e')] at sum
      exact sum

theorem Holds.add {x y : Float32} {p q : ℚ} (hx : Holds x p) (hy : Holds y q)
    (size : p + q ≤ limit) : Holds (x + y) (toSingle (p + q)) :=
  holds_pack (Stands.add hx hy) (add_nonneg hx.nonneg hy.nonneg) size

theorem Stands.sub {u v : Float.Model.UnpackedFloat} {p q : ℚ} (hp : Stands u p)
    (hq : Stands v q) (less : q ≤ p) : Stands (sub Format.binary32 u v) (toSingle (p - q)) := by
  have exact := hp.exact
  cases hq with
  | zero =>
    rw [sub_zero, toSingle_of_exact hp.nonneg exact]
    cases hp with
    | zero => exact Stands.zero
    | finite pos canonical => exact Stands.finite pos canonical
  | @finite m' e' pos' canonical' =>
    have pos : (0 : ℚ) < m' * 2 ^ e' := mul_pos (Nat.cast_pos.2 pos') (two_zpow_pos e')
    cases hp with
    | zero => linarith
    | @finite m e pos canonical =>
      have aligned : (((decreaseExponent m' e' (min e e')).1 : ℕ) : ℚ) * 2 ^ min e e' ≤
          ((decreaseExponent m e (min e e')).1 : ℕ) * 2 ^ min e e' := by
        rwa [decreaseExponent_mul_zpow (min_le_left e e'),
          decreaseExponent_mul_zpow (min_le_right e e')]
      have order : (decreaseExponent m' e' (min e e')).1 ≤ (decreaseExponent m e (min e e')).1 := by
        exact_mod_cast le_of_mul_le_mul_right aligned (two_zpow_pos _)
      have difference := stands_normalize (m := ((decreaseExponent m e (min e e')).1 : ℤ) -
        ((decreaseExponent m' e' (min e e')).1 : ℤ)) (by omega) (min e e')
      push_cast at difference
      rw [sub_mul, decreaseExponent_mul_zpow (min_le_left e e'),
        decreaseExponent_mul_zpow (min_le_right e e')] at difference
      exact difference

theorem Holds.sub {x y : Float32} {p q : ℚ} (hx : Holds x p) (hy : Holds y q) (less : q ≤ p)
    (size : p ≤ limit) : Holds (x - y) (toSingle (p - q)) :=
  holds_pack (Stands.sub hx hy less) (by linarith) (by linarith [hy.nonneg])

/-- A product of canonical mantissas has bits enough, or the least exponent. -/
theorem Canonical.mul_fine {m m' : ℕ} {e e' : ℤ} (h : Canonical m e) (h' : Canonical m' e')
    (pos : 0 < m) (pos' : 0 < m') :
    e + e' ≤ Format.binary32.targetExponent (totalExponent (m * m') (e + e')) := by
  rw [targetExponent_eq]
  by_cases long : 2 ^ 23 ≤ m * m'
  · have := (Nat.le_log2 (Nat.mul_pos pos pos').ne').2 long
    omega
  · have subnormal : e = -149 := by
      apply h.full.resolve_left
      intro full
      exact long (full.trans (Nat.le_mul_of_pos_right m pos'))
    have subnormal' : e' = -149 := by
      apply h'.full.resolve_left
      intro full
      exact long (full.trans (Nat.le_mul_of_pos_left m' pos))
    omega

theorem Stands.mul {u v : Float.Model.UnpackedFloat} {p q : ℚ} (hp : Stands u p)
    (hq : Stands v q) : Stands (mul Format.binary32 u v) (toSingle (p * q)) := by
  cases hp with
  | zero =>
    rw [zero_mul, toSingle_zero]
    cases hq <;> exact Stands.zero
  | @finite m e pos canonical =>
    cases hq with
    | zero =>
      rw [mul_zero, toSingle_zero]
      exact Stands.zero
    | @finite m' e' pos' canonical' =>
      have product := stands_roundWithAccuracy accurate_exact
        (.inl (Nat.mul_pos pos pos')) (canonical.mul_fine canonical' pos pos')
      have split : ((m * m' : ℕ) + 0) * (2 : ℚ) ^ (e + e') = m * 2 ^ e * (m' * 2 ^ e') := by
        rw [zpow_add₀ (by norm_num)]
        push_cast
        ring
      rw [split] at product
      exact product

theorem Holds.mul {x y : Float32} {p q : ℚ} (hx : Holds x p) (hy : Holds y q)
    (size : p * q ≤ limit) : Holds (x * y) (toSingle (p * q)) :=
  holds_pack (Stands.mul hx hy) (mul_nonneg hx.nonneg hy.nonneg) size

/-- The remainder of a division tells how accurate the quotient is. -/
theorem accurate_accuracyOfFraction {remainder divisor : ℕ} (less : remainder < divisor) :
    Accurate (accuracyOfFraction remainder divisor) (remainder / divisor) := by
  have pos : (0 : ℚ) < divisor := by exact_mod_cast (Nat.zero_le remainder).trans_lt less
  unfold accuracyOfFraction
  split
  · rename_i zero
    rw [zero, Nat.cast_zero, zero_div]
    exact rfl
  · rename_i some
    have remains : (0 : ℚ) < remainder := by exact_mod_cast Nat.pos_of_ne_zero some
    rcases lt_trichotomy (2 * remainder) divisor with below | tie | above
    · rw [compare_lt_iff_lt.2 below]
      refine ⟨div_pos remains pos, ?_⟩
      rw [div_lt_div_iff₀ pos (by norm_num)]
      exact_mod_cast (by omega : remainder * 2 < 1 * divisor)
    · rw [compare_eq_iff_eq.2 tie]
      show (remainder / divisor : ℚ) = 1 / 2
      rw [div_eq_div_iff pos.ne' (by norm_num)]
      exact_mod_cast (by omega : remainder * 2 = 1 * divisor)
    · rw [compare_gt_iff_gt.2 above]
      refine ⟨?_, ?_⟩
      · rw [div_lt_div_iff₀ (by norm_num) pos]
        exact_mod_cast (by omega : 1 * divisor < remainder * 2)
      · rw [div_lt_one pos]
        exact_mod_cast less

/-- The quotient of two mantissas has bits enough, or the least exponent. -/
theorem stands_divCore {m m' : ℕ} {e e' : ℤ} (pos : 0 < m) (pos' : 0 < m') :
    let (quotient, exponent, accuracy) := divCore Format.binary32 m e m' e'
    Stands (roundWithAccuracy Format.binary32 .positive quotient exponent accuracy)
      (toSingle (m * 2 ^ e / (m' * 2 ^ e'))) := by
  obtain ⟨t, target⟩ : ∃ t, t = min (e - e') (Format.binary32.targetExponent
    (totalExponent m e - totalExponent m' e')) := ⟨_, rfl⟩
  have least : t ≤ max (m.log2 + e - (m'.log2 + e') - 24) (-149) := by
    rw [target, Format.targetExponent, totalExponent, totalExponent]
    simp only [Format.mantissaBits, Format.minExponent]
    norm_num
    omega
  let s := (e - e' - t).toNat
  have sum : t + s = e - e' := by omega
  show Stands (roundWithAccuracy Format.binary32 .positive _ (min _ _) _) _
  simp only [← target]
  show Stands (roundWithAccuracy Format.binary32 .positive (m <<< s / m') t
    (accuracyOfFraction (m <<< s % m') m')) _
  have long : 2 ^ 23 ≤ m <<< s / m' ∨ t ≤ -149 := by
    by_cases low : t ≤ -149
    · exact .inr low
    · left
      have high := Nat.lt_log2_self (n := m')
      have shifted := Nat.log2_self_le (n := m <<< s) (by rw [Nat.shiftLeft_eq]; positivity)
      have length : m'.log2 + 24 ≤ (m <<< s).log2 := by
        rw [log2_shiftLeft pos]
        omega
      have wide : 2 ^ (m'.log2 + 24) ≤ 2 ^ (m <<< s).log2 :=
        Nat.pow_le_pow_right (by norm_num) length
      rw [Nat.le_div_iff_mul_le pos']
      rw [pow_succ] at high
      rw [pow_add] at wide
      omega
  have bits : 0 < m <<< s / m' ∨ t ≤ -149 := long.imp_left fun long => by omega
  have fine : t ≤ Format.binary32.targetExponent (totalExponent (m <<< s / m') t) := by
    rw [targetExponent_eq]
    rcases long with long | low
    · have := (Nat.le_log2 (by omega)).2 long
      omega
    · omega
  have stands := stands_roundWithAccuracy
    (accurate_accuracyOfFraction (Nat.mod_lt (m <<< s) pos')) bits fine
  have value : (((m <<< s / m' : ℕ) : ℚ) + ((m <<< s % m' : ℕ) : ℚ) / m') * 2 ^ t =
      m * 2 ^ e / (m' * 2 ^ e') := by
    have divided : ((m <<< s : ℕ) : ℚ) = (m <<< s / m' : ℕ) * m' + (m <<< s % m' : ℕ) := by
      exact_mod_cast (Nat.div_add_mod' (m <<< s) m').symm
    have shifted : ((m <<< s : ℕ) : ℚ) * 2 ^ t = m * 2 ^ (e - e') := by
      have := shiftLeft_mul_zpow m s (e - e')
      rwa [show e - e' - (s : ℤ) = t by omega] at this
    have := (two_zpow_pos e').ne'
    have divisor : (m' : ℚ) ≠ 0 := by exact_mod_cast pos'.ne'
    rw [zpow_sub₀ (by norm_num)] at shifted
    field_simp
    field_simp at shifted
    rw [← divided, shifted]
  rw [value] at stands
  exact stands

theorem Stands.div {u v : Float.Model.UnpackedFloat} {p q : ℚ} (hp : Stands u p)
    (hq : Stands v q) (pos : 0 < q) : Stands (div Format.binary32 u v) (toSingle (p / q)) := by
  cases hq with
  | zero => exact absurd pos (lt_irrefl 0)
  | @finite m' e' pos' canonical' =>
    cases hp with
    | zero =>
      rw [zero_div, toSingle_zero]
      exact Stands.zero
    | @finite m e pos canonical => exact stands_divCore pos pos'

theorem Holds.div {x y : Float32} {p q : ℚ} (hx : Holds x p) (hy : Holds y q) (pos : 0 < q)
    (size : p / q ≤ limit) : Holds (x / y) (toSingle (p / q)) :=
  holds_pack (Stands.div hx hy pos) (div_nonneg hx.nonneg pos.le) size

/-! ### Constants, whole numbers and random numbers -/

/-- A float whose bits are known is known. -/
theorem holds_of_unpack {x : Float32} {m : ℕ} {e : ℤ} (pos : 0 < m) (canonical : Canonical m e)
    (h : x.toModel.unpack = .finite .positive m e pos) : Holds x (m * 2 ^ e) := by
  rw [Holds, h]
  exact Stands.finite pos canonical

theorem holds_one : Holds 1 1 := by
  have one := holds_of_unpack (x := 1) (m := 2 ^ 23) (e := -23) (by norm_num)
    ⟨by norm_num, by norm_num, .inl le_rfl⟩ rfl
  norm_num at one
  exact one

/-- Long whole numbers are rounded from their digits. -/
theorem stands_ofScientific {n : ℕ} (pos : 0 < n) :
    Stands (ofScientific Format.binary32 n 0) (toSingle n) := by
  have bits : 0 < n <<< 24 := by
    rw [Nat.shiftLeft_eq]
    positivity
  have fine : (-24 : ℤ) ≤ Format.binary32.targetExponent (totalExponent (n <<< 24) (-24)) := by
    rw [targetExponent_eq, log2_shiftLeft pos]
    omega
  have stands := stands_roundWithAccuracy accurate_exact (.inl bits) fine
  have value : (((n <<< 24 : ℕ) : ℚ) + 0) * 2 ^ (-24 : ℤ) = n := by
    have shifted := shiftLeft_mul_zpow n 24 0
    rw [zpow_zero, mul_one, zero_sub] at shifted
    rw [add_zero]
    exact shifted
  rw [value] at stands
  have digits : ofScientific Format.binary32 n 0 =
      mul Format.binary32 (.finite .positive (n <<< 24) (-24) bits)
        (.finite .positive (10 ^ 0) 0 (by norm_num)) := by
    have low : ¬(0 : ℤ) < -((2 : ℤ) ^ Format.binary32.exponentBits + n.log2) := by
      have : (0 : ℤ) ≤ 2 ^ Format.binary32.exponentBits := by positivity
      omega
    rw [ofScientific, dif_neg pos.ne', if_neg (by decide), if_neg low, if_pos le_rfl]
    rfl
  have one : n <<< 24 * 10 ^ 0 = n <<< 24 := by rw [pow_zero, mul_one]
  rw [digits, mul, one]
  exact stands

theorem stands_ofNat (n : ℕ) : Stands (ofNat Format.binary32 n) (toSingle n) := by
  have whole := stands_normalize (Int.natCast_nonneg n) 0
  rw [zpow_zero, mul_one] at whole
  exact_mod_cast whole

/-- Whole numbers are converted to the nearest float. -/
theorem holds_ofNat {n : ℕ} (size : (n : ℚ) ≤ limit) : Holds (Float32.ofNat n) (toSingle n) := by
  have nonneg : (0 : ℚ) ≤ n := Nat.cast_nonneg n
  by_cases short : n < 2 ^ 23 ∧ 0 ≤ 10
  · have toNat : n.toUInt64.toNat = n := Nat.mod_eq_of_lt (by omega)
    have converted : Holds n.toUInt64.toFloat32 (toSingle n) := by
      apply holds_pack _ nonneg size
      show Stands (ofNat Format.binary32 n.toUInt64.toNat) _
      rw [toNat]
      exact stands_ofNat n
    have product := converted.mul holds_one (by
      rw [mul_one, toSingle_of_exact nonneg ⟨n, 0, by omega, by norm_num, by simp⟩]
      exact size)
    rw [mul_one, toSingle_of_exact converted.nonneg converted.exact] at product
    have same : Float32.ofNat n = n.toUInt64.toFloat32 * 1 := by
      show Float32.ofScientific n false 0 = _
      rw [Float32.ofScientific, dif_pos short]
      rfl
    rwa [same]
  · have same : Float32.ofNat n = .ofModel (.ofScientific n 0) := by
      show Float32.ofScientific n false 0 = _
      rw [Float32.ofScientific, dif_neg short]
      rfl
    rw [same]
    exact holds_pack (stands_ofScientific (by omega)) nonneg size

theorem Stands.le {u v : Float.Model.UnpackedFloat} {p q : ℚ} (hp : Stands u p)
    (hq : Stands v q) (h : p ≤ q) : u.le v = true := by
  cases hp with
  | zero => cases hq <;> rfl
  | @finite m e pos canonical =>
    have size : (0 : ℚ) < m * 2 ^ e := mul_pos (Nat.cast_pos.2 pos) (two_zpow_pos e)
    cases hq with
    | zero => linarith
    | @finite m' e' pos' canonical' =>
      show (((compare e e').then (compare m m')).isLE) = true
      rcases lt_trichotomy e e' with below | rfl | above
      · rw [compare_lt_iff_lt.2 below]
        rfl
      · have less : m ≤ m' := by exact_mod_cast le_of_mul_le_mul_right h (two_zpow_pos e)
        rw [compare_eq_iff_eq.2 rfl]
        exact Nat.isLE_compare.2 less
      · -- A greater exponent goes with a full mantissa.
        exfalso
        have full : (2 : ℚ) ^ 23 ≤ m := by
          exact_mod_cast canonical.full.resolve_right (by have := canonical'.least; omega)
        have wide : (2 : ℚ) ^ (e' + 1) ≤ 2 ^ e := zpow_le_zpow_right₀ (by norm_num) above
        have less := mul_zpow_lt (e := e') canonical'.small
        have split : (2 : ℚ) ^ (e' + 24) = 2 ^ 23 * 2 ^ (e' + 1) := by
          rw [zpow_add₀ (by norm_num), zpow_add₀ (by norm_num)]
          norm_num
          ring
        have := mul_le_mul full wide (two_zpow_pos _).le (Nat.cast_nonneg m)
        linarith

/-- Floats are compared like the numbers that they are. -/
theorem Holds.le {x y : Float32} {p q : ℚ} (hx : Holds x p) (hy : Holds y q) (h : p ≤ q) :
    x ≤ y := by
  show decide (x.toModel ≤ y.toModel) = true
  rw [decide_eq_true_eq]
  exact Stands.le hx hy h

theorem holds_zero : Holds 0 0 := Stands.zero

end IrChart.Single
