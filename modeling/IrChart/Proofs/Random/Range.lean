import IrChart.Proofs.Single.Arithmetic
import IrChart.Random.Generator

/-!
# Random numbers stay in their range

The number that is made of a random word lies between zero and one, so a number that is drawn from
a range lies near that range. Rounding may carry it a little over the upper end, which matters
only for an upper end at the edge of the unit square.
-/

namespace IrChart.Random
open Single
open Float.Model (Format)
open Float.Model.UnpackedFloat

/-- The bits that a random number is made of: exponent zero, and the high bits of the word. -/
theorem toBitVec_unit (w : UInt32) :
    ((w >>> 9) ||| 0x3f800000).toBitVec =
      packComponents Format.binary32 .positive (127#8) (BitVec.ofNat 23 (w.toNat / 2 ^ 9)) := by
  have high : w.toNat / 2 ^ 9 < 2 ^ 23 := by
    have := w.toNat_lt
    omega
  have word : ((w >>> 9) ||| 0x3f800000).toNat = w.toNat / 2 ^ 9 ||| 127 <<< 23 := by
    rw [UInt32.toNat_or, UInt32.toNat_shiftRight, Nat.shiftRight_eq_div_pow]
    rfl
  apply BitVec.eq_of_toNat_eq
  rw [UInt32.toNat_toBitVec, word]
  show _ = ((0#1 ++ 127#8 : BitVec 9) ++ BitVec.ofNat 23 (w.toNat / 2 ^ 9)).toNat
  rw [BitVec.toNat_append, BitVec.toNat_ofNat, Nat.mod_eq_of_lt high, Nat.or_comm]
  rfl

/-- The float with these bits. -/
theorem holds_ofBits (w : UInt32) :
    Holds (Float32.ofBits ((w >>> 9) ||| 0x3f800000))
      ((2 ^ 23 + w.toNat / 2 ^ 9 : ℕ) * 2 ^ (-23 : ℤ)) := by
  have high : w.toNat / 2 ^ 9 < 2 ^ 23 := by
    have := w.toNat_lt
    omega
  have pos : 0 < 2 ^ 23 + w.toNat / 2 ^ 9 := by positivity
  have canonical : Canonical (2 ^ 23 + w.toNat / 2 ^ 9) (-23) :=
    ⟨by omega, by norm_num, .inl (by omega)⟩
  have mantissa : (1#1 ++ BitVec.ofNat 23 (w.toNat / 2 ^ 9)).toNat = 2 ^ 23 + w.toNat / 2 ^ 9 := by
    rw [BitVec.toNat_append, BitVec.toNat_ofNat, BitVec.toNat_ofNat, Nat.mod_eq_of_lt high,
      ← Nat.shiftLeft_add_eq_or_of_lt high]
    rfl
  have unpacked : unpack Format.binary32 ((w >>> 9) ||| 0x3f800000).toBitVec =
      .finite .positive (2 ^ 23 + w.toNat / 2 ^ 9) (-23) pos := by
    have finite : 127#8 ≠ -1#8 := by decide
    have normal : 127#8 ≠ 0#8 := by decide
    rw [toBitVec_unit]
    unfold unpack
    simp only [unpackMantissa_packComponents, unpackExponent_packComponents,
      unpackSign_packComponents, Sign.ofBitVec_toBitVec, finite, normal, if_false, mantissa]
    rfl
  have stands := Stands.finite pos canonical
  have size : ((2 ^ 23 + w.toNat / 2 ^ 9 : ℕ) : ℚ) * 2 ^ (-23 : ℤ) < 2 ^ 128 := by
    have := mul_zpow_lt (e := -23) canonical.small
    norm_num at this ⊢
    linarith
  show Stands (unpack Format.binary32 (pack Format.binary32 (unpack Format.binary32 _))) _
  rw [unpacked, unpack_pack stands size]
  exact stands

/-- A random number lies between zero and one. -/
theorem holds_unitOf (w : UInt32) : ∃ v ≤ 1, Holds (unitOf w) v := by
  have high : ((2 ^ 23 + w.toNat / 2 ^ 9 : ℕ) : ℚ) ≤ 2 ^ 24 := by
    have := w.toNat_lt
    exact_mod_cast (by omega : 2 ^ 23 + w.toNat / 2 ^ 9 ≤ 2 ^ 24)
  have low : (2 : ℚ) ^ 23 ≤ (2 ^ 23 + w.toNat / 2 ^ 9 : ℕ) := by
    exact_mod_cast Nat.le_add_right _ _
  generalize drawn : ((2 ^ 23 + w.toNat / 2 ^ 9 : ℕ) : ℚ) * 2 ^ (-23 : ℤ) = q
  have bits := holds_ofBits w
  rw [drawn] at bits
  norm_num at drawn low high
  have above : 1 ≤ q := by linarith
  have below : q ≤ 2 := by linarith
  refine ⟨_, ?_, bits.sub holds_one above (by norm_num [limit]; linarith)⟩
  exact toSingle_le (by linarith) exact_one (by linarith)

/-- A number from a range below one stays below one. -/
theorem holds_range {low high : Float32} {l h : ℚ} (lower : Holds low l) (upper : Holds high h)
    (order : l ≤ h) (margin : h ≤ 24 / 25) (w : UInt32) :
    ∃ v ≤ 1, Holds (unitOf w * (high - low) + low) v := by
  obtain ⟨u, atMost, unit⟩ := holds_unitOf w
  have width := upper.sub lower order (by norm_num [limit]; linarith)
  have nonneg := width.nonneg
  have some := unit.nonneg
  have narrow := toSingle_le_add (q := h - l) (by linarith)
  have short : toSingle (h - l) ≤ 1 :=
    toSingle_le (by linarith) exact_one (by linarith [lower.nonneg])
  have part : u * toSingle (h - l) ≤ toSingle (h - l) := mul_le_of_le_one_left nonneg atMost
  have scaled := unit.mul width (by norm_num [limit]; linarith)
  have less := toSingle_le (mul_nonneg some nonneg) width.exact part
  have sum : toSingle (u * toSingle (h - l)) + l ≤ 1 := by
    have := lower.nonneg
    norm_num at narrow
    linarith
  refine ⟨_, ?_, scaled.add lower (by norm_num [limit]; linarith)⟩
  exact toSingle_le (add_nonneg scaled.nonneg lower.nonneg) exact_one sum

end IrChart.Random
