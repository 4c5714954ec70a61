import IrChart.Proofs.Single.Significand

/-!
# Packing floats

A float is kept as its bits. The model packs the result of an operation into bits and unpacks it
for the next one; a number that is not too large comes back as it was (`unpack_pack`).
-/

namespace IrChart.Single
open Float.Model (Format)
open Float.Model.UnpackedFloat

/-- The implicit bit stands before the others. -/
theorem toNat_one_append {m : ℕ} (low : 2 ^ 23 ≤ m) (high : m < 2 ^ 24) :
    (1#1 ++ BitVec.ofNat 23 m).toNat = m := by
  rw [BitVec.toNat_append, BitVec.toNat_ofNat, BitVec.toNat_ofNat,
    ← Nat.shiftLeft_add_eq_or_of_lt (Nat.mod_lt m (by norm_num))]
  norm_num [Nat.shiftLeft_eq]
  omega

/-- Normal numbers have all bits and an exponent. -/
theorem unpack_pack_normal {m : ℕ} {e : ℤ} (pos : 0 < m) (low : 2 ^ 23 ≤ m) (high : m < 2 ^ 24)
    (least : -149 ≤ e) (most : e ≤ 104) :
    unpack Format.binary32 (pack Format.binary32 (.finite .positive m e pos)) =
      .finite .positive m e pos := by
  obtain ⟨biased, exponent⟩ : ∃ biased : ℕ, (biased : ℤ) = e + 150 := ⟨(e + 150).toNat, by omega⟩
  have length : m.log2 + 1 = Format.binary32.mantissaBits := by
    rw [(Nat.log2_eq_iff (k := 23) pos.ne').2 ⟨low, high⟩]
    rfl
  have packed : pack Format.binary32 (.finite .positive m e pos) =
      packComponents Format.binary32 .positive (BitVec.ofNat 8 biased) (BitVec.ofNat 23 m) := by
    have sum : (e + (Format.binary32.exponentBias : ℤ) + (23 : ℕ)).toNat = biased := by
      show (e + ((2 ^ (8 - 1) - 1 : ℕ) : ℤ) + (23 : ℕ)).toNat = biased
      norm_num
      omega
    unfold pack
    simp only [sum]
    rw [if_neg (by show ¬2 ^ 8 ≤ biased + 1; omega), if_pos length]
  have toNat : (BitVec.ofNat 8 biased).toNat = biased := by
    rw [BitVec.toNat_ofNat]
    omega
  have finite : BitVec.ofNat 8 biased ≠ -1#8 := by
    intro same
    have := congrArg BitVec.toNat same
    rw [toNat] at this
    have : (-1#8).toNat = 255 := by decide
    omega
  have normal : BitVec.ofNat 8 biased ≠ 0#8 := by
    intro same
    have := congrArg BitVec.toNat same
    rw [toNat, BitVec.toNat_ofNat] at this
    omega
  rw [packed]
  unfold unpack
  simp only [unpackMantissa_packComponents, unpackExponent_packComponents,
    unpackSign_packComponents, Sign.ofBitVec_toBitVec, finite, normal, if_false, toNat,
    toNat_one_append low high]
  congr 1
  show (biased : ℤ) - (((2 ^ (8 - 1) - 1 : ℕ) : ℤ) + (23 : ℕ)) = e
  norm_num
  omega

/-- Subnormal numbers have the least exponent. -/
theorem unpack_pack_subnormal {m : ℕ} (pos : 0 < m) (high : m < 2 ^ 23) :
    unpack Format.binary32 (pack Format.binary32 (.finite .positive m (-149) pos)) =
      .finite .positive m (-149) pos := by
  have length : m.log2 + 1 ≠ Format.binary32.mantissaBits := by
    have := (Nat.log2_lt pos.ne').2 high
    show m.log2 + 1 ≠ 24
    omega
  have packed : pack Format.binary32 (.finite .positive m (-149) pos) =
      packComponents Format.binary32 .positive (0#8) (BitVec.ofNat 23 m) := by
    unfold pack
    rw [if_neg (by decide), if_neg length]
  have toNat : (BitVec.ofNat 23 m).toNat = m := by
    rw [BitVec.toNat_ofNat]
    omega
  have some : BitVec.ofNat 23 m ≠ 0#23 := by
    intro same
    have := congrArg BitVec.toNat same
    rw [toNat, BitVec.toNat_ofNat] at this
    omega
  have finite : 0#8 ≠ -1#8 := by decide
  rw [packed]
  unfold unpack
  simp only [unpackMantissa_packComponents, unpackExponent_packComponents,
    unpackSign_packComponents, Sign.ofBitVec_toBitVec, finite, some, if_false, if_true, toNat]
  rfl

/-- A number that is not too large is unpacked as it was packed. -/
theorem unpack_pack {u : Float.Model.UnpackedFloat} {q : ℚ} (h : Stands u q) (size : q < 2 ^ 128) :
    unpack Format.binary32 (pack Format.binary32 u) = u := by
  cases h with
  | zero => rfl
  | @finite m e pos canonical =>
    obtain ⟨small, least, full⟩ := canonical
    by_cases normal : 2 ^ 23 ≤ m
    · apply unpack_pack_normal pos normal small least
      by_contra large
      have wide : (2 : ℚ) ^ (105 : ℤ) ≤ 2 ^ e := zpow_le_zpow_right₀ (by norm_num) (by omega)
      have full : (2 : ℚ) ^ 23 ≤ m := by exact_mod_cast normal
      have := mul_le_mul full wide (two_zpow_pos _).le (Nat.cast_nonneg m)
      norm_num at this size
      linarith
    · obtain rfl := full.resolve_left normal
      exact unpack_pack_subnormal pos (not_le.1 normal)

end IrChart.Single
