import Mathlib.Algebra.Order.Ring.Nat

/-!
# Two numbers in one word

A word holds a number of `v` bits above one of `w` bits. Words are in the order
of their upper numbers, and of the lower ones where the upper ones are equal. A
program packs and unpacks them in a wider word, by shifts and truncations.
-/

namespace Sys
set_option autoImplicit false

variable {u v w : Nat} {hi hi' : BitVec v} {lo lo' : BitVec w}

theorem append_toNat (hi : BitVec v) (lo : BitVec w) : (hi ++ lo).toNat = 2 ^ w * hi.toNat + lo.toNat := by
  rw [BitVec.toNat_append, Nat.shiftLeft_eq, Nat.mul_comm, Nat.two_pow_add_eq_or_of_lt lo.isLt]

/-- A greater upper number makes a greater word, whatever the lower numbers are. -/
theorem append_lt_of_high (less : hi.toNat < hi'.toNat) (lo lo' : BitVec w) :
    (hi ++ lo).toNat < (hi' ++ lo').toNat := by
  have next : 2 ^ w * (hi.toNat + 1) ≤ 2 ^ w * hi'.toNat := Nat.mul_le_mul_left _ less
  have small := lo.isLt
  rw [append_toNat, append_toNat]
  rw [Nat.mul_succ] at next
  omega

/-- **Words are in the order of their upper and then of their lower numbers.** -/
theorem append_le_iff :
    (hi ++ lo).toNat ≤ (hi' ++ lo').toNat ↔ hi.toNat < hi'.toNat ∨ hi = hi' ∧ lo.toNat ≤ lo'.toNat := by
  rcases Nat.lt_trichotomy hi.toNat hi'.toNat with less | same | greater
  · exact iff_of_true (append_lt_of_high less lo lo').le (Or.inl less)
  · cases BitVec.eq_of_toNat_eq same
    rw [append_toNat, append_toNat]
    simp only [Nat.lt_irrefl, false_or, true_and]
    omega
  · have above := append_lt_of_high greater lo' lo
    apply iff_of_false (by omega)
    rintro (less | ⟨rfl, -⟩) <;> omega

/-- Packing by a shift in a wider word. -/
theorem shiftLeft_or_eq_append (hi : BitVec v) (lo : BitVec w) (fits : v + w ≤ u) :
    ((hi.setWidth u <<< w) ||| lo.setWidth u).setWidth (v + w) = hi ++ lo := by
  have product : hi.toNat * 2 ^ w < 2 ^ (v + w) := by
    rw [Nat.pow_add]
    exact Nat.mul_lt_mul_of_pos_right hi.isLt (Nat.two_pow_pos w)
  have wide : 2 ^ (v + w) ≤ 2 ^ u := Nat.pow_le_pow_right (by decide) fits
  have high : hi.toNat < 2 ^ u := hi.isLt.trans_le (Nat.pow_le_pow_right (by decide) (by omega))
  have low : lo.toNat < 2 ^ u := lo.isLt.trans_le (Nat.pow_le_pow_right (by decide) (by omega))
  apply BitVec.eq_of_toNat_eq
  rw [BitVec.toNat_setWidth, BitVec.toNat_or, BitVec.toNat_shiftLeft, BitVec.toNat_setWidth, BitVec.toNat_setWidth,
    Nat.mod_eq_of_lt high, Nat.mod_eq_of_lt low, Nat.shiftLeft_eq, Nat.mod_eq_of_lt (product.trans_le wide),
    BitVec.toNat_append, Nat.shiftLeft_eq, Nat.mod_eq_of_lt]
  rw [Nat.mul_comm, ← Nat.two_pow_add_eq_or_of_lt lo.isLt, ← append_toNat]
  exact (hi ++ lo).isLt

/-- The upper number, taken from a wider word. -/
theorem high_append (hi : BitVec v) (lo : BitVec w) (fits : v + w ≤ u) :
    (((hi ++ lo).setWidth u) >>> w).setWidth v = hi := by
  have wide : (hi ++ lo).toNat < 2 ^ u := (hi ++ lo).isLt.trans_le (Nat.pow_le_pow_right (by decide) fits)
  have small := lo.isLt
  apply BitVec.eq_of_toNat_eq
  rw [BitVec.toNat_setWidth, BitVec.toNat_ushiftRight, BitVec.toNat_setWidth, Nat.mod_eq_of_lt wide, append_toNat,
    Nat.shiftRight_eq_div_pow, Nat.mul_add_div (Nat.two_pow_pos w), Nat.div_eq_of_lt small, Nat.add_zero,
    Nat.mod_eq_of_lt hi.isLt]

/-- The lower number, taken from a wider word. -/
theorem low_append (hi : BitVec v) (lo : BitVec w) (fits : v + w ≤ u) : ((hi ++ lo).setWidth u).setWidth w = lo := by
  have wide : (hi ++ lo).toNat < 2 ^ u := (hi ++ lo).isLt.trans_le (Nat.pow_le_pow_right (by decide) fits)
  apply BitVec.eq_of_toNat_eq
  rw [BitVec.toNat_setWidth, BitVec.toNat_setWidth, Nat.mod_eq_of_lt wide, append_toNat, Nat.mul_add_mod,
    Nat.mod_eq_of_lt lo.isLt]

end Sys
