import Mathlib.Algebra.Order.Ring.Nat
import Mathlib.Data.Nat.Log

/-!
# Naturals of so many significant bits

A number format with `p` significant bits has the naturals below `2 ^ p`, and of
those from `2 ^ (p + e)` on, below the next power of two, the multiples of
`2 ^ (e + 1)`. Another natural is rounded to the nearest of these, and to the
even multiple halfway between two. Rounding keeps the order, but not the
difference: naturals less than half a unit from the same multiple become one.
-/

namespace Sys
set_option autoImplicit false

/-! ## The nearest multiple -/

/-- The nearest multiple of a unit, the even one of two. -/
def nearestMultiple (unit n : Nat) : Nat :=
  if 2 * (n % unit) < unit ∨ 2 * (n % unit) = unit ∧ n / unit % 2 = 0 then n / unit * unit else (n / unit + 1) * unit

section
variable {unit m n : Nat}

theorem nearestMultiple_cases (unit n : Nat) :
    nearestMultiple unit n = n / unit * unit ∧ 2 * (n % unit) ≤ unit ∨
      nearestMultiple unit n = (n / unit + 1) * unit ∧ unit ≤ 2 * (n % unit) := by
  unfold nearestMultiple
  split <;> omega

/-- A number that is no greater than a multiple is not rounded above it. -/
theorem nearestMultiple_le (positive : 0 < unit) {k : Nat} (le : n ≤ k * unit) : nearestMultiple unit n ≤ k * unit := by
  have parts := Nat.div_add_mod' n unit
  rcases nearestMultiple_cases unit n with ⟨down, -⟩ | ⟨up, high⟩
  · rw [down]
    omega
  · rw [up]
    apply Nat.mul_le_mul_right
    by_contra above
    have less : k * unit ≤ n / unit * unit := Nat.mul_le_mul_right unit (by omega)
    omega

/-- A number that is no less than a multiple is not rounded below it. -/
theorem le_nearestMultiple (positive : 0 < unit) {k : Nat} (le : k * unit ≤ n) : k * unit ≤ nearestMultiple unit n := by
  have below : k ≤ n / unit := (Nat.le_div_iff_mul_le positive).2 le
  rcases nearestMultiple_cases unit n with ⟨down, -⟩ | ⟨up, -⟩
  · rw [down]
    exact Nat.mul_le_mul_right unit below
  · rw [up]
    exact Nat.mul_le_mul_right unit (by omega)

theorem nearestMultiple_mono (positive : 0 < unit) (le : m ≤ n) : nearestMultiple unit m ≤ nearestMultiple unit n := by
  have floors : m / unit ≤ n / unit := Nat.div_le_div_right le
  rcases Nat.lt_or_eq_of_le floors with less | same
  · have upper : m ≤ (m / unit + 1) * unit := by
      have := Nat.lt_div_mul_add (a := m) positive
      rw [Nat.add_mul, Nat.one_mul]
      omega
    have lower : (m / unit + 1) * unit ≤ n :=
      Nat.le_trans (Nat.mul_le_mul_right unit less) (Nat.div_mul_le_self n unit)
    exact Nat.le_trans (nearestMultiple_le positive upper) (le_nearestMultiple positive lower)
  · have parts := Nat.div_add_mod' m unit
    have parts' := Nat.div_add_mod' n unit
    unfold nearestMultiple
    rw [same] at parts ⊢
    have step : n / unit * unit ≤ (n / unit + 1) * unit := Nat.mul_le_mul_right unit (Nat.le_succ _)
    split <;> split <;> omega

/-- A number less than half a unit above a multiple is rounded to it. -/
theorem nearestMultiple_near {k rest : Nat} (near : 2 * rest < unit) : nearestMultiple unit (k * unit + rest) = k * unit := by
  have small : rest < unit := by omega
  have quotient : (k * unit + rest) / unit = k := by
    rw [Nat.mul_comm, Nat.mul_add_div (by omega), Nat.div_eq_of_lt small, Nat.add_zero]
  have remainder : (k * unit + rest) % unit = rest := by
    rw [Nat.mul_comm, Nat.mul_add_mod, Nat.mod_eq_of_lt small]
  rw [nearestMultiple, quotient, remainder, if_pos (Or.inl near)]

end

/-! ## Significant bits -/

/-- The distance of the naturals of `p` significant bits around `n`. -/
def unitAt (p n : Nat) : Nat := 2 ^ (n.log2 + 1 - p)

/-- The nearest natural of `p` significant bits. -/
def toSignificant (p n : Nat) : Nat := nearestMultiple (unitAt p n) n

variable {p m n : Nat}

theorem unitAt_pos (p n : Nat) : 0 < unitAt p n := Nat.two_pow_pos _

theorem toSignificant_zero (p : Nat) : toSignificant p 0 = 0 := by
  rw [toSignificant, nearestMultiple, Nat.zero_mod, Nat.zero_div, if_pos (Or.inl (unitAt_pos p 0)), Nat.zero_mul]

/-- **Rounding keeps the order.** -/
theorem toSignificant_mono (positive : 0 < p) (le : m ≤ n) : toSignificant p m ≤ toSignificant p n := by
  rcases Nat.eq_zero_or_pos m with rfl | nonzero
  · rw [toSignificant_zero]
    exact Nat.zero_le _
  · have logs : m.log2 ≤ n.log2 := (Nat.le_log2 (by omega)).2 (Nat.le_trans (Nat.log2_self_le (by omega)) le)
    rcases Nat.lt_or_eq_of_le logs with less | same
    · -- a power of two is between them
      have multiple : ∀ e ≤ n.log2, 2 ^ n.log2 = 2 ^ (n.log2 - e) * 2 ^ e := by
        intro e small
        rw [← Nat.pow_add, Nat.sub_add_cancel small]
      have above : m ≤ 2 ^ n.log2 :=
        Nat.le_trans (Nat.lt_log2_self).le (Nat.pow_le_pow_right (by decide) less)
      have below : 2 ^ n.log2 ≤ n := Nat.log2_self_le (by omega)
      have left : toSignificant p m ≤ 2 ^ n.log2 := by
        rw [multiple (m.log2 + 1 - p) (by omega)] at above ⊢
        exact nearestMultiple_le (unitAt_pos p m) above
      have right : 2 ^ n.log2 ≤ toSignificant p n := by
        rw [multiple (n.log2 + 1 - p) (by omega)] at below ⊢
        exact le_nearestMultiple (unitAt_pos p n) below
      exact Nat.le_trans left right
    · rw [toSignificant, toSignificant, unitAt, unitAt, same]
      exact nearestMultiple_mono (Nat.two_pow_pos _) le

theorem log2_mul_two_pow_add {a b k : Nat} (positive : 0 < a) (small : b < 2 ^ k) : (a * 2 ^ k + b).log2 = a.log2 + k := by
  have lower : 2 ^ a.log2 * 2 ^ k ≤ a * 2 ^ k := Nat.mul_le_mul_right _ (Nat.log2_self_le (by omega))
  have upper : (a + 1) * 2 ^ k ≤ 2 ^ (a.log2 + 1) * 2 ^ k := Nat.mul_le_mul_right _ Nat.lt_log2_self
  have nonzero : a * 2 ^ k + b ≠ 0 := by
    have := Nat.mul_pos positive (Nat.two_pow_pos k)
    omega
  apply (Nat.log2_eq_iff nonzero).2
  rw [Nat.add_mul, Nat.one_mul] at upper
  rw [Nat.add_right_comm, Nat.pow_add, Nat.pow_add]
  omega

/-- **What is small above many zeros is lost**: a natural of `p` bits is what is left of itself followed by `k` bits, when
these are less than half a unit. -/
theorem toSignificant_low {a b k : Nat} (positive : 0 < a) (fits : a < 2 ^ p) (near : 2 * b < 2 ^ (a.log2 + k + 1 - p))
    (small : b < 2 ^ k) : toSignificant p (a * 2 ^ k + b) = a * 2 ^ k := by
  have log := (Nat.log2_lt (by omega)).2 fits
  have multiple : a * 2 ^ k = a * 2 ^ (k - (a.log2 + k + 1 - p)) * 2 ^ (a.log2 + k + 1 - p) := by
    rw [Nat.mul_assoc, ← Nat.pow_add, Nat.sub_add_cancel (by omega)]
  rw [toSignificant, unitAt, log2_mul_two_pow_add positive small, multiple]
  exact nearestMultiple_near near

end Sys
