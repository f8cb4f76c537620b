import Mathlib.Algebra.Order.Ring.Nat

/-!
# Values numbered in a word

Values that are registered one after the other get the numbers 1, 2 and so on in
words of `w` bits, and a number gives the newest value that has it. As long as
there are fewer than `2 ^ w` of them, each value keeps its number for good.
Registered values are listed newest first.
-/

namespace Sys
set_option autoImplicit false

universe u
variable {α : Type u} {w : Nat}

/-- The newest value with a number. -/
def numbered : List α → BitVec w → Option α
  | [], _ => none
  | value :: older, id => if BitVec.ofNat w (older.length + 1) = id then some value else numbered older id

theorem numbered_cons_same (value : α) (older : List α) :
    numbered (value :: older) (BitVec.ofNat w (older.length + 1)) = some value := if_pos rfl

theorem numbered_cons_other {value : α} {older : List α} {id : BitVec w} (other : BitVec.ofNat w (older.length + 1) ≠ id) :
    numbered (value :: older) id = numbered older id := if_neg other

/-- A number that is given is the one of a value: it is positive, unless it started over. -/
theorem numbered_bound {values : List α} {value : α} {id : BitVec w} (few : values.length < 2 ^ w)
    (registered : numbered values id = some value) : 0 < id.toNat ∧ id.toNat ≤ values.length := by
  induction values with
  | nil => cases registered
  | cons newest older ih =>
    rw [List.length_cons] at few ⊢
    by_cases here : BitVec.ofNat w (older.length + 1) = id
    · subst here
      rw [BitVec.toNat_ofNat, Nat.mod_eq_of_lt few]
      omega
    · rw [numbered_cons_other here] at registered
      have := ih (by omega) registered
      omega

/-- **A number is never given to another value**, while there are few. -/
theorem numbered_keeps {newer values : List α} {value : α} {id : BitVec w} (few : (newer ++ values).length < 2 ^ w)
    (registered : numbered values id = some value) : numbered (newer ++ values) id = some value := by
  induction newer with
  | nil => exact registered
  | cons newest newer ih =>
    rw [List.cons_append, List.length_cons] at few
    rw [List.cons_append, numbered_cons_other]
    · exact ih (by omega)
    · have bound := (numbered_bound (by rw [List.length_append] at few; omega) registered).2
      intro same
      rw [← same, BitVec.toNat_ofNat, Nat.mod_eq_of_lt few, List.length_append] at bound
      omega

end Sys
