import Mathlib.Data.List.Basic

/-!
# Interleavings of keyed steps

Each step belongs to a party, its key. When a step changes its own party's view
of the state and leaves every other view, a party's view after any run is what
its own steps make of it, and so is what comes out of its steps: two runs in
which each party takes the same steps in the same order differ in nothing that
a party sees.
-/

namespace Sys
set_option autoImplicit false

universe u
variable {S A K V B : Type u} [DecidableEq K]

/-- The steps of one party. -/
def stepsOf (key : A → K) (k : K) (as : List A) : List A := as.filter fun a => key a = k

theorem stepsOf_cons_same (key : A → K) (a : A) (as : List A) : stepsOf key (key a) (a :: as) = a :: stepsOf key (key a) as :=
  List.filter_cons_of_pos (decide_eq_true rfl)

theorem stepsOf_cons_other (key : A → K) (a : A) (as : List A) {k : K} (other : key a ≠ k) :
    stepsOf key k (a :: as) = stepsOf key k as :=
  List.filter_cons_of_neg (by simpa using other)

/-- Each step, with what comes out of it. -/
def outcomes (step : S → A → S) (out : S → A → B) : S → List A → List (A × B)
  | _, [] => []
  | s, a :: as => (a, out s a) :: outcomes step out (step s a) as

theorem outcomes_append (step : S → A → S) (out : S → A → B) (s : S) (as bs : List A) :
    outcomes step out s (as ++ bs) = outcomes step out s as ++ outcomes step out (as.foldl step s) bs := by
  induction as generalizing s with
  | nil => rfl
  | cons a as ih => simp only [List.cons_append, outcomes, List.foldl_cons, ih]

/-- What holds of every outcome is known from another outcome of the same steps. -/
theorem outcomes_all {C : Type u} (P : B → Prop) (Q : C → Prop) {step : S → A → S} {out : S → A → B} {out' : S → A → C}
    (imp : ∀ s a, P (out s a) → Q (out' s a)) {s : S} {as : List A} (all : ∀ o ∈ outcomes step out s as, P o.2) :
    ∀ o ∈ outcomes step out' s as, Q o.2 := by
  induction as generalizing s with
  | nil => exact fun _ member => absurd member List.not_mem_nil
  | cons a as ih =>
    rw [outcomes, List.forall_mem_cons] at all ⊢
    exact ⟨imp s a all.1, ih all.2⟩

/-- Steps that are the same through `f` have the same outcomes. -/
theorem outcomes_map {A' : Type u} (f : A → A') {step : S → A → S} {out : S → A → B} (step' : S → A' → S)
    (out' : S → A' → B) (steps : ∀ s a, step s a = step' s (f a)) (outs : ∀ s a, out s a = out' s (f a)) (s : S)
    (as : List A) : (outcomes step out s as).map (fun o => (f o.1, o.2)) = outcomes step' out' s (as.map f) := by
  induction as generalizing s with
  | nil => rfl
  | cons a as ih => simp only [outcomes, List.map_cons, ih, steps, outs]

/-- A step works on the view of its own party. -/
structure Local (key : A → K) (step : S → A → S) (view : K → S → V) (next : V → A → V) : Prop where
  own : ∀ s a, view (key a) (step s a) = next (view (key a) s) a
  other : ∀ s a k, k ≠ key a → view k (step s a) = view k s

section
variable {key : A → K} {step : S → A → S} {view : K → S → V} {next : V → A → V} (isLocal : Local key step view next)
include isLocal

/-- **A party's view after a run is that of its own steps.** -/
theorem Local.foldl (k : K) (s : S) (as : List A) :
    view k (as.foldl step s) = (stepsOf key k as).foldl next (view k s) := by
  induction as generalizing s with
  | nil => rfl
  | cons a as ih =>
    rw [List.foldl_cons, ih]
    by_cases mine : key a = k
    · subst mine
      rw [isLocal.own, stepsOf_cons_same, List.foldl_cons]
    · rw [isLocal.other s a k fun same => mine same.symm, stepsOf_cons_other key a as mine]

/-- **What comes out of a party's steps depends on these steps only.** -/
theorem Local.outcomes {out : S → A → B} (seen : V → A → B) (sees : ∀ s a, out s a = seen (view (key a) s) a) (k : K)
    (s : S) (as : List A) :
    stepsOf (fun o => key o.1) k (outcomes step out s as) = Sys.outcomes next seen (view k s) (stepsOf key k as) := by
  induction as generalizing s with
  | nil => rfl
  | cons a as ih =>
    rw [Sys.outcomes]
    by_cases mine : key a = k
    · subst mine
      rw [stepsOf_cons_same (fun o : A × B => key o.1) (a, out s a), stepsOf_cons_same, ih, isLocal.own, sees,
        Sys.outcomes]
    · rw [stepsOf_cons_other (fun o : A × B => key o.1) (a, out s a) _ mine, ih,
        isLocal.other s a k fun same => mine same.symm, stepsOf_cons_other key a as mine]

end

end Sys
