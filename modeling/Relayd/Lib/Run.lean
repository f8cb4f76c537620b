import Mathlib.Data.List.Basic

/-!
# Runs of a labelled partial step function

`step s a` is the state after action `a`, or `none` when `a` is not possible in
`s`. `run` folds it over a list of actions. `Along step P s as` says that `P`
holds of every state the run visits together with the action taken there; it is
both how a condition on the steps of a run is assumed and how a law about each
step is stated. `invariant` is the induction on runs.
-/

namespace Sys
set_option autoImplicit false

universe u v
variable {S : Type u} {A : Type v} {step : S → A → Option S}

/-- The state after the actions `as`, when each of them is possible. -/
def run (step : S → A → Option S) : S → List A → Option S
  | s, [] => some s
  | s, a :: as => (step s a).bind fun s' => run step s' as

/-- `P` holds at every action of the run, in the state where it is taken. -/
def Along (step : S → A → Option S) (P : S → A → Prop) (s : S) (as : List A) : Prop :=
  ∀ pre a post s₁, as = pre ++ a :: post → run step s pre = some s₁ → P s₁ a

theorem run_cons {s s' : S} {a : A} {as : List A} :
    run step s (a :: as) = some s' ↔ ∃ s₁, step s a = some s₁ ∧ run step s₁ as = some s' := by
  simp only [run, Option.bind_eq_some_iff]

theorem run_append {s : S} {as bs : List A} :
    run step s (as ++ bs) = (run step s as).bind fun s' => run step s' bs := by
  induction as generalizing s with
  | nil => rfl
  | cons a as ih =>
    simp only [List.cons_append, run]
    cases step s a with
    | none => rfl
    | some s' => exact ih

/-- `P` holds at every action of the run, of the state where it is taken and of the actions that follow it. -/
def Ahead (step : S → A → Option S) (P : S → A → List A → Prop) (s : S) (as : List A) : Prop :=
  ∀ pre a post s₁, as = pre ++ a :: post → run step s pre = some s₁ → P s₁ a post

theorem Ahead.nil {P : S → A → List A → Prop} {s : S} : Ahead step P s [] := by
  intro pre a post s₁ split
  cases pre <;> cases split

theorem Ahead.cons_iff {P : S → A → List A → Prop} {s : S} {a : A} {as : List A} :
    Ahead step P s (a :: as) ↔ P s a as ∧ ∀ s', step s a = some s' → Ahead step P s' as := by
  constructor
  · intro ahead
    refine ⟨ahead [] a as s rfl rfl, ?_⟩
    intro s' first pre b post s₁ split reached
    exact ahead (a :: pre) b post s₁ (by rw [split]; rfl) (run_cons.2 ⟨s', first, reached⟩)
  · rintro ⟨here, later⟩ pre b post s₁ split reached
    cases pre with
    | nil =>
      cases split
      cases reached
      exact here
    | cons c pre =>
      cases split
      obtain ⟨s', first, rest⟩ := run_cons.1 reached
      exact later s' first pre b post s₁ rfl rest

/-- A condition that can be decided at each step can be decided along a run. -/
instance Ahead.decide {P : S → A → List A → Prop} [∀ s a as, Decidable (P s a as)] : ∀ s as, Decidable (Ahead step P s as)
  | _, [] => isTrue Ahead.nil
  | s, a :: as =>
    match first : step s a with
    | none => decidable_of_iff (P s a as) (by simp [Ahead.cons_iff, first])
    | some s₁ =>
      have : Decidable (Ahead step P s₁ as) := Ahead.decide s₁ as
      decidable_of_iff (P s a as ∧ Ahead step P s₁ as) (by simp [Ahead.cons_iff, first])

theorem Along.nil {P : S → A → Prop} {s : S} : Along step P s [] := Ahead.nil

theorem Along.cons_iff {P : S → A → Prop} {s : S} {a : A} {as : List A} :
    Along step P s (a :: as) ↔ P s a ∧ ∀ s', step s a = some s' → Along step P s' as := Ahead.cons_iff

/-- A condition that can be decided at each step can be decided along a run. -/
instance Along.decide {P : S → A → Prop} [∀ s a, Decidable (P s a)] : ∀ s as, Decidable (Along step P s as)
  | _, [] => isTrue Along.nil
  | s, a :: as =>
    match first : step s a with
    | none => decidable_of_iff (P s a) (by simp [Along.cons_iff, first])
    | some s₁ =>
      have : Decidable (Along step P s₁ as) := Along.decide s₁ as
      decidable_of_iff (P s a ∧ Along step P s₁ as) (by simp [Along.cons_iff, first])

/-- A condition that holds along a run holds along its beginning. -/
theorem Along.left {P : S → A → Prop} {s : S} {as bs : List A} (along : Along step P s (as ++ bs)) :
    Along step P s as := by
  intro pre a post s₁ split reached
  exact along pre a (post ++ bs) s₁ (by rw [split]; simp) reached

/-- A condition that holds along a run holds along its end. -/
theorem Along.right {P : S → A → Prop} {s s₁ : S} {as bs : List A} (along : Along step P s (as ++ bs))
    (reached : run step s as = some s₁) : Along step P s₁ bs := by
  intro pre a post s₂ split later
  apply along (as ++ pre) a post s₂
  · rw [split, List.append_assoc]
  · rw [run_append, reached]
    exact later

/-- A condition on the actions alone. -/
theorem Along.of_forall {P : A → Prop} {s : S} {as : List A} (all : ∀ a ∈ as, P a) :
    Along step (fun _ a => P a) s as := by
  intro pre a post s₁ split _
  exact all a (by rw [split]; exact List.mem_append_right pre List.mem_cons_self)

theorem Along.mono {P Q : S → A → Prop} {s : S} {as : List A} (imp : ∀ s a, P s a → Q s a)
    (along : Along step P s as) : Along step Q s as :=
  fun pre a post s₁ split reached => imp _ _ (along pre a post s₁ split reached)

theorem Along.and {P Q : S → A → Prop} {s : S} {as : List A} (left : Along step P s as)
    (right : Along step Q s as) : Along step (fun s a => P s a ∧ Q s a) s as :=
  fun pre a post s₁ split reached => ⟨left pre a post s₁ split reached, right pre a post s₁ split reached⟩

/-- **The induction on runs**: what each step preserves under its condition
holds after every run whose steps meet the condition. -/
theorem invariant {P : S → A → Prop} {Inv : S → Prop}
    (preserved : ∀ s a s', Inv s → P s a → step s a = some s' → Inv s')
    {s s' : S} {as : List A} (start : Inv s) (along : Along step P s as) (reached : run step s as = some s') :
    Inv s' := by
  induction as generalizing s with
  | nil =>
    cases reached
    exact start
  | cons a as ih =>
    obtain ⟨s₁, first, rest⟩ := run_cons.1 reached
    obtain ⟨here, later⟩ := Along.cons_iff.1 along
    exact ih (preserved s a s₁ start here first) (later s₁ first) rest

/-- The trivial condition. -/
theorem Along.trivial {s : S} {as : List A} : Along step (fun _ _ => True) s as :=
  fun _ _ _ _ _ _ => True.intro

/-- A step function that never refuses runs every list of actions. -/
theorem run_total (total : ∀ s a, ∃ s', step s a = some s') (s : S) (as : List A) :
    ∃ s', run step s as = some s' := by
  induction as generalizing s with
  | nil => exact ⟨s, rfl⟩
  | cons a as ih =>
    obtain ⟨s₁, first⟩ := total s a
    obtain ⟨s', rest⟩ := ih s₁
    exact ⟨s', run_cons.2 ⟨s₁, first, rest⟩⟩

/-- **Runs to a goal**: as long as every state short of the goal has a step that makes a measure smaller, some run
reaches the goal. -/
theorem run_until {P : A → Prop} {Inv Done : S → Prop} (measure : S → Nat)
    (progress : ∀ s, Inv s → ¬ Done s → ∃ a s', P a ∧ step s a = some s' ∧ Inv s' ∧ measure s' < measure s)
    {s : S} (start : Inv s) :
    ∃ as s', (∀ a ∈ as, P a) ∧ run step s as = some s' ∧ Inv s' ∧ Done s' := by
  induction bound : measure s using Nat.strongRecOn generalizing s with
  | ind n ih =>
    by_cases done : Done s
    · exact ⟨[], s, fun _ member => absurd member List.not_mem_nil, rfl, start, done⟩
    · obtain ⟨a, s₁, allowed, first, kept, smaller⟩ := progress s start done
      obtain ⟨as, s', all, rest, goal⟩ := ih (measure s₁) (bound ▸ smaller) kept rfl
      exact ⟨a :: as, s', List.forall_mem_cons.2 ⟨allowed, all⟩, run_cons.2 ⟨s₁, first, rest⟩, goal⟩

end Sys
