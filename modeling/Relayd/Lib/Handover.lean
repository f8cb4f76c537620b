import Mathlib.Data.List.Induction
import Relayd.Lib.Interleaving

/-!
# Changes in two steps

Of some value, one is in force or none. A step proposes the value that is to
follow it, and a later step confirms the proposal; steps that do neither leave
both alone. A value in force after a run was then in force from its start, or it
was proposed, was still the proposal when it was confirmed, and nothing was
confirmed since.
-/

namespace Sys
set_option autoImplicit false

universe u
variable {V S A : Type u}

/-- The value in force, and the one proposed to follow it. -/
structure TwoStep (V : Type u) where
  current : Option V
  proposed : Option V
  deriving DecidableEq

/-- What a step does to them. -/
inductive Move (V : Type u)
  | propose (value : Option V)
  | confirm (value : Option V)
  deriving DecidableEq

/-- What a move, or a step that is none, makes of them. -/
def TwoStep.Moved (before after : TwoStep V) : Option (Move V) → Prop
  | none => after = before
  | some (.propose value) => after = { before with proposed := value }
  | some (.confirm value) => before.proposed = value ∧ after = { current := value, proposed := none }

/-- The steps of a system move a part of its state. -/
def IsTwoStep (step : S → A → S) (part : S → TwoStep V) (move : S → A → Option (Move V)) : Prop :=
  ∀ s a, (part s).Moved (part (step s a)) (move s a)

namespace IsTwoStep
variable {step : S → A → S} {part : S → TwoStep V} {move : S → A → Option (Move V)} (isTwoStep : IsTwoStep step part move)
include isTwoStep

theorem idle {s : S} {a : A} (moved : move s a = none) : part (step s a) = part s := by
  have now := isTwoStep s a
  rw [moved] at now
  exact now

theorem propose {s : S} {a : A} {value : Option V} (moved : move s a = some (.propose value)) :
    part (step s a) = { part s with proposed := value } := by
  have now := isTwoStep s a
  rw [moved] at now
  exact now

theorem confirm {s : S} {a : A} {value : Option V} (moved : move s a = some (.confirm value)) :
    (part s).proposed = value ∧ part (step s a) = { current := value, proposed := none } := by
  have now := isTwoStep s a
  rw [moved] at now
  exact now

/-- The proposal at the end of a run was made by its last move. -/
theorem proposed {s : S} {as : List A} {value : V} (vacant : (part s).proposed = none)
    (pending : (part (as.foldl step s)).proposed = some value) :
    ∃ before proposal between, as = before ++ proposal :: between ∧
      move (before.foldl step s) proposal = some (.propose (some value)) ∧
      ∀ o ∈ outcomes step move ((before ++ [proposal]).foldl step s) between, o.2 = none := by
  induction as using List.reverseRecOn with
  | nil =>
    rw [List.foldl_nil, vacant] at pending
    cases pending
  | append_singleton as a ih =>
    rw [List.foldl_append, List.foldl_cons, List.foldl_nil] at pending
    cases moved : move (as.foldl step s) a with
    | none =>
      rw [isTwoStep.idle moved] at pending
      obtain ⟨before, proposal, between, rfl, here, quiet⟩ := ih pending
      refine ⟨before, proposal, between ++ [a], by simp, here, ?_⟩
      intro o member
      rw [outcomes_append, ← List.foldl_append, List.append_assoc, List.singleton_append] at member
      rcases List.mem_append.1 member with old | new
      · exact quiet o old
      · rw [List.mem_singleton.1 new]
        exact moved
    | some m =>
      cases m with
      | propose newest =>
        rw [isTwoStep.propose moved] at pending
        obtain rfl : newest = some value := pending
        exact ⟨as, a, [], rfl, moved, fun _ => by simp [outcomes]⟩
      | confirm confirmed =>
        rw [(isTwoStep.confirm moved).2] at pending
        cases pending

/-- **What is in force was proposed, and then confirmed while it was the proposal.** -/
theorem in_force {s : S} {as : List A} {value : V} (vacant : (part s).proposed = none)
    (holds : (part (as.foldl step s)).current = some value) :
    ((part s).current = some value ∧ ∀ o ∈ outcomes step move s as, ∀ value, o.2 ≠ some (.confirm value)) ∨
      ∃ before proposal between confirmation after,
        as = before ++ proposal :: (between ++ confirmation :: after) ∧
        move (before.foldl step s) proposal = some (.propose (some value)) ∧
        (∀ o ∈ outcomes step move ((before ++ [proposal]).foldl step s) between, o.2 = none) ∧
        move ((before ++ proposal :: between).foldl step s) confirmation = some (.confirm (some value)) ∧
        ∀ o ∈ outcomes step move ((before ++ proposal :: (between ++ [confirmation])).foldl step s) after,
          ∀ value, o.2 ≠ some (.confirm value) := by
  induction as using List.reverseRecOn with
  | nil => exact Or.inl ⟨holds, fun _ => by simp [outcomes]⟩
  | append_singleton as a ih =>
    rw [List.foldl_append, List.foldl_cons, List.foldl_nil] at holds
    by_cases confirms : ∃ value, move (as.foldl step s) a = some (.confirm value)
    · obtain ⟨confirmed, moved⟩ := confirms
      obtain ⟨pending, now⟩ := isTwoStep.confirm moved
      rw [now] at holds
      obtain rfl : confirmed = some value := holds
      obtain ⟨before, proposal, between, rfl, here, quiet⟩ := isTwoStep.proposed vacant pending
      exact Or.inr ⟨before, proposal, between, a, [], by simp, here, quiet, moved, fun _ => by simp [outcomes]⟩
    · have same : (part (step (as.foldl step s) a)).current = (part (as.foldl step s)).current := by
        cases moved : move (as.foldl step s) a with
        | none => rw [isTwoStep.idle moved]
        | some m =>
          cases m with
          | propose newest => rw [isTwoStep.propose moved]
          | confirm value => exact absurd ⟨value, moved⟩ confirms
      rw [same] at holds
      rcases ih holds with ⟨first, never⟩ | ⟨before, proposal, between, confirmation, after, rfl, here, quiet, there, never⟩
      · refine Or.inl ⟨first, ?_⟩
        intro o member value
        rw [outcomes_append] at member
        rcases List.mem_append.1 member with old | new
        · exact never o old value
        · rw [List.mem_singleton.1 new]
          exact fun moved => confirms ⟨value, moved⟩
      · refine Or.inr ⟨before, proposal, between, confirmation, after ++ [a], by simp, here, quiet, there, ?_⟩
        intro o member value
        rw [outcomes_append, ← List.foldl_append] at member
        rcases List.mem_append.1 member with old | new
        · exact never o old value
        · rw [List.mem_singleton.1 new]
          intro moved
          apply confirms
          exact ⟨value, by simpa using moved⟩

end IsTwoStep

end Sys
