import Mathlib.Data.List.Nodup

/-!
# Subscribers

An event is given to every subscriber, and each may answer it with a record under
its own name. While no two subscribers have one name, the records of a name are
the answers of its subscriber, whoever else is subscribed.
-/

namespace Sys
set_option autoImplicit false

universe u v w
variable {A : Type u} {R : Type v} {K : Type w}

/-- The answers of the subscribers to an event, in their order. -/
def publish (answer : A → Option R) (subscribers : List A) : List R := subscribers.filterMap answer

variable [DecidableEq K] {key : A → K} {name : R → K} {answer : A → Option R}

/-- A subscriber is found under its name. -/
theorem find?_key {subscribers : List A} (unique : (subscribers.map key).Nodup) {a : A} (member : a ∈ subscribers) :
    subscribers.find? (fun other => key other = key a) = some a := by
  induction subscribers with
  | nil => cases member
  | cons first subscribers ih =>
    obtain ⟨new, unique⟩ := List.nodup_cons.1 unique
    cases List.mem_cons.1 member with
    | inl same =>
      subst same
      exact List.find?_cons_of_pos (by simp)
    | inr later =>
      have other : key first ≠ key a := fun same => new (same ▸ List.mem_map_of_mem later)
      rw [List.find?_cons_of_neg (by simpa using other)]
      exact ih unique later

/-- **The records of a name are what its subscriber answers.** -/
theorem publish_named (named : ∀ a r, answer a = some r → name r = key a) {subscribers : List A}
    (unique : (subscribers.map key).Nodup) (k : K) :
    (publish answer subscribers).filter (fun r => name r = k) =
      ((subscribers.find? fun a => key a = k).bind answer).toList := by
  induction subscribers with
  | nil => rfl
  | cons a subscribers ih =>
    obtain ⟨new, unique⟩ := List.nodup_cons.1 unique
    have rest := ih unique
    rw [publish] at rest
    by_cases here : key a = k
    · -- no other subscriber has this name
      have none : subscribers.find? (fun a => decide (key a = k)) = none := by
        apply List.find?_eq_none.2
        intro other member same
        exact new (List.mem_map.2 ⟨other, member, (of_decide_eq_true same).trans here.symm⟩)
      rw [none] at rest
      rw [publish, List.filterMap_cons, List.find?_cons_of_pos (by simpa using here), Option.bind_some]
      cases answered : answer a with
      | none => exact rest
      | some r =>
        have own : name r = k := (named a r answered).trans here
        show (r :: subscribers.filterMap answer).filter _ = [r]
        rw [List.filter_cons_of_pos (by simpa using own), rest]
        rfl
    · rw [publish, List.filterMap_cons, List.find?_cons_of_neg (by simpa using here), ← rest]
      cases answered : answer a with
      | none => rfl
      | some r =>
        have other : name r ≠ k := fun same => here ((named a r answered).symm.trans same)
        exact List.filter_cons_of_neg (by simpa using other)

end Sys
