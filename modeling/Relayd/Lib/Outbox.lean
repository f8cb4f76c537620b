import Mathlib.Data.List.Basic

/-!
# Casts on their way

A cast is issued at one time and appended to its topic later, each by a producer
of its own: the casts that wait may be appended in any order. What waits for a
key is kept in the order of issue.
-/

namespace Sys
set_option autoImplicit false

universe u v
variable {K : Type u} {V : Type v} [DecidableEq K]

/-- The issued casts that are not appended yet, oldest first. -/
abbrev Outbox (K : Type u) (V : Type v) := List (K × V)

namespace Outbox

/-- Issues a cast. -/
def send (outbox : Outbox K V) (k : K) (v : V) : Outbox K V := outbox ++ [(k, v)]

/-- The casts that wait for a key. -/
def waiting (outbox : Outbox K V) (k : K) : List V := (outbox.filter fun cast => cast.1 = k).map Prod.snd

/-- The casts for the key issued before the cast at `n`. -/
def older (outbox : Outbox K V) (n : Nat) (k : K) : List V := waiting (outbox.take n) k

/-- The casts for the key issued after the cast at `n`. -/
def newer (outbox : Outbox K V) (n : Nat) (k : K) : List V := waiting (outbox.drop (n + 1)) k

theorem waiting_append (a b : Outbox K V) (k : K) : waiting (a ++ b) k = waiting a k ++ waiting b k := by
  simp only [waiting, List.filter_append, List.map_append]

theorem waiting_cons_same (k : K) (v : V) (outbox : Outbox K V) : waiting
    ((k, v) :: outbox) k = v :: waiting outbox k := by
  simp only [waiting, decide_true, List.filter_cons_of_pos, List.map_cons]

theorem waiting_cons_other {k k' : K} (v : V) (outbox : Outbox K V) (other : k' ≠ k) :
    waiting ((k, v) :: outbox) k' = waiting outbox k' := by
  rw [waiting, List.filter_cons_of_neg (by simpa using other.symm), waiting]

@[simp] theorem waiting_send_same (outbox : Outbox K V) (k : K) (v : V) :
    (outbox.send k v).waiting k = outbox.waiting k ++ [v] := by
  rw [send, waiting_append, waiting_cons_same]
  rfl

@[simp] theorem waiting_send_other {outbox : Outbox K V} {k k' : K} {v : V} (other : k' ≠ k) :
    (outbox.send k v).waiting k' = outbox.waiting k' := by
  rw [send, waiting_append, waiting_cons_other v [] other]
  exact List.append_nil _

/-- A cast that was just issued waits. -/
theorem waiting_send_ne_nil (outbox : Outbox K V) (k : K) (v : V) : (outbox.send k v).waiting k ≠ [] := by
  rw [waiting_send_same]
  exact List.append_ne_nil_of_right_ne_nil _ (List.cons_ne_nil v [])

theorem mem_waiting {outbox : Outbox K V} {k : K} {v : V} : v ∈ outbox.waiting k ↔ (k, v) ∈ outbox := by
  simp [waiting]

omit [DecidableEq K] in
theorem mem_send {outbox : Outbox K V} {k : K} {v : V} {cast : K × V} :
    cast ∈ outbox.send k v ↔ cast ∈ outbox ∨ cast = (k, v) := by
  simp only [send, List.mem_append, List.mem_singleton]

omit [DecidableEq K] in
theorem split_at {outbox : Outbox K V} {n : Nat} {cast : K × V} (position : outbox[n]? = some cast) :
    outbox = outbox.take n ++ cast :: outbox.drop (n + 1) := by
  obtain ⟨bound, item⟩ := List.getElem?_eq_some_iff.1 position
  rw [← item, ← List.drop_eq_getElem_cons bound, List.take_append_drop]

/-- What waits for the key of a cast: the older casts, the cast, the newer ones. -/
theorem waiting_at {outbox : Outbox K V} {n : Nat} {k : K} {v : V} (position : outbox[n]? = some (k, v)) :
    outbox.waiting k = outbox.older n k ++ v :: outbox.newer n k := by
  conv_lhs => rw [split_at position]
  rw [waiting_append, waiting_cons_same]
  rfl

/-- What waits when the cast is gone. -/
theorem waiting_eraseIdx (outbox : Outbox K V) (n : Nat) (k : K) :
    waiting (outbox.eraseIdx n) k = outbox.older n k ++ outbox.newer n k := by
  rw [List.eraseIdx_eq_take_drop_succ, waiting_append]
  rfl

theorem waiting_eraseIdx_other {outbox : Outbox K V} {n : Nat} {k k' : K} {v : V}
    (position : outbox[n]? = some (k, v)) (other : k' ≠ k) : waiting (outbox.eraseIdx n) k' = outbox.waiting k' := by
  conv_rhs => rw [split_at position]
  rw [waiting_append, waiting_cons_other v _ other, waiting_eraseIdx]
  rfl

/-- The cast is gone, and no other. -/
theorem length_waiting_eraseIdx {outbox : Outbox K V} {n : Nat} {k : K} {v : V} (position : outbox[n]? = some (k, v)) :
    (waiting (outbox.eraseIdx n) k).length + 1 = (outbox.waiting k).length := by
  rw [waiting_eraseIdx, waiting_at position]
  simp only [List.length_append, List.length_cons]
  omega

/-- Of the casts that wait for a key, one has no older one. -/
theorem exists_oldest {outbox : Outbox K V} {k : K} (some : outbox.waiting k ≠ []) :
    ∃ (n : Nat) (v : V), outbox[n]? = Option.some (k, v) ∧ outbox.older n k = [] := by
  induction outbox with
  | nil => exact absurd rfl some
  | cons cast outbox ih =>
    obtain ⟨k', v⟩ := cast
    by_cases own : k = k'
    · subst own
      exact ⟨0, v, rfl, rfl⟩
    · rw [waiting_cons_other v outbox own] at some
      obtain ⟨n, v', position, oldest⟩ := ih some
      refine ⟨n + 1, v', position, ?_⟩
      rw [older, List.take_succ_cons, waiting_cons_other v _ own]
      exact oldest

end Outbox

/-- A value that overtakes the older ones leaves the last of them all, but for what tells it from them. -/
theorem last_overtaken {W S : Type*} (f : W → S) (base older newer : List W) (w : W)
    (same : newer = [] → ∀ w' ∈ older, f w' = f w) :
    (base ++ [w] ++ (older ++ newer)).getLast?.map f = (base ++ (older ++ w :: newer)).getLast?.map f := by
  rcases List.eq_nil_or_concat' newer with rfl | ⟨newer, newest, rfl⟩
  · rcases List.eq_nil_or_concat' older with rfl | ⟨older, left, rfl⟩
    · simp only [List.append_nil, List.nil_append]
    · have equal := same rfl left (by simp)
      simp only [← List.append_assoc, List.append_nil, List.getLast?_append, List.getLast?_singleton, Option.some_or,
        Option.map_some, equal]
  · rw [List.append_cons older w (newer ++ [newest])]
    simp only [← List.append_assoc, List.getLast?_append, List.getLast?_singleton, Option.some_or]

end Sys
