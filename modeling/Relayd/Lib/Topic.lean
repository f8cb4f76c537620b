import Mathlib.Logic.Function.Basic
import Mathlib.Data.List.Basic

/-!
# Topics

A topic keeps, for each key, the records appended under it, in order. A
consumer is a cursor: for each key, how many of its records it has taken. What
a cursor has taken of a key is a beginning of the key's records, so each
consumer takes them in the order they were appended; nothing relates the
records of two keys.
-/

namespace Sys
set_option autoImplicit false

universe u v

/-- The records of each key. -/
abbrev Topic (K : Type u) (V : Type v) := K → List V

/-- How many records of each key a consumer has taken. -/
abbrev Cursor (K : Type u) := K → Nat

variable {K : Type u} {V : Type v} [DecidableEq K]

namespace Topic

def append (t : Topic K V) (k : K) (v : V) : Topic K V := Function.update t k (t k ++ [v])

/-- Appends records one after the other. -/
def appendAll (t : Topic K V) (records : List (K × V)) : Topic K V := records.foldl (fun t r => t.append r.1 r.2) t

/-- The record that the cursor takes next. -/
def next (t : Topic K V) (c : Cursor K) (k : K) : Option V := (t k)[c k]?

/-- The last record of a key. -/
def last (t : Topic K V) (k : K) : Option V := (t k).getLast?

end Topic

def Cursor.advance (c : Cursor K) (k : K) : Cursor K := Function.update c k (c k + 1)

/-- The cursor has taken every record of the key. -/
def CaughtUp (t : Topic K V) (c : Cursor K) (k : K) : Prop := c k = (t k).length

omit [DecidableEq K] in
instance (t : Topic K V) (c : Cursor K) (k : K) : Decidable (CaughtUp t c k) :=
  inferInstanceAs (Decidable (c k = (t k).length))

/-- No cursor is ahead of its topic. -/
def Within (t : Topic K V) (c : Cursor K) : Prop := ∀ k, c k ≤ (t k).length

namespace Topic

@[simp] theorem append_same (t : Topic K V) (k : K) (v : V) : t.append k v k = t k ++ [v] := by
  simp only [append, Function.update_self]

@[simp] theorem append_other {t : Topic K V} {k k' : K} {v : V} (other : k' ≠ k) : t.append k v k' = t k' := by
  simp only [append, Function.update_of_ne other]

/-- The first record of a key. -/
theorem append_first {t : Topic K V} {k : K} (new : t k = []) (v : V) : t.append k v k = [v] := by
  rw [append_same, new, List.nil_append]

theorem mem_append {t : Topic K V} {k k' : K} {v w : V} :
    w ∈ t.append k v k' ↔ w ∈ t k' ∨ (k' = k ∧ w = v) := by
  by_cases same : k' = k
  · subst same
    simp only [append_same, List.mem_append, List.mem_singleton, true_and]
  · simp only [append_other same, same, false_and, or_false]

theorem appendAll_apply (t : Topic K V) (records : List (K × V)) (k : K) :
    t.appendAll records k = t k ++ (records.filter fun r => r.1 = k).map Prod.snd := by
  induction records generalizing t with
  | nil => simp [appendAll]
  | cons r records ih =>
    have unfolded : t.appendAll (r :: records) = (t.append r.1 r.2).appendAll records := rfl
    rw [unfolded, ih]
    by_cases same : r.1 = k
    · subst same
      simp only [append_same, decide_true, List.filter_cons_of_pos, List.map_cons, List.append_assoc,
        List.singleton_append]
    · have other : k ≠ r.1 := fun equal => same equal.symm
      simp only [append_other other, same, decide_false, Bool.false_eq_true, not_false_eq_true, List.filter_cons_of_neg]

theorem mem_appendAll {t : Topic K V} {records : List (K × V)} {k : K} {v : V} :
    v ∈ t.appendAll records k ↔ v ∈ t k ∨ (k, v) ∈ records := by
  rw [appendAll_apply, List.mem_append, List.mem_map]
  constructor
  · rintro (old | ⟨⟨k', v'⟩, new, rfl⟩)
    · exact Or.inl old
    · obtain ⟨member, same⟩ := List.mem_filter.1 new
      right
      rw [← of_decide_eq_true same]
      exact member
  · rintro (old | new)
    · exact Or.inl old
    · exact Or.inr ⟨(k, v), List.mem_filter.2 ⟨new, decide_eq_true rfl⟩, rfl⟩

@[simp] theorem last_append_same (t : Topic K V) (k : K) (v : V) : (t.append k v).last k = some v := by
  simp only [last, append_same, List.getLast?_append, List.getLast?_singleton, Option.some_or]

@[simp] theorem last_append_other {t : Topic K V} {k k' : K} {v : V} (other : k' ≠ k) :
    (t.append k v).last k' = t.last k' := by
  simp only [last, append_other other]

omit [DecidableEq K] in
theorem last_mem {t : Topic K V} {k : K} {v : V} (last : t.last k = some v) : v ∈ t k :=
  List.mem_of_getLast? last

omit [DecidableEq K] in
theorem last_isSome {t : Topic K V} {k : K} {v : V} (member : v ∈ t k) : ∃ w, t.last k = some w :=
  ⟨_, List.getLast?_eq_some_getLast (List.ne_nil_of_mem member)⟩

omit [DecidableEq K] in
theorem next_mem {t : Topic K V} {c : Cursor K} {k : K} {v : V} (next : t.next c k = some v) : v ∈ t k :=
  List.mem_of_getElem? next

omit [DecidableEq K] in
/-- The record that a cursor takes next is one of those that a cursor behind it has yet to take. -/
theorem next_mem_drop {t : Topic K V} {c : Cursor K} {k : K} {v : V} (next : t.next c k = some v) {n : Nat}
    (behind : n ≤ c k) : v ∈ (t k).drop n := by
  apply List.mem_of_getElem?
  rw [List.getElem?_drop, Nat.add_sub_cancel' behind]
  exact next

omit [DecidableEq K] in
/-- A cursor takes the first of the records that it has yet to take. -/
theorem drop_of_next {t : Topic K V} {c : Cursor K} {k : K} {v : V} (next : t.next c k = some v) :
    (t k).drop (c k) = v :: (t k).drop (c k + 1) := by
  obtain ⟨within, taken⟩ := List.getElem?_eq_some_iff.1 next
  rw [List.drop_eq_getElem_cons within, taken]

omit [DecidableEq K] in
/-- What a cursor has yet to take, after it moved on and the topic grew. -/
theorem mem_drop_append {records more : List V} {m n : Nat} (ahead : m ≤ n) {v : V}
    (member : v ∈ (records ++ more).drop n) : v ∈ records.drop m ∨ v ∈ more := by
  rw [List.drop_append] at member
  rcases List.mem_append.1 member with old | new
  · exact Or.inl (List.drop_subset_drop_left records ahead old)
  · exact Or.inr (List.mem_of_mem_drop new)

omit [DecidableEq K] in
theorem next_lt {t : Topic K V} {c : Cursor K} {k : K} {v : V} (next : t.next c k = some v) : c k < (t k).length :=
  (List.getElem?_eq_some_iff.1 next).1

/-- The record taken last by a cursor that has caught up is the last one. -/
theorem last_of_next {t : Topic K V} {c : Cursor K} {k : K} {v : V} (next : t.next c k = some v)
    (caught : CaughtUp t (c.advance k) k) : t.last k = some v := by
  have position : c k + 1 = (t k).length := by simpa only [CaughtUp, Cursor.advance, Function.update_self] using caught
  rw [last, List.getLast?_eq_getElem?, ← position, Nat.add_sub_cancel]
  exact next

end Topic

@[simp] theorem Cursor.advance_same (c : Cursor K) (k : K) : c.advance k k = c k + 1 := by
  simp only [advance, Function.update_self]

@[simp] theorem Cursor.advance_other {c : Cursor K} {k k' : K} (other : k' ≠ k) : c.advance k k' = c k' := by
  simp only [advance, Function.update_of_ne other]

theorem Within.append {t : Topic K V} {c : Cursor K} (within : Within t c) (k : K) (v : V) : Within
    (t.append k v) c := by
  intro k'
  by_cases same : k' = k
  · subst same
    simp only [Topic.append_same, List.length_append, List.length_singleton]
    have := within k'
    omega
  · simpa only [Topic.append_other same] using within k'

theorem Within.advance {t : Topic K V} {c : Cursor K} {k : K} {v : V} (within : Within t c)
    (next : t.next c k = some v) : Within t (c.advance k) := by
  intro k'
  by_cases same : k' = k
  · subst same
    rw [Cursor.advance_same]
    exact Topic.next_lt next
  · simpa only [Cursor.advance_other same] using within k'

/-- A cursor is behind a key that has just got a record. -/
theorem Within.behind {t : Topic K V} {c : Cursor K} (within : Within t c) (k : K) (v : V) :
    ¬ CaughtUp (t.append k v) c k := by
  intro caught
  have bound := within k
  simp only [CaughtUp, Topic.append_same, List.length_append, List.length_singleton] at caught
  omega

theorem CaughtUp.append_other {t : Topic K V} {c : Cursor K} {k k' : K} {v : V} (other : k' ≠ k) :
    CaughtUp (t.append k v) c k' ↔ CaughtUp t c k' := by
  simp only [CaughtUp, Topic.append_other other]

theorem CaughtUp.advance_other {t : Topic K V} {c : Cursor K} {k k' : K} (other : k' ≠ k) :
    CaughtUp t (c.advance k) k' ↔ CaughtUp t c k' := by
  simp only [CaughtUp, Cursor.advance_other other]

end Sys
