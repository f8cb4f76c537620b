import Mathlib.Data.List.Nodup

/-!
# Maps in insertion order

A map whose keys are listed in the order they were first set.
-/

namespace Sys
set_option autoImplicit false

universe u v

abbrev OrderedMap (K : Type u) (V : Type v) := List (K × V)

namespace OrderedMap

variable {K : Type u} {V : Type v} [BEq K]

def get (m : OrderedMap K V) (k : K) : Option V := m.lookup k

/-- A key that is already there keeps its place. -/
def set (m : OrderedMap K V) (k : K) (v : V) : OrderedMap K V :=
  if (m.lookup k).isSome then m.map fun e => if e.1 == k then (e.1, v) else e else m ++ [(k, v)]

def delete (m : OrderedMap K V) (k : K) : OrderedMap K V := m.filter fun e => !(e.1 == k)

def keys (m : OrderedMap K V) : List K := m.map Prod.fst

variable [LawfulBEq K]

theorem get_cons_same (e : K × V) (m : OrderedMap K V) : get (e :: m) e.1 = some e.2 := by
  obtain ⟨k, v⟩ := e
  exact List.lookup_cons_self

theorem get_cons_other {e : K × V} {k : K} (other : k ≠ e.1) (m : OrderedMap K V) : get (e :: m) k = get m k := by
  rw [get, List.lookup_cons, beq_false_of_ne other, get]

omit [LawfulBEq K] in
theorem get_append (m m' : OrderedMap K V) (k : K) : get (m ++ m') k = (get m k).or (get m' k) :=
  List.lookup_append

theorem mem_keys {m : OrderedMap K V} {k : K} : k ∈ m.keys ↔ (m.get k).isSome = true := by
  induction m with
  | nil => simp [keys, get]
  | cons e m ih =>
    by_cases same : k = e.1
    · subst same
      simp only [keys, List.map_cons, List.mem_cons, true_or, get_cons_same, Option.isSome_some]
    · rw [get_cons_other same, ← ih]
      simp only [keys, List.map_cons, List.mem_cons, same, false_or]

/-- What `set` makes of a key that is there. -/
theorem get_map_same (m : OrderedMap K V) (k : K) (v : V) :
    get (m.map fun e => if e.1 == k then (e.1, v) else e) k = (m.get k).map fun _ => v := by
  induction m with
  | nil => rfl
  | cons e m ih =>
    obtain ⟨key, held⟩ := e
    by_cases same : key = k
    · subst same
      simp only [List.map_cons, BEq.rfl, ↓reduceIte, get_cons_same (key, v), get_cons_same (key, held), Option.map_some]
    · have other : k ≠ key := fun equal => same equal.symm
      have same : (key == k) = false := beq_false_of_ne same
      rw [List.map_cons, get_cons_other (e := (key, held)) other, ← ih]
      simp only [same, Bool.false_eq_true, ↓reduceIte]
      exact get_cons_other (e := (key, held)) other _

theorem get_map_other {k k' : K} (other : k' ≠ k) (m : OrderedMap K V) (v : V) :
    get (m.map fun e => if e.1 == k then (e.1, v) else e) k' = m.get k' := by
  induction m with
  | nil => rfl
  | cons e m ih =>
    obtain ⟨key, held⟩ := e
    rw [List.map_cons]
    by_cases here : k' = key
    · have not : (key == k) = false := beq_false_of_ne fun equal => other (here.trans equal)
      subst here
      simp only [not, Bool.false_eq_true, ↓reduceIte, get_cons_same (k', held)]
    · rw [get_cons_other (e := (key, held)) here, ← ih]
      split
      · exact get_cons_other (e := (key, v)) here _
      · exact get_cons_other (e := (key, held)) here _

@[simp] theorem get_set_same (m : OrderedMap K V) (k : K) (v : V) : (m.set k v).get k = some v := by
  unfold set
  split
  case isTrue there =>
    obtain ⟨held, holds⟩ := Option.isSome_iff_exists.1 there
    rw [get_map_same, get, holds, Option.map_some]
  case isFalse absent =>
    have absent : m.get k = none := Option.not_isSome_iff_eq_none.1 absent
    rw [get_append, absent, Option.none_or]
    exact get_cons_same (k, v) []

@[simp] theorem get_set_other {m : OrderedMap K V} {k k' : K} {v : V} (other : k' ≠ k) : (m.set k v).get k' = m.get k' := by
  unfold set
  split
  · exact get_map_other other m v
  · rw [get_append, get_cons_other (e := (k, v)) other]
    exact Option.or_none

@[simp] theorem get_delete_same (m : OrderedMap K V) (k : K) : (m.delete k).get k = none := by
  apply Option.not_isSome_iff_eq_none.1
  intro there
  obtain ⟨e, member, same⟩ := List.mem_map.1 (mem_keys.2 there)
  simpa [same] using (List.mem_filter.1 member).2

@[simp] theorem get_delete_other {m : OrderedMap K V} {k k' : K} (other : k' ≠ k) : (m.delete k).get k' = m.get k' := by
  induction m with
  | nil => rfl
  | cons e m ih =>
    by_cases deleted : e.1 = k
    · rw [delete, List.filter_cons_of_neg (by simpa using deleted), get_cons_other (by rwa [deleted])]
      exact ih
    · rw [delete, List.filter_cons_of_pos (by simpa using deleted)]
      by_cases here : k' = e.1
      · rw [here, get_cons_same, get_cons_same]
      · rw [get_cons_other here, get_cons_other here]
        exact ih

/-- What is found after a key was set was set, or was there. -/
theorem get_set_some {m : OrderedMap K V} {k k' : K} {v v' : V} (found : (m.set k v).get k' = some v') :
    v' = v ∨ m.get k' = some v' := by
  by_cases same : k' = k
  · rw [same, get_set_same] at found
    exact Or.inl (Option.some.inj found).symm
  · rw [get_set_other same] at found
    exact Or.inr found

/-- What is found after a key was deleted was there. -/
theorem get_delete_some {m : OrderedMap K V} {k k' : K} {v : V} (found : (m.delete k).get k' = some v) :
    m.get k' = some v := by
  by_cases same : k' = k
  · rw [same, get_delete_same] at found
    cases found
  · rw [get_delete_other same] at found
    exact found

omit [LawfulBEq K] in
theorem keys_delete (m : OrderedMap K V) (k : K) : (m.delete k).keys = m.keys.filter fun k' => !(k' == k) := by
  simp only [keys, delete, List.filter_map]
  rfl

/-- A key is set in its place or at the end: no key comes twice. -/
theorem nodup_set {m : OrderedMap K V} (nodup : m.keys.Nodup) (k : K) (v : V) : (m.set k v).keys.Nodup := by
  unfold set
  split
  case isTrue there =>
    have same : keys (m.map fun e => if e.1 == k then (e.1, v) else e) = m.keys := by
      rw [keys, List.map_map]
      apply List.map_congr_left
      intro e _
      simp only [Function.comp]
      split <;> rfl
    rwa [same]
  case isFalse absent =>
    have new : k ∉ m.keys := fun member => absent (mem_keys.1 member)
    rw [keys, List.map_append]
    exact nodup.append (List.nodup_singleton k) (by simpa using new)

omit [LawfulBEq K] in
theorem nodup_delete {m : OrderedMap K V} (nodup : m.keys.Nodup) (k : K) : (m.delete k).keys.Nodup := by
  rw [keys_delete]
  exact nodup.filter _

end OrderedMap

end Sys
