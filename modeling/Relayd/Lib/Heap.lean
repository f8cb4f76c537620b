import Mathlib.Data.List.Basic

/-!
# Objects

The objects a process holds, by reference. An object stays under its reference,
and may be changed in place.
-/

namespace Sys
set_option autoImplicit false

universe u
variable {α : Type u}

/-- The objects, in the order they were made. -/
abbrev Heap (α : Type u) := List α

namespace Heap

/-- The object under a reference. -/
def deref (heap : Heap α) (ref : Nat) : Option α := heap[ref]?

/-- The heap with a new object, whose reference is the length of the old heap. -/
def alloc (heap : Heap α) (object : α) : Heap α := heap ++ [object]

/-- Changes an object in place. -/
def write (heap : Heap α) (ref : Nat) (object : α) : Heap α := heap.set ref object

@[simp] theorem deref_alloc_new (heap : Heap α) (object : α) : (heap.alloc object).deref heap.length = some object := by
  simp only [deref, alloc, List.getElem?_concat_length]

theorem deref_alloc {heap : Heap α} {ref : Nat} {held : α} (object : α) (holds : heap.deref ref = some held) :
    (heap.alloc object).deref ref = some held := by
  have bound := (List.getElem?_eq_some_iff.1 holds).1
  rw [deref, alloc, List.getElem?_append_left bound]
  exact holds

theorem deref_alloc_cases {heap : Heap α} {ref : Nat} {object held : α}
    (holds : (heap.alloc object).deref ref = some held) : heap.deref ref = some held ∨ held = object := by
  by_cases old : ref < heap.length
  · left
    rwa [deref, alloc, List.getElem?_append_left old] at holds
  · right
    rw [deref, alloc, List.getElem?_append_right (by omega)] at holds
    exact List.mem_singleton.1 (List.mem_of_getElem? holds)

theorem deref_write_same {heap : Heap α} {ref : Nat} {held : α} (object : α) (holds : heap.deref ref = some held) :
    (heap.write ref object).deref ref = some object :=
  List.getElem?_set_self (List.getElem?_eq_some_iff.1 holds).1

/-- Writing what an object is. -/
theorem write_held {heap : Heap α} {ref : Nat} {held : α} (holds : heap.deref ref = some held) :
    heap.write ref held = heap := by
  obtain ⟨bound, rfl⟩ := List.getElem?_eq_some_iff.1 holds
  exact List.set_getElem_self bound

theorem deref_write_other {heap : Heap α} {ref ref' : Nat} (object : α) (other : ref' ≠ ref) :
    (heap.write ref object).deref ref' = heap.deref ref' :=
  List.getElem?_set_ne other.symm

theorem deref_write_cases {heap : Heap α} {ref ref' : Nat} {object held : α}
    (holds : (heap.write ref object).deref ref' = some held) : heap.deref ref' = some held ∨ held = object := by
  by_cases same : ref' = ref
  · subst same
    right
    have bound := (List.getElem?_eq_some_iff.1 holds).1
    rw [write, List.length_set] at bound
    rw [deref, write, List.getElem?_set_self bound] at holds
    exact (Option.some.inj holds).symm
  · left
    rwa [deref_write_other object same] at holds

end Heap

end Sys
