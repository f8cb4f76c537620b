import Mathlib.Data.List.Basic
import Mathlib.Data.List.Count
import Mathlib.Data.List.Induction

/-!
# Bounded histories

A history keeps its newest entries first, and drops the oldest one when it gets
a new one while full. How many of its entries are of a kind is what a retry
loop without a counter goes by: after `n` entries of the kind it is `n`, until
the history is full of them. A history full from the start, or of capacity 0,
keeps the length it has, but never less than 1.
-/

namespace Sys
set_option autoImplicit false

universe u
variable {α : Type u}

/-- Number of the newest entries, up to the first one that is not of the kind. -/
def lastRow (p : α → Bool) (history : List α) : Nat := (history.takeWhile p).length

/-- The entries of a kind are the last row of them, and those older than an entry of another kind. -/
theorem countP_eq_lastRow_add (p : α → Bool) (history : List α) :
    history.countP p = lastRow p history + (history.dropWhile p).countP p := by
  have row : (history.takeWhile p).countP p = lastRow p history :=
    List.countP_eq_length.2 (List.all_eq_true.1 List.all_takeWhile)
  conv => lhs; rw [← List.takeWhile_append_dropWhile (p := p) (l := history), List.countP_append, row]

/-- The history after a new entry. -/
def push (capacity : Nat) (x : α) (history : List α) : List α :=
  x :: history.take (if history.length < capacity then history.length else history.length - 1)

/-- The length at which a history stays. -/
def fullLength (capacity : Nat) (start : List α) : Nat := max start.length (max 1 capacity)

/-- The history after `n` entries of the kind `p`, from `start`. -/
structure Pushed (capacity : Nat) (start : List α) (p : α → Prop) (n : Nat) (history : List α) : Prop where
  bounded : history.length ≤ fullLength capacity start
  grows : start.length ≤ history.length
  long : min n (fullLength capacity start) ≤ history.length
  recent : ∀ x ∈ history.take n, p x

variable {capacity n : Nat} {start history : List α} {p : α → Prop}

theorem length_push (x : α) :
    (push capacity x history).length = if history.length < capacity then history.length + 1 else max 1 history.length := by
  unfold push
  by_cases room : history.length < capacity
  · simp [room]
  · simp only [room, ↓reduceIte, List.length_cons, List.length_take]
    omega

theorem Pushed.zero : Pushed capacity start p 0 start where
  bounded := by
    unfold fullLength
    omega
  grows := Nat.le_refl _
  long := by omega
  recent := by simp

theorem Pushed.push {x : α} (kind : p x) (pushed : Pushed capacity start p n history) :
    Pushed capacity start p (n + 1) (Sys.push capacity x history) := by
  have bounded := pushed.bounded
  have grows := pushed.grows
  have long := pushed.long
  unfold fullLength at bounded long
  constructor
  · rw [length_push]
    unfold fullLength
    split <;> omega
  · rw [length_push]
    split <;> omega
  · rw [length_push]
    unfold fullLength
    split <;> omega
  · intro y member
    unfold Sys.push at member
    rw [List.take_succ_cons] at member
    rcases List.mem_cons.1 member with rfl | older
    · exact kind
    · apply pushed.recent
      rw [List.take_take] at older
      exact List.take_subset_take_left history (Nat.min_le_left _ _) older

theorem Pushed.count_le (pushed : Pushed capacity start p n history) (q : α → Bool) :
    history.countP q ≤ fullLength capacity start := Nat.le_trans List.countP_le_length pushed.bounded

theorem Pushed.le_count {q : α → Bool} (pushed : Pushed capacity start (fun x => q x = true) n history) :
    min n (fullLength capacity start) ≤ history.countP q := by
  have recent : (history.take n).countP q = (history.take n).length := List.countP_eq_length.2 pushed.recent
  have sub : (history.take n).countP q ≤ history.countP q := List.Sublist.countP_le (List.take_sublist n history)
  have long := pushed.long
  rw [List.length_take] at recent
  omega

/-! ## A history after several entries -/

/-- The history after the entries, the oldest first. -/
def pushAll (capacity : Nat) (xs history : List α) : List α := xs.foldl (fun history x => push capacity x history) history

theorem pushAll_concat (x : α) (xs history : List α) :
    pushAll capacity (xs ++ [x]) history = push capacity x (pushAll capacity xs history) := by
  simp only [pushAll, List.foldl_append, List.foldl_cons, List.foldl_nil]

variable (capacity) in
theorem Pushed.pushAll (xs start : List α) :
    Pushed capacity start (fun _ => True) xs.length (pushAll capacity xs start) := by
  induction xs using List.reverseRecOn with
  | nil => exact Pushed.zero
  | append_singleton xs x ih =>
    rw [pushAll_concat, List.length_append, List.length_singleton]
    exact ih.push True.intro

variable (capacity) in
/-- What is left of the entries and of the history before them is the newest part. -/
theorem pushAll_eq_take (xs start : List α) :
    ∃ length, pushAll capacity xs start = (xs.reverse ++ start).take length := by
  induction xs using List.reverseRecOn with
  | nil => exact ⟨start.length, by simp [pushAll]⟩
  | append_singleton xs x ih =>
    obtain ⟨length, newest⟩ := ih
    rw [pushAll_concat, push, newest, List.take_take, List.reverse_append, List.reverse_singleton, List.singleton_append,
      List.cons_append]
    exact ⟨_, List.take_succ_cons.symm⟩

/-- A history that was all of the kind stays so exactly when the new entries are that it has room for. -/
theorem forall_pushAll_iff {xs start : List α} (old : ∀ x ∈ start, p x) :
    (∀ x ∈ pushAll capacity xs start, p x) ↔ ∀ x ∈ xs.reverse.take (fullLength capacity start), p x := by
  obtain ⟨length, newest⟩ := pushAll_eq_take capacity xs start
  have pushed := Pushed.pushAll capacity xs start
  have bounded := pushed.bounded
  have long := pushed.long
  rw [newest, List.length_take, List.length_append, List.length_reverse] at bounded long
  -- as many of the new entries are left as the history has room for
  have same : xs.reverse.take length = xs.reverse.take (fullLength capacity start) := by
    rw [List.take_eq_take_iff, List.length_reverse]
    omega
  rw [newest, List.take_append, List.forall_mem_append, same, and_iff_left_iff_imp]
  exact fun _ x member => old x (List.mem_of_mem_take member)

end Sys
