import Mathlib.Data.List.Basic

/-!
# Methods with a trace

A method works on a state, emits events and gives a value. `Traced` is the
monad of such methods. Since a method gives the list of the events it emits,
what it leaves alone needs no statement: the events emitted before it are not
within its reach. `Emits Q m` says that every event of `m` satisfies `Q`; it is
closed under every way of composing methods.
-/

namespace Sys
set_option autoImplicit false

variable {S E α β : Type}

/-- What a call of a method does. -/
structure Called (S E α : Type) where
  value : α
  state : S
  events : List E

/-- A method over states `S` that emits events `E`. -/
def Traced (S E α : Type) : Type := S → Called S E α

namespace Traced

instance : Monad (Traced S E) where
  pure a := fun s => ⟨a, s, []⟩
  bind m f := fun s => ⟨(f (m s).value (m s).state).value, (f (m s).value (m s).state).state,
    (m s).events ++ (f (m s).value (m s).state).events⟩

/-- The state. -/
def read : Traced S E S := fun s => ⟨s, s, []⟩

/-- Replaces the state. -/
def update (f : S → S) : Traced S E Unit := fun s => ⟨(), f s, []⟩

/-- Emits one event. -/
def emit (e : E) : Traced S E Unit := fun s => ⟨(), s, [e]⟩

/-- A method on a part of the state. -/
def within {T : Type} (part : S → T) (put : S → T → S) (m : Traced T E α) : Traced S E α := fun s =>
  ⟨(m (part s)).value, put s (m (part s)).state, (m (part s)).events⟩

@[simp] theorem pure_apply (a : α) (s : S) : (pure a : Traced S E α) s = ⟨a, s, []⟩ := rfl

@[simp] theorem bind_apply (m : Traced S E α) (f : α → Traced S E β) (s : S) :
    (m >>= f) s = ⟨(f (m s).value (m s).state).value, (f (m s).value (m s).state).state,
      (m s).events ++ (f (m s).value (m s).state).events⟩ := rfl

@[simp] theorem read_apply (s : S) : (read : Traced S E S) s = ⟨s, s, []⟩ := rfl
@[simp] theorem update_apply (f : S → S) (s : S) : (update f : Traced S E Unit) s = ⟨(), f s, []⟩ := rfl
@[simp] theorem emit_apply (e : E) (s : S) : (emit e : Traced S E Unit) s = ⟨(), s, [e]⟩ := rfl

@[simp] theorem within_apply {T : Type} (part : S → T) (put : S → T → S) (m : Traced T E α) (s : S) :
    within part put m s = ⟨(m (part s)).value, put s (m (part s)).state, (m (part s)).events⟩ := rfl

/-- A method that begins by reading the state is called on that state. -/
theorem read_bind_apply (f : S → Traced S E α) (s : S) : (read >>= f) s = f s s := rfl

theorem update_bind_apply (f : S → S) (m : Unit → Traced S E α) (s : S) : (update f >>= m) s = m () (f s) := rfl

theorem ite_apply {p : Prop} [Decidable p] (m m' : Traced S E α) (s : S) :
    (if p then m else m') s = if p then m s else m' s := by
  split <;> rfl

/-- The value that the method gives satisfies `R`, and every event it emits satisfies `Q`. -/
def Spec (R : α → Prop) (Q : E → Prop) (m : Traced S E α) : Prop := ∀ s, R (m s).value ∧ ∀ e ∈ (m s).events, Q e

variable {R : α → Prop} {Q : E → Prop}

theorem Spec.pure {a : α} (value : R a) : Spec R Q (Pure.pure a : Traced S E α) := by
  intro s
  refine ⟨value, ?_⟩
  intro e member
  simp only [pure_apply, List.not_mem_nil] at member

theorem Spec.bind {R' : β → Prop} {m : Traced S E α} {f : α → Traced S E β} (first : Spec R Q m)
    (rest : ∀ a, R a → Spec R' Q (f a)) : Spec R' Q (m >>= f) := by
  intro s
  obtain ⟨value, early⟩ := first s
  obtain ⟨value', late⟩ := rest _ value (m s).state
  refine ⟨value', ?_⟩
  intro e member
  simp only [bind_apply, List.mem_append] at member
  rcases member with member | member
  · exact early e member
  · exact late e member

theorem Spec.read : Spec (fun _ => True) Q (Traced.read : Traced S E S) := by
  intro s
  refine ⟨True.intro, ?_⟩
  intro e member
  simp only [read_apply, List.not_mem_nil] at member

theorem Spec.update (f : S → S) : Spec (fun _ => True) Q (Traced.update f : Traced S E Unit) := by
  intro s
  refine ⟨True.intro, ?_⟩
  intro e member
  simp only [update_apply, List.not_mem_nil] at member

theorem Spec.emit {e : E} (good : Q e) : Spec (fun _ => True) Q (Traced.emit e : Traced S E Unit) := by
  intro s
  refine ⟨True.intro, ?_⟩
  intro e' member
  simp only [emit_apply, List.mem_singleton] at member
  subst member
  exact good

theorem Spec.mono {R' : α → Prop} {Q' : E → Prop} {m : Traced S E α} (spec : Spec R Q m) (value : ∀ a, R a → R' a)
    (event : ∀ e, Q e → Q' e) : Spec R' Q' m :=
  fun s => ⟨value _ (spec s).1, fun e member => event e ((spec s).2 e member)⟩

/-- The method emits at most `n` events of the kind. -/
def AtMost (kind : E → Bool) (n : Nat) (m : Traced S E α) : Prop := ∀ s, (m s).events.countP kind ≤ n

variable {kind : E → Bool} {n : Nat}

theorem AtMost.of_spec {m : Traced S E α} (spec : Spec (fun _ => True) (fun e => kind e = false) m) :
    AtMost kind n m := by
  intro s
  have none : (m s).events.countP kind = 0 := by
    apply List.countP_eq_zero.2
    intro e member
    rw [(spec s).2 e member]
    exact Bool.false_ne_true
  rw [none]
  exact Nat.zero_le n

/-- Events of the kind come from the first method only. -/
theorem AtMost.then_quiet {m : Traced S E α} {f : α → Traced S E β} (first : AtMost kind n m)
    (rest : ∀ a, AtMost kind 0 (f a)) : AtMost kind n (m >>= f) := by
  intro s
  rw [bind_apply, List.countP_append, Nat.le_zero.1 (rest _ _)]
  exact first s

/-- Events of the kind come from the second method only. -/
theorem AtMost.quiet_then {m : Traced S E α} {f : α → Traced S E β} (first : AtMost kind 0 m)
    (rest : ∀ a, AtMost kind n (f a)) : AtMost kind n (m >>= f) := by
  intro s
  rw [bind_apply, List.countP_append, Nat.le_zero.1 (first s), Nat.zero_add]
  exact rest _ _

end Traced

/-- Every event that is an effect comes after one of its causes. -/
def Caused (effect : E → Prop) (cause : E → E → Prop) (log : List E) : Prop :=
  ∀ (n : Nat) (e : E), log[n]? = some e → effect e → ∃ m : Nat, m < n ∧ ∃ e', log[m]? = some e' ∧ cause e e'

variable {effect : E → Prop} {cause : E → E → Prop}

theorem Caused.nil : Caused effect cause [] := by
  intro n e at_n
  cases at_n

/-- A log may go on with effects whose causes it already has. -/
theorem Caused.append {log new : List E} (caused : Caused effect cause log)
    (ready : ∀ e ∈ new, effect e → ∃ e' ∈ log, cause e e') : Caused effect cause (log ++ new) := by
  intro n e at_n isEffect
  by_cases old : n < log.length
  · rw [List.getElem?_append_left old] at at_n
    obtain ⟨m, before, e', at_m, isCause⟩ := caused n e at_n isEffect
    refine ⟨m, before, e', ?_, isCause⟩
    rw [List.getElem?_append_left (by omega)]
    exact at_m
  · rw [List.getElem?_append_right (by omega)] at at_n
    obtain ⟨e', member, isCause⟩ := ready e (List.mem_of_getElem? at_n) isEffect
    obtain ⟨m, at_m⟩ := List.getElem?_of_mem member
    have within := (List.getElem?_eq_some_iff.1 at_m).1
    refine ⟨m, by omega, e', ?_, isCause⟩
    rw [List.getElem?_append_left within]
    exact at_m

end Sys
