import Mathlib.Algebra.Ring.Int.Defs
import Relayd.Lib.Json

/-!
# Records as JSON objects

A record is read from an object by the names of its members, each of which may
be there once: `required` and `optional`. So a reader does not see in which
order the members are listed (`Shuffled`), and what a reader accepts is valid
under a schema as soon as that holds of each member (`Admits`).
-/

namespace Wire
set_option autoImplicit false

/-- The text of ASCII bytes. -/
def ascii (text : List UInt8) : String := String.ofList (text.map fun b => Char.ofNat b.toNat)

theorem utf8EncodeChar_ascii {b : UInt8} (small : b < 128) : String.utf8EncodeChar (Char.ofNat b.toNat) = [b] := by
  have bound : b.toNat < 128 := small
  have valid : b.toNat.isValidChar := Or.inl (by omega)
  have value : (Char.ofNat b.toNat).val.toNat = b.toNat := by
    rw [Char.ofNat, dif_pos valid]
    rfl
  simp only [String.utf8EncodeChar, value]
  rw [if_pos (by omega)]
  congr 1
  apply UInt8.toNat.inj
  simp

theorem utf8_ascii {text : List UInt8} (small : ∀ b ∈ text, b < 128) : utf8 (ascii text) = text := by
  rw [utf8, ascii, String.toByteArray_ofList]
  induction text with
  | nil => rfl
  | cons b text ih =>
    obtain ⟨here, later⟩ := List.forall_mem_cons.1 small
    rw [List.map_cons, List.utf8Encode_cons, List.utf8Encode_singleton, utf8EncodeChar_ascii here]
    simp [ih later]

/-- A JSON value. A number without a point and an exponent is an `int`, another one is `mantissa * 10 ^ exponent`. -/
inductive Value
  | null
  | bool (b : Bool)
  | int (n : Int)
  | decimal (mantissa exponent : Int)
  | text (s : String)
  | array (items : List Value)
  | object (members : List (String × Value))

namespace Value

/-! ## Compact texts -/

/-- A byte within quotes. -/
def escapedByte (b : UInt8) : List UInt8 :=
  if b = 34 ∨ b = 92 then [92, b]
  else if b < 32 then [92, 117, 48, 48, 48 + b / 16, if b % 16 < 10 then 48 + b % 16 else 87 + b % 16]
  else [b]

def escaped (text : List UInt8) : List UInt8 := text.flatMap escapedByte

/-- A byte that stands for itself within quotes. -/
def Plain (b : UInt8) : Prop := b ≠ 34 ∧ b ≠ 92 ∧ 32 ≤ b

instance (b : UInt8) : Decidable (Plain b) := inferInstanceAs (Decidable (b ≠ 34 ∧ b ≠ 92 ∧ 32 ≤ b))

-- byte after byte: going through every `UInt8` instead would not end
instance (text : List UInt8) : Decidable (∀ b ∈ text, Plain b) := List.decidableBAll Plain text

theorem escaped_plain {text : List UInt8} (plain : ∀ b ∈ text, Plain b) : escaped text = text := by
  induction text with
  | nil => rfl
  | cons b text ih =>
    obtain ⟨here, later⟩ := List.forall_mem_cons.1 plain
    have itself : escapedByte b = [b] := by
      rw [escapedByte, if_neg (not_or.2 ⟨here.1, here.2.1⟩), if_neg (UInt8.not_lt.2 here.2.2)]
    rw [escaped, List.flatMap_cons, itself, ← escaped, ih later]
    rfl

mutual

/-- The text of a value without any blanks. -/
def render : Value → List UInt8
  | .null => utf8 "null"
  | .bool b => utf8 (toString b)
  | .int n => utf8 (toString n)
  | .decimal mantissa exponent => utf8 (toString mantissa ++ "e" ++ toString exponent)
  | .text s => Json.quoted (escaped (utf8 s))
  | .array items => 91 :: [44].intercalate (renderItems items) ++ [93]
  | .object members => 123 :: [44].intercalate (renderMembers members) ++ [125]

def renderItems : List Value → List (List UInt8)
  | [] => []
  | v :: items => v.render :: renderItems items

def renderMembers : List (String × Value) → List (List UInt8)
  | [] => []
  | (name, v) :: members => (Json.quoted (escaped (utf8 name)) ++ 58 :: v.render) :: renderMembers members

end

theorem renderMembers_plain {members : List (String × Value)} (plain : ∀ m ∈ members, ∀ b ∈ utf8 m.1, Plain b) :
    renderMembers members = members.map fun m => Json.field m.1 m.2.render := by
  induction members with
  | nil => rfl
  | cons m members ih =>
    obtain ⟨here, later⟩ := List.forall_mem_cons.1 plain
    simp only [renderMembers, List.map_cons, ih later, escaped_plain here, Json.field]

/-- The text of an object whose names stand for themselves. -/
theorem render_object {members : List (String × Value)} (plain : ∀ m ∈ members, ∀ b ∈ utf8 m.1, Plain b) :
    (Value.object members).render = Json.object (members.map fun m => (m.1, m.2.render)) := by
  simp only [render, renderMembers_plain plain, Json.object, List.map_map, Function.comp_def]

theorem render_single {name : String} (plain : ∀ b ∈ utf8 name, Plain b) (v : Value) :
    (Value.object [(name, v)]).render = Json.object [(name, v.render)] :=
  render_object (by simpa using plain)

theorem render_pair {name name' : String} (plain : ∀ b ∈ utf8 name, Plain b) (plain' : ∀ b ∈ utf8 name', Plain b)
    (v v' : Value) :
    (Value.object [(name, v), (name', v')]).render = Json.object [(name, v.render), (name', v'.render)] :=
  render_object (by simpa using ⟨plain, plain'⟩)

theorem render_text {s : String} (plain : ∀ b ∈ utf8 s, Plain b) : (Value.text s).render = Json.quoted (utf8 s) := by
  rw [render, escaped_plain plain]

/-! ## Reading by name -/

/-- What is listed under a name. -/
def named (name : String) (members : List (String × Value)) : List Value :=
  members.filterMap fun m => if m.1 = name then some m.2 else none

@[simp] theorem named_append (name : String) (members members' : List (String × Value)) :
    named name (members ++ members') = named name members ++ named name members' := List.filterMap_append

section
variable {α : Type} (name : String) (read : Value → Option α) (members : List (String × Value))

/-- A member that has to be there. -/
def required : Option α :=
  match named name members with
  | [v] => read v
  | _ => none

/-- A member that may be absent or null. -/
def optional : Option (Option α) :=
  match named name members with
  | [] => some none
  | [.null] => some none
  | [v] => (read v).map some
  | _ => none

/-- An object whose only member names a variant. -/
def variant : Value → Option α
  | .object [(name', v)] => if name' = name then read v else none
  | _ => none

/-- The members of an object. -/
def record (readMembers : List (String × Value) → Option α) : Value → Option α
  | .object members => readMembers members
  | _ => none

end

/-- A member that is left out when there is nothing. -/
def skipNone {α : Type} (name : String) (toValue : α → Value) (a : Option α) : List (String × Value) :=
  (a.map fun a => (name, toValue a)).toList

/-- A member that is null when there is nothing. -/
def orNull {α : Type} (toValue : α → Value) (a : Option α) : Value := (a.map toValue).getD .null

section
variable {α : Type} {name : String} {read : Value → Option α} {members : List (String × Value)} {toValue : α → Value}

@[simp] theorem named_nil : named name [] = [] := rfl

@[simp] theorem named_cons (m : String × Value) :
    named name (m :: members) = if m.1 = name then m.2 :: named name members else named name members := by
  simp only [named, List.filterMap_cons]
  split <;> simp_all

@[simp] theorem named_skipNone (other : String) (a : Option α) :
    named name (skipNone other toValue a) = if other = name then (a.map toValue).toList else [] := by
  cases a with
  | none => simp [skipNone]
  | some a => simp [skipNone]

theorem required_single {v : Value} (listed : named name members = [v]) : required name read members = read v := by
  rw [required, listed]

theorem optional_none (listed : named name members = []) : optional name read members = some none := by
  rw [optional, listed]

theorem optional_some {v : Value} {a : α} (listed : named name members = [v]) (refuses : read .null = none)
    (given : read v = some a) : optional name read members = some (some a) := by
  cases v with
  | null =>
    rw [refuses] at given
    cases given
  | _ => simp only [optional, listed, given, Option.map_some]

theorem optional_skipNone {a : Option α} (listed : named name members = (a.map toValue).toList) (refuses : read .null = none)
    (reads : ∀ a, read (toValue a) = some a) : optional name read members = some a := by
  cases a with
  | none => exact optional_none listed
  | some a => exact optional_some listed refuses (reads a)

theorem optional_orNull {a : Option α} (listed : named name members = [orNull toValue a]) (refuses : read .null = none)
    (reads : ∀ a, read (toValue a) = some a) : optional name read members = some a := by
  cases a with
  | none =>
    rw [optional, listed]
    rfl
  | some a => exact optional_some listed refuses (reads a)

end

/-! ## The order of the members -/

/-- The same value with the members of its objects listed in another order. -/
inductive Shuffled : Value → Value → Prop
  | refl (v : Value) : Shuffled v v
  | swap (before after : List (String × Value)) (m m' : String × Value) :
    Shuffled (.object (before ++ m :: m' :: after)) (.object (before ++ m' :: m :: after))
  | inside (before after : List (String × Value)) (name : String) {v v' : Value} (shuffled : Shuffled v v') :
    Shuffled (.object (before ++ (name, v) :: after)) (.object (before ++ (name, v') :: after))
  | trans {v v' v'' : Value} (first : Shuffled v v') (rest : Shuffled v' v'') : Shuffled v v''

/-- Members that are read alike: each name is listed as often, and what is listed once is the same up to the order. -/
structure AlikeMembers (members members' : List (String × Value)) : Prop where
  length : members'.length = members.length
  often (name : String) : (named name members').length = (named name members).length
  once (name : String) (v : Value) : named name members = [v] → ∃ v', named name members' = [v'] ∧ Shuffled v v'

theorem AlikeMembers.swap (before after : List (String × Value)) (m m' : String × Value) :
    AlikeMembers (before ++ m :: m' :: after) (before ++ m' :: m :: after) := by
  have perm : (before ++ m :: m' :: after).Perm (before ++ m' :: m :: after) :=
    (List.Perm.swap m' m after).append_left before
  have each : ∀ name, (named name (before ++ m :: m' :: after)).Perm (named name (before ++ m' :: m :: after)) :=
    fun name => perm.filterMap _
  refine ⟨perm.length_eq.symm, fun name => (each name).length_eq.symm, ?_⟩
  intro name v single
  refine ⟨v, ?_, .refl v⟩
  have same := each name
  rw [single] at same
  exact List.perm_singleton.1 same.symm

theorem AlikeMembers.inside (before after : List (String × Value)) (name : String) {v v' : Value} (shuffled : Shuffled v v') :
    AlikeMembers (before ++ (name, v) :: after) (before ++ (name, v') :: after) := by
  refine ⟨by simp only [List.length_append, List.length_cons], ?_, ?_⟩
  · intro other
    simp only [named_append, named_cons]
    split <;> simp only [List.length_append, List.length_cons]
  · intro other w single
    simp only [named_append, named_cons] at single ⊢
    by_cases same : name = other
    · rw [if_pos same] at single ⊢
      have none : named other before = [] ∧ named other after = [] ∧ v = w := by
        cases listed : named other before with
        | nil => simpa [listed, and_comm] using single
        | cons u us => simp [listed] at single
      obtain ⟨nothing, none, rfl⟩ := none
      exact ⟨v', by rw [nothing, none]; rfl, shuffled⟩
    · rw [if_neg same] at single ⊢
      exact ⟨w, single, .refl w⟩

theorem AlikeMembers.trans {members members' members'' : List (String × Value)} (first : AlikeMembers members members')
    (rest : AlikeMembers members' members'') : AlikeMembers members members'' := by
  refine ⟨rest.length.trans first.length, fun name => (rest.often name).trans (first.often name), ?_⟩
  intro name v single
  obtain ⟨v', single', shuffled⟩ := first.once name v single
  obtain ⟨v'', single'', shuffled'⟩ := rest.once name v' single'
  exact ⟨v'', single'', shuffled.trans shuffled'⟩

/-- **A shuffled value is the same, or both are objects whose members are read alike.** -/
theorem Shuffled.cases {v v' : Value} (shuffled : Shuffled v v') :
    v' = v ∨ ∃ members members', v = .object members ∧ v' = .object members' ∧ AlikeMembers members members' := by
  induction shuffled with
  | refl v => exact Or.inl rfl
  | swap before after m m' => exact Or.inr ⟨_, _, rfl, rfl, .swap before after m m'⟩
  | inside before after name shuffled ih => exact Or.inr ⟨_, _, rfl, rfl, .inside before after name shuffled⟩
  | trans first rest ih ih' =>
    cases ih with
    | inl same =>
      subst same
      exact ih'
    | inr alike =>
      obtain ⟨members, members', rfl, rfl, alike⟩ := alike
      cases ih' with
      | inl same => exact Or.inr ⟨members, members', rfl, same, alike⟩
      | inr alike' =>
        obtain ⟨_, members'', same, rfl, alike'⟩ := alike'
        cases same
        exact Or.inr ⟨members, members'', rfl, rfl, alike.trans alike'⟩

/-- A reader that does not see the order of the members. -/
def Unordered {α : Type} (read : Value → Option α) : Prop := ∀ v v', Shuffled v v' → read v' = read v

section
variable {α : Type} {name : String} {read : Value → Option α} {members members' : List (String × Value)}

/-- A reader of values that are no objects. -/
theorem Unordered.of_atoms (refuses : ∀ members, read (.object members) = none) : Unordered read := by
  intro v v' shuffled
  cases shuffled.cases with
  | inl same => rw [same]
  | inr alike =>
    obtain ⟨members, members', rfl, rfl, -⟩ := alike
    rw [refuses, refuses]

theorem required_alike (unordered : Unordered read) (alike : AlikeMembers members members') :
    required name read members' = required name read members := by
  have often := alike.often name
  cases listed : named name members with
  | nil =>
    rw [listed] at often
    rw [required, required, listed, List.length_eq_zero_iff.1 often]
  | cons v others =>
    cases others with
    | nil =>
      obtain ⟨v', listed', shuffled⟩ := alike.once name v listed
      rw [required, required, listed, listed']
      exact unordered v v' shuffled
    | cons w others =>
      rw [listed] at often
      match listed' : named name members', often with
      | _ :: _ :: _, _ => simp only [required, listed, listed']

theorem optional_alike (unordered : Unordered read) (alike : AlikeMembers members members') :
    optional name read members' = optional name read members := by
  have often := alike.often name
  cases listed : named name members with
  | nil =>
    rw [listed] at often
    rw [optional, optional, listed, List.length_eq_zero_iff.1 often]
  | cons v others =>
    cases others with
    | nil =>
      obtain ⟨v', listed', shuffled⟩ := alike.once name v listed
      have same := unordered v v' shuffled
      cases shuffled.cases with
      | inl equal => rw [optional, optional, listed, listed', equal]
      | inr objects =>
        obtain ⟨inner, inner', rfl, rfl, -⟩ := objects
        simp only [optional, listed, listed', same]
    | cons w others =>
      rw [listed] at often
      match listed' : named name members', often with
      | _ :: _ :: _, _ => simp only [optional, listed, listed']

theorem Unordered.record {readMembers : List (String × Value) → Option α}
    (alike : ∀ members members', AlikeMembers members members' → readMembers members' = readMembers members) :
    Unordered (record readMembers) := by
  intro v v' shuffled
  cases shuffled.cases with
  | inl same => rw [same]
  | inr objects =>
    obtain ⟨members, members', rfl, rfl, same⟩ := objects
    exact alike members members' same

theorem Unordered.variant (unordered : Unordered read) : Unordered (variant name read) := by
  intro v v' shuffled
  cases shuffled.cases with
  | inl same => rw [same]
  | inr objects =>
    obtain ⟨members, members', rfl, rfl, alike⟩ := objects
    have length := alike.length
    match members, members', length with
    | [], [], _ => rfl
    | [(n, w)], [(n', w')], _ =>
      obtain ⟨u, single, shuffled⟩ := alike.once n w (by simp [named])
      by_cases same : n' = n
      · subst same
        have same : w' = u := by simpa [named] using single
        subst same
        simp only [Value.variant, unordered w w' shuffled]
      · simp [named, same] at single
    | _ :: _ :: _, _ :: _ :: _, _ => rfl

theorem Unordered.orElse {read' : Value → Option α} (unordered : Unordered read) (unordered' : Unordered read') :
    Unordered fun v => (read v).or (read' v) := by
  intro v v' shuffled
  show (read v').or (read' v') = (read v).or (read' v)
  rw [unordered v v' shuffled, unordered' v v' shuffled]

theorem Unordered.map {β : Type} (unordered : Unordered read) (f : α → β) : Unordered fun v => (read v).map f := by
  intro v v' shuffled
  show (read v').map f = (read v).map f
  rw [unordered v v' shuffled]

end

end Value
end Wire
