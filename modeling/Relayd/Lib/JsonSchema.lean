import Relayd.Lib.Message

/-!
# Schemas of JSON values

A schema is given by the values that it accepts, and put together from its
keywords. `Admits` says that a reader accepts valid values only; it follows the
way in which a reader is put together.
-/

namespace Wire
set_option autoImplicit false

/-- A schema, as its validator. -/
abbrev Schema := Value → Bool

namespace Schema

/-- `"type": "string"`. -/
def string : Schema
  | .text _ => true
  | _ => false

/-- `"type": "null"`. -/
def null : Schema
  | .null => true
  | _ => false

/-- `"type": "integer"`: a whole number in any notation. -/
def integer : Schema
  | .int _ => true
  | .decimal mantissa exponent => 0 ≤ exponent || mantissa % 10 ^ (-exponent).toNat == 0
  | _ => false

/-- `"type": "number"`. -/
def number : Schema
  | .int _ | .decimal _ _ => true
  | _ => false

/-- `"minimum"`, which concerns numbers. -/
def minimum (bound : Int) : Schema
  | .int n => bound ≤ n
  | .decimal mantissa exponent =>
    if 0 ≤ exponent then bound ≤ mantissa * 10 ^ exponent.toNat else bound * 10 ^ (-exponent).toNat ≤ mantissa
  | _ => true

/-- `"type": "string"` with `"enum"`. -/
def enum (texts : List String) : Schema
  | .text s => texts.contains s
  | _ => false

/-- `"anyOf"`, or a `"type"` that lists several types. -/
def anyOf (schemas : List Schema) : Schema := fun v => schemas.any fun s => s v

/-- The keywords of one schema. -/
def allOf (schemas : List Schema) : Schema := fun v => schemas.all fun s => s v

/-- `"type": "object"` with `"required"` and `"properties"`. -/
def object (required : List String) (properties : List (String × Schema)) : Schema
  | .object members =>
    required.all (fun name => !(Value.named name members).isEmpty) &&
      properties.all fun p => (Value.named p.1 members).all p.2
  | _ => false

theorem object_valid {required : List String} {properties : List (String × Schema)} {members : List (String × Value)}
    (present : ∀ name ∈ required, Value.named name members ≠ [])
    (valid : ∀ p ∈ properties, ∀ v ∈ Value.named p.1 members, p.2 v = true) :
    object required properties (.object members) = true := by
  rw [object, Bool.and_eq_true]
  constructor
  · apply List.all_eq_true.2
    intro name member
    rw [Bool.not_eq_true', List.isEmpty_eq_false_iff]
    exact present name member
  · exact List.all_eq_true.2 fun p member => List.all_eq_true.2 (valid p member)

/-- What the reader accepts is valid. -/
def Admits {α : Type} (s : Schema) (read : Value → Option α) : Prop := ∀ v a, read v = some a → s v = true

section
variable {α : Type} {s : Schema} {read : Value → Option α} {name : String} {members : List (String × Value)}

theorem required_present {a : α} (given : Value.required name read members = some a) : Value.named name members ≠ [] := by
  intro absent
  rw [Value.required, absent] at given
  cases given

theorem required_valid {a : α} (given : Value.required name read members = some a) (admits : s.Admits read) :
    ∀ v ∈ Value.named name members, s v = true := by
  cases listed : Value.named name members with
  | nil => simp
  | cons v others =>
    cases others with
    | nil =>
      rw [Value.required, listed] at given
      simpa using admits v a given
    | cons w others =>
      simp only [Value.required, listed] at given
      cases given

theorem anyOf_valid {schemas : List Schema} {v : Value} (member : s ∈ schemas) (valid : s v = true) :
    anyOf schemas v = true := List.any_eq_true.2 ⟨s, member, valid⟩

/-- A member that may be null has a schema that says so. -/
theorem optional_valid {a : Option α} (given : Value.optional name read members = some a) (admits : s.Admits read) :
    ∀ v ∈ Value.named name members, anyOf [s, null] v = true := by
  cases listed : Value.named name members with
  | nil => simp
  | cons v others =>
    cases others with
    | nil =>
      intro w member
      obtain rfl := List.mem_singleton.1 member
      cases w with
      | null => exact anyOf_valid (List.mem_cons_of_mem _ List.mem_cons_self) rfl
      | _ =>
        simp only [Value.optional, listed, Option.map_eq_some_iff] at given
        obtain ⟨b, accepted, -⟩ := given
        exact anyOf_valid List.mem_cons_self (admits _ b accepted)
    | cons w others =>
      simp only [Value.optional, listed] at given
      cases given

theorem Admits.anyOf {schemas : List Schema} (admits : s.Admits read) (member : s ∈ schemas) :
    (anyOf schemas).Admits read := fun v a accepted => anyOf_valid member (admits v a accepted)

theorem Admits.orElse {read' : Value → Option α} (admits : s.Admits read) (admits' : s.Admits read') :
    s.Admits fun v => (read v).or (read' v) := by
  intro v a accepted
  cases Option.or_eq_some_iff.1 accepted with
  | inl first => exact admits v a first
  | inr second => exact admits' v a second.2

theorem Admits.map {β : Type} (admits : s.Admits read) (f : α → β) : s.Admits fun v => (read v).map f := by
  intro v b accepted
  obtain ⟨a, given, -⟩ := Option.map_eq_some_iff.1 accepted
  exact admits v a given

/-- The schema of a variant requires its name. -/
theorem Admits.variant (admits : s.Admits read) : (object [name] [(name, s)]).Admits (Value.variant name read) := by
  intro v a accepted
  unfold Value.variant at accepted
  split at accepted
  case h_1 name' w =>
    split at accepted
    case isTrue same =>
      subst same
      apply object_valid
      · simp
      · simp [admits w a accepted]
    case isFalse => cases accepted
  case h_2 => cases accepted

/-- What a record's reader accepts is an object whose members are valid. -/
theorem Admits.record {required : List String} {properties : List (String × Schema)}
    {readMembers : List (String × Value) → Option α}
    (valid : ∀ members a, readMembers members = some a → (∀ name ∈ required, Value.named name members ≠ []) ∧
      ∀ p ∈ properties, ∀ v ∈ Value.named p.1 members, p.2 v = true) :
    (object required properties).Admits (Value.record readMembers) := by
  intro v a accepted
  cases v with
  | object members => exact object_valid (valid members a accepted).1 (valid members a accepted).2
  | _ => cases accepted

end

end Schema
end Wire
