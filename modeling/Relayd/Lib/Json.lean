import Mathlib.Algebra.Ring.Nat
import Mathlib.Data.List.Basic

/-!
# Compact JSON and its padding

Texts as bytes: a quoted string without escapes, an object of fields that are
texts already, and the padding that brings a text to a whole number of blocks.
A padded text tells how many blocks its content takes and nothing else.
-/

namespace Wire
set_option autoImplicit false

/-- The UTF-8 bytes of a text. -/
def utf8 (s : String) : List UInt8 := s.toByteArray.data.toList

theorem utf8_length (s : String) : (utf8 s).length = s.utf8ByteSize := rfl

namespace Json

/-- A string in quotes. -/
def quoted (text : List UInt8) : List UInt8 := 34 :: text ++ [34]

/-- A field of an object: its name, then its value. -/
def field (name : String) (value : List UInt8) : List UInt8 := quoted (utf8 name) ++ 58 :: value

/-- An object, its fields separated by commas. -/
def object (fields : List (String × List UInt8)) : List UInt8 :=
  123 :: ([44].intercalate (fields.map fun f => field f.1 f.2)) ++ [125]

theorem quoted_length (text : List UInt8) : (quoted text).length = text.length + 2 := by
  simp only [quoted, List.cons_append, List.length_cons, List.length_append, List.length_nil]

theorem field_length (name : String) (value : List UInt8) :
    (field name value).length = name.utf8ByteSize + value.length + 3 := by
  simp only [field, List.length_append, quoted_length, utf8_length, List.length_cons]
  omega

theorem object_length (fields : List (String × List UInt8)) :
    (object fields).length = ((fields.map fun f => (field f.1 f.2).length).sum + (fields.length - 1)) + 2 := by
  have separated : ∀ texts : List (List UInt8),
      ([44].intercalate texts : List UInt8).length = (texts.map List.length).sum + (texts.length - 1) := by
    intro texts
    induction texts with
    | nil => rfl
    | cons text texts ih =>
      cases texts with
      | nil => simp [List.intercalate]
      | cons next texts =>
        simp only [List.intercalate, List.intersperse_cons_cons, List.flatten_cons, List.length_append, List.length_nil,
          List.map_cons, List.sum_cons, List.length_cons] at ih ⊢
        omega
  simp only [object, List.cons_append, List.length_cons, List.length_append, List.length_nil, separated, List.map_map,
    List.length_map]
  rfl

end Json

/-- Appends spaces up to the next multiple of the block size. -/
def spacePad (blockSize : Nat) (message : List UInt8) : List UInt8 :=
  let surplus := message.length % blockSize
  if surplus = 0 then message else message ++ List.replicate (blockSize - surplus) 32

/-- **The length of a padded text is the number of blocks that the text takes.** -/
theorem spacePad_length {blockSize : Nat} (positive : 0 < blockSize) (message : List UInt8) :
    (spacePad blockSize message).length = blockSize * ((message.length + blockSize - 1) / blockSize) := by
  have split := Nat.div_add_mod message.length blockSize
  have small := Nat.mod_lt message.length positive
  simp only [spacePad]
  by_cases whole : message.length % blockSize = 0
  · have blocks : (message.length + blockSize - 1) / blockSize = message.length / blockSize := by
      apply Nat.div_eq_of_lt_le
      · rw [Nat.mul_comm]
        omega
      · rw [Nat.succ_mul, Nat.mul_comm]
        omega
    rw [if_pos whole, blocks]
    omega
  · have blocks : (message.length + blockSize - 1) / blockSize = message.length / blockSize + 1 := by
      apply Nat.div_eq_of_lt_le
      · rw [Nat.succ_mul, Nat.mul_comm]
        omega
      · rw [Nat.succ_mul, Nat.succ_mul, Nat.mul_comm]
        omega
    rw [if_neg whole, blocks, List.length_append, List.length_replicate, Nat.mul_succ]
    omega

/-- A text of at most one block takes one block. -/
theorem spacePad_length_one {blockSize : Nat} {message : List UInt8} (some : 0 < message.length)
    (fits : message.length ≤ blockSize) : (spacePad blockSize message).length = blockSize := by
  have blocks : (message.length + blockSize - 1) / blockSize = 1 := by
    apply Nat.div_eq_of_lt_le <;> omega
  rw [spacePad_length (by omega), blocks, Nat.mul_one]

end Wire
