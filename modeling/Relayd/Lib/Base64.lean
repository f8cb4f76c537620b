import Relayd.Lib.Format

/-!
# Base64 with padding

The standard alphabet, four characters for three bytes, `=` on the last group.
The decoder takes padded text only and rejects a last group whose unused bits
are set, so every byte string has one text.
-/

namespace Wire.Base64
set_option autoImplicit false

/-- The character of a six-bit value. -/
def symbol (n : Nat) : UInt8 :=
  UInt8.ofNat <|
    if n < 26 then 65 + n
    else if n < 52 then 71 + n
    else if n < 62 then n - 4
    else if n = 62 then 43
    else 47

/-- The six-bit value of a character. -/
def sextet (c : UInt8) : Option Nat :=
  let n := c.toNat
  if 65 ≤ n ∧ n ≤ 90 then some (n - 65)
  else if 97 ≤ n ∧ n ≤ 122 then some (n - 71)
  else if 48 ≤ n ∧ n ≤ 57 then some (n + 4)
  else if n = 43 then some 62
  else if n = 47 then some 63
  else none

/-- The padding character `=`. -/
def pad : UInt8 := 61

def encode : List UInt8 → List UInt8
  | [] => []
  | [a] => [symbol (a.toNat / 4), symbol (a.toNat % 4 * 16), pad, pad]
  | [a, b] =>
    [symbol (a.toNat / 4), symbol (a.toNat % 4 * 16 + b.toNat / 16), symbol (b.toNat % 16 * 4), pad]
  | a :: b :: c :: rest =>
    symbol (a.toNat / 4) :: symbol (a.toNat % 4 * 16 + b.toNat / 16) ::
      symbol (b.toNat % 16 * 4 + c.toNat / 64) :: symbol (c.toNat % 64) :: encode rest

/-- The bytes of one group of four characters: three, or fewer when the group
is padded (`last` says that nothing follows, padding is allowed only there). -/
def group (p q r s : UInt8) (last : Bool) : Option (List UInt8) :=
  match sextet p, sextet q, sextet r, sextet s with
  | some i, some j, some k, some l =>
    some [UInt8.ofNat (i * 4 + j / 16), UInt8.ofNat (j % 16 * 16 + k / 4), UInt8.ofNat (k % 4 * 64 + l)]
  | some i, some j, some k, none =>
    if last && s == pad && k % 4 == 0 then
      some [UInt8.ofNat (i * 4 + j / 16), UInt8.ofNat (j % 16 * 16 + k / 4)]
    else none
  | some i, some j, none, none =>
    if last && r == pad && s == pad && j % 16 == 0 then some [UInt8.ofNat (i * 4 + j / 16)] else none
  | _, _, _, _ => none

def decode : List UInt8 → Option (List UInt8)
  | [] => some []
  | p :: q :: r :: s :: rest =>
    (group p q r s rest.isEmpty).bind fun bs => (decode rest).map fun more => bs ++ more
  | _ => none

theorem sextet_symbol {n : Nat} (h : n < 64) : sextet (symbol n) = some n := by
  have byte : ∀ m, m < 256 → (UInt8.ofNat m).toNat = m := fun m hm => by
    simp only [UInt8.toNat_ofNat']
    omega
  unfold symbol
  split
  · simp only [sextet, byte _ (show 65 + n < 256 by omega)]
    rw [if_pos (by omega)]
    congr 1
    omega
  · split
    · simp only [sextet, byte _ (show 71 + n < 256 by omega)]
      rw [if_neg (by omega), if_pos (by omega)]
      congr 1
      omega
    · split
      · simp only [sextet, byte _ (show n - 4 < 256 by omega)]
        rw [if_neg (by omega), if_neg (by omega), if_pos (by omega)]
        congr 1
        omega
      · split
        · subst n
          decide
        · have : n = 63 := by omega
          subst n
          decide

theorem sextet_pad : sextet pad = none := by decide

/-- A byte whose value is computed from its two halves. -/
theorem ofNat_eq {a : UInt8} {n : Nat} (h : n = a.toNat) : UInt8.ofNat n = a := by
  rw [h]
  exact UInt8.ofNat_toNat

theorem decode_encode (l : List UInt8) : decode (encode l) = some l := by
  induction l using encode.induct with
  | case1 => rfl
  | case2 a =>
    have ha := a.toNat_lt
    have whole := ofNat_eq (a := a) (n := a.toNat / 4 * 4 + a.toNat % 4 * 16 / 16) (by omega)
    have unused : a.toNat % 4 * 16 % 16 = 0 := by omega
    simp only [encode, decode, group, sextet_symbol (show a.toNat / 4 < 64 by omega),
      sextet_symbol (show a.toNat % 4 * 16 < 64 by omega), sextet_pad, unused, whole]
    rfl
  | case3 a b =>
    have ha := a.toNat_lt
    have hb := b.toNat_lt
    have first := ofNat_eq (a := a) (n := a.toNat / 4 * 4 + (a.toNat % 4 * 16 + b.toNat / 16) / 16) (by omega)
    have second := ofNat_eq (a := b)
      (n := (a.toNat % 4 * 16 + b.toNat / 16) % 16 * 16 + b.toNat % 16 * 4 / 4) (by omega)
    have unused : b.toNat % 16 * 4 % 4 = 0 := by omega
    simp only [encode, decode, group, sextet_symbol (show a.toNat / 4 < 64 by omega),
      sextet_symbol (show a.toNat % 4 * 16 + b.toNat / 16 < 64 by omega),
      sextet_symbol (show b.toNat % 16 * 4 < 64 by omega), sextet_pad, unused, first, second]
    rfl
  | case4 a b c rest ih =>
    have ha := a.toNat_lt
    have hb := b.toNat_lt
    have hc := c.toNat_lt
    have first := ofNat_eq (a := a) (n := a.toNat / 4 * 4 + (a.toNat % 4 * 16 + b.toNat / 16) / 16) (by omega)
    have second := ofNat_eq (a := b)
      (n := (a.toNat % 4 * 16 + b.toNat / 16) % 16 * 16 + (b.toNat % 16 * 4 + c.toNat / 64) / 4) (by omega)
    have third := ofNat_eq (a := c) (n := (b.toNat % 16 * 4 + c.toNat / 64) % 4 * 64 + c.toNat % 64) (by omega)
    simp only [encode, decode, group, sextet_symbol (show a.toNat / 4 < 64 by omega),
      sextet_symbol (show a.toNat % 4 * 16 + b.toNat / 16 < 64 by omega),
      sextet_symbol (show b.toNat % 16 * 4 + c.toNat / 64 < 64 by omega),
      sextet_symbol (show c.toNat % 64 < 64 by omega), ih, first, second, third]
    rfl

theorem encode_length (l : List UInt8) : (encode l).length = 4 * ((l.length + 2) / 3) := by
  induction l using encode.induct with
  | case1 => rfl
  | case2 a => simp [encode]
  | case3 a b => simp [encode]
  | case4 a b c rest ih =>
    simp only [encode, List.length_cons, ih]
    omega

/-- A group holds at most three bytes, and only the last one fewer. -/
theorem group_length {p q r s : UInt8} {last : Bool} {bs : List UInt8} (h : group p q r s last = some bs) :
    bs.length ≤ 3 ∧ (last = false → bs.length = 3) := by
  unfold group at h
  split at h
  · cases h
    simp
  · split at h
    · rename_i padded
      cases h
      simp only [Bool.and_eq_true] at padded
      simp [padded.1.1]
    · cases h
  · split at h
    · rename_i padded
      cases h
      simp only [Bool.and_eq_true] at padded
      simp [padded.1.1.1]
    · cases h
  · cases h

/-- No text of a byte string is shorter than the one `encode` writes. -/
theorem encode_length_le {text l : List UInt8} (h : decode text = some l) :
    (encode l).length ≤ text.length := by
  rw [encode_length]
  have : l.length ≤ 3 * (text.length / 4) ∧ text.length % 4 = 0 := by
    induction text using decode.induct generalizing l with
    | case1 =>
      cases h
      simp
    | case2 p q r s rest ih =>
      simp only [decode, Option.bind_eq_some_iff, Option.map_eq_some_iff] at h
      obtain ⟨bs, hbs, more, hmore, rfl⟩ := h
      obtain ⟨hl, hr⟩ := ih hmore
      have := (group_length hbs).1
      simp only [List.length_append, List.length_cons]
      omega
    | case3 text short long =>
      simp only [decode] at h
      cases h
  omega

end Base64

namespace Format
open Base64

/-- A byte string written as a length-prefixed base64 text. -/
def base64 : Format (List UInt8) :=
  bytes.refine decode encode

theorem base64_reads {l : List UInt8} (bound : (encode l).length < 256 ^ 8) : base64.Reads l :=
  Reads.refine (bytes_reads bound) (decode_encode l)

theorem base64_takes : base64.Takes fun l => 8 + (encode l).length :=
  bytes_takes.refine fun _ _ accepted => by
    have := encode_length_le accepted
    omega

theorem base64_write_length (l : List UInt8) : (base64.write l).length = 8 + (encode l).length :=
  bytes_write_length _

end Wire.Format
