import Mathlib.Data.Nat.Digits.Lemmas

/-!
# Byte formats that are not self-describing

A `Format` pairs a serialiser with the parser of its bytes; the parser returns
the bytes it left unread, so formats compose by concatenation (`seq`). Two laws
are stated separately because a format may break the first one:

* `Reads f a`: what was written for `a` reads back as `a`, whatever follows;
* `Takes f size`: whoever reads a value `a` has consumed at least `size a` bytes.

`skipNone` is the format of an optional field that the writer leaves out and the
reader still expects: it satisfies `Takes` at the full width and `Reads` only at
`some`. `Takes` then shows that a shortened text never reads back as its value.
-/

namespace Wire
set_option autoImplicit false

universe u v
variable {α : Type u} {β : Type v}

/-- A serialiser and the parser of its bytes. -/
structure Format (α : Type u) where
  write : α → List UInt8
  read : List UInt8 → Option (α × List UInt8)

namespace Format

/-- The bytes written for `a` read back as `a` and leave what follows them. -/
def Reads (f : Format α) (a : α) : Prop :=
  ∀ rest, f.read (f.write a ++ rest) = some (a, rest)

/-- Reading consumes at least `size` of the value that is returned. -/
def Takes (f : Format α) (size : α → Nat) : Prop :=
  ∀ bs a rest, f.read bs = some (a, rest) → size a + rest.length ≤ bs.length

/-- A text shorter than the size of a value does not read back as that value. -/
theorem Takes.not_read {f : Format α} {size : α → Nat} (takes : f.Takes size) {bs : List UInt8} {a : α}
    (short : bs.length < size a) : ∀ rest, f.read bs ≠ some (a, rest) := by
  intro rest read
  have := takes bs a rest read
  omega

/-- One format after the other. -/
def seq (f : Format α) (g : Format β) : Format (α × β) where
  write p := f.write p.1 ++ g.write p.2
  read bs := (f.read bs).bind fun p => (g.read p.2).map fun q => ((p.1, q.1), q.2)

theorem Reads.seq {f : Format α} {g : Format β} {p : α × β} (hf : f.Reads p.1) (hg : g.Reads p.2) :
    (f.seq g).Reads p := by
  intro rest
  simp only [Format.seq, List.append_assoc, hf _, Option.bind_some, hg rest, Option.map_some]

theorem Takes.seq {f : Format α} {g : Format β} {m : α → Nat} {n : β → Nat}
    (hf : f.Takes m) (hg : g.Takes n) : (f.seq g).Takes fun p => m p.1 + n p.2 := by
  intro bs p rest read
  simp only [Format.seq, Option.bind_eq_some_iff, Option.map_eq_some_iff] at read
  obtain ⟨⟨a, mid⟩, first, ⟨b, last⟩, second, same⟩ := read
  cases same
  have := hf _ _ _ first
  have := hg _ _ _ second
  simp only at *
  omega

/-- A format of the values that `into` accepts, written through `back`. -/
def refine (f : Format α) (into : α → Option β) (back : β → α) : Format β where
  write b := f.write (back b)
  read bs := (f.read bs).bind fun p => (into p.1).map fun b => (b, p.2)

theorem Reads.refine {f : Format α} {into : α → Option β} {back : β → α} {b : β}
    (hf : f.Reads (back b)) (accepted : into (back b) = some b) : (f.refine into back).Reads b := by
  intro rest
  simp only [Format.refine, hf rest, Option.bind_some, accepted, Option.map_some]

theorem Takes.refine {f : Format α} {into : α → Option β} {back : β → α} {m : α → Nat} {n : β → Nat}
    (hf : f.Takes m) (bound : ∀ a b, into a = some b → n b ≤ m a) : (f.refine into back).Takes n := by
  intro bs b rest read
  simp only [Format.refine, Option.bind_eq_some_iff, Option.map_eq_some_iff] at read
  obtain ⟨⟨a, mid⟩, first, c, accepted, same⟩ := read
  cases same
  have := hf _ _ _ first
  have := bound _ _ accepted
  simp only at *
  omega

/-- A weaker size is still consumed. -/
theorem Takes.mono {f : Format α} {m n : α → Nat} (hf : f.Takes m) (le : ∀ a, n a ≤ m a) : f.Takes n := by
  intro bs a rest read
  have := hf bs a rest read
  have := le a
  omega

/-- A single byte. -/
def byte : Format UInt8 where
  write b := [b]
  read
    | [] => none
    | b :: bs => some (b, bs)

theorem byte_reads (b : UInt8) : byte.Reads b := fun _ => rfl

theorem byte_takes : byte.Takes fun _ => 1 := by
  intro bs b rest read
  cases bs with
  | nil => cases read
  | cons c cs =>
    cases read
    simp only [List.length_cons]
    omega

/-- A natural number on `w` little-endian bytes. -/
def le : Nat → Format Nat
  | 0 => { write := fun _ => [], read := fun bs => some (0, bs) }
  | w + 1 =>
    { write := fun n => UInt8.ofNat n :: (le w).write (n / 256)
      read := fun
        | [] => none
        | b :: bs => ((le w).read bs).map fun p => (b.toNat + 256 * p.1, p.2) }

theorem le_reads {w n : Nat} (bound : n < 256 ^ w) : (le w).Reads n := by
  induction w generalizing n with
  | zero =>
    intro rest
    simp only [Nat.pow_zero, Nat.lt_one_iff] at bound
    simp [le, bound]
  | succ w ih =>
    intro rest
    have high : n / 256 < 256 ^ w := by
      rw [Nat.pow_succ] at bound
      omega
    have low : (UInt8.ofNat n).toNat + 256 * (n / 256) = n := by
      simp only [UInt8.toNat_ofNat']
      omega
    simp only [le, List.cons_append, ih high rest, Option.map_some, low]

theorem le_takes (w : Nat) : (le w).Takes fun _ => w := by
  induction w with
  | zero =>
    intro bs n rest read
    cases read
    simp only [Nat.zero_add, Nat.le_refl]
  | succ w ih =>
    intro bs n rest read
    cases bs with
    | nil => cases read
    | cons b bs =>
      simp only [le, Option.map_eq_some_iff] at read
      obtain ⟨⟨m, left⟩, inner, same⟩ := read
      cases same
      have := ih _ _ _ inner
      simp only [List.length_cons] at *
      omega

theorem le_write_length (w n : Nat) : ((le w).write n).length = w := by
  induction w generalizing n with
  | zero => rfl
  | succ w ih => simp only [le, List.length_cons, ih]

/-- A byte string after its length on eight bytes. -/
def bytes : Format (List UInt8) where
  write l := (le 8).write l.length ++ l
  read bs := ((le 8).read bs).bind fun p =>
    if p.1 ≤ p.2.length then some (p.2.take p.1, p.2.drop p.1) else none

theorem bytes_reads {l : List UInt8} (bound : l.length < 256 ^ 8) : bytes.Reads l := by
  intro rest
  have enough : l.length ≤ (l ++ rest).length := by
    simp only [List.length_append]
    omega
  simp only [bytes, List.append_assoc, le_reads bound (l ++ rest), Option.bind_some, if_pos enough,
    List.take_left, List.drop_left]

theorem bytes_takes : bytes.Takes fun l => 8 + l.length := by
  intro bs l rest read
  simp only [bytes, Option.bind_eq_some_iff] at read
  obtain ⟨⟨n, left⟩, header, body⟩ := read
  have := le_takes 8 _ _ _ header
  split at body
  · cases body
    simp only [List.length_take, List.length_drop] at *
    omega
  · cases body

theorem bytes_write_length (l : List UInt8) : (bytes.write l).length = 8 + l.length := by
  simp only [bytes, List.length_append, le_write_length]

/-- Text in UTF-8 after its length in bytes. -/
def text : Format String :=
  bytes.refine (fun l => String.fromUTF8? ⟨l.toArray⟩) fun s => s.toByteArray.data.toList

theorem fromUTF8?_bytes (s : String) : String.fromUTF8? ⟨s.toByteArray.data.toList.toArray⟩ = some s := by
  rw [Array.toArray_toList]
  simp only [String.fromUTF8?, s.isValidUTF8, dite_true]
  rfl

theorem toByteArray_length (s : String) : s.toByteArray.data.toList.length = s.utf8ByteSize := by
  simp only [Array.length_toList]
  rfl

theorem text_reads {s : String} (bound : s.utf8ByteSize < 256 ^ 8) : text.Reads s := by
  refine Reads.refine (bytes_reads ?_) (fromUTF8?_bytes s)
  rw [toByteArray_length]
  exact bound

theorem text_takes : text.Takes fun s => 8 + s.utf8ByteSize := by
  apply bytes_takes.refine
  intro l s accepted
  simp only [String.fromUTF8?] at accepted
  split at accepted
  · cases accepted
    exact Nat.le_refl _
  · cases accepted

theorem text_write_length (s : String) : (text.write s).length = 8 + s.utf8ByteSize :=
  bytes_write_length _

/-- An optional value: a tag byte, then the value when there is one. -/
def option (f : Format α) : Format (Option α) where
  write
    | none => [0]
    | some a => 1 :: f.write a
  read
    | 0 :: bs => some (none, bs)
    | 1 :: bs => (f.read bs).map fun p => (some p.1, p.2)
    | _ => none

/-- An optional field whose writer omits it when absent. The reader is the one
of `option`: without field names it cannot see the omission. -/
def skipNone (f : Format α) : Format (Option α) where
  write
    | none => []
    | some a => f.option.write (some a)
  read := f.option.read

/-- The width of an optional value with its tag. -/
def optionSize (size : α → Nat) : Option α → Nat
  | none => 1
  | some a => 1 + size a

theorem option_reads {f : Format α} {o : Option α} (hf : ∀ a, o = some a → f.Reads a) : f.option.Reads o := by
  intro rest
  cases o with
  | none => rfl
  | some a => simp only [option, List.cons_append, hf a rfl rest, Option.map_some]

theorem skipNone_reads {f : Format α} {a : α} (hf : f.Reads a) : f.skipNone.Reads (some a) := by
  have full : f.option.Reads (some a) := option_reads fun b same => by
    cases same
    exact hf
  exact full

theorem option_takes {f : Format α} {size : α → Nat} (hf : f.Takes size) : f.option.Takes (optionSize size) := by
  intro bs o rest read
  simp only [option] at read
  split at read
  · cases read
    simp only [optionSize, List.length_cons]
    omega
  · simp only [Option.map_eq_some_iff] at read
    obtain ⟨⟨a, left⟩, inner, same⟩ := read
    cases same
    have := hf _ _ _ inner
    simp only [optionSize, List.length_cons] at *
    omega
  · cases read

theorem skipNone_takes {f : Format α} {size : α → Nat} (hf : f.Takes size) : f.skipNone.Takes (optionSize size) :=
  option_takes hf

/-! ## Decimal texts -/

/-- The ASCII digits of `n`, most significant first. -/
def decimalText (n : Nat) : List UInt8 :=
  (if n = 0 then [0] else (Nat.digits 10 n).reverse).map fun d => UInt8.ofNat (48 + d)

/-- The value of one ASCII digit. -/
def digitValue (b : UInt8) : Option Nat :=
  if 48 ≤ b.toNat ∧ b.toNat ≤ 57 then some (b.toNat - 48) else none

/-- Read an unsigned decimal, with an optional sign `+` and any leading zeros. -/
def parseDecimal (l : List UInt8) : Option Nat :=
  let digits := if l.head? = some 43 then l.tail else l
  if digits = [] then none
  else (digits.mapM digitValue).map fun ds => Nat.ofDigits 10 ds.reverse

theorem digitValue_ascii {d : Nat} (h : d < 10) : digitValue (UInt8.ofNat (48 + d)) = some d := by
  have : (UInt8.ofNat (48 + d)).toNat = 48 + d := by
    simp only [UInt8.toNat_ofNat']
    omega
  simp only [digitValue, this]
  rw [if_pos (by omega)]
  congr 1
  omega

theorem digitValue_lt {b : UInt8} {d : Nat} (h : digitValue b = some d) : d < 10 := by
  simp only [digitValue] at h
  split at h
  · cases h
    omega
  · cases h

theorem mapM_digitValue_ascii (ds : List Nat) (small : ∀ d ∈ ds, d < 10) :
    (ds.map fun d => UInt8.ofNat (48 + d)).mapM digitValue = some ds := by
  induction ds with
  | nil => rfl
  | cons d ds ih =>
    have tail := ih fun e he => small e (List.mem_cons_of_mem _ he)
    simp only [List.map_cons, List.mapM_cons, digitValue_ascii (small d List.mem_cons_self), tail]
    rfl

theorem mapM_digitValue_spec {l : List UInt8} {ds : List Nat} (h : l.mapM digitValue = some ds) :
    ds.length = l.length ∧ ∀ d ∈ ds, d < 10 := by
  induction l generalizing ds with
  | nil =>
    cases h
    simp
  | cons b l ih =>
    simp only [List.mapM_cons, bind, Option.bind_eq_some_iff, pure, Option.some.injEq] at h
    obtain ⟨d, hd, rest, hrest, rfl⟩ := h
    obtain ⟨len, small⟩ := ih hrest
    refine ⟨by simp only [List.length_cons, len], ?_⟩
    intro e he
    rcases List.mem_cons.1 he with rfl | he
    · exact digitValue_lt hd
    · exact small e he

theorem parseDecimal_decimalText (n : Nat) : parseDecimal (decimalText n) = some n := by
  have small : ∀ d ∈ (if n = 0 then [0] else (Nat.digits 10 n).reverse), d < 10 := by
    intro d hd
    split at hd
    · simp only [List.mem_singleton] at hd
      omega
    · exact Nat.digits_lt_base (by omega) (List.mem_reverse.1 hd)
  have nonempty : (if n = 0 then [0] else (Nat.digits 10 n).reverse) ≠ [] := by
    split
    · simp
    · simpa [Nat.digits_eq_nil_iff_eq_zero] using ‹n ≠ 0›
  have value : Nat.ofDigits 10 (if n = 0 then [0] else (Nat.digits 10 n).reverse).reverse = n := by
    split
    · simp [*]
    · rw [List.reverse_reverse, Nat.ofDigits_digits]
  generalize hds : (if n = 0 then [0] else (Nat.digits 10 n).reverse) = ds at small nonempty value
  have unsigned : (ds.map fun d => UInt8.ofNat (48 + d)).head? ≠ some 43 := by
    cases ds with
    | nil => simp
    | cons d ds =>
      have hd := small d List.mem_cons_self
      simp only [List.map_cons, List.head?_cons, ne_eq, Option.some.injEq]
      intro same
      have := congrArg UInt8.toNat same
      simp only [UInt8.toNat_ofNat'] at this
      change _ = 43 at this
      omega
  simp only [parseDecimal, decimalText, hds, if_neg unsigned, List.map_eq_nil_iff, if_neg nonempty,
    mapM_digitValue_ascii ds small, Option.map_some, value]

/-- No decimal text of `n` is shorter than the one `decimalText` writes. -/
theorem decimalText_length_le {l : List UInt8} {n : Nat} (h : parseDecimal l = some n) :
    (decimalText n).length ≤ l.length := by
  simp only [parseDecimal] at h
  generalize hdig : (if l.head? = some 43 then l.tail else l) = digits at h
  have shorter : digits.length ≤ l.length := by
    rw [← hdig]
    split
    · simp only [List.length_tail]
      omega
    · exact Nat.le_refl _
  split at h
  · cases h
  · rename_i nonempty
    simp only [Option.map_eq_some_iff] at h
    obtain ⟨ds, read, rfl⟩ := h
    obtain ⟨len, small⟩ := mapM_digitValue_spec read
    have positive : 0 < digits.length := List.length_pos_of_ne_nil nonempty
    simp only [decimalText, List.length_map]
    split
    · simp only [List.length_singleton]
      omega
    · rw [List.length_reverse]
      have below : Nat.ofDigits 10 ds.reverse < 10 ^ ds.length := by
        have := Nat.ofDigits_lt_base_pow_length (b := 10) (l := ds.reverse) (by omega)
          (fun d hd => small d (List.mem_reverse.1 hd))
        simpa only [List.length_reverse] using this
      have := (Nat.digits_length_le_iff (b := 10) (by omega) _).2 below
      omega

/-- A natural number as a length-prefixed decimal text. -/
def decimal : Format Nat :=
  bytes.refine parseDecimal decimalText

theorem decimal_reads {n : Nat} (bound : (decimalText n).length < 256 ^ 8) : decimal.Reads n :=
  (bytes_reads bound).refine (parseDecimal_decimalText n)

theorem decimal_takes : decimal.Takes fun n => 8 + (decimalText n).length :=
  bytes_takes.refine fun _ _ accepted => by
    have := decimalText_length_le accepted
    omega

end Format
end Wire
