import Relayd.Lib.Base64
import Relayd.Contract.Data

/-!
# Bincode2 texts of the stored records

Bincode2 writes the fields of a struct in order and without names, an enum as
the index of its variant on four bytes, an `Option` as a tag byte and the value,
a string as its length on eight bytes and its bytes. `Uint128` and the bytes of
a `CanonicalAddr` are serialised as strings (decimal, base64). A field that
serde skips leaves no byte: `TokenInfo` skips an absent `total_supply`.

`config_reads` gives the round trip of a configuration whose supplies are
listed; `config_takes` and `config_short` show that no other one has it.
-/

namespace Relayd.Contract.Serde
set_option autoImplicit false
open Wire

/-- A Rust `String`. -/
def str : Format RString :=
  Format.text.refine (fun s => if h : s.utf8ByteSize < 2 ^ 63 then some ⟨s, h⟩ else none) Subtype.val

/-- A `Uint128`, as its decimal string. -/
def uint128 : Format Uint128 :=
  Format.decimal.refine (fun n => if h : n < 2 ^ 128 then some ⟨n, h⟩ else none) Subtype.val

/-- A `CanonicalAddr`, as the base64 string of its bytes. -/
def addr : Format CanonicalAddr :=
  Format.base64.refine (fun b => if h : b.length < 2 ^ 60 then some ⟨b, h⟩ else none) Subtype.val

def int8 : Format Int8 :=
  Format.byte.refine (fun b => some (Int8.ofUInt8 b)) Int8.toUInt8

/-- An enum without fields: the index of the variant in `variants`. -/
def enum {α : Type} [DecidableEq α] (variants : List α) : Format α :=
  (Format.le 4).refine (fun n => variants[n]?) fun a => variants.idxOf a

def oracleStatus : Format OracleStatus := enum [.Testing, .Running, .Stopped]

def oracleType : Format OracleType := enum [.PriceFeed, .Other]

def tokenInfo : Format TokenInfo :=
  (str.seq (str.seq (Format.byte.seq uint128.skipNone))).refine
    (fun p => some ⟨p.1, p.2.1, p.2.2.1, p.2.2.2⟩) fun t => (t.name, t.symbol, t.decimals, t.totalSupply)

def currencyPair : Format CurrencyPair :=
  (tokenInfo.seq tokenInfo).refine (fun p => some ⟨p.1, p.2⟩) fun p => (p.base, p.quote)

def oracleConfig : Format OracleConfig :=
  (str.seq (str.seq (oracleStatus.seq (oracleType.seq (int8.seq (currencyPair.option.seq
    (str.seq (str.seq addr)))))))).refine
    (fun p => some
      { oracleName := p.1
        oracleDescription := p.2.1
        oracleStatus := p.2.2.1
        oracleType := p.2.2.2.1
        oracleValueDecimals := p.2.2.2.2.1
        oraclePricePair := p.2.2.2.2.2.1
        dataSource := p.2.2.2.2.2.2.1
        dataSourceId := p.2.2.2.2.2.2.2.1
        owner := p.2.2.2.2.2.2.2.2 })
    fun c => (c.oracleName, c.oracleDescription, c.oracleStatus, c.oracleType, c.oracleValueDecimals,
      c.oraclePricePair, c.dataSource, c.dataSourceId, c.owner)

def latestRoundData : Format LatestRoundData :=
  (uint128.seq uint128).refine (fun p => some ⟨p.1, p.2⟩) fun d => (d.current, d.updatedAt)

/-! ## What reads back -/

theorem str_reads (s : RString) : str.Reads s := by
  have bound := s.2
  exact Format.Reads.refine (Format.text_reads (by omega)) (dif_pos s.2)

/-- A 128-bit number has at most 39 digits. -/
theorem decimalText_uint128 (n : Uint128) : (Format.decimalText n.1).length ≤ 39 := by
  have bound := n.2
  simp only [Format.decimalText, List.length_map]
  split
  · simp
  · rw [List.length_reverse]
    exact (Nat.digits_length_le_iff (by omega) _).2 (by omega)

theorem uint128_reads (n : Uint128) : uint128.Reads n := by
  have short := decimalText_uint128 n
  exact Format.Reads.refine (Format.decimal_reads (by omega)) (dif_pos n.2)

theorem addr_reads (a : CanonicalAddr) : addr.Reads a := by
  have bound := a.2
  have text := Base64.encode_length a.1
  exact Format.Reads.refine (Format.base64_reads (by omega)) (dif_pos a.2)

theorem int8_reads (n : Int8) : int8.Reads n :=
  Format.Reads.refine (Format.byte_reads _) rfl

theorem enum_reads {α : Type} [DecidableEq α] {variants : List α} {a : α} (member : a ∈ variants)
    (few : variants.length < 256 ^ 4) : (enum variants).Reads a := by
  have index := List.idxOf_lt_length_of_mem member
  refine Format.Reads.refine (Format.le_reads (by omega)) ?_
  rw [List.getElem?_eq_getElem index, List.getElem_idxOf]

theorem oracleStatus_reads (s : OracleStatus) : oracleStatus.Reads s :=
  enum_reads (by cases s <;> simp) (by decide)

theorem oracleType_reads (t : OracleType) : oracleType.Reads t :=
  enum_reads (by cases t <;> simp) (by decide)

/-- A token reads back when its supply is listed. -/
theorem tokenInfo_reads {t : TokenInfo} (listed : t.totalSupply.isSome) : tokenInfo.Reads t := by
  obtain ⟨n, supply⟩ := Option.isSome_iff_exists.1 listed
  have field : uint128.skipNone.Reads t.totalSupply := by
    rw [supply]
    exact Format.skipNone_reads (uint128_reads n)
  exact Format.Reads.refine ((str_reads _).seq ((str_reads _).seq ((Format.byte_reads _).seq field))) rfl

theorem currencyPair_reads {p : CurrencyPair} (base : p.base.totalSupply.isSome)
    (quote : p.quote.totalSupply.isSome) : currencyPair.Reads p := by
  have tokens : (tokenInfo.seq tokenInfo).Reads (p.base, p.quote) :=
    Format.Reads.seq (p := (p.base, p.quote)) (tokenInfo_reads base) (tokenInfo_reads quote)
  exact Format.Reads.refine tokens rfl

/-- **The configuration's round trip**, when the supplies of its pair are listed. -/
theorem config_reads {c : OracleConfig} (listed : SuppliesListed c.oraclePricePair) : oracleConfig.Reads c := by
  have pair : currencyPair.option.Reads c.oraclePricePair :=
    Format.option_reads fun p same => currencyPair_reads (listed p same).1 (listed p same).2
  exact Format.Reads.refine ((str_reads _).seq ((str_reads _).seq ((oracleStatus_reads _).seq
    ((oracleType_reads _).seq ((int8_reads _).seq (pair.seq ((str_reads _).seq
      ((str_reads _).seq (addr_reads _))))))))) rfl

theorem latestRoundData_reads (d : LatestRoundData) : latestRoundData.Reads d :=
  Format.Reads.refine ((uint128_reads _).seq (uint128_reads _)) rfl

/-! ## What a reader consumes -/

def strSize (s : RString) : Nat := 8 + s.1.utf8ByteSize

def uint128Size (n : Uint128) : Nat := 8 + (Format.decimalText n.1).length

def addrSize (a : CanonicalAddr) : Nat := 8 + (Base64.encode a.1).length

/-- The width of a token with the tag of its supply, listed or not. -/
def tokenSize (t : TokenInfo) : Nat :=
  strSize t.name + (strSize t.symbol + (1 + Format.optionSize uint128Size t.totalSupply))

def pairSize (p : CurrencyPair) : Nat := tokenSize p.base + tokenSize p.quote

/-- The width of a configuration in which every optional field has its tag. -/
def configSize (c : OracleConfig) : Nat :=
  strSize c.oracleName + (strSize c.oracleDescription + (4 + (4 + (1 +
    (Format.optionSize pairSize c.oraclePricePair + (strSize c.dataSource +
      (strSize c.dataSourceId + addrSize c.owner)))))))

theorem str_takes : str.Takes strSize :=
  Format.text_takes.refine fun s r accepted => by
    split at accepted
    · cases accepted
      exact Nat.le_refl _
    · cases accepted

theorem uint128_takes : uint128.Takes uint128Size :=
  Format.decimal_takes.refine fun n r accepted => by
    split at accepted
    · cases accepted
      exact Nat.le_refl _
    · cases accepted

theorem addr_takes : addr.Takes addrSize :=
  Format.base64_takes.refine fun b r accepted => by
    split at accepted
    · cases accepted
      exact Nat.le_refl _
    · cases accepted

theorem enum_takes {α : Type} [DecidableEq α] (variants : List α) : (enum variants).Takes fun _ => 4 :=
  (Format.le_takes 4).refine fun _ _ _ => Nat.le_refl _

theorem int8_takes : int8.Takes fun _ => 1 :=
  Format.byte_takes.refine fun _ _ _ => Nat.le_refl _

theorem token_takes : tokenInfo.Takes tokenSize :=
  (str_takes.seq (str_takes.seq (Format.byte_takes.seq (Format.skipNone_takes uint128_takes)))).refine
    fun p t accepted => by
      cases accepted
      exact Nat.le_refl _

theorem pair_takes : currencyPair.Takes pairSize :=
  (token_takes.seq token_takes).refine fun p q accepted => by
    cases accepted
    exact Nat.le_refl _

theorem config_takes : oracleConfig.Takes configSize :=
  (str_takes.seq (str_takes.seq ((enum_takes _).seq ((enum_takes _).seq (int8_takes.seq
    ((Format.option_takes pair_takes).seq (str_takes.seq (str_takes.seq addr_takes)))))))).refine
    fun p c accepted => by
      cases accepted
      exact Nat.le_refl _

/-! ## What a writer leaves out -/

theorem str_length (s : RString) : (str.write s).length = strSize s :=
  Format.text_write_length _

theorem uint128_length (n : Uint128) : (uint128.write n).length = uint128Size n :=
  Format.bytes_write_length _

theorem addr_length (a : CanonicalAddr) : (addr.write a).length = addrSize a :=
  Format.base64_write_length _

theorem enum_length {α : Type} [DecidableEq α] (variants : List α) (a : α) :
    ((enum variants).write a).length = 4 :=
  Format.le_write_length 4 _

/-- A token's text is full exactly when the supply is listed. -/
theorem token_length (t : TokenInfo) :
    (tokenInfo.write t).length + (if t.totalSupply.isSome then 0 else 1) = tokenSize t := by
  simp only [tokenInfo, Format.refine, Format.seq, List.length_append, str_length, tokenSize, Format.byte,
    List.length_singleton]
  cases t.totalSupply with
  | none =>
    simp only [Format.skipNone, Format.optionSize, List.length_nil, Option.isSome_none, Bool.false_eq_true, if_false]
    omega
  | some n =>
    simp only [Format.skipNone, Format.option, Format.optionSize, List.length_cons, uint128_length,
      Option.isSome_some, if_true]
    omega

/-- A configuration with an unlisted supply is written shorter than it is read. -/
theorem config_short {c : OracleConfig} (unlisted : ¬ SuppliesListed c.oraclePricePair) :
    (oracleConfig.write c).length < configSize c := by
  simp only [SuppliesListed, not_forall] at unlisted
  obtain ⟨p, pair, unlisted⟩ := unlisted
  have base := token_length p.base
  have quote := token_length p.quote
  have gap : (tokenInfo.write p.base).length + (tokenInfo.write p.quote).length < pairSize p := by
    simp only [pairSize]
    by_cases listed : p.base.totalSupply.isSome
    · have other : ¬ p.quote.totalSupply.isSome := fun h => unlisted ⟨listed, h⟩
      rw [if_pos listed] at base
      rw [if_neg other] at quote
      omega
    · rw [if_neg listed] at base
      omega
  simp only [oracleConfig, Format.refine, Format.seq, List.length_append, str_length, oracleStatus, oracleType,
    enum_length, int8, Format.byte, addr_length, configSize, pair, Format.option, Format.optionSize,
    List.length_cons, List.length_nil, currencyPair]
  omega

/-- An unlisted supply makes the stored text unreadable as what was stored. -/
theorem config_not_read {c : OracleConfig} (unlisted : ¬ SuppliesListed c.oraclePricePair) (rest : List UInt8) :
    oracleConfig.read (oracleConfig.write c) ≠ some (c, rest) :=
  config_takes.not_read (config_short unlisted) rest

end Relayd.Contract.Serde
