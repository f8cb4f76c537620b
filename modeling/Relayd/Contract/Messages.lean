import Relayd.Contract.Response
import Relayd.Lib.JsonSchema

/-!
# Messages and answers as JSON

How `serde` reads and writes the types of `data.rs` and `msg.rs`: the fields of
a struct are members of an object, of which it ignores the ones it does not
know; a variant with fields is the only member of an object, one without is its
name. `Uint128` is a decimal text, `CanonicalAddr` a base64 text. A number or a
text that does not fit its type is not read.
-/

namespace Relayd.Contract
set_option autoImplicit false
open Sys Wire Wire.Value

/-! ## Single values -/

def RString.ofValue : Value → Option RString
  | .text s => if h : s.utf8ByteSize < 2 ^ 63 then some ⟨s, h⟩ else none
  | _ => none

def RString.toValue (s : RString) : Value := .text s.1

def Int8.ofValue : Value → Option Int8
  | .int n => if -128 ≤ n ∧ n < 128 then some (Int8.ofInt n) else none
  | _ => none

def Int8.toValue (n : Int8) : Value := .int n.toInt

def UInt8.ofValue : Value → Option UInt8
  | .int n => if 0 ≤ n ∧ n < 256 then some (UInt8.ofNat n.toNat) else none
  | _ => none

def UInt8.toValue (n : UInt8) : Value := .int n.toNat

def Uint128.ofValue : Value → Option Uint128
  | .text s => (Format.parseDecimal (utf8 s)).bind fun n => if h : n < 2 ^ 128 then some ⟨n, h⟩ else none
  | _ => none

def Uint128.toValue (n : Uint128) : Value := .text (ascii (Format.decimalText n.1))

def CanonicalAddr.ofValue : Value → Option CanonicalAddr
  | .text s => (Base64.decode (utf8 s)).bind fun b => if h : b.length < 2 ^ 60 then some ⟨b, h⟩ else none
  | _ => none

def CanonicalAddr.toValue (a : CanonicalAddr) : Value := .text (ascii (Base64.encode a.1))

/-- A variant without fields, by the texts of all of them. -/
def enumOfValue {α : Type} (variants : List (String × α)) : Value → Option α
  | .text s => variants.lookup s
  | _ => none

def OracleStatus.ofValue : Value → Option OracleStatus :=
  enumOfValue [("Testing", .Testing), ("Running", .Running), ("Stopped", .Stopped)]

def OracleStatus.toValue (status : OracleStatus) : Value := .text status.text

def OracleType.text : OracleType → String
  | .PriceFeed => "PriceFeed"
  | .Other => "Other"

def OracleType.ofValue : Value → Option OracleType := enumOfValue [("PriceFeed", .PriceFeed), ("Other", .Other)]

def OracleType.toValue (type : OracleType) : Value := .text type.text

def ResponseStatus.ofValue : Value → Option ResponseStatus := enumOfValue [("success", .Success), ("failure", .Failure)]

def ResponseStatus.toValue (status : ResponseStatus) : Value := .text status.text

/-! ## Structs -/

def TokenInfo.ofMembers (members : List (String × Value)) : Option TokenInfo := do
  let name ← required "name" RString.ofValue members
  let symbol ← required "symbol" RString.ofValue members
  let decimals ← required "decimals" UInt8.ofValue members
  let totalSupply ← optional "total_supply" Uint128.ofValue members
  return ⟨name, symbol, decimals, totalSupply⟩

def TokenInfo.ofValue : Value → Option TokenInfo := record ofMembers

def TokenInfo.members (token : TokenInfo) : List (String × Value) :=
  [("name", token.name.toValue), ("symbol", token.symbol.toValue), ("decimals", UInt8.toValue token.decimals)] ++
    skipNone "total_supply" Uint128.toValue token.totalSupply

def TokenInfo.toValue (token : TokenInfo) : Value := .object token.members

def CurrencyPair.ofMembers (members : List (String × Value)) : Option CurrencyPair := do
  let base ← required "base" TokenInfo.ofValue members
  let quote ← required "quote" TokenInfo.ofValue members
  return ⟨base, quote⟩

def CurrencyPair.ofValue : Value → Option CurrencyPair := record ofMembers

def CurrencyPair.toValue (pair : CurrencyPair) : Value :=
  .object [("base", pair.base.toValue), ("quote", pair.quote.toValue)]

def OracleConfig.ofMembers (members : List (String × Value)) : Option OracleConfig := do
  let oracleName ← required "oracle_name" RString.ofValue members
  let oracleDescription ← required "oracle_description" RString.ofValue members
  let oracleStatus ← required "oracle_status" OracleStatus.ofValue members
  let oracleType ← required "oracle_type" OracleType.ofValue members
  let oracleValueDecimals ← required "oracle_value_decimals" Int8.ofValue members
  let oraclePricePair ← optional "oracle_price_pair" CurrencyPair.ofValue members
  let dataSource ← required "data_source" RString.ofValue members
  let dataSourceId ← required "data_source_id" RString.ofValue members
  let owner ← required "owner" CanonicalAddr.ofValue members
  return { oracleName, oracleDescription, oracleStatus, oracleType, oracleValueDecimals, oraclePricePair, dataSource,
           dataSourceId, owner }

def OracleConfig.ofValue : Value → Option OracleConfig := record ofMembers

def OracleConfig.members (config : OracleConfig) : List (String × Value) :=
  [("oracle_name", config.oracleName.toValue),
    ("oracle_description", config.oracleDescription.toValue),
    ("oracle_status", config.oracleStatus.toValue),
    ("oracle_type", config.oracleType.toValue),
    ("oracle_value_decimals", Int8.toValue config.oracleValueDecimals),
    ("oracle_price_pair", orNull CurrencyPair.toValue config.oraclePricePair),
    ("data_source", config.dataSource.toValue),
    ("data_source_id", config.dataSourceId.toValue),
    ("owner", CanonicalAddr.toValue config.owner)]

def OracleConfig.toValue (config : OracleConfig) : Value := .object config.members

def LatestRoundData.ofMembers (members : List (String × Value)) : Option LatestRoundData := do
  let current ← required "current" Uint128.ofValue members
  let updatedAt ← required "updated_at" Uint128.ofValue members
  return ⟨current, updatedAt⟩

def LatestRoundData.ofValue : Value → Option LatestRoundData := record ofMembers

def LatestRoundData.toValue (data : LatestRoundData) : Value :=
  .object [("current", Uint128.toValue data.current), ("updated_at", Uint128.toValue data.updatedAt)]

/-! ## Messages -/

def InitMsg.ofMembers (members : List (String × Value)) : Option InitMsg := do
  let oracleName ← required "oracle_name" RString.ofValue members
  let oracleDescription ← optional "oracle_description" RString.ofValue members
  let oracleStatus ← optional "oracle_status" OracleStatus.ofValue members
  let oracleType ← optional "oracle_type" OracleType.ofValue members
  let dataSource ← required "data_source" RString.ofValue members
  let dataSourceId ← optional "data_source_id" RString.ofValue members
  let oracleValueDecimals ← required "oracle_value_decimals" Int8.ofValue members
  let oraclePricePair ← optional "oracle_price_pair" CurrencyPair.ofValue members
  return { oracleName, oracleDescription, oracleStatus, oracleType, dataSource, dataSourceId, oracleValueDecimals,
           oraclePricePair }

def InitMsg.ofValue : Value → Option InitMsg := record ofMembers

def InitMsg.members (msg : InitMsg) : List (String × Value) :=
  [("oracle_name", msg.oracleName.toValue)] ++
    skipNone "oracle_description" RString.toValue msg.oracleDescription ++
    [("oracle_status", orNull OracleStatus.toValue msg.oracleStatus),
      ("oracle_type", orNull OracleType.toValue msg.oracleType),
      ("data_source", msg.dataSource.toValue)] ++
    skipNone "data_source_id" RString.toValue msg.dataSourceId ++
    [("oracle_value_decimals", Int8.toValue msg.oracleValueDecimals)] ++
    skipNone "oracle_price_pair" CurrencyPair.toValue msg.oraclePricePair

def InitMsg.toValue (msg : InitMsg) : Value := .object msg.members

def HandleMsg.ofValue (v : Value) : Option HandleMsg :=
  (variant "set_latest_round_data" (record (required "data" LatestRoundData.ofValue)) v).map .SetLatestRoundData
    |>.or ((variant "set_oracle_status" (record (required "status" OracleStatus.ofValue)) v).map .SetOracleStatus)

def HandleMsg.toValue : HandleMsg → Value
  | .SetLatestRoundData data => .object [("set_latest_round_data", .object [("data", data.toValue)])]
  | .SetOracleStatus status => .object [("set_oracle_status", .object [("status", status.toValue)])]

def QueryMsg.ofValue (v : Value) : Option QueryMsg :=
  (variant "get_latest_round_data" (record fun _ => some QueryMsg.GetLatestRoundData) v)
    |>.or (variant "get_oracle_config" (record fun _ => some .GetOracleConfig) v)

def QueryMsg.toValue : QueryMsg → Value
  | .GetLatestRoundData => .object [("get_latest_round_data", .object [])]
  | .GetOracleConfig => .object [("get_oracle_config", .object [])]

/-! ## Answers -/

def HandleAnswer.toValue : HandleAnswer → Value
  | .SetLatestRoundData status => .object [("set_latest_round_data", .object [("status", status.toValue)])]
  | .SetOracleStatus status => .object [("set_oracle_status", .object [("status", status.toValue)])]

def HandleAnswer.ofValue (v : Value) : Option HandleAnswer :=
  (variant "set_latest_round_data" (record (required "status" ResponseStatus.ofValue)) v).map .SetLatestRoundData
    |>.or ((variant "set_oracle_status" (record (required "status" ResponseStatus.ofValue)) v).map .SetOracleStatus)

def QueryAnswer.toValue : QueryAnswer → Value
  | .LatestRoundData data status =>
    .object [("latest_round_data", .object [("data", data.toValue), ("status", status.toValue)])]
  | .OracleStatus data status => .object [("oracle_status", .object [("data", data.toValue), ("status", status.toValue)])]
  | .OracleConfig data status => .object [("oracle_config", .object [("data", data.toValue), ("status", status.toValue)])]

/-- The members of every answer to a query. -/
def dataAndStatus {α : Type} (read : Value → Option α) (members : List (String × Value)) :
    Option (α × ResponseStatus) := do
  let data ← required "data" read members
  let status ← required "status" ResponseStatus.ofValue members
  return (data, status)

def QueryAnswer.ofValue (v : Value) : Option QueryAnswer :=
  (variant "latest_round_data" (record (dataAndStatus LatestRoundData.ofValue)) v).map (fun p => .LatestRoundData p.1 p.2)
    |>.or ((variant "oracle_status" (record (dataAndStatus OracleStatus.ofValue)) v).map fun p => .OracleStatus p.1 p.2)
    |>.or ((variant "oracle_config" (record (dataAndStatus OracleConfig.ofValue)) v).map fun p => .OracleConfig p.1 p.2)

/-! ## What is read back -/

theorem RString.reads (s : RString) : ofValue s.toValue = some s := dif_pos s.2

theorem Int8.reads (n : Int8) : ofValue (toValue n) = some n := by
  have low := n.le_toInt
  have high := n.toInt_lt
  simp only [toValue, ofValue]
  rw [if_pos (by omega), Int8.ofInt_toInt]

theorem UInt8.reads (n : UInt8) : ofValue (toValue n) = some n := by
  have bound := n.toNat_lt
  simp only [toValue, ofValue]
  rw [if_pos (by omega), Int.toNat_natCast, UInt8.ofNat_toNat]

theorem decimalText_ascii (n : Nat) : ∀ b ∈ Format.decimalText n, b < 128 := by
  intro b member
  obtain ⟨d, digit, rfl⟩ := List.mem_map.1 member
  have small : d < 10 := by
    split at digit
    · simp only [List.mem_singleton] at digit
      omega
    · exact Nat.digits_lt_base (by omega) (List.mem_reverse.1 digit)
  show (UInt8.ofNat (48 + d)).toNat < 128
  simp only [UInt8.toNat_ofNat']
  omega

theorem Uint128.reads (n : Uint128) : ofValue (toValue n) = some n := by
  simp only [toValue, ofValue, utf8_ascii (decimalText_ascii n.1), Format.parseDecimal_decimalText, Option.bind_some]
  exact dif_pos n.2

theorem symbol_ascii (n : Nat) : Base64.symbol n < 128 := by
  show (Base64.symbol n).toNat < 128
  simp only [Base64.symbol, UInt8.toNat_ofNat']
  split
  · omega
  · split
    · omega
    · split
      · omega
      · split <;> omega

theorem encode_ascii (l : List UInt8) : ∀ b ∈ Base64.encode l, b < 128 := by
  have pad : Base64.pad < 128 := by decide
  induction l using Base64.encode.induct with
  | case1 => simp [Base64.encode]
  | case2 a => simp [Base64.encode, symbol_ascii, pad]
  | case3 a b => simp [Base64.encode, symbol_ascii, pad]
  | case4 a b c rest ih =>
    simp only [Base64.encode, List.forall_mem_cons, symbol_ascii, true_and]
    exact ih

theorem CanonicalAddr.reads (a : CanonicalAddr) : ofValue (toValue a) = some a := by
  simp only [toValue, ofValue, utf8_ascii (encode_ascii a.1), Base64.decode_encode, Option.bind_some]
  exact dif_pos a.2

theorem OracleStatus.reads (status : OracleStatus) : ofValue status.toValue = some status := by cases status <;> rfl

theorem OracleType.reads (type : OracleType) : ofValue type.toValue = some type := by cases type <;> rfl

theorem ResponseStatus.reads (status : ResponseStatus) : ofValue status.toValue = some status := by cases status <;> rfl

theorem TokenInfo.reads (token : TokenInfo) : ofValue token.toValue = some token := by
  have name : required "name" RString.ofValue token.members = some token.name :=
    (required_single (by simp [members])).trans (RString.reads _)
  have symbol : required "symbol" RString.ofValue token.members = some token.symbol :=
    (required_single (by simp [members])).trans (RString.reads _)
  have decimals : required "decimals" UInt8.ofValue token.members = some token.decimals :=
    (required_single (by simp [members])).trans (UInt8.reads _)
  have supply : optional "total_supply" Uint128.ofValue token.members = some token.totalSupply :=
    optional_skipNone (by simp [members]) rfl Uint128.reads
  simp only [toValue, ofValue, record, ofMembers, name, symbol, decimals, supply, Option.bind_eq_bind, Option.bind_some]
  rfl

theorem CurrencyPair.reads (pair : CurrencyPair) : ofValue pair.toValue = some pair := by
  simp [toValue, ofValue, record, ofMembers, required, TokenInfo.reads]

theorem OracleConfig.reads (config : OracleConfig) : ofValue config.toValue = some config := by
  have pair : optional "oracle_price_pair" CurrencyPair.ofValue config.members = some config.oraclePricePair :=
    optional_orNull (by simp [members]) rfl CurrencyPair.reads
  simp only [toValue, ofValue, record, ofMembers, pair]
  simp [members, required, RString.reads, OracleStatus.reads, OracleType.reads, Int8.reads, CanonicalAddr.reads]

theorem LatestRoundData.reads (data : LatestRoundData) : ofValue data.toValue = some data := by
  simp [toValue, ofValue, record, ofMembers, required, Uint128.reads]

theorem InitMsg.reads (msg : InitMsg) : ofValue msg.toValue = some msg := by
  have description : optional "oracle_description" RString.ofValue msg.members = some msg.oracleDescription :=
    optional_skipNone (by simp [members]) rfl RString.reads
  have status : optional "oracle_status" OracleStatus.ofValue msg.members = some msg.oracleStatus :=
    optional_orNull (by simp [members]) rfl OracleStatus.reads
  have type : optional "oracle_type" OracleType.ofValue msg.members = some msg.oracleType :=
    optional_orNull (by simp [members]) rfl OracleType.reads
  have sourceId : optional "data_source_id" RString.ofValue msg.members = some msg.dataSourceId :=
    optional_skipNone (by simp [members]) rfl RString.reads
  have pair : optional "oracle_price_pair" CurrencyPair.ofValue msg.members = some msg.oraclePricePair :=
    optional_skipNone (by simp [members]) rfl CurrencyPair.reads
  simp only [toValue, ofValue, record, ofMembers, description, status, type, sourceId, pair]
  simp [members, required, RString.reads, Int8.reads]

theorem HandleMsg.reads (msg : HandleMsg) : ofValue msg.toValue = some msg := by
  cases msg with
  | SetLatestRoundData data => simp [toValue, ofValue, variant, record, required, LatestRoundData.reads]
  | SetOracleStatus status => simp [toValue, ofValue, variant, record, required, OracleStatus.reads]

theorem QueryMsg.reads (msg : QueryMsg) : ofValue msg.toValue = some msg := by
  cases msg <;> simp [toValue, ofValue, variant, record]

theorem HandleAnswer.reads (answer : HandleAnswer) : ofValue answer.toValue = some answer := by
  cases answer <;> simp [toValue, ofValue, variant, record, required, ResponseStatus.reads]

theorem dataAndStatus_reads {α : Type} {read : Value → Option α} {v : Value} {data : α} (given : read v = some data)
    (status : ResponseStatus) :
    dataAndStatus read [("data", v), ("status", status.toValue)] = some (data, status) := by
  simp [dataAndStatus, required, given, ResponseStatus.reads]

theorem QueryAnswer.reads (answer : QueryAnswer) : ofValue answer.toValue = some answer := by
  cases answer with
  | LatestRoundData data status =>
    simp [toValue, ofValue, variant, record, dataAndStatus_reads (LatestRoundData.reads data)]
  | OracleStatus data status => simp [toValue, ofValue, variant, record, dataAndStatus_reads (OracleStatus.reads data)]
  | OracleConfig data status => simp [toValue, ofValue, variant, record, dataAndStatus_reads (OracleConfig.reads data)]

/-! ## The order of the members -/

theorem RString.unordered : Unordered ofValue := .of_atoms fun _ => rfl

theorem Int8.unordered : Unordered ofValue := .of_atoms fun _ => rfl

theorem UInt8.unordered : Unordered ofValue := .of_atoms fun _ => rfl

theorem Uint128.unordered : Unordered ofValue := .of_atoms fun _ => rfl

theorem CanonicalAddr.unordered : Unordered ofValue := .of_atoms fun _ => rfl

theorem enumOfValue_unordered {α : Type} (variants : List (String × α)) : Unordered (enumOfValue variants) :=
  .of_atoms fun _ => rfl

theorem TokenInfo.unordered : Unordered ofValue := by
  apply Unordered.record
  intro members members' alike
  simp only [ofMembers, required_alike RString.unordered alike, required_alike UInt8.unordered alike,
    optional_alike Uint128.unordered alike]

theorem CurrencyPair.unordered : Unordered ofValue := by
  apply Unordered.record
  intro members members' alike
  simp only [ofMembers, required_alike TokenInfo.unordered alike]

theorem OracleConfig.unordered : Unordered ofValue := by
  apply Unordered.record
  intro members members' alike
  simp only [ofMembers, required_alike RString.unordered alike, OracleStatus.ofValue, OracleType.ofValue,
    required_alike (enumOfValue_unordered _) alike, required_alike Int8.unordered alike,
    optional_alike CurrencyPair.unordered alike, required_alike CanonicalAddr.unordered alike]

theorem LatestRoundData.unordered : Unordered ofValue := by
  apply Unordered.record
  intro members members' alike
  simp only [ofMembers, required_alike Uint128.unordered alike]

theorem InitMsg.unordered : Unordered ofValue := by
  apply Unordered.record
  intro members members' alike
  simp only [ofMembers, required_alike RString.unordered alike, optional_alike RString.unordered alike,
    OracleStatus.ofValue, OracleType.ofValue, optional_alike (enumOfValue_unordered _) alike,
    required_alike Int8.unordered alike, optional_alike CurrencyPair.unordered alike]

/-- A variant with one field. -/
theorem fieldVariant_unordered {α : Type} {read : Value → Option α} (unordered : Unordered read) (name field : String) :
    Unordered (variant name (record (required field read))) := by
  apply Unordered.variant
  apply Unordered.record
  exact fun _ _ alike => required_alike unordered alike

theorem HandleMsg.unordered : Unordered ofValue :=
  ((fieldVariant_unordered LatestRoundData.unordered _ _).map _).orElse
    ((fieldVariant_unordered (enumOfValue_unordered _) _ _).map _)

theorem QueryMsg.unordered : Unordered ofValue :=
  (Unordered.variant (.record fun _ _ _ => rfl)).orElse (.variant (.record fun _ _ _ => rfl))

theorem HandleAnswer.unordered : Unordered ofValue :=
  ((fieldVariant_unordered (enumOfValue_unordered _) _ _).map _).orElse
    ((fieldVariant_unordered (enumOfValue_unordered _) _ _).map _)

theorem dataAndStatus_unordered {α : Type} {read : Value → Option α} (unordered : Unordered read) (name : String) :
    Unordered (variant name (record (dataAndStatus read))) := by
  apply Unordered.variant
  apply Unordered.record
  intro members members' alike
  simp only [dataAndStatus, required_alike unordered alike, ResponseStatus.ofValue,
    required_alike (enumOfValue_unordered _) alike]

theorem QueryAnswer.unordered : Unordered ofValue :=
  (((dataAndStatus_unordered LatestRoundData.unordered _).map _).orElse
    ((dataAndStatus_unordered (enumOfValue_unordered _) _).map _)).orElse
      ((dataAndStatus_unordered OracleConfig.unordered _).map _)

/-- **Every message and every answer is read as it was written**, in whatever order its members are listed. -/
theorem messages_read (v : Value) :
    (∀ msg : InitMsg, Shuffled msg.toValue v → InitMsg.ofValue v = some msg) ∧
      (∀ msg : HandleMsg, Shuffled msg.toValue v → HandleMsg.ofValue v = some msg) ∧
      (∀ msg : QueryMsg, Shuffled msg.toValue v → QueryMsg.ofValue v = some msg) ∧
      (∀ answer : HandleAnswer, Shuffled answer.toValue v → HandleAnswer.ofValue v = some answer) ∧
      (∀ answer : QueryAnswer, Shuffled answer.toValue v → QueryAnswer.ofValue v = some answer) :=
  ⟨fun msg shuffled => (InitMsg.unordered _ _ shuffled).trans msg.reads,
    fun msg shuffled => (HandleMsg.unordered _ _ shuffled).trans msg.reads,
    fun msg shuffled => (QueryMsg.unordered _ _ shuffled).trans msg.reads,
    fun answer shuffled => (HandleAnswer.unordered _ _ shuffled).trans answer.reads,
    fun answer shuffled => (QueryAnswer.unordered _ _ shuffled).trans answer.reads⟩

/-- The members of round data the other way round. -/
theorem messages_read_swapped :
    HandleMsg.ofValue (.object [("set_latest_round_data", .object [("data",
      .object [("updated_at", .text (ascii (Format.decimalText 2))), ("current", .text (ascii (Format.decimalText 1)))])])]) =
        some (.SetLatestRoundData ⟨⟨1, by decide⟩, ⟨2, by decide⟩⟩) := by
  apply (messages_read _).2.1
  apply Shuffled.inside [] []
  apply Shuffled.inside [] []
  exact Shuffled.swap [] [] _ _

/-! ## The bytes of an answer -/

theorem decimalText_plain (n : Nat) : ∀ b ∈ Format.decimalText n, Plain b := by
  intro b member
  obtain ⟨d, digit, rfl⟩ := List.mem_map.1 member
  have small : d < 10 := by
    split at digit
    · simp only [List.mem_singleton] at digit
      omega
    · exact Nat.digits_lt_base (by omega) (List.mem_reverse.1 digit)
  interval_cases d <;> decide

theorem Uint128.render (n : Uint128) : (toValue n).render = toJson n := by
  have text := utf8_ascii (decimalText_ascii n.1)
  have plain : ∀ b ∈ utf8 (ascii (Format.decimalText n.1)), Plain b := by
    rw [text]
    exact decimalText_plain n.1
  rw [toValue, render_text plain, text]
  rfl

theorem ResponseStatus.render (status : ResponseStatus) : status.toValue.render = status.toJson := by
  cases status <;> exact render_text (by decide)

theorem OracleStatus.render (status : OracleStatus) : status.toValue.render = Json.quoted (utf8 status.text) := by
  cases status <;> exact render_text (by decide)

theorem LatestRoundData.render (data : LatestRoundData) : data.toValue.render = data.toJson := by
  rw [toValue, render_pair (by decide) (by decide), Uint128.render, Uint128.render]
  rfl

theorem HandleAnswer.toBinary_eq (answer : HandleAnswer) : answer.toBinary = answer.toValue.render := by
  cases answer with
  | SetLatestRoundData status =>
    rw [toValue, render_single (by decide), render_single (by decide), status.render]
    rfl
  | SetOracleStatus status =>
    rw [toValue, render_single (by decide), render_single (by decide), status.render]
    rfl

/-- **The bytes of an answer are the text of its JSON**, when the host renders a configuration as its JSON. -/
theorem QueryAnswer.toBinary_eq {host : Host} (renders : ∀ config, host.toJson config = config.toValue.render)
    (answer : QueryAnswer) : answer.toBinary host = answer.toValue.render := by
  cases answer with
  | LatestRoundData data status =>
    rw [toValue, render_single (by decide), render_pair (by decide) (by decide), data.render, status.render]
    rfl
  | OracleStatus data status =>
    rw [toValue, render_single (by decide), render_pair (by decide) (by decide), data.render, status.render]
    rfl
  | OracleConfig data status =>
    rw [toValue, render_single (by decide), render_pair (by decide) (by decide), ← renders, status.render]
    rfl

/-! ## Calls by JSON -/

/-- One handle call as it comes in. -/
structure JsonCall where
  sender : HumanAddr
  msg : Value

/-- The call of a value that is a message. -/
def JsonCall.call (c : JsonCall) : Option Call := (HandleMsg.ofValue c.msg).map fun msg => ⟨c.sender, msg⟩

section
variable (host : Host)

/-- `do_handle`: parses the message and handles it. -/
def doHandle (st : Storage) (c : JsonCall) : StdResult Value × Storage :=
  match HandleMsg.ofValue c.msg with
  | none => (.error (.ParseErr "cw_scrt_oracle_price::msg::HandleMsg"), st)
  | some msg =>
    let handled := handle host st c.sender msg
    (handled.1.map fun response => (response.data.map HandleAnswer.toValue).getD .null, handled.2)

/-- `do_query`. -/
def doQuery (st : Storage) (v : Value) : StdResult Value :=
  match QueryMsg.ofValue v with
  | none => .error (.ParseErr "cw_scrt_oracle_price::msg::QueryMsg")
  | some msg => (query st msg).map QueryAnswer.toValue

/-- The storage after a call. -/
def jsonStep (st : Storage) (c : JsonCall) : Option Storage := some (doHandle host st c).2

/-- The calls that are messages. -/
def accepted (calls : List JsonCall) : List Call := calls.filterMap JsonCall.call

/-- **A run of JSON calls is the run of those that are messages.** -/
theorem run_json (st : Storage) (calls : List JsonCall) :
    run (jsonStep host) st calls = run (callStep host) st (accepted calls) := by
  induction calls generalizing st with
  | nil => rfl
  | cons c calls ih =>
    cases parsed : HandleMsg.ofValue c.msg with
    | none =>
      have none : c.call = none := by rw [JsonCall.call, parsed, Option.map_none]
      have stays : jsonStep host st c = some st := by simp only [jsonStep, doHandle, parsed]
      rw [accepted, List.filterMap_cons_none none, run, stays]
      exact ih st
    | some msg =>
      have call : c.call = some ⟨c.sender, msg⟩ := by rw [JsonCall.call, parsed, Option.map_some]
      have steps : jsonStep host st c = callStep host st ⟨c.sender, msg⟩ := by
        simp only [jsonStep, callStep, doHandle, parsed]
      rw [accepted, List.filterMap_cons_some call, run, run, steps]
      exact congrArg (Option.bind _) (funext fun st => ih st)

end

end Relayd.Contract
