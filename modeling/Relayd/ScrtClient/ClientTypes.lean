import Relayd.ScrtClient.OracleContract

/-!
# The client's types and the contract's values

The files under `cw-scrt-oracle-price/` are made from the schemas, with `number`
where the contract has a `Uint128`, which it writes and reads as a text. So round
data never has the client's type and an `InitMsg` of the client gives no total
supply, and without total supplies a price pair cannot be loaded any more: the
client's types fit the contracts that have no price pair.
-/

namespace Relayd.ScrtClient
set_option autoImplicit false
open Sys Wire Wire.Value Relayd.Contract

/-! ## Answers -/

namespace Types
open Schema

/-- `TokenInfo` of `QueryAnswer.ts`. -/
def TokenInfo : Schema :=
  object ["decimals", "name", "symbol"] [
    ("decimals", number),
    ("name", string),
    ("symbol", string),
    ("total_supply", anyOf [number, null])]

/-- `CurrencyPair` of `QueryAnswer.ts`. -/
def CurrencyPair : Schema := object ["base", "quote"] [("base", TokenInfo), ("quote", TokenInfo)]

/-- `LatestRoundData` of `QueryAnswer.ts`. -/
def LatestRoundData : Schema := object ["current", "updated_at"] [("current", number), ("updated_at", number)]

/-- `OracleConfig` of `QueryAnswer.ts`. -/
def OracleConfig : Schema :=
  object ["data_source", "data_source_id", "oracle_description", "oracle_name", "oracle_status", "oracle_type",
      "oracle_value_decimals", "owner"] [
    ("data_source", string),
    ("data_source_id", string),
    ("oracle_description", string),
    ("oracle_name", string),
    ("oracle_price_pair", anyOf [CurrencyPair, null]),
    ("oracle_status", enum ["Testing", "Running", "Stopped"]),
    ("oracle_type", enum ["PriceFeed", "Other"]),
    ("oracle_value_decimals", number),
    ("owner", string)]

/-- The data and the status of an answer to a query. -/
def dataAndStatus (data : Schema) : Schema :=
  object ["data", "status"] [("data", data), ("status", enum ["success", "failure"])]

/-- `QueryAnswer` of `QueryAnswer.ts`. -/
def QueryAnswer : Schema :=
  anyOf [
    object ["latest_round_data"] [("latest_round_data", dataAndStatus LatestRoundData)],
    object ["oracle_status"] [("oracle_status", dataAndStatus (enum ["Testing", "Running", "Stopped"]))],
    object ["oracle_config"] [("oracle_config", dataAndStatus OracleConfig)]]

end Types

/-- No token of the pair has a total supply. -/
def NoSupply (pair : Option Contract.CurrencyPair) : Prop :=
  ∀ p, pair = some p → p.base.totalSupply = none ∧ p.quote.totalSupply = none

theorem TokenInfo.typed_iff (token : Contract.TokenInfo) :
    Types.TokenInfo token.toValue = true ↔ token.totalSupply = none := by
  cases supply : token.totalSupply with
  | none =>
    simp [Types.TokenInfo, Schema.object, TokenInfo.toValue, TokenInfo.members, supply, RString.toValue, UInt8.toValue,
      Schema.number, Schema.string]
  | some n =>
    simp [Types.TokenInfo, Schema.object, TokenInfo.toValue, TokenInfo.members, supply, Uint128.toValue, Schema.anyOf,
      Schema.number, Schema.null]

theorem CurrencyPair.typed_iff (pair : Contract.CurrencyPair) :
    Types.CurrencyPair pair.toValue = true ↔ pair.base.totalSupply = none ∧ pair.quote.totalSupply = none := by
  simp [Types.CurrencyPair, Schema.object, CurrencyPair.toValue, TokenInfo.typed_iff]

/-- A configuration has the client's type when there is no total supply to write. -/
theorem OracleConfig.typed_iff (config : Contract.OracleConfig) :
    Types.OracleConfig config.toValue = true ↔ NoSupply config.oraclePricePair := by
  have status : Schema.enum ["Testing", "Running", "Stopped"] config.oracleStatus.toValue = true :=
    OracleStatus.admitted _ _ (OracleStatus.reads _)
  have type : Schema.enum ["PriceFeed", "Other"] config.oracleType.toValue = true :=
    OracleType.admitted _ _ (OracleType.reads _)
  have pair : Schema.anyOf [Types.CurrencyPair, Schema.null] (orNull CurrencyPair.toValue config.oraclePricePair) = true ↔
      NoSupply config.oraclePricePair := by
    cases config.oraclePricePair with
    | none => simp [NoSupply, orNull, Schema.anyOf, Schema.null]
    | some pair =>
      have isObject : Schema.null pair.toValue = false := rfl
      simp [NoSupply, orNull, Schema.anyOf, isObject, CurrencyPair.typed_iff]
  simp [Types.OracleConfig, Schema.object, OracleConfig.toValue, OracleConfig.members, status, type, pair, RString.toValue,
    Int8.toValue, CanonicalAddr.toValue, Schema.string, Schema.number]

theorem LatestRoundData.untyped (data : Contract.LatestRoundData) : Types.LatestRoundData data.toValue = false := by
  simp [Types.LatestRoundData, Schema.object, Contract.LatestRoundData.toValue, Uint128.toValue, Schema.number]

/-- Round data is answered as texts. -/
theorem roundDataAnswer_untyped {data : Option Contract.LatestRoundData} {answer : Value}
    (answered : (roundDataAnswer data).map QueryAnswer.toValue = .ok answer) : Types.QueryAnswer answer = false := by
  cases data with
  | none => cases answered
  | some data =>
    cases answered
    simp [Types.QueryAnswer, Types.dataAndStatus, Schema.anyOf, Schema.object, QueryAnswer.toValue, LatestRoundData.untyped]

theorem config_typed_iff (config : Contract.OracleConfig) (status : ResponseStatus) :
    Types.QueryAnswer (QueryAnswer.OracleConfig config status).toValue = true ↔ NoSupply config.oraclePricePair := by
  have named : Schema.enum ["success", "failure"] status.toValue = true :=
    ResponseStatus.admitted _ _ (ResponseStatus.reads _)
  simp [Types.QueryAnswer, Types.dataAndStatus, Schema.anyOf, Schema.object, QueryAnswer.toValue, OracleConfig.typed_iff,
    named]

/-- A configuration that can be loaded lists the supplies of its price pair. -/
theorem listed_of_undone {config : Contract.OracleConfig}
    (undone : deserialize Stored.config (Stored.config.format.write config) = .ok config) :
    SuppliesListed config.oraclePricePair := by
  by_contra unlisted
  obtain ⟨rest, read⟩ := deserialize_ok undone
  exact Serde.config_not_read unlisted rest read

/-- With its supplies listed, only the missing pair has none. -/
theorem noSupply_iff {pair : Option Contract.CurrencyPair} (listed : SuppliesListed pair) : NoSupply pair ↔ pair = none := by
  constructor
  · intro noSupply
    cases pair with
    | none => rfl
    | some pair =>
      have base := (listed pair rfl).1
      rw [(noSupply pair rfl).1] at base
      cases base
  · rintro rfl pair given
    cases given

section
variable {host : Host} {sender : HumanAddr} {msg : Contract.InitMsg} {owner : CanonicalAddr} {st st' : Storage}
  {response : InitResponse} {calls : List JsonCall} (success : init host Storage.empty sender msg = (.ok response, st))
  (canonical : host.canonicalAddress sender = .ok owner)
  (undone : deserialize Stored.config (Stored.config.format.write (OracleConfig.ofMsg msg owner)) =
    .ok (OracleConfig.ofMsg msg owner))
  (reached : run (jsonStep host) st calls = some st')
include success canonical undone reached

/-- **What the client is answered has the type that it declares exactly when it is a configuration without a price pair**,
whatever the contract was called with. -/
theorem answers_typed_iff {queryContractSmart : String → Value → StdResult Value} {contractAddr : String}
    (network : queryContractSmart contractAddr = doQuery st') (args : List (String × Value)) (type : String) (answer : Value)
    (answered : queryContract queryContractSmart contractAddr type args = .ok answer) :
    Types.QueryAnswer answer = true ↔ type = MSG.QUERY.CONFIG ∧ msg.oraclePricePair = none := by
  rw [run_json] at reached
  have after := (ready_of_init success canonical undone).run reached
  by_cases data : type = MSG.QUERY.DATA
  · have other : type ≠ MSG.QUERY.CONFIG := by
      rw [data]
      decide
    simp only [other, false_and, iff_false, Bool.not_eq_true]
    rw [data, queryContract_data network args after] at answered
    exact roundDataAnswer_untyped answered
  · by_cases config : type = MSG.QUERY.CONFIG
    · rw [config, queryContract_config network args after] at answered
      cases answered
      simp only [config, true_and, config_typed_iff]
      exact noSupply_iff (listed_of_undone undone)
    · obtain ⟨e, refused⟩ := queryContract_unknown network args data config
      rw [refused] at answered
      cases answered

end

theorem answers_typed_threeCalls :
    ∃ st' answer, run (jsonStep sampleHost) helperStorage threeCalls = some st' ∧
      queryContract (fun _ => doQuery st') "oracle" MSG.QUERY.CONFIG [] = .ok answer ∧ Types.QueryAnswer answer = true := by
  obtain ⟨st', reached⟩ : ∃ st', run (jsonStep sampleHost) helperStorage threeCalls = some st' :=
    run_total (fun _ _ => ⟨_, rfl⟩) _ _
  have canonical : sampleHost.canonicalAddress "creator" = .ok creator := rfl
  have after := reached
  rw [run_json] at after
  have ready := (ready_of_init init_helper_msg canonical helperConfig_undone).run after
  have answered := @queryContract_config _ _ st' (fun _ => doQuery st') "oracle" rfl [] ready
  exact ⟨st', _, reached, answered,
    (answers_typed_iff init_helper_msg canonical helperConfig_undone reached rfl [] _ _ answered).2 ⟨rfl, rfl⟩⟩

/-! ## Initialisation -/

/-- A member of type `T | null` that may be left out. -/
inductive Optional (α : Type)
  | undefined
  | null
  | given (a : α)

namespace Optional
variable {α : Type}

/-- The values under its name: `JSON.stringify` writes nothing for `undefined`. -/
def values (toValue : α → Value) : Optional α → List Value
  | undefined => []
  | null => [.null]
  | given a => [toValue a]

def members (name : String) (toValue : α → Value) (a : Optional α) : List (String × Value) :=
  (a.values toValue).map fun v => (name, v)

@[simp] theorem named_members (name other : String) (toValue : α → Value) (a : Optional α) :
    named name (a.members other toValue) = if other = name then a.values toValue else [] := by
  cases a <;> simp [members, values]

/-- The value that is given. -/
def toOption : Optional α → Option α
  | given a => some a
  | undefined | null => none

end Optional

/-- `TokenInfo` of `InitMsg.ts`. -/
structure TokenInfo where
  decimals : Number
  name : RString
  symbol : RString
  total_supply : Optional Number

def TokenInfo.members (token : TokenInfo) : List (String × Value) :=
  [("decimals", token.decimals.toValue), ("name", token.name.toValue), ("symbol", token.symbol.toValue)] ++
    token.total_supply.members "total_supply" Number.toValue

/-- `CurrencyPair` of `InitMsg.ts`. -/
structure CurrencyPair where
  base : TokenInfo
  quote : TokenInfo

def CurrencyPair.toValue (pair : CurrencyPair) : Value :=
  .object [("base", .object pair.base.members), ("quote", .object pair.quote.members)]

/-- `InitMsg` of `InitMsg.ts`. -/
structure InitMsg where
  data_source : RString
  data_source_id : Optional RString
  oracle_description : Optional RString
  oracle_name : RString
  oracle_price_pair : Optional CurrencyPair
  oracle_status : Optional OracleStatus
  oracle_type : Optional OracleType
  oracle_value_decimals : Number

def InitMsg.members (msg : InitMsg) : List (String × Value) :=
  [("data_source", msg.data_source.toValue)] ++
    msg.data_source_id.members "data_source_id" RString.toValue ++
    msg.oracle_description.members "oracle_description" RString.toValue ++
    [("oracle_name", msg.oracle_name.toValue)] ++
    msg.oracle_price_pair.members "oracle_price_pair" CurrencyPair.toValue ++
    msg.oracle_status.members "oracle_status" OracleStatus.toValue ++
    msg.oracle_type.members "oracle_type" OracleType.toValue ++
    [("oracle_value_decimals", msg.oracle_value_decimals.toValue)]

def InitMsg.toValue (msg : InitMsg) : Value := .object msg.members

/-- A whole number from `low` on, below `high`. -/
def Number.within (low high : Int) : Number → Option Int
  | .int n => if low ≤ n ∧ n < high then some n else none
  | _ => none

/-- What the contract has of a token: its supply is not written, or as null. -/
def TokenInfo.asRead (token : TokenInfo) : Option Contract.TokenInfo :=
  match token.total_supply with
  | .given (.int _) | .given (.decimal _ _) => none
  | _ => (token.decimals.within 0 256).map fun n => ⟨token.name, token.symbol, UInt8.ofNat n.toNat, none⟩

def CurrencyPair.asRead (pair : CurrencyPair) : Option Contract.CurrencyPair :=
  pair.base.asRead.bind fun base => pair.quote.asRead.map fun quote => ⟨base, quote⟩

/-- What the contract has of the price pair. -/
def InitMsg.readPair (msg : InitMsg) : Option (Option Contract.CurrencyPair) :=
  match msg.oracle_price_pair with
  | .given pair => pair.asRead.map some
  | .undefined | .null => some none

/-- What the contract has of a message. -/
def InitMsg.asRead (msg : InitMsg) : Option Contract.InitMsg := do
  let decimals ← msg.oracle_value_decimals.within (-128) 128
  let pair ← msg.readPair
  return {
    oracleName := msg.oracle_name, oracleDescription := msg.oracle_description.toOption,
    oracleStatus := msg.oracle_status.toOption, oracleType := msg.oracle_type.toOption, dataSource := msg.data_source,
    dataSourceId := msg.data_source_id.toOption, oracleValueDecimals := Int8.ofInt decimals, oraclePricePair := pair }

/-- An optional member whose values the contract reads as they were written. -/
theorem optional_values {α : Type} {name : String} {read : Value → Option α} {toValue : α → Value}
    {members : List (String × Value)} {a : Optional α} (listed : named name members = a.values toValue)
    (refuses : read .null = none) (reads : ∀ a, read (toValue a) = some a) :
    Value.optional name read members = some a.toOption := by
  cases a with
  | undefined => exact optional_none listed
  | null =>
    rw [Value.optional, listed]
    rfl
  | given a => exact optional_some listed refuses (reads a)

theorem Number.readInt8 (n : Number) : Int8.ofValue n.toValue = (n.within (-128) 128).map Int8.ofInt := by
  cases n with
  | int n =>
    simp only [Number.toValue, Int8.ofValue, Number.within]
    split <;> rfl
  | decimal | notFinite => rfl

theorem Number.readUInt8 (n : Number) : UInt8.ofValue n.toValue = (n.within 0 256).map fun n => UInt8.ofNat n.toNat := by
  cases n with
  | int n =>
    simp only [Number.toValue, UInt8.ofValue, Number.within]
    split <;> rfl
  | decimal | notFinite => rfl

theorem TokenInfo.read (token : TokenInfo) : Contract.TokenInfo.ofValue (.object token.members) = token.asRead := by
  have name : required "name" RString.ofValue token.members = some token.name :=
    (required_single (by simp [members])).trans (RString.reads _)
  have symbol : required "symbol" RString.ofValue token.members = some token.symbol :=
    (required_single (by simp [members])).trans (RString.reads _)
  have decimals : required "decimals" UInt8.ofValue token.members =
      (token.decimals.within 0 256).map fun n => UInt8.ofNat n.toNat :=
    (required_single (by simp [members])).trans token.decimals.readUInt8
  have supply : named "total_supply" token.members = token.total_supply.values Number.toValue := by simp [members]
  simp only [Contract.TokenInfo.ofValue, Value.record, Contract.TokenInfo.ofMembers, name, symbol, decimals, asRead,
    Option.bind_eq_bind, Option.bind_some]
  cases written : token.total_supply with
  | undefined | null =>
    rw [written] at supply
    simp only [Value.optional, supply, Optional.values, Option.bind_some]
    cases token.decimals.within 0 256 <;> rfl
  | given n =>
    rw [written] at supply
    simp only [Value.optional, supply, Optional.values]
    cases n with
    | notFinite => cases token.decimals.within 0 256 <;> rfl
    | int | decimal => cases token.decimals.within 0 256 <;> rfl

theorem CurrencyPair.read (pair : CurrencyPair) : Contract.CurrencyPair.ofValue pair.toValue = pair.asRead := by
  simp only [Contract.CurrencyPair.ofValue, CurrencyPair.toValue, Value.record, Contract.CurrencyPair.ofMembers, asRead]
  rw [required_single (v := .object pair.base.members) (by simp), required_single (v := .object pair.quote.members) (by simp),
    pair.base.read, pair.quote.read]
  cases pair.base.asRead <;> cases pair.quote.asRead <;> rfl

theorem InitMsg.read (msg : InitMsg) : Contract.InitMsg.ofValue msg.toValue = msg.asRead := by
  have name : required "oracle_name" RString.ofValue msg.members = some msg.oracle_name :=
    (required_single (by simp [members])).trans (RString.reads _)
  have description : Value.optional "oracle_description" RString.ofValue msg.members = some msg.oracle_description.toOption :=
    optional_values (by simp [members]) rfl RString.reads
  have status : Value.optional "oracle_status" OracleStatus.ofValue msg.members = some msg.oracle_status.toOption :=
    optional_values (by simp [members]) rfl OracleStatus.reads
  have type : Value.optional "oracle_type" OracleType.ofValue msg.members = some msg.oracle_type.toOption :=
    optional_values (by simp [members]) rfl OracleType.reads
  have source : required "data_source" RString.ofValue msg.members = some msg.data_source :=
    (required_single (by simp [members])).trans (RString.reads _)
  have sourceId : Value.optional "data_source_id" RString.ofValue msg.members = some msg.data_source_id.toOption :=
    optional_values (by simp [members]) rfl RString.reads
  have decimals : required "oracle_value_decimals" Int8.ofValue msg.members =
      (msg.oracle_value_decimals.within (-128) 128).map Int8.ofInt :=
    (required_single (by simp [members])).trans msg.oracle_value_decimals.readInt8
  have pair : Value.optional "oracle_price_pair" CurrencyPair.ofValue msg.members = msg.readPair := by
    have listed : named "oracle_price_pair" msg.members = msg.oracle_price_pair.values CurrencyPair.toValue := by
      simp [members]
    rw [Value.optional, listed, readPair]
    cases msg.oracle_price_pair with
    | undefined | null => rfl
    | given pair =>
      show (CurrencyPair.ofValue pair.toValue).map some = pair.asRead.map some
      rw [pair.read]
  simp only [Contract.InitMsg.ofValue, toValue, Value.record, Contract.InitMsg.ofMembers, name, description, status, type,
    source, sourceId, decimals, pair, asRead, Option.bind_eq_bind, Option.bind_some]
  cases msg.oracle_value_decimals.within (-128) 128 <;> rfl

/-- No token of the client is read with a total supply. -/
theorem TokenInfo.noSupply {token : TokenInfo} {t : Contract.TokenInfo} (read : token.asRead = some t) :
    t.totalSupply = none := by
  rw [asRead] at read
  split at read
  · cases read
  · cases read
  · obtain ⟨n, -, rfl⟩ := Option.map_eq_some_iff.1 read
    rfl

theorem CurrencyPair.unlisted {pair : CurrencyPair} {p : Contract.CurrencyPair} (read : pair.asRead = some p) :
    ¬ SuppliesListed (some p) := by
  obtain ⟨base, readBase, rest⟩ := Option.bind_eq_some_iff.1 read
  obtain ⟨quote, -, rfl⟩ := Option.map_eq_some_iff.1 rest
  intro listed
  have supply := (listed _ rfl).1
  rw [show base.totalSupply = none from TokenInfo.noSupply readBase] at supply
  cases supply

/-- **A message of the client's `InitMsg` initialises the contract faithfully exactly when it gives no price pair** and its
decimals fit. -/
theorem typed_init_faithful_iff {host : Host} {st : Storage} {sender : HumanAddr} {owner : CanonicalAddr}
    (canonical : host.canonicalAddress sender = .ok owner) (msg : InitMsg) :
    (∃ m, Contract.InitMsg.ofValue msg.toValue = some m ∧ InitFaithful host st sender m owner) ↔
      (∃ n, msg.oracle_value_decimals = .int n ∧ -128 ≤ n ∧ n < 128) ∧ ∀ pair, msg.oracle_price_pair ≠ .given pair := by
  have faithful : ∀ m, InitFaithful host st sender m owner ↔ SuppliesListed m.oraclePricePair := fun m =>
    (initFaithful_iff_load canonical).trans (load_save_config_iff st STORE_KEY_CONFIG (OracleConfig.ofMsg m owner))
  simp only [msg.read, faithful]
  constructor
  · rintro ⟨m, read, listed⟩
    obtain ⟨decimals, within, rest⟩ := Option.bind_eq_some_iff.1 read
    obtain ⟨pair, readPair, made⟩ := Option.bind_eq_some_iff.1 rest
    cases made
    constructor
    · cases given : msg.oracle_value_decimals with
      | int n =>
        rw [given, Number.within] at within
        split at within
        · exact ⟨n, rfl, ‹_›⟩
        · cases within
      | decimal | notFinite =>
        rw [given] at within
        cases within
    · intro pair' given
      rw [InitMsg.readPair, given] at readPair
      obtain ⟨p, pairRead, rfl⟩ := Option.map_eq_some_iff.1 readPair
      exact CurrencyPair.unlisted pairRead listed
  · rintro ⟨⟨n, given, fits⟩, noPair⟩
    have within : msg.oracle_value_decimals.within (-128) 128 = some n := by
      rw [given]
      exact if_pos fits
    have none : msg.readPair = some none := by
      rw [InitMsg.readPair]
      cases pair : msg.oracle_price_pair with
      | undefined | null => rfl
      | given pair' => exact absurd pair (noPair pair')
    refine ⟨_, by rw [InitMsg.asRead, within, none]; rfl, ?_⟩
    exact suppliesListed_none

/-- The message of the contract's tests, as a client writes it. -/
def helperMsg (pair : Optional CurrencyPair) : InitMsg where
  data_source := (helperInitMsg none).dataSource
  data_source_id := (helperInitMsg none).dataSourceId.elim .undefined .given
  oracle_description := .undefined
  oracle_name := (helperInitMsg none).oracleName
  oracle_price_pair := pair
  oracle_status := .null
  oracle_type := .undefined
  oracle_value_decimals := .int 8

theorem typed_init_faithful_without_pair :
    ∃ m, Contract.InitMsg.ofValue (helperMsg .null).toValue = some m ∧
      InitFaithful sampleHost Storage.empty "creator" m creator := by
  have noPair : ∀ pair, (helperMsg .null).oracle_price_pair ≠ .given pair := by
    intro pair
    show Optional.null ≠ .given pair
    exact nofun
  exact (typed_init_faithful_iff rfl (helperMsg .null)).2 ⟨⟨8, rfl, by decide⟩, noPair⟩

end Relayd.ScrtClient
