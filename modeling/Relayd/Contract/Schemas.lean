import Relayd.Contract.Messages

/-!
# The published schemas

The files under `schema/`, which are generated from the types. What the contract
accepts and what it answers is valid under them. They accept more than the
contract: a `Uint128` is any text there, and a variant may have a member beside
it.
-/

namespace Relayd.Contract
set_option autoImplicit false
open Sys Wire Wire.Value

namespace Schemas
open Schema

/-! ## Definitions -/

def Uint128 : Schema := string

def Binary : Schema := string

def CanonicalAddr : Schema := Binary

def OracleStatus : Schema := enum ["Testing", "Running", "Stopped"]

def OracleType : Schema := enum ["PriceFeed", "Other"]

def ResponseStatus : Schema := enum ["success", "failure"]

def TokenInfo : Schema :=
  object ["decimals", "name", "symbol"] [
    ("decimals", allOf [integer, minimum 0]),
    ("name", string),
    ("symbol", string),
    ("total_supply", anyOf [Uint128, null])]

def CurrencyPair : Schema := object ["base", "quote"] [("base", TokenInfo), ("quote", TokenInfo)]

def LatestRoundData : Schema := object ["current", "updated_at"] [("current", Uint128), ("updated_at", Uint128)]

def OracleConfig : Schema :=
  object ["data_source", "data_source_id", "oracle_description", "oracle_name", "oracle_status", "oracle_type",
      "oracle_value_decimals", "owner"] [
    ("data_source", string),
    ("data_source_id", string),
    ("oracle_description", string),
    ("oracle_name", string),
    ("oracle_price_pair", anyOf [CurrencyPair, null]),
    ("oracle_status", OracleStatus),
    ("oracle_type", OracleType),
    ("oracle_value_decimals", integer),
    ("owner", CanonicalAddr)]

/-! ## Files -/

/-- `init_msg.json`. -/
def initMsg : Schema :=
  object ["data_source", "oracle_name", "oracle_value_decimals"] [
    ("data_source", string),
    ("data_source_id", anyOf [string, null]),
    ("oracle_description", anyOf [string, null]),
    ("oracle_name", string),
    ("oracle_price_pair", anyOf [CurrencyPair, null]),
    ("oracle_status", anyOf [OracleStatus, null]),
    ("oracle_type", anyOf [OracleType, null]),
    ("oracle_value_decimals", integer)]

/-- `handle_msg.json`. -/
def handleMsg : Schema :=
  anyOf [
    object ["set_latest_round_data"] [("set_latest_round_data", object ["data"] [("data", LatestRoundData)])],
    object ["set_oracle_status"] [("set_oracle_status", object ["status"] [("status", OracleStatus)])]]

/-- `query_msg.json`. -/
def queryMsg : Schema :=
  anyOf [
    object ["get_latest_round_data"] [("get_latest_round_data", object [] [])],
    object ["get_oracle_config"] [("get_oracle_config", object [] [])]]

/-- `handle_answer.json`. -/
def handleAnswer : Schema :=
  anyOf [
    object ["set_latest_round_data"] [("set_latest_round_data", object ["status"] [("status", ResponseStatus)])],
    object ["set_oracle_status"] [("set_oracle_status", object ["status"] [("status", ResponseStatus)])]]

/-- The data and the status of an answer to a query. -/
def dataAndStatus (data : Schema) : Schema := object ["data", "status"] [("data", data), ("status", ResponseStatus)]

/-- `query_answer.json`. -/
def queryAnswer : Schema :=
  anyOf [
    object ["latest_round_data"] [("latest_round_data", dataAndStatus LatestRoundData)],
    object ["oracle_status"] [("oracle_status", dataAndStatus OracleStatus)],
    object ["oracle_config"] [("oracle_config", dataAndStatus OracleConfig)]]

end Schemas

open Schema

/-! ## What is accepted is valid -/

theorem RString.admitted : Schema.string.Admits ofValue := by
  intro v a accepted
  cases v with
  | text s => rfl
  | _ => cases accepted

theorem Int8.admitted : integer.Admits ofValue := by
  intro v a accepted
  cases v with
  | int n => rfl
  | _ => cases accepted

theorem UInt8.admitted : (allOf [integer, minimum 0]).Admits ofValue := by
  intro v a accepted
  cases v with
  | int n =>
    simp only [ofValue, Option.ite_none_right_eq_some] at accepted
    simp [allOf, integer, minimum, accepted.1.1]
  | _ => cases accepted

theorem Uint128.admitted : Schemas.Uint128.Admits ofValue := by
  intro v a accepted
  cases v with
  | text s => rfl
  | _ => cases accepted

theorem CanonicalAddr.admitted : Schemas.CanonicalAddr.Admits ofValue := by
  intro v a accepted
  cases v with
  | text s => rfl
  | _ => cases accepted

theorem enumOfValue_admitted {α : Type} {variants : List (String × α)} {texts : List String}
    (listed : variants.map Prod.fst = texts) : (enum texts).Admits (enumOfValue variants) := by
  intro v a accepted
  cases v with
  | text s =>
    obtain ⟨before, after, split, -⟩ := List.lookup_eq_some_iff.1 accepted
    have member : s ∈ texts := by
      rw [← listed, split]
      simp
    simpa [enum] using member
  | _ => cases accepted

theorem OracleStatus.admitted : Schemas.OracleStatus.Admits ofValue := enumOfValue_admitted rfl

theorem OracleType.admitted : Schemas.OracleType.Admits ofValue := enumOfValue_admitted rfl

theorem ResponseStatus.admitted : Schemas.ResponseStatus.Admits ofValue := enumOfValue_admitted rfl

theorem TokenInfo.admitted : Schemas.TokenInfo.Admits ofValue := by
  apply Admits.record
  intro members token accepted
  simp only [ofMembers, Option.bind_eq_bind, Option.bind_eq_some_iff] at accepted
  obtain ⟨_, name, _, symbol, _, decimals, _, totalSupply, -⟩ := accepted
  simp only [List.forall_mem_cons, List.not_mem_nil, IsEmpty.forall_iff, implies_true, and_true]
  exact ⟨⟨required_present decimals, required_present name, required_present symbol⟩,
    required_valid decimals UInt8.admitted, required_valid name RString.admitted,
    required_valid symbol RString.admitted, optional_valid totalSupply Uint128.admitted⟩

theorem CurrencyPair.admitted : Schemas.CurrencyPair.Admits ofValue := by
  apply Admits.record
  intro members pair accepted
  simp only [ofMembers, Option.bind_eq_bind, Option.bind_eq_some_iff] at accepted
  obtain ⟨_, base, _, quote, -⟩ := accepted
  simp only [List.forall_mem_cons, List.not_mem_nil, IsEmpty.forall_iff, implies_true, and_true]
  exact ⟨⟨required_present base, required_present quote⟩, required_valid base TokenInfo.admitted,
    required_valid quote TokenInfo.admitted⟩

theorem OracleConfig.admitted : Schemas.OracleConfig.Admits ofValue := by
  apply Admits.record
  intro members config accepted
  simp only [ofMembers, Option.bind_eq_bind, Option.bind_eq_some_iff] at accepted
  obtain ⟨_, name, _, description, _, status, _, type, _, decimals, _, pair, _, source, _, sourceId, _, owner, -⟩ := accepted
  simp only [List.forall_mem_cons, List.not_mem_nil, IsEmpty.forall_iff, implies_true, and_true]
  exact ⟨⟨required_present source, required_present sourceId, required_present description, required_present name,
      required_present status, required_present type, required_present decimals, required_present owner⟩,
    required_valid source RString.admitted, required_valid sourceId RString.admitted,
    required_valid description RString.admitted, required_valid name RString.admitted,
    optional_valid pair CurrencyPair.admitted, required_valid status OracleStatus.admitted,
    required_valid type OracleType.admitted, required_valid decimals Int8.admitted,
    required_valid owner CanonicalAddr.admitted⟩

theorem LatestRoundData.admitted : Schemas.LatestRoundData.Admits ofValue := by
  apply Admits.record
  intro members data accepted
  simp only [ofMembers, Option.bind_eq_bind, Option.bind_eq_some_iff] at accepted
  obtain ⟨_, current, _, updatedAt, -⟩ := accepted
  simp only [List.forall_mem_cons, List.not_mem_nil, IsEmpty.forall_iff, implies_true, and_true]
  exact ⟨⟨required_present current, required_present updatedAt⟩, required_valid current Uint128.admitted,
    required_valid updatedAt Uint128.admitted⟩

theorem InitMsg.admitted : Schemas.initMsg.Admits ofValue := by
  apply Admits.record
  intro members msg accepted
  simp only [ofMembers, Option.bind_eq_bind, Option.bind_eq_some_iff] at accepted
  obtain ⟨_, name, _, description, _, status, _, type, _, source, _, sourceId, _, decimals, _, pair, -⟩ := accepted
  simp only [List.forall_mem_cons, List.not_mem_nil, IsEmpty.forall_iff, implies_true, and_true]
  exact ⟨⟨required_present source, required_present name, required_present decimals⟩,
    required_valid source RString.admitted, optional_valid sourceId RString.admitted,
    optional_valid description RString.admitted, required_valid name RString.admitted,
    optional_valid pair CurrencyPair.admitted, optional_valid status OracleStatus.admitted,
    optional_valid type OracleType.admitted, required_valid decimals Int8.admitted⟩

/-- The schema of a variant with one field. -/
theorem fieldVariant_admitted {α : Type} {s : Schema} {read : Value → Option α} (admits : s.Admits read)
    (name field : String) :
    (Schema.object [name] [(name, Schema.object [field] [(field, s)])]).Admits
      (variant name (record (required field read))) := by
  apply Admits.variant
  apply Admits.record
  intro members a given
  simp only [List.forall_mem_cons, List.not_mem_nil, IsEmpty.forall_iff, implies_true, and_true]
  exact ⟨required_present given, required_valid given admits⟩

theorem HandleMsg.admitted : Schemas.handleMsg.Admits ofValue :=
  (((fieldVariant_admitted LatestRoundData.admitted _ _).map _).anyOf (by simp)).orElse
    (((fieldVariant_admitted OracleStatus.admitted _ _).map _).anyOf (by simp))

theorem QueryMsg.admitted : Schemas.queryMsg.Admits ofValue := by
  have variants : ∀ (name : String) (msg : QueryMsg), (Schema.object [name] [(name, Schema.object [] [])]).Admits
      (variant name (record fun _ => some msg)) := by
    intro name msg
    apply Admits.variant
    exact Admits.record fun _ _ _ => ⟨by simp, by simp⟩
  exact ((variants _ _).anyOf (by simp)).orElse ((variants _ _).anyOf (by simp))

theorem HandleAnswer.admitted : Schemas.handleAnswer.Admits ofValue :=
  (((fieldVariant_admitted ResponseStatus.admitted _ _).map _).anyOf (by simp)).orElse
    (((fieldVariant_admitted ResponseStatus.admitted _ _).map _).anyOf (by simp))

theorem dataAndStatus_admitted {α : Type} {s : Schema} {read : Value → Option α} (admits : s.Admits read) (name : String) :
    (Schema.object [name] [(name, Schemas.dataAndStatus s)]).Admits (variant name (record (dataAndStatus read))) := by
  apply Admits.variant
  apply Admits.record
  intro members p accepted
  simp only [dataAndStatus, Option.bind_eq_bind, Option.bind_eq_some_iff] at accepted
  obtain ⟨_, data, _, status, -⟩ := accepted
  simp only [List.forall_mem_cons, List.not_mem_nil, IsEmpty.forall_iff, implies_true, and_true]
  exact ⟨⟨required_present data, required_present status⟩, required_valid data admits,
    required_valid status ResponseStatus.admitted⟩

theorem QueryAnswer.admitted : Schemas.queryAnswer.Admits ofValue :=
  ((((dataAndStatus_admitted LatestRoundData.admitted _).map _).anyOf (by simp)).orElse
    (((dataAndStatus_admitted OracleStatus.admitted _).map _).anyOf (by simp))).orElse
      (((dataAndStatus_admitted OracleConfig.admitted _).map _).anyOf (by simp))

/-- **What the contract accepts and what it answers is valid under its published schemas**, whatever the JSON. -/
theorem schemas_cover (v : Value) :
    ((InitMsg.ofValue v).isSome → Schemas.initMsg v = true) ∧
      ((HandleMsg.ofValue v).isSome → Schemas.handleMsg v = true) ∧
      ((QueryMsg.ofValue v).isSome → Schemas.queryMsg v = true) ∧
      (∀ answer : HandleAnswer, Schemas.handleAnswer answer.toValue = true) ∧
      ∀ answer : QueryAnswer, Schemas.queryAnswer answer.toValue = true := by
  refine ⟨?_, ?_, ?_, ?_, ?_⟩
  · intro accepted
    obtain ⟨msg, accepted⟩ := Option.isSome_iff_exists.1 accepted
    exact InitMsg.admitted v msg accepted
  · intro accepted
    obtain ⟨msg, accepted⟩ := Option.isSome_iff_exists.1 accepted
    exact HandleMsg.admitted v msg accepted
  · intro accepted
    obtain ⟨msg, accepted⟩ := Option.isSome_iff_exists.1 accepted
    exact QueryMsg.admitted v msg accepted
  · exact fun answer => HandleAnswer.admitted _ answer answer.reads
  · exact fun answer => QueryAnswer.admitted _ answer answer.reads

end Relayd.Contract
