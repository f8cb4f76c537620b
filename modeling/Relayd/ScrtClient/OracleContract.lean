import Relayd.Contract.Schemas

/-!
# The oracle contract as its client sees it

The contract is called and queried with JSON: a value that is no message is
refused before the contract sees it. `ScrtContractService` queries it by the
kind of its answer. The client's own type of `HandleMsg` writes round data as
numbers, and the contract reads texts.
-/

namespace Relayd.ScrtClient
set_option autoImplicit false
open Sys Wire Relayd.Contract

/-! ## Queries -/

def MSG.QUERY.CONFIG : String := "config"

def MSG.QUERY.DATA : String := "data"

/-- `createQueryMsg`. A kind that it does not know gives null, and it reads no arguments. -/
def createQueryMsg (type : String) (_args : List (String × Value)) : Value :=
  if type = MSG.QUERY.CONFIG then .object [("get_oracle_config", .object [])]
  else if type = MSG.QUERY.DATA then .object [("get_latest_round_data", .object [])]
  else .null

/-- `queryContract`, over the query of the network. -/
def queryContract (queryContractSmart : String → Value → StdResult Value) (contractAddr queryType : String)
    (args : List (String × Value)) : StdResult Value :=
  queryContractSmart contractAddr (createQueryMsg queryType args)

/-! ## The client's types -/

/-- A number, as `JSON.stringify` writes it: one that is not finite becomes null. -/
inductive Number
  | int (n : Int)
  | decimal (mantissa exponent : Int)
  | notFinite

def Number.toValue : Number → Value
  | .int n => .int n
  | .decimal mantissa exponent => .decimal mantissa exponent
  | .notFinite => .null

/-- `LatestRoundData` of `HandleMsg.ts`. -/
structure LatestRoundData where
  current : Number
  updated_at : Number

def LatestRoundData.toValue (data : LatestRoundData) : Value :=
  .object [("current", data.current.toValue), ("updated_at", data.updated_at.toValue)]

/-- `HandleMsg` of `HandleMsg.ts`. -/
inductive HandleMsg
  | set_latest_round_data (data : LatestRoundData)
  | set_oracle_status (status : OracleStatus)

def HandleMsg.toValue : HandleMsg → Value
  | .set_latest_round_data data => .object [("set_latest_round_data", .object [("data", data.toValue)])]
  | .set_oracle_status status => .object [("set_oracle_status", .object [("status", status.toValue)])]

/-- The contract reads no number where it has a `Uint128`. -/
theorem number_refused (n : Number) : Uint128.ofValue n.toValue = none := by
  cases n <;> rfl

/-- **What the contract reads of the client's messages**: the statuses, and no round data. -/
theorem handleMsg_read (msg : HandleMsg) :
    Contract.HandleMsg.ofValue msg.toValue =
      match msg with
      | .set_latest_round_data _ => none
      | .set_oracle_status status => some (.SetOracleStatus status) := by
  cases msg with
  | set_latest_round_data data =>
    have refused : Contract.LatestRoundData.ofValue data.toValue = none := by
      simp [Contract.LatestRoundData.ofValue, LatestRoundData.toValue, Value.record, Contract.LatestRoundData.ofMembers,
        Value.required, number_refused]
    simp [Contract.HandleMsg.ofValue, HandleMsg.toValue, Value.variant, Value.record, Value.required, refused]
  | set_oracle_status status => exact HandleMsg.reads (.SetOracleStatus status)

/-! ## What the client sees and does -/

section
variable {config : OracleConfig} {data : Option Contract.LatestRoundData} {st : Storage}
  {queryContractSmart : String → Value → StdResult Value} {contractAddr : String}
  (network : queryContractSmart contractAddr = doQuery st) (args : List (String × Value))
include network

theorem queryContract_data (ready : Ready config data st) :
    queryContract queryContractSmart contractAddr MSG.QUERY.DATA args =
      (roundDataAnswer data).map QueryAnswer.toValue := by
  have asked : QueryMsg.ofValue (createQueryMsg MSG.QUERY.DATA args) = some .GetLatestRoundData :=
    QueryMsg.reads .GetLatestRoundData
  simp only [queryContract, network, doQuery, asked, ready.getLatestRoundData]

theorem queryContract_config (ready : Ready config data st) :
    queryContract queryContractSmart contractAddr MSG.QUERY.CONFIG args =
      .ok (QueryAnswer.OracleConfig config .Success).toValue := by
  have asked : QueryMsg.ofValue (createQueryMsg MSG.QUERY.CONFIG args) = some .GetOracleConfig :=
    QueryMsg.reads .GetOracleConfig
  simp only [queryContract, network, doQuery, asked, ready.getOracleConfig]
  rfl

theorem queryContract_unknown {type : String} (notData : type ≠ MSG.QUERY.DATA) (notConfig : type ≠ MSG.QUERY.CONFIG) :
    ∃ e, queryContract queryContractSmart contractAddr type args = .error e := by
  have null : createQueryMsg type args = .null := by rw [createQueryMsg, if_neg notConfig, if_neg notData]
  have refused : QueryMsg.ofValue .null = none := rfl
  exact ⟨_, by simp only [queryContract, network, null, doQuery, refused]; rfl⟩

end

section
variable {host : Host} {sender : HumanAddr} {msg : InitMsg} {owner : CanonicalAddr} {st st' : Storage}
  {response : InitResponse} {calls : List JsonCall} (success : init host Storage.empty sender msg = (.ok response, st))
  (canonical : host.canonicalAddress sender = .ok owner)
  (undone : deserialize Stored.config (Stored.config.format.write (OracleConfig.ofMsg msg owner)) =
    .ok (OracleConfig.ofMsg msg owner))
  (reached : run (jsonStep host) st calls = some st')
include success canonical undone reached

/-- **A client that queries the contract sees the owner's last write and the configuration of the initialisation**,
whatever JSON the contract was called with. -/
theorem queries_answered {queryContractSmart : String → Value → StdResult Value} {contractAddr : String}
    (network : queryContractSmart contractAddr = doQuery st') (args : List (String × Value)) :
    queryContract queryContractSmart contractAddr MSG.QUERY.DATA args =
        (roundDataAnswer (lastRoundData host owner (accepted calls))).map QueryAnswer.toValue ∧
      queryContract queryContractSmart contractAddr MSG.QUERY.CONFIG args =
        .ok (QueryAnswer.OracleConfig (OracleConfig.ofMsg msg owner) .Success).toValue ∧
      ∀ type, type ≠ MSG.QUERY.DATA → type ≠ MSG.QUERY.CONFIG →
        ∃ e, queryContract queryContractSmart contractAddr type args = .error e := by
  rw [run_json] at reached
  have after := (ready_of_init success canonical undone).run reached
  rw [Option.or_none] at after
  exact ⟨queryContract_data network args after, queryContract_config network args after,
    fun _ notData notConfig => queryContract_unknown network args notData notConfig⟩

end

/-- **No message of the client's types changes anything in the contract**, whoever sends it. -/
theorem typed_calls_idle {host : Host} {sender : HumanAddr} {msg : InitMsg} {st st' : Storage} {response : InitResponse}
    {calls : List JsonCall} (success : init host Storage.empty sender msg = (.ok response, st))
    (reached : run (jsonStep host) st calls = some st') (typed : ∀ c ∈ calls, ∃ msg : HandleMsg, c.msg = msg.toValue) :
    st' = st := by
  have absent := singleton_of_init success
  induction calls with
  | nil =>
    cases reached
    rfl
  | cons c calls ih =>
    obtain ⟨here, later⟩ := List.forall_mem_cons.1 typed
    obtain ⟨msg, sent⟩ := here
    have stays : jsonStep host st c = some st := by
      have read := handleMsg_read msg
      cases msg with
      | set_latest_round_data data => simp only [jsonStep, doHandle, sent, read]
      | set_oracle_status status =>
        -- the contract never finds the status that it would change
        obtain ⟨e, failed⟩ := setOracleStatus_fails host absent c.sender status
        simp only [jsonStep, doHandle, sent, read, failed]
    obtain ⟨st₁, first, rest⟩ := run_cons.1 reached
    rw [stays] at first
    cases first
    exact ih rest later

/-- The owner sets round data with texts, tries to with numbers, and somebody else tries to. -/
def threeCalls : List JsonCall :=
  [⟨"creator", .object [("set_latest_round_data", .object [("data",
      .object [("updated_at", .text "1618091710"), ("current", .text "1000100000000")])])]⟩,
    ⟨"creator", (HandleMsg.set_latest_round_data ⟨.int 7, .int 8⟩).toValue⟩,
    ⟨"anyone", .object [("set_latest_round_data", .object [("data",
      .object [("current", .text "1"), ("updated_at", .text "2")])])]⟩]

theorem queries_answered_threeCalls :
    ∃ st', run (jsonStep sampleHost) helperStorage threeCalls = some st' ∧
      queryContract (fun _ => doQuery st') "oracle" MSG.QUERY.DATA [] =
        .ok (.object [("latest_round_data", .object [
          ("data", .object [("current", .text "1000100000000"), ("updated_at", .text "1618091710")]),
          ("status", .text "success")])]) := by
  obtain ⟨st', reached⟩ : ∃ st', run (jsonStep sampleHost) helperStorage threeCalls = some st' := ⟨_, rfl⟩
  refine ⟨st', reached, ?_⟩
  have written : lastRoundData sampleHost creator (accepted threeCalls) =
      some ⟨⟨1000100000000, by decide⟩, ⟨1618091710, by decide⟩⟩ := by decide +kernel
  have texts : ascii (Format.decimalText 1000100000000) = "1000100000000" ∧
      ascii (Format.decimalText 1618091710) = "1618091710" := by decide +kernel
  have canonical : sampleHost.canonicalAddress "creator" = .ok creator := rfl
  rw [(queries_answered init_helper_msg canonical helperConfig_undone reached rfl []).1, written]
  simp only [roundDataAnswer, Except.map, QueryAnswer.toValue, Contract.LatestRoundData.toValue, Uint128.toValue, texts]
  rfl

/-- The owner asks for a status and sets round data, in the client's types. -/
def typedCalls : List JsonCall :=
  [⟨"creator", (HandleMsg.set_oracle_status .Running).toValue⟩,
    ⟨"creator", (HandleMsg.set_latest_round_data ⟨.int 1000100000000, .int 1618091710⟩).toValue⟩]

theorem typed_calls_idle_owner :
    ∃ st', run (jsonStep sampleHost) helperStorage typedCalls = some st' ∧ st' = helperStorage := by
  obtain ⟨st', reached⟩ : ∃ st', run (jsonStep sampleHost) helperStorage typedCalls = some st' := ⟨_, rfl⟩
  refine ⟨st', reached, typed_calls_idle init_helper_msg reached ?_⟩
  simp only [typedCalls, List.forall_mem_cons, List.not_mem_nil, IsEmpty.forall_iff, implies_true, and_true]
  exact ⟨⟨_, rfl⟩, ⟨_, rfl⟩⟩

end Relayd.ScrtClient
