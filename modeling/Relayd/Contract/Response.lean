import Relayd.Contract.Calls
import Relayd.Lib.Json

/-!
# The size of a response

`to_binary` renders an answer as compact JSON, a `Uint128` as a quoted decimal,
and the entry points pad the bytes to blocks of 256. The longest answer of the
round data takes less than one block, so it has the size of the shortest one.
-/

namespace Relayd.Contract
set_option autoImplicit false
open Sys Wire

def BLOCK_SIZE : Nat := 256

/-! ## `to_binary` -/

def ResponseStatus.text : ResponseStatus → String
  | .Success => "success"
  | .Failure => "failure"

def OracleStatus.text : OracleStatus → String
  | .Testing => "Testing"
  | .Running => "Running"
  | .Stopped => "Stopped"

def ResponseStatus.toJson (status : ResponseStatus) : List UInt8 := Json.quoted (utf8 status.text)

def Uint128.toJson (n : Uint128) : List UInt8 := Json.quoted (Format.decimalText n.1)

def LatestRoundData.toJson (data : LatestRoundData) : List UInt8 :=
  Json.object [("current", Uint128.toJson data.current), ("updated_at", Uint128.toJson data.updatedAt)]

def HandleAnswer.toBinary : HandleAnswer → List UInt8
  | .SetLatestRoundData status =>
    Json.object [("set_latest_round_data", Json.object [("status", status.toJson)])]
  | .SetOracleStatus status => Json.object [("set_oracle_status", Json.object [("status", status.toJson)])]

/-- The configuration is rendered by the serialiser of the host. -/
def QueryAnswer.toBinary (host : Host) : QueryAnswer → List UInt8
  | .LatestRoundData data status =>
    Json.object [("latest_round_data", Json.object [("data", data.toJson), ("status", status.toJson)])]
  | .OracleStatus data status =>
    Json.object [("oracle_status", Json.object [("data", Json.quoted (utf8 data.text)), ("status", status.toJson)])]
  | .OracleConfig data status =>
    Json.object [("oracle_config", Json.object [("data", host.toJson data), ("status", status.toJson)])]

/-- `pad_handle_result`, of a response without messages and logs. -/
def padHandleResult (response : HandleResult) (blockSize : Nat) : StdResult (Option (List UInt8)) :=
  response.map fun response => response.data.map fun answer => spacePad blockSize answer.toBinary

/-- `pad_query_result`. -/
def padQueryResult (host : Host) (response : StdResult QueryAnswer) (blockSize : Nat) : StdResult (List UInt8) :=
  response.map fun answer => spacePad blockSize (answer.toBinary host)

/-- The data that a handle call responds with. -/
def handleResponse (host : Host) (st : Storage) (sender : HumanAddr) (msg : HandleMsg) : StdResult (Option (List UInt8)) :=
  padHandleResult (handle host st sender msg).1 BLOCK_SIZE

/-- The bytes that a query responds with. -/
def queryResponse (host : Host) (st : Storage) (msg : QueryMsg) : StdResult (List UInt8) :=
  padQueryResult host (query st msg) BLOCK_SIZE

/-! ## Sizes -/

/-- An answer of the round data takes at most one block, whatever the numbers. -/
theorem latestRoundData_fits (host : Host) (data : LatestRoundData) :
    ((QueryAnswer.LatestRoundData data .Success).toBinary host).length ≤ BLOCK_SIZE := by
  have current := Serde.decimalText_uint128 data.current
  have updatedAt := Serde.decimalText_uint128 data.updatedAt
  have names : "latest_round_data".utf8ByteSize = 17 ∧ "data".utf8ByteSize = 4 ∧ "status".utf8ByteSize = 6 ∧
      "current".utf8ByteSize = 7 ∧ "updated_at".utf8ByteSize = 10 ∧ "success".utf8ByteSize = 7 := by
    decide
  simp only [QueryAnswer.toBinary, LatestRoundData.toJson, Uint128.toJson, ResponseStatus.toJson, ResponseStatus.text,
    Json.object_length, Json.field_length, Json.quoted_length, utf8_length, names, List.map_cons, List.map_nil,
    List.sum_cons, List.sum_nil, List.length_cons, List.length_nil, BLOCK_SIZE]
  omega

theorem toBinary_pos (host : Host) (answer : QueryAnswer) : 0 < (answer.toBinary host).length := by
  cases answer <;> exact Nat.succ_pos _

/-- A write of the round data, or nothing, is what the data cell holds. -/
def DataCell (st : Storage) : Prop := ∃ data : Option LatestRoundData, st STORE_KEY_DATA = data.map Serde.latestRoundData.write

/-- Round data has been stored. -/
def HasRoundData (st : Storage) : Prop := st STORE_KEY_DATA ≠ none

instance (st : Storage) : Decidable (HasRoundData st) := inferInstanceAs (Decidable (st STORE_KEY_DATA ≠ none))

theorem DataCell.of_same {st st' : Storage} (cell : DataCell st) (same : st' STORE_KEY_DATA = st STORE_KEY_DATA) :
    DataCell st' := by
  obtain ⟨data, holds⟩ := cell
  exact ⟨data, same.trans holds⟩

theorem DataCell.init {host : Host} {sender : HumanAddr} {msg : InitMsg} {response : InitResponse} {st : Storage}
    (success : init host Storage.empty sender msg = (.ok response, st)) : DataCell st := by
  obtain ⟨owner, -, rfl⟩ := init_ok success
  exact ⟨none, Storage.set_other (by decide)⟩

/-- The singleton's update leaves the data cell. -/
theorem Singleton.update_data (host : Host) (st : Storage) (action : OracleConfig → StdResult OracleConfig) :
    (Singleton.update host st STORE_KEY_CONFIG action).2 STORE_KEY_DATA = st STORE_KEY_DATA := by
  unfold Singleton.update
  split
  · rfl
  · split
    · rfl
    · split
      · rfl
      · rename_i state _
        show (st.set (singletonKey STORE_KEY_CONFIG) (host.toJson state)) STORE_KEY_DATA = st STORE_KEY_DATA
        exact Storage.set_other (singletonKey_ne STORE_KEY_CONFIG).2.symm

/-- **Every call leaves the data cell with a write of round data, or as it was.** -/
theorem DataCell.call {st : Storage} (cell : DataCell st) (host : Host) (sender : HumanAddr) (msg : HandleMsg) :
    DataCell (handle host st sender msg).2 := by
  cases msg with
  | SetLatestRoundData data =>
    simp only [handle, setLatestRoundData]
    split
    · exact cell
    · split
      · exact cell
      · split
        · exact cell
        · exact ⟨some data, Storage.set_same st STORE_KEY_DATA (Serde.latestRoundData.write data)⟩
  | SetOracleStatus status =>
    apply cell.of_same
    simp only [handle, setOracleStatus]
    split
    · rfl
    · split <;> exact Singleton.update_data _ _ _

/-- The storage of a contract that was initialised and then called. -/
def Reachable (host : Host) (st : Storage) : Prop :=
  ∃ sender msg response start calls, init host Storage.empty sender msg = (.ok response, start) ∧
    run (callStep host) start calls = some st

theorem Reachable.dataCell {host : Host} {st : Storage} (reachable : Reachable host st) : DataCell st := by
  obtain ⟨sender, msg, response, start, calls, success, reached⟩ := reachable
  apply invariant (fun st c st' cell _ stepped => ?_) (DataCell.init success) Along.trivial reached
  cases stepped
  exact cell.call host c.sender c.msg

/-- A query of stored round data responds with one block. -/
theorem DataCell.response_length {st : Storage} (cell : DataCell st) (written : HasRoundData st) (host : Host) :
    ∃ bytes, queryResponse host st .GetLatestRoundData = .ok bytes ∧ bytes.length = BLOCK_SIZE := by
  obtain ⟨data, holds⟩ := cell
  cases data with
  | none => exact absurd holds written
  | some data =>
    have loaded : load Stored.data st STORE_KEY_DATA = .ok data := by
      simp only [load, holds, Option.map_some]
      exact deserialize_write Stored.data (Serde.latestRoundData_reads data)
    refine ⟨spacePad BLOCK_SIZE ((QueryAnswer.LatestRoundData data .Success).toBinary host), ?_, ?_⟩
    · simp only [queryResponse, query, getLatestRoundData, loaded, padQueryResult, Except.map]
    · exact spacePad_length_one (toBinary_pos host _) (latestRoundData_fits host data)

/-- What a call that sets round data responds with depends on nothing but its success. -/
theorem setLatestRoundData_response {host : Host} {st : Storage} {sender : HumanAddr} {data : LatestRoundData}
    {response : Option (List UInt8)} (success : handleResponse host st sender (.SetLatestRoundData data) = .ok response) :
    response = some (spacePad BLOCK_SIZE (HandleAnswer.SetLatestRoundData .Success).toBinary) := by
  simp only [handleResponse, handle, setLatestRoundData] at success
  split at success
  · cases success
  · split at success
    · cases success
    · split at success
      · cases success
      · cases success
        rfl

/-- Two runs of the contract, observed by the sizes of their responses. -/
structure SameSize (host host' : Host) (st st' : Storage) : Prop where
  query : ∃ bytes bytes', queryResponse host st .GetLatestRoundData = .ok bytes ∧
    queryResponse host' st' .GetLatestRoundData = .ok bytes' ∧ bytes.length = bytes'.length
  handle : ∀ st₁ st₂ sender sender' data data' response response',
    handleResponse host st₁ sender (.SetLatestRoundData data) = .ok response →
    handleResponse host' st₂ sender' (.SetLatestRoundData data') = .ok response' →
    response.map List.length = response'.map List.length

/-- **The size of a response tells nothing about the oracle value.** -/
theorem response_size_constant (host host' : Host) (st st' : Storage) (reachable : Reachable host st)
    (reachable' : Reachable host' st') (written : HasRoundData st) (written' : HasRoundData st') :
    SameSize host host' st st' := by
  constructor
  · obtain ⟨bytes, answered, length⟩ := reachable.dataCell.response_length written host
    obtain ⟨bytes', answered', length'⟩ := reachable'.dataCell.response_length written' host'
    exact ⟨bytes, bytes', answered, answered', length.trans length'.symm⟩
  · intro st₁ st₂ sender sender' data data' response response' success success'
    rw [setLatestRoundData_response success, setLatestRoundData_response success']

/-- The storage after the owner's write, and after a write of zeros. -/
def writing (data : LatestRoundData) : Storage :=
  (handle sampleHost helperStorage "creator" (.SetLatestRoundData data)).2

theorem writing_reachable (data : LatestRoundData) : Reachable sampleHost (writing data) :=
  ⟨"creator", helperInitMsg none, _, _, [⟨"creator", .SetLatestRoundData data⟩], init_helper_msg, rfl⟩

theorem response_size_of_two_writes :
    SameSize sampleHost sampleHost (writing ⟨⟨1000100000000, by decide⟩, ⟨1618091710, by decide⟩⟩)
      (writing ⟨⟨0, by decide⟩, ⟨0, by decide⟩⟩) :=
  response_size_constant sampleHost sampleHost _ _ (writing_reachable _) (writing_reachable _) (by decide +kernel)
    (by decide +kernel)

end Relayd.Contract
