import Relayd.Contract.Store

/-!
# The contract's entry points

`contract.rs`: `init`, `handle` and `query`. Answers are given before `to_binary`
renders them and `pad_handle_result`, `pad_query_result` pad the bytes.
-/

namespace Relayd.Contract
set_option autoImplicit false

/-- A log line of `init` prints the stored configuration; the configuration stands for its text. -/
structure InitResponse where
  log : List (String × OracleConfig)
  deriving DecidableEq

/-- The result of an entry point that may also panic. -/
inductive Outcome (α : Type)
  | ok (response : α)
  | err (error : StdError)
  | panicked
  deriving DecidableEq

structure HandleResponse where
  data : Option HandleAnswer
  deriving DecidableEq

abbrev HandleResult := StdResult HandleResponse

/-- `init`. The reloaded configuration is unwrapped: a failed `load` panics. -/
def init (host : Host) (st : Storage) (sender : HumanAddr) (msg : InitMsg) : Outcome InitResponse × Storage :=
  match host.canonicalAddress sender with
  | .error e => (.err e, st)
  | .ok owner =>
    match OracleConfig.init msg owner with
    | .error _ => (.err (.GenericErr "Failed to init Oracle Contract"), st)
    | .ok state =>
      let st := save Stored.config st STORE_KEY_CONFIG state
      match load Stored.config st STORE_KEY_CONFIG with
      | .error _ => (.panicked, st)
      | .ok stored => (.ok ⟨[("config", stored)]⟩, st)

/-- `set_latest_round_data`. -/
def setLatestRoundData (host : Host) (st : Storage) (sender : HumanAddr) (data : LatestRoundData) :
    HandleResult × Storage :=
  match host.canonicalAddress sender with
  | .error e => (.error e, st)
  | .ok senderRaw =>
    match load Stored.config st STORE_KEY_CONFIG with
    | .error e => (.error e, st)
    | .ok config =>
      if senderRaw ≠ config.owner then (.error .Unauthorized, st)
      else (.ok ⟨some (.SetLatestRoundData .Success)⟩, save Stored.data st STORE_KEY_DATA data)

/-- `set_oracle_status`, through the singleton `config` of `store.rs`. -/
def setOracleStatus (host : Host) (st : Storage) (sender : HumanAddr) (status : OracleStatus) :
    HandleResult × Storage :=
  match host.canonicalAddress sender with
  | .error e => (.error e, st)
  | .ok senderRaw =>
    let updated := Singleton.update host st STORE_KEY_CONFIG fun state =>
      if senderRaw ≠ state.owner then .error .Unauthorized
      else .ok { state with oracleStatus := status }
    match updated.1 with
    | .error e => (.error e, updated.2)
    | .ok _ => (.ok ⟨some (.SetOracleStatus .Success)⟩, updated.2)

/-- `handle`. -/
def handle (host : Host) (st : Storage) (sender : HumanAddr) (msg : HandleMsg) : HandleResult × Storage :=
  match msg with
  | .SetLatestRoundData data => setLatestRoundData host st sender data
  | .SetOracleStatus status => setOracleStatus host st sender status

/-- `get_oracle_config`. -/
def getOracleConfig (st : Storage) : StdResult QueryAnswer :=
  match load Stored.config st STORE_KEY_CONFIG with
  | .error e => .error e
  | .ok config => .ok (.OracleConfig config .Success)

/-- `get_latest_round_data`. -/
def getLatestRoundData (st : Storage) : StdResult QueryAnswer :=
  match load Stored.data st STORE_KEY_DATA with
  | .error e => .error e
  | .ok data => .ok (.LatestRoundData data .Success)

/-- `query`. -/
def query (st : Storage) (msg : QueryMsg) : StdResult QueryAnswer :=
  match msg with
  | .GetOracleConfig => getOracleConfig st
  | .GetLatestRoundData => getLatestRoundData st

/-! ## Initialisation -/

/-- What `init` does once the sender has a canonical address. -/
theorem init_canonical {host : Host} {st : Storage} {sender : HumanAddr} {msg : InitMsg} {owner : CanonicalAddr}
    (canonical : host.canonicalAddress sender = .ok owner) :
    init host st sender msg =
      match deserialize Stored.config (Stored.config.format.write (OracleConfig.ofMsg msg owner)) with
      | .error _ => (.panicked, save Stored.config st STORE_KEY_CONFIG (OracleConfig.ofMsg msg owner))
      | .ok stored => (.ok ⟨[("config", stored)]⟩,
          save Stored.config st STORE_KEY_CONFIG (OracleConfig.ofMsg msg owner)) := by
  simp only [init, canonical, OracleConfig.init, load_save]

/-- A successful `init` has a canonical sender and leaves the configuration in the storage. -/
theorem init_ok {host : Host} {st st' : Storage} {sender : HumanAddr} {msg : InitMsg} {response : InitResponse}
    (success : init host st sender msg = (.ok response, st')) :
    ∃ owner, host.canonicalAddress sender = .ok owner ∧
      st' = save Stored.config st STORE_KEY_CONFIG (OracleConfig.ofMsg msg owner) := by
  cases canonical : host.canonicalAddress sender with
  | error e =>
    simp only [init, canonical] at success
    cases success
  | ok owner =>
    rw [init_canonical canonical] at success
    split at success
    · cases success
    · cases success
      exact ⟨owner, rfl, rfl⟩

/-- Loading a saved configuration gives it back exactly when its supplies are listed. -/
theorem load_save_config_iff (st : Storage) (key : Key) (config : OracleConfig) :
    load Stored.config (save Stored.config st key config) key = .ok config ↔
      SuppliesListed config.oraclePricePair := by
  rw [load_save]
  constructor
  · intro loaded
    by_contra unlisted
    obtain ⟨rest, read⟩ := deserialize_ok loaded
    exact Serde.config_not_read unlisted rest read
  · intro listed
    exact deserialize_write Stored.config (Serde.config_reads listed)

theorem getOracleConfig_ok {st : Storage} {config : OracleConfig}
    (answer : getOracleConfig st = .ok (.OracleConfig config .Success)) :
    load Stored.config st STORE_KEY_CONFIG = .ok config := by
  unfold getOracleConfig at answer
  split at answer
  · cases answer
  · cases answer
    assumption

/-- `init` succeeds on `msg` and the configuration query then returns the one built from it. -/
def InitFaithful (host : Host) (st : Storage) (sender : HumanAddr) (msg : InitMsg) (owner : CanonicalAddr) : Prop :=
  ∃ response st', init host st sender msg = (.ok response, st') ∧
    query st' .GetOracleConfig = .ok (.OracleConfig (OracleConfig.ofMsg msg owner) .Success)

theorem initFaithful_iff_load {host : Host} {st : Storage} {sender : HumanAddr} {msg : InitMsg}
    {owner : CanonicalAddr} (canonical : host.canonicalAddress sender = .ok owner) :
    InitFaithful host st sender msg owner ↔
      load Stored.config (save Stored.config st STORE_KEY_CONFIG (OracleConfig.ofMsg msg owner)) STORE_KEY_CONFIG =
        .ok (OracleConfig.ofMsg msg owner) := by
  constructor
  · rintro ⟨response, st', success, answer⟩
    obtain ⟨owner', canonical', rfl⟩ := init_ok success
    rw [canonical] at canonical'
    cases canonical'
    exact getOracleConfig_ok answer
  · intro loaded
    have stored := loaded
    rw [load_save] at stored
    refine ⟨_, _, by rw [init_canonical canonical, stored], ?_⟩
    simp only [query, getOracleConfig, loaded]

/-- **Initialisation is faithful exactly when the supplies of the price pair are
listed**; so is the round trip of any configuration through the storage. -/
theorem init_faithful_iff_supplies_listed (host : Host) (st : Storage) (sender : HumanAddr) (msg : InitMsg)
    (owner : CanonicalAddr) (canonical : host.canonicalAddress sender = .ok owner) :
    (InitFaithful host st sender msg owner ↔ SuppliesListed msg.oraclePricePair) ∧
    ∀ key config, load Stored.config (save Stored.config st key config) key = .ok config ↔
      SuppliesListed config.oraclePricePair :=
  ⟨(initFaithful_iff_load canonical).trans (load_save_config_iff st STORE_KEY_CONFIG (OracleConfig.ofMsg msg owner)),
    load_save_config_iff st⟩

/-! The configuration of the contract's own tests, on a chain with two accounts. -/

def creator : CanonicalAddr := ⟨[99, 114, 101, 97, 116, 111, 114], by decide⟩

def stranger : CanonicalAddr := ⟨[97, 110, 121, 111, 110, 101], by decide⟩

def sampleHost : Host where
  canonicalAddress sender := .ok (if sender = "creator" then creator else stranger)
  toJson _ := []
  fromJson _ := .error (.ParseErr Stored.config.typeName)

def helperInitMsg (pair : Option CurrencyPair) : InitMsg where
  oracleName := ⟨"BTC/USD", by decide⟩
  oracleDescription := none
  oracleStatus := none
  oracleType := none
  dataSource := ⟨"CL OffChainAggregator on Ethereum Mainnet", by decide⟩
  dataSourceId := some ⟨"0x5f4eC3Df9cbd43714FE2740f5E3616155c5b8419", by decide⟩
  oracleValueDecimals := 8
  oraclePricePair := pair

/-- A price pair whose tokens do not state a total supply. -/
def btcUsd : CurrencyPair where
  base := ⟨⟨"Bitcoin", by decide⟩, ⟨"BTC", by decide⟩, 8, none⟩
  quote := ⟨⟨"US Dollar", by decide⟩, ⟨"USD", by decide⟩, 2, none⟩

/-- The same pair with the total supplies of both tokens. -/
def btcUsdListed : CurrencyPair where
  base := { btcUsd.base with totalSupply := some ⟨2100000000000000, by decide⟩ }
  quote := { btcUsd.quote with totalSupply := some ⟨2320000000000000, by decide⟩ }

theorem init_faithful_of_listed :
    InitFaithful sampleHost Storage.empty "creator" (helperInitMsg none) creator ∧
      InitFaithful sampleHost Storage.empty "creator" (helperInitMsg (some btcUsdListed)) creator := by
  have faithful : ∀ pair, SuppliesListed pair →
      InitFaithful sampleHost Storage.empty "creator" (helperInitMsg pair) creator := fun pair listed =>
    (init_faithful_iff_supplies_listed sampleHost Storage.empty "creator" (helperInitMsg pair) creator rfl).1.2 listed
  refine ⟨faithful none suppliesListed_none, faithful (some btcUsdListed) ?_⟩
  rintro _ ⟨⟩
  exact ⟨rfl, rfl⟩

/-- With the first pair the reloaded configuration is unwrapped from an error. -/
theorem init_panics_on_unlisted_supplies :
    sampleHost.canonicalAddress "creator" = .ok creator ∧
    (init sampleHost Storage.empty "creator" (helperInitMsg (some btcUsd))).1 = .panicked ∧
    ¬ InitFaithful sampleHost Storage.empty "creator" (helperInitMsg (some btcUsd)) creator := by
  have panics : (init sampleHost Storage.empty "creator" (helperInitMsg (some btcUsd))).1 = .panicked := by
    decide +kernel
  refine ⟨rfl, panics, ?_⟩
  rintro ⟨response, st', success, -⟩
  rw [success] at panics
  cases panics

/-- The configuration and the storage that the initialisation of the tests leaves. -/
def helperConfig : OracleConfig := OracleConfig.ofMsg (helperInitMsg none) creator

def helperStorage : Storage := save Stored.config Storage.empty STORE_KEY_CONFIG helperConfig

theorem helperConfig_undone :
    deserialize Stored.config (Stored.config.format.write helperConfig) = .ok helperConfig := by
  have listed : SuppliesListed helperConfig.oraclePricePair := suppliesListed_none
  exact deserialize_write Stored.config (Serde.config_reads listed)

theorem init_helper_msg :
    init sampleHost Storage.empty "creator" (helperInitMsg none) = (.ok ⟨[("config", helperConfig)]⟩, helperStorage) := by
  have stored := helperConfig_undone
  rw [helperConfig] at stored
  have canonical : sampleHost.canonicalAddress "creator" = .ok creator := rfl
  rw [init_canonical canonical, stored]
  rfl

end Relayd.Contract
