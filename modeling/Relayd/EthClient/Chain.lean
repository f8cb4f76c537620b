import Relayd.Common.Config
import Relayd.Common.Kafka

/-!
# Validation of a source contract

`validateSourceContract` and the reads of a contract it makes. What the chain
answers is a `ContractReads`.
-/

namespace Relayd.EthClient
set_option autoImplicit false
open Relayd.Common

/-- What the chain answers, by contract address. -/
structure ContractReads where
  /-- `decimals()` -/
  decimals : String → Except String Nat
  /-- `aggregator()` -/
  aggregator : String → Except String String
  /-- `loadContractLatestRoundData` with its checks, for a number of decimals -/
  latestRoundData : String → Nat → Except String FeedSourceData
  /-- `checkForContractEvent` for an event and a number of decimals: it may return an error as well as throw one -/
  contractEvent : String → Option String → Nat → Except String (Except String FeedSourceData)

/-- Every read of every contract gives valid data. -/
structure ContractReads.Valid (reads : ContractReads) : Prop where
  decimals : ∀ address, ∃ decimals, 0 < decimals ∧ reads.decimals address = .ok decimals
  aggregator : ∀ address, ∃ aggregator, isEthereumAddress aggregator = true ∧ reads.aggregator address = .ok aggregator
  latestRoundData : ∀ address decimals, ∃ data, reads.latestRoundData address decimals = .ok data
  contractEvent : ∀ address event decimals, ∃ data, reads.contractEvent address event decimals = .ok (.ok data)

/-- The name of the event to look for. -/
def eventName (sourceConfig : FeedConfigSource) : Option String :=
  if sourceConfig.event = some .CUSTOM then sourceConfig.eventSignature else sourceConfig.event.map EFeedSourceEvent.text

/-- Load a source decimals' value. -/
def loadContractDecimals (reads : ContractReads) (address : String) : Except String Nat :=
  rethrow ("Failed to fetch decimals for " ++ address ++ "\n") do
    let decimals ← reads.decimals address
    if 0 < decimals then .ok decimals
    else .error (errorText ("Invalid decimals '" ++ toString decimals ++ "' in source '" ++ address ++ "'"))

/-- Load the aggregator of a proxy contract. -/
def loadClProxyContractAggregator (reads : ContractReads) (address : String) : Except String String :=
  rethrow ("Failed to fetch Aggregator source of '" ++ address ++ "'\n") do
    let aggregator ← reads.aggregator address
    if isEthereumAddress aggregator then .ok aggregator
    else .error (errorText ("Invalid ClAggregator address: " ++ aggregator))

/-- `Object.assign(data, upd)` for what was read of a contract: its value, time and round replace those there were, even
when they are undefined. -/
def FeedSourceData.assign (data upd : FeedSourceData) : FeedSourceData where
  path := upd.path.or data.path
  decimals := upd.decimals.or data.decimals
  value := upd.value
  time := upd.time
  round := upd.round

/-- What was found about one of the contracts behind a source. -/
structure PendingCheck where
  data : Option (Except String FeedSourceData)
  event : Option (Except String FeedSourceData)

/-- Takes over what was found, or fails with it. -/
def assignFound (aggrRes : FeedSourceData) (failure : String) :
    Option (Except String FeedSourceData) → Except String FeedSourceData
  | none => .ok aggrRes
  | some (.ok data) => .ok (FeedSourceData.assign aggrRes data)
  | some (.error error) => .error (errorText (failure ++ error))

/-- One round of the loop over the pending checks. -/
def assignCheck (sourceConfig : FeedConfigSource) (aggrRes : FeedSourceData) (result : PendingCheck) :
    Except String FeedSourceData :=
  let failure := "Failed to validate Source '" ++ sourceConfig.contract
  match sourceConfig.poll with
  | some .TIMEPERIOD => assignFound aggrRes (failure ++ "' for periodic data polling \n") result.data
  | some .EVENT => assignFound aggrRes (failure ++ "' for listening to events \n") result.event
  | none => .ok aggrRes

section
variable (config : RelaydConfig) (reads : ContractReads) (sourceConfig : FeedConfigSource)

/-- The check of the aggregator behind a proxy. -/
def checkProxyAggregator (contractType : EFeedSourceType) (decimals : Nat) : Except String PendingCheck :=
  let address := sourceConfig.contract
  rethrow ("Failed to validate sub-Aggregator of Source '" ++ address ++ "' (" ++ contractType.text ++ ") \n") do
    let aggregator ← loadClProxyContractAggregator reads address
    let latestRoundData :=
      if config.sourceContractValidationMode = .FULL then
        some (rethrow ("Failed to fetch latestRoundData for validating sub-ClAggregator '" ++ aggregator ++ "' of '"
          ++ address ++ "' (" ++ contractType.text ++ ") \n") (reads.latestRoundData aggregator decimals))
      else none
    let lastEventData ← reads.contractEvent aggregator (eventName sourceConfig) decimals
    .ok { data := latestRoundData, event := some lastEventData }

/-- The check of the source contract itself. -/
def checkSource (contractType : EFeedSourceType) (decimals : Nat) : Except String PendingCheck := do
  let address := sourceConfig.contract
  let latestRoundData :=
    if sourceConfig.poll = some .TIMEPERIOD ∨ config.sourceContractValidationMode = .FULL then
      some (rethrow ("Failed to validate latestRoundData for '" ++ address ++ "' (" ++ contractType.text ++ ")\n")
        ((reads.latestRoundData address decimals).map fun result => { result with decimals := some (decimals : Rat) }))
    else none
  if (sourceConfig.poll = some .EVENT ∨ config.sourceContractValidationMode = .FULL) ∧ contractType ≠ .CL_AGGR_PROX then
    let lastEventData ← reads.contractEvent address (eventName sourceConfig) decimals
    .ok { data := latestRoundData, event := some lastEventData }
  else
    .ok { data := latestRoundData, event := none }

/-- The checks to make: of the aggregator of a proxy, then of the source contract. -/
def pendingChecks (contractType : EFeedSourceType) : Except String (List PendingCheck) := do
  let decimals ← loadContractDecimals reads sourceConfig.contract
  match contractType with
  | .CL_AGGR_PROX =>
    let proxyAggregatorRes ← checkProxyAggregator config reads sourceConfig contractType decimals
    let sourceRes ← checkSource config reads sourceConfig contractType decimals
    .ok [proxyAggregatorRes, sourceRes]
  | .CL_AGGR =>
    let sourceRes ← checkSource config reads sourceConfig contractType decimals
    .ok [sourceRes]

end

/-- Check the validity of a source contract. `rejectData` is the package's last validation of the data found. -/
def validateSourceContract (config : RelaydConfig) (reads : ContractReads) (rejectData : FeedSourceData → Option String)
    (sourceConfig : FeedConfigSource) : Except String FeedSourceData := do
  if !isEthereumAddress sourceConfig.contract then
    .error (errorText ("Source address is invalid: " ++ sourceConfig.contract))
  else
    match sourceConfig.type with
    | none => .error (errorText "Unsupported type of contract: undefined")
    | some contractType =>
      let pendingCheck ← pendingChecks config reads sourceConfig contractType
      let aggrRes ← pendingCheck.foldlM (assignCheck sourceConfig) { value := some (-1), time := some "" }
      match rejectData aggrRes with
      | some error => .error error
      | none => .ok aggrRes

/-! ## A contract that answers -/

section
variable (config : RelaydConfig) {reads : ContractReads} (valid : reads.Valid)
include valid

theorem loadContractDecimals_valid (address : String) :
    ∃ decimals, loadContractDecimals reads address = .ok decimals := by
  obtain ⟨decimals, positive, read⟩ := valid.decimals address
  refine ⟨decimals, ?_⟩
  simp [loadContractDecimals, read, positive, bind, Except.bind]

theorem loadClProxyContractAggregator_valid (address : String) :
    ∃ aggregator, loadClProxyContractAggregator reads address = .ok aggregator := by
  obtain ⟨aggregator, isAddress, read⟩ := valid.aggregator address
  refine ⟨aggregator, ?_⟩
  simp [loadClProxyContractAggregator, read, isAddress, bind, Except.bind]

/-- Nothing failed in the check. -/
def PendingCheck.Passed (result : PendingCheck) : Prop :=
  (∀ error, result.data ≠ some (.error error)) ∧ ∀ error, result.event ≠ some (.error error)

theorem checkProxyAggregator_valid (sourceConfig : FeedConfigSource) (contractType : EFeedSourceType) (decimals : Nat) :
    ∃ result, checkProxyAggregator config reads sourceConfig contractType decimals = .ok result ∧ result.Passed := by
  obtain ⟨aggregator, readAggregator⟩ := loadClProxyContractAggregator_valid valid sourceConfig.contract
  obtain ⟨data, readData⟩ := valid.latestRoundData aggregator decimals
  obtain ⟨event, readEvent⟩ := valid.contractEvent aggregator (eventName sourceConfig) decimals
  simp only [checkProxyAggregator, readAggregator, readData, readEvent, bind, Except.bind, rethrow_ok]
  refine ⟨_, rfl, ?_, ?_⟩
  · intro error
    dsimp only
    split <;> simp
  · intro error
    simp

theorem checkSource_valid (sourceConfig : FeedConfigSource) (contractType : EFeedSourceType) (decimals : Nat) :
    ∃ result, checkSource config reads sourceConfig contractType decimals = .ok result ∧ result.Passed := by
  obtain ⟨data, readData⟩ := valid.latestRoundData sourceConfig.contract decimals
  obtain ⟨event, readEvent⟩ := valid.contractEvent sourceConfig.contract (eventName sourceConfig) decimals
  simp only [checkSource, readData, readEvent, bind, Except.bind, Except.map, rethrow_ok]
  have passedData : ∀ {p : Prop} [Decidable p] {read : FeedSourceData} {error : String},
      (if p then some (Except.ok read) else none) ≠ some (Except.error error) := by
    intro p _ read error
    split <;> simp
  split
  · exact ⟨_, rfl, fun error => passedData, fun error => by simp⟩
  · exact ⟨_, rfl, fun error => passedData, fun error => by simp⟩

theorem pendingChecks_valid (sourceConfig : FeedConfigSource) (contractType : EFeedSourceType) :
    ∃ checks, pendingChecks config reads sourceConfig contractType = .ok checks ∧ ∀ result ∈ checks, result.Passed := by
  obtain ⟨decimals, readDecimals⟩ := loadContractDecimals_valid valid sourceConfig.contract
  obtain ⟨sourceRes, checked, passed⟩ := checkSource_valid config valid sourceConfig contractType decimals
  cases contractType with
  | CL_AGGR =>
    refine ⟨[sourceRes], ?_, ?_⟩
    · simp only [pendingChecks, readDecimals, checked, bind, Except.bind]
    · simpa using passed
  | CL_AGGR_PROX =>
    obtain ⟨proxyRes, proxyChecked, proxyPassed⟩ :=
      checkProxyAggregator_valid config valid sourceConfig .CL_AGGR_PROX decimals
    refine ⟨[proxyRes, sourceRes], ?_, ?_⟩
    · simp only [pendingChecks, readDecimals, checked, proxyChecked, bind, Except.bind]
    · simpa using ⟨proxyPassed, passed⟩

omit valid in
theorem assignCheck_passed (sourceConfig : FeedConfigSource) {result : PendingCheck} (passed : result.Passed)
    (aggrRes : FeedSourceData) : ∃ aggrRes', assignCheck sourceConfig aggrRes result = .ok aggrRes' := by
  have noError : ∀ {found : Option (Except String FeedSourceData)} {failure : String},
      (∀ error, found ≠ some (.error error)) → ∃ aggrRes', assignFound aggrRes failure found = .ok aggrRes' := by
    intro found failure passed
    match found with
    | none => exact ⟨_, rfl⟩
    | some (.ok data) => exact ⟨_, rfl⟩
    | some (.error error) => exact absurd rfl (passed error)
  unfold assignCheck
  match sourceConfig.poll with
  | none => exact ⟨_, rfl⟩
  | some .TIMEPERIOD => exact noError passed.1
  | some .EVENT => exact noError passed.2

omit valid in
theorem assignChecks_passed (sourceConfig : FeedConfigSource) {checks : List PendingCheck}
    (passed : ∀ result ∈ checks, result.Passed) (aggrRes : FeedSourceData) :
    ∃ aggrRes', checks.foldlM (assignCheck sourceConfig) aggrRes = .ok aggrRes' := by
  induction checks generalizing aggrRes with
  | nil => exact ⟨aggrRes, rfl⟩
  | cons result checks ih =>
    obtain ⟨next, assigned⟩ := assignCheck_passed sourceConfig (passed result List.mem_cons_self) aggrRes
    obtain ⟨final, rest⟩ := ih (fun later member => passed later (List.mem_cons_of_mem result member)) next
    refine ⟨final, ?_⟩
    rw [List.foldlM_cons, assigned]
    exact rest

/-- **When the chain answers with valid data, the only sources that fail their validation are those
with no ETH address or no type.** -/
theorem validateSourceContract_valid {rejectData : FeedSourceData → Option String}
    (accepts : ∀ data, rejectData data = none) (sourceConfig : FeedConfigSource) :
    (∃ data, validateSourceContract config reads rejectData sourceConfig = .ok data) ↔
      isEthereumAddress sourceConfig.contract = true ∧ sourceConfig.type ≠ none := by
  unfold validateSourceContract
  by_cases isAddress : isEthereumAddress sourceConfig.contract = true
  · cases sourceConfig.type with
    | none => simp [isAddress]
    | some contractType =>
      obtain ⟨checks, checked, passed⟩ := pendingChecks_valid config valid sourceConfig contractType
      obtain ⟨aggrRes, aggregated⟩ := assignChecks_passed sourceConfig passed
        { value := some (-1), time := some "" }
      simp [isAddress, checked, aggregated, accepts, bind, Except.bind]
  · simp [isAddress]

end

end Relayd.EthClient
