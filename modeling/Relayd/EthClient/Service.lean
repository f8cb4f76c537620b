import Relayd.Lib.OrderedMap
import Relayd.Lib.Traced
import Relayd.EthClient.Chain
import Relayd.EthClient.Issues

/-!
# The service of an ETH client

`EthConnectService`: the casts, the pollers an instance runs and the handling of
a source by its status. A method gives its outcome as an `Except`, beside the
instance's state and the events it emitted. What the packages and the chain
answer during a call is its `Env`.
-/

namespace Relayd.EthClient
set_option autoImplicit false
open Relayd.Common Sys

/-- An ethers contract: the identity of the object, and the address. -/
structure Contract where
  object : Nat
  address : String
  deriving DecidableEq

/-- An interval set by `startPollingData`. -/
structure PollingInterval where
  timeout : Nat
  feedId : String
  contract : Contract
  notif : Option EFeedSourceNotifOn
  period : Rat
  decimals : Nat

/-- A listener put on a contract by `listenToContractEvent`. -/
structure EventListener where
  contract : Contract
  eventSignature : String
  feedId : String
  sourceId : String
  decimals : Nat

/-- An entry of `sourcePolling`. -/
structure SourcePolled where
  data : Option FeedSourceData
  timeout : Nat

/-- An entry of `sourceListening`. -/
structure SourceListened where
  data : Option FeedSourceData
  contract : Contract

/-- The pollers of an instance. -/
structure EthConnectService where
  sourcePolling : OrderedMap String SourcePolled := []
  sourceListening : OrderedMap String SourceListened := []
  /-- The intervals that run -/
  intervals : List PollingInterval := []
  /-- The listeners that are on -/
  listeners : List EventListener := []
  /-- Identity of the next timeout or contract object -/
  fresh : Nat := 0

/-- What never changes of an instance. -/
structure Client where
  serviceId : String
  /-- Name of the network it is connected to -/
  network : String

/-- What a call leaves to see. -/
inductive Event
  /-- A record appended to a topic of source configurations -/
  | sourceCast (topic : ETopic) (feedId : String) (source : FeedConfigSource)
  /-- A record appended to `SOURCE_POLLING` -/
  | pollingCast (sourceId : String) (info : SourcePollingInfo)
  /-- `validateSourceContract` resolved -/
  | validated (feedId contract : String)
  /-- `startPollingData` or `listenToContractEvent` was reached -/
  | reading (feedId contract : String)
  deriving DecidableEq

/-- Outcome of the package's `validate`: no error, a list of errors, or an error thrown. -/
inductive Validation
  | accepted
  | errors (count : Nat) (json : String)
  | thrown (error : String)

/-- What `castErrorSourceConfig` reports. -/
structure ErrorInfo where
  type : EErrorType
  input : FeedConfigSource
  message : String
  error : String

/-- What a call meets outside the service. -/
structure Env where
  reads : ContractReads
  validateSource : FeedConfigSource → Validation
  validateData : FeedSourceData → Validation
  rejectData : FeedSourceData → Option String
  validatePolling : SourcePollingInfo → Validation
  writeFails : Event → Bool
  stringify : ErrorInfo → String
  numberText : Rat → String

/-- A method of the service. -/
abbrev Method := Traced EthConnectService Event

section
variable (config : RelaydConfig) (client : Client) (env : Env)

/-! ## Casts -/

/-- Cast a source update: the source with its new note, and whether the record was written. -/
def castSourceConfig (topic : ETopic) (feedConfigId : String) (source : FeedConfigSource) (reason : ESourceCastReason)
    (info : Option String) : Method (FeedConfigSource × Except String Unit) :=
  let source := issueSourceProcessingNote config client.serviceId source reason info
  let invalid := fun error => errorText ("Failed to validate Source Config update for '" ++ source.contract ++ "' by '"
    ++ client.serviceId ++ "' \n" ++ error)
  match env.validateSource source with
  | .errors _ json => return (source, .error (invalid (errorText ("Invalid Source Config update \n" ++ json))))
  | .thrown error => return (source, .error (invalid error))
  | .accepted =>
    if env.writeFails (.sourceCast topic feedConfigId source) then
      return (source, .error (errorText ("Failed castSourceConfig for source '" ++ source.contract ++ "' of feed '"
        ++ feedConfigId ++ "' (" ++ reason.text ++ ": " ++ info.getD "undefined" ++ ") \n"
        ++ writeToStreamError topic feedConfigId)))
    else do
      Traced.emit (.sourceCast topic feedConfigId source)
      return (source, .ok ())

/-- Cast an error report: the source, with the report as its newest note, on `ERROR_SOURCE`. -/
def castErrorSourceConfig (errorType : EErrorType) (sourceConfig : FeedConfigSource) (feedId : String)
    (prevError : String) : Method (FeedConfigSource × Except String Unit) := do
  let errorInfoJson := env.stringify {
    type := errorType, input := sourceConfig, error := prevError
    message := "Failure with Source '" ++ sourceConfig.contract ++ "' config handling for '" ++ feedId ++ "'" }
  let (sourceConfig, cast) ← castSourceConfig config client env .ERROR_SOURCE feedId sourceConfig .HANDLING_FAILED
    (some errorInfoJson)
  return (sourceConfig, rethrow ("Failed to cast source config Error '" ++ errorType.text ++ "'/'"
    ++ ESourceCastReason.HANDLING_FAILED.text ++ "' for source '" ++ sourceConfig.contract ++ "' of feed '" ++ feedId
    ++ "'\nInitial Error: " ++ errorInfoJson ++ "\n\n") cast)

/-- Announce a change in the polling of a source. -/
def castSourcePolling (sourceId : String) (changeType : ESourcePollingChange) (info : Option String) :
    Method (Except String Unit) :=
  let sourcePollingUpdate : SourcePollingInfo :=
    { source := sourceId, issuer := client.serviceId, change := changeType, info := info }
  let invalid := fun error => errorText ("Failed to validate Source Polling Update for '" ++ sourceId ++ "' from '"
    ++ client.serviceId ++ "' \n" ++ error)
  match env.validatePolling sourcePollingUpdate with
  | .errors _ json => return .error (invalid (errorText ("Invalid Source Polling update \n" ++ json)))
  | .thrown error => return .error (invalid error)
  | .accepted =>
    if env.writeFails (.pollingCast sourceId sourcePollingUpdate) then
      return .error (errorText ("Failed to cast Source Polling update by '" ++ client.serviceId ++ "' for source '"
        ++ sourceId ++ "' \n" ++ writeToStreamError .SOURCE_POLLING sourceId))
    else do
      Traced.emit (.pollingCast sourceId sourcePollingUpdate)
      return .ok ()

/-! ## Pollers -/

/-- A new contract object at an address. -/
def initContractClAggregator (address : String) : Method Contract := do
  let service ← Traced.read
  Traced.update fun service => { service with fresh := service.fresh + 1 }
  return { object := service.fresh, address := address }

/-- Sets the interval that reads the contract's data. -/
def startPollingData (sourceConfig : FeedConfigSource) (period : Rat) (feedId : String) (decimals : Nat)
    (contract : Contract) : Method Nat := do
  Traced.emit (.reading feedId sourceConfig.contract)
  let service ← Traced.read
  Traced.update fun service => { service with
    intervals := { timeout := service.fresh, feedId := feedId, contract := contract, notif := sourceConfig.notif,
                   period := period, decimals := decimals } :: service.intervals
    fresh := service.fresh + 1 }
  return service.fresh

def trackSourcePolling (sourceId : String) (timeout : Nat) : Method (Except String Unit) := do
  let service ← Traced.read
  if (service.sourcePolling.get sourceId).isSome ∧ ¬ config.sourcePollingAllowMultipleBySameIssuer then
    return .error (errorText ("Attempt to register a second polling of same Source on same node instance for '"
      ++ sourceId ++ "'"))
  else
    Traced.update fun service => { service with
      sourcePolling := service.sourcePolling.set sourceId { timeout := timeout, data := none } }
    castSourcePolling client env sourceId .ADD_PERIODIC (some "Periodic Source polling started")

/-- Stop the polling process for a source, and report it. -/
def stopSourcePolling (sourceId : String) (reasonCode : ESourcePollingChange) (reasonMsg : Option String) :
    Method (Except String Unit) := do
  let service ← Traced.read
  match service.sourcePolling.get sourceId with
  | none =>
    return .error (errorText ("Requesting to stop a non-registered source polling '" ++ sourceId ++ "'. Actual: "
      ++ ",".intercalate service.sourcePolling.keys))
  | some polled =>
    Traced.update fun service => { service with
      intervals := service.intervals.filter fun interval => interval.timeout != polled.timeout
      sourcePolling := service.sourcePolling.delete sourceId }
    castSourcePolling client env sourceId reasonCode reasonMsg

/-- Puts a listener on the contract. Without a name for the event, the package's `id` throws. -/
def listenToContractEvent (feedId sourceId : String) (contract : Contract) (eventSignature : Option String)
    (nbDecimals : Nat) : Method (Except String Contract) := do
  Traced.emit (.reading feedId sourceId)
  match eventSignature with
  | none => return .error "TypeError: Cannot read property 'length' of undefined"
  | some eventSignature =>
    Traced.update fun service => { service with
      listeners := { contract := contract, eventSignature := eventSignature, feedId := feedId, sourceId := sourceId,
                     decimals := nbDecimals } :: service.listeners }
    return .ok contract

/-- Track and report the listening of a source's events. It looks for a previous poller among the
periodic ones. -/
def trackSourceEventListener (sourceId : String) (contract : Contract) : Method (Except String Unit) := do
  let service ← Traced.read
  if (service.sourcePolling.get sourceId).isSome ∧ ¬ config.sourcePollingAllowMultipleBySameIssuer then
    return .error (errorText ("Forbidden attempt to register a second event listener on same Source on same node "
      ++ "instance for '" ++ sourceId ++ "'"))
  else
    Traced.update fun service => { service with
      sourceListening := service.sourceListening.set sourceId { contract := contract, data := none } }
    castSourcePolling client env sourceId .ADD_LISTEN_EVENT (some "Source Event listening started")

/-- Stop listening to the events of a source, and report it. -/
def stopSourceEventListener (sourceId : String) (reasonCode : ESourcePollingChange) (reasonMsg : Option String) :
    Method (Except String Unit) := do
  Traced.update fun service =>
    match service.sourceListening.get sourceId with
    | none => service
    | some listened => { service with
        listeners := service.listeners.filter fun listener => listener.contract.object != listened.contract.object
        sourceListening := service.sourceListening.delete sourceId }
  castSourcePolling client env sourceId reasonCode reasonMsg

/-- Outcome of a chain of promises: the next one runs when the last one resolved. -/
def andThen {α β : Type} (result : Except String α) (next : α → Method (Except String β)) : Method (Except String β) :=
  match result with
  | .error error => return .error error
  | .ok value => next value

/-- The periodic branch of `initiateSourceDataPolling`. -/
def initiatePeriodicPolling (sourceConfig : FeedConfigSource) (feedId : String) : Method (Except String Unit) := do
  match sourceConfig.period.filter fun period => 0 < period with
  | none =>
    return .error (errorText ("Invalid time period specified for periodic data polling: "
      ++ (sourceConfig.period.map env.numberText).getD "undefined"))
  | some timePeriod =>
    let contract ← initContractClAggregator sourceConfig.contract
    let result ← andThen (loadContractDecimals env.reads contract.address) fun contractDecimals => do
      let pollingTimeout ← startPollingData sourceConfig timePeriod feedId contractDecimals contract
      trackSourcePolling config client env sourceConfig.contract pollingTimeout
    return rethrow ("Failed to initiate Source Data Polling of type '" ++ EFeedSourcePoll.TIMEPERIOD.text ++ "' on '"
      ++ sourceConfig.contract ++ "' \n") result

/-- The contract whose events are listened to: the aggregator, when the source is its proxy. -/
def listenedContract (sourceConfig : FeedConfigSource) : Method (Except String Contract) := do
  let tmpContract ← initContractClAggregator sourceConfig.contract
  if sourceConfig.type = some .CL_AGGR_PROX then
    andThen (rethrow ("Failed to load Cl Proxy aggregator contract from '" ++ sourceConfig.contract ++ "' \n")
      (loadClProxyContractAggregator env.reads tmpContract.address)) fun aggrAddr => do
        let contract ← initContractClAggregator aggrAddr
        return .ok contract
  else
    return .ok tmpContract

/-- The event branch of `initiateSourceDataPolling`. The removal cast after a failure is not awaited. -/
def initiateEventListening (sourceConfig : FeedConfigSource) (feedId : String) : Method (Except String Unit) := do
  let loaded ← listenedContract env sourceConfig
  andThen loaded fun sourceContract => do
    let result ← andThen (loadContractDecimals env.reads sourceContract.address) fun contractDecimals => do
      let listened ← listenToContractEvent feedId sourceConfig.contract sourceContract (eventName sourceConfig)
        contractDecimals
      andThen listened fun contractListened =>
        trackSourceEventListener config client env sourceConfig.contract contractListened
    match result with
    | .ok _ => return .ok ()
    | .error error =>
      let _ ← stopSourceEventListener client env sourceConfig.contract .REMOVE_LISTEN_EVENT
        (some ("Listener init by '" ++ client.serviceId ++ "' failed"))
      return .error (errorText ("Failed to initiate event listener on Source '" ++ sourceConfig.contract ++ "' \n"
        ++ error))

/-- Initialization of a source data polling, periodic or by listening to update events. -/
def initiateSourceDataPolling (sourceConfig : FeedConfigSource) (feedId : String) : Method (Except String Unit) :=
  match sourceConfig.poll with
  | some .TIMEPERIOD => initiatePeriodicPolling config client env sourceConfig feedId
  | some .EVENT => initiateEventListening config client env sourceConfig feedId
  | none =>
    return .error (errorText ("Source polling 'undefined' NOT SUPPORTED\nReview config of Source '"
      ++ sourceConfig.contract ++ "' for feed '" ++ feedId ++ "'"))

/-! ## Handling of a source -/

/-- The pollers registered on a source, as `extractContractPollingStatus` counts them. -/
structure PollingStatus where
  handling : List EFeedSourcePoll
  listener : Nat
  querier : Nat

def extractContractPollingStatus (source : FeedConfigSource) : PollingStatus where
  handling := ((source.handle.getD []).filter fun handle => handle.handler == client.serviceId).map FeedSourceHandle.type
  listener := (source.handle.getD []).countP fun handle => handle.type == .EVENT
  querier := (source.handle.getD []).countP fun handle => handle.type == .TIMEPERIOD

/-- `JSON.stringify` of polling types. -/
def pollsJson (polls : List EFeedSourcePoll) : String :=
  "[" ++ ",".intercalate (polls.map fun poll => "\"" ++ poll.text ++ "\"") ++ "]"

/-- The polling type of the source when it still lacks pollers of that type; an error when the
instance is one of its pollers already. -/
def checkIfDataPollingRequired (source : FeedConfigSource) : Except String (Option EFeedSourcePoll) :=
  let pollingStatus := extractContractPollingStatus client source
  if pollingStatus.handling.length > 0 ∧ (¬ config.sourcePollingAllowMultipleBySameIssuer ∨
      (source.poll.any fun poll => pollingStatus.handling.contains poll) ∧
        ¬ config.sourcePollingAllowMultipleTypeBySameIssuer) then
    .error (errorText ("Instance '" ++ client.serviceId ++ "' already polls the data of Source '" ++ source.contract
      ++ "'\n" ++ pollsJson pollingStatus.handling))
  else
    match source.poll with
    | some .EVENT => .ok (if pollingStatus.listener < config.sourceNbEventListener then some .EVENT else none)
    | some .TIMEPERIOD => .ok (if pollingStatus.querier < config.sourceNbPeriodicQuerier then some .TIMEPERIOD else none)
    | none => .error (errorText ("Unknown source polling type: undefined'. Review config of Source '" ++ source.contract
        ++ "'"))

/-- The outcome of a validated source: the source with the status that the found data give it. -/
def sourceValidated (sourceConfig : FeedConfigSource) (result : FeedSourceData) : Except String FeedConfigSource :=
  match env.validateData result with
  | .errors _ json =>
    .ok (issueSourceProcessingNote config client.serviceId { sourceConfig with status := some .PARTIAL }
      .HANDLING_VALIDATION_PARTIAL (some json))
  | .accepted =>
    .ok { sourceConfig with
      status := some .OK
      data := some (match sourceConfig.data with
        | none => result
        | some data =>
          -- without a polling mode no round was read
          { FeedSourceData.assign data result with
            round := if sourceConfig.poll = none then data.round else result.round }) }
  | .thrown error =>
    .error (errorText ("Failed to validate fetched data of '" ++ sourceConfig.contract ++ "' validation\n" ++ error))

/-- The status of a source, as a message shows it. -/
def statusText (source : FeedConfigSource) : String :=
  (source.status.map fun status => toString status.code).getD "undefined"

/-- `INI`: the validation of the source. -/
def validateSource (sourceConfig : FeedConfigSource) (feedId : String) :
    Method (Except String (Option FeedConfigSource)) := do
  let result ← andThen (validateSourceContract config env.reads env.rejectData sourceConfig) fun result => do
    Traced.emit (.validated feedId sourceConfig.contract)
    return (sourceValidated config client env sourceConfig result).map some
  return rethrow ("Validation failed for Source '" ++ sourceConfig.contract ++ "'. Status: " ++ statusText sourceConfig
    ++ " \n") result

/-- `OK`: the source gets one more poller, if it needs one. A poller that cannot start is reported on
`ERROR_SOURCE` only. -/
def pollSource (sourceConfig : FeedConfigSource) (feedId : String) : Method (Except String (Option FeedConfigSource)) :=
  andThen (checkIfDataPollingRequired config client sourceConfig) fun toPoll => do
    match toPoll with
    | none => return .ok none
    | some _ =>
      let pollingInitResult ← initiateSourceDataPolling config client env sourceConfig feedId
      match pollingInitResult with
      | .ok _ => return .ok none
      | .error error =>
        let error := errorText ("Failed to initiate data polling for source '" ++ sourceConfig.contract ++ "' \n" ++ error)
        let (_, cast) ← castErrorSourceConfig config client env .SOURCE_POLLING_HANDLE_FAIL sourceConfig feedId
          (errorText ("Initiation of data polling for '" ++ sourceConfig.contract ++ "' has failed \n" ++ error))
        return cast.map fun _ => none

/-- Process a source, depending on its status. It works on a copy: the caller's source stays as it is. -/
def handleSourceContract (sourceConfig : FeedConfigSource) (feedId : String) :
    Method (Except String (Option FeedConfigSource)) :=
  match sourceConfig.status with
  | some .INI => validateSource config client env sourceConfig feedId
  | some .OK => pollSource config client env sourceConfig feedId
  | _ =>
    return .error (errorText ("Status '" ++ statusText sourceConfig ++ "' of Source '" ++ sourceConfig.contract
      ++ "' is not supported"))

end

end Relayd.EthClient
