import Relayd.Lib.Run
import Relayd.Common.Feed
import Relayd.EthClient.Service

/-!
# The pollers of an instance

An instance of `EthConnectService` over time: the initiations of its pollers,
the ticks of its intervals and the stops. Between an `await` and what follows it
anything else may happen: a poll waits for the chain's answer, a failed poll for
its turn to be counted, a failed listener for the removal of what it left.
-/

namespace Relayd.EthClient
set_option autoImplicit false
open Relayd.Common Sys

/-! ## Polls -/

/-- What a poll meets outside the service. -/
structure PollEnv where
  /-- `loadContractLatestRoundData`, with its checks -/
  latestRoundData : Except String FeedSourceData
  /-- The time, as the data carry it -/
  now : String
  writeFails : FeedSourceDataUpdate → Bool
  /-- The text of the function `getSourcePolled`, which an error prints -/
  getSourcePolled : String

/-- Cast the data of a source. -/
def castSourceDataUpdate (writeFails : FeedSourceDataUpdate → Bool) (feedId sourceId : String) (sourceData : FeedSourceData)
    (reason : ESourceDataUpdateReason) (info : Option String) : Except String FeedSourceDataUpdate :=
  let sourceUpd : FeedSourceDataUpdate :=
    { feedId := feedId, sourceId := some sourceId, source := some sourceData, reason := some reason, info := info }
  if writeFails sourceUpd then
    .error (errorText ("Failed to cast Source Data Update for '" ++ sourceId ++ "' \n"
      ++ writeToStreamError .SOURCE_DATA sourceId))
  else .ok sourceUpd

/-- Compares the data with those seen last, and keeps them when their value has changed. -/
def checkForSourceDataChange (poll : PollEnv) (sourceId : String) (sourceData : FeedSourceData) :
    Method (Except String Bool) := do
  let service ← Traced.read
  match service.sourcePolling.get sourceId with
  | none =>
    return .error (errorText ("Inconsistent state: no source '" ++ sourceId ++ "' registered for polling. Actual: "
      ++ poll.getSourcePolled))
  | some previous =>
    if previous.data.all fun previousData => previousData.value ≠ sourceData.value then
      Traced.update fun service => { service with
        sourcePolling := service.sourcePolling.set sourceId { data := some sourceData, timeout := previous.timeout } }
      return .ok true
    else
      return .ok false

/-- What an interval does with the chain's answer: the update it casts, if any. -/
def loadContractData (poll : PollEnv) (interval : PollingInterval) : Method (Except String (Option FeedSourceDataUpdate)) := do
  let address := interval.contract.address
  let failure := "Failed to poll data for Source '" ++ address ++ "' of feed '" ++ interval.feedId ++ "' \n"
  match poll.latestRoundData with
  | .error error => return rethrow failure (.error error)
  | .ok result =>
    match interval.notif with
    | some .CHECK =>
      return rethrow failure (rethrow ("Failed to cast Source Data regular update for '" ++ interval.feedId ++ "' \n")
        ((castSourceDataUpdate poll.writeFails interval.feedId address { result with time := some poll.now } .PERIODIC
          none).map some))
    | some .CHANGE =>
      let hasChanged ← checkForSourceDataChange poll address result
      match hasChanged with
      | .error error => return rethrow failure (.error error)
      | .ok false => return .ok none
      | .ok true =>
        return rethrow failure (rethrow ("Failed to cast Source Data change update for '" ++ interval.feedId ++ "' \n")
          ((castSourceDataUpdate poll.writeFails interval.feedId address result .DATA_CHANGE none).map some))
    | none =>
      return rethrow failure (.error (errorText ("Unsupported source data change notification mode\nReview config "
        ++ "notifOn=undefined in '" ++ address ++ "' of feed '" ++ interval.feedId ++ "'")))

/-! ## Initiations and stops -/

section
variable (config : RelaydConfig) (client : Client) (env : Env)

omit config client env in
theorem andThen_ok {α β : Type} (value : α) (next : α → Method (Except String β)) : andThen (.ok value) next = next value := rfl

/-- Listen to the contract's events and register as a listener: what may fail and is then cleaned up. -/
def listenToSource (sourceConfig : FeedConfigSource) (feedId : String) (sourceContract : Contract) :
    Method (Except String Unit) :=
  andThen (loadContractDecimals env.reads sourceContract.address) fun contractDecimals => do
    let listened ← listenToContractEvent feedId sourceConfig.contract sourceContract (eventName sourceConfig)
      contractDecimals
    andThen listened fun contractListened =>
      trackSourceEventListener config client env sourceConfig.contract contractListened

/-- The event branch of `initiateSourceDataPolling`, up to its clean-up. The outer outcome is that of the
load of the contract, after which nothing is cleaned up. -/
def startListening (sourceConfig : FeedConfigSource) (feedId : String) : Method (Except String (Except String Unit)) := do
  let loaded ← listenedContract env sourceConfig
  match loaded with
  | .error error => return .error error
  | .ok sourceContract =>
    let result ← listenToSource config client env sourceConfig feedId sourceContract
    return .ok result

/-- The clean-up of a failed listener. -/
def stopFailedListening (sourceId : String) : Method (Except String Unit) :=
  stopSourceEventListener client env sourceId .REMOVE_LISTEN_EVENT
    (some ("Listener init by '" ++ client.serviceId ++ "' failed"))

/-- **The event branch is its start and, after a failure, the clean-up.** -/
theorem initiateEventListening_eq (sourceConfig : FeedConfigSource) (feedId : String) :
    initiateEventListening config client env sourceConfig feedId = (do
      let started ← startListening config client env sourceConfig feedId
      match started with
      | .error error => return .error error
      | .ok (.ok _) => return .ok ()
      | .ok (.error error) =>
        let _ ← stopFailedListening client env sourceConfig.contract
        return .error (errorText ("Failed to initiate event listener on Source '" ++ sourceConfig.contract ++ "' \n"
          ++ error))) := by
  funext s
  simp only [initiateEventListening, startListening, Traced.bind_apply]
  cases (listenedContract env sourceConfig s).value with
  | error error => simp only [andThen, Traced.pure_apply, List.append_nil]
  | ok sourceContract =>
    have same : (andThen (loadContractDecimals env.reads sourceContract.address) fun contractDecimals => do
        let listened ← listenToContractEvent feedId sourceConfig.contract sourceContract (eventName sourceConfig)
          contractDecimals
        andThen listened fun contractListened =>
          trackSourceEventListener config client env sourceConfig.contract contractListened) =
        listenToSource config client env sourceConfig feedId sourceContract := rfl
    simp only [andThen_ok, Traced.bind_apply, same, Traced.pure_apply, List.append_nil, List.append_assoc]
    cases (listenToSource config client env sourceConfig feedId sourceContract (listenedContract env sourceConfig s).state).value <;>
      rfl

/-- Stop the polling of each source. A stop that fails is reported on `ERROR_SOURCE`. -/
def stopEachPolling : List String → Method Unit
  | [] => return ()
  | contractAddr :: polledSources => do
    let _ ← stopSourcePolling client env contractAddr .REMOVE_PERIODIC
      (some ("Service '" ++ client.serviceId ++ "' shutting down"))
    stopEachPolling polledSources

def stopAllSourcePolling : Method Unit := do
  let service ← Traced.read
  stopEachPolling client env service.sourcePolling.keys

/-- Stop the listeners of each source. `getServiceId` is the text of that function, which the message prints. -/
def stopEachListening (getServiceId : String) : List String → Method Unit
  | [] => return ()
  | sourceId :: polledSources => do
    let _ ← stopSourceEventListener client env sourceId .REMOVE_LISTEN_EVENT
      (some ("Service '" ++ getServiceId ++ "' shutting down"))
    stopEachListening getServiceId polledSources

/-- `stopAllSourceEventListener`, up to the removal of every listener of the provider. -/
def stopEverySourceListening (getServiceId : String) : Method Unit := do
  let service ← Traced.read
  stopEachListening client env getServiceId service.sourceListening.keys

end

/-! ## An instance over time -/

/-- What follows an `await`. -/
inductive Pending
  /-- The start of a listener failed. -/
  | stopFailedListening (sourceId : String)
  /-- A poll of the interval failed with an error. -/
  | countError (interval : PollingInterval) (error : String)
  /-- Every source was stopped being listened to. -/
  | removeAllListeners

/-- An instance with its polls under way. -/
structure Instance where
  service : EthConnectService := {}
  /-- `pollingErrorCounter` of each interval, by its timeout -/
  errors : Nat → Nat := fun _ => 0
  /-- The polls that wait for the chain's answer -/
  underWay : List PollingInterval := []
  pending : List Pending := []
  /-- Everything the instance emitted -/
  log : List Event := []
  /-- The data it cast -/
  updates : List FeedSourceDataUpdate := []

namespace Instance

inductive Action
  | initiate (env : Env) (sourceConfig : FeedConfigSource) (feedId : String)
  /-- The interval ticks. -/
  | tick (timeout : Nat)
  /-- The chain answers the `n`th poll under way. -/
  | answer (n : Nat) (poll : PollEnv)
  /-- The `n`th pending continuation runs. -/
  | resume (n : Nat) (env : Env)
  | stopPolling (env : Env) (sourceId : String) (reasonMsg : Option String)
  | stopAllPolling (env : Env)
  | stopListening (env : Env) (sourceId : String) (reasonMsg : Option String)
  | stopAllListening (env : Env) (getServiceId : String)

/-- What a method call leaves. -/
def called {α : Type} (s : Instance) (call : Called EthConnectService Event α) : Instance :=
  { s with service := call.state, log := s.log ++ call.events }

section
variable (config : RelaydConfig) (client : Client)

/-- Counts one more error of the interval, and stops the polling of its source when they are too many. -/
def countError (s : Instance) (env : Env) (interval : PollingInterval) (error : String) : Instance :=
  let address := interval.contract.address
  let pollingErrorCounter := s.errors interval.timeout + 1
  let s := { s with errors := Function.update s.errors interval.timeout pollingErrorCounter }
  if (pollingErrorCounter : Int) ≥ (config.maxSuccessiveErrorToStopPolling : Int) - 1 then
    s.called (stopSourcePolling client env address .REMOVE_PERIODIC
      (some ("Failed to poll data from Source '" ++ address ++ "' Stop polling after " ++ toString pollingErrorCounter
        ++ " successive errors. Last:\n" ++ error)) s.service)
  else s

/-- One action. -/
def step (s : Instance) : Action → Option Instance
  | .initiate env sourceConfig feedId =>
    match sourceConfig.poll with
    | some .TIMEPERIOD => some (s.called (initiatePeriodicPolling config client env sourceConfig feedId s.service))
    | some .EVENT =>
      let call := startListening config client env sourceConfig feedId s.service
      match call.value with
      | .ok (.error _) => some { s.called call with
          pending := s.pending ++ [.stopFailedListening sourceConfig.contract] }
      | _ => some (s.called call)
    | none => some s
  | .tick timeout =>
    (s.service.intervals.find? fun interval => interval.timeout == timeout).map fun interval =>
      { s with underWay := s.underWay ++ [interval] }
  | .answer n poll =>
    s.underWay[n]?.map fun interval =>
      let call := loadContractData poll interval s.service
      let s := { s.called call with underWay := s.underWay.eraseIdx n }
      match call.value with
      | .ok none => s
      | .ok (some update) => { s with updates := s.updates ++ [update] }
      | .error error => { s with pending := s.pending ++ [.countError interval error] }
  | .resume n env =>
    s.pending[n]?.map fun pending =>
      let s := { s with pending := s.pending.eraseIdx n }
      match pending with
      | .stopFailedListening sourceId => s.called (stopFailedListening client env sourceId s.service)
      | .countError interval error => s.countError config client env interval error
      | .removeAllListeners => { s with service := { s.service with listeners := [] } }
  | .stopPolling env sourceId reasonMsg =>
    some (s.called (stopSourcePolling client env sourceId .REMOVE_PERIODIC reasonMsg s.service))
  | .stopAllPolling env => some (s.called (stopAllSourcePolling client env s.service))
  | .stopListening env sourceId reasonMsg =>
    some (s.called (stopSourceEventListener client env sourceId .REMOVE_LISTEN_EVENT reasonMsg s.service))
  | .stopAllListening env getServiceId =>
    some { s.called (stopEverySourceListening client env getServiceId s.service) with
      pending := s.pending ++ [.removeAllListeners] }

end

end Instance

end Relayd.EthClient
