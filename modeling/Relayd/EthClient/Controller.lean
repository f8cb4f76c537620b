import Relayd.EthClient.Service

/-!
# Consumption of a source configuration

`handleSourceConfig` of `EthConnectController`, with its three recasts: of an
invalid input, of a source on another network, and of a source whose handling
failed. An attempt too many puts the source in status `FAIL`.
-/

namespace Relayd.EthClient
set_option autoImplicit false
open Relayd.Common Sys

/-- Check if the source's network is the one the client is connected to. -/
def checkNetworkMatch (client : Client) (sourceNetwork : Option EFeedSourceNetwork) : Bool :=
  match sourceNetwork with
  | some .ETH_MAIN => client.network == EEthersNetwork.ETH_MAIN.name
  | some .ETH_TEST_KOVAN => client.network == EEthersNetwork.ETH_TEST_KOVAN.name
  | some .ETH_TEST_RINKEBY => client.network == EEthersNetwork.ETH_TEST_RINKEBY.name
  | none => false

/-- `keepTrying`: the attempts, this one included, are fewer than the maximum. -/
def keepTrying (maxRecast : Nat) (reason : ESourceCastReason) (sourceConfig : FeedConfigSource) : Bool :=
  1 + countIssueInLastRow sourceConfig reason < maxRecast

/-- The source after one more failed attempt. -/
def retried (maxRecast : Nat) (reason : ESourceCastReason) (sourceConfig : FeedConfigSource) : FeedConfigSource :=
  if keepTrying maxRecast reason sourceConfig then sourceConfig else { sourceConfig with status := some .FAIL }

section
variable (config : RelaydConfig) (client : Client) (env : Env)

/-- Outcome of the input's validation: the error to report, if any. -/
def inputError (feedId : String) (sourceConfig : FeedConfigSource) : Option String :=
  match env.validateSource sourceConfig with
  | .accepted => none
  | .errors count json =>
    some (errorText ("Input source validation failed with " ++ toString count ++ " errors\n" ++ json))
  | .thrown error =>
    some (errorText ("Failed to validate Source '" ++ sourceConfig.contract ++ "' for '" ++ feedId ++ "' \n" ++ error))

/-- The source failed its input validation. -/
def failInvalid (feedId : String) (sourceConfig : FeedConfigSource) (validInput : String) :
    Method (Except String Unit) := do
  let sourceConfig := { sourceConfig with status := some .FAIL }
  let (sourceConfig, cast) ← castSourceConfig config client env .SOURCE_CONFIG feedId sourceConfig
    .HANDLING_VALIDATION_FAIL (some validInput)
  andThen cast fun _ => do
    let (_, errorCast) ← castErrorSourceConfig config client env .SOURCE_CONFIG_INVALID sourceConfig feedId
      (errorText ("Validation of input source Contract has failed \n" ++ validInput))
    return errorCast

/-- The report of a last attempt. -/
def reportLast (keepTrying : Bool) (errorType : EErrorType) (sourceConfig : FeedConfigSource) (feedId : String)
    (prevError : String) : Method (FeedConfigSource × Except String Unit) :=
  if keepTrying then return (sourceConfig, .ok ())
  else castErrorSourceConfig config client env errorType sourceConfig feedId prevError

/-- The source is on a network that the client does not support. The error report is not awaited. -/
def recastUnsupported (feedId : String) (sourceConfig : FeedConfigSource) : Method (Except String Unit) := do
  let countLastNetworkCompatibilityIssues := 1 + countIssueInLastRow sourceConfig .FAILURE_NETWORK_NOT_MATCHING
  let msg := ESourceCastReason.FAILURE_NETWORK_NOT_MATCHING.text ++ " No network support found for Source Contract of '"
    ++ feedId ++ "'. Attempt '" ++ toString countLastNetworkCompatibilityIssues ++ "/"
    ++ toString config.maxRecastNetworkSourceNotMatching
  let keepTrying := keepTrying config.maxRecastNetworkSourceNotMatching .FAILURE_NETWORK_NOT_MATCHING sourceConfig
  let sourceConfig := retried config.maxRecastNetworkSourceNotMatching .FAILURE_NETWORK_NOT_MATCHING sourceConfig
  let (sourceConfig, castResult) ← castSourceConfig config client env .SOURCE_CONFIG feedId sourceConfig
    .FAILURE_NETWORK_NOT_MATCHING (some msg)
  let _ ← reportLast config client env keepTrying .SOURCE_CONFIG_NETWORK_NOSUPPORT sourceConfig feedId
    (errorText ("No network support found for contract '" ++ sourceConfig.contract ++ "' of feed '" ++ feedId ++ "'\n"
      ++ msg))
  return rethrow "Failed to cast Source network support issue \n" (rethrow ("Failed to cast source '"
    ++ sourceConfig.contract ++ "' update (" ++ ESourceCastReason.FAILURE_NETWORK_NOT_MATCHING.text ++ " fail)\n") castResult)

/-- The handling of the source failed with `error`. -/
def recastFailed (feedId : String) (sourceConfig : FeedConfigSource) (error : String) : Method
    (Except String Unit) := do
  let countLastSerieOfHandlingErrors := 1 + countIssueInLastRow sourceConfig .HANDLING_FAILED
  let msg := ESourceCastReason.HANDLING_FAILED.text ++ ": Failed to handle Source '" ++ sourceConfig.contract ++ "' for '"
    ++ feedId ++ "'. Attempt " ++ toString countLastSerieOfHandlingErrors ++ "/"
    ++ toString config.maxRecastSourceHandlingFail ++ " \n" ++ error
  let keepTrying := keepTrying config.maxRecastSourceHandlingFail .HANDLING_FAILED sourceConfig
  let sourceConfig := retried config.maxRecastSourceHandlingFail .HANDLING_FAILED sourceConfig
  let (sourceConfig, castResult) ← castSourceConfig config client env .SOURCE_CONFIG feedId sourceConfig
    .HANDLING_FAILED (some msg)
  let (sourceConfig, reported) ← reportLast config client env keepTrying .SOURCE_CONFIG_HANDLING_FAIL sourceConfig
    feedId (errorText msg)
  andThen reported fun _ => do
    match castResult with
    | .ok _ => return .ok ()
    | .error error =>
      let (_, generalCast) ← castErrorSourceConfig config client env .SOURCE_CONFIG_GENERAL_FAIL sourceConfig feedId
        (errorText ("Failed to cast source '" ++ sourceConfig.contract ++ "' config update (failure '"
          ++ ESourceCastReason.HANDLING_FAILED.text ++ "') \n" ++ error))
      return generalCast

/-- Handles the source and casts the update, if there is one. -/
def handleAndCast (feedId : String) (sourceConfig : FeedConfigSource) : Method (Except String Unit) := do
  let handled ← handleSourceContract config client env sourceConfig feedId
  andThen handled fun configUpd => do
    match configUpd with
    | none => return .ok ()
    | some configUpd =>
      let (_, cast) ← castSourceConfig config client env .SOURCE_CONFIG feedId configUpd .HANDLING_SUCCESS
        (some ("Status: " ++ statusText configUpd))
      return cast

/-- The source is on the client's network. -/
def handleSupported (feedId : String) (sourceConfig : FeedConfigSource) : Method (Except String Unit) := do
  let contractSourceUpd ← handleAndCast config client env feedId sourceConfig
  match contractSourceUpd with
  | .ok _ => return .ok ()
  | .error error => recastFailed config client env feedId sourceConfig error

/-- `handleSourceConfig`, on a record of `SOURCE_CONFIG`. -/
def handleSourceConfig (feedId : String) (sourceConfig : FeedConfigSource) : Method (Except String Unit) :=
  if sourceConfig.status = some .FAIL then
    return .ok ()
  else
    match inputError env feedId sourceConfig with
    | some validInput => failInvalid config client env feedId sourceConfig validInput
    | none =>
      if checkNetworkMatch client sourceConfig.network then
        handleSupported config client env feedId sourceConfig
      else
        recastUnsupported config client env feedId sourceConfig

end

end Relayd.EthClient
