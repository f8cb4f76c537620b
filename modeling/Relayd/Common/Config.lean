/-!
# The services' settings

`relayd.config.ts`: the settings the modelled code reads, their defaults in
production and the bounds declared for them, and `ethers.config.ts`.
-/

namespace Relayd.Common
set_option autoImplicit false

inductive EEthersNetwork
  | ETH_MAIN
  | ETH_TEST_KOVAN
  | ETH_TEST_RINKEBY
  deriving DecidableEq

/-- The name under which ethers knows a network. -/
def EEthersNetwork.name : EEthersNetwork → String
  | .ETH_MAIN => "homestead"
  | .ETH_TEST_KOVAN => "kovan"
  | .ETH_TEST_RINKEBY => "rinkeby"

inductive ESourceValidMode
  | MINIMAL
  | OPTIMAL
  | FULL
  deriving DecidableEq

/-- `RelaydConfigService`, with the defaults of `RelaydConfigDefaultProd`. -/
structure RelaydConfig where
  maxRecastNetworkSourceNotMatching : Nat := 4
  sourceDataLastUpdateMaxDays : Nat := 30
  sourceContractValidationMode : ESourceValidMode := .OPTIMAL
  maxRecastSourceHandlingFail : Nat := 2
  maxSuccessiveErrorToStopPolling : Nat := 3
  sourceIssueMaxNumber : Nat := 10
  sourceMaxHandle : Nat := 10
  sourcePollingAllowMultipleBySameIssuer : Bool := false
  sourcePollingAllowMultipleTypeBySameIssuer : Bool := false
  sourceNbEventListener : Nat := 3
  sourceNbPeriodicQuerier : Nat := 3
  deriving DecidableEq

/-- The bounds declared on the settings. -/
structure RelaydConfig.InBounds (config : RelaydConfig) : Prop where
  maxRecastNetworkSourceNotMatching : config.maxRecastNetworkSourceNotMatching ≤ 10
  sourceDataLastUpdateMaxDays : 1 ≤ config.sourceDataLastUpdateMaxDays ∧ config.sourceDataLastUpdateMaxDays ≤ 188
  maxRecastSourceHandlingFail : config.maxRecastSourceHandlingFail ≤ 5
  maxSuccessiveErrorToStopPolling : config.maxSuccessiveErrorToStopPolling ≤ 5
  sourceIssueMaxNumber : config.sourceIssueMaxNumber ≤ 20
  sourceMaxHandle : 1 ≤ config.sourceMaxHandle ∧ config.sourceMaxHandle ≤ 20
  sourceNbEventListener : 2 ≤ config.sourceNbEventListener ∧ config.sourceNbEventListener ≤ 10
  sourceNbPeriodicQuerier : 2 ≤ config.sourceNbPeriodicQuerier ∧ config.sourceNbPeriodicQuerier ≤ 10

/-- The production settings. -/
def RelaydConfig.prod : RelaydConfig := {}

/-- Every default passes its own check. -/
theorem RelaydConfig.prod_inBounds : RelaydConfig.prod.InBounds := by
  constructor <;> decide

end Relayd.Common
