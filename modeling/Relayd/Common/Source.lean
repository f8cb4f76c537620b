import Mathlib.Data.Rat.Defs

/-!
# Sources of data feeds

`source.data.ts` and the source part of `feed.data.ts`: the records cast on the
topics `SOURCE_CONFIG` and `SOURCE_POLLING`, with the constraints declared on
their classes. An optional field is `none` when it is absent.
-/

namespace Relayd.Common
set_option autoImplicit false

/-- Reason for casting a contract update. -/
inductive ESourceCastReason
  | HANDLING_SUCCESS
  | HANDLING_FAILED
  | FAILURE_NETWORK_NOT_MATCHING
  | HANDLING_VALIDATION_PARTIAL
  | HANDLING_VALIDATION_FAIL
  deriving DecidableEq

def ESourceCastReason.text : ESourceCastReason → String
  | .HANDLING_SUCCESS => "contract.handling.success"
  | .HANDLING_FAILED => "contract.handling.fail"
  | .FAILURE_NETWORK_NOT_MATCHING => "failure.network.incompatible"
  | .HANDLING_VALIDATION_PARTIAL => "contract.handling.valid.partial"
  | .HANDLING_VALIDATION_FAIL => "contract.handling.invalid"

/-- Supported contract statuses. -/
inductive ESourceStatus
  | INI
  | OK
  | PARTIAL
  | FAIL
  deriving DecidableEq

/-- The HTTP status code that stands for the status. -/
def ESourceStatus.code : ESourceStatus → Nat
  | .INI => 100
  | .OK => 200
  | .PARTIAL => 206
  | .FAIL => 405

inductive ESourceDataUpdateReason
  | DATA_CHANGE
  | PERIODIC
  deriving DecidableEq

/-- A polling change; `unknown` is any other text a record may carry. -/
inductive ESourcePollingChange
  | ADD_PERIODIC
  | ADD_LISTEN_EVENT
  | REMOVE_PERIODIC
  | REMOVE_LISTEN_EVENT
  | unknown (text : String)
  deriving DecidableEq

structure SourcePollingInfo where
  /-- Address of the polled contract -/
  source : String
  issuer : String
  change : ESourcePollingChange
  info : Option String := none
  deriving DecidableEq

inductive EFeedSourceNetwork
  | ETH_MAIN
  | ETH_TEST_RINKEBY
  | ETH_TEST_KOVAN
  deriving DecidableEq

inductive EFeedSourceType
  | CL_AGGR_PROX
  | CL_AGGR
  deriving DecidableEq

def EFeedSourceType.text : EFeedSourceType → String
  | .CL_AGGR_PROX => "cl-aggregator-proxy"
  | .CL_AGGR => "cl-aggregator"

inductive EFeedSourceEvent
  | ANSWER_UPDATED
  | CUSTOM
  deriving DecidableEq

def EFeedSourceEvent.text : EFeedSourceEvent → String
  | .ANSWER_UPDATED => "AnswerUpdated(int256,uint256,uint256)"
  | .CUSTOM => "custom"

inductive EFeedSourcePoll
  | EVENT
  | TIMEPERIOD
  deriving DecidableEq

def EFeedSourcePoll.text : EFeedSourcePoll → String
  | .EVENT => "event"
  | .TIMEPERIOD => "period"

inductive EFeedSourceNotifOn
  | CHANGE
  | CHECK
  deriving DecidableEq

inductive EFeedSourceFunction
  | LATEST_ROUND_DATA
  | LAST_UPDATED
  deriving DecidableEq

/-- Specification of the source data. -/
structure FeedSourceData where
  path : Option String := none
  decimals : Option Rat := none
  value : Option Rat := none
  time : Option String := none
  round : Option Int := none
  deriving DecidableEq

structure ProcessingIssue where
  issuer : String
  type : ESourceCastReason
  info : Option String := none
  deriving DecidableEq

structure FeedSourceHandle where
  handler : String
  type : EFeedSourcePoll
  time : String
  deriving DecidableEq

/-- Source of a data feed, with the defaults of its class. -/
structure FeedConfigSource where
  status : Option ESourceStatus := some .INI
  issue : Option (List ProcessingIssue) := none
  network : Option EFeedSourceNetwork := some .ETH_MAIN
  contract : String
  type : Option EFeedSourceType := some .CL_AGGR_PROX
  poll : Option EFeedSourcePoll := some .EVENT
  event : Option EFeedSourceEvent := some .ANSWER_UPDATED
  eventSignature : Option String := none
  period : Option Rat := some 120
  function : Option EFeedSourceFunction := some .LATEST_ROUND_DATA
  notif : Option EFeedSourceNotifOn := some .CHANGE
  data : Option FeedSourceData := none
  handle : Option (List FeedSourceHandle) := none
  deriving DecidableEq

/-- A source with the feed it belongs to: an entry of the source table. -/
structure FeedSourceConfigWrap where
  feedId : String
  source : FeedConfigSource
  deriving DecidableEq

/-! ## Declared constraints -/

/-- `@Length(min, max)`. It counts a surrogate pair once, as the length of a string does here. -/
def hasLength (min max : Nat) (s : String) : Bool := min ≤ s.length && s.length ≤ max

/-- `@IsOptional()` in front of a check. -/
def optional {α : Type} (check : α → Bool) : Option α → Bool
  | none => true
  | some a => check a

def isHexDigit (c : Char) : Bool :=
  ('0' ≤ c && c ≤ '9') || ('a' ≤ c && c ≤ 'f') || ('A' ≤ c && c ≤ 'F')

/-- `@IsEthereumAddress()`. -/
def isEthereumAddress (s : String) : Bool :=
  match s.toList with
  | '0' :: x :: digits => (x == 'x' || x == 'X') && digits.length == 40 && digits.all isHexDigit
  | _ => false

/-- `@Contains(part)`. -/
def containsText (part s : String) : Bool :=
  s.toList.tails.any fun rest => part.toList.isPrefixOf rest

section
-- `@IsDateString()`, of the validation package
variable (isDateString : String → Bool)

def ProcessingIssue.valid (i : ProcessingIssue) : Bool :=
  hasLength 3 40 i.issuer && optional (fun s => s.length ≤ 255) i.info

def FeedSourceHandle.valid (h : FeedSourceHandle) : Bool :=
  hasLength 6 40 h.handler && isDateString h.time

def FeedSourceData.valid (d : FeedSourceData) : Bool :=
  optional (hasLength 1 50) d.path && optional (fun n => decide (0 ≤ n ∧ n ≤ 30)) d.decimals &&
    optional (fun v => decide (0 < v)) d.value && optional isDateString d.time

def FeedConfigSource.valid (s : FeedConfigSource) : Bool :=
  optional (fun l => l.length ≤ 20 && l.all ProcessingIssue.valid) s.issue &&
    isEthereumAddress s.contract && hasLength 41 43 s.contract &&
    (s.event ≠ some .CUSTOM || optional (hasLength 10 50) s.eventSignature) &&
    (s.poll ≠ some .TIMEPERIOD || optional (fun p => decide (20 ≤ p ∧ p ≤ 48 * 60 * 60)) s.period) &&
    optional (FeedSourceData.valid isDateString) s.data &&
    optional (fun l => l.length ≤ 20 && l.all (FeedSourceHandle.valid isDateString)) s.handle

def SourcePollingInfo.valid (p : SourcePollingInfo) : Bool :=
  isEthereumAddress p.source && hasLength 41 43 p.source && hasLength 6 40 p.issuer &&
    optional (hasLength 3 255) p.info &&
    match p.change with
    | .unknown _ => false
    | _ => true

end

/-- The defaults of a source pass the declared constraints, whatever the valid contract. -/
theorem FeedConfigSource.default_valid (isDateString : String → Bool) (contract : String)
    (address : isEthereumAddress contract = true) (length : hasLength 41 43 contract = true) :
    FeedConfigSource.valid isDateString { contract } = true := by
  simp [FeedConfigSource.valid, optional, address, length]

/-- The BTC/USD aggregator proxy of the tests, on the main network. -/
def proxyAddress : String := "0xF4030086522a5bEEa4988F8cA5B36dbC97BeE88c"

end Relayd.Common
