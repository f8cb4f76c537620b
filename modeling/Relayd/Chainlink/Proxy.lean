import Mathlib.Algebra.Ring.Nat
import Mathlib.Logic.Function.Basic

/-!
# The proxy of an aggregator

`cl-oracle-kovan_btcusd.sol`: the contract at the address of a source. It passes
on the answers of the aggregator of its current phase, with the phase added to
the round ids, and its owner moves it to another aggregator. The contracts it
calls are a `Chain`.
-/

namespace Relayd.Chainlink
set_option autoImplicit false

abbrev Address := BitVec 160

abbrev Int256 := BitVec 256

/-- What a call returns, or the reason it reverts with. -/
abbrev Returns (α : Type) := Except String α

structure RoundData where
  roundId : BitVec 80
  answer : Int256
  startedAt : BitVec 256
  updatedAt : BitVec 256
  answeredInRound : BitVec 80
  deriving DecidableEq

/-- What a contract answers. -/
structure AggregatorV2V3Interface where
  latestAnswer : Returns Int256
  latestTimestamp : Returns (BitVec 256)
  latestRound : Returns (BitVec 256)
  getAnswer : BitVec 256 → Returns Int256
  getTimestamp : BitVec 256 → Returns (BitVec 256)
  decimals : Returns (BitVec 8)
  description : Returns String
  version : Returns (BitVec 256)
  getRoundData : BitVec 80 → Returns RoundData
  latestRoundData : Returns RoundData

/-- The calls of the proxy that leave its state as it is. -/
inductive View
  | owner
  | proposedAggregator
  | phaseAggregators (id : BitVec 16)
  | accessController
  | aggregator
  | phaseId
  | decimals
  | version
  | description
  | latestAnswer
  | latestTimestamp
  | getAnswer (roundId : BitVec 256)
  | getTimestamp (roundId : BitVec 256)
  | latestRound
  | getRoundData (roundId : BitVec 80)
  | latestRoundData
  | proposedGetRoundData (roundId : BitVec 80)
  | proposedLatestRoundData
  deriving DecidableEq

/-- What a view returns. -/
inductive Answer
  | address (value : Address)
  | uint (value : BitVec 256)
  | text (value : String)
  | round (value : RoundData)
  deriving DecidableEq

/-- The other contracts of the chain. There is none at the address 0. -/
structure Chain where
  /-- What the contract at an address answers to a caller -/
  code : (caller address : Address) → Option AggregatorV2V3Interface
  none_at_zero : ∀ caller, code caller 0 = none
  /-- `hasAccess` of the contract at an address; the view stands for its call data -/
  hasAccess : (address user : Address) → View → Returns Bool

/-- A chain with these contracts, and no access controller. -/
def Chain.of (contracts : List (Address × AggregatorV2V3Interface)) : Chain where
  code _ address := if address = 0 then none else contracts.lookup address
  none_at_zero _ := if_pos rfl
  hasAccess _ _ _ := .error "function call to a non-contract account"

/-- An aggregator with one round. -/
def RoundData.contract (data : RoundData) : AggregatorV2V3Interface where
  latestAnswer := .ok data.answer
  latestTimestamp := .ok data.updatedAt
  latestRound := .ok (data.roundId.setWidth 256)
  getAnswer roundId := .ok (if roundId = data.roundId.setWidth 256 then data.answer else 0)
  getTimestamp roundId := .ok (if roundId = data.roundId.setWidth 256 then data.updatedAt else 0)
  decimals := .ok 8
  description := .ok ""
  version := .ok 4
  getRoundData roundId := if roundId = data.roundId then .ok data else .error "No data present"
  latestRoundData := .ok data

def firstRound : RoundData := { roundId := 7, answer := 100, startedAt := 10, updatedAt := 11, answeredInRound := 7 }

def secondRound : RoundData := { roundId := 2, answer := 105, startedAt := 20, updatedAt := 21, answeredInRound := 2 }

/-- The call of a contract. -/
def Chain.call {α : Type} (chain : Chain) (caller address : Address) (function : AggregatorV2V3Interface → Returns α) :
    Returns α :=
  match chain.code caller address with
  | some contract => function contract
  | none => .error "function call to a non-contract account"

theorem Chain.call_zero {α : Type} (chain : Chain) (caller : Address) (function : AggregatorV2V3Interface → Returns α) :
    chain.call caller 0 function = .error "function call to a non-contract account" := by
  simp only [call, chain.none_at_zero]

/-! ## State -/

structure Owned where
  owner : Address
  pendingOwner : Address := 0

structure Phase where
  id : BitVec 16 := 0
  aggregator : Address := 0

structure AggregatorProxy extends Owned where
  currentPhase : Phase := {}
  proposedAggregator : Address := 0
  phaseAggregators : BitVec 16 → Address := fun _ => 0

structure EACAggregatorProxy extends AggregatorProxy where
  accessController : Address := 0

/-! ## Round ids -/

def PHASE_OFFSET : Nat := 64

def PHASE_SIZE : Nat := 16

def MAX_ID : BitVec 256 := BitVec.ofNat 256 (2 ^ (PHASE_OFFSET + PHASE_SIZE) - 1)

def addPhase (phase : BitVec 16) (originalId : BitVec 64) : BitVec 80 :=
  ((phase.setWidth 256 <<< PHASE_OFFSET) ||| originalId.setWidth 256).setWidth 80

def parseIds (roundId : BitVec 256) : BitVec 16 × BitVec 64 :=
  ((roundId >>> PHASE_OFFSET).setWidth 16, roundId.setWidth 64)

def addPhaseIds (data : RoundData) (phaseId : BitVec 16) : RoundData :=
  { data with
    roundId := addPhase phaseId (data.roundId.setWidth 64)
    answeredInRound := addPhase phaseId (data.answeredInRound.setWidth 64) }

/-! ## Transactions -/

section
variable (sender : Address)

/-- The modifier `onlyOwner`. -/
def Owned.onlyOwner {α : Type} (s : Owned) (body : Returns α) : Returns α :=
  if sender = s.owner then body else .error "Only callable by owner"

def Owned.transferOwnership (s : Owned) (recipient : Address) : Returns Owned :=
  s.onlyOwner sender (.ok { s with pendingOwner := recipient })

def Owned.acceptOwnership (s : Owned) : Returns Owned :=
  if sender = s.pendingOwner then .ok { owner := sender, pendingOwner := 0 } else .error "Must be proposed owner"

/-- A new phase. Its id starts over after 65535 of them. -/
def AggregatorProxy.setAggregator (s : AggregatorProxy) (aggregator : Address) : AggregatorProxy :=
  let id := s.currentPhase.id + 1
  { s with
    currentPhase := { id := id, aggregator := aggregator }
    phaseAggregators := Function.update s.phaseAggregators id aggregator }

def AggregatorProxy.proposeAggregator (s : AggregatorProxy) (aggregator : Address) : Returns AggregatorProxy :=
  s.onlyOwner sender (.ok { s with proposedAggregator := aggregator })

def AggregatorProxy.confirmAggregator (s : AggregatorProxy) (aggregator : Address) : Returns AggregatorProxy :=
  s.onlyOwner sender <|
    if aggregator = s.proposedAggregator then
      .ok (AggregatorProxy.setAggregator { s with proposedAggregator := 0 } aggregator)
    else .error "Invalid proposed aggregator"

def EACAggregatorProxy.setController (s : EACAggregatorProxy) (accessController : Address) : Returns EACAggregatorProxy :=
  s.onlyOwner sender (.ok { s with accessController := accessController })

/-- The constructor: the sender is the owner. -/
def EACAggregatorProxy.deploy (aggregator accessController : Address) : EACAggregatorProxy :=
  { AggregatorProxy.setAggregator { owner := sender } aggregator with accessController := accessController }

/-- The calls that may change the state. -/
inductive Call
  | transferOwnership (recipient : Address)
  | acceptOwnership
  | proposeAggregator (aggregator : Address)
  | confirmAggregator (aggregator : Address)
  | setController (accessController : Address)
  deriving DecidableEq

def EACAggregatorProxy.execute (s : EACAggregatorProxy) : Call → Returns EACAggregatorProxy
  | .transferOwnership recipient =>
    (s.toOwned.transferOwnership sender recipient).map fun owned => { s with toOwned := owned }
  | .acceptOwnership => (s.toOwned.acceptOwnership sender).map fun owned => { s with toOwned := owned }
  | .proposeAggregator aggregator =>
    (s.toAggregatorProxy.proposeAggregator sender aggregator).map fun proxy => { s with toAggregatorProxy := proxy }
  | .confirmAggregator aggregator =>
    (s.toAggregatorProxy.confirmAggregator sender aggregator).map fun proxy => { s with toAggregatorProxy := proxy }
  | .setController accessController => s.setController sender accessController

end

/-! ## Views -/

namespace AggregatorProxy
variable (self : Address) (chain : Chain) (s : AggregatorProxy)

def latestAnswer : Returns Int256 := chain.call self s.currentPhase.aggregator (·.latestAnswer)

def latestTimestamp : Returns (BitVec 256) := chain.call self s.currentPhase.aggregator (·.latestTimestamp)

/-- What the aggregator of a round gives of it, or 0 if the round id has no aggregator. -/
def ofRound (roundId : BitVec 256) (function : BitVec 256 → AggregatorV2V3Interface → Returns (BitVec 256)) :
    Returns (BitVec 256) :=
  if roundId > MAX_ID then .ok 0
  else
    let (phaseId, aggregatorRoundId) := parseIds roundId
    let aggregator := s.phaseAggregators phaseId
    if aggregator = 0 then .ok 0 else chain.call self aggregator (function (aggregatorRoundId.setWidth 256))

def getAnswer (roundId : BitVec 256) : Returns Int256 := s.ofRound self chain roundId fun id contract => contract.getAnswer id

def getTimestamp (roundId : BitVec 256) : Returns (BitVec 256) :=
  s.ofRound self chain roundId fun id contract => contract.getTimestamp id

def latestRound : Returns (BitVec 256) :=
  (chain.call self s.currentPhase.aggregator (·.latestRound)).map fun originalId =>
    (addPhase s.currentPhase.id (originalId.setWidth 64)).setWidth 256

def getRoundData (roundId : BitVec 80) : Returns RoundData :=
  let (phaseId, aggregatorRoundId) := parseIds (roundId.setWidth 256)
  (chain.call self (s.phaseAggregators phaseId) (·.getRoundData (aggregatorRoundId.setWidth 80))).map fun data =>
    addPhaseIds data phaseId

def latestRoundData : Returns RoundData :=
  (chain.call self s.currentPhase.aggregator (·.latestRoundData)).map fun data => addPhaseIds data s.currentPhase.id

/-- The modifier `hasProposal`. -/
def hasProposal {α : Type} (body : Returns α) : Returns α :=
  if s.proposedAggregator ≠ 0 then body else .error "No proposed aggregator present"

def proposedGetRoundData (roundId : BitVec 80) : Returns RoundData :=
  s.hasProposal (chain.call self s.proposedAggregator (·.getRoundData roundId))

def proposedLatestRoundData : Returns RoundData :=
  s.hasProposal (chain.call self s.proposedAggregator (·.latestRoundData))

def decimals : Returns (BitVec 8) := chain.call self s.currentPhase.aggregator (·.decimals)

def version : Returns (BitVec 256) := chain.call self s.currentPhase.aggregator (·.version)

def description : Returns String := chain.call self s.currentPhase.aggregator (·.description)

end AggregatorProxy

namespace EACAggregatorProxy
variable (self : Address) (chain : Chain) (s : EACAggregatorProxy) (sender : Address)

/-- The modifier `checkAccess` in front of a view. -/
def checkAccess {α : Type} (data : View) (body : Returns α) : Returns α :=
  if s.accessController = 0 then body
  else do
    let granted ← chain.hasAccess s.accessController sender data
    if granted then body else .error "No access"

/-- What a view returns to a sender. -/
def view (data : View) : Returns Answer :=
  match data with
  | .owner => .ok (.address s.owner)
  | .proposedAggregator => .ok (.address s.proposedAggregator)
  | .phaseAggregators id => .ok (.address (s.phaseAggregators id))
  | .accessController => .ok (.address s.accessController)
  | .aggregator => .ok (.address s.currentPhase.aggregator)
  | .phaseId => .ok (.uint (s.currentPhase.id.setWidth 256))
  | .decimals => (s.decimals self chain).map fun value => .uint (value.setWidth 256)
  | .version => (s.version self chain).map .uint
  | .description => (s.description self chain).map .text
  | .latestAnswer => s.checkAccess chain sender data ((s.latestAnswer self chain).map .uint)
  | .latestTimestamp => s.checkAccess chain sender data ((s.latestTimestamp self chain).map .uint)
  | .getAnswer roundId => s.checkAccess chain sender data ((s.getAnswer self chain roundId).map .uint)
  | .getTimestamp roundId => s.checkAccess chain sender data ((s.getTimestamp self chain roundId).map .uint)
  | .latestRound => s.checkAccess chain sender data ((s.latestRound self chain).map .uint)
  | .getRoundData roundId => s.checkAccess chain sender data ((s.getRoundData self chain roundId).map .round)
  | .latestRoundData => s.checkAccess chain sender data ((s.latestRoundData self chain).map .round)
  | .proposedGetRoundData roundId =>
    s.checkAccess chain sender data (s.hasProposal ((s.proposedGetRoundData self chain roundId).map .round))
  | .proposedLatestRoundData =>
    s.checkAccess chain sender data (s.hasProposal ((s.proposedLatestRoundData self chain).map .round))

end EACAggregatorProxy

end Relayd.Chainlink
