import Relayd.Chainlink.Access
import Relayd.Chainlink.Phases
import Relayd.EthClient.ValidData
import Relayd.Lib.Significant

/-!
# Sources behind a proxy

A source of the type `CL_AGGR_PROX` is the proxy of an aggregator. Its access
controller decides whether the client can poll it, but not whether it can listen
to its aggregator. The round ids that it is polled with hold the phase above the
round, and most of the round is lost where they become numbers.
-/

namespace Relayd.EthClient
set_option autoImplicit false

open Relayd.Common Sys

/-- A proxy as a client knows it. -/
structure ProxyContract where
  ledger : Chainlink.Ledger
  /-- The address of the proxy -/
  address : Chainlink.Address
  /-- An address as a text -/
  text : Chainlink.Address → String

/-- What the client reads of round data. -/
def roundResult (data : Chainlink.RoundData) : RoundResult where
  roundId := data.roundId.toNat
  answer := data.answer.toInt
  updatedAt := data.updatedAt.toNat

namespace ProxyContract
variable (contract : ProxyContract)

/-- What the chain answers a user, with the answers of all other contracts. -/
def responses (user : Chainlink.Address) (others : ChainResponses) : ChainResponses where
  decimals address :=
    if address = contract.text contract.address then
      (contract.ledger.proxy.decimals contract.address contract.ledger.chain).map BitVec.toNat
    else others.decimals address
  aggregator address :=
    if address = contract.text contract.address then .ok (contract.text contract.ledger.proxy.currentPhase.aggregator)
    else others.aggregator address
  latestRoundData address :=
    if address = contract.text contract.address then
      (contract.ledger.proxy.checkAccess contract.ledger.chain user .latestRoundData
        (contract.ledger.proxy.latestRoundData contract.address contract.ledger.chain)).map roundResult
    else others.latestRoundData address
  pastEvents := others.pastEvents

/-- The same contract without its access controller. -/
def uncontrolled : ProxyContract :=
  { contract with ledger := { contract.ledger with proxy := { contract.ledger.proxy with accessController := 0 } } }

variable {contract} {user user' : Chainlink.Address} {others : ChainResponses}

/-- The answers to two users agree but for the round data. -/
theorem responses_agree (sourceConfig : FeedConfigSource) :
    Agree sourceConfig (contract.responses user others) (contract.responses user' others) := ⟨rfl, rfl⟩

/-- A user who is granted the round data gets them as if there were no controller. -/
theorem responses_granted (granted : contract.ledger.proxy.Grants contract.ledger.chain user .latestRoundData) :
    contract.responses user others = contract.uncontrolled.responses user others := by
  have round : (contract.responses user others).latestRoundData =
      (contract.uncontrolled.responses user others).latestRoundData := by
    funext address
    rcases Chainlink.EACAggregatorProxy.checkAccess_eq (α := Chainlink.RoundData) contract.ledger.chain
      contract.ledger.proxy user .latestRoundData with ⟨-, open'⟩ | ⟨denied, -⟩
    · simp only [responses, open']
      rfl
    · exact absurd granted denied
  exact (ChainResponses.mk.injEq ..).mpr ⟨rfl, rfl, round, rfl⟩

/-- A user who is not gets an error. -/
theorem responses_denied (denied : ¬ contract.ledger.proxy.Grants contract.ledger.chain user .latestRoundData) :
    ∃ reason, (contract.responses user others).latestRoundData (contract.text contract.address) = .error reason := by
  rcases Chainlink.EACAggregatorProxy.checkAccess_eq (α := Chainlink.RoundData) contract.ledger.chain
    contract.ledger.proxy user .latestRoundData with ⟨granted, -⟩ | ⟨-, reason, fails⟩
  · exact absurd granted denied
  · refine ⟨reason, ?_⟩
    simp only [responses, fails, ↓reduceIte]
    rfl

section
variable {config : RelaydConfig} {met : ValidationEnv} {sourceConfig : FeedConfigSource} {contractType : EFeedSourceType}

/-- **What the access to a proxy decides**: whether it is accepted as a source that is polled. One that is listened to is
accepted or not whoever asks. -/
theorem validateOn_access (typed : sourceConfig.type = some contractType)
    (isProxy : sourceConfig.contract = contract.text contract.address) :
    (sourceConfig.poll = some .TIMEPERIOD → ∀ out,
      (validateOn config met (contract.responses user others) sourceConfig = .ok out ↔
        contract.ledger.proxy.Grants contract.ledger.chain user .latestRoundData ∧
          validateOn config met (contract.uncontrolled.responses user others) sourceConfig = .ok out)) ∧
    (sourceConfig.poll = some .EVENT → SameOutcome (validateOn config met (contract.responses user others) sourceConfig)
      (validateOn config met (contract.responses user' others) sourceConfig)) := by
  constructor
  · intro periodic out
    by_cases granted : contract.ledger.proxy.Grants contract.ledger.chain user .latestRoundData
    · rw [responses_granted granted]
      exact (and_iff_right granted).symm
    · refine iff_of_false ?_ fun accepted => granted accepted.1
      intro accepted
      obtain ⟨decimals, data, accepts, -, -⟩ := (validateOn_period_iff typed periodic).1 accepted
      obtain ⟨values, loaded, -⟩ := map_eq_ok.1 accepts.read
      obtain ⟨result, answered, -⟩ := loadContractLatestRoundData_ok loaded
      obtain ⟨reason, fails⟩ := @responses_denied contract user others granted
      rw [isProxy, fails] at answered
      cases answered
  · intro onEvent
    exact (same_outcome_iff typed (responses_agree sourceConfig)).1 onEvent fun _ _ => rfl

end

end ProxyContract

/-- A proxy behind the controller 7, which grants the account 5 everything and others nothing. -/
def guardedProxy : ProxyContract where
  ledger := .deploy 1 2 7
    { Chainlink.Chain.of [(2, Chainlink.firstRound.contract)] with
      hasAccess := fun address user _ => .ok (decide (address = 7 ∧ user = 5)) }
  address := 9
  text address := if address = 9 then proxyAddress else "0xAe74faA92cB67A95ebCAB07358bC222e33A34dA7"

/-- The proxy is accepted as a polled source by the account 5, and rejected by the account 6. -/
theorem validateOn_access_guarded :
    (∃ out, validateOn RelaydConfig.prod noonEnv (guardedProxy.responses 5 (answering (.error "") []))
      { contract := proxyAddress, poll := some .TIMEPERIOD } = .ok out) ∧
    ¬ ∃ out, validateOn RelaydConfig.prod noonEnv (guardedProxy.responses 6 (answering (.error "") []))
      { contract := proxyAddress, poll := some .TIMEPERIOD } = .ok out := by
  have isProxy : proxyAddress = guardedProxy.text guardedProxy.address := by simp only [guardedProxy, ↓reduceIte]
  constructor
  · have uncontrolled : (validateOn RelaydConfig.prod noonEnv
        (guardedProxy.uncontrolled.responses 5 (answering (.error "") []))
        { contract := proxyAddress, poll := some .TIMEPERIOD }).toOption.isSome = true := by
      decide +kernel
    obtain ⟨out, accepted⟩ := Option.isSome_iff_exists.1 uncontrolled
    have granted : guardedProxy.ledger.proxy.Grants guardedProxy.ledger.chain 5 .latestRoundData := Or.inr rfl
    exact ⟨out, ((@ProxyContract.validateOn_access guardedProxy 5 5 _ _ _ _ _ rfl isProxy).1 rfl out).2
      ⟨granted, toOption_eq_some.1 accepted⟩⟩
  · rintro ⟨out, accepted⟩
    rcases ((@ProxyContract.validateOn_access guardedProxy 6 6 _ _ _ _ _ rfl isProxy).1 rfl out).1 accepted with
      ⟨zero | granted, -⟩
    · exact absurd zero (by decide)
    · cases granted

/-! ## Round numbers -/

/-- The numbers of JavaScript have 53 significant bits. -/
def RoundsNumbers (js : Js) : Prop :=
  ∀ n : Nat, n < 2 ^ 80 → js.number (toString (n : Int)) = some ((toSignificant 53 n : Nat) : Rat)

section
variable {js : Js} {convertOpts : ConversionConfig} {values values' : SourceValues} {data data' : Chainlink.RoundData}

/-- The round that a poll gives is that of the contract as a number. -/
theorem polled_round (numbers : RoundsNumbers js) (plain : convertOpts.commify = false)
    (read : convertRoundData js (roundResult data) convertOpts = .ok values) :
    values.data.round = some ((toSignificant 53 data.roundId.toNat : Nat) : Int) := by
  have round := convertRoundData_round plain read
  rw [roundResult, numbers _ data.roundId.isLt] at round
  simp only [SourceValues.data, round, Int.floor_natCast]

/-- Whole numbers as the language reads them. -/
def wholeJs : Js :=
  { plainJs with
    number := fun text =>
      if text.toList.all Char.isDigit then some ((toSignificant 53 (Nat.ofDigitChars 10 text.toList 0) : Nat) : Rat)
      else plainJs.number text }

theorem wholeJs_roundsNumbers : RoundsNumbers wholeJs := by
  intro n _
  have digits : (toString (n : Int)).toList = Nat.toDigits 10 n := Nat.toList_repr
  have all : (Nat.toDigits 10 n).all Char.isDigit = true :=
    List.all_eq_true.2 fun c member => Nat.isDigit_of_mem_toDigits (by decide) (by decide) member
  simp only [wholeJs, digits, all, ↓reduceIte, Nat.ofDigitChars_ten_toDigits]

/-- **Polls of a proxy never see an older round**, over any run of its transactions. -/
theorem polled_rounds_grow (numbers : RoundsNumbers js) (plain : convertOpts.commify = false)
    {l l' : Chainlink.Ledger} {later : List Chainlink.Transaction} (leads : l.Leads later l') {address : Chainlink.Address}
    (given : l.proxy.latestRoundData address l.chain = .ok data)
    (given' : l'.proxy.latestRoundData address l'.chain = .ok data')
    (counts : ∀ original original',
      l.chain.call address l.proxy.currentPhase.aggregator (·.latestRoundData) = .ok original →
      l'.chain.call address l.proxy.currentPhase.aggregator (·.latestRoundData) = .ok original' →
      original.roundId.toNat ≤ original'.roundId.toNat ∧ original'.roundId.toNat < 2 ^ 64)
    (read : convertRoundData js (roundResult data) convertOpts = .ok values)
    (read' : convertRoundData js (roundResult data') convertOpts = .ok values') :
    ∃ round round' : Int, values.data.round = some round ∧ values'.data.round = some round' ∧ round ≤ round' := by
  refine ⟨_, _, polled_round numbers plain read, polled_round numbers plain read', ?_⟩
  have grows := Chainlink.Ledger.latest_round_le leads given given' counts
  exact_mod_cast toSignificant_mono (by decide) grows

/-- The round data that a poll can convert. -/
def converted (data : Chainlink.RoundData) : Option SourceValues :=
  (convertRoundData wholeJs (roundResult data) { decimals := some 8 }).toOption

theorem convertRoundData_of_converted (some' : (converted data).isSome) :
    ∃ values, converted data = some values ∧
      convertRoundData wholeJs (roundResult data) { decimals := some 8 } = .ok values := by
  unfold converted at some' ⊢
  cases read : convertRoundData wholeJs (roundResult data) { decimals := some 8 } with
  | error reason =>
    rw [read] at some'
    cases some'
  | ok values => exact ⟨values, rfl, rfl⟩

/-- The second aggregator of the proxy has counted less rounds. -/
theorem polled_rounds_grow_replaced :
    ∃ values values' round round', converted (Chainlink.addPhaseIds Chainlink.firstRound 1) = some values ∧
      converted (Chainlink.addPhaseIds Chainlink.secondRound 2) = some values' ∧
      values.data.round = some round ∧ values'.data.round = some round' ∧ round ≤ round' := by
  obtain ⟨values, isRead, read⟩ := @convertRoundData_of_converted (Chainlink.addPhaseIds Chainlink.firstRound 1) (by decide +kernel)
  obtain ⟨values', isRead', read'⟩ := @convertRoundData_of_converted (Chainlink.addPhaseIds Chainlink.secondRound 2) (by decide +kernel)
  have counts : ∀ original original',
      Chainlink.Ledger.aggregators.call 9 2 (·.latestRoundData) = .ok original →
      Chainlink.Ledger.aggregators.call 9 2 (·.latestRoundData) = .ok original' →
      original.roundId.toNat ≤ original'.roundId.toNat ∧ original'.roundId.toNat < 2 ^ 64 := by
    intro original original' given given'
    cases given
    cases given'
    exact ⟨Nat.le_refl _, by decide⟩
  obtain ⟨round, round', isRound, isRound', grows⟩ :=
    @polled_rounds_grow _ _ _ _ _ _ wholeJs_roundsNumbers rfl _ _ _ Chainlink.Ledger.replaced_leads 9 rfl rfl counts read read'
  exact ⟨values, values', round, round', isRead, isRead', isRound, isRound', grows⟩

/-- **The first 2048 rounds of a phase are one as numbers**, so that a poll cannot tell them apart. -/
theorem first_rounds_polled_alike (numbers : RoundsNumbers js) (plain : convertOpts.commify = false)
    {phase : BitVec 16} {originalId : BitVec 64} (started : phase ≠ 0) (early : originalId.toNat < 2048)
    (isRound : data.roundId = Chainlink.addPhase phase originalId)
    (read : convertRoundData js (roundResult data) convertOpts = .ok values) :
    values.data.round = some ((phase.toNat * 2 ^ 64 : Nat) : Int) := by
  have positive : 0 < phase.toNat := by
    apply Nat.pos_of_ne_zero
    exact fun zero => started (BitVec.eq_of_toNat_eq zero)
  have whole : data.roundId.toNat = phase.toNat * 2 ^ 64 + originalId.toNat := by
    rw [isRound, Chainlink.addPhase_eq, append_toNat, Nat.mul_comm]
  have half : 2 ^ 12 ≤ 2 ^ (phase.toNat.log2 + 64 + 1 - 53) := Nat.pow_le_pow_right (by decide) (by omega)
  rw [polled_round numbers plain read, whole, toSignificant_low positive _ (by omega) (by omega)]
  exact phase.isLt.trans (by decide)

/-- The round 7 of the first phase. -/
theorem first_rounds_polled_alike_seventh :
    ∃ values, converted (Chainlink.addPhaseIds Chainlink.firstRound 1) = some values ∧
      values.data.round = some 18446744073709551616 := by
  obtain ⟨values, isRead, read⟩ := @convertRoundData_of_converted (Chainlink.addPhaseIds Chainlink.firstRound 1) (by decide +kernel)
  have round := @first_rounds_polled_alike _ _ _ _ wholeJs_roundsNumbers rfl 1 7 (by decide) (by decide) rfl read
  exact ⟨values, isRead, round⟩

end

end Relayd.EthClient
