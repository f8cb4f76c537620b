import Relayd.EthClient.Checks
import Relayd.EthClient.PastEvents

/-!
# Validation and what the chain answers

`validateSourceContract` on the answers of the chain: the decimals, the aggregator,
the round data and the past events. A source is accepted on the answers that it will
be polled by; what a validation reads besides is given back as an error to be
ignored, but for a past event that cannot be converted, and for the round data of
the aggregator behind a proxy.
-/

namespace Relayd.EthClient
set_option autoImplicit false
open Relayd.Common

/-- What the chain answers, by contract address. -/
structure ChainResponses where
  decimals : String → Except String Nat
  aggregator : String → Except String String
  latestRoundData : String → Except String RoundResult
  /-- The events of a name in the last blocks -/
  pastEvents : String → Option String → Except String (List PastEvent)

/-- The fields of source data as other code reads them. -/
def SourceValues.data (values : SourceValues) : FeedSourceData where
  value := match values.value with
    | .number value => value
    | _ => none
  time := match values.time with
    | .text time => some time
    | _ => none
  round := match values.round with
    | .number (some round) => some ⌊round⌋
    | _ => none

/-- What a validation meets outside the service and the chain. -/
structure ValidationEnv where
  js : Js
  /-- The validation of a decoded event -/
  rejectEvent : ContractEvent → Option String
  /-- The validation of the data found -/
  rejectData : FeedSourceData → Option String
  isDateString : String → Bool
  /-- The time, in milliseconds -/
  now : Int

section
variable (config : RelaydConfig) (met : ValidationEnv)

/-- The reads of a validation on these answers. -/
def ChainResponses.reads (responses : ChainResponses) : ContractReads where
  decimals := responses.decimals
  aggregator := responses.aggregator
  latestRoundData address decimals :=
    (loadContractLatestRoundData met.js config met.isDateString met.now address (responses.latestRoundData address)
      { decimals := some decimals } true).map SourceValues.data
  contractEvent address eventName decimals :=
    (checkForContractEvent met.js met.rejectEvent address eventName decimals (responses.pastEvents address eventName)).map
      fun found => found.map SourceValues.data

/-- `validateSourceContract` on the answers of the chain. -/
def validateOn (responses : ChainResponses) (sourceConfig : FeedConfigSource) : Except String FeedSourceData :=
  validateSourceContract config (responses.reads config met) met.rejectData sourceConfig

end

/-! ## Reading the answers -/

section
variable {config : RelaydConfig} {met : ValidationEnv}

/-- What is loaded of the round data of a contract is the answer decoded, with a positive value and a time. -/
theorem loadContractLatestRoundData_ok {js : Js} {isDateString : String → Bool} {now : Int} {address : String}
    {latestRoundData : Except String RoundResult} {convertOpts : ConversionConfig} {values : SourceValues}
    (loaded : loadContractLatestRoundData js config isDateString now address latestRoundData convertOpts true = .ok values) :
    ∃ result, latestRoundData = .ok result ∧ convertRoundData js result convertOpts = .ok values ∧
      isPositive values.value = true ∧ isDate isDateString values.time = true := by
  simp only [loadContractLatestRoundData, rethrow_eq_ok, bind_eq_ok] at loaded
  obtain ⟨result, read, values', converted, checked⟩ := loaded
  have positive : isPositive values'.value = true := by
    by_contra negative
    rw [eq_false_of_ne_true negative, if_pos (by decide)] at checked
    cases checked
  have dated : isDate isDateString values'.time = true := by
    by_contra undated
    rw [positive, if_neg (by decide), eq_false_of_ne_true undated, if_pos (by decide)] at checked
    cases checked
  rw [positive, dated, if_neg (by decide), if_neg (by decide)] at checked
  split_ifs at checked
  cases checked
  exact ⟨result, read, converted, positive, dated⟩

/-- The events that were loaded cannot all be read, or the latest of them not be decoded. -/
def Unreadable (met : ValidationEnv) (decimals : Nat) (loaded : Except String (List PastEvent)) : Prop :=
  ∃ events, loaded = .ok events ∧ events ≠ [] ∧ ¬ Readable met.js met.rejectEvent decimals events

/-- **The look for events throws** exactly on unreadable ones. -/
theorem checkForContractEvent_ok_iff {address : String} {eventName : Option String} {decimals : Nat}
    {loaded : Except String (List PastEvent)} :
    (∃ found, checkForContractEvent met.js met.rejectEvent address eventName decimals loaded = .ok found) ↔
      ¬ Unreadable met decimals loaded := by
  match loaded with
  | .error error => simp [checkForContractEvent, Unreadable]
  | .ok [] => simp [checkForContractEvent, Unreadable]
  | .ok (event :: events) =>
    have readable := @lastEventData_ok_iff met.js met.rejectEvent decimals _ (List.cons_ne_nil event events)
    simp only [checkForContractEvent, map_eq_ok, Unreadable, Except.ok.injEq, exists_eq_left', ne_eq, reduceCtorEq,
      not_false_eq_true, true_and, not_not, ← readable]
    constructor
    · rintro ⟨_, values, found, -⟩
      exact ⟨values, found⟩
    · rintro ⟨values, found⟩
      exact ⟨_, values, found, rfl⟩

/-- What is read of a contract has no path. -/
theorem ChainResponses.reads_path (responses : ChainResponses) (address : String) (decimals : Nat) (data : FeedSourceData)
    (read : (responses.reads config met).latestRoundData address decimals = .ok data) : data.path = none := by
  obtain ⟨values, -, rfl⟩ := map_eq_ok.1 read
  rfl

theorem ChainResponses.reads_contractEvent {responses : ChainResponses} {address : String} {eventName : Option String}
    {decimals : Nat} :
    (∃ event, (responses.reads config met).contractEvent address eventName decimals = .ok event) ↔
      ¬ Unreadable met decimals (responses.pastEvents address eventName) := by
  rw [← checkForContractEvent_ok_iff]
  simp only [ChainResponses.reads, map_eq_ok]
  constructor
  · rintro ⟨_, found, read, -⟩
    exact ⟨found, read⟩
  · rintro ⟨found, read⟩
    exact ⟨_, found, read, rfl⟩

/-! ## Two validations -/

section
variable (config met) (responses : ChainResponses) (sourceConfig : FeedConfigSource) (contractType : EFeedSourceType)

/-- The contract to listen to is known: the source, or the aggregator of a proxy. -/
def ListensTo (address : String) : Prop := listenedTo (responses.reads config met) sourceConfig contractType = .ok address

/-- The round data of the source, in its decimals, would be accepted. -/
structure Accepts (decimals : Nat) (data : FeedSourceData) : Prop where
  isAddress : isEthereumAddress sourceConfig.contract = true
  loaded : loadContractDecimals (responses.reads config met) sourceConfig.contract = .ok decimals
  listened : ∃ address, ListensTo config met responses sourceConfig contractType address
  read : (responses.reads config met).latestRoundData sourceConfig.contract decimals = .ok data
  accepted : met.rejectData { data with decimals := some (decimals : Rat) } = none

/-- What a periodic validation reads besides stands in its way: unreadable events where it looks for some, and round
data of the aggregator that it does not accept. -/
def Spoiled (decimals : Nat) : Prop :=
  match contractType with
  | .CL_AGGR => config.sourceContractValidationMode = .FULL ∧
      Unreadable met decimals (responses.pastEvents sourceConfig.contract (eventName sourceConfig))
  | .CL_AGGR_PROX => ∃ aggregator, responses.aggregator sourceConfig.contract = .ok aggregator ∧
      (Unreadable met decimals (responses.pastEvents aggregator (eventName sourceConfig)) ∨
        config.sourceContractValidationMode = .FULL ∧
          ∃ error, (responses.reads config met).latestRoundData aggregator decimals = .error error)

end

variable {responses : ChainResponses} {sourceConfig : FeedConfigSource} {contractType : EFeedSourceType} {decimals : Nat}

theorem aggregator_loaded {reads : ContractReads} {address aggregator : String}
    (loaded : loadClProxyContractAggregator reads address = .ok aggregator) : reads.aggregator address = .ok aggregator := by
  simp only [loadClProxyContractAggregator, rethrow_eq_ok, bind_eq_ok] at loaded
  obtain ⟨aggregator', read, checked⟩ := loaded
  split at checked <;> cases checked
  exact read

theorem ok_iff_not_error {result : Except String FeedSourceData} :
    (∃ data, result = .ok data) ↔ ¬ ∃ error, result = .error error := by
  cases result <;> simp

/-- What is read besides goes well exactly when it spoils nothing. -/
theorem besidesRead_iff :
    BesidesRead config (responses.reads config met) sourceConfig decimals contractType ↔
      (∃ address, ListensTo config met responses sourceConfig contractType address) ∧
        ¬ Spoiled config met responses sourceConfig contractType decimals := by
  cases contractType with
  | CL_AGGR =>
    simp only [BesidesRead, ChainResponses.reads_contractEvent, ListensTo, listenedTo, Except.ok.injEq, exists_eq', Spoiled,
      not_and, true_and]
  | CL_AGGR_PROX =>
    simp only [BesidesRead, ChainResponses.reads_contractEvent, ListensTo, listenedTo, Spoiled, ok_iff_not_error]
    constructor
    · rintro ⟨aggregator, known, readable, accepted⟩
      refine ⟨⟨aggregator, known⟩, ?_⟩
      rintro ⟨aggregator', known', spoils⟩
      cases (aggregator_loaded known).symm.trans known'
      rcases spoils with unreadable | ⟨full, rejected⟩
      · exact readable unreadable
      · exact accepted full rejected
    · rintro ⟨⟨aggregator, known⟩, unspoiled⟩
      refine ⟨aggregator, known, fun unreadable => unspoiled ⟨aggregator, aggregator_loaded known, Or.inl unreadable⟩, ?_⟩
      exact fun full rejected => unspoiled ⟨aggregator, aggregator_loaded known, Or.inr ⟨full, rejected⟩⟩

/-- **A periodic source is accepted** on its round data, unless they are spoiled by what is read besides. -/
theorem validateOn_period_iff (typed : sourceConfig.type = some contractType)
    (periodic : sourceConfig.poll = some .TIMEPERIOD) {out : FeedSourceData} :
    validateOn config met responses sourceConfig = .ok out ↔
      ∃ decimals data, Accepts config met responses sourceConfig contractType decimals data ∧
        ¬ Spoiled config met responses sourceConfig contractType decimals ∧
        out = { data with decimals := some (decimals : Rat) } := by
  rw [validateOn, validate_period_iff periodic responses.reads_path typed]
  simp only [besidesRead_iff]
  constructor
  · rintro ⟨isAddress, accepted, decimals, loaded, ⟨data, read, rfl⟩, listened, unspoiled⟩
    exact ⟨decimals, data, ⟨isAddress, loaded, listened, read, accepted⟩, unspoiled, rfl⟩
  · rintro ⟨decimals, data, accepts, unspoiled, rfl⟩
    exact ⟨accepts.isAddress, accepts.accepted, decimals, accepts.loaded, ⟨data, accepts.read, rfl⟩, accepts.listened, unspoiled⟩

/-- The validations have the same outcome: the same data, or a rejection. -/
def SameOutcome (a b : Except String FeedSourceData) : Prop := a.toOption = b.toOption

instance (a b : Except String FeedSourceData) : Decidable (SameOutcome a b) := inferInstanceAs (Decidable (_ = _))

theorem sameOutcome_iff {a b : Except String FeedSourceData} : SameOutcome a b ↔ ∀ out, a = .ok out ↔ b = .ok out := by
  rw [SameOutcome, Option.ext_iff]
  simp only [toOption_eq_some]

variable {responses₁ responses₂ : ChainResponses}

/-- The answers agree on the decimals and the aggregator of the source. -/
structure Agree (sourceConfig : FeedConfigSource) (responses₁ responses₂ : ChainResponses) : Prop where
  decimals : responses₁.decimals sourceConfig.contract = responses₂.decimals sourceConfig.contract
  aggregator : responses₁.aggregator sourceConfig.contract = responses₂.aggregator sourceConfig.contract

theorem Agree.symm (agree : Agree sourceConfig responses₁ responses₂) : Agree sourceConfig responses₂ responses₁ :=
  ⟨agree.decimals.symm, agree.aggregator.symm⟩

theorem Agree.loadContractDecimals (agree : Agree sourceConfig responses₁ responses₂) :
    loadContractDecimals (responses₁.reads config met) sourceConfig.contract =
      loadContractDecimals (responses₂.reads config met) sourceConfig.contract := by
  simp only [EthClient.loadContractDecimals, ChainResponses.reads, agree.decimals]

theorem Agree.listensTo (agree : Agree sourceConfig responses₁ responses₂) {address : String} :
    ListensTo config met responses₁ sourceConfig contractType address ↔
      ListensTo config met responses₂ sourceConfig contractType address := by
  cases contractType with
  | CL_AGGR => exact Iff.rfl
  | CL_AGGR_PROX =>
    simp only [ListensTo, listenedTo, loadClProxyContractAggregator, ChainResponses.reads, agree.aggregator]

theorem Agree.accepts (agree : Agree sourceConfig responses₁ responses₂)
    (same : responses₁.latestRoundData sourceConfig.contract = responses₂.latestRoundData sourceConfig.contract)
    {data : FeedSourceData} (accepts : Accepts config met responses₁ sourceConfig contractType decimals data) :
    Accepts config met responses₂ sourceConfig contractType decimals data where
  isAddress := accepts.isAddress
  loaded := agree.loadContractDecimals.symm.trans accepts.loaded
  listened := accepts.listened.imp fun _ => agree.listensTo.1
  read := by
    have read := accepts.read
    simpa only [ChainResponses.reads, same] using read
  accepted := accepts.accepted

/-- Accepted round data are the only ones, and in the only decimals. -/
theorem Accepts.unique {decimals' : Nat} {data data' : FeedSourceData}
    (accepts : Accepts config met responses sourceConfig contractType decimals data)
    (accepts' : Accepts config met responses sourceConfig contractType decimals' data') : decimals' = decimals ∧ data' = data := by
  cases accepts.loaded.symm.trans accepts'.loaded
  cases accepts.read.symm.trans accepts'.read
  exact ⟨rfl, rfl⟩

/-- A source polled by events is accepted whenever it is on the same past events. -/
theorem Agree.validateOn_event (agree : Agree sourceConfig responses₁ responses₂)
    (typed : sourceConfig.type = some contractType) (onEvent : sourceConfig.poll = some .EVENT)
    (events : ∀ address, ListensTo config met responses₁ sourceConfig contractType address →
      responses₁.pastEvents address (eventName sourceConfig) = responses₂.pastEvents address (eventName sourceConfig))
    {out : FeedSourceData} (accepted : validateOn config met responses₁ sourceConfig = .ok out) :
    validateOn config met responses₂ sourceConfig = .ok out := by
  rw [validateOn, validate_event_iff typed onEvent] at accepted ⊢
  obtain ⟨isAddress, accepted, decimals, loaded, address, data, listened, found, rfl⟩ := accepted
  refine ⟨isAddress, accepted, decimals, agree.loadContractDecimals.symm.trans loaded, address, data,
    agree.listensTo.1 listened, ?_, rfl⟩
  simpa only [ChainResponses.reads, events address listened] using found

/-- Accepted round data that nothing spoils are spoiled by no other answers on which the validation has the same outcome. -/
theorem Accepts.unspoiled (typed : sourceConfig.type = some contractType) (periodic : sourceConfig.poll = some .TIMEPERIOD)
    {data : FeedSourceData} (accepts : Accepts config met responses₁ sourceConfig contractType decimals data)
    (accepts' : Accepts config met responses₂ sourceConfig contractType decimals data)
    (follows : ∀ out, validateOn config met responses₁ sourceConfig = .ok out →
      validateOn config met responses₂ sourceConfig = .ok out)
    (unspoiled : ¬ Spoiled config met responses₁ sourceConfig contractType decimals) :
    ¬ Spoiled config met responses₂ sourceConfig contractType decimals := by
  have first := (validateOn_period_iff typed periodic).2 ⟨decimals, data, accepts, unspoiled, rfl⟩
  obtain ⟨decimals', data', accepts'', unspoiled', -⟩ := (validateOn_period_iff typed periodic).1 (follows _ first)
  obtain ⟨rfl, -⟩ := accepts'.unique accepts''
  exact unspoiled'

/-- A periodic source is accepted whenever it is on the same round data, if these are spoiled alike. -/
theorem Agree.validateOn_period (agree : Agree sourceConfig responses₁ responses₂)
    (typed : sourceConfig.type = some contractType) (periodic : sourceConfig.poll = some .TIMEPERIOD)
    (same : responses₁.latestRoundData sourceConfig.contract = responses₂.latestRoundData sourceConfig.contract)
    (alike : ∀ decimals data, Accepts config met responses₁ sourceConfig contractType decimals data →
      (Spoiled config met responses₁ sourceConfig contractType decimals ↔
        Spoiled config met responses₂ sourceConfig contractType decimals))
    {out : FeedSourceData} (accepted : validateOn config met responses₁ sourceConfig = .ok out) :
    validateOn config met responses₂ sourceConfig = .ok out := by
  obtain ⟨decimals, data, accepts, unspoiled, rfl⟩ := (validateOn_period_iff typed periodic).1 accepted
  rw [alike decimals data accepts] at unspoiled
  exact (validateOn_period_iff typed periodic).2 ⟨decimals, data, agree.accepts same accepts, unspoiled, rfl⟩

/-- **What a validation depends on**: one by events on the past events of the contract to listen to. A periodic one has
the same outcome on the same round data exactly when these are not accepted anyway, or spoiled by the other answers in
both cases or in none. -/
theorem same_outcome_iff (typed : sourceConfig.type = some contractType)
    (agree : Agree sourceConfig responses₁ responses₂) :
    (sourceConfig.poll = some .EVENT →
      (∀ address, ListensTo config met responses₁ sourceConfig contractType address →
        responses₁.pastEvents address (eventName sourceConfig) = responses₂.pastEvents address (eventName sourceConfig)) →
      SameOutcome (validateOn config met responses₁ sourceConfig) (validateOn config met responses₂ sourceConfig)) ∧
    (sourceConfig.poll = some .TIMEPERIOD →
      responses₁.latestRoundData sourceConfig.contract = responses₂.latestRoundData sourceConfig.contract →
      (SameOutcome (validateOn config met responses₁ sourceConfig) (validateOn config met responses₂ sourceConfig) ↔
        ∀ decimals data, Accepts config met responses₁ sourceConfig contractType decimals data →
          (Spoiled config met responses₁ sourceConfig contractType decimals ↔
            Spoiled config met responses₂ sourceConfig contractType decimals))) := by
  constructor
  · intro onEvent events
    rw [sameOutcome_iff]
    intro out
    constructor
    · exact agree.validateOn_event typed onEvent events
    · exact agree.symm.validateOn_event typed onEvent fun address listened =>
        (events address (agree.listensTo.2 listened)).symm
  · intro periodic same
    rw [sameOutcome_iff]
    constructor
    · intro outcome decimals data accepts
      have accepts' := agree.accepts same accepts
      have first := accepts.unspoiled typed periodic accepts' fun out => (outcome out).1
      have second := accepts'.unspoiled typed periodic accepts fun out => (outcome out).2
      exact not_iff_not.1 ⟨first, second⟩
    · intro alike out
      constructor
      · exact agree.validateOn_period typed periodic same alike
      · refine agree.symm.validateOn_period typed periodic same.symm ?_
        intro decimals data accepts'
        exact (alike decimals data (agree.symm.accepts same.symm accepts')).symm

end

/-! ## An answer with 18 decimals -/

/-- The validation at noon of one day, which every package accepts. -/
def noonEnv : ValidationEnv where
  js := { plainJs with
    isoDate := fun ms =>
      if -62167219200000 ≤ ms ∧ ms < 253402300800000 then plainJs.isoDate ms else "+010000-01-01T00:00:00.000Z" }
  rejectEvent _ := none
  rejectData _ := none
  isDateString text := text.length = 24
  now := 1650024060000

/-- A proxy that answers 3000 with 18 decimals, and the past events of its aggregator. -/
def answering (latestRoundData : Except String RoundResult) (pastEvents : List PastEvent) : ChainResponses where
  decimals _ := .ok 18
  aggregator _ := .ok "0xAe74faA92cB67A95ebCAB07358bC222e33A34dA7"
  latestRoundData _ := latestRoundData
  pastEvents _ _ := .ok pastEvents

/-- Events that the look for events gets through spoil no periodic validation of the production defaults. -/
theorem answering_unspoiled {latestRoundData : Except String RoundResult} {pastEvents : List PastEvent}
    (found : (checkForContractEvent noonEnv.js noonEnv.rejectEvent "0xAe74faA92cB67A95ebCAB07358bC222e33A34dA7"
      none 18 (.ok pastEvents)).toOption.isSome = true) :
    ¬ Spoiled RelaydConfig.prod noonEnv (answering latestRoundData pastEvents)
      { contract := proxyAddress, poll := some .TIMEPERIOD } .CL_AGGR_PROX 18 := by
  obtain ⟨event, read⟩ := Option.isSome_iff_exists.1 found
  rintro ⟨aggregator, -, unreadable | ⟨full, -⟩⟩
  · exact checkForContractEvent_ok_iff.1 ⟨event, toOption_eq_some.1 read⟩ unreadable
  · cases full

/-- A source polled by events is validated alike, whatever its round data are, and a periodic one on these, whatever its
past events are that can be read. -/
theorem polled_answers_decide :
    SameOutcome
        (validateOn RelaydConfig.prod noonEnv
          (answering (.error "Error: call revert exception") [.answerUpdated 4200000000000 7 1650024000])
          { contract := proxyAddress })
        (validateOn RelaydConfig.prod noonEnv
          (answering (.ok ⟨7, 4200000000000, 1650024000⟩) [.answerUpdated 4200000000000 7 1650024000])
          { contract := proxyAddress }) ∧
      SameOutcome
        (validateOn RelaydConfig.prod noonEnv (answering (.ok ⟨7, 4200000000000, 1650024000⟩) [])
          { contract := proxyAddress, poll := some .TIMEPERIOD })
        (validateOn RelaydConfig.prod noonEnv
          (answering (.ok ⟨7, 4200000000000, 1650024000⟩) [.answerUpdated 4100000000000 6 1650020000])
          { contract := proxyAddress, poll := some .TIMEPERIOD }) := by
  constructor
  · exact (same_outcome_iff rfl ⟨rfl, rfl⟩).1 rfl fun _ _ => rfl
  · have typed : ({ contract := proxyAddress, poll := some .TIMEPERIOD } : FeedConfigSource).type = some .CL_AGGR_PROX := rfl
    refine ((same_outcome_iff typed ?_).2 rfl ?_).2 ?_
    · exact ⟨rfl, rfl⟩
    · rfl
    · intro decimals data accepts
      obtain rfl : 18 = decimals := Except.ok.inj accepts.loaded
      exact iff_of_false (answering_unspoiled (by decide +kernel)) (answering_unspoiled (by decide +kernel))

/-- A periodic source is accepted without past events, and rejected with one of its answer. -/
theorem past_event_rejects :
    ¬ SameOutcome
      (validateOn RelaydConfig.prod noonEnv (answering (.ok ⟨7, 3000000000000000000000, 1650024000⟩) [])
        { contract := proxyAddress, poll := some .TIMEPERIOD })
      (validateOn RelaydConfig.prod noonEnv (answering (.ok ⟨7, 3000000000000000000000, 1650024000⟩)
        [.answerUpdated 3000000000000000000000 7 1650024000]) { contract := proxyAddress, poll := some .TIMEPERIOD }) := by
  decide +kernel

end Relayd.EthClient
