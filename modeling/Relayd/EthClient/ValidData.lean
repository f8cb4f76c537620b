import Relayd.EthClient.Healthy
import Relayd.EthClient.Responses

/-!
# The data of a validated source

A source is declared `OK` on the data that its validation found. Round data are
checked as they are loaded, and the arguments of a past event are only converted:
the classes that constrain them are not those of the objects that are validated.
What is stored for a periodic source is valid data, then, but for a source polled by
events only if the latest one is sound. Without a polling mode the placeholder stays.
-/

namespace Relayd.EthClient
set_option autoImplicit false
open Relayd.Common Sys

/-- A time, in milliseconds, in a year that the ISO format writes with four digits. -/
def FourDigitYear (ms : Int) : Prop := -62167219200000 ≤ ms ∧ ms < 253402300800000

/-- An event with a positive answer, a round and a time. -/
def PastEvent.Sound (event : PastEvent) : Prop :=
  ∃ answer round updatedAt : Int, event.arg 0 = .ok (.big answer) ∧ event.arg 1 = .ok (.big round) ∧
    event.arg 2 = .ok (.big updatedAt) ∧ 0 < answer ∧ FourDigitYear (updatedAt * 1000)

/-- Data with a positive value, a date and a round. -/
structure FeedSourceData.WellFormed (met : ValidationEnv) (data : FeedSourceData) : Prop where
  value : ∃ value, data.value = some value ∧ 0 < value
  time : ∃ time, data.time = some time ∧ met.isDateString time = true
  round : ∃ round, data.round = some round

/-- The data have the same value, time and round. -/
structure FeedSourceData.SameValues (data read : FeedSourceData) : Prop where
  value : data.value = read.value
  time : data.time = read.time
  round : data.round = read.round

theorem FeedSourceData.SameValues.wellFormed {met : ValidationEnv} {data read : FeedSourceData}
    (same : FeedSourceData.SameValues data read) :
    FeedSourceData.WellFormed met data ↔ FeedSourceData.WellFormed met read := by
  constructor
  · rintro ⟨value, time, round⟩
    exact ⟨same.value ▸ value, same.time ▸ time, same.round ▸ round⟩
  · rintro ⟨value, time, round⟩
    exact ⟨same.value ▸ value, same.time ▸ time, same.round ▸ round⟩

theorem FeedSourceData.SameValues.trans {data found read : FeedSourceData} (first : FeedSourceData.SameValues data found)
    (second : FeedSourceData.SameValues found read) : FeedSourceData.SameValues data read :=
  ⟨first.value.trans second.value, first.time.trans second.time, first.round.trans second.round⟩

section
variable (config : RelaydConfig) (met : ValidationEnv) (responses : ChainResponses) (sourceConfig : FeedConfigSource)

/-- The latest past event of the contract to listen to. -/
def latestListened : Option PastEvent := do
  let contractType ← sourceConfig.type
  let address ← (listenedTo (responses.reads config met) sourceConfig contractType).toOption
  let events ← (responses.pastEvents address (eventName sourceConfig)).toOption
  latestEvent events

/-- The source is polled in a way that gives valid data: periodically, or by events of which the latest is sound. -/
def PolledSoundly : Prop :=
  match sourceConfig.poll with
  | some .TIMEPERIOD => True
  | some .EVENT => ∃ event ∈ latestListened config met responses sourceConfig, event.Sound
  | none => False

/-- What is read of the source or of its aggregator. -/
def ChainRead (read : FeedSourceData) : Prop :=
  ∃ address decimals, (address = sourceConfig.contract ∨ responses.aggregator sourceConfig.contract = .ok address) ∧
    responses.decimals sourceConfig.contract = .ok decimals ∧
    ((responses.reads config met).latestRoundData address decimals = .ok read ∨
      (responses.reads config met).contractEvent address (eventName sourceConfig) decimals = .ok (.ok read))

/-- The data come from a read of the chain, and are well formed. -/
structure ValidData (data : FeedSourceData) : Prop extends FeedSourceData.WellFormed met data where
  read : ∃ read, ChainRead config met responses sourceConfig read ∧ FeedSourceData.SameValues data read

/-- The conversions of what the source answers: a round is not read as `NaN`, and a price has the sign of its answer. -/
structure Convertible : Prop where
  round : ∀ result, responses.latestRoundData sourceConfig.contract = .ok result →
    ∃ number, met.js.number (toString result.roundId) = some number
  price : ∀ address events event answer decimals text,
    responses.pastEvents address (eventName sourceConfig) = .ok events → event ∈ events →
    event.arg 0 = .ok (.big answer) → responses.decimals sourceConfig.contract = .ok decimals →
    met.js.formatUnits (.number (some (answer : Rat))) decimals = .ok text →
    ∃ price, met.js.number text = some price ∧ (0 < price ↔ 0 < answer)

end

/-- What the language and the packages say of dates, and of units that are undefined. -/
structure ValidationEnv.Documented (met : ValidationEnv) : Prop where
  formatUnits : ∀ decimals, ∃ error, met.js.formatUnits .undefined decimals = .error error
  nearest : ∀ ms : Int, ms.natAbs ≤ 8640000000000000 → met.js.nearest ms = ms
  nearest_large : ∀ ms : Int, 8640000000000000 < ms.natAbs → 8640000000000000 < |met.js.nearest ms|
  isDateString : ∀ ms : Int, ms.natAbs ≤ 8640000000000000 →
    (met.isDateString (met.js.isoDate ms) = true ↔ FourDigitYear ms)

/-! ## A decoded event -/

section
variable {met : ValidationEnv} (documented : met.Documented)
include documented

/-- A price that is converted is formatted. -/
theorem ValidationEnv.Documented.price {decimals : Nat} (positive : 0 < decimals) {answer value price : JsValue}
    (number : optionalToNumber answer = .ok value)
    (converted : met.js.convertValue value .PRICE { decimals := some decimals } = .ok price) :
    ∃ (n : Int) (text : String), answer = .big n ∧ met.js.formatUnits (.number (some (n : Rat))) decimals = .ok text ∧
      price = .number (met.js.number text) := by
  cases formatted : met.js.formatUnits value decimals with
  | error error =>
    have given : (some decimals).filter (fun decimals => decide (0 < decimals)) = some decimals :=
      Option.filter_eq_some_iff.2 ⟨rfl, decide_eq_true positive⟩
    simp only [Js.convertValue, given, formatted, Except.map, bind, Except.bind, reduceCtorEq] at converted
  | ok text =>
    cases (Js.convertValue_price positive formatted).symm.trans converted
    rcases optionalToNumber_ok number with ⟨rfl, rfl⟩ | ⟨n, -, rfl, rfl⟩
    · obtain ⟨error, failed⟩ := documented.formatUnits decimals
      cases failed.symm.trans formatted
    · exact ⟨n, text, rfl, formatted, rfl⟩

/-- A time that is converted is in the range of dates. -/
theorem ValidationEnv.Documented.date {updatedAt value time : JsValue} (number : optionalToNumber updatedAt = .ok value)
    (converted : met.js.convertValue value .DATE {} = .ok time) :
    ∃ n : Int, updatedAt = .big n ∧ (n * 1000).natAbs ≤ 8640000000000000 ∧ time = .text (met.js.isoDate (n * 1000)) := by
  rcases optionalToNumber_ok number with ⟨rfl, rfl⟩ | ⟨n, -, rfl, rfl⟩
  · simp only [Js.convertValue, Js.toNumeric, Option.map_none, Option.getD_none, Js.dateOf, Option.filter_none,
      reduceCtorEq] at converted
  · have product : ((n : Rat) * 1000) = ((n * 1000 : Int) : Rat) := by push_cast; rfl
    simp only [Js.convertValue, Js.toNumeric, Option.map_some, product, Option.getD_none] at converted
    by_cases isDate : (n * 1000).natAbs ≤ 8640000000000000
    · rw [documented.nearest _ isDate, Js.dateOf_int isDate] at converted
      cases converted
      exact ⟨n, rfl, isDate, rfl⟩
    · have large := documented.nearest_large _ (not_le.1 isDate)
      have none : Js.dateOf (some (met.js.nearest ((n * 1000 : Int) : Rat))) = none := by
        rw [Js.dateOf, Option.filter_some, if_neg (by simpa using large), Option.map_none]
      rw [none] at converted
      cases converted

/-- What an event is decoded to. -/
theorem ValidationEnv.Documented.decoded {decimals : Nat} (positive : 0 < decimals) {event : PastEvent}
    {decoded : ContractEvent} (converted : convertEventAnswerUpdated met.js event decimals = .ok decoded) :
    ∃ (answer updatedAt : Int) (text : String), event.arg 0 = .ok (.big answer) ∧
      met.js.formatUnits (.number (some (answer : Rat))) decimals = .ok text ∧ event.round = .ok decoded.round ∧
      event.arg 2 = .ok (.big updatedAt) ∧ (updatedAt * 1000).natAbs ≤ 8640000000000000 ∧
      decoded.current = .number (met.js.number text) ∧ decoded.updatedAt = .text (met.js.isoDate (updatedAt * 1000)) := by
  simp only [convertEventAnswerUpdated, bind_eq_ok, Except.ok.injEq] at converted
  obtain ⟨arg, isArg, value, number, price, converted, round, read, arg', isArg', value', number', time, converted', rfl⟩ :=
    converted
  obtain ⟨answer, text, rfl, formatted, rfl⟩ := documented.price positive number converted
  obtain ⟨updatedAt, rfl, isDate, rfl⟩ := documented.date number' converted'
  exact ⟨answer, updatedAt, text, isArg, formatted, read, isArg', isDate, rfl, rfl⟩

end

section
variable {config : RelaydConfig} {met : ValidationEnv} {responses : ChainResponses} {sourceConfig : FeedConfigSource}

/-- The values of an event that was found are valid exactly when it is sound. -/
theorem found_valid_iff (documented : met.Documented) (convertible : Convertible met responses sourceConfig)
    {address : String} {decimals : Nat} {events : List PastEvent} {event : PastEvent} {decoded : ContractEvent}
    (known : responses.decimals sourceConfig.contract = .ok decimals) (positive : 0 < decimals)
    (loaded : responses.pastEvents address (eventName sourceConfig) = .ok events) (member : event ∈ events)
    (converted : convertEventAnswerUpdated met.js event decimals = .ok decoded) {data : FeedSourceData}
    (found : data = SourceValues.data { value := decoded.current, time := decoded.updatedAt, round := decoded.round }) :
    FeedSourceData.WellFormed met data ↔ event.Sound := by
  obtain ⟨answer, updatedAt, text, isAnswer, formatted, round, isTime, isDate, current, time⟩ :=
    documented.decoded positive converted
  obtain ⟨price, isPrice, sign⟩ :=
    convertible.price address events event answer decimals text loaded member isAnswer known formatted
  have value : data.value = some price := by
    rw [found, SourceValues.data, current, isPrice]
  have dated : data.time = some (met.js.isoDate (updatedAt * 1000)) := by
    rw [found, SourceValues.data, time]
  have numbered : (∃ round, data.round = some round) ↔ ∃ n : Int, event.arg 1 = .ok (.big n) := by
    rcases PastEvent.round_cases round with ⟨arg, undefined⟩ | ⟨n, arg, small⟩
    · simp [found, SourceValues.data, undefined, arg]
    · have same := (PastEvent.Numbered.round arg small).symm.trans round
      simp only [Except.ok.injEq] at same
      simp [found, SourceValues.data, ← same, arg]
  constructor
  · rintro ⟨⟨value', isValue, positive⟩, ⟨time', isTime', dateString⟩, isNumbered⟩
    cases value.symm.trans isValue
    cases dated.symm.trans isTime'
    obtain ⟨n, arg⟩ := numbered.1 isNumbered
    exact ⟨answer, n, updatedAt, isAnswer, arg, isTime, sign.1 positive, (documented.isDateString _ isDate).1 dateString⟩
  · rintro ⟨answer', n, updatedAt', isAnswer', arg, isTime', positive, year⟩
    cases isAnswer.symm.trans isAnswer'
    cases isTime.symm.trans isTime'
    exact ⟨⟨price, value, sign.2 positive⟩, ⟨_, dated, (documented.isDateString _ isDate).2 year⟩, numbered.2 ⟨n, arg⟩⟩

/-! ## What is stored -/

/-- What a validation accepts has a type. -/
theorem typed_of_validated {reads : ContractReads} {rejectData : FeedSourceData → Option String} {found : FeedSourceData}
    (validated : validateSourceContract config reads rejectData sourceConfig = .ok found) :
    ∃ contractType, sourceConfig.type = some contractType := by
  unfold validateSourceContract at validated
  split at validated
  · cases validated
  · cases typed : sourceConfig.type with
    | none =>
      rw [typed] at validated
      cases validated
    | some contractType => exact ⟨contractType, rfl⟩

theorem decimals_loaded {reads : ContractReads} {address : String} {decimals : Nat}
    (loaded : loadContractDecimals reads address = .ok decimals) : reads.decimals address = .ok decimals ∧ 0 < decimals := by
  simp only [loadContractDecimals, rethrow_eq_ok, bind_eq_ok] at loaded
  obtain ⟨decimals', read, checked⟩ := loaded
  split at checked
  · cases checked
    exact ⟨read, ‹_›⟩
  · cases checked

/-- The round that is loaded of a contract is the number of its text. -/
theorem convertRoundData_round {js : Js} {result : RoundResult} {convertOpts : ConversionConfig} {values : SourceValues}
    (plain : convertOpts.commify = false)
    (converted : convertRoundData js result convertOpts = .ok values) :
    values.round = .number (js.number (toString result.roundId)) := by
  simp only [convertRoundData, bind_eq_ok, Except.ok.injEq] at converted
  obtain ⟨lastValue, -, lastValueTime, -, lastValueRound, round, rfl⟩ := converted
  simp only [Js.convertValue, plain, Bool.false_eq_true, ↓reduceIte, Js.divided, Js.toNumeric, Except.ok.injEq] at round
  exact round.symm

/-- The round data that a validation accepts are well formed. -/
theorem roundData_wellFormed (convertible : Convertible met responses sourceConfig) {decimals : Nat} {data : FeedSourceData}
    (read : (responses.reads config met).latestRoundData sourceConfig.contract decimals = .ok data) :
    FeedSourceData.WellFormed met data := by
  obtain ⟨values, loaded, rfl⟩ := map_eq_ok.1 read
  obtain ⟨result, answered, converted, positive, dated⟩ := loadContractLatestRoundData_ok loaded
  obtain ⟨number, isNumber⟩ := convertible.round result answered
  have round := (convertRoundData_round rfl converted).trans (congrArg JsValue.number isNumber)
  obtain ⟨value, time, round'⟩ := values
  subst round
  refine ⟨?_, ?_, _, rfl⟩
  · match value with
    | .number (some n) => exact ⟨n, rfl, of_decide_eq_true positive⟩
    | .number none | .undefined | .text _ | .big _ => cases positive
  · match time with
    | .text time => exact ⟨time, rfl, dated⟩
    | .number _ | .undefined | .big _ => cases dated

/-- What a validation of a periodic source resolves with. -/
theorem validated_period (convertible : Convertible met responses sourceConfig)
    (periodic : sourceConfig.poll = some .TIMEPERIOD) {rejectData : FeedSourceData → Option String} {found : FeedSourceData}
    (validated : validateSourceContract config (responses.reads config met) rejectData sourceConfig = .ok found) :
    ∃ read, ChainRead config met responses sourceConfig read ∧ FeedSourceData.SameValues found read ∧
      FeedSourceData.WellFormed met read := by
  obtain ⟨contractType, typed⟩ := typed_of_validated validated
  obtain ⟨-, -, decimals, loaded, ⟨read, isRead, rfl⟩, -⟩ :=
    (validate_period_iff periodic responses.reads_path typed).1 validated
  exact ⟨read, ⟨_, decimals, Or.inl rfl, (decimals_loaded loaded).1, Or.inl isRead⟩, ⟨rfl, rfl, rfl⟩,
    roundData_wellFormed convertible isRead⟩

/-- The contract to listen to is the source or its aggregator. -/
theorem listenedTo_contract {contractType : EFeedSourceType} {address : String}
    (listened : listenedTo (responses.reads config met) sourceConfig contractType = .ok address) :
    address = sourceConfig.contract ∨ responses.aggregator sourceConfig.contract = .ok address := by
  cases contractType with
  | CL_AGGR =>
    cases listened
    exact Or.inl rfl
  | CL_AGGR_PROX => exact Or.inr (aggregator_loaded listened)

/-- What was found of the events of a contract is decoded from the latest one. -/
theorem contractEvent_found {address : String} {eventName : Option String} {decimals : Nat} {read : FeedSourceData}
    (found : (responses.reads config met).contractEvent address eventName decimals = .ok (.ok read)) :
    ∃ events latest decoded, responses.pastEvents address eventName = .ok events ∧ latestEvent events = some latest ∧
      convertEventAnswerUpdated met.js latest decimals = .ok decoded ∧
      read = SourceValues.data { value := decoded.current, time := decoded.updatedAt, round := decoded.round } := by
  obtain ⟨outcome, checked, mapped⟩ := map_eq_ok.1 found
  obtain ⟨values, rfl, rfl⟩ := map_eq_ok.1 mapped
  cases loaded : responses.pastEvents address eventName with
  | error error =>
    rw [loaded] at checked
    cases checked
  | ok events =>
    rw [loaded] at checked
    cases events with
    | nil => cases checked
    | cons event events =>
      obtain ⟨values', last, same⟩ := map_eq_ok.1 checked
      cases same
      obtain ⟨-, latest, decoded, isLatest, converted, -, rfl⟩ := lastEventData_iff.1 last
      exact ⟨_, latest, decoded, rfl, isLatest, converted, rfl⟩

/-- What a validation of a source polled by events resolves with. -/
theorem validated_event (documented : met.Documented) (convertible : Convertible met responses sourceConfig)
    (onEvent : sourceConfig.poll = some .EVENT) {rejectData : FeedSourceData → Option String} {found : FeedSourceData}
    (validated : validateSourceContract config (responses.reads config met) rejectData sourceConfig = .ok found) :
    ∃ read event, ChainRead config met responses sourceConfig read ∧ FeedSourceData.SameValues found read ∧
      latestListened config met responses sourceConfig = some event ∧ (FeedSourceData.WellFormed met read ↔ event.Sound) := by
  obtain ⟨contractType, typed⟩ := typed_of_validated validated
  obtain ⟨-, -, decimals, loaded, address, read, listened, isRead, rfl⟩ := (validate_event_iff typed onEvent).1 validated
  obtain ⟨known, positive⟩ := decimals_loaded loaded
  obtain ⟨events, latest, decoded, answered, isLatest, converted, same⟩ := contractEvent_found isRead
  refine ⟨read, latest, ⟨address, decimals, listenedTo_contract listened, known, Or.inr isRead⟩, ⟨rfl, rfl, rfl⟩, ?_, ?_⟩
  · simp only [latestListened, typed, listened, answered, isLatest, Except.toOption, bind, Option.bind_some]
  · exact found_valid_iff documented convertible known positive answered (List.argmax_mem isLatest) converted same

/-- The data that are stored with status `OK` are those the validation resolved with. -/
theorem stored_data {client : Client} {env : Env} {feedId : String} {s : EthConnectService} {upd : FeedConfigSource}
    (initial : sourceConfig.status = some .INI)
    (resolved : (handleSourceContract config client env sourceConfig feedId s).value = .ok (some upd))
    (ok : upd.status = some .OK) :
    ∃ found data, validateSourceContract config env.reads env.rejectData sourceConfig = .ok found ∧ upd.data = some data ∧
      data.value = found.value ∧ data.time = found.time ∧ (sourceConfig.poll ≠ none → data.round = found.round) := by
  simp only [handleSourceContract, initial] at resolved
  cases outcome : validateSourceContract config env.reads env.rejectData sourceConfig with
  | error error =>
    obtain ⟨error', failed⟩ := validateSource_unchecked client feedId outcome s
    rw [failed] at resolved
    cases resolved
  | ok found =>
    have validated := (validateSource_checked client feedId outcome s).2 upd resolved
    unfold sourceValidated at validated
    split at validated
    · cases validated
      cases ok
    · cases validated
      refine ⟨found, _, rfl, rfl, ?_⟩
      cases sourceConfig.data with
      | none => exact ⟨rfl, rfl, fun _ => rfl⟩
      | some data => exact ⟨rfl, rfl, fun polled => if_neg polled⟩
    · cases validated

/-- **A source is declared `OK` on valid data** exactly when it is polled soundly: a periodic one always, one polled by
events when the latest is sound, and one without a polling mode never. -/
theorem declared_valid_iff (documented : met.Documented) (convertible : Convertible met responses sourceConfig)
    (client : Client) (env : Env) (feedId : String) (s : EthConnectService) (upd : FeedConfigSource)
    (initial : sourceConfig.status = some .INI)
    (resolved : (handleSourceContract config client { env with reads := responses.reads config met } sourceConfig feedId
      s).value = .ok (some upd))
    (ok : upd.status = some .OK) :
    (∃ data, upd.data = some data ∧ ValidData config met responses sourceConfig data) ↔
      PolledSoundly config met responses sourceConfig := by
  obtain ⟨found, data, validated, stored, value, time, round⟩ := stored_data initial resolved ok
  rw [stored]
  simp only [Option.some.injEq, exists_eq_left', PolledSoundly]
  match polled : sourceConfig.poll with
  | some .TIMEPERIOD =>
    have same : FeedSourceData.SameValues data found := ⟨value, time, round (by rw [polled]; rintro ⟨⟩)⟩
    obtain ⟨read, isRead, same', wellFormed⟩ := validated_period convertible polled validated
    have stored := same.trans same'
    exact iff_of_true ⟨stored.wellFormed.2 wellFormed, read, isRead, stored⟩ True.intro
  | some .EVENT =>
    have same : FeedSourceData.SameValues data found := ⟨value, time, round (by rw [polled]; rintro ⟨⟩)⟩
    obtain ⟨read, event, isRead, same', isLatest, sound⟩ := validated_event documented convertible polled validated
    have stored := same.trans same'
    constructor
    · intro valid
      exact ⟨event, isLatest, sound.1 (stored.wellFormed.1 valid.toWellFormed)⟩
    · rintro ⟨event', isLatest', isSound⟩
      cases isLatest.symm.trans isLatest'
      exact ⟨stored.wellFormed.2 (sound.2 isSound), read, isRead, stored⟩
  | none =>
    obtain ⟨contractType, typed⟩ := typed_of_validated validated
    have same := validate_unpolled typed polled validated
    refine iff_of_false ?_ id
    intro valid
    obtain ⟨price, isPrice, positive⟩ := valid.value
    -- the placeholder's value
    rw [value, same] at isPrice
    cases isPrice
    exact absurd positive (by decide)

end

/-! ## An answer of 0 -/

theorem noonEnv_documented : noonEnv.Documented where
  formatUnits _ := ⟨_, rfl⟩
  nearest _ _ := rfl
  nearest_large ms large := by
    have isLarge : (8640000000000000 : Rat) < ((ms.natAbs : Nat) : Rat) := by exact_mod_cast large
    rw [Nat.cast_natAbs, Int.cast_abs] at isLarge
    exact isLarge
  isDateString ms _ := by
    have noon : (plainJs.isoDate ms).length = 24 := by
      change "2022-04-15T12:00:00.000Z".length = 24
      decide
    simp only [noonEnv, decide_eq_true_eq, FourDigitYear]
    split
    · exact iff_of_true noon ‹_›
    · exact iff_of_false (by decide) ‹_›

/-- A proxy in status `INI`, whose aggregator had one event of this answer. -/
def answeredWith (answer : Int) : ChainResponses :=
  answering (.error "Error: call revert exception") [.answerUpdated answer 7 1650024000]

/-- The source as its validation declares it. -/
def declared (poll : Option EFeedSourcePoll) (value : Rat) (time : String) (round : Option Int) : FeedConfigSource :=
  { contract := proxyAddress, poll := poll, status := some .OK,
    data := some { value := some value, time := some time, round := round } }

/-- The source is declared `OK` on an event with a positive answer. -/
theorem positive_declared : ∃ data,
    (declared (some .EVENT) (21 / 5000000) "2022-04-15T12:00:00.000Z" (some 7)).data = some data ∧
      ValidData RelaydConfig.prod noonEnv (answeredWith 4200000000000) { contract := proxyAddress } data :=
  (declared_valid_iff noonEnv_documented
    { round := by
        intro result answered
        cases answered
      price := by
        intro address events event answer decimals text loaded member isAnswer known formatted
        cases loaded
        cases List.mem_singleton.1 member
        cases isAnswer
        cases known
        cases formatted
        exact ⟨21 / 5000000, by decide +kernel, by decide +kernel⟩ }
    mainClient healthyEnv "btc-usd" {} _ rfl (by decide +kernel) rfl).2
    ⟨.answerUpdated 4200000000000 7 1650024000, rfl, 4200000000000, 7, 1650024000, rfl, rfl, rfl, by decide, by decide,
      by decide⟩

/-- On an answer of 0 the source is declared `OK` all the same; and without a polling mode, on the placeholder. -/
theorem zero_declared :
    (handleSourceContract RelaydConfig.prod mainClient
        { healthyEnv with reads := (answeredWith 0).reads RelaydConfig.prod noonEnv } { contract := proxyAddress } "btc-usd"
        {}).value = .ok (some (declared (some .EVENT) 0 "2022-04-15T12:00:00.000Z" (some 7))) ∧
      (¬ ∃ data, (declared (some .EVENT) 0 "2022-04-15T12:00:00.000Z" (some 7)).data = some data ∧
        ValidData RelaydConfig.prod noonEnv (answeredWith 0) { contract := proxyAddress } data) ∧
      (handleSourceContract RelaydConfig.prod mainClient
        { healthyEnv with reads := (answeredWith 0).reads RelaydConfig.prod noonEnv }
        { contract := proxyAddress, poll := none } "btc-usd" {}).value = .ok (some (declared none (-1) "" none)) ∧
      ¬ ∃ data, (declared none (-1) "" none).data = some data ∧
        ValidData RelaydConfig.prod noonEnv (answeredWith 0) { contract := proxyAddress, poll := none } data := by
  refine ⟨by decide +kernel, ?_, by decide +kernel, ?_⟩
  · rintro ⟨data, ⟨⟩, valid⟩
    obtain ⟨value, ⟨⟩, positive⟩ := valid.value
    exact absurd positive (by decide)
  · rintro ⟨data, ⟨⟩, valid⟩
    obtain ⟨value, ⟨⟩, positive⟩ := valid.value
    exact absurd positive (by decide)

end Relayd.EthClient
