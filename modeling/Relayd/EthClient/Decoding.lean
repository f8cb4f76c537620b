import Relayd.Common.Conversion
import Relayd.EthClient.Chain

/-!
# The decoders of an answer

An answer of a contract reaches the service on three ways: the poll reads it with
`latestRoundData`, a listener is given it with the event `AnswerUpdated`, and the
validation of a source looks for that event in the last blocks. Each way has its
own conversions, and they agree on small answers and rounds only; the round that a
listener passes on is never a number.
-/

namespace Relayd.EthClient
set_option autoImplicit false
open Relayd.Common

/-- Source data as a decoder builds them, of whatever types. -/
structure SourceValues where
  value : JsValue
  time : JsValue
  round : JsValue
  deriving DecidableEq

/-- What is read of the result of `latestRoundData`. -/
structure RoundResult where
  roundId : Int
  answer : Int
  updatedAt : Int

/-- A past event. Its arguments are decoded when the ABI knows the event. -/
structure PastEvent where
  args : Option (List JsValue)

/-- `event.args[n]` -/
def PastEvent.arg (event : PastEvent) (n : Nat) : Except String JsValue :=
  match event.args with
  | none => .error ("TypeError: Cannot read property '" ++ toString n ++ "' of undefined")
  | some args => .ok (args[n]?.getD .undefined)

/-- `event.args[1]?.toNumber()` -/
def PastEvent.round (event : PastEvent) : Except String JsValue := do
  optionalToNumber (← event.arg 1)

/-- The event `AnswerUpdated`. -/
def PastEvent.answerUpdated (current roundId updatedAt : Int) : PastEvent where
  args := some [.big current, .big roundId, .big updatedAt]

/-- An event as `convertEventAnswerUpdated` gives it. -/
structure ContractEvent where
  current : JsValue
  round : JsValue
  updatedAt : JsValue

section
variable (js : Js)

/-! ## The poll -/

/-- The conversions of `loadContractLatestRoundData`. -/
def convertRoundData (result : RoundResult) (convertOpts : ConversionConfig) : Except String SourceValues := do
  let lastValue ← js.convertValue (.big result.answer) .PRICE convertOpts
  let lastValueTime ← js.convertValue (.big result.updatedAt) .DATE convertOpts
  let lastValueRound ← js.convertValue (.text (toString result.roundId)) .NUMBER convertOpts
  .ok { value := lastValue, time := lastValueTime, round := lastValueRound }

/-- `isPositive` of the validation package. -/
def isPositive : JsValue → Bool
  | .number (some n) => 0 < n
  | _ => false

/-- `isDateString` of the validation package. -/
def isDate (isDateString : String → Bool) : JsValue → Bool
  | .text time => isDateString time
  | _ => false

/-- Load the latest round data of a contract. `now` is the time, in milliseconds. -/
def loadContractLatestRoundData (config : RelaydConfig) (isDateString : String → Bool) (now : Int) (address : String)
    (latestRoundData : Except String RoundResult) (convertOpts : ConversionConfig) (validate : Bool) :
    Except String SourceValues :=
  rethrow ("Failed to fetch latestRoundData for '" ++ address ++ "' \n") do
    let result ← latestRoundData
    let values ← convertRoundData js result convertOpts
    let invalid := fun field value raw => errorText ("Invalid value for field '" ++ field ++ "' from source '" ++ address
      ++ "' latestRoundData: " ++ js.render value ++ " / " ++ js.render (.big raw))
    let dateLastUpdate := match values.time with
      | .text time => js.parseDate time
      | _ => none
    if validate && !isPositive values.value then
      .error (invalid "answer" values.value result.answer)
    else if validate && !isDate isDateString values.time then
      .error (invalid "updatedAt" values.time result.updatedAt)
    else if validate && dateLastUpdate.any fun date =>
        date < now - config.sourceDataLastUpdateMaxDays * 24 * 60 * 60 * 1000 then
      .error (errorText ("Last data update is older than " ++ toString config.sourceDataLastUpdateMaxDays ++ " days: "
        ++ js.render values.time ++ ". Source considered as stall"))
    else
      .ok values

/-! ## The listener -/

/-- What a listener casts of the arguments of an event. -/
def convertListenedEvent (current roundId updatedAt : JsValue) (nbDecimals : Nat) : Except String SourceValues := do
  let value ← js.convertValue current .PRICE { decimals := some nbDecimals }
  let time ← js.convertValue updatedAt .DATE {}
  .ok { value := value, time := time, round := roundId }

/-! ## The past events -/

def convertEventAnswerUpdated (event : PastEvent) (decimals : Nat) : Except String ContractEvent := do
  let current ← js.convertValue (← optionalToNumber (← event.arg 0)) .PRICE { decimals := some decimals }
  let round ← event.round
  let updatedAt ← js.convertValue (← optionalToNumber (← event.arg 2)) .DATE {}
  .ok { current := current, round := round, updatedAt := updatedAt }

/-- `round > latestRound` -/
def greater : JsValue → JsValue → Bool
  | .number (some round), .number (some latestRound) => latestRound < round
  | _, _ => false

/-- One round of the loop over the past events. -/
def laterEvent (latestEvent : Option PastEvent) (event : PastEvent) : Except String (Option PastEvent) := do
  let round ← event.round
  match latestEvent with
  | none => .ok (some event)
  | some latest =>
    let latestRound ← toNumber (← latest.arg 1)
    .ok (some (if greater round latestRound then event else latest))

/-- The data of the last of the events that were loaded. -/
def lastEventData (rejectEvent : ContractEvent → Option String) (events : List PastEvent) (decimals : Nat) :
    Except String SourceValues := do
  let latestEvent ← events.foldlM laterEvent none
  match latestEvent with
  | none => .error "TypeError: Cannot read property 'args' of undefined"
  | some latestEvent =>
    let eventAnswerUpdated ← convertEventAnswerUpdated js latestEvent decimals
    match rejectEvent eventAnswerUpdated with
    | some error => .error error
    | none =>
      .ok { value := eventAnswerUpdated.current, time := eventAnswerUpdated.updatedAt, round := eventAnswerUpdated.round }

/-- Look for events in the last blocks. An error met in loading them is returned, one met in decoding them thrown. -/
def checkForContractEvent (rejectEvent : ContractEvent → Option String) (address : String) (eventName : Option String)
    (decimals : Nat) (loaded : Except String (List PastEvent)) : Except String (Except String SourceValues) :=
  match loaded with
  | .error error => .ok (.error (errorText ("Failed to load events for '" ++ address ++ "' \n" ++ error)))
  | .ok [] =>
    .ok (.error (errorText ("No events '" ++ eventName.getD "undefined" ++ "' found for '" ++ address
      ++ "' over last blocks")))
  | .ok events => (lastEventData js rejectEvent events decimals).map .ok

end

/-! ## Where the decoders agree -/

section
variable {js : Js} {decimals : Nat} {answer roundId updatedAt : Int}

theorem answerUpdated_arg_0 : (PastEvent.answerUpdated answer roundId updatedAt).arg 0 = .ok (.big answer) := rfl
theorem answerUpdated_arg_2 : (PastEvent.answerUpdated answer roundId updatedAt).arg 2 = .ok (.big updatedAt) := rfl
theorem answerUpdated_round :
    (PastEvent.answerUpdated answer roundId updatedAt).round = toNumber (.big roundId) := rfl

theorem toNumber_small {n : Int} (small : n.natAbs < 2 ^ 53) : toNumber (.big n) = .ok (.number (some n)) := by
  rw [toNumber, if_pos small]

theorem toNumber_large {n : Int} (large : ¬ n.natAbs < 2 ^ 53) : ∃ error, toNumber (.big n) = .error error := by
  rw [toNumber, if_neg large]
  exact ⟨_, rfl⟩

/-- An optional integer is converted to a number if it is safe as one. -/
theorem optionalToNumber_ok {value number : JsValue} (converted : optionalToNumber value = .ok number) :
    (value = .undefined ∧ number = .undefined) ∨
      ∃ n : Int, n.natAbs < 2 ^ 53 ∧ value = .big n ∧ number = .number (some n) := by
  cases value with
  | undefined =>
    cases converted
    exact Or.inl ⟨rfl, rfl⟩
  | number n => cases converted
  | text s => cases converted
  | big n =>
    by_cases small : n.natAbs < 2 ^ 53
    · cases (toNumber_small small).symm.trans converted
      exact Or.inr ⟨n, small, rfl, rfl⟩
    · obtain ⟨error, overflow⟩ := toNumber_large small
      cases overflow.symm.trans converted

/-- The integers that a decoder converts are converted exactly, and the time is a date. -/
structure Decodable (js : Js) (decimals : Nat) (answer roundId updatedAt : Int) : Prop where
  answer : js.Exact decimals answer
  roundId : js.Exact decimals roundId
  seconds : js.Exact decimals updatedAt
  milliseconds : js.Exact decimals (updatedAt * 1000)
  date : updatedAt.natAbs ≤ 8640000000000

/-- The time of an answer, as every decoder gives it. -/
theorem Decodable.time (decodable : Decodable js decimals answer roundId updatedAt) {value : JsValue}
    (given : value = .big updatedAt ∨ value = .number (some updatedAt)) {converter : ConversionConfig}
    (iso : converter.date = none) :
    js.convertValue value .DATE converter = .ok (.text (js.isoDate (updatedAt * 1000))) := by
  have safe : updatedAt.natAbs < 2 ^ 53 := by
    have := decodable.date
    omega
  refine js.convertValue_date ?_ decodable.milliseconds decodable.date iso
  rcases given with rfl | rfl
  · exact decodable.seconds.number safe
  · rfl

section
variable (decodable : Decodable js decimals answer roundId updatedAt) (positive : 0 < decimals) {price : String}
  (formatted : js.formatUnits (.big answer) decimals = .ok price)
include decodable positive formatted

theorem convertListenedEvent_eq : convertListenedEvent js (.big answer) (.big roundId) (.big updatedAt) decimals =
    .ok { value := .number (js.number price), time := .text (js.isoDate (updatedAt * 1000)), round := .big roundId } := by
  simp only [convertListenedEvent, js.convertValue_price positive formatted, decodable.time (Or.inl rfl), bind, Except.bind]

theorem convertRoundData_eq :
    convertRoundData js { roundId := roundId, answer := answer, updatedAt := updatedAt } { decimals := some decimals } =
      .ok { value := .number (js.number price), time := .text (js.isoDate (updatedAt * 1000)),
            round := .number (js.number (toString roundId)) } := by
  simp only [convertRoundData, js.convertValue_price positive formatted, decodable.time (Or.inl rfl),
    js.convertValue_number, bind, Except.bind]

/-- The past event of a small answer and round. -/
theorem convertEventAnswerUpdated_small (small : answer.natAbs < 2 ^ 53 - 1) (smallRound : roundId.natAbs < 2 ^ 53) :
    convertEventAnswerUpdated js (.answerUpdated answer roundId updatedAt) decimals =
      .ok { current := .number (js.number price), round := .number (some roundId),
            updatedAt := .text (js.isoDate (updatedAt * 1000)) } := by
  have safe : updatedAt.natAbs < 2 ^ 53 := by
    have := decodable.date
    omega
  have number : answer.natAbs < 2 ^ 53 := by omega
  obtain ⟨text, exact, small', -⟩ := decodable.answer.formatUnits
  cases formatted.symm.trans exact
  simp only [convertEventAnswerUpdated, answerUpdated_arg_0, answerUpdated_round, answerUpdated_arg_2, optionalToNumber,
    toNumber_small number, toNumber_small smallRound, toNumber_small safe, bind, Except.bind,
    js.convertValue_price positive (small' small), decodable.time (Or.inr rfl)]

omit formatted in
/-- The past event of an answer or a round that is too large: for a number, or for the price of one. -/
theorem convertEventAnswerUpdated_large (large : ¬ (answer.natAbs < 2 ^ 53 - 1 ∧ roundId.natAbs < 2 ^ 53)) :
    ∃ error, convertEventAnswerUpdated js (.answerUpdated answer roundId updatedAt) decimals = .error error := by
  by_cases small : answer.natAbs < 2 ^ 53
  · by_cases smallRound : roundId.natAbs < 2 ^ 53
    · -- the largest safe answer is a number, of which there is no price
      obtain ⟨error, refused⟩ := decodable.answer.overflow (by omega)
      refine ⟨error, ?_⟩
      simp only [convertEventAnswerUpdated, answerUpdated_arg_0, optionalToNumber, toNumber_small small, bind, Except.bind,
        js.convertValue_price_error positive refused]
    · obtain ⟨error, overflow⟩ := toNumber_large smallRound
      simp only [convertEventAnswerUpdated, answerUpdated_arg_0, answerUpdated_round, optionalToNumber,
        toNumber_small small, overflow, bind, Except.bind]
      split
      · exact ⟨_, rfl⟩
      · exact ⟨_, rfl⟩
  · obtain ⟨error, overflow⟩ := toNumber_large small
    refine ⟨error, ?_⟩
    simp only [convertEventAnswerUpdated, answerUpdated_arg_0, optionalToNumber, overflow, bind, Except.bind]

end

variable {config : RelaydConfig} {rejectEvent : ContractEvent → Option String} {isDateString : String → Bool} {now : Int}
  {address : String} {eventName : Option String}

/-- The first event is the latest, if its round can be read. -/
theorem laterEvent_first (event : PastEvent) : laterEvent none event = event.round.map fun _ => some event := by
  rw [laterEvent]
  cases event.round <;> rfl

/-- A single past event that is decoded. -/
theorem lastEventData_single {event : PastEvent} {decoded : ContractEvent} {round : JsValue}
    (hasRound : event.round = .ok round) (converted : convertEventAnswerUpdated js event decimals = .ok decoded)
    (accepts : ∀ event, rejectEvent event = none) :
    lastEventData js rejectEvent [event] decimals =
      .ok { value := decoded.current, time := decoded.updatedAt, round := decoded.round } := by
  simp only [lastEventData, List.foldlM_cons, List.foldlM_nil, laterEvent_first, hasRound, converted, accepts, Except.map,
    bind, Except.bind, pure, Except.pure]

/-- What is found of a single past event is decoded from it. -/
theorem convertEventAnswerUpdated_found {event : PastEvent} {values : SourceValues}
    (found : lastEventData js rejectEvent [event] decimals = .ok values) :
    ∃ decoded, convertEventAnswerUpdated js event decimals = .ok decoded := by
  simp only [lastEventData, List.foldlM_cons, List.foldlM_nil, laterEvent_first, bind_eq_ok, map_eq_ok] at found
  obtain ⟨_, ⟨_, ⟨round, -, rfl⟩, ⟨⟩⟩, found⟩ := found
  rw [bind_eq_ok] at found
  obtain ⟨decoded, converted, -⟩ := found
  exact ⟨decoded, converted⟩

/-- The decoders of an answer resolve with the same value and time, and with these rounds. -/
def DecodeAs (js : Js) (config : RelaydConfig) (rejectEvent : ContractEvent → Option String) (isDateString : String → Bool)
    (now : Int) (address : String) (eventName : Option String) (decimals : Nat) (answer roundId updatedAt : Int)
    (listened found polled : JsValue) : Prop :=
  ∃ value time,
    convertListenedEvent js (.big answer) (.big roundId) (.big updatedAt) decimals =
      .ok { value := value, time := time, round := listened } ∧
    checkForContractEvent js rejectEvent address eventName decimals (.ok [.answerUpdated answer roundId updatedAt]) =
      .ok (.ok { value := value, time := time, round := found }) ∧
    loadContractLatestRoundData js config isDateString now address
        (.ok { roundId := roundId, answer := answer, updatedAt := updatedAt }) { decimals := some decimals } false =
      .ok { value := value, time := time, round := polled }

/-- **The decoders never agree**: the listener's round is an integer of ethers on every input. But for it, they agree
exactly on the rounds that are safe as numbers, with an answer below the largest such number. -/
theorem decoders_agree_iff (decodable : Decodable js decimals answer roundId updatedAt) (positive : 0 < decimals)
    (accepts : ∀ event, rejectEvent event = none) :
    (¬ ∃ round : Rat, DecodeAs js config rejectEvent isDateString now address eventName decimals answer roundId updatedAt
        (.number (some round)) (.number (some round)) (.number (some round))) ∧
      ((∃ round : Rat, DecodeAs js config rejectEvent isDateString now address eventName decimals answer roundId updatedAt
          (.big roundId) (.number (some round)) (.number (some round))) ↔
        answer.natAbs < 2 ^ 53 - 1 ∧ roundId.natAbs < 2 ^ 53) := by
  obtain ⟨price, formatted, -⟩ := decodable.answer.formatUnits
  have listened := convertListenedEvent_eq decodable positive formatted
  refine ⟨?_, ?_, ?_⟩
  · rintro ⟨round, value, time, decoded, -⟩
    rw [listened] at decoded
    cases decoded
  · rintro ⟨round, value, time, -, found, -⟩
    by_contra large
    obtain ⟨error, overflow⟩ : ∃ error, convertEventAnswerUpdated js (.answerUpdated answer roundId updatedAt) decimals =
        .error error := convertEventAnswerUpdated_large decodable positive large
    cases outcome : lastEventData js rejectEvent [.answerUpdated answer roundId updatedAt] decimals with
    | error error' =>
      simp only [checkForContractEvent, outcome, Except.map, reduceCtorEq] at found
    | ok values =>
      obtain ⟨decoded, converted⟩ := convertEventAnswerUpdated_found outcome
      rw [overflow] at converted
      cases converted
  · rintro ⟨small, smallRound⟩
    refine ⟨roundId, .number (js.number price), .text (js.isoDate (updatedAt * 1000)), listened, ?_, ?_⟩
    · have round : (PastEvent.answerUpdated answer roundId updatedAt).round = .ok (.number (some roundId)) :=
        answerUpdated_round.trans (toNumber_small smallRound)
      have converted := convertEventAnswerUpdated_small decodable positive formatted small smallRound
      have found : lastEventData js rejectEvent [.answerUpdated answer roundId updatedAt] decimals = _ :=
        lastEventData_single round converted accepts
      simp only [checkForContractEvent, found, Except.map]
    · simp only [loadContractLatestRoundData, convertRoundData_eq decodable positive formatted,
        decodable.roundId.number smallRound, bind, Except.bind, Bool.false_and, Bool.false_eq_true, ↓reduceIte, rethrow_ok]

end

/-! ## An answer -/

/-- The number that a decimal text without a sign stands for. -/
def unsignedNumber (text : List Char) : Option Rat :=
  let whole := text.takeWhile (· ≠ '.')
  let fraction := (text.dropWhile (· ≠ '.')).tail
  if (whole ++ fraction).all Char.isDigit then
    some (((whole ++ fraction).foldl (fun n digit => 10 * n + (digit.toNat - '0'.toNat)) 0 : Nat) / 10 ^ fraction.length)
  else none

/-- An integer in units of `10 ^ decimals`, as a text. -/
def decimalText (n : Int) (decimals : Nat) : String :=
  let fraction := (((toString (n.natAbs % 10 ^ decimals)).toList.leftpad decimals '0').reverse.dropWhile (· == '0')).reverse
  (if n < 0 then "-" else "") ++ toString (n.natAbs / 10 ^ decimals) ++ "."
    ++ (if fraction = [] then "0" else String.ofList fraction)

/-- The conversions, exact on decimal texts, at noon of one day. -/
def plainJs : Js where
  number text :=
    match text.toList with
    | '-' :: digits => (unsignedNumber digits).map fun n => -n
    | digits => unsignedNumber digits
  nearest := id
  formatUnits value decimals :=
    match value with
    | .big n => .ok (decimalText n decimals)
    | .number (some n) =>
      if n.den ≠ 1 then .error "Error: underflow"
      else if 2 ^ 53 - 1 ≤ n.num.natAbs then .error "Error: overflow"
      else .ok (decimalText n.num decimals)
    | _ => .error "Error: invalid BigNumber value"
  commify _ := .error "Error: invalid value"
  isoDate _ := "2022-04-15T12:00:00.000Z"
  utcDate _ := "Fri, 15 Apr 2022 12:00:00 GMT"
  parseDate _ := some 1650024000000
  render _ := "[object Object]"

theorem plainJs_exact {decimals : Nat} {n : Int} (price : Rat) (number : plainJs.number (toString n) = some (n : Rat))
    (formatted : plainJs.number (decimalText n decimals) = some price) (sign : 0 < price ↔ 0 < n) :
    plainJs.Exact decimals n where
  number _ := number
  nearest _ := rfl
  formatUnits := by
    refine ⟨decimalText n decimals, rfl, fun small => ?_, price, formatted, sign⟩
    have allowed : ¬ 2 ^ 53 - 1 ≤ n.natAbs := Nat.not_le.2 small
    simp only [plainJs, Rat.den_intCast, Rat.num_intCast, ne_eq, not_true_eq_false, allowed, ↓reduceIte]
  overflow large := ⟨"Error: overflow", by
    simp only [plainJs, Rat.den_intCast, Rat.num_intCast, ne_eq, not_true_eq_false, large, ↓reduceIte]⟩

/-- An answer of 42000 with 8 decimals, in round 7. -/
theorem btc_decodable : Decodable plainJs 8 4200000000000 7 1650024000 where
  answer := plainJs_exact (42000) (by decide +kernel) (by decide +kernel) (by decide +kernel)
  roundId := plainJs_exact (7 / 100000000) (by decide +kernel) (by decide +kernel) (by decide +kernel)
  seconds := plainJs_exact (1650024 / 100000) (by decide +kernel) (by decide +kernel) (by decide +kernel)
  milliseconds := plainJs_exact (1650024 / 100) (by decide +kernel) (by decide +kernel) (by decide +kernel)
  date := by decide

/-- But for the round of the listener, the answer is decoded alike. -/
theorem btc_decoded :
    (¬ ∃ round : Rat, DecodeAs plainJs RelaydConfig.prod (fun _ => none) (fun _ => true) 1650024060000 proxyAddress none 8
        4200000000000 7 1650024000 (.number (some round)) (.number (some round)) (.number (some round))) ∧
      ∃ round : Rat, DecodeAs plainJs RelaydConfig.prod (fun _ => none) (fun _ => true) 1650024060000 proxyAddress none 8
        4200000000000 7 1650024000 (.big 7) (.number (some round)) (.number (some round)) :=
  have decoders := decoders_agree_iff btc_decodable (by decide) fun _ => rfl
  ⟨decoders.1, decoders.2.2 (by decide)⟩

/-- The listener passes the round 7 on as an integer of ethers, and the past events cannot be read once an answer has
18 decimals. -/
theorem listener_round_is_big :
    convertListenedEvent plainJs (.big 4200000000000) (.big 7) (.big 1650024000) 8 =
        .ok { value := .number (some 42000), time := .text "2022-04-15T12:00:00.000Z", round := .big 7 } ∧
      (¬ ∃ round : Rat, DecodeAs plainJs RelaydConfig.prod (fun _ => none) (fun _ => true) 1650024060000 proxyAddress none 8
        4200000000000 7 1650024000 (.number (some round)) (.number (some round)) (.number (some round))) ∧
      ∃ error, checkForContractEvent plainJs (fun _ => none) proxyAddress none 18
        (.ok [.answerUpdated 3000000000000000000000 7 1650024000]) = .error error := by
  have listened : convertListenedEvent plainJs (.big 4200000000000) (.big 7) (.big 1650024000) 8 =
      .ok { value := .number (some 42000), time := .text "2022-04-15T12:00:00.000Z", round := .big 7 } := by decide +kernel
  refine ⟨listened, ?_, _, rfl⟩
  rintro ⟨round, value, time, decoded, -⟩
  rw [listened] at decoded
  cases decoded

end Relayd.EthClient
