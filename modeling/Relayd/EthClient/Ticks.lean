import Relayd.EthClient.TrackedTimers

/-!
# The ticks of an interval, one after the other

A whole tick is the tick of an interval, the chain's answer to its poll and, when
the poll ended in an error, the count of that error. An interval whose ticks do
not overlap is a machine over whole ticks. `wholeTick_eq` says what a whole tick
does; the rest is read off it.
-/

namespace Relayd.EthClient
set_option autoImplicit false
open Relayd.Common Sys

/-- What a poll for changes does on a source that is polled. -/
theorem loadContractData_change (poll : PollEnv) {interval : PollingInterval} {service : EthConnectService}
    {previous : SourcePolled} (onChange : interval.notif = some .CHANGE)
    (entry : service.sourcePolling.get interval.contract.address = some previous) :
    loadContractData poll interval service =
      match poll.latestRoundData with
      | .error error =>
        ⟨rethrow ("Failed to poll data for Source '" ++ interval.contract.address ++ "' of feed '" ++ interval.feedId
          ++ "' \n") (.error error), service, []⟩
      | .ok result =>
        if previous.data.all fun previousData => previousData.value ≠ result.value then
          ⟨rethrow ("Failed to poll data for Source '" ++ interval.contract.address ++ "' of feed '" ++ interval.feedId
              ++ "' \n") (rethrow ("Failed to cast Source Data change update for '" ++ interval.feedId ++ "' \n")
                ((castSourceDataUpdate poll.writeFails interval.feedId interval.contract.address result .DATA_CHANGE
                  none).map some)),
            { service with
              sourcePolling := service.sourcePolling.set interval.contract.address
                { data := some result, timeout := previous.timeout } }, []⟩
        else ⟨.ok none, service, []⟩ := by
  unfold loadContractData
  cases poll.latestRoundData with
  | error error => rfl
  | ok result =>
    simp only [onChange, checkForSourceDataChange, Traced.bind_apply, Traced.read_apply, entry, Traced.ite_apply]
    split <;> rfl

/-- A poll leaves the intervals and the timeouts of the registry. -/
theorem loadContractData_timeouts (poll : PollEnv) (interval : PollingInterval) (service : EthConnectService) :
    (loadContractData poll interval service).state.intervals = service.intervals ∧
      ((loadContractData poll interval service).state.sourcePolling.get interval.contract.address).map SourcePolled.timeout =
        (service.sourcePolling.get interval.contract.address).map SourcePolled.timeout := by
  unfold loadContractData
  cases poll.latestRoundData with
  | error error => exact ⟨rfl, rfl⟩
  | ok result =>
    cases interval.notif with
    | none => exact ⟨rfl, rfl⟩
    | some notif =>
      cases notif with
      | CHECK => exact ⟨rfl, rfl⟩
      | CHANGE =>
        simp only [checkForSourceDataChange, Traced.bind_apply, Traced.read_apply]
        cases entry : service.sourcePolling.get interval.contract.address with
        | none =>
          refine ⟨rfl, ?_⟩
          simp only [Traced.pure_apply, entry]
        | some previous =>
          simp only [Traced.ite_apply]
          split
          · refine ⟨rfl, ?_⟩
            simp only [Traced.bind_apply, Traced.update_apply, Traced.pure_apply, rethrow, OrderedMap.get_set_same,
              Option.map_some]
          · refine ⟨rfl, ?_⟩
            simp only [Traced.pure_apply, entry]

namespace Instance

/-- What a tick meets: the chain and the topic of its data, and what a stop of the polling meets. -/
structure Tick where
  poll : PollEnv
  env : Env

/-- The interval runs, and is the one its source is registered with. -/
structure Polls (s : Instance) (interval : PollingInterval) : Prop where
  runs : s.service.intervals.find? (fun running => running.timeout == interval.timeout) = some interval
  registered : (s.service.sourcePolling.get interval.contract.address).map SourcePolled.timeout = some interval.timeout

/-- The interval does not run. -/
def Stopped (s : Instance) (interval : PollingInterval) : Prop :=
  s.service.intervals.find? (fun running => running.timeout == interval.timeout) = none

/-- The data that the polls of the interval's source have seen last. -/
def seen (interval : PollingInterval) (s : Instance) : Option FeedSourceData :=
  (s.service.sourcePolling.get interval.contract.address).bind SourcePolled.data

/-- The poll ends in an error. -/
def fails (interval : PollingInterval) (s : Instance) (tick : Tick) : Bool :=
  !(loadContractData tick.poll interval s.service).value.isOk

section
variable (config : RelaydConfig) (client : Client) (interval : PollingInterval)

/-- A whole tick of the interval. -/
def wholeTick (s : Instance) (tick : Tick) : Option Instance := do
  let ticked ← s.step config client (.tick interval.timeout)
  let answered ← ticked.step config client (.answer s.underWay.length tick.poll)
  if s.fails interval tick then answered.step config client (.resume s.pending.length tick.env) else some answered

/-- A whole tick of an interval that does not run is not possible. -/
theorem wholeTick_stopped {s : Instance} (stopped : s.Stopped interval) (tick : Tick) :
    wholeTick config client interval s tick = none := by
  unfold Stopped at stopped
  simp only [wholeTick, step, stopped, Option.map_none, Option.bind_eq_bind, Option.bind_none]

/-- **What a whole tick does**: the poll, and the cast of its data or the count of its error. -/
theorem wholeTick_eq {s : Instance} (polls : s.Polls interval) (tick : Tick) :
    wholeTick config client interval s tick =
      let call := loadContractData tick.poll interval s.service
      match call.value with
      | .ok upd => some { s.called call with updates := s.updates ++ upd.toList }
      | .error error => some ((s.called call).countError config client tick.env interval error) := by
  have asked : (s.underWay ++ [interval])[s.underWay.length]? = some interval := List.getElem?_concat_length
  have back : (s.underWay ++ [interval]).eraseIdx s.underWay.length = s.underWay := by
    rw [List.eraseIdx_append_of_length_le (Nat.le_refl _), Nat.sub_self, List.eraseIdx_cons_zero, List.append_nil]
  cases outcome : (loadContractData tick.poll interval s.service).value with
  | ok upd =>
    have passes : s.fails interval tick = false := by
      rw [fails, outcome]
      rfl
    cases upd with
    | none =>
      simp only [wholeTick, step, polls.runs, Option.map_some, Option.bind_eq_bind, Option.bind_some, asked, back, passes,
        outcome, called, Bool.false_eq_true, ↓reduceIte, Option.toList_none, List.append_nil]
    | some upd =>
      simp only [wholeTick, step, polls.runs, Option.map_some, Option.bind_eq_bind, Option.bind_some, asked, back, passes,
        outcome, called, Bool.false_eq_true, ↓reduceIte, Option.toList_some]
  | error error =>
    have failed : s.fails interval tick = true := by
      rw [fails, outcome]
      rfl
    have counted : (s.pending ++ [Pending.countError interval error])[s.pending.length]? =
        some (.countError interval error) := List.getElem?_concat_length
    have done : (s.pending ++ [Pending.countError interval error]).eraseIdx s.pending.length = s.pending := by
      rw [List.eraseIdx_append_of_length_le (Nat.le_refl _), Nat.sub_self, List.eraseIdx_cons_zero, List.append_nil]
    simp only [wholeTick, step, polls.runs, Option.map_some, Option.bind_eq_bind, Option.bind_some, asked, back, failed,
      outcome, called, ↓reduceIte, counted, done]

variable {config client interval}

/-- A stop of the polling of a registered source stops its interval. -/
theorem stopSourcePolling_stops {s : Instance} (polls : s.Polls interval) (env : Env) (reasonMsg : Option String) :
    (s.called (stopSourcePolling client env interval.contract.address .REMOVE_PERIODIC reasonMsg s.service)).Stopped
      interval := by
  obtain ⟨polled, entry, same⟩ := Option.map_eq_some_iff.1 polls.registered
  have service : (stopSourcePolling client env interval.contract.address .REMOVE_PERIODIC reasonMsg s.service).state =
      { s.service with
        intervals := s.service.intervals.filter fun running => running.timeout != polled.timeout
        sourcePolling := s.service.sourcePolling.delete interval.contract.address } := by
    simp only [stopSourcePolling, Traced.read_bind_apply, entry, Traced.update_bind_apply]
    exact (castSourcePolling_announces client env _ _ _ _).1
  simp only [Stopped, called, service, same]
  apply List.find?_eq_none.2
  intro running member
  simpa using (List.mem_filter.1 member).2

variable (config client) in
/-- The count of an error stops the interval when it brings the counter to its limit. -/
theorem countError_stops {s : Instance} (polls : s.Polls interval) (env : Env) (error : String) :
    (s.countError config client env interval error).errors interval.timeout = s.errors interval.timeout + 1 ∧
      (s.countError config client env interval error).updates = s.updates ∧
      if config.maxSuccessiveErrorToStopPolling ≤ s.errors interval.timeout + 2 then
        (s.countError config client env interval error).Stopped interval
      else (s.countError config client env interval error).service = s.service := by
  have reached : ((s.errors interval.timeout + 1 : Nat) : Int) ≥ (config.maxSuccessiveErrorToStopPolling : Int) - 1 ↔
      config.maxSuccessiveErrorToStopPolling ≤ s.errors interval.timeout + 2 := by omega
  by_cases limit : config.maxSuccessiveErrorToStopPolling ≤ s.errors interval.timeout + 2
  · simp only [countError, reached.2 limit, ↓reduceIte, limit]
    refine ⟨Function.update_self _ _ _, rfl, ?_⟩
    exact stopSourcePolling_stops (s := { s with errors := _ }) ⟨polls.runs, polls.registered⟩ env _
  · have below := mt reached.1 limit
    simp only [countError, below, ↓reduceIte, limit, and_true]
    exact Function.update_self _ _ _

/-- A poll leaves its interval running. -/
theorem Polls.polled {s : Instance} (polls : s.Polls interval) (poll : PollEnv) :
    (s.called (loadContractData poll interval s.service)).Polls interval := by
  obtain ⟨intervals, timeouts⟩ := loadContractData_timeouts poll interval s.service
  constructor
  · rw [called, intervals]
    exact polls.runs
  · exact timeouts.trans polls.registered

/-- **What a whole tick counts**: an interval is stopped by the error that brings its counter to the limit, and runs
on after every other tick. -/
theorem wholeTick_counts {s s' : Instance} {tick : Tick} (polls : s.Polls interval)
    (ticked : wholeTick config client interval s tick = some s') :
    s'.errors interval.timeout = s.errors interval.timeout + (s.fails interval tick).toNat ∧
      if s.fails interval tick = true ∧ config.maxSuccessiveErrorToStopPolling ≤ s.errors interval.timeout + 2 then
        s'.Stopped interval
      else s'.Polls interval := by
  rw [wholeTick_eq config client interval polls] at ticked
  have polled := polls.polled tick.poll
  cases outcome : (loadContractData tick.poll interval s.service).value with
  | ok upd =>
    have passes : s.fails interval tick = false := by
      rw [fails, outcome]
      rfl
    simp only [outcome, Option.some.injEq] at ticked
    subst ticked
    simp only [passes, Bool.toNat_false, Bool.false_eq_true, false_and, ↓reduceIte]
    exact ⟨rfl, polled.runs, polled.registered⟩
  | error error =>
    have failed : s.fails interval tick = true := by
      rw [fails, outcome]
      rfl
    simp only [outcome, Option.some.injEq] at ticked
    subst ticked
    obtain ⟨counted, -, stops⟩ := countError_stops config client polled tick.env error
    simp only [failed, Bool.toNat_true, true_and]
    refine ⟨counted, ?_⟩
    split
    case isTrue limit => exact (if_pos limit).mp stops
    case isFalse below =>
      have stops := (if_neg below).mp stops
      constructor
      · rw [stops]
        exact polled.runs
      · rw [stops]
        exact polled.registered

/-- **A periodic initiation that resolves leaves an interval of its source polling**, in the decimals that were loaded. It
has seen nothing yet. -/
theorem initiatePeriodicPolling_polls {env : Env} {sourceConfig : FeedConfigSource} {feedId : String} {s : Instance}
    (resolved : (initiatePeriodicPolling config client env sourceConfig feedId s.service).value = .ok ()) :
    ∃ interval : PollingInterval, interval.contract.address = sourceConfig.contract ∧ interval.notif = sourceConfig.notif ∧
      loadContractDecimals env.reads sourceConfig.contract = .ok interval.decimals ∧
      (s.called (initiatePeriodicPolling config client env sourceConfig feedId s.service)).Polls interval ∧
      (s.called (initiatePeriodicPolling config client env sourceConfig feedId s.service)).seen interval = none := by
  unfold initiatePeriodicPolling at resolved ⊢
  cases period : sourceConfig.period.filter fun period => 0 < period with
  | none =>
    rw [period] at resolved
    cases resolved
  | some timePeriod =>
    simp only [period, Traced.bind_apply, initContractClAggregator_apply] at resolved ⊢
    cases decimals : loadContractDecimals env.reads sourceConfig.contract with
    | error error =>
      rw [decimals] at resolved
      cases resolved
    | ok contractDecimals =>
      simp only [decimals, andThen_ok, Traced.bind_apply, startPollingData_apply, trackSourcePolling,
        Traced.ite_apply] at resolved ⊢
      let interval : PollingInterval :=
        { timeout := s.service.fresh + 1, feedId := feedId,
          contract := { object := s.service.fresh, address := sourceConfig.contract }, notif := sourceConfig.notif,
          period := timePeriod, decimals := contractDecimals }
      split at resolved
      case isTrue refused => cases resolved
      case isFalse admitted =>
        simp only [admitted, ↓reduceIte]
        refine ⟨interval, rfl, rfl, rfl, ⟨?_, ?_⟩, ?_⟩ <;>
          simp only [seen, called, Traced.pure_apply, Traced.read_apply, Traced.update_apply,
            (castSourcePolling_announces client env _ _ _ _).1]
        · exact List.find?_cons_of_pos (beq_self_eq_true _)
        · exact congrArg (Option.map SourcePolled.timeout) (OrderedMap.get_set_same _ _ _)
        · exact congrArg (Option.bind · SourcePolled.data) (OrderedMap.get_set_same _ _ _)

end

/-! ## A source that is polled -/

/-- An instance that has just started to poll `periodicSource`. -/
def polling : Instance :=
  ({} : Instance).called (initiatePeriodicPolling RelaydConfig.prod relayClient healthyEnv periodicSource "feed-btc" {})

/-- Its interval. -/
def btcInterval : PollingInterval where
  timeout := 1
  feedId := "feed-btc"
  contract := { object := 0, address := proxyAddress }
  notif := some .CHANGE
  period := 120
  decimals := 8

theorem polling_polls : polling.Polls btcInterval := ⟨rfl, rfl⟩

/-- A tick that reads a value or fails to, and whose cast is refused or not. -/
def tickOf (read : Except String Rat) (refused : Bool) : Tick where
  poll :=
    { latestRoundData := read.map fun value =>
        { value := some value, time := some "2022-04-15T12:00:00.000Z", round := some 7 }
      now := "2022-04-15T12:00:10.000Z"
      writeFails := fun _ => refused
      getSourcePolled := "getSourcePolled()" }
  env := healthyEnv

end Instance

end Relayd.EthClient
