import Relayd.EthClient.PollFeed

/-!
# What a polled proxy is worth

An interval over a proxy follows it: after a tick that reads an answer, the value
last cast is that of the aggregator in force. It is converted in the decimals that
the proxy had when the polling started, and is its price as long as the aggregators
that came into force since have the same ones.
-/

namespace Relayd.EthClient
set_option autoImplicit false
open Relayd.Common Sys

/-! ## Prices -/

/-- A number is that of `n` in units of `10 ^ decimals`, up to the precision of the numbers of JavaScript. -/
def IsPrice (price : Rat) (n : Int) (decimals : Nat) : Prop := |price - n / 10 ^ decimals| ≤ |(n : Rat)| / 10 ^ decimals / 2 ^ 53

/-- The text of an answer in units is read as its price. -/
def Prices (js : Js) (decimals : Nat) (n : Int) : Prop :=
  ∃ text price, js.formatUnits (.big n) decimals = .ok text ∧ js.number text = some price ∧ IsPrice price n decimals

/-- In more decimals the same number is a smaller price. -/
theorem IsPrice.not_lt {price : Rat} {n : Int} {decimals decimals' : Nat} (nonzero : n ≠ 0)
    (isPrice : IsPrice price n decimals) (isPrice' : IsPrice price n decimals') : ¬ decimals < decimals' := by
  intro less
  have size : 0 < |(n : Rat)| / 10 ^ decimals := by positivity
  have tenth : 10 * (|(n : Rat)| / 10 ^ decimals') ≤ |(n : Rat)| / 10 ^ decimals := by
    have finer : |(n : Rat)| / 10 ^ decimals' ≤ |(n : Rat)| / 10 ^ (decimals + 1) :=
      div_le_div_of_nonneg_left (abs_nonneg _) (by positivity) (pow_le_pow_right₀ (by norm_num) less)
    calc
      10 * (|(n : Rat)| / 10 ^ decimals') ≤ 10 * (|(n : Rat)| / 10 ^ (decimals + 1)) := by linarith
      _ = |(n : Rat)| / 10 ^ decimals := by
        rw [pow_succ]
        field_simp
  have abs : |(n : Rat) / 10 ^ decimals| = |(n : Rat)| / 10 ^ decimals := by
    rw [abs_div, abs_of_pos (by positivity : (0 : Rat) < 10 ^ decimals)]
  have abs' : |(n : Rat) / 10 ^ decimals'| = |(n : Rat)| / 10 ^ decimals' := by
    rw [abs_div, abs_of_pos (by positivity : (0 : Rat) < 10 ^ decimals')]
  have above := abs_sub_abs_le_abs_sub ((n : Rat) / 10 ^ decimals) price
  have below := abs_sub_abs_le_abs_sub price ((n : Rat) / 10 ^ decimals')
  rw [abs_sub_comm, abs] at above
  rw [abs'] at below
  unfold IsPrice at isPrice isPrice'
  linarith

/-- **A number is the price of an answer in one number of decimals only.** -/
theorem IsPrice.unique {price : Rat} {n : Int} {decimals decimals' : Nat} (nonzero : n ≠ 0)
    (isPrice : IsPrice price n decimals) (isPrice' : IsPrice price n decimals') : decimals = decimals' :=
  Nat.le_antisymm (Nat.le_of_not_lt (isPrice'.not_lt nonzero isPrice)) (Nat.le_of_not_lt (isPrice.not_lt nonzero isPrice'))

namespace PollFeed

section
variable {config : RelaydConfig} {reader : Reader} {interval : PollingInterval} {client : Client} {s s' : PollFeed}
  {contract : ProxyContract} {moment : Moment} {actions : List Action} {data : FeedSourceData}

/-! ## What a tick reads -/

/-- A tick reads an answer of the aggregator in force, as a positive number. -/
theorem tickOn_answer (isProxy : interval.contract.address = contract.text contract.address)
    (read : (tickOn config reader interval contract moment).poll.latestRoundData = .ok data) :
    ∃ original price, contract.ledger.chain.call contract.address contract.ledger.proxy.currentPhase.aggregator
        (·.latestRoundData) = .ok original ∧
      reader.js.convertValue (.big original.answer.toInt) .PRICE { decimals := some interval.decimals } =
        .ok (.number (some price)) ∧
      0 < price ∧ data.value = some price := by
  obtain ⟨round, values, given, converted, positive, rfl⟩ := tickOn_read isProxy read
  obtain ⟨original, called, rfl⟩ := Chainlink.AggregatorProxy.latestRoundData_ok given
  simp only [convertRoundData, bind_eq_ok] at converted
  obtain ⟨value, isPrice, time, -, round, -, ⟨⟩⟩ := converted
  cases value with
  | number n =>
    cases n with
    | none => cases positive
    | some price => exact ⟨original, price, called, isPrice, of_decide_eq_true positive, rfl⟩
  | undefined => cases positive
  | text _ => cases positive
  | big _ => cases positive

/-! ## The start -/

/-- The interval was just started on the proxy, in its decimals. -/
structure JustStarted (interval : PollingInterval) (s : PollFeed) : Prop where
  polls : s.polled.Polls interval
  unseen : s.polled.seen interval = none
  isProxy : interval.contract.address = s.contract.text s.contract.address
  decimals : (s.contract.ledger.proxy.decimals s.contract.address s.contract.ledger.chain).map BitVec.toNat =
    .ok interval.decimals
  positive : 0 < interval.decimals

/-- **A periodic initiation that resolves on a proxy has just started an interval.** -/
theorem initiated {env : Env} {sourceConfig : FeedConfigSource} {feedId : String} {before : Instance}
    (resolved : (initiatePeriodicPolling config client env sourceConfig feedId before.service).value = .ok ())
    (isProxy : sourceConfig.contract = contract.text contract.address)
    (asked : env.reads.decimals sourceConfig.contract =
      (contract.ledger.proxy.decimals contract.address contract.ledger.chain).map BitVec.toNat) :
    ∃ interval : PollingInterval, interval.notif = sourceConfig.notif ∧ JustStarted interval
      ⟨contract, before.called (initiatePeriodicPolling config client env sourceConfig feedId before.service)⟩ := by
  obtain ⟨interval, address, notif, loaded, polls, unseen⟩ := Instance.initiatePeriodicPolling_polls resolved
  obtain ⟨decimals, positive⟩ := decimals_loaded loaded
  exact ⟨interval, notif, polls, unseen, address.trans isProxy, asked.symm.trans decimals, positive⟩

/-! ## What was cast last -/

section
variable (started : JustStarted interval s) (onChange : interval.notif = some .CHANGE)
  (accepted : ∀ moment, Action.tick moment ∈ actions → ∀ upd, moment.writeFails upd = false)
  (last : ∀ upd, moment.writeFails upd = false)
  (ran : run (step config reader interval client) s (actions ++ [.tick moment]) = some s')
  (read : (tickOn config reader interval s'.contract moment).poll.latestRoundData = .ok data)
include started onChange accepted last ran read

/-- After a tick that reads data, the value last cast is theirs. -/
theorem last_cast :
    (s'.polled.lastCast interval.contract.address).map FeedSourceData.value = some data.value := by
  obtain ⟨isContract, polled⟩ := run_eq.1 ran
  have same : transactions (actions ++ [.tick moment]) = transactions actions := by
    rw [transactions, List.filterMap_append]
    exact List.append_nil _
  rw [same] at isContract
  rw [ticks_append, ← isContract] at polled
  have refusesNone : ∀ tick ∈ ticks config reader interval s.contract actions ++
      [tickOn config reader interval s'.contract moment], ∀ upd, tick.poll.writeFails upd = false := by
    intro tick member
    rcases List.mem_append.1 member with earlier | final
    · obtain ⟨-, -, moment, -, listed, rfl⟩ := mem_ticks earlier
      exact accepted moment listed
    · cases List.mem_singleton.1 final
      exact last
  have passes : Ahead (Instance.wholeTick config client interval) (Instance.RejectionPasses interval) s.polled
      (ticks config reader interval s.contract actions ++ [tickOn config reader interval s'.contract moment]) := by
    intro pre tick post s₁ split _ data' _ _ refused
    cases (refusesNone tick (split ▸ by simp) _).symm.trans refused
  have caughtUp : Instance.CaughtUp interval s.polled
      (ticks config reader interval s.contract actions ++ [tickOn config reader interval s'.contract moment]) := by
    intro data' seen
    cases started.unseen.symm.trans seen
  have along := Instance.changes_cast onChange started.polls caughtUp polled passes
  rw [run_append] at polled
  obtain ⟨s₁, reached, ticked⟩ := Option.bind_eq_some_iff.1 polled
  obtain ⟨s₂, ticked, done⟩ := run_cons.1 ticked
  cases done
  have polls₁ : s₁.Polls interval := by
    rcases Instance.run_polls started.polls reached with polls₁ | stopped
    · exact polls₁
    · rw [Instance.wholeTick_stopped config client interval stopped] at ticked
      cases ticked
  have answered : s₁.fails interval (tickOn config reader interval s'.contract moment) = false := by
    rw [Instance.fails_eq polls₁ onChange last, read]
    rfl
  exact along _ _ [] s₁ rfl reached _ data ticked answered read

/-- What was cast last is a positive number, the answer of the aggregator in force in the decimals of the interval. -/
theorem last_cast_answer :
    ∃ original price, s'.contract.ledger.chain.call s'.contract.address s'.contract.ledger.proxy.currentPhase.aggregator
        (·.latestRoundData) = .ok original ∧
      reader.js.convertValue (.big original.answer.toInt) .PRICE { decimals := some interval.decimals } =
        .ok (.number (some price)) ∧
      0 < price ∧ (s'.polled.lastCast interval.contract.address).map FeedSourceData.value = some (some price) := by
  have isProxy' : interval.contract.address = s'.contract.text s'.contract.address := by
    rw [(run_eq.1 ran).1]
    exact started.isProxy
  obtain ⟨original, price, called, isPrice, positive, value⟩ := tickOn_answer isProxy' read
  refine ⟨original, price, called, isPrice, positive, ?_⟩
  rw [last_cast started onChange accepted last ran read, value]

/-- **A polled proxy is followed to its price, as long as the decimals stay**: after a tick that reads an answer, the value
last cast is the price of the answer of the aggregator in force exactly when that has the decimals that the proxy had
when the polling started. -/
theorem priced_iff_same_decimals {decimals : BitVec 8}
    (inForce : s'.contract.ledger.proxy.decimals s'.contract.address s'.contract.ledger.chain = .ok decimals)
    (prices : ∀ original, s'.contract.ledger.chain.call s'.contract.address
      s'.contract.ledger.proxy.currentPhase.aggregator (·.latestRoundData) = .ok original →
      Prices reader.js interval.decimals original.answer.toInt) :
    ∃ original price, s'.contract.ledger.chain.call s'.contract.address s'.contract.ledger.proxy.currentPhase.aggregator
        (·.latestRoundData) = .ok original ∧
      (s'.polled.lastCast interval.contract.address).map FeedSourceData.value = some (some price) ∧
      (IsPrice price original.answer.toInt decimals.toNat ↔
        s.contract.ledger.proxy.decimals s.contract.address s.contract.ledger.chain = .ok decimals) := by
  obtain ⟨original, price, called, converted, above, cast⟩ :=
    last_cast_answer started onChange accepted last ran read
  refine ⟨original, price, called, cast, ?_⟩
  obtain ⟨text, price', formatted, isNumber, isPrice⟩ := prices original called
  rw [Js.convertValue_price started.positive formatted, isNumber] at converted
  cases converted
  have nonzero : original.answer.toInt ≠ 0 := by
    intro zero
    have free : |price| ≤ 0 := by simpa [IsPrice, zero] using isPrice
    exact above.ne' (abs_nonpos_iff.1 free)
  obtain ⟨first, answered, same⟩ := map_eq_ok.1 started.decimals
  rw [answered, Except.ok.injEq]
  constructor
  · intro isPriceNow
    apply BitVec.eq_of_toNat_eq
    rw [same]
    exact isPrice.unique nonzero isPriceNow
  · rintro rfl
    rw [same]
    exact isPrice

end

end

/-- Its second aggregator has 18 decimals instead of 8. -/
def preciseProxy : ProxyContract where
  ledger :=
    .deploy 1 2 0 (.of [(2, Chainlink.firstRound.contract), (3, { Chainlink.secondRound.contract with decimals := .ok 18 })])
  address := 9
  text := guardedProxy.text

theorem preciseProxy_started : JustStarted Instance.btcInterval ⟨preciseProxy, Instance.polling⟩ where
  polls := Instance.polling_polls
  unseen := rfl
  isProxy := by decide
  decimals := rfl
  positive := by decide

/-- The answer 105 in 18 decimals is cast as one in 8 decimals. -/
theorem priced_iff_same_decimals_precise :
    ∃ s' price, run (step RelaydConfig.prod relayReader Instance.btcInterval Instance.relayClient)
        ⟨preciseProxy, Instance.polling⟩ replacedBetween = some s' ∧
      (s'.polled.lastCast proxyAddress).map FeedSourceData.value = some (some price) ∧ ¬ IsPrice price 105 18 := by
  have possible : (run (step RelaydConfig.prod relayReader Instance.btcInterval Instance.relayClient)
      ⟨preciseProxy, Instance.polling⟩ replacedBetween).isSome = true := by decide +kernel
  obtain ⟨s', ran⟩ := Option.isSome_iff_exists.1 possible
  have contract : s'.contract = after preciseProxy Chainlink.Ledger.replaced := (run_eq.1 ran).1
  have answers : (tickOn RelaydConfig.prod relayReader Instance.btcInterval s'.contract noon).poll.latestRoundData.isOk =
      true := by
    rw [contract]
    decide +kernel
  have second : s'.contract.ledger.chain.call s'.contract.address s'.contract.ledger.proxy.currentPhase.aggregator
      (·.latestRoundData) = .ok Chainlink.secondRound := by
    rw [contract]
    rfl
  have accepted := @noon_accepts (.tick noon :: Chainlink.Ledger.replaced.map .transact) (by simp [Chainlink.Ledger.replaced])
  have prices : Prices wholeJs 8 105 := ⟨decimalText 105 8, 105 / 10 ^ 8, rfl, by decide +kernel, by norm_num [IsPrice]⟩
  cases read : (tickOn RelaydConfig.prod relayReader Instance.btcInterval s'.contract noon).poll.latestRoundData with
  | error error =>
    rw [read] at answers
    cases answers
  | ok data =>
    obtain ⟨original, price, called, cast, isPrice⟩ :=
      @priced_iff_same_decimals _ _ _ _ _ s' _ _ _ preciseProxy_started rfl accepted (fun _ => rfl) ran read 18
        (by rw [contract]; rfl) (by
          intro original called
          cases second.symm.trans called
          exact prices)
    cases second.symm.trans called
    refine ⟨s', price, ran, cast, ?_⟩
    intro precise
    exact absurd (isPrice.1 precise) (by decide)

end PollFeed

end Relayd.EthClient
