import Relayd.EthClient.ChangeFeed
import Relayd.EthClient.Proxied

/-!
# Polling a proxy over time

An interval of a source and the proxy it polls, whose owner goes on with it: an
aggregator may be replaced between two ticks. What the ticks read is what the
proxy answers at their times (`ticks`), so that a run of both is a run of the
proxy's transactions and a run of the interval on what it reads (`run_eq`).
-/

namespace Relayd.EthClient
set_option autoImplicit false
open Relayd.Common Sys

/-- Who polls, and what a poll meets besides the proxy. -/
structure Reader where
  user : Chainlink.Address
  js : Js
  isDateString : String → Bool
  /-- The answers of all other contracts -/
  others : ChainResponses

/-- What a single tick meets besides the proxy. -/
structure Moment where
  /-- The time, in milliseconds -/
  now : Int
  /-- The time, as the data carry it -/
  date : String
  writeFails : FeedSourceDataUpdate → Bool
  getSourcePolled : String
  /-- What a stop of the polling meets -/
  env : Env

/-- A proxy and an instance that polls it. -/
structure PollFeed where
  contract : ProxyContract
  polled : Instance

namespace PollFeed

inductive Action
  | transact (transaction : Chainlink.Transaction)
  | tick (moment : Moment)

section
variable (config : RelaydConfig) (reader : Reader) (interval : PollingInterval)

/-- A tick that reads the proxy. -/
def tickOn (contract : ProxyContract) (moment : Moment) : Instance.Tick where
  poll :=
    { latestRoundData :=
        (loadContractLatestRoundData reader.js config reader.isDateString moment.now interval.contract.address
          ((contract.responses reader.user reader.others).latestRoundData interval.contract.address)
          { decimals := some interval.decimals } true).map SourceValues.data
      now := moment.date
      writeFails := moment.writeFails
      getSourcePolled := moment.getSourcePolled }
  env := moment.env

def next (contract : ProxyContract) (transaction : Chainlink.Transaction) : ProxyContract :=
  { contract with ledger := contract.ledger.next transaction }

def step (client : Client) (s : PollFeed) : Action → Option PollFeed
  | .transact transaction => some { s with contract := next s.contract transaction }
  | .tick moment =>
    (Instance.wholeTick config client interval s.polled (tickOn config reader interval s.contract moment)).map fun polled =>
      { s with polled := polled }

/-- The transactions of a run. -/
def transactions (actions : List Action) : List Chainlink.Transaction :=
  actions.filterMap fun
    | .transact transaction => some transaction
    | .tick _ => none

/-- The ticks of a run, each with what it reads of the proxy. -/
def ticks : ProxyContract → List Action → List Instance.Tick
  | _, [] => []
  | contract, .transact transaction :: rest => ticks (next contract transaction) rest
  | contract, .tick moment :: rest => tickOn config reader interval contract moment :: ticks contract rest

end

/-- The proxy after transactions. -/
def after (contract : ProxyContract) (transactions : List Chainlink.Transaction) : ProxyContract :=
  { contract with ledger := contract.ledger.after transactions }

section
variable {config : RelaydConfig} {reader : Reader} {interval : PollingInterval} {client : Client} {s s' : PollFeed}
  {contract : ProxyContract} {actions : List Action}

/-- **A run of both is a run of each**, the interval's on what it reads of the proxy. -/
theorem run_eq : run (step config reader interval client) s actions = some s' ↔
    s'.contract = after s.contract (transactions actions) ∧
      run (Instance.wholeTick config client interval) s.polled (ticks config reader interval s.contract actions) =
        some s'.polled := by
  induction actions generalizing s with
  | nil =>
    simp only [run, transactions, ticks, after, List.filterMap_nil, Chainlink.Ledger.after, List.foldl_nil,
      Option.some.injEq]
    constructor
    · rintro rfl
      exact ⟨rfl, rfl⟩
    · rintro ⟨sameContract, samePolled⟩
      cases s
      cases s'
      cases sameContract
      cases samePolled
      rfl
  | cons a rest ih =>
    cases a with
    | transact transaction =>
      simp only [run, step, Option.bind_some, ih]
      rfl
    | tick moment =>
      simp only [run_cons, step, Option.map_eq_some_iff, ticks]
      constructor
      · rintro ⟨-, ⟨polled, ticked, rfl⟩, rest⟩
        obtain ⟨sameContract, ran⟩ := ih.1 rest
        exact ⟨sameContract, polled, ticked, ran⟩
      · rintro ⟨sameContract, polled, ticked, ran⟩
        exact ⟨_, ⟨polled, ticked, rfl⟩, ih.2 ⟨sameContract, ran⟩⟩

theorem ticks_append (contract : ProxyContract) (earlier later : List Action) :
    ticks config reader interval contract (earlier ++ later) =
      ticks config reader interval contract earlier ++
        ticks config reader interval (after contract (transactions earlier)) later := by
  induction earlier generalizing contract with
  | nil => rfl
  | cons a rest ih =>
    cases a with
    | transact transaction => exact ih (next contract transaction)
    | tick moment => exact congrArg (_ :: ·) (ih contract)

end

end PollFeed

/-! ## Rounds -/

/-- The data that are cast are the ones given. -/
theorem castSourceDataUpdate_source {writeFails : FeedSourceDataUpdate → Bool} {feedId sourceId : String}
    {sourceData : FeedSourceData} {reason : ESourceDataUpdateReason} {info : Option String} {upd : FeedSourceDataUpdate}
    (cast : castSourceDataUpdate writeFails feedId sourceId sourceData reason info = .ok upd) :
    upd.source = some sourceData := by
  simp only [castSourceDataUpdate] at cast
  split at cast
  · cases cast
  · cases cast
    rfl

/-- What a poll casts has the round that it read. -/
theorem loadContractData_round {poll : PollEnv} {interval : PollingInterval} {service : EthConnectService}
    {upd : FeedSourceDataUpdate} (cast : (loadContractData poll interval service).value = .ok (some upd)) :
    ∃ read, poll.latestRoundData = .ok read ∧ upd.source.bind FeedSourceData.round = read.round := by
  unfold loadContractData at cast
  cases answer : poll.latestRoundData with
  | error error =>
    rw [answer] at cast
    cases cast
  | ok read =>
    refine ⟨read, rfl, ?_⟩
    rw [answer] at cast
    cases onNotif : interval.notif with
    | none =>
      rw [onNotif] at cast
      cases cast
    | some notif =>
      cases notif with
      | CHECK =>
        simp only [onNotif, Traced.pure_apply, rethrow_eq_ok, map_eq_ok] at cast
        obtain ⟨upd', written, ⟨⟩⟩ := cast
        rw [castSourceDataUpdate_source written]
        rfl
      | CHANGE =>
        simp only [onNotif, Traced.bind_apply] at cast
        cases changed : (checkForSourceDataChange poll interval.contract.address read service).value with
        | error error =>
          rw [changed] at cast
          cases cast
        | ok hasChanged =>
          cases hasChanged with
          | false =>
            rw [changed] at cast
            cases cast
          | true =>
            simp only [changed, Traced.pure_apply, rethrow_eq_ok, map_eq_ok] at cast
            obtain ⟨upd', written, ⟨⟩⟩ := cast
            rw [castSourceDataUpdate_source written]
            rfl

namespace Instance

/-- The rounds that the ticks read. -/
def readRounds (ticks : List Tick) : List Int :=
  ticks.filterMap fun tick => tick.poll.latestRoundData.toOption.bind FeedSourceData.round

/-- The rounds of the data that were cast. -/
def castRounds (updates : List FeedSourceDataUpdate) : List Int :=
  updates.filterMap fun upd => upd.source.bind FeedSourceData.round

section
variable {config : RelaydConfig} {client : Client} {interval : PollingInterval} {s s' : Instance} {tick : Tick}
  {ticks : List Tick}

/-- A tick casts no round or the one that it reads. -/
theorem wholeTick_rounds (polls : s.Polls interval) (ticked : wholeTick config client interval s tick = some s') :
    ∃ rounds, castRounds s'.updates = castRounds s.updates ++ rounds ∧ List.Sublist rounds (readRounds [tick]) := by
  rw [wholeTick_eq config client interval polls] at ticked
  cases outcome : (loadContractData tick.poll interval s.service).value with
  | error error =>
    simp only [outcome, Option.some.injEq] at ticked
    subst ticked
    refine ⟨[], ?_, List.nil_sublist _⟩
    rw [(countError_stops config client (polls.polled tick.poll) tick.env error).2.1, List.append_nil]
    rfl
  | ok upd =>
    simp only [outcome, Option.some.injEq] at ticked
    subst ticked
    refine ⟨castRounds upd.toList, List.filterMap_append, ?_⟩
    cases upd with
    | none => exact List.nil_sublist _
    | some upd =>
      obtain ⟨read, answer, same⟩ := loadContractData_round outcome
      simp only [castRounds, readRounds, Option.toList_some, List.filterMap_cons, List.filterMap_nil, answer, same,
        Except.toOption, Option.bind_some]
      exact List.Sublist.refl _

/-- **The rounds that an interval casts are among those it reads, in their order.** -/
theorem run_rounds (polls : s.Polls interval) (ran : run (wholeTick config client interval) s ticks = some s') :
    ∃ rounds, castRounds s'.updates = castRounds s.updates ++ rounds ∧ List.Sublist rounds (readRounds ticks) := by
  induction ticks generalizing s with
  | nil =>
    cases ran
    exact ⟨[], (List.append_nil _).symm, List.Sublist.refl _⟩
  | cons tick ticks ih =>
    obtain ⟨s₁, ticked, rest⟩ := run_cons.1 ran
    obtain ⟨first, cast, read⟩ := wholeTick_rounds polls ticked
    have both : readRounds (tick :: ticks) = readRounds [tick] ++ readRounds ticks := List.filterMap_append (l := [tick])
    rcases wholeTick_polls polls ticked with polls₁ | stopped
    · obtain ⟨later, castLater, readLater⟩ := ih polls₁ rest
      refine ⟨first ++ later, by rw [castLater, cast, List.append_assoc], ?_⟩
      rw [both]
      exact read.append readLater
    · obtain rfl := run_stopped stopped rest
      cases rest
      exact ⟨first, cast, read⟩

end

end Instance

namespace PollFeed

/-- The aggregator in force at any time of the run counts its rounds up from then on, within 64 bits. -/
def CountsUp (contract : ProxyContract) (transactions : List Chainlink.Transaction) : Prop :=
  ∀ first mid last, transactions = first ++ mid ++ last →
    let l := contract.ledger.after first
    let l' := l.after mid
    ∀ original original', l.chain.call contract.address l.proxy.currentPhase.aggregator (·.latestRoundData) = .ok original →
      l'.chain.call contract.address l.proxy.currentPhase.aggregator (·.latestRoundData) = .ok original' →
      original.roundId.toNat ≤ original'.roundId.toNat ∧ original'.roundId.toNat < 2 ^ 64

section
variable {config : RelaydConfig} {reader : Reader} {interval : PollingInterval} {client : Client} {s s' : PollFeed}
  {contract : ProxyContract} {moment : Moment} {actions : List Action} {data : FeedSourceData}

/-- What a tick reads are the round data of the proxy. -/
theorem tickOn_read (isProxy : interval.contract.address = contract.text contract.address)
    (read : (tickOn config reader interval contract moment).poll.latestRoundData = .ok data) :
    ∃ round values, contract.ledger.proxy.latestRoundData contract.address contract.ledger.chain = .ok round ∧
      convertRoundData reader.js (roundResult round) { decimals := some interval.decimals } = .ok values ∧
      isPositive values.value = true ∧ values.data = data := by
  obtain ⟨values, loaded, rfl⟩ := map_eq_ok.1 read
  obtain ⟨result, answered, converted, positive, -⟩ := loadContractLatestRoundData_ok loaded
  simp only [ProxyContract.responses, isProxy, ↓reduceIte] at answered
  obtain ⟨round, granted, rfl⟩ := map_eq_ok.1 answered
  refine ⟨round, values, ?_, converted, positive, rfl⟩
  rcases Chainlink.EACAggregatorProxy.checkAccess_eq (α := Chainlink.RoundData) contract.ledger.chain
    contract.ledger.proxy reader.user .latestRoundData with ⟨-, open'⟩ | ⟨-, reason, fails⟩
  · rwa [open'] at granted
  · rw [fails] at granted
    cases granted

/-- Each tick reads the proxy after some of the transactions. -/
theorem mem_ticks {tick : Instance.Tick} (member : tick ∈ ticks config reader interval contract actions) :
    ∃ first last moment, transactions actions = first ++ last ∧ Action.tick moment ∈ actions ∧
      tick = tickOn config reader interval (after contract first) moment := by
  induction actions generalizing contract with
  | nil => cases member
  | cons a rest ih =>
    cases a with
    | transact transaction =>
      obtain ⟨first, last, moment, split, listed, rfl⟩ := ih member
      exact ⟨transaction :: first, last, moment, congrArg (transaction :: ·) split, .tail _ listed, rfl⟩
    | tick moment =>
      rcases List.mem_cons.1 member with rfl | member
      · exact ⟨[], transactions rest, moment, rfl, .head _, rfl⟩
      · obtain ⟨first, last, moment', split, listed, rfl⟩ := ih member
        exact ⟨first, last, moment', split, .tail _ listed, rfl⟩

/-- What holds of a proxy and the same proxy later in the run holds of any two ticks. -/
theorem ticks_pairwise {R : Instance.Tick → Instance.Tick → Prop}
    (ordered : ∀ first mid last, transactions actions = first ++ mid ++ last → ∀ moment moment',
      R (tickOn config reader interval (after contract first) moment)
        (tickOn config reader interval (after contract (first ++ mid)) moment')) :
    (ticks config reader interval contract actions).Pairwise R := by
  induction actions generalizing contract with
  | nil => exact .nil
  | cons a rest ih =>
    cases a with
    | transact transaction =>
      apply ih
      intro first mid last split
      exact ordered (transaction :: first) mid last (congrArg (transaction :: ·) split)
    | tick moment =>
      refine .cons ?_ (ih ordered)
      intro tick member
      obtain ⟨mid, last, moment', split, -, rfl⟩ := mem_ticks member
      exact ordered [] mid last split moment moment'

/-- The round of the later tick is not below that of the earlier one. -/
def RoundsGrow (tick tick' : Instance.Tick) : Prop :=
  ∀ data data', tick.poll.latestRoundData = .ok data → tick'.poll.latestRoundData = .ok data' →
    ∃ round round', data.round = some round ∧ data'.round = some round' ∧ round ≤ round'

/-- The rounds that the ticks read grow over a run. -/
theorem ticks_rounds_grow (numbers : RoundsNumbers reader.js)
    (isProxy : interval.contract.address = contract.text contract.address) {l : Chainlink.Ledger}
    (leads : contract.ledger.Leads (transactions actions) l) (counts : CountsUp contract (transactions actions)) :
    (ticks config reader interval contract actions).Pairwise RoundsGrow := by
  apply ticks_pairwise
  intro first mid last split moment moment' data data' read read'
  have isProxyAfter : ∀ transactions, interval.contract.address =
      (after contract transactions).text (after contract transactions).address := fun _ => isProxy
  obtain ⟨round, values, given, converted, -, rfl⟩ := tickOn_read (isProxyAfter first) read
  obtain ⟨round', values', given', converted', -, rfl⟩ := tickOn_read (isProxyAfter (first ++ mid)) read'
  have between : (contract.ledger.after first).Leads mid ((contract.ledger.after first).after mid) :=
    (split ▸ leads).segment
  have later : contract.ledger.after (first ++ mid) = (contract.ledger.after first).after mid := List.foldl_append
  simp only [after, later] at given'
  have le := Chainlink.Ledger.latest_round_le between given given' (counts first mid last split)
  refine ⟨_, _, polled_round numbers rfl converted, polled_round numbers rfl converted', ?_⟩
  exact_mod_cast toSignificant_mono (by decide) le

/-- **An interval over a proxy never casts an older round after a newer one**, whatever transactions the ticks fall
between. -/
theorem cast_rounds_grow (numbers : RoundsNumbers reader.js) (polls : s.polled.Polls interval)
    (isProxy : interval.contract.address = s.contract.text s.contract.address)
    (leads : s.contract.ledger.Leads (transactions actions) s'.contract.ledger)
    (counts : CountsUp s.contract (transactions actions))
    (ran : run (step config reader interval client) s actions = some s') :
    ∃ rounds, Instance.castRounds s'.polled.updates = Instance.castRounds s.polled.updates ++ rounds ∧
      rounds.Pairwise (· ≤ ·) := by
  obtain ⟨-, polled⟩ := run_eq.1 ran
  obtain ⟨rounds, cast, read⟩ := Instance.run_rounds polls polled
  refine ⟨rounds, cast, List.Pairwise.sublist read ?_⟩
  refine (ticks_rounds_grow numbers isProxy leads counts).filterMap _ ?_
  intro tick tick' grow round isRound round' isRound'
  obtain ⟨data, answered, same⟩ := Option.bind_eq_some_iff.1 isRound
  obtain ⟨data', answered', same'⟩ := Option.bind_eq_some_iff.1 isRound'
  obtain ⟨_, _, has, has', le⟩ := grow data data' (toOption_eq_some.1 answered) (toOption_eq_some.1 answered')
  cases same.symm.trans has
  cases same'.symm.trans has'
  exact le

end

/-- A proxy that anyone may read. -/
def polledProxy : ProxyContract where
  ledger := .deploy 1 2 0 Chainlink.Ledger.aggregators
  address := 9
  text := guardedProxy.text

def relayReader : Reader where
  user := 5
  js := wholeJs
  isDateString := noonEnv.isDateString
  others := answering (.error "") []

def noon : Moment where
  now := noonEnv.now
  date := "2022-04-15T12:01:00.000Z"
  writeFails _ := false
  getSourcePolled := "getSourcePolled()"
  env := healthyEnv

/-- At noon every cast is accepted. -/
theorem noon_accepts {actions : List Action} (noons : ∀ moment, Action.tick moment ∈ actions → moment = noon) :
    ∀ moment, Action.tick moment ∈ actions → ∀ upd, moment.writeFails upd = false := by
  intro moment listed upd
  rw [noons moment listed]
  rfl

/-- The aggregator is replaced between two ticks. -/
def replacedBetween : List Action :=
  .tick noon :: Chainlink.Ledger.replaced.map .transact ++ [.tick noon]

/-- The calls of the proxy leave the other contracts. -/
theorem after_chain {transactions : List Chainlink.Transaction}
    (calls : ∀ t ∈ transactions, ∃ sender call, t = .send sender call) (l : Chainlink.Ledger) :
    (l.after transactions).chain = l.chain := by
  induction transactions generalizing l with
  | nil => rfl
  | cons t rest ih =>
    obtain ⟨isCall, later⟩ := List.forall_mem_cons.1 calls
    obtain ⟨sender, call, rfl⟩ := isCall
    have here : (l.next (.send sender call)).chain = l.chain := by
      simp only [Chainlink.Ledger.next]
      split <;> rfl
    exact (ih later _).trans here

/-- The rounds of both aggregators are within 64 bits. -/
theorem aggregators_small {caller aggregator : Chainlink.Address} {original : Chainlink.RoundData}
    (given : Chainlink.Ledger.aggregators.call caller aggregator (·.latestRoundData) = .ok original) :
    original.roundId.toNat < 2 ^ 64 := by
  unfold Chainlink.Chain.call at given
  split at given
  case h_2 => cases given
  case h_1 contract code =>
    have listed : [(2, Chainlink.firstRound.contract), (3, Chainlink.secondRound.contract)].lookup aggregator =
        some contract := by
      simp only [Chainlink.Ledger.aggregators, Chainlink.Chain.of] at code
      split at code
      · cases code
      · exact code
    simp only [List.lookup_cons, List.lookup_nil] at listed
    split at listed
    · cases listed
      cases given
      decide
    · split at listed
      · cases listed
        cases given
        decide
      · cases listed

theorem replaced_countsUp : CountsUp polledProxy Chainlink.Ledger.replaced := by
  have calls : ∀ t ∈ Chainlink.Ledger.replaced, ∃ sender call, t = Chainlink.Transaction.send sender call := by
    simp [Chainlink.Ledger.replaced]
  intro first mid last split
  rw [split] at calls
  have chain : (polledProxy.ledger.after first).chain = polledProxy.ledger.chain :=
    after_chain (fun t member => calls t (by simp [member])) polledProxy.ledger
  have chain' : ((polledProxy.ledger.after first).after mid).chain = (polledProxy.ledger.after first).chain :=
    after_chain (fun t member => calls t (by simp [member])) (polledProxy.ledger.after first)
  intro l l' original original' given given'
  rw [chain', chain] at given'
  rw [chain] at given
  cases given.symm.trans given'
  exact ⟨Nat.le_refl _, aggregators_small given⟩

/-- The rounds of the second aggregator are cast after those of the first one. -/
theorem cast_rounds_grow_replaced :
    ∃ s', run (step RelaydConfig.prod relayReader Instance.btcInterval Instance.relayClient)
        ⟨polledProxy, Instance.polling⟩ replacedBetween = some s' ∧
      (Instance.castRounds s'.polled.updates).length = 2 ∧
      (Instance.castRounds s'.polled.updates).Pairwise (· ≤ ·) := by
  have possible : (run (step RelaydConfig.prod relayReader Instance.btcInterval Instance.relayClient)
      ⟨polledProxy, Instance.polling⟩ replacedBetween).any
        (fun s' => (Instance.castRounds s'.polled.updates).length = 2) = true := by decide +kernel
  obtain ⟨s', ran, both⟩ := (Option.any_eq_true _ _).1 possible
  refine ⟨s', ran, of_decide_eq_true both, ?_⟩
  have leads : polledProxy.ledger.Leads Chainlink.Ledger.replaced s'.contract.ledger := by
    rw [(run_eq.1 ran).1]
    exact Chainlink.Ledger.replaced_leads
  obtain ⟨rounds, cast, grow⟩ :=
    cast_rounds_grow wholeJs_roundsNumbers Instance.polling_polls (by decide) leads replaced_countsUp ran
  rw [cast]
  exact grow

end PollFeed

/-! ## Polls without an answer -/

namespace Instance

/-- The number of ticks that read nothing. -/
def unanswered (ticks : List Tick) : Nat := ticks.countP fun tick => !tick.poll.latestRoundData.isOk

section
variable {config : RelaydConfig} {client : Client} {interval : PollingInterval} {s s' : Instance} {tick : Tick}
  {ticks : List Tick}

/-- As long as casts are accepted, a tick of a poll for changes fails exactly when it reads nothing. -/
theorem fails_eq (polls : s.Polls interval) (onChange : interval.notif = some .CHANGE)
    (accepted : ∀ upd, tick.poll.writeFails upd = false) : s.fails interval tick = !tick.poll.latestRoundData.isOk := by
  obtain ⟨previous, entry, -⟩ := Option.map_eq_some_iff.1 polls.registered
  rw [fails, loadContractData_change tick.poll onChange entry]
  cases answer : tick.poll.latestRoundData with
  | error error => rfl
  | ok read =>
    simp only [castSourceDataUpdate, accepted, Bool.false_eq_true, ↓reduceIte]
    split <;> rfl

/-- The run lemma, from any number of errors counted before. -/
theorem run_unanswered (polls : s.Polls interval) (onChange : interval.notif = some .CHANGE)
    (accepted : ∀ tick ∈ ticks, ∀ upd, tick.poll.writeFails upd = false)
    (ran : run (wholeTick config client interval) s ticks = some s') :
    (s'.Polls interval ∧
        (unanswered ticks = 0 ∨ s.errors interval.timeout + unanswered ticks + 1 < config.maxSuccessiveErrorToStopPolling)) ∨
      s'.Stopped interval ∧ 1 ≤ unanswered ticks ∧
        config.maxSuccessiveErrorToStopPolling ≤ s.errors interval.timeout + unanswered ticks + 1 := by
  induction ticks generalizing s with
  | nil =>
    cases ran
    exact Or.inl ⟨polls, Or.inl rfl⟩
  | cons tick ticks ih =>
    obtain ⟨s₁, ticked, rest⟩ := run_cons.1 ran
    obtain ⟨here, later⟩ := List.forall_mem_cons.1 accepted
    obtain ⟨counted, stops⟩ := wholeTick_counts polls ticked
    have failed := fails_eq polls onChange here
    have number : unanswered (tick :: ticks) = (s.fails interval tick).toNat + unanswered ticks := by
      rw [failed, unanswered, List.countP_cons, Nat.add_comm]
      cases tick.poll.latestRoundData.isOk <;> rfl
    rw [number]
    split at stops
    case isTrue limit =>
      obtain rfl := run_stopped stops rest
      cases rest
      right
      rw [limit.1]
      exact ⟨stops, Nat.le_add_right _ _, by simpa [unanswered] using limit.2⟩
    case isFalse below =>
      have below' : s.fails interval tick = false ∨
          s.fails interval tick = true ∧ s.errors interval.timeout + 2 < config.maxSuccessiveErrorToStopPolling := by
        cases passes : s.fails interval tick with
        | false => exact Or.inl rfl
        | true => exact Or.inr ⟨rfl, Nat.lt_of_not_le fun reached => below ⟨passes, reached⟩⟩
      rcases ih stops later rest with ⟨running, few⟩ | ⟨stopped, some', many⟩
      · refine Or.inl ⟨running, ?_⟩
        rcases below' with passes | ⟨fails, far⟩
        · rw [passes, Bool.toNat_false] at counted ⊢
          omega
        · rw [fails, Bool.toNat_true] at counted ⊢
          omega
      · refine Or.inr ⟨stopped, by omega, by omega⟩

end

end Instance

namespace PollFeed

section
variable {config : RelaydConfig} {reader : Reader} {interval : PollingInterval} {client : Client} {s s' : PollFeed}
  {contract : ProxyContract} {moment : Moment} {actions : List Action}

instance (contract : ProxyContract) (user : Chainlink.Address) (data : Chainlink.View) :
    Decidable (contract.ledger.proxy.Grants contract.ledger.chain user data) := inferInstanceAs (Decidable (_ ∨ _))

/-- The proxy denies the reader its round data. -/
def Denied (reader : Reader) (contract : ProxyContract) : Prop :=
  ¬ contract.ledger.proxy.Grants contract.ledger.chain reader.user .latestRoundData

instance (reader : Reader) (contract : ProxyContract) : Decidable (Denied reader contract) :=
  inferInstanceAs (Decidable (¬ _))

/-- A denied poll reads nothing. -/
theorem tickOn_denied (isProxy : interval.contract.address = contract.text contract.address)
    (denied : Denied reader contract) :
    (tickOn config reader interval contract moment).poll.latestRoundData.isOk = false := by
  obtain ⟨reason, fails⟩ := @ProxyContract.responses_denied contract reader.user reader.others denied
  cases read : (tickOn config reader interval contract moment).poll.latestRoundData with
  | error _ => rfl
  | ok data =>
    obtain ⟨values, loaded, rfl⟩ := map_eq_ok.1 read
    obtain ⟨result, answered, -⟩ := loadContractLatestRoundData_ok loaded
    rw [isProxy, fails] at answered
    cases answered

/-- **The polls that a proxy denies stop the interval**, whatever it answers in between: as long as casts are accepted, the
interval is stopped exactly by the last but one of the errors that are allowed, and each denied poll is one of them. -/
theorem stopped_iff_unanswered (polls : s.polled.Polls interval) (uncounted : s.polled.errors interval.timeout = 0)
    (onChange : interval.notif = some .CHANGE) (isProxy : interval.contract.address = s.contract.text s.contract.address)
    (accepted : ∀ moment, Action.tick moment ∈ actions → ∀ upd, moment.writeFails upd = false)
    (ran : run (step config reader interval client) s actions = some s') :
    let unanswered := Instance.unanswered (ticks config reader interval s.contract actions)
    (s'.polled.Stopped interval ↔ 1 ≤ unanswered ∧ config.maxSuccessiveErrorToStopPolling ≤ unanswered + 1) ∧
      ∀ earlier moment later, actions = earlier ++ .tick moment :: later →
        Denied reader (after s.contract (transactions earlier)) →
        ∃ tick rest, ticks config reader interval s.contract actions =
            ticks config reader interval s.contract earlier ++ tick :: rest ∧ tick.poll.latestRoundData.isOk = false := by
  intro unanswered
  have taken : ∀ tick ∈ ticks config reader interval s.contract actions, ∀ upd, tick.poll.writeFails upd = false := by
    intro tick member
    obtain ⟨-, -, moment, -, listed, rfl⟩ := mem_ticks member
    exact accepted moment listed
  constructor
  · rcases Instance.run_unanswered polls onChange taken (run_eq.1 ran).2 with ⟨running, few⟩ | ⟨stopped, some', many⟩
    · refine iff_of_false running.not_stopped ?_
      rw [uncounted] at few
      omega
    · refine iff_of_true stopped ⟨some', ?_⟩
      rw [uncounted] at many
      omega
  · rintro earlier moment later rfl denied
    exact ⟨_, _, ticks_append s.contract earlier (.tick moment :: later), tickOn_denied isProxy denied⟩

end

/-- The owner closes the proxy to the client, opens it again and closes it. -/
def closedTwice : List Action :=
  [.tick noon, .transact (.send 1 (.setController 7)), .tick noon, .transact (.send 1 (.setController 0)), .tick noon,
    .transact (.send 1 (.setController 7)), .tick noon]

/-- The poll after the first closing is unanswered, and the one after the second closing stops the interval, with a maximum
of three successive errors. -/
theorem stopped_iff_unanswered_closed :
    ∃ s', run (step RelaydConfig.prod relayReader Instance.btcInterval Instance.relayClient)
        ⟨polledProxy, Instance.polling⟩ closedTwice = some s' ∧ s'.polled.Stopped Instance.btcInterval ∧
      ∃ tick rest, ticks RelaydConfig.prod relayReader Instance.btcInterval polledProxy closedTwice =
          ticks RelaydConfig.prod relayReader Instance.btcInterval polledProxy (closedTwice.take 2) ++ tick :: rest ∧
        tick.poll.latestRoundData.isOk = false := by
  have possible : (run (step RelaydConfig.prod relayReader Instance.btcInterval Instance.relayClient)
      ⟨polledProxy, Instance.polling⟩ closedTwice).isSome = true := by decide +kernel
  obtain ⟨s', ran⟩ := Option.isSome_iff_exists.1 possible
  have accepted := @noon_accepts closedTwice (by simp [closedTwice])
  have stops := stopped_iff_unanswered Instance.polling_polls rfl rfl (by decide) accepted ran
  refine ⟨s', ran, stops.1.2 ⟨?_, ?_⟩, ?_⟩
  · decide +kernel
  · decide +kernel
  · exact stops.2 (closedTwice.take 2) noon (closedTwice.drop 3) rfl (by decide)

end PollFeed

end Relayd.EthClient
