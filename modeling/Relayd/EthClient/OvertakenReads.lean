import Relayd.EthClient.LostChanges

/-!
# Polls that overlap

An interval does not wait for its last poll, so that the chain may answer a poll
after a later one. Whether data have changed is decided by their value alone: an
answer that a later one has overtaken is taken for a change when its value is
another one, and its round is then an older one.
-/

namespace Relayd.EthClient
set_option autoImplicit false
open Relayd.Common Sys

/-- The data that a poll hands to `castSourceDataUpdate` as a change. -/
def handedChange (poll : PollEnv) (interval : PollingInterval) (service : EthConnectService) : Option FeedSourceData :=
  match interval.notif, poll.latestRoundData with
  | some .CHANGE, .ok result =>
    match (checkForSourceDataChange poll interval.contract.address result service).value with
    | .ok true => some result
    | _ => none
  | _, _ => none

/-- Data are a change when the source is polled and their value is not the one seen last. -/
theorem checkForSourceDataChange_value (poll : PollEnv) (sourceId : String) (data : FeedSourceData)
    (service : EthConnectService) :
    (checkForSourceDataChange poll sourceId data service).value = .ok true ↔
      ∃ previous, service.sourcePolling.get sourceId = some previous ∧
        previous.data.map FeedSourceData.value ≠ some data.value := by
  simp only [checkForSourceDataChange, Traced.read_bind_apply]
  cases service.sourcePolling.get sourceId with
  | none =>
    apply iff_of_false
    · rintro ⟨⟩
    · rintro ⟨previous, ⟨⟩, -⟩
  | some previous =>
    have isChange : (previous.data.all fun previousData => previousData.value ≠ data.value) = true ↔
        previous.data.map FeedSourceData.value ≠ some data.value := by
      cases previous.data <;> simp
    simp only [Option.some.injEq, exists_eq_left', ← isChange, Traced.ite_apply]
    split
    case isTrue changed => exact iff_of_true rfl changed
    case isFalse same =>
      refine iff_of_false ?_ same
      rintro ⟨⟩

/-- **What is cast as a change is what is handed over**, unless its cast is refused. -/
theorem loadContractData_handed (poll : PollEnv) (interval : PollingInterval) (service : EthConnectService)
    (upd : FeedSourceDataUpdate) :
    ((loadContractData poll interval service).value = .ok (some upd) ∧ upd.reason = some .DATA_CHANGE) ↔
      ∃ data, handedChange poll interval service = some data ∧
        castSourceDataUpdate poll.writeFails interval.feedId interval.contract.address data .DATA_CHANGE none = .ok upd := by
  unfold loadContractData handedChange
  cases poll.latestRoundData with
  | error error =>
    apply iff_of_false
    · rintro ⟨⟨⟩, -⟩
    · cases interval.notif with
      | none => rintro ⟨data, ⟨⟩, -⟩
      | some notif => cases notif <;> rintro ⟨data, ⟨⟩, -⟩
  | ok result =>
    cases interval.notif with
    | none =>
      apply iff_of_false
      · rintro ⟨⟨⟩, -⟩
      · rintro ⟨data, ⟨⟩, -⟩
    | some notif =>
      cases notif with
      | CHECK =>
        refine iff_of_false ?_ (by rintro ⟨data, ⟨⟩, -⟩)
        rintro ⟨value, reason⟩
        simp only [Traced.pure_apply, castSourceDataUpdate] at value
        split at value <;> cases value
        cases reason
      | CHANGE =>
        simp only [Traced.bind_apply]
        cases (checkForSourceDataChange poll interval.contract.address result service).value with
        | error error =>
          apply iff_of_false
          · rintro ⟨⟨⟩, -⟩
          · rintro ⟨data, ⟨⟩, -⟩
        | ok hasChanged =>
          cases hasChanged with
          | false =>
            apply iff_of_false
            · rintro ⟨⟨⟩, -⟩
            · rintro ⟨data, ⟨⟩, -⟩
          | true =>
            simp only [Traced.pure_apply, castSourceDataUpdate, Option.some.injEq, exists_eq_left']
            split
            · apply iff_of_false
              · rintro ⟨⟨⟩, -⟩
              · rintro ⟨⟩
            · constructor
              · rintro ⟨⟨⟩, -⟩
                rfl
              · rintro ⟨⟩
                exact ⟨rfl, rfl⟩

/-- An answer adds the update that `loadContractData` gives, when it gives one. -/
theorem Instance.answer_updates {config : RelaydConfig} {client : Client} {s s' : Instance} {n : Nat} {poll : PollEnv}
    {interval : PollingInterval} (answered : s.step config client (.answer n poll) = some s')
    (asked : s.underWay[n]? = some interval) :
    s'.updates = s.updates ++ (loadContractData poll interval s.service).value.toOption.join.toList := by
  simp only [Instance.step, asked, Option.map_some, Option.some.injEq] at answered
  subst answered
  cases value : (loadContractData poll interval s.service).value with
  | error error => exact (List.append_nil _).symm
  | ok update =>
    cases update with
    | none => exact (List.append_nil _).symm
    | some upd => rfl

/-- No other action adds one. -/
theorem Instance.step_updates {config : RelaydConfig} {client : Client} {s s' : Instance} {a : Instance.Action}
    (other : ∀ n poll, a ≠ .answer n poll) (stepped : s.step config client a = some s') : s'.updates = s.updates := by
  cases a with
  | answer n poll => exact absurd rfl (other n poll)
  | resume n env =>
    obtain ⟨pending, -, rfl⟩ := Option.map_eq_some_iff.1 stepped
    cases pending with
    | stopFailedListening | removeAllListeners => rfl
    | countError interval error =>
      simp only [Instance.countError]
      split <;> rfl
  | tick timeout =>
    obtain ⟨interval, -, rfl⟩ := Option.map_eq_some_iff.1 stepped
    rfl
  | initiate env sourceConfig feedId =>
    simp only [Instance.step] at stepped
    split at stepped
    · cases stepped
      rfl
    · split at stepped <;> cases stepped <;> rfl
    · cases stepped
      rfl
  | stopPolling | stopAllPolling | stopListening | stopAllListening =>
    cases stepped
    rfl

/-- What `latestRoundData` of a contract gives. -/
structure RoundData where
  value : Rat
  time : String
  round : Int

def RoundData.data (read : RoundData) : FeedSourceData where
  value := some read.value
  time := some read.time
  round := some read.round

/-- An instance, with the chain that its polls read. -/
structure Reading where
  polled : Instance := {}
  /-- The round data of each contract, oldest first -/
  rounds : String → List RoundData := fun _ => []
  /-- For each poll under way, the position of the round data that it is answered with, once the chain has served it -/
  served : List (Option Nat) := []
  /-- For each contract, the newest position of which an answer has arrived -/
  latest : String → Nat := fun _ => 0
  /-- What was handed to `castSourceDataUpdate` as a change, by contract, oldest first -/
  handed : List (String × RoundData) := []

namespace Reading

inductive Action
  /-- The contract has new round data. -/
  | newRound (address : String) (data : RoundData)
  | tick (timeout : Nat)
  /-- The chain serves the `n`th poll under way. -/
  | serve (n : Nat)
  /-- The answer to the `n`th poll under way arrives, and meets the rest of the `PollEnv`. -/
  | answer (n : Nat) (poll : PollEnv)
  /-- The `n`th poll under way fails. -/
  | fail (n : Nat) (error : String) (poll : PollEnv)
  /-- Any other action of the instance -/
  | act (a : Instance.Action)

section
variable (config : RelaydConfig) (client : Client)

/-- One action. The rounds of a contract never decrease. -/
def step (s : Reading) : Action → Option Reading
  | .newRound address data =>
    if (s.rounds address).all fun earlier => earlier.round ≤ data.round then
      some { s with rounds := Function.update s.rounds address (s.rounds address ++ [data]) }
    else none
  | .tick timeout =>
    (s.polled.step config client (.tick timeout)).map fun polled =>
      { s with polled := polled, served := s.served ++ [none] }
  | .serve n =>
    match s.polled.underWay[n]?, s.served[n]? with
    | some interval, some none =>
      if s.rounds interval.contract.address = [] then none
      else some { s with served := s.served.set n (some ((s.rounds interval.contract.address).length - 1)) }
    | _, _ => none
  | .answer n poll => do
    let interval ← s.polled.underWay[n]?
    let position ← (← s.served[n]?)
    let address := interval.contract.address
    let read ← (s.rounds address)[position]?
    let poll := { poll with latestRoundData := .ok read.data }
    let polled ← s.polled.step config client (.answer n poll)
    some { s with
      polled := polled
      served := s.served.eraseIdx n
      latest := Function.update s.latest address (max (s.latest address) position)
      handed := s.handed ++ ((handedChange poll interval s.polled.service).map fun _ => (address, read)).toList }
  | .fail n error poll =>
    (s.polled.step config client (.answer n { poll with latestRoundData := .error error })).map fun polled =>
      { s with polled := polled, served := s.served.eraseIdx n }
  | .act (.tick _) | .act (.answer _ _) => none
  | .act a => (s.polled.step config client a).map fun polled => { s with polled := polled }

/-- The `n`th poll under way and the position of its answer, when a later answer has overtaken it. -/
def overtaken (s : Reading) (n : Nat) : Option (PollingInterval × Nat) := do
  let interval ← s.polled.underWay[n]?
  let position ← (← s.served[n]?)
  if position < s.latest interval.contract.address then some (interval, position) else none

/-- An answer that a later one has overtaken brings the value that was seen last, when it comes to a poll for changes
of a source that is still polled. -/
def InOrder (s : Reading) : Action → Prop
  | .answer n _ =>
    (s.overtaken n).all fun (interval, position) =>
      let address := interval.contract.address
      interval.notif ≠ some .CHANGE || (s.polled.service.sourcePolling.get address).all fun previous =>
        previous.data.map FeedSourceData.value = (s.rounds address)[position]?.map fun read => some read.value
  | _ => True

instance (s : Reading) : (a : Action) → Decidable (s.InOrder a)
  | .answer _ _ => inferInstanceAs (Decidable (_ = true))
  | .newRound _ _ | .tick _ | .serve _ | .fail _ _ _ | .act _ => isTrue True.intro

/-- The rounds handed over as changes of a source, oldest first. -/
def handedRounds (s : Reading) (address : String) : List Int :=
  (s.handed.filter fun handed => handed.1 = address).map fun handed => handed.2.round

/-- What was handed over is no newer than the newest answer that has arrived. -/
structure Ordered (s : Reading) : Prop where
  rounds : ∀ address, (s.rounds address).Pairwise fun earlier later => earlier.round ≤ later.round
  arrived : ∀ handed ∈ s.handed, ∃ position ≤ s.latest handed.1, (s.rounds handed.1)[position]? = some handed.2
  handed : ∀ address, (s.handedRounds address).Pairwise (· ≤ ·)

variable {config : RelaydConfig} {client : Client} {s s' : Reading} {a : Action}

/-- The action leaves the round data, what has arrived of them, what was handed over and what was cast. -/
structure Quiet (s s' : Reading) : Prop where
  rounds : s'.rounds = s.rounds
  latest : s'.latest = s.latest
  handed : s'.handed = s.handed
  updates : s'.polled.updates = s.polled.updates

/-- **What an action does to the round data, to what is handed over and to what is cast.** -/
inductive Effect (s : Reading) : Action → Reading → Prop
  | quiet (a : Action) (s' : Reading) (same : Quiet s s') : Effect s a s'
  | newRound (address : String) (data : RoundData) (newer : ∀ earlier ∈ s.rounds address, earlier.round ≤ data.round) :
    Effect s (.newRound address data)
      { s with rounds := Function.update s.rounds address (s.rounds address ++ [data]) }
  | answer (n : Nat) (poll : PollEnv) (interval : PollingInterval) (position : Nat) (read : RoundData) (s' : Reading)
    (asked : s.polled.underWay[n]? = some interval) (served : s.served[n]? = some (some position))
    (data : (s.rounds interval.contract.address)[position]? = some read) (rounds : s'.rounds = s.rounds)
    (latest : s'.latest = Function.update s.latest interval.contract.address
      (max (s.latest interval.contract.address) position))
    (handed : s'.handed = s.handed ++ ((handedChange { poll with latestRoundData := .ok read.data } interval
      s.polled.service).map fun _ => (interval.contract.address, read)).toList)
    (updates : s'.polled.updates = s.polled.updates ++ (loadContractData { poll with latestRoundData := .ok read.data } interval
      s.polled.service).value.toOption.join.toList) :
    Effect s (.answer n poll) s'

theorem step_effect (stepped : s.step config client a = some s') : Effect s a s' := by
  cases a with
  | newRound address data =>
    simp only [step] at stepped
    split at stepped
    case isTrue newer =>
      cases stepped
      exact .newRound address data (by simpa using newer)
    case isFalse => cases stepped
  | tick timeout =>
    obtain ⟨polled, ticked, rfl⟩ := Option.map_eq_some_iff.1 stepped
    exact .quiet _ _ ⟨rfl, rfl, rfl, Instance.step_updates (by rintro _ _ ⟨⟩) ticked⟩
  | serve n =>
    simp only [step] at stepped
    split at stepped
    · split at stepped
      · cases stepped
      · cases stepped
        exact .quiet _ _ ⟨rfl, rfl, rfl, rfl⟩
    · cases stepped
  | answer n poll =>
    simp only [step, Option.bind_eq_bind, Option.bind_eq_some_iff] at stepped
    obtain ⟨interval, asked, found, served, position, rfl, read, data, polled, answered, done⟩ := stepped
    cases done
    exact .answer n poll interval position read _ asked served data rfl rfl rfl (Instance.answer_updates answered asked)
  | fail n error poll =>
    obtain ⟨polled, failed, rfl⟩ := Option.map_eq_some_iff.1 stepped
    obtain ⟨interval, asked, -⟩ := Option.map_eq_some_iff.1 failed
    exact .quiet _ _ ⟨rfl, rfl, rfl, (Instance.answer_updates failed asked).trans (List.append_nil _)⟩
  | act a =>
    cases a with
    | tick | answer => cases stepped
    | initiate | resume | stopPolling | stopAllPolling | stopListening | stopAllListening =>
      simp only [step] at stepped
      obtain ⟨polled, acted, rfl⟩ := Option.map_eq_some_iff.1 stepped
      exact .quiet _ _ ⟨rfl, rfl, rfl, Instance.step_updates (by rintro _ _ ⟨⟩) acted⟩

/-- An answer that comes in order, or is no change, hands nothing over that is older than what has arrived. -/
theorem InOrder.handed {n : Nat} {poll : PollEnv} {interval : PollingInterval} {position : Nat} {read : RoundData}
    (inOrder : s.InOrder (.answer n poll)) (asked : s.polled.underWay[n]? = some interval)
    (served : s.served[n]? = some (some position)) (data : (s.rounds interval.contract.address)[position]? = some read)
    (overtaken : position < s.latest interval.contract.address) :
    handedChange { poll with latestRoundData := .ok read.data } interval s.polled.service = none := by
  simp only [InOrder, Reading.overtaken, asked, served, data, overtaken, Option.bind_eq_bind, Option.bind_some, ↓reduceIte,
    Option.all_some, Option.map_some, Bool.or_eq_true, decide_eq_true_eq] at inOrder
  unfold handedChange
  cases onChange : interval.notif with
  | none => rfl
  | some notif =>
    cases notif with
    | CHECK => rfl
    | CHANGE =>
      have seen := inOrder.resolve_left (not_not.2 onChange)
      have isChange := checkForSourceDataChange_value { poll with latestRoundData := .ok read.data }
        interval.contract.address read.data s.polled.service
      simp only
      split
      case h_1 changed =>
        obtain ⟨previous, polled, other⟩ := isChange.1 changed
        rw [polled] at seen
        simp only [Option.all_some, decide_eq_true_eq] at seen
        exact absurd seen other
      case h_2 => rfl

/-- Round data at an earlier position are of an earlier round. -/
theorem Ordered.older (ordered : s.Ordered) {address : String} {i j : Nat} {earlier later : RoundData} (before : i ≤ j)
    (there : (s.rounds address)[i]? = some earlier) (there' : (s.rounds address)[j]? = some later) :
    earlier.round ≤ later.round := by
  obtain ⟨within, rfl⟩ := List.getElem?_eq_some_iff.1 there
  obtain ⟨within', rfl⟩ := List.getElem?_eq_some_iff.1 there'
  rcases Nat.lt_or_eq_of_le before with before | rfl
  · exact List.pairwise_iff_getElem.1 (ordered.rounds address) i j within within' before
  · exact Int.le_refl _

/-- Answers may arrive without anything being handed over. -/
theorem Ordered.arrive (ordered : s.Ordered) (rounds : s'.rounds = s.rounds)
    (latest : ∀ address, s.latest address ≤ s'.latest address) (handed : s'.handed = s.handed) : s'.Ordered := by
  refine ⟨?_, ?_, ?_⟩
  · rw [rounds]
    exact ordered.rounds
  · rw [rounds, handed]
    intro given member
    obtain ⟨position, arrived, there⟩ := ordered.arrived given member
    exact ⟨position, arrived.trans (latest given.1), there⟩
  · simp only [handedRounds, handed]
    exact ordered.handed

/-- What is handed over as the newest answer arrives. -/
theorem Ordered.handOver (ordered : s.Ordered) {address : String} {position : Nat} {read : RoundData}
    (data : (s.rounds address)[position]? = some read) (onTime : s.latest address ≤ position)
    (rounds : s'.rounds = s.rounds) (latest : ∀ address, s.latest address ≤ s'.latest address)
    (arrives : position ≤ s'.latest address) (handed : s'.handed = s.handed ++ [(address, read)]) : s'.Ordered := by
  refine ⟨?_, ?_, ?_⟩
  · rw [rounds]
    exact ordered.rounds
  · rw [rounds, handed]
    intro given member
    rcases List.mem_append.1 member with member | member
    · obtain ⟨position, arrived, there⟩ := ordered.arrived given member
      exact ⟨position, arrived.trans (latest given.1), there⟩
    · cases List.mem_singleton.1 member
      exact ⟨position, arrives, data⟩
  · intro about
    simp only [handedRounds, handed, List.filter_append, List.map_append]
    refine List.pairwise_append.2 ⟨ordered.handed about, ?_, ?_⟩
    · by_cases same : address = about <;> simp [same]
    · intro earlier memberEarlier later memberLater
      obtain ⟨old, member, rfl⟩ := List.mem_map.1 memberEarlier
      obtain ⟨new, member', rfl⟩ := List.mem_map.1 memberLater
      obtain ⟨member, isAbout⟩ := List.mem_filter.1 member
      obtain ⟨member', isAbout'⟩ := List.mem_filter.1 member'
      cases List.mem_singleton.1 member'
      have same : old.1 = address := (of_decide_eq_true isAbout).trans (of_decide_eq_true isAbout').symm
      obtain ⟨i, arrived, there⟩ := ordered.arrived old member
      rw [same] at arrived there
      exact ordered.older (arrived.trans onTime) there data

theorem Effect.ordered (effect : Effect s a s') (inOrder : s.InOrder a) (ordered : s.Ordered) : s'.Ordered := by
  cases effect with
  | quiet a s' same => exact ordered.arrive same.rounds (fun address => by rw [same.latest]) same.handed
  | newRound address data newer =>
    refine ⟨?_, ?_, ordered.handed⟩
    · intro other
      by_cases same : other = address
      · subst same
        simp only [Function.update_self]
        exact List.pairwise_append.2 ⟨ordered.rounds other, List.pairwise_singleton _ _, by simpa using newer⟩
      · simp only [Function.update_of_ne same]
        exact ordered.rounds other
    · intro handed member
      obtain ⟨position, arrived, there⟩ := ordered.arrived handed member
      refine ⟨position, arrived, ?_⟩
      by_cases same : handed.1 = address
      · rw [same] at there
        simp only [same, Function.update_self]
        rw [List.getElem?_append_left (List.getElem?_eq_some_iff.1 there).1]
        exact there
      · simp only [Function.update_of_ne same]
        exact there
  | answer n poll interval position read s' asked served data rounds latest handed =>
    have kept : ∀ address, s.latest address ≤ s'.latest address := by
      intro address
      rw [latest]
      by_cases same : address = interval.contract.address
      · subst same
        rw [Function.update_self]
        exact Nat.le_max_left _ _
      · rw [Function.update_of_ne same]
    cases change : handedChange { poll with latestRoundData := .ok read.data } interval s.polled.service with
    | none =>
      rw [change, Option.map_none, Option.toList_none, List.append_nil] at handed
      exact ordered.arrive rounds kept handed
    | some _ =>
      rw [change, Option.map_some, Option.toList_some] at handed
      have onTime : s.latest interval.contract.address ≤ position := by
        apply Nat.le_of_not_lt
        intro overtaken
        rw [inOrder.handed asked served data overtaken] at change
        cases change
      refine ordered.handOver data onTime rounds kept ?_ handed
      rw [latest, Function.update_self]
      exact Nat.le_max_right _ _

theorem init_ordered : ({} : Reading).Ordered where
  rounds _ := List.Pairwise.nil
  arrived _ member := nomatch member
  handed _ := List.Pairwise.nil

/-- **As long as an overtaken answer brings no other value than the one seen last, the rounds handed over as changes
of a source never go backwards.** -/
theorem rounds_never_go_back (config : RelaydConfig) (client : Client) (as : List Action) (s : Reading)
    (along : Along (step config client) InOrder {} as) (reached : run (step config client) {} as = some s)
    (address : String) : (s.handedRounds address).Pairwise (· ≤ ·) := by
  have each : ∀ s a s', s.Ordered → s.InOrder a → step config client s a = some s' → s'.Ordered :=
    fun s a s' ordered inOrder stepped => (step_effect stepped).ordered inOrder ordered
  exact (invariant each init_ordered along reached).handed address

/-! ## What is written as a change -/

/-- The update is a change of the source. -/
def IsChangeOf (address : String) (upd : FeedSourceDataUpdate) : Prop :=
  upd.sourceId = some address ∧ upd.reason = some .DATA_CHANGE

instance (address : String) (upd : FeedSourceDataUpdate) : Decidable (IsChangeOf address upd) :=
  inferInstanceAs (Decidable (_ ∧ _))

/-- The rounds written as changes of a source, oldest first. -/
def writtenRounds (s : Reading) (address : String) : List (Option Int) :=
  (s.polled.updates.filter fun upd => IsChangeOf address upd).map fun upd => upd.source.bind FeedSourceData.round

/-- Only what was read is handed over. -/
theorem handedChange_read {poll : PollEnv} {interval : PollingInterval} {service : EthConnectService} {data : FeedSourceData}
    (handed : handedChange poll interval service = some data) : poll.latestRoundData = .ok data := by
  unfold handedChange at handed
  split at handed
  · split at handed
    · cases handed
      assumption
    · cases handed
  · cases handed

/-- What is written as a change on an answer was handed over: the data that were read. -/
theorem loadContractData_change_handed {poll : PollEnv} {interval : PollingInterval} {service : EthConnectService}
    {address : String} {upd : FeedSourceDataUpdate} (value : (loadContractData poll interval service).value = .ok (some upd))
    (change : IsChangeOf address upd) : address = interval.contract.address ∧
      ∃ data, poll.latestRoundData = .ok data ∧ handedChange poll interval service = some data ∧ upd.source = some data := by
  obtain ⟨data, handed, cast⟩ := (loadContractData_handed poll interval service upd).1 ⟨value, change.2⟩
  have sourceId := change.1
  simp only [castSourceDataUpdate] at cast
  split at cast <;> cases cast
  exact ⟨(Option.some.inj sourceId).symm, data, handedChange_read handed, handed, rfl⟩

/-- The rounds written as changes are among those handed over, in their order. -/
def Written (s : Reading) : Prop := ∀ address, (s.writtenRounds address).Sublist ((s.handedRounds address).map some)

/-- Handing over more, and writing nothing, keeps it so. -/
theorem Written.same (written : s.Written) (updates : s'.polled.updates = s.polled.updates)
    {more : List (String × RoundData)} (handed : s'.handed = s.handed ++ more) : s'.Written := by
  intro address
  have before := written address
  rw [writtenRounds, updates, handedRounds, handed, List.filter_append, List.map_append, List.map_append]
  exact before.trans (List.sublist_append_left _ _)

theorem Effect.written (effect : Effect s a s') (written : s.Written) : s'.Written := by
  cases effect with
  | quiet a s' same => exact written.same same.updates (same.handed.trans (List.append_nil _).symm)
  | newRound address data newer => exact written
  | answer n poll interval position read s' asked served data rounds latest handed updates =>
    cases cast : (loadContractData { poll with latestRoundData := .ok read.data } interval
        s.polled.service).value.toOption.join with
    | none =>
      rw [cast, Option.toList_none, List.append_nil] at updates
      exact written.same updates handed
    | some upd =>
      rw [cast, Option.toList_some] at updates
      intro address
      have before := written address
      by_cases change : IsChangeOf address upd
      · have value := toOption_eq_some.1 (Option.join_eq_some_iff.1 cast)
        obtain ⟨rfl, data', isRead, isHanded, source⟩ := loadContractData_change_handed value change
        cases isRead
        simp only [writtenRounds, handedRounds, updates, handed, isHanded, List.filter_append, List.map_append, change, source,
          Option.map_some, Option.toList_some, List.filter_cons_of_pos, List.filter_nil, decide_true, List.map_cons,
          List.map_nil, Option.bind_some]
        exact before.append (List.Sublist.refl _)
      · simp only [writtenRounds, handedRounds, updates, handed, List.filter_append, List.map_append, change, decide_false,
          Bool.false_eq_true, not_false_eq_true, List.filter_cons_of_neg, List.filter_nil, List.append_nil]
        exact before.trans (List.sublist_append_left _ _)

/-- **The rounds written as changes of a source are some of those handed over**, in their order, over every run. -/
theorem written_rounds_handed (config : RelaydConfig) (client : Client) (as : List Action) (s : Reading)
    (reached : run (step config client) {} as = some s) (address : String) :
    (s.writtenRounds address).Sublist ((s.handedRounds address).map some) := by
  have start : ({} : Reading).Written := fun _ => List.nil_sublist _
  have each : ∀ s a s', s.Written → True → step config client s a = some s' → s'.Written :=
    fun _ _ _ written _ stepped => (step_effect stepped).written written
  exact invariant each start Along.trivial reached address

end

/-- What the polls of `periodicSource` meet, besides the chain's answer. -/
def quietPoll : PollEnv where
  latestRoundData := .error ""
  now := "2022-04-15T12:00:10.000Z"
  writeFails := fun _ => false
  getSourcePolled := "getSourcePolled()"

/-- The source is polled twice, and each of the polls is served a round of its own; the first one is answered last. -/
def overlapping (first second : Rat) : List Action :=
  [.act (.initiate healthyEnv Instance.periodicSource "feed-btc"),
    .newRound proxyAddress { value := first, time := "2022-04-15T12:00:00.000Z", round := 7 }, .tick 1, .serve 0,
    .newRound proxyAddress { value := second, time := "2022-04-15T12:02:00.000Z", round := 8 }, .tick 1, .serve 1,
    .answer 1 quietPoll, .answer 0 quietPoll]

theorem overlapping_same_value : ∃ s, run (step RelaydConfig.prod Instance.relayClient) {} (overlapping 42000 42000) = some s ∧
    ∀ address, (s.handedRounds address).Pairwise (· ≤ ·) := by
  obtain ⟨s, reached⟩ : ∃ s, run (step RelaydConfig.prod Instance.relayClient) {} (overlapping 42000 42000) = some s := ⟨_, rfl⟩
  have along : Along (step RelaydConfig.prod Instance.relayClient) InOrder {} (overlapping 42000 42000) := by decide +kernel
  exact ⟨s, reached, rounds_never_go_back RelaydConfig.prod Instance.relayClient _ s along reached⟩

/-- With two values, the older round is handed over as the newer change. -/
theorem overlapping_goes_back : ∃ s, run (step RelaydConfig.prod Instance.relayClient) {} (overlapping 42000 43000) = some s ∧
    s.handedRounds proxyAddress = [8, 7] ∧ ¬ (s.handedRounds proxyAddress).Pairwise (· ≤ ·) := by
  refine ⟨_, rfl, ?_, ?_⟩ <;> decide +kernel

/-- The cast of the older round is refused. -/
def overlappingRefused : List Action :=
  (overlapping 42000 43000).dropLast ++ [.answer 0 { quietPoll with writeFails := fun _ => true }]

theorem written_rounds_handed_refused : ∃ s,
    run (step RelaydConfig.prod Instance.relayClient) {} overlappingRefused = some s ∧
      s.handedRounds proxyAddress = [8, 7] ∧ s.writtenRounds proxyAddress = [some 8] ∧
      ∀ address, (s.writtenRounds address).Sublist ((s.handedRounds address).map some) := by
  obtain ⟨s, reached, handed, written⟩ : ∃ s,
      run (step RelaydConfig.prod Instance.relayClient) {} overlappingRefused = some s ∧
        s.handedRounds proxyAddress = [8, 7] ∧ s.writtenRounds proxyAddress = [some 8] := by
    refine ⟨_, rfl, ?_, ?_⟩ <;> decide +kernel
  exact ⟨s, reached, handed, written,
    written_rounds_handed RelaydConfig.prod Instance.relayClient overlappingRefused s reached⟩

end Reading

end Relayd.EthClient
