import Relayd.EthClient.SuccessiveErrors

/-!
# Changes whose cast was rejected

A poll for changes keeps the data it read before their cast went through. After
a rejected cast the same value is no change any more, and a tick that reads it
ends without an error and without a cast.
-/

namespace Relayd.EthClient.Instance
set_option autoImplicit false
open Relayd.Common Sys

/-- The data last cast for a source. -/
def lastCast (sourceId : String) (s : Instance) : Option FeedSourceData :=
  (s.updates.filter fun upd => upd.sourceId = some sourceId).getLast?.bind FeedSourceDataUpdate.source

/-- The update in which a poll for changes casts the data it read. -/
def changeUpdate (interval : PollingInterval) (read : FeedSourceData) : FeedSourceDataUpdate where
  feedId := interval.feedId
  sourceId := some interval.contract.address
  source := some read
  reason := some .DATA_CHANGE

/-- The value of the data that the chain gives next. -/
def nextRead (later : List Tick) : Option (Option Rat) :=
  later.findSome? fun tick => tick.poll.latestRoundData.toOption.map FeedSourceData.value

section
variable (config : RelaydConfig) (client : Client) (interval : PollingInterval)

/-- A tick that ends without an error leaves the value it read as the one last cast. -/
def ChangeCast (s : Instance) (tick : Tick) : Prop :=
  ∀ s' read, wholeTick config client interval s tick = some s' → s.fails interval tick = false →
    tick.poll.latestRoundData = .ok read →
      (s'.lastCast interval.contract.address).map FeedSourceData.value = some read.value

/-- A value whose cast is rejected as it is seen first is not the next one to be read, unless it is the one
last cast anyway. -/
def RejectionPasses (s : Instance) (tick : Tick) (later : List Tick) : Prop :=
  ∀ read, tick.poll.latestRoundData = .ok read → (s.seen interval).map FeedSourceData.value ≠ some read.value →
    tick.poll.writeFails (changeUpdate interval read) = true →
    (s.lastCast interval.contract.address).map FeedSourceData.value ≠ some read.value → nextRead later ≠ some read.value

/-- **What a whole tick of a poll for changes does.** -/
inductive ChangeTick (s : Instance) (tick : Tick) (s' : Instance) : Prop
  | unread (error : String) (read : tick.poll.latestRoundData = .error error) (failed : s.fails interval tick = true)
    (updates : s'.updates = s.updates) (kept : s'.Stopped interval ∨ s'.seen interval = s.seen interval)
  | repeated (read : FeedSourceData) (answer : tick.poll.latestRoundData = .ok read)
    (same : (s.seen interval).map FeedSourceData.value = some read.value) (passes : s.fails interval tick = false)
    (updates : s'.updates = s.updates) (kept : s'.seen interval = s.seen interval)
  | cast (read : FeedSourceData) (answer : tick.poll.latestRoundData = .ok read)
    (changed : (s.seen interval).map FeedSourceData.value ≠ some read.value)
    (written : tick.poll.writeFails (changeUpdate interval read) = false)
    (updates : s'.updates = s.updates ++ [changeUpdate interval read]) (seen : s'.seen interval = some read)
  | rejected (read : FeedSourceData) (answer : tick.poll.latestRoundData = .ok read)
    (changed : (s.seen interval).map FeedSourceData.value ≠ some read.value)
    (refused : tick.poll.writeFails (changeUpdate interval read) = true) (failed : s.fails interval tick = true)
    (updates : s'.updates = s.updates) (seen : s'.Stopped interval ∨ s'.seen interval = some read)

instance (s : Instance) (tick : Tick) (later : List Tick) : Decidable (RejectionPasses interval s tick later) :=
  match answer : tick.poll.latestRoundData with
  | .error _ => isTrue fun _ isRead => nomatch answer.symm.trans isRead
  | .ok read =>
    decidable_of_iff ((s.seen interval).map FeedSourceData.value ≠ some read.value →
        tick.poll.writeFails (changeUpdate interval read) = true →
        (s.lastCast interval.contract.address).map FeedSourceData.value ≠ some read.value →
        nextRead later ≠ some read.value)
      ⟨fun passes _ isRead => Except.ok.inj (answer.symm.trans isRead) ▸ passes, fun passes => passes read answer⟩

variable {config client interval} {s s' : Instance} {tick : Tick} {ticks : List Tick}

variable (config client) in
/-- An error that is counted leaves the data seen last, unless it stops the interval. -/
theorem countError_seen (polls : s.Polls interval) (env : Env) (error : String) :
    (s.countError config client env interval error).updates = s.updates ∧
      ((s.countError config client env interval error).Stopped interval ∨
        (s.countError config client env interval error).seen interval = s.seen interval) := by
  obtain ⟨-, updates, stops⟩ := countError_stops config client polls env error
  refine ⟨updates, ?_⟩
  split at stops
  · exact Or.inl stops
  · right
    rw [Instance.seen, stops]
    rfl

theorem wholeTick_change (polls : s.Polls interval) (onChange : interval.notif = some .CHANGE)
    (ticked : wholeTick config client interval s tick = some s') : ChangeTick interval s tick s' := by
  obtain ⟨previous, entry, -⟩ := Option.map_eq_some_iff.1 polls.registered
  have seen : s.seen interval = previous.data := by rw [Instance.seen, entry, Option.bind_some]
  have polled := polls.polled tick.poll
  have called := loadContractData_change tick.poll onChange entry
  rw [wholeTick_eq config client interval polls] at ticked
  cases answer : tick.poll.latestRoundData with
  | error error =>
    rw [answer] at called
    have failed : s.fails interval tick = true := by
      rw [fails, called]
      rfl
    simp only [called, rethrow, Except.mapError, Option.some.injEq] at ticked polled
    subst ticked
    obtain ⟨updates, kept⟩ := countError_seen config client polled tick.env _
    exact .unread error answer failed updates kept
  | ok read =>
    rw [answer] at called
    have isChange : (previous.data.all fun previousData => previousData.value ≠ read.value) = true ↔
        (s.seen interval).map FeedSourceData.value ≠ some read.value := by
      rw [seen]
      cases previous.data <;> simp
    by_cases changed : (s.seen interval).map FeedSourceData.value ≠ some read.value
    · simp only [isChange.2 changed, ↓reduceIte, castSourceDataUpdate] at called
      cases written : tick.poll.writeFails (changeUpdate interval read) with
      | false =>
        rw [changeUpdate] at written
        simp only [written, Bool.false_eq_true, ↓reduceIte, Except.map, rethrow, Except.mapError] at called
        simp only [called, Option.some.injEq] at ticked
        subst ticked
        refine .cast read answer changed written rfl ?_
        simp only [Instance.seen, Instance.called, OrderedMap.get_set_same, Option.bind_some]
      | true =>
        rw [changeUpdate] at written
        simp only [written, ↓reduceIte, Except.map, rethrow, Except.mapError] at called
        have failed : s.fails interval tick = true := by
          rw [fails, called]
          rfl
        simp only [called, Option.some.injEq] at ticked polled
        subst ticked
        obtain ⟨updates, kept⟩ := countError_seen config client polled tick.env _
        refine .rejected read answer changed written failed updates (kept.imp_right fun kept => kept.trans ?_)
        simp only [Instance.seen, Instance.called, OrderedMap.get_set_same, Option.bind_some]
    · simp only [mt isChange.1 changed, Bool.false_eq_true, ↓reduceIte] at called
      have passes : s.fails interval tick = false := by
        rw [fails, called]
        rfl
      simp only [called, Option.some.injEq] at ticked
      subst ticked
      exact .repeated read answer (not_not.1 changed) passes (List.append_nil _) rfl

/-! ## Runs -/

theorem nextRead_nil (value : Option Rat) : nextRead [] ≠ some value := by
  intro read
  cases read

theorem nextRead_error {error : String} (unread : tick.poll.latestRoundData = .error error) (later : List Tick) :
    nextRead (tick :: later) = nextRead later := by
  rw [nextRead, List.findSome?_cons, unread]
  rfl

theorem nextRead_ok {read : FeedSourceData} (answer : tick.poll.latestRoundData = .ok read) (later : List Tick) :
    nextRead (tick :: later) = some read.value := by
  rw [nextRead, List.findSome?_cons, answer]
  rfl

theorem lastCast_same (updates : s'.updates = s.updates) (sourceId : String) : s'.lastCast sourceId = s.lastCast sourceId := by
  rw [lastCast, updates]
  rfl

theorem lastCast_append {read : FeedSourceData} (updates : s'.updates = s.updates ++ [changeUpdate interval read]) :
    s'.lastCast interval.contract.address = some read := by
  simp [lastCast, updates, changeUpdate]

/-- The interval runs after a whole tick, or was stopped by it. -/
theorem wholeTick_polls (polls : s.Polls interval) (ticked : wholeTick config client interval s tick = some s') :
    s'.Polls interval ∨ s'.Stopped interval := by
  have stops := (wholeTick_counts polls ticked).2
  split at stops
  · exact Or.inr stops
  · exact Or.inl stops

theorem run_polls (polls : s.Polls interval) (ran : run (wholeTick config client interval) s ticks = some s') :
    s'.Polls interval ∨ s'.Stopped interval := by
  have each : ∀ s tick s', (s.Polls interval ∨ s.Stopped interval) → True →
      wholeTick config client interval s tick = some s' → s'.Polls interval ∨ s'.Stopped interval := by
    rintro s tick s' (polls | stopped) - ticked
    · exact wholeTick_polls polls ticked
    · rw [wholeTick_stopped config client interval stopped] at ticked
      cases ticked
  exact invariant each (Or.inl polls) .trivial ran

/-- A stopped interval does not tick. -/
theorem run_stopped (stopped : s.Stopped interval) (ran : run (wholeTick config client interval) s ticks = some s') :
    ticks = [] := by
  cases ticks with
  | nil => rfl
  | cons tick ticks =>
    obtain ⟨s₁, ticked, -⟩ := run_cons.1 ran
    rw [wholeTick_stopped config client interval stopped] at ticked
    cases ticked

/-- A value seen but not cast, as long as every change is cast, is not the next one to be read. -/
theorem uncast_passes (onChange : interval.notif = some .CHANGE) {read : FeedSourceData} (polls : s.Polls interval)
    (seen : s.seen interval = some read)
    (uncast : (s.lastCast interval.contract.address).map FeedSourceData.value ≠ some read.value)
    (ran : run (wholeTick config client interval) s ticks = some s')
    (along : Along (wholeTick config client interval) (ChangeCast config client interval) s ticks) :
    nextRead ticks ≠ some read.value := by
  induction ticks generalizing s with
  | nil => exact nextRead_nil _
  | cons tick ticks ih =>
    obtain ⟨s₁, ticked, rest⟩ := run_cons.1 ran
    obtain ⟨here, later⟩ := Along.cons_iff.1 along
    cases wholeTick_change polls onChange ticked with
    | unread error unread _ updates kept =>
      rw [nextRead_error unread]
      rcases wholeTick_polls polls ticked with polls₁ | stopped
      · refine ih polls₁ ?_ ?_ rest (later s₁ ticked)
        · rcases kept with stopped | kept
          · exact absurd stopped polls₁.not_stopped
          · rw [kept, seen]
        · rw [lastCast_same updates]
          exact uncast
      · rw [run_stopped stopped rest]
        exact nextRead_nil _
    | repeated again answer same passes updates _ =>
      -- the value read again ends the tick without a cast
      have cast := here s₁ again ticked passes answer
      rw [lastCast_same updates] at cast
      rw [nextRead_ok answer, ← cast]
      exact uncast
    | cast other answer changed =>
      rw [seen] at changed
      rw [nextRead_ok answer]
      exact changed.symm
    | rejected other answer changed =>
      rw [seen] at changed
      rw [nextRead_ok answer]
      exact changed.symm

/-- What has been seen was cast, or is not what is read next. -/
def CaughtUp (interval : PollingInterval) (s : Instance) (later : List Tick) : Prop :=
  ∀ read, s.seen interval = some read →
    (s.lastCast interval.contract.address).map FeedSourceData.value = some read.value ∨ nextRead later ≠ some read.value

/-- When what was seen is cast or past, a tick that ends without an error leaves the value it read as the one last cast. -/
theorem CaughtUp.changeCast (onChange : interval.notif = some .CHANGE) (polls : s.Polls interval) {tick : Tick}
    (caughtUp : CaughtUp interval s (tick :: ticks)) : ChangeCast config client interval s tick := by
  intro s₁ read ticked passes answer
  cases wholeTick_change polls onChange ticked with
  | unread error unread failed => cases passes.symm.trans failed
  | repeated read' answer' same _ updates _ =>
    cases answer.symm.trans answer'
    obtain ⟨previous, seen, value⟩ := Option.map_eq_some_iff.1 same
    rw [lastCast_same updates]
    rcases caughtUp previous seen with cast | passed
    · rw [cast, value]
    · rw [nextRead_ok answer, value] at passed
      exact absurd rfl passed
  | cast read' answer' _ _ updates =>
    cases answer.symm.trans answer'
    rw [lastCast_append updates]
    rfl
  | rejected read' answer' _ _ failed => cases passes.symm.trans failed

/-- The step lemma: what was seen stays cast or past, if a rejected value passes. -/
theorem CaughtUp.step (onChange : interval.notif = some .CHANGE) (polls : s.Polls interval) {tick : Tick} {s₁ : Instance}
    (caughtUp : CaughtUp interval s (tick :: ticks)) (passes : RejectionPasses interval s tick ticks)
    (ticked : wholeTick config client interval s tick = some s₁) (polls₁ : s₁.Polls interval) :
    CaughtUp interval s₁ ticks := by
  intro read seen₁
  cases wholeTick_change polls onChange ticked with
  | unread error unread _ updates kept =>
    rcases kept with stopped | kept
    · exact absurd stopped polls₁.not_stopped
    · rw [lastCast_same updates, ← nextRead_error unread]
      exact caughtUp read (kept.symm.trans seen₁)
  | repeated read' answer same _ updates kept =>
    left
    rw [lastCast_same updates]
    have seen := kept.symm.trans seen₁
    rcases caughtUp read seen with cast | passed
    · exact cast
    · rw [seen] at same
      rw [nextRead_ok answer] at passed
      exact absurd same.symm passed
  | cast read' answer _ _ updates seen =>
    cases seen.symm.trans seen₁
    left
    rw [lastCast_append updates]
    rfl
  | rejected read' answer changed refused _ updates seen =>
    rcases seen with stopped | seen
    · exact absurd stopped polls₁.not_stopped
    · cases seen.symm.trans seen₁
      rw [lastCast_same updates]
      by_cases cast : (s.lastCast interval.contract.address).map FeedSourceData.value = some read.value
      · exact Or.inl cast
      · exact Or.inr (passes read answer changed refused cast)

/-- As long as rejected values pass, every change is cast. -/
theorem changes_cast (onChange : interval.notif = some .CHANGE) (polls : s.Polls interval)
    (caughtUp : CaughtUp interval s ticks) (ran : run (wholeTick config client interval) s ticks = some s')
    (ahead : Ahead (wholeTick config client interval) (RejectionPasses interval) s ticks) :
    Along (wholeTick config client interval) (ChangeCast config client interval) s ticks := by
  induction ticks generalizing s with
  | nil => exact Along.nil
  | cons tick ticks ih =>
    obtain ⟨s₁, ticked, rest⟩ := run_cons.1 ran
    obtain ⟨here, later⟩ := Ahead.cons_iff.1 ahead
    refine Along.cons_iff.2 ⟨caughtUp.changeCast onChange polls, ?_⟩
    intro s₂ again
    cases ticked.symm.trans again
    rcases wholeTick_polls polls ticked with polls₁ | stopped
    · exact ih polls₁ (caughtUp.step onChange polls here ticked polls₁) rest (later s₁ ticked)
    · rw [run_stopped stopped rest]
      exact Along.nil

/-- **Every tick that ends without an error leaves the value it read as the one last cast, exactly when no rejected
value is the next one to be read.** -/
theorem changes_cast_iff (onChange : interval.notif = some .CHANGE) (polls : s.Polls interval)
    (unseen : s.seen interval = none) (ran : run (wholeTick config client interval) s ticks = some s') :
    Along (wholeTick config client interval) (ChangeCast config client interval) s ticks ↔
      Ahead (wholeTick config client interval) (RejectionPasses interval) s ticks := by
  constructor
  · intro along pre tick post s₁ split reached read answer changed refused uncast
    subst split
    have after := Along.cons_iff.1 (along.right reached)
    rw [run_append, reached, Option.bind_some] at ran
    obtain ⟨s₂, ticked, rest⟩ := run_cons.1 ran
    have polls₁ : s₁.Polls interval := by
      rcases run_polls polls reached with polls₁ | stopped
      · exact polls₁
      · rw [wholeTick_stopped config client interval stopped] at ticked
        cases ticked
    cases wholeTick_change polls₁ onChange ticked with
    | unread error unread => cases answer.symm.trans unread
    | repeated read' answer' same =>
      cases answer.symm.trans answer'
      exact absurd same changed
    | cast read' answer' _ written =>
      cases answer.symm.trans answer'
      cases refused.symm.trans written
    | rejected read' answer' _ _ _ updates seen =>
      cases answer.symm.trans answer'
      rcases seen with stopped | seen
      · rw [run_stopped stopped rest]
        exact nextRead_nil _
      · rcases wholeTick_polls polls₁ ticked with polls₂ | stopped
        · rw [← lastCast_same updates] at uncast
          exact uncast_passes onChange polls₂ seen uncast rest (after.2 s₂ ticked)
        · rw [run_stopped stopped rest]
          exact nextRead_nil _
  · refine changes_cast onChange polls ?_ ran
    intro read seen
    rw [unseen] at seen
    cases seen

end

/-- The cast of a change is refused, and the next value is another one. -/
def refusedOnce : List Tick :=
  [tickOf (.ok 42000) false, tickOf (.ok 43000) true, tickOf (.ok 44000) false, tickOf (.ok 44000) false]

theorem refusedOnce_cast : ∃ s', run (wholeTick RelaydConfig.prod relayClient btcInterval) polling refusedOnce = some s' ∧
    Along (wholeTick RelaydConfig.prod relayClient btcInterval) (ChangeCast RelaydConfig.prod relayClient btcInterval)
      polling refusedOnce := by
  refine ⟨_, rfl, (changes_cast_iff rfl polling_polls rfl rfl).2 ?_⟩
  decide +kernel

/-- The cast of a change is refused, and the value stays. -/
def refusedThenFlat : List Tick := [tickOf (.ok 42000) false, tickOf (.ok 43000) true, tickOf (.ok 43000) false]

/-- The last tick reads 43000 and ends without an error, while the value last cast is 42000. -/
theorem refusedThenFlat_lost :
    (∃ s s', run (wholeTick RelaydConfig.prod relayClient btcInterval) polling (refusedThenFlat.take 2) = some s ∧
        s.fails btcInterval (tickOf (.ok 43000) false) = false ∧
        wholeTick RelaydConfig.prod relayClient btcInterval s (tickOf (.ok 43000) false) = some s' ∧
        (s'.lastCast proxyAddress).map FeedSourceData.value = some (some 42000)) ∧
      ¬ Along (wholeTick RelaydConfig.prod relayClient btcInterval) (ChangeCast RelaydConfig.prod relayClient btcInterval)
        polling refusedThenFlat := by
  refine ⟨⟨_, _, rfl, by decide +kernel, rfl, by decide +kernel⟩, ?_⟩
  intro along
  have cast := along (refusedThenFlat.take 2) (tickOf (.ok 43000) false) [] _ rfl rfl _ _ rfl (by decide +kernel) rfl
  revert cast
  decide +kernel

end Relayd.EthClient.Instance
