import Mathlib.Data.List.Destutter
import Relayd.EthClient.LostChanges

/-!
# What a poll for changes reports

The data that a poll for changes casts are the data that it reads, without the
ones that repeat the value before them and without those whose cast is refused.
A refused cast counts as the value before: what repeats it is left out as well.
-/

namespace Relayd.EthClient.Instance
set_option autoImplicit false
open Relayd.Common Sys

section
variable {A V : Type} [DecidableEq V] (key : A → V)

/-- The entries whose key is not the one of the entry before. -/
def changes : Option V → List A → List A
  | _, [] => []
  | previous, a :: l => if previous = some (key a) then changes previous l else a :: changes (some (key a)) l

theorem destutter'_eq_changes (a : A) (l : List A) :
    l.destutter' (fun a b => key a ≠ key b) a = a :: changes key (some (key a)) l := by
  induction l generalizing a with
  | nil => rfl
  | cons b l ih =>
    by_cases same : key a = key b
    · rw [List.destutter'_cons_neg _ (not_not_intro same), ih, changes, if_pos (congrArg some same)]
    · rw [List.destutter'_cons_pos _ same, ih, changes, if_neg fun equal => same (Option.some.inj equal)]

/-- From the start, these are the entries without repetitions. -/
theorem changes_none (l : List A) : changes key none l = l.destutter fun a b => key a ≠ key b := by
  cases l with
  | nil => rfl
  | cons a l => exact (destutter'_eq_changes key a l).symm

end

/-- Data that a tick reads, and whether their cast would be refused. -/
abbrev Answer := FeedSourceData × Bool

/-- What the ticks read. Those that fail to read anything do not count. -/
def answers (interval : PollingInterval) (ticks : List Tick) : List Answer :=
  ticks.filterMap fun tick =>
    tick.poll.latestRoundData.toOption.map fun read => (read, tick.poll.writeFails (changeUpdate interval read))

/-- The updates of the data whose cast is not refused. -/
def written (interval : PollingInterval) (reads : List Answer) : List FeedSourceDataUpdate :=
  (reads.filter fun answer => !answer.2).map fun answer => changeUpdate interval answer.1

section
variable {config : RelaydConfig} {client : Client} {interval : PollingInterval} {s s' : Instance} {tick : Tick}
  {ticks : List Tick}

theorem answers_error {error : String} (unread : tick.poll.latestRoundData = .error error) (later : List Tick) :
    answers interval (tick :: later) = answers interval later := by
  rw [answers, List.filterMap_cons, unread]
  rfl

theorem answers_ok {read : FeedSourceData} (answer : tick.poll.latestRoundData = .ok read) (later : List Tick) :
    answers interval (tick :: later) =
      (read, tick.poll.writeFails (changeUpdate interval read)) :: answers interval later := by
  rw [answers, List.filterMap_cons, answer]
  rfl

/-- The run lemma, from any data seen before. -/
theorem run_changes (polls : s.Polls interval) (onChange : interval.notif = some .CHANGE)
    (ran : run (wholeTick config client interval) s ticks = some s') :
    s'.updates = s.updates ++
      written interval (changes (·.1.value) ((s.seen interval).map FeedSourceData.value) (answers interval ticks)) := by
  induction ticks generalizing s with
  | nil =>
    cases ran
    exact (List.append_nil _).symm
  | cons tick ticks ih =>
    obtain ⟨s₁, ticked, rest⟩ := run_cons.1 ran
    -- after the tick that stops the interval there is no other
    have later : ∀ seen : Option FeedSourceData, s₁.Stopped interval ∨ s₁.seen interval = seen →
        s'.updates = s₁.updates ++ written interval (changes (·.1.value) (seen.map FeedSourceData.value)
          (answers interval ticks)) := by
      intro seen kept
      cases wholeTick_polls polls ticked with
      | inl polls₁ =>
        cases kept with
        | inl stopped => exact absurd stopped polls₁.not_stopped
        | inr kept =>
          rw [← kept]
          exact ih polls₁ rest
      | inr stopped =>
        obtain rfl := run_stopped stopped rest
        cases rest
        exact (List.append_nil _).symm
    cases wholeTick_change polls onChange ticked with
    | unread error unread failed updates kept =>
      rw [answers_error unread, later _ kept, updates]
    | repeated read answer same passes updates kept =>
      rw [answers_ok answer, changes, if_pos same, later _ (Or.inr kept), updates]
    | cast read answer changed accepted updates seen =>
      rw [answers_ok answer, changes, if_neg changed, later _ (Or.inr seen), updates, accepted, List.append_assoc]
      rfl
    | rejected read answer changed refused failed updates seen =>
      rw [answers_ok answer, changes, if_neg changed, later _ seen, updates, refused]
      rfl

/-- **The data that a poll for changes casts are the data it reads without repetitions**, but for those whose cast is
refused. -/
theorem casts_eq_destutter (polls : s.Polls interval) (onChange : interval.notif = some .CHANGE)
    (unseen : s.seen interval = none) (ran : run (wholeTick config client interval) s ticks = some s') :
    s'.updates = s.updates ++
      written interval ((answers interval ticks).destutter fun a b => a.1.value ≠ b.1.value) := by
  have changed := run_changes polls onChange ran
  rw [unseen] at changed
  rw [changed, ← changes_none fun answer : Answer => answer.1.value]
  rfl

/-- Two ticks read the same value, the cast of the next one is refused, and the first one comes back. -/
def refusedBetween : List Tick :=
  [tickOf (.ok 42000) false, tickOf (.ok 42000) false, tickOf (.ok 43000) true, tickOf (.ok 43000) false,
    tickOf (.ok 42000) false]

theorem casts_eq_destutter_refused :
    ∃ s', run (wholeTick RelaydConfig.prod relayClient btcInterval) polling refusedBetween = some s' ∧
      s'.updates.map (fun upd => upd.source.bind FeedSourceData.value) = [some 42000, some 42000] := by
  have possible : (run (wholeTick RelaydConfig.prod relayClient btcInterval) polling refusedBetween).isSome = true := by
    decide +kernel
  obtain ⟨s', ran⟩ := Option.isSome_iff_exists.1 possible
  refine ⟨s', ran, ?_⟩
  rw [casts_eq_destutter polling_polls rfl rfl ran]
  decide +kernel

end

end Relayd.EthClient.Instance
