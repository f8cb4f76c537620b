import Relayd.EthClient.Ticks

/-!
# The errors that stop an interval

The counter of an interval is never reset: it counts all of its errors, not the
successive ones, and the interval is stopped one error short of the maximum.
-/

namespace Relayd.EthClient.Instance
set_option autoImplicit false
open Relayd.Common Sys

/-- An instance, with the outcomes of the ticks of one of its intervals. -/
structure Ticking where
  polled : Instance
  /-- Whether each tick ended in an error, newest first -/
  outcomes : List Bool := []

section
variable (config : RelaydConfig) (client : Client) (interval : PollingInterval)

def Ticking.step (s : Ticking) (tick : Tick) : Option Ticking :=
  (wholeTick config client interval s.polled tick).map fun polled =>
    { polled := polled, outcomes := s.polled.fails interval tick :: s.outcomes }

/-- The tick stops the polling exactly when it is the last of `maxSuccessiveErrorToStopPolling` ticks in a row that
ended in an error. -/
def StopsOnSuccessiveErrors (s : Ticking) (tick : Tick) : Prop :=
  ∀ s', s.step config client interval tick = some s' →
    (s'.polled.Stopped interval ↔ List.replicate config.maxSuccessiveErrorToStopPolling true <+: s'.outcomes)

/-- The interval runs, and its counter is the number of all its errors. -/
structure Ticking.Counts (s : Ticking) : Prop where
  polls : s.polled.Polls interval
  counted : s.polled.errors interval.timeout = s.outcomes.count true

variable {config client interval} {s s' : Ticking} {tick : Tick} {ticks : List Tick}

theorem Polls.not_stopped {s : Instance} (polls : s.Polls interval) : ¬ s.Stopped interval := by
  intro stopped
  rw [Stopped, polls.runs] at stopped
  cases stopped

/-- An interval that ticks was not stopped before. -/
theorem Ticking.not_stopped (ticked : s.step config client interval tick = some s') : ¬ s.polled.Stopped interval := by
  intro stopped
  simp only [Ticking.step, wholeTick_stopped config client interval stopped, Option.map_none, reduceCtorEq] at ticked

/-- One tick: the error that brings the number of all errors to the maximum less one stops the interval. -/
theorem Ticking.step_counts (counts : s.Counts interval) (ticked : s.step config client interval tick = some s') :
    s'.outcomes = s.polled.fails interval tick :: s.outcomes ∧
      if s.polled.fails interval tick = true ∧ config.maxSuccessiveErrorToStopPolling ≤ s.outcomes.count true + 2 then
        s'.polled.Stopped interval
      else s'.Counts interval := by
  obtain ⟨polled, whole, rfl⟩ := Option.map_eq_some_iff.1 ticked
  obtain ⟨counted, stops⟩ := wholeTick_counts counts.polls whole
  rw [counts.counted] at counted stops
  refine ⟨rfl, ?_⟩
  split
  case isTrue limit => exact (if_pos limit).mp stops
  case isFalse below =>
    refine ⟨(if_neg below).mp stops, counted.trans ?_⟩
    cases s.polled.fails interval tick <;> simp

/-- An interval that ran at first runs on and counts its errors, or was stopped. -/
theorem Ticking.run_counts (counts : s.Counts interval) (ran : run (Ticking.step config client interval) s ticks = some s') :
    s'.Counts interval ∨ s'.polled.Stopped interval := by
  have each : ∀ s tick s', (s.Counts interval ∨ s.polled.Stopped interval) → True →
      step config client interval s tick = some s' → s'.Counts interval ∨ s'.polled.Stopped interval := by
    rintro s tick s' (counts | stopped) - ticked
    · have stops := (step_counts counts ticked).2
      split at stops
      · exact Or.inr stops
      · exact Or.inl stops
    · exact absurd stopped (Ticking.not_stopped ticked)
  exact invariant each (Or.inl counts) .trivial ran

/-- Later outcomes come in front of the earlier ones. -/
theorem Ticking.run_outcomes (ran : run (Ticking.step config client interval) s ticks = some s') :
    s.outcomes <:+ s'.outcomes := by
  have each : ∀ s₁ tick s₂, s.outcomes <:+ s₁.outcomes → True → step config client interval s₁ tick = some s₂ →
      s.outcomes <:+ s₂.outcomes := by
    intro s₁ tick s₂ earlier _ ticked
    obtain ⟨polled, -, rfl⟩ := Option.map_eq_some_iff.1 ticked
    exact earlier.trans (List.suffix_cons _ _)
  exact invariant each (List.suffix_refl _) .trivial ran

/-- With a maximum of one error, the first error stops the interval, as it should. -/
theorem stops_on_first_error (single : config.maxSuccessiveErrorToStopPolling = 1) (counts : s.Counts interval)
    (ticks : List Tick) : Along (Ticking.step config client interval) (StopsOnSuccessiveErrors config client interval) s ticks := by
  intro pre tick post s₁ split reached s₂ ticked
  have counts : s₁.Counts interval :=
    (Ticking.run_counts counts reached).resolve_right (Ticking.not_stopped ticked)
  obtain ⟨outcomes, stops⟩ := Ticking.step_counts counts ticked
  rw [outcomes, single, List.replicate_one, List.singleton_prefix_cons_iff]
  rw [single] at stops
  split at stops
  case isTrue limit => exact iff_of_true stops limit.1.symm
  case isFalse below =>
    refine iff_of_false stops.polls.not_stopped ?_
    intro failed
    exact below ⟨failed.symm, by omega⟩

/-- An interval that never saw as many errors as stop it was never to be stopped. -/
theorem never_stops (ran : run (Ticking.step config client interval) s ticks = some s') (counts : s.Counts interval)
    (few : s'.outcomes.count true + 1 < config.maxSuccessiveErrorToStopPolling) :
    Along (Ticking.step config client interval) (StopsOnSuccessiveErrors config client interval) s ticks := by
  intro pre tick post s₁ split reached s₂ ticked
  have counts : s₁.Counts interval :=
    (Ticking.run_counts counts reached).resolve_right (Ticking.not_stopped ticked)
  obtain ⟨outcomes, stops⟩ := Ticking.step_counts counts ticked
  have fewer : s₂.outcomes.count true ≤ s'.outcomes.count true := by
    rw [split, run_append, reached, Option.bind_some, run, ticked, Option.bind_some] at ran
    exact (Ticking.run_outcomes ran).sublist.count_le _
  apply iff_of_false
  · split at stops
    case isTrue limit =>
      rw [outcomes, limit.1, List.count_cons_self] at fewer
      omega
    case isFalse below => exact stops.polls.not_stopped
  · intro inARow
    have many := inARow.sublist.count_le true
    rw [List.count_replicate_self] at many
    omega

/-- An interval that stops on successive errors only never sees as many errors as stop it. -/
theorem few_errors (counts : s.Counts interval)
    (few : s.outcomes.count true + 1 < config.maxSuccessiveErrorToStopPolling)
    (ran : run (Ticking.step config client interval) s ticks = some s')
    (along : Along (Ticking.step config client interval) (StopsOnSuccessiveErrors config client interval) s ticks) :
    s'.outcomes.count true + 1 < config.maxSuccessiveErrorToStopPolling := by
  induction ticks generalizing s with
  | nil =>
    cases ran
    exact few
  | cons tick ticks ih =>
    obtain ⟨s₁, ticked, rest⟩ := run_cons.1 ran
    obtain ⟨here, later⟩ := Along.cons_iff.1 along
    obtain ⟨outcomes, stops⟩ := Ticking.step_counts counts ticked
    split at stops
    case isTrue limit =>
      -- stopped too early: there were not enough errors for a row of them
      have many := ((here s₁ ticked).1 stops).sublist.count_le true
      rw [List.count_replicate_self, outcomes, limit.1, List.count_cons_self] at many
      omega
    case isFalse below =>
      refine ih stops ?_ rest (later s₁ ticked)
      rw [outcomes]
      cases failed : s.polled.fails interval tick with
      | false => simpa using few
      | true =>
        have := mt (And.intro failed) below
        rw [List.count_cons_self]
        omega

/-- **An interval is stopped by successive errors alone exactly when the maximum is one error, or when it does not see
as many errors, successive or not, as the maximum less one.** -/
theorem stops_on_successive_errors_iff {s : Instance} (polls : s.Polls interval) (uncounted : s.errors interval.timeout = 0)
    (positive : 1 ≤ config.maxSuccessiveErrorToStopPolling)
    (ran : run (Ticking.step config client interval) { polled := s } ticks = some s') :
    Along (Ticking.step config client interval) (StopsOnSuccessiveErrors config client interval) { polled := s } ticks ↔
      config.maxSuccessiveErrorToStopPolling = 1 ∨ s'.outcomes.count true + 1 < config.maxSuccessiveErrorToStopPolling := by
  have counts : Ticking.Counts interval { polled := s } := ⟨polls, uncounted⟩
  constructor
  · intro along
    by_cases single : config.maxSuccessiveErrorToStopPolling = 1
    · exact Or.inl single
    · right
      have several : 1 < config.maxSuccessiveErrorToStopPolling := by omega
      exact few_errors counts several ran along
  · rintro (single | few)
    · exact stops_on_first_error single counts ticks
    · exact never_stops ran counts few

end

/-- One error among the ticks does not stop the interval, as it should not. -/
theorem one_error_stops_nothing : ∃ s', run (Ticking.step RelaydConfig.prod relayClient btcInterval) { polled := polling }
      [tickOf (.ok 42000) false, tickOf (.error "timeout") false, tickOf (.ok 43000) false] = some s' ∧
    Along (Ticking.step RelaydConfig.prod relayClient btcInterval)
      (StopsOnSuccessiveErrors RelaydConfig.prod relayClient btcInterval) { polled := polling }
      [tickOf (.ok 42000) false, tickOf (.error "timeout") false, tickOf (.ok 43000) false] := by
  refine ⟨_, rfl, (stops_on_successive_errors_iff polling_polls rfl (by decide) rfl).2 (Or.inr ?_)⟩
  decide +kernel

/-- Two errors with a success between them stop the interval, with a maximum of three successive errors. -/
theorem separate_errors_stop : RelaydConfig.prod.maxSuccessiveErrorToStopPolling = 3 ∧
    ∃ s', run (Ticking.step RelaydConfig.prod relayClient btcInterval) { polled := polling }
        [tickOf (.error "timeout") false, tickOf (.ok 42000) false, tickOf (.error "timeout") false] = some s' ∧
      s'.outcomes = [true, false, true] ∧ s'.polled.Stopped btcInterval ∧
      ¬ Along (Ticking.step RelaydConfig.prod relayClient btcInterval)
        (StopsOnSuccessiveErrors RelaydConfig.prod relayClient btcInterval) { polled := polling }
        [tickOf (.error "timeout") false, tickOf (.ok 42000) false, tickOf (.error "timeout") false] := by
  refine ⟨rfl, _, rfl, rfl, rfl, ?_⟩
  intro along
  have stops := along [tickOf (.error "timeout") false, tickOf (.ok 42000) false] (tickOf (.error "timeout") false) [] _
    rfl rfl _ rfl
  have inARow : List.replicate 3 true <+: [true, false, true] := stops.1 rfl
  revert inARow
  decide

end Relayd.EthClient.Instance
