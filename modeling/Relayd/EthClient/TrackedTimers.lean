import Relayd.EthClient.Healthy
import Relayd.EthClient.PollerChanges

/-!
# Intervals and the registry of polled sources

An interval runs before the registry is looked at, and stays on when its
registration is refused or takes the place of another one. As long as no
source is polled a second time, every interval that runs is the one its source
is registered with, and a stop of all polls stops it.
-/

namespace Relayd.EthClient
set_option autoImplicit false
open Relayd.Common Sys

/-- Every interval that runs is the one its source is registered with. -/
def EthConnectService.Tracked (service : EthConnectService) : Prop :=
  ∀ interval ∈ service.intervals,
    (service.sourcePolling.get interval.contract.address).map SourcePolled.timeout = some interval.timeout

instance (service : EthConnectService) : Decidable service.Tracked :=
  inferInstanceAs (Decidable (∀ _ ∈ _, _))

section
variable {config : RelaydConfig} {client : Client} {env : Env} {sourceConfig : FeedConfigSource}
  {casts unmatched : Prop} {s s' : EthConnectService} {events : List Event}

theorem Starts.tracked (starts : Starts config client env sourceConfig s s' events) (tracked : s.Tracked)
    (first : env.startsPolling sourceConfig = true → s.sourcePolling.get sourceConfig.contract = none) : s'.Tracked := by
  cases starts with
  | refusedInterval interval fresh _ starts own second =>
    rw [first starts] at second
    cases second
  | polling interval fresh _ starts own =>
    intro running member
    simp only
    rcases List.mem_cons.1 member with rfl | member
    · rw [own, OrderedMap.get_set_same, Option.map_some]
    · have registered := tracked running member
      have other : running.contract.address ≠ sourceConfig.contract := by
        intro same
        rw [same, first starts] at registered
        cases registered
      rw [OrderedMap.get_set_other other]
      exact registered
  | idle | refusedListener | listening => exact tracked

theorem Alters.tracked (alters : Alters client casts unmatched s s' events) (tracked : s.Tracked) : s'.Tracked := by
  cases alters with
  | unpolled sourceId polled _ entry =>
    intro running member
    obtain ⟨member, kept⟩ := List.mem_filter.1 member
    have registered := tracked running member
    have other : running.contract.address ≠ sourceId := by
      intro same
      rw [same, entry, Option.map_some, Option.some.injEq] at registered
      simp only [registered, bne_self_eq_false, Bool.false_eq_true] at kept
    simp only [OrderedMap.get_delete_other other]
    exact registered
  | changed sourceId polled data entry =>
    intro running member
    have registered := tracked running member
    by_cases same : running.contract.address = sourceId
    · rw [same, entry] at registered
      simp only [same, OrderedMap.get_set_same]
      exact registered
    · simp only [OrderedMap.get_set_other same]
      exact registered
  | unlistened | unregistered | removed => exact tracked

/-- An alteration sets no interval. -/
theorem Alters.no_interval (alters : Alters client casts unmatched s s' events) (quiet : s.intervals = []) :
    s'.intervals = [] := by
  cases alters with
  | unpolled => simp only [quiet, List.filter_nil]
  | _ => exact quiet

theorem Starts.no_interval (starts : Starts config client env sourceConfig s s' events) (quiet : s.intervals = [])
    (idle : env.startsPolling sourceConfig = false) : s'.intervals = [] := by
  cases starts with
  | refusedInterval interval fresh _ starts => cases starts.symm.trans idle
  | polling interval fresh _ starts => cases starts.symm.trans idle
  | idle | refusedListener | listening => exact quiet

end

/-- What the stop of each source of a list leaves in the registry. -/
theorem stopEachPolling_get (client : Client) (env : Env) (sources : List String) (s : EthConnectService) (sourceId : String) :
    (stopEachPolling client env sources s).state.sourcePolling.get sourceId =
      if sourceId ∈ sources then none else s.sourcePolling.get sourceId := by
  induction sources generalizing s with
  | nil => rfl
  | cons contractAddr polledSources ih =>
    have stopped : (stopSourcePolling client env contractAddr .REMOVE_PERIODIC
        (some ("Service '" ++ client.serviceId ++ "' shutting down")) s).state.sourcePolling.get sourceId =
        if sourceId = contractAddr then none else s.sourcePolling.get sourceId := by
      simp only [stopSourcePolling, Traced.read_bind_apply]
      cases entry : s.sourcePolling.get contractAddr with
      | none =>
        split
        · subst sourceId
          exact entry
        · rfl
      | some polled =>
        simp only [Traced.update_bind_apply, (castSourcePolling_announces client env _ _ _ _).1]
        split
        · subst sourceId
          exact OrderedMap.get_delete_same _ _
        · exact OrderedMap.get_delete_other ‹_›
    simp only [stopEachPolling, Traced.bind_apply, ih, stopped, List.mem_cons]
    by_cases here : sourceId = contractAddr <;> by_cases later : sourceId ∈ polledSources <;> simp [here, later]

/-- The stop of all polls empties the registry. -/
theorem stopAllSourcePolling_get (client : Client) (env : Env) (s : EthConnectService) (sourceId : String) :
    (stopAllSourcePolling client env s).state.sourcePolling.get sourceId = none := by
  simp only [stopAllSourcePolling, Traced.read_bind_apply, stopEachPolling_get]
  split
  · rfl
  · exact Option.not_isSome_iff_eq_none.1 fun there => ‹¬ _› (OrderedMap.mem_keys.2 there)

namespace Instance

/-- A periodic initiation that gets as far as its interval is of a source that is not polled. -/
def FirstPolling (s : Instance) : Action → Prop
  | .initiate env sourceConfig _ =>
    env.startsPolling sourceConfig = true → s.service.sourcePolling.get sourceConfig.contract = none
  | _ => True

instance (s : Instance) : (a : Action) → Decidable (s.FirstPolling a)
  | .initiate _ _ _ => inferInstanceAs (Decidable (_ → _))
  | .tick _ | .answer _ _ | .resume _ _ | .stopPolling _ _ _ | .stopAllPolling _ | .stopListening _ _ _
  | .stopAllListening _ _ => isTrue True.intro

/-- The action sets an interval. -/
def Action.startsPolling : Action → Bool
  | .initiate env sourceConfig _ => env.startsPolling sourceConfig
  | _ => false

section
variable (config : RelaydConfig) (client : Client)

theorem kept_tracked : Kept config client FirstPolling False True fun service _ => service.Tracked where
  starts _ _ _ _ _ _ tracked first starts := starts.tracked tracked first
  alters _ _ _ _ tracked alters := alters.tracked tracked
  casts _ _ _ impossible := impossible.elim
  unmatched _ _ _ _ := True.intro

theorem kept_no_interval :
    Kept config client (fun _ a => a.startsPolling = false) False True fun service _ => service.intervals = [] where
  starts _ _ _ _ _ _ quiet idle starts := starts.no_interval quiet idle
  alters _ _ _ _ quiet alters := alters.no_interval quiet
  casts _ _ _ impossible := impossible.elim
  unmatched _ _ _ _ := True.intro

omit config client in
theorem init_tracked : ({} : Instance).service.Tracked := by
  intro interval member
  cases member

/-- **As long as no source is polled a second time, every interval that runs is tracked**, and none runs
from a stop of all polls to the next periodic initiation. -/
theorem intervals_tracked (as : List Action) (s : Instance) (along : Along (step config client) FirstPolling {} as)
    (reached : run (step config client) {} as = some s) :
    s.service.Tracked ∧ ∀ env bs s', (∀ b ∈ bs, b.startsPolling = false) →
      run (step config client) s (.stopAllPolling env :: bs) = some s' → s'.service.intervals = [] := by
  have nodup := run_nodup reached
  have tracked : s.service.Tracked := (kept_tracked config client).run init_nodup init_tracked along reached
  refine ⟨tracked, ?_⟩
  intro env bs s' idle continued
  obtain ⟨s₁, stopped, rest⟩ := run_cons.1 continued
  have allowed : s.FirstPolling (.stopAllPolling env) := True.intro
  have still : s₁.service.Tracked := (kept_tracked config client).run nodup tracked
    (Along.cons_iff.2 ⟨allowed, fun _ _ => Along.nil⟩) (run_cons.2 ⟨s₁, stopped, rfl⟩)
  have none : s₁.service.intervals = [] := by
    cases stopped
    apply List.eq_nil_iff_forall_not_mem.2
    intro interval member
    have registered := still interval member
    simp only [called, stopAllSourcePolling_get, Option.map_none, reduceCtorEq] at registered
  exact (kept_no_interval config client).run (step_nodup nodup stopped) none (Along.of_forall idle) rest

end

/-! ## Two feeds on one contract -/

/-- A source that is polled every two minutes, as its class fills it in. -/
def periodicSource : FeedConfigSource := { contract := proxyAddress, poll := some .TIMEPERIOD }

/-- The instance that the runs below are about. -/
def relayClient : Client := { serviceId := "relayd.eth_1", network := "homestead" }

/-- The source is polled, and polled again after a stop of all polls. -/
def pollAgain : List Action :=
  [.initiate healthyEnv periodicSource "feed-btc", .tick 1, .stopAllPolling healthyEnv,
    .initiate healthyEnv periodicSource "feed-btc-2"]

theorem pollAgain_tracked :
    ∃ s, run (step RelaydConfig.prod relayClient) {} pollAgain = some s ∧ s.service.Tracked ∧
      ∀ env s', run (step RelaydConfig.prod relayClient) s [.stopAllPolling env] = some s' → s'.service.intervals = [] := by
  obtain ⟨s, reached⟩ : ∃ s, run (step RelaydConfig.prod relayClient) {} pollAgain = some s := ⟨_, rfl⟩
  have along : Along (step RelaydConfig.prod relayClient) FirstPolling {} pollAgain := by decide +kernel
  obtain ⟨tracked, stopped⟩ := intervals_tracked RelaydConfig.prod relayClient pollAgain s along reached
  exact ⟨s, reached, tracked, fun env s' => stopped env [] s' (by simp)⟩

/-- The source of two feeds is polled for each of them. -/
def pollTwice : List Action :=
  [.initiate healthyEnv periodicSource "feed-btc", .initiate healthyEnv periodicSource "feed-btc-2"]

/-- One of the two intervals is not tracked, and runs on after a stop of all polls. -/
def RunsOn (config : RelaydConfig) : Prop :=
  ∃ s s', run (step config relayClient) {} pollTwice = some s ∧ ¬ s.service.Tracked ∧
    s.step config relayClient (.stopAllPolling healthyEnv) = some s' ∧ s'.service.intervals ≠ []

/-- It is so for either setting of the allowance. -/
theorem pollTwice_untracked :
    RunsOn { RelaydConfig.prod with sourcePollingAllowMultipleBySameIssuer := true } ∧
      RunsOn { RelaydConfig.prod with sourcePollingAllowMultipleBySameIssuer := false } := by
  constructor
  · exact ⟨_, _, rfl, by decide +kernel, rfl, by decide +kernel⟩
  · exact ⟨_, _, rfl, by decide +kernel, rfl, by decide +kernel⟩

end Instance

end Relayd.EthClient
