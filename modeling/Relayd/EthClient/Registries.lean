import Relayd.EthClient.PollingLog
import Relayd.EthClient.TrackedTimers

/-!
# Registries and handle lists

An instance knows by its registries what it polls, and everyone else by the
handle lists of the sources. While all casts are written and listening is
matched, both say the same, whatever other instances announce in between. A
shutdown empties the registries, so that the handle lists name the instance no
more.
-/

namespace Relayd.EthClient
set_option autoImplicit false
open Relayd.Common Sys

/-! ## The registries after a shutdown -/

section
variable (client : Client) (env : Env)

theorem stopEachListening_get (getServiceId : String) (sources : List String) (s : EthConnectService) (sourceId : String) :
    (stopEachListening client env getServiceId sources s).state.sourceListening.get sourceId =
      if sourceId ∈ sources then none else s.sourceListening.get sourceId := by
  induction sources generalizing s with
  | nil => rfl
  | cons stopped polledSources ih =>
    simp only [stopEachListening, Traced.bind_apply, ih, List.mem_cons]
    have after : (stopSourceEventListener client env stopped .REMOVE_LISTEN_EVENT
        (some ("Service '" ++ getServiceId ++ "' shutting down")) s).state.sourceListening.get sourceId =
        if sourceId = stopped then none else s.sourceListening.get sourceId := by
      obtain ⟨-, ⟨absent, state⟩ | ⟨listened, entry, state⟩⟩ := stopSourceEventListener_cases client env stopped
        (some ("Service '" ++ getServiceId ++ "' shutting down")) s
      · rw [state]
        split
        · subst sourceId
          exact absent
        · rfl
      · rw [state]
        split
        · subst sourceId
          exact OrderedMap.get_delete_same _ _
        · exact OrderedMap.get_delete_other ‹_›
    rw [after]
    by_cases here : sourceId = stopped <;> by_cases later : sourceId ∈ polledSources <;> simp [here, later]

/-- The stop of all listeners empties the registry. -/
theorem stopEverySourceListening_get (getServiceId : String) (s : EthConnectService) (sourceId : String) :
    (stopEverySourceListening client env getServiceId s).state.sourceListening.get sourceId = none := by
  simp only [stopEverySourceListening, Traced.read_bind_apply, stopEachListening_get]
  split
  · rfl
  · exact Option.not_isSome_iff_eq_none.1 fun there => ‹¬ _› (OrderedMap.mem_keys.2 there)

/-- The stop of listeners leaves the polls. -/
theorem stopEachListening_polls (getServiceId : String) (sources : List String) (s : EthConnectService) :
    (stopEachListening client env getServiceId sources s).state.intervals = s.intervals ∧
      (stopEachListening client env getServiceId sources s).state.sourcePolling = s.sourcePolling := by
  induction sources generalizing s with
  | nil => exact ⟨rfl, rfl⟩
  | cons stopped polledSources ih =>
    simp only [stopEachListening, Traced.bind_apply, ih]
    obtain ⟨-, ⟨-, state⟩ | ⟨listened, -, state⟩⟩ := stopSourceEventListener_cases client env stopped
      (some ("Service '" ++ getServiceId ++ "' shutting down")) s
    · rw [state]
      exact ⟨rfl, rfl⟩
    · rw [state]
      exact ⟨rfl, rfl⟩

/-- The interval is the registered one of a source. -/
def EthConnectService.Tracks (s : EthConnectService) (interval : PollingInterval) (sourceId : String) : Prop :=
  ∃ polled, s.sourcePolling.get sourceId = some polled ∧ polled.timeout = interval.timeout

/-- The stop of a poll ends the interval of its source. -/
theorem stopSourcePolling_tracks (sourceId : String) (reasonMsg : Option String) (s : EthConnectService)
    (interval : PollingInterval) :
    (interval ∈ (stopSourcePolling client env sourceId .REMOVE_PERIODIC reasonMsg s).state.intervals ↔
        interval ∈ s.intervals ∧ ¬ s.Tracks interval sourceId) ∧
      ∀ other, (stopSourcePolling client env sourceId .REMOVE_PERIODIC reasonMsg s).state.Tracks interval other ↔
        other ≠ sourceId ∧ s.Tracks interval other := by
  simp only [stopSourcePolling, Traced.read_bind_apply]
  cases entry : s.sourcePolling.get sourceId with
  | none =>
    have untracked : ¬ s.Tracks interval sourceId := by
      rintro ⟨polled, found, -⟩
      rw [entry] at found
      cases found
    refine ⟨(and_iff_left untracked).symm, ?_⟩
    intro other
    refine ⟨fun tracks => ⟨?_, tracks⟩, And.right⟩
    rintro rfl
    exact untracked tracks
  | some polled =>
    simp only [Traced.update_bind_apply, (castSourcePolling_announces client env _ _ _ _).1]
    constructor
    · simp only [List.mem_filter, bne_iff_ne, ne_eq, EthConnectService.Tracks, entry, Option.some.injEq, exists_eq_left']
      exact and_congr_right fun _ => not_congr eq_comm
    · intro other
      by_cases same : other = sourceId
      · subst same
        simp [EthConnectService.Tracks]
      · simp [EthConnectService.Tracks, same]

/-- The stop of polls ends the intervals of their sources, and no other. -/
theorem stopEachPolling_intervals (sources : List String) (s : EthConnectService) (interval : PollingInterval) :
    interval ∈ (stopEachPolling client env sources s).state.intervals ↔
      interval ∈ s.intervals ∧ ∀ sourceId ∈ sources, ¬ s.Tracks interval sourceId := by
  induction sources generalizing s with
  | nil => simp [stopEachPolling]
  | cons contractAddr polledSources ih =>
    obtain ⟨here, others⟩ := stopSourcePolling_tracks client env contractAddr
      (some ("Service '" ++ client.serviceId ++ "' shutting down")) s interval
    simp only [stopEachPolling, Traced.bind_apply, ih, here, others, List.forall_mem_cons, and_assoc, not_and]
    refine and_congr_right fun _ => and_congr_right fun untracked => ?_
    constructor
    · intro later sourceId member tracks
      exact later sourceId member (fun same => untracked (same ▸ tracks)) tracks
    · intro later sourceId member _ tracks
      exact later sourceId member tracks

/-- The stop of all polls leaves the intervals that no source has. -/
theorem stopAllSourcePolling_intervals (s : EthConnectService) (interval : PollingInterval) :
    interval ∈ (stopAllSourcePolling client env s).state.intervals ↔
      interval ∈ s.intervals ∧ ∀ sourceId, ¬ s.Tracks interval sourceId := by
  simp only [stopAllSourcePolling, Traced.read_bind_apply, stopEachPolling_intervals]
  refine and_congr_right fun _ => ⟨fun listed sourceId tracks => ?_, fun all sourceId _ => all sourceId⟩
  have known : sourceId ∈ s.sourcePolling.keys := OrderedMap.mem_keys.2 (Option.isSome_of_eq_some tracks.choose_spec.1)
  exact listed sourceId known tracks

end

/-! ## The handle lists -/

/-- What an issuer polls after changes that alternate is told by the change that would be next. -/
theorem ownNext_alternating {config : RelaydConfig} (single : config.sourcePollingAllowMultipleBySameIssuer = false)
    (oneType : config.sourcePollingAllowMultipleTypeBySameIssuer = false) (registered : EFeedSourcePoll → Bool)
    (infos : List SourcePollingInfo) (polls : List EFeedSourcePoll)
    (known : ∀ info ∈ infos, (pollingType info.change).isSome = true)
    (alternates : ∀ type, Alternates (decide (type ∉ polls)) (addsOf type infos ++ [!registered type])) (type : EFeedSourcePoll) :
    type ∈ infos.foldl (ownNext config) polls ↔ registered type = true := by
  induction infos generalizing polls with
  | nil =>
    have last : (!registered type) = decide (type ∉ polls) := (alternates type).1
    by_cases listed : type ∈ polls <;> simp_all
  | cons info infos ih =>
    obtain ⟨about', about⟩ := Option.isSome_iff_exists.1 (known info List.mem_cons_self)
    have turns : (added info.change).isSome = decide (about' ∉ polls) := by
      have here := alternates about'
      rw [addsOf_cons_same about] at here
      exact here.1
    obtain ⟨polls', reviews, turned, others⟩ := ownReview_alternating single oneType about turns
    have next : ownNext config polls info = polls' := by rw [ownNext, reviews, Option.getD_some]
    rw [List.foldl_cons, next]
    apply ih polls' fun later member => known later (List.mem_cons_of_mem _ member)
    intro type'
    have here := alternates type'
    by_cases same : type' = about'
    · subst same
      rw [addsOf_cons_same about] at here
      have flips : decide (type' ∉ polls') = !decide (type' ∉ polls) := by simp [turned]
      rw [flips]
      exact here.2
    · rw [addsOf_cons_other fun equal => same (Option.some.inj (equal.symm.trans about))] at here
      have keeps : decide (type' ∉ polls') = decide (type' ∉ polls) := by simp [others type' same]
      rwa [keeps]

/-- The records of a source hold what the instance announced of it, in its order. Those of other issuers may be anywhere
between. -/
def Holds (client : Client) (sourceId : String) (log : List Event) (records : List PollingRecord) : Prop :=
  (stepsOf (fun record : PollingRecord => record.1.issuer) client.serviceId records).map Prod.fst = changesOf sourceId log

instance (client : Client) (sourceId : String) (log : List Event) (records : List PollingRecord) :
    Decidable (Holds client sourceId log records) := inferInstanceAs (Decidable (_ = _))

/-- **The reviewed handle list has the instance exactly as its registries have the source.** -/
theorem Matching.listed {config : RelaydConfig} (single : config.sourcePollingAllowMultipleBySameIssuer = false)
    (oneType : config.sourcePollingAllowMultipleTypeBySameIssuer = false) {client : Client} {service : EthConnectService}
    {log : List Event} (matching : Matching client service log) {sourceId : String} {records : List PollingRecord}
    (holds : Holds client sourceId log records) (type : EFeedSourcePoll) :
    type ∈ polledBy client.serviceId ((reviewAll config records).getD []) ↔ service.registered sourceId type = true := by
  have own : polledBy client.serviceId ((reviewAll config records).getD []) =
      (changesOf sourceId log).foldl (ownNext config) [] := by
    rw [← holds, List.foldl_map]
    exact (reviewStep_local config).foldl client.serviceId none records
  rw [own]
  apply ownNext_alternating single oneType (service.registered sourceId)
  · intro info member
    obtain ⟨record, announced, rfl⟩ := List.mem_map.1 member
    exact (matching.own record (List.mem_filter.1 announced).1).2
  · exact fun type => matching.alternates sourceId type

theorem init_matching (client : Client) : Matching client ({} : Instance).service ({} : Instance).log := by
  constructor
  · intro sourceId type
    cases type <;> exact ⟨rfl, True.intro⟩
  · intro record member
    cases member

namespace Instance
section
variable (config : RelaydConfig) (client : Client) (env env' env'' : Env) (getServiceId : String)

/-- The stops of a shutdown, and what follows them. -/
def shutdown (s : Instance) : List Action :=
  [.stopAllPolling env, .stopAllListening env' getServiceId, .resume s.pending.length env'']

/-- What the stops leave of the service. -/
def stopped (s : Instance) : EthConnectService :=
  (stopEverySourceListening client env' getServiceId (stopAllSourcePolling client env s.service).state).state

/-- The log after the stops. -/
def stoppedLog (s : Instance) : List Event :=
  s.log ++ (stopAllSourcePolling client env s.service).events ++
    (stopEverySourceListening client env' getServiceId (stopAllSourcePolling client env s.service).state).events

/-- A shutdown is always possible. -/
theorem run_shutdown (s : Instance) :
    run (step config client) s (s.shutdown env env' env'' getServiceId) = some { s with
      service := { s.stopped client env env' getServiceId with listeners := [] }
      log := s.stoppedLog client env env' getServiceId } := by
  have there : (s.pending ++ [Pending.removeAllListeners])[s.pending.length]? = some .removeAllListeners := by
    rw [List.getElem?_append_right (Nat.le_refl _), Nat.sub_self]
    rfl
  have erased : (s.pending ++ [Pending.removeAllListeners]).eraseIdx s.pending.length = s.pending := by
    rw [List.eraseIdx_append_of_length_le (Nat.le_refl _), Nat.sub_self, List.eraseIdx_cons_zero, List.append_nil]
  simp only [shutdown, run, step, called, Option.bind_some, there, Option.map_some, erased, stopped, stoppedLog]

theorem stopped_registered (s : Instance) (sourceId : String) (type : EFeedSourcePoll) :
    (s.stopped client env env' getServiceId).registered sourceId type = false := by
  have polls := stopEachListening_polls client env' getServiceId
    (stopAllSourcePolling client env s.service).state.sourceListening.keys (stopAllSourcePolling client env s.service).state
  cases type with
  | TIMEPERIOD =>
    have none : (s.stopped client env env' getServiceId).sourcePolling.get sourceId = none := by
      rw [stopped, stopEverySourceListening, Traced.read_bind_apply, polls.2]
      exact stopAllSourcePolling_get client env s.service sourceId
    rw [EthConnectService.registered, none]
    rfl
  | EVENT =>
    rw [EthConnectService.registered, stopped, stopEverySourceListening_get]
    rfl

theorem stopped_intervals (s : Instance) (interval : PollingInterval) :
    interval ∈ (s.stopped client env env' getServiceId).intervals ↔
      interval ∈ s.service.intervals ∧ ∀ sourceId, ¬ s.service.Tracks interval sourceId := by
  have polls := stopEachListening_polls client env' getServiceId
    (stopAllSourcePolling client env s.service).state.sourceListening.keys (stopAllSourcePolling client env s.service).state
  rw [stopped, stopEverySourceListening, Traced.read_bind_apply, polls.1]
  exact stopAllSourcePolling_intervals client env s.service interval

/-- **A shutdown empties the registries and removes every listener, in whatever state and whatever fails.** The intervals
that are left are those that no source has. -/
theorem shutdown_leaves (s : Instance) :
    ∃ s', run (step config client) s (s.shutdown env env' env'' getServiceId) = some s' ∧
      (∀ sourceId type, s'.service.registered sourceId type = false) ∧ s'.service.listeners = [] ∧
      ∀ interval, interval ∈ s'.service.intervals ↔
        interval ∈ s.service.intervals ∧ ∀ sourceId, ¬ s.service.Tracks interval sourceId := by
  refine ⟨_, run_shutdown config client env env' env'' getServiceId s, ?_, rfl, ?_⟩
  · intro sourceId type
    have none := stopped_registered client env env' getServiceId s sourceId type
    cases type <;> exact none
  · exact stopped_intervals client env env' getServiceId s

/-! ## Runs -/

variable {config} {client} (single : config.sourcePollingAllowMultipleBySameIssuer = false)
  (oneType : config.sourcePollingAllowMultipleTypeBySameIssuer = false) {as : List Action} {s : Instance}
  (casts : ∀ a ∈ as, a.Casts) (along : Along (step config client) Matches {} as)
  (reached : run (step config client) {} as = some s)
include single casts along reached

theorem run_matching : Matching client s.service s.log :=
  (kept_matching config client single).run init_nodup (init_matching client) ((Along.of_forall casts).and along) reached

include oneType

/-- **The handle list of a source names the instance exactly while its registries have the source**, whatever other
instances announce in between, when no issuer may poll a source twice or in two ways. -/
theorem handle_list_agrees {sourceId : String} {records : List PollingRecord} (holds : Holds client sourceId s.log records)
    (type : EFeedSourcePoll) :
    type ∈ polledBy client.serviceId ((reviewAll config records).getD []) ↔ s.service.registered sourceId type = true :=
  (run_matching single casts along reached).listed single oneType holds type

/-- **After a shutdown the handle lists do not name the instance**, once all that it announced is reviewed, when no issuer may
poll a source twice or in two ways. -/
theorem shutdown_unlists (written : env.PollingCasts) (written' : env'.PollingCasts) :
    ∃ s', run (step config client) {} (as ++ s.shutdown env env' env'' getServiceId) = some s' ∧
      ∀ sourceId records, Holds client sourceId s'.log records →
        polledBy client.serviceId ((reviewAll config records).getD []) = [] := by
  have done : run (step config client) {} (as ++ s.shutdown env env' env'' getServiceId) = some { s with
      service := { s.stopped client env env' getServiceId with listeners := [] }
      log := s.stoppedLog client env env' getServiceId } := by
    rw [run_append, reached]
    exact run_shutdown config client env env' env'' getServiceId s
  have stops : run (step config client) s [.stopAllPolling env, .stopAllListening env' getServiceId] = some { s with
      service := s.stopped client env env' getServiceId
      log := s.stoppedLog client env env' getServiceId
      pending := s.pending ++ [.removeAllListeners] } := rfl
  have allowed : Along (step config client) (fun s a => a.Casts ∧ s.Matches a) s
      [.stopAllPolling env, .stopAllListening env' getServiceId] := by
    refine Along.cons_iff.2 ⟨⟨written, id, True.intro⟩, fun _ _ => ?_⟩
    exact Along.cons_iff.2 ⟨⟨written', id, True.intro⟩, fun _ _ => Along.nil⟩
  have matching : Matching client (s.stopped client env env' getServiceId) (s.stoppedLog client env env' getServiceId) :=
    (kept_matching config client single).run (run_nodup reached) (run_matching single casts along reached) allowed stops
  refine ⟨_, done, ?_⟩
  intro sourceId records holds
  apply List.eq_nil_iff_forall_not_mem.2
  intro type listed
  have registered := (matching.listed single oneType holds type).1 listed
  rw [stopped_registered] at registered
  cases registered

end

/-! ## A listener that is stopped and started again -/

/-- The changes of the source, after one of another instance. -/
def relistenRecords (log : List Event) : List PollingRecord :=
  ({ source := proxyAddress, issuer := "relayd.eth_2", change := .ADD_PERIODIC, info := none }, "2022-04-15T11:00:00.000Z") ::
    (changesOf proxyAddress log).map fun info => (info, "2022-04-15T12:00:00.000Z")

theorem relisten_casts : ∀ a ∈ relisten, a.Casts := by
  have healthy : healthyEnv.PollingCasts := ⟨fun _ => rfl, fun _ => rfl⟩
  simp [relisten, Action.Casts, healthy]

theorem handle_list_agrees_relisten :
    ∃ s, run (step RelaydConfig.prod relayClient) {} relisten = some s ∧
      .EVENT ∈ polledBy relayClient.serviceId ((reviewAll RelaydConfig.prod (relistenRecords s.log)).getD []) := by
  have possible : (run (step RelaydConfig.prod relayClient) {} relisten).any (fun s =>
      s.service.registered proxyAddress .EVENT && decide (Holds relayClient proxyAddress s.log (relistenRecords s.log))) =
        true := by decide +kernel
  obtain ⟨s, reached, registered⟩ := (Option.any_eq_true _ _).1 possible
  rw [Bool.and_eq_true, decide_eq_true_eq] at registered
  have along : Along (step RelaydConfig.prod relayClient) Matches {} relisten := by decide +kernel
  exact ⟨s, reached, (handle_list_agrees rfl rfl relisten_casts along reached registered.2 .EVENT).2 registered.1⟩

theorem shutdown_unlists_relisten :
    ∃ s s', run (step RelaydConfig.prod relayClient) {} relisten = some s ∧
      run (step RelaydConfig.prod relayClient) {} (relisten ++ s.shutdown healthyEnv healthyEnv healthyEnv "") = some s' ∧
      ∀ sourceId records, Holds relayClient sourceId s'.log records →
        polledBy relayClient.serviceId ((reviewAll RelaydConfig.prod records).getD []) = [] := by
  have possible : (run (step RelaydConfig.prod relayClient) {} relisten).isSome = true := by decide +kernel
  obtain ⟨s, reached⟩ := Option.isSome_iff_exists.1 possible
  have along : Along (step RelaydConfig.prod relayClient) Matches {} relisten := by decide +kernel
  have healthy : healthyEnv.PollingCasts := ⟨fun _ => rfl, fun _ => rfl⟩
  obtain ⟨s', reached', unlisted⟩ :=
    shutdown_unlists healthyEnv healthyEnv healthyEnv "" rfl rfl relisten_casts along reached healthy healthy
  exact ⟨s, s', reached, reached', unlisted⟩

end Instance

end Relayd.EthClient
