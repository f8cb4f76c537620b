import Relayd.EthClient.Healthy
import Relayd.EthClient.PollerChanges

/-!
# A start that fails

What a failed `initiateSourceDataPolling` leaves of the pollers that there were. A
periodic start registers its interval in the place of an older one before the
registration is cast; an event start that fails is cleaned up by source, and what is
registered under the source may be an older listener.
-/

namespace Relayd.EthClient
set_option autoImplicit false
open Relayd.Common Sys

/-- The next timeout or contract object is not in use. -/
structure EthConnectService.Allocated (service : EthConnectService) : Prop where
  polled : ∀ sourceId polled, service.sourcePolling.get sourceId = some polled → polled.timeout < service.fresh
  listeners : ∀ listener ∈ service.listeners, listener.contract.object < service.fresh

/-- Every poller that there was is still there. -/
structure Unharmed (before after : EthConnectService) : Prop where
  polled : ∀ sourceId polled, before.sourcePolling.get sourceId = some polled →
    after.sourcePolling.get sourceId = some polled
  listened : ∀ sourceId listened, before.sourceListening.get sourceId = some listened →
    after.sourceListening.get sourceId = some listened
  intervals : ∀ interval ∈ before.intervals, interval ∈ after.intervals
  listeners : ∀ listener ∈ before.listeners, listener ∈ after.listeners

section
variable (config : RelaydConfig) (env : Env) (sourceConfig : FeedConfigSource)

/-- The failure of a start can do no harm: it comes early, or there is no poller of this type to do it to. -/
def Harmless (s : EthConnectService) : Prop :=
  match sourceConfig.poll with
  | some .TIMEPERIOD =>
    s.sourcePolling.get sourceConfig.contract = none ∨ config.sourcePollingAllowMultipleBySameIssuer = false ∨
      env.startsPolling sourceConfig = false
  | some .EVENT =>
    s.sourceListening.get sourceConfig.contract = none ∨ (env.listenedAddress sourceConfig).isOk = false
  | none => True

end

/-! ## Identities -/

section
variable {config : RelaydConfig} {client : Client} {env : Env} {sourceConfig : FeedConfigSource} {s s' : EthConnectService}
  {events : List Event} {call : Called EthConnectService Event (Except String (Except String Unit))}

theorem EthConnectService.Allocated.later (allocated : s.Allocated) {fresh : Nat} (later : s.fresh ≤ fresh) :
    ({ s with fresh := fresh } : EthConnectService).Allocated where
  polled sourceId polled entry := Nat.lt_of_lt_of_le (allocated.polled sourceId polled entry) later
  listeners listener member := Nat.lt_of_lt_of_le (allocated.listeners listener member) later

theorem PollingStart.allocated (start : PollingStart config client env sourceConfig s s' events) (allocated : s.Allocated) :
    s'.Allocated := by
  cases start with
  | idle fresh later => exact allocated.later later
  | refused interval new =>
    have later := allocated.later (Nat.le_succ_of_le new)
    exact ⟨later.polled, later.listeners⟩
  | registered interval new =>
    have later := allocated.later (Nat.le_succ_of_le new)
    refine ⟨?_, later.listeners⟩
    intro sourceId polled entry
    rcases OrderedMap.get_set_some entry with rfl | before
    · exact Nat.lt_succ_self _
    · exact later.polled sourceId polled before

theorem ListeningStart.allocated (start : ListeningStart config client env sourceConfig s call) (allocated : s.Allocated) :
    call.state.Allocated := by
  have listening : ∀ {listener : EventListener} {fresh : Nat}, s.fresh ≤ listener.contract.object →
      listener.contract.object < fresh → ∀ listener' ∈ listener :: s.listeners, listener'.contract.object < fresh := by
    intro listener fresh new inUse listener' member
    rcases List.mem_cons.1 member with rfl | member
    · exact inUse
    · have old := allocated.listeners listener' member
      omega
  cases start with
  | unloaded fresh later => exact allocated.later later
  | idle fresh later => exact allocated.later later
  | refused listener fresh new inUse =>
    exact ⟨(allocated.later (Nat.le_of_lt (Nat.lt_of_le_of_lt new inUse))).1, listening new inUse⟩
  | registered listener fresh new inUse =>
    exact ⟨(allocated.later (Nat.le_of_lt (Nat.lt_of_le_of_lt new inUse))).1, listening new inUse⟩

theorem Alters.allocated {casts unmatched : Prop}
    (alters : Alters client casts unmatched s s' events) (allocated : s.Allocated) : s'.Allocated := by
  cases alters with
  | unpolled sourceId polled _ entry =>
    exact ⟨fun _ _ entry => allocated.polled _ _ (OrderedMap.get_delete_some entry), allocated.listeners⟩
  | unlistened sourceId listened =>
    exact ⟨allocated.polled, fun listener member => allocated.listeners listener (List.mem_filter.1 member).1⟩
  | unregistered => exact allocated
  | changed sourceId polled data entry =>
    refine ⟨?_, allocated.listeners⟩
    intro sourceId' polled' entry'
    rcases OrderedMap.get_set_some entry' with rfl | before
    · exact allocated.polled sourceId polled entry
    · exact allocated.polled sourceId' polled' before
  | removed => exact ⟨allocated.polled, fun _ member => absurd member List.not_mem_nil⟩

namespace Instance

theorem step_allocated {s s' : Instance} {a : Action} (nodup : s.service.sourceListening.keys.Nodup)
    (allocated : s.service.Allocated) (stepped : s.step config client a = some s') : s'.service.Allocated := by
  cases a with
  | initiate env sourceConfig feedId =>
    cases poll : sourceConfig.poll with
    | none =>
      simp only [step, poll, Option.some.injEq] at stepped
      subst stepped
      exact allocated
    | some type =>
      cases type with
      | TIMEPERIOD =>
        simp only [step, poll, Option.some.injEq] at stepped
        subst stepped
        exact (initiatePeriodicPolling_start config client env sourceConfig feedId poll s.service).allocated allocated
      | EVENT =>
        have start := startListening_start config client env sourceConfig feedId poll s.service
        simp only [step, poll] at stepped
        split at stepped <;> cases stepped <;> exact start.allocated allocated
  | _ =>
    obtain ⟨events, -, ⟨env, sourceConfig, feedId, ⟨⟩, -⟩ | alters⟩ := step_effect nodup stepped
    exact alters.keeps (fun _ _ _ _ allocated alters => alters.allocated allocated) [] allocated

/-- **Identities are new in every state that an instance reaches.** -/
theorem run_allocated {s : Instance} {as : List Action} (reached : Sys.run (step config client) {} as = some s) :
    s.service.Allocated := by
  have start : ({} : Instance).service.Allocated :=
    ⟨fun _ _ entry => (nomatch entry), fun _ member => absurd member List.not_mem_nil⟩
  have each : ∀ s a s', (s.service.sourceListening.keys.Nodup ∧ s.service.Allocated) → True →
      step config client s a = some s' → s'.service.sourceListening.keys.Nodup ∧ s'.service.Allocated :=
    fun _ _ _ held _ stepped => ⟨step_nodup held.1 stepped, step_allocated held.1 held.2 stepped⟩
  exact (invariant each ⟨init_nodup, start⟩ .trivial reached).2

end Instance

/-! ## What a failure harms -/

theorem Unharmed.later (s : EthConnectService) (fresh : Nat) : Unharmed s { s with fresh := fresh } :=
  ⟨fun _ _ entry => entry, fun _ _ entry => entry, fun _ member => member, fun _ member => member⟩

/-- A periodic start harms the poller whose place it takes. -/
theorem PollingStart.unharmed_iff (start : PollingStart config client env sourceConfig s s' events) (allocated : s.Allocated) :
    Unharmed s s' ↔ s.sourcePolling.get sourceConfig.contract = none ∨
      config.sourcePollingAllowMultipleBySameIssuer = false ∨ env.startsPolling sourceConfig = false := by
  cases start with
  | idle fresh later fails => simp only [Unharmed.later, fails, or_true]
  | refused interval new own starts second single =>
    simp only [single, true_or, or_true, iff_true]
    exact ⟨fun _ _ entry => entry, fun _ _ entry => entry, fun _ => List.mem_cons_of_mem _, fun _ member => member⟩
  | registered interval new own starts admitted =>
    cases entry : s.sourcePolling.get sourceConfig.contract with
    | none =>
      simp only [true_or, iff_true]
      refine ⟨?_, fun _ _ entry => entry, fun _ => List.mem_cons_of_mem _, fun _ member => member⟩
      intro sourceId polled registered
      have other : sourceId ≠ sourceConfig.contract := by
        rintro rfl
        rw [entry] at registered
        cases registered
      rw [OrderedMap.get_set_other other]
      exact registered
    | some polled =>
      have allowed := admitted (by rw [entry]; rfl)
      simp only [reduceCtorEq, allowed, starts, or_self, Bool.true_eq_false, iff_false]
      intro unharmed
      have kept := unharmed.polled sourceConfig.contract polled entry
      have older := allocated.polled sourceConfig.contract polled entry
      rw [OrderedMap.get_set_same] at kept
      cases kept
      exact Nat.lt_irrefl _ (Nat.lt_of_lt_of_le older new)

/-- The clean-up ends the listener that is registered under the source, whichever it is. -/
theorem stopFailedListening_state (sourceId : String) (s : EthConnectService) :
    (stopFailedListening client env sourceId s).state =
      match s.sourceListening.get sourceId with
      | none => s
      | some listened => { s with
          listeners := s.listeners.filter fun listener => listener.contract.object != listened.contract.object
          sourceListening := s.sourceListening.delete sourceId } := by
  obtain ⟨-, ⟨absent, state⟩ | ⟨listened, there, state⟩⟩ := stopSourceEventListener_cases client env sourceId
    (some ("Listener init by '" ++ client.serviceId ++ "' failed")) s
  · rw [absent]
    exact state
  · rw [there]
    exact state

/-- The clean-up of a failed listener harms the older one that is registered under the source. -/
theorem ListeningStart.unharmed_iff {error : String} (start : ListeningStart config client env sourceConfig s call)
    (failed : call.value = .ok (.error error)) (allocated : s.Allocated) :
    Unharmed s (stopFailedListening client env sourceConfig.contract call.state).state ↔
      s.sourceListening.get sourceConfig.contract = none := by
  rw [stopFailedListening_state]
  cases entry : s.sourceListening.get sourceConfig.contract with
  | some listened =>
    simp only [reduceCtorEq, iff_false]
    intro unharmed
    have kept := unharmed.listened sourceConfig.contract listened entry
    have deleted : ∀ present, call.state.sourceListening.get sourceConfig.contract = some present → False := by
      intro present there
      simp only [there, OrderedMap.get_delete_same, reduceCtorEq] at kept
    cases start with
    | unloaded => cases failed
    | idle | refused => exact deleted listened entry
    | registered => exact deleted _ (OrderedMap.get_set_same _ _ _)
  | none =>
    simp only [iff_true]
    cases start with
    | unloaded => cases failed
    | idle fresh =>
      simp only [entry]
      exact Unharmed.later s fresh
    | refused listener =>
      simp only [entry]
      exact ⟨fun _ _ entry => entry, fun _ _ entry => entry, fun _ member => member, fun _ => List.mem_cons_of_mem _⟩
    | registered listener fresh new =>
      simp only [OrderedMap.get_set_same]
      refine ⟨fun _ _ entry => entry, ?_, fun _ member => member, ?_⟩
      · intro sourceId listened registered
        have other : sourceId ≠ sourceConfig.contract := by
          rintro rfl
          rw [entry] at registered
          cases registered
        rw [OrderedMap.get_delete_other other, OrderedMap.get_set_other other]
        exact registered
      · intro older member
        have before := allocated.listeners older member
        have distinct : (older.contract.object != listener.contract.object) = true := by
          rw [bne_iff_ne]
          omega
        exact List.mem_filter.2 ⟨List.mem_cons_of_mem _ member, distinct⟩

/-- Nothing is cleaned up when the contract to listen to could not be loaded. -/
theorem ListeningStart.of_error {error : String} (start : ListeningStart config client env sourceConfig s call)
    (failed : call.value = .error error) : Unharmed s call.state ∧ (env.listenedAddress sourceConfig).isOk = false := by
  cases start with
  | unloaded fresh later error fails => exact ⟨Unharmed.later s fresh, fails⟩
  | idle | refused | registered => cases failed

theorem ListeningStart.loaded {result : Except String Unit} (start : ListeningStart config client env sourceConfig s call)
    (answered : call.value = .ok result) : (env.listenedAddress sourceConfig).isOk = true := by
  cases start with
  | unloaded => cases answered
  | idle | refused | registered => assumption

/-- **Which failed starts harm no poller**: a periodic one on a source that is not polled yet, or that fails before its
interval or may not register it; an event one on a source that is not listened to yet, or that fails before the
decimals are read. -/
theorem failed_start_unharmed_iff (allocated : s.Allocated) {feedId error : String}
    (rejects : (initiateSourceDataPolling config client env sourceConfig feedId s).value = .error error) :
    Unharmed s (initiateSourceDataPolling config client env sourceConfig feedId s).state ↔
      Harmless config env sourceConfig s := by
  cases poll : sourceConfig.poll with
  | none =>
    simp only [initiateSourceDataPolling, poll, Harmless, iff_true]
    exact Unharmed.later s s.fresh
  | some type =>
    cases type with
    | TIMEPERIOD =>
      simp only [initiateSourceDataPolling, poll, Harmless]
      exact (initiatePeriodicPolling_start config client env sourceConfig feedId poll s).unharmed_iff allocated
    | EVENT =>
      have start := startListening_start config client env sourceConfig feedId poll s
      simp only [initiateSourceDataPolling, poll, initiateEventListening_eq, Traced.bind_apply, Harmless] at rejects ⊢
      cases outcome : (startListening config client env sourceConfig feedId s).value with
      | error error =>
        obtain ⟨unharmed, fails⟩ := start.of_error outcome
        simp only [fails, or_true, iff_true, Traced.pure_apply]
        exact unharmed
      | ok result =>
        cases result with
        | ok _ =>
          simp only [outcome, Traced.pure_apply, reduceCtorEq] at rejects
        | error error =>
          simp only [start.loaded outcome, Bool.true_eq_false, or_false]
          exact start.unharmed_iff outcome allocated

end

/-! ## Two feeds on one contract -/

/-- An instance that listens to a contract. -/
def listening : EthConnectService :=
  (initiateSourceDataPolling RelaydConfig.prod mainClient healthyEnv newSource "feed-btc" {}).state

/-- The decimals of no contract can be read. -/
def undecimalEnv : Env where
  __ := healthyEnv
  reads := { healthyEnv.reads with decimals := fun _ => .error "Error: call revert exception" }

/-- An instance reaches that state. -/
theorem listening_allocated : listening.Allocated := by
  have reached : Sys.run (Instance.step RelaydConfig.prod mainClient) {} [.initiate healthyEnv newSource "feed-btc"] = some _ :=
    rfl
  exact Instance.run_allocated reached

/-- A start that fails on another contract. -/
theorem listening_unharmed :
    Unharmed listening (initiateSourceDataPolling RelaydConfig.prod mainClient undecimalEnv
      { newSource with contract := "0x37bC7498f4FF12C19678ee8fE19d309b87F6a9e6" } "feed-btc-2" listening).state :=
  (failed_start_unharmed_iff listening_allocated rfl).2 (Or.inl rfl)

/-- A start that fails on the same contract, for another feed, ends the listener of the first feed. -/
theorem listening_harmed :
    (∃ error, (initiateSourceDataPolling RelaydConfig.prod mainClient undecimalEnv newSource "feed-btc-2" listening).value =
        .error error) ∧
      ¬ Unharmed listening (initiateSourceDataPolling RelaydConfig.prod mainClient undecimalEnv newSource "feed-btc-2"
        listening).state := by
  refine ⟨⟨_, rfl⟩, ?_⟩
  intro unharmed
  have kept := unharmed.listened proxyAddress _ rfl
  cases kept

end Relayd.EthClient
