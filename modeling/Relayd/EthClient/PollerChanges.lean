import Relayd.EthClient.Net
import Relayd.EthClient.Pollers

/-!
# What an action does to the pollers

`Starts` lists what the initiation of a poller may leave of it, `Alters` what
every other call may do to the registered ones. Each action of an instance is
one start or a sequence of alterations, and a law of the two tables, the intervals,
the listeners and the announcements is one that these keep.
-/

namespace Relayd.EthClient
set_option autoImplicit false
open Relayd.Common Sys

/-- Every polling change that is cast is written. -/
def Env.PollingCasts (env : Env) : Prop :=
  (∀ info, env.validatePolling info = .accepted) ∧ ∀ event, env.writeFails event = false

/-- The change is announced once, or not at all when its cast fails. -/
def Announces (client : Client) (casts : Prop) (sourceId : String) (change : ESourcePollingChange) (events : List Event) :
    Prop :=
  (∃ info, announcements events =
      [(sourceId, { source := sourceId, issuer := client.serviceId, change := change, info := info })]) ∨
    (¬ casts ∧ announcements events = [])

/-- A periodic initiation gets as far as its interval: the period is positive and the contract's decimals load. -/
def Env.startsPolling (env : Env) (sourceConfig : FeedConfigSource) : Bool :=
  sourceConfig.poll = some .TIMEPERIOD && (sourceConfig.period.any fun period => decide (0 < period)) &&
    (loadContractDecimals env.reads sourceConfig.contract).isOk

/-- The address of the contract whose events are listened to. -/
def Env.listenedAddress (env : Env) (sourceConfig : FeedConfigSource) : Except String String :=
  if sourceConfig.type = some .CL_AGGR_PROX then loadClProxyContractAggregator env.reads sourceConfig.contract
  else .ok sourceConfig.contract

/-- An event initiation gets as far as its listener: the listened contract and its decimals load, and the
event has a name. -/
def Env.startsListening (env : Env) (sourceConfig : FeedConfigSource) : Bool :=
  sourceConfig.poll = some .EVENT && (eventName sourceConfig).isSome &&
    match env.listenedAddress sourceConfig with
    | .error _ => false
    | .ok address => (loadContractDecimals env.reads address).isOk

section
variable (config : RelaydConfig) (client : Client) (env : Env)

/-- **What the initiation of a poller may do.** -/
inductive Starts (sourceConfig : FeedConfigSource) (s : EthConnectService) : EthConnectService → List Event → Prop
  /-- It fails before its interval or its listener. -/
  | idle (fresh : Nat) (events : List Event) (quiet : announcements events = []) :
    Starts sourceConfig s { s with fresh := fresh } events
  /-- The interval runs, and its registration is refused. -/
  | refusedInterval (interval : PollingInterval) (fresh : Nat) (events : List Event)
    (starts : env.startsPolling sourceConfig = true) (own : interval.contract.address = sourceConfig.contract)
    (second : (s.sourcePolling.get sourceConfig.contract).isSome = true)
    (single : config.sourcePollingAllowMultipleBySameIssuer = false) (quiet : announcements events = []) :
    Starts sourceConfig s { s with intervals := interval :: s.intervals, fresh := fresh } events
  | polling (interval : PollingInterval) (fresh : Nat) (events : List Event)
    (starts : env.startsPolling sourceConfig = true) (own : interval.contract.address = sourceConfig.contract)
    (admitted : (s.sourcePolling.get sourceConfig.contract).isSome = true →
      config.sourcePollingAllowMultipleBySameIssuer = true)
    (announces : Announces client env.PollingCasts sourceConfig.contract .ADD_PERIODIC events) :
    Starts sourceConfig s { s with
      intervals := interval :: s.intervals
      sourcePolling := s.sourcePolling.set sourceConfig.contract { timeout := interval.timeout, data := none }
      fresh := fresh } events
  /-- The listener is on, and its registration is refused. -/
  | refusedListener (listener : EventListener) (fresh : Nat) (events : List Event)
    (starts : env.startsListening sourceConfig = true) (own : listener.sourceId = sourceConfig.contract)
    (polled : (s.sourcePolling.get sourceConfig.contract).isSome = true)
    (single : config.sourcePollingAllowMultipleBySameIssuer = false) (quiet : announcements events = []) :
    Starts sourceConfig s { s with listeners := listener :: s.listeners, fresh := fresh } events
  | listening (listener : EventListener) (fresh : Nat) (events : List Event)
    (starts : env.startsListening sourceConfig = true) (own : listener.sourceId = sourceConfig.contract)
    (admitted : (s.sourcePolling.get sourceConfig.contract).isSome = true →
      config.sourcePollingAllowMultipleBySameIssuer = true)
    (announces : Announces client env.PollingCasts sourceConfig.contract .ADD_LISTEN_EVENT events) :
    Starts sourceConfig s { s with
      listeners := listener :: s.listeners
      sourceListening := s.sourceListening.set sourceConfig.contract { contract := listener.contract, data := none }
      fresh := fresh } events

/-- **What every other call may do**, one source at a time. A source that is not listened to is stopped being
listened to only if `unmatched`. -/
inductive Alters (casts unmatched : Prop) (s : EthConnectService) : EthConnectService → List Event → Prop
  | unpolled (sourceId : String) (polled : SourcePolled) (events : List Event)
    (entry : s.sourcePolling.get sourceId = some polled) (announces : Announces client casts sourceId .REMOVE_PERIODIC events) :
    Alters casts unmatched s { s with
      intervals := s.intervals.filter fun interval => interval.timeout != polled.timeout
      sourcePolling := s.sourcePolling.delete sourceId } events
  | unlistened (sourceId : String) (listened : SourceListened) (events : List Event)
    (entry : s.sourceListening.get sourceId = some listened)
    (announces : Announces client casts sourceId .REMOVE_LISTEN_EVENT events) :
    Alters casts unmatched s { s with
      listeners := s.listeners.filter fun listener => listener.contract.object != listened.contract.object
      sourceListening := s.sourceListening.delete sourceId } events
  | unregistered (sourceId : String) (events : List Event) (isUnmatched : unmatched)
    (absent : s.sourceListening.get sourceId = none)
    (announces : Announces client casts sourceId .REMOVE_LISTEN_EVENT events) :
    Alters casts unmatched s s events
  | changed (sourceId : String) (polled : SourcePolled) (data : FeedSourceData)
    (entry : s.sourcePolling.get sourceId = some polled) :
    Alters casts unmatched s { s with
      sourcePolling := s.sourcePolling.set sourceId { data := some data, timeout := polled.timeout } } []
  | removed : Alters casts unmatched s { s with listeners := [] } []

/-- Some of these, one after the other. -/
inductive AltersAll (casts unmatched : Prop) : EthConnectService → EthConnectService → List Event → Prop
  | none (s : EthConnectService) : AltersAll casts unmatched s s []
  | next {s s₁ s' : EthConnectService} {events events' : List Event} (first : Alters client casts unmatched s s₁ events)
    (rest : AltersAll casts unmatched s₁ s' events') : AltersAll casts unmatched s s' (events ++ events')

end

theorem announcements_append (events events' : List Event) :
    announcements (events ++ events') = announcements events ++ announcements events' := List.filterMap_append

theorem Announces.quiet_append {client : Client} {casts : Prop} {sourceId : String} {change : ESourcePollingChange}
    {events' : List Event} (announces : Announces client casts sourceId change events') (events : List Event)
    (quiet : announcements events = []) :
    Announces client casts sourceId change (events ++ events') := by
  simpa only [Announces, announcements_append, quiet, List.nil_append] using announces

theorem isOk_of_ok {α : Type} {result : Except String α} {value : α} (ok : result = .ok value) : result.isOk = true := by
  rw [ok]
  rfl

section
variable (config : RelaydConfig) (client : Client) (env : Env)

theorem castSourcePolling_announces (sourceId : String) (change : ESourcePollingChange) (info : Option String)
    (s : EthConnectService) :
    (castSourcePolling client env sourceId change info s).state = s ∧
      Announces client env.PollingCasts sourceId change (castSourcePolling client env sourceId change info s).events := by
  rcases castSourcePolling_cases client env sourceId change info s with ⟨error, failed⟩ | written
  · refine ⟨by rw [failed], Or.inr ⟨?_, by rw [failed]; rfl⟩⟩
    rintro ⟨accepts, writes⟩
    simp only [castSourcePolling, accepts, writes] at failed
    cases congrArg Called.value failed
  · exact ⟨by rw [written], Or.inl ⟨info, by rw [written]; rfl⟩⟩

/-- **A registration** is refused on a source that is polled, when one poll a source is allowed; else it is made and
announced. -/
theorem registration_cases (sourceId : String) (change : ESourcePollingChange) (info : Option String) (refusal : String)
    (register : EthConnectService → EthConnectService) (s : EthConnectService) :
    let call := (Traced.read >>= fun service =>
      if (service.sourcePolling.get sourceId).isSome ∧ ¬ config.sourcePollingAllowMultipleBySameIssuer then
        return .error refusal
      else do
        Traced.update register
        castSourcePolling client env sourceId change info : Method (Except String Unit)) s
    ((s.sourcePolling.get sourceId).isSome = true ∧ config.sourcePollingAllowMultipleBySameIssuer = false ∧
        call = ⟨.error refusal, s, []⟩) ∨
      (((s.sourcePolling.get sourceId).isSome = true → config.sourcePollingAllowMultipleBySameIssuer = true) ∧
        call.state = register s ∧ Announces client env.PollingCasts sourceId change call.events) := by
  simp only [Traced.read_bind_apply, Traced.ite_apply, Traced.update_bind_apply]
  split
  case isTrue refused => exact Or.inl ⟨refused.1, Bool.eq_false_iff.2 refused.2, rfl⟩
  case isFalse admitted =>
    right
    refine ⟨fun polled => by_contra fun single => admitted ⟨polled, single⟩, ?_⟩
    exact castSourcePolling_announces client env sourceId _ _ _

omit config client env in
theorem initContractClAggregator_apply (address : String) (s : EthConnectService) :
    initContractClAggregator address s =
      ⟨{ object := s.fresh, address := address }, { s with fresh := s.fresh + 1 }, []⟩ := rfl

omit config client env in
theorem startPollingData_apply (sourceConfig : FeedConfigSource) (period : Rat) (feedId : String) (decimals : Nat)
    (contract : Contract) (s : EthConnectService) :
    startPollingData sourceConfig period feedId decimals contract s =
      ⟨s.fresh, { s with
          intervals := { timeout := s.fresh, feedId := feedId, contract := contract, notif := sourceConfig.notif,
                         period := period, decimals := decimals } :: s.intervals
          fresh := s.fresh + 1 }, [.reading feedId sourceConfig.contract]⟩ := rfl

/-- **What a periodic initiation does**: it fails before its interval, or sets it, and its registration is refused or
made. -/
inductive PollingStart (sourceConfig : FeedConfigSource) (s : EthConnectService) : EthConnectService → List Event → Prop
  | idle (fresh : Nat) (later : s.fresh ≤ fresh) (fails : env.startsPolling sourceConfig = false) :
    PollingStart sourceConfig s { s with fresh := fresh } []
  | refused (interval : PollingInterval) (new : s.fresh ≤ interval.timeout)
    (own : interval.contract.address = sourceConfig.contract) (starts : env.startsPolling sourceConfig = true)
    (second : (s.sourcePolling.get sourceConfig.contract).isSome = true)
    (single : config.sourcePollingAllowMultipleBySameIssuer = false) (events : List Event) (quiet : announcements events = []) :
    PollingStart sourceConfig s { s with intervals := interval :: s.intervals, fresh := interval.timeout + 1 } events
  | registered (interval : PollingInterval) (new : s.fresh ≤ interval.timeout)
    (own : interval.contract.address = sourceConfig.contract) (starts : env.startsPolling sourceConfig = true)
    (admitted : (s.sourcePolling.get sourceConfig.contract).isSome = true →
      config.sourcePollingAllowMultipleBySameIssuer = true) (events : List Event)
    (announces : Announces client env.PollingCasts sourceConfig.contract .ADD_PERIODIC events) :
    PollingStart sourceConfig s { s with
      intervals := interval :: s.intervals
      sourcePolling := s.sourcePolling.set sourceConfig.contract { timeout := interval.timeout, data := none }
      fresh := interval.timeout + 1 } events

theorem initiatePeriodicPolling_start (sourceConfig : FeedConfigSource) (feedId : String)
    (periodic : sourceConfig.poll = some .TIMEPERIOD) (s : EthConnectService) :
    PollingStart config client env sourceConfig s (initiatePeriodicPolling config client env sourceConfig feedId s).state
      (initiatePeriodicPolling config client env sourceConfig feedId s).events := by
  unfold initiatePeriodicPolling
  cases period : sourceConfig.period.filter fun period => 0 < period with
  | none =>
    refine .idle s.fresh (Nat.le_refl _) ?_
    have invalid : (sourceConfig.period.any fun period => decide (0 < period)) = false := by
      rw [Option.filter_eq_none_iff] at period
      rw [Option.any_eq_false]
      simpa using period
    simp only [Env.startsPolling, invalid, Bool.and_false, Bool.false_and]
  | some timePeriod =>
    simp only [Traced.bind_apply, initContractClAggregator_apply]
    cases decimals : loadContractDecimals env.reads sourceConfig.contract with
    | error error =>
      refine .idle (s.fresh + 1) (Nat.le_succ _) ?_
      simp only [Env.startsPolling, decimals, Except.isOk, Except.toBool, Bool.and_false]
    | ok contractDecimals =>
      have starts : env.startsPolling sourceConfig = true := by
        obtain ⟨given, positive⟩ := Option.filter_eq_some_iff.1 period
        simp only [Env.startsPolling, periodic, decide_true, given, Option.any_some, positive, isOk_of_ok decimals,
          Bool.and_self]
      simp only [andThen_ok, Traced.bind_apply, startPollingData_apply, Traced.pure_apply, List.nil_append, List.append_nil]
      let interval : PollingInterval :=
        { timeout := s.fresh + 1, feedId := feedId, contract := { object := s.fresh, address := sourceConfig.contract },
          notif := sourceConfig.notif, period := timePeriod, decimals := contractDecimals }
      rcases registration_cases config client env sourceConfig.contract .ADD_PERIODIC (some "Periodic Source polling started")
        (errorText ("Attempt to register a second polling of same Source on same node instance for '"
          ++ sourceConfig.contract ++ "'"))
        (fun service => { service with
          sourcePolling := service.sourcePolling.set sourceConfig.contract { timeout := interval.timeout, data := none } })
        { s with intervals := interval :: s.intervals, fresh := s.fresh + 1 + 1 } with
        ⟨second, single, refused⟩ | ⟨admitted, state, announces⟩
      · rw [trackSourcePolling, refused]
        exact .refused interval (Nat.le_succ _) rfl starts second single _ rfl
      · rw [trackSourcePolling, state]
        exact .registered interval (Nat.le_succ _) rfl starts admitted _
          (announces.quiet_append [.reading feedId sourceConfig.contract] rfl)

variable {config client env} in
theorem PollingStart.starts {sourceConfig : FeedConfigSource} {s s' : EthConnectService} {events : List Event}
    (start : PollingStart config client env sourceConfig s s' events) : Starts config client env sourceConfig s s' events := by
  cases start with
  | idle fresh later fails => exact .idle fresh [] rfl
  | refused interval new own starts second single _ quiet => exact .refusedInterval interval _ _ starts own second single quiet
  | registered interval new own starts admitted _ announces => exact .polling interval _ _ starts own admitted announces

/-- The listened contract is a new object at the listened address. -/
theorem listenedContract_cases (sourceConfig : FeedConfigSource) (s : EthConnectService) :
    ∃ fresh, s.fresh ≤ fresh ∧ (listenedContract env sourceConfig s).state = { s with fresh := fresh } ∧
      (listenedContract env sourceConfig s).events = [] ∧
      match (listenedContract env sourceConfig s).value with
      | .error _ => (env.listenedAddress sourceConfig).isOk = false
      | .ok contract => s.fresh ≤ contract.object ∧ contract.object < fresh ∧
          env.listenedAddress sourceConfig = .ok contract.address := by
  simp only [listenedContract, Traced.bind_apply, initContractClAggregator_apply, Traced.ite_apply, Env.listenedAddress]
  split
  case isTrue proxy =>
    cases loadClProxyContractAggregator env.reads sourceConfig.contract with
    | error error => exact ⟨s.fresh + 1, Nat.le_succ _, rfl, rfl, rfl⟩
    | ok aggrAddr => exact ⟨s.fresh + 1 + 1, Nat.le_add_right _ 2, rfl, rfl, Nat.le_succ _, Nat.lt_succ_self _, rfl⟩
  case isFalse => exact ⟨s.fresh + 1, Nat.le_succ _, rfl, rfl, Nat.le_refl _, Nat.lt_succ_self _, rfl⟩

/-- **What the start of a listener does**, before its clean-up. -/
inductive ListeningStart (sourceConfig : FeedConfigSource) (s : EthConnectService) :
    Called EthConnectService Event (Except String (Except String Unit)) → Prop
  | unloaded (fresh : Nat) (later : s.fresh ≤ fresh) (error : String)
    (fails : (env.listenedAddress sourceConfig).isOk = false) :
    ListeningStart sourceConfig s ⟨.error error, { s with fresh := fresh }, []⟩
  | idle (fresh : Nat) (later : s.fresh ≤ fresh) (error : String) (loaded : (env.listenedAddress sourceConfig).isOk = true)
    (events : List Event) (quiet : announcements events = []) :
    ListeningStart sourceConfig s ⟨.ok (.error error), { s with fresh := fresh }, events⟩
  /-- The listener is on, and its registration is refused. -/
  | refused (listener : EventListener) (fresh : Nat) (new : s.fresh ≤ listener.contract.object)
    (inUse : listener.contract.object < fresh) (own : listener.sourceId = sourceConfig.contract)
    (loaded : (env.listenedAddress sourceConfig).isOk = true) (starts : env.startsListening sourceConfig = true)
    (polled : (s.sourcePolling.get sourceConfig.contract).isSome = true)
    (single : config.sourcePollingAllowMultipleBySameIssuer = false) (error : String) (events : List Event)
    (quiet : announcements events = []) :
    ListeningStart sourceConfig s
      ⟨.ok (.error error), { s with listeners := listener :: s.listeners, fresh := fresh }, events⟩
  | registered (listener : EventListener) (fresh : Nat) (new : s.fresh ≤ listener.contract.object)
    (inUse : listener.contract.object < fresh) (own : listener.sourceId = sourceConfig.contract)
    (loaded : (env.listenedAddress sourceConfig).isOk = true) (starts : env.startsListening sourceConfig = true)
    (admitted : (s.sourcePolling.get sourceConfig.contract).isSome = true →
      config.sourcePollingAllowMultipleBySameIssuer = true) (cast : Except String Unit) (events : List Event)
    (announces : Announces client env.PollingCasts sourceConfig.contract .ADD_LISTEN_EVENT events) :
    ListeningStart sourceConfig s
      ⟨.ok cast, { s with
        listeners := listener :: s.listeners
        sourceListening := s.sourceListening.set sourceConfig.contract { contract := listener.contract, data := none }
        fresh := fresh }, events⟩

theorem startListening_start (sourceConfig : FeedConfigSource) (feedId : String) (onEvent : sourceConfig.poll = some .EVENT)
    (s : EthConnectService) :
    ListeningStart config client env sourceConfig s (startListening config client env sourceConfig feedId s) := by
  obtain ⟨fresh, later, state, events, new⟩ := listenedContract_cases env sourceConfig s
  simp only [startListening, Traced.bind_apply, state, events, List.nil_append]
  cases loaded : (listenedContract env sourceConfig s).value with
  | error error =>
    rw [loaded] at new
    exact .unloaded fresh later error new
  | ok sourceContract =>
    rw [loaded] at new
    obtain ⟨new, inUse, address⟩ := new
    have addressed := isOk_of_ok address
    simp only [Traced.bind_apply, Traced.pure_apply, List.append_nil, listenToSource]
    cases decimals : loadContractDecimals env.reads sourceContract.address with
    | error error => exact .idle fresh later error addressed [] rfl
    | ok contractDecimals =>
      simp only [andThen_ok, Traced.bind_apply, listenToContractEvent, Traced.emit_apply]
      cases event : eventName sourceConfig with
      | none => exact .idle fresh later _ addressed _ rfl
      | some eventSignature =>
        have starts : env.startsListening sourceConfig = true := by
          simp only [Env.startsListening, onEvent, decide_true, event, Option.isSome_some, address,
            isOk_of_ok decimals, Bool.and_self]
        simp only [Traced.update_bind_apply, Traced.pure_apply, andThen_ok, List.append_nil]
        let listener : EventListener :=
          { contract := sourceContract, eventSignature := eventSignature, feedId := feedId,
            sourceId := sourceConfig.contract, decimals := contractDecimals }
        rcases registration_cases config client env sourceConfig.contract .ADD_LISTEN_EVENT
          (some "Source Event listening started")
          (errorText ("Forbidden attempt to register a second event listener on same Source on same node "
            ++ "instance for '" ++ sourceConfig.contract ++ "'"))
          (fun service => { service with
            sourceListening := service.sourceListening.set sourceConfig.contract { contract := sourceContract, data := none } })
          { s with listeners := listener :: s.listeners, fresh := fresh } with
          ⟨polled, single, refused⟩ | ⟨admitted, state, announces⟩
        · rw [trackSourceEventListener, refused]
          exact .refused listener fresh new inUse rfl addressed starts polled single _ _ rfl
        · rw [trackSourceEventListener, state]
          exact .registered listener fresh new inUse rfl addressed starts admitted _ _
            (announces.quiet_append [.reading feedId sourceConfig.contract] rfl)

variable {config client env} in
theorem ListeningStart.starts {sourceConfig : FeedConfigSource} {s : EthConnectService}
    {call : Called EthConnectService Event (Except String (Except String Unit))}
    (start : ListeningStart config client env sourceConfig s call) :
    Starts config client env sourceConfig s call.state call.events := by
  cases start with
  | unloaded fresh later error fails => exact .idle fresh [] rfl
  | idle fresh later error loaded events quiet => exact .idle fresh events quiet
  | refused listener fresh new inUse own loaded starts polled single error events quiet =>
    exact .refusedListener listener fresh events starts own polled single quiet
  | registered listener fresh new inUse own loaded starts admitted cast events announces =>
    exact .listening listener fresh events starts own admitted announces

end

/-! ## What the other calls do -/

section
variable {client : Client} {casts casts' unmatched unmatched' : Prop} {s s₁ s' : EthConnectService}
  {events events' : List Event}

theorem Alters.all (first : Alters client casts unmatched s s' events) : AltersAll client casts unmatched s s' events := by
  simpa only [List.append_nil] using AltersAll.next first (.none s')

theorem AltersAll.append (first : AltersAll client casts unmatched s s₁ events)
    (rest : AltersAll client casts unmatched s₁ s' events') : AltersAll client casts unmatched s s' (events ++ events') := by
  induction first with
  | none s => exact rest
  | next first _ ih =>
    rw [List.append_assoc]
    exact .next first (ih rest)

theorem Announces.mono {sourceId : String} {change : ESourcePollingChange} (more : casts' → casts)
    (announces : Announces client casts sourceId change events) : Announces client casts' sourceId change events :=
  announces.imp_right fun ⟨fails, quiet⟩ => ⟨fun cast => fails (more cast), quiet⟩

theorem Alters.mono (more : casts' → casts) (fewer : unmatched → unmatched')
    (alters : Alters client casts unmatched s s' events) : Alters client casts' unmatched' s s' events := by
  cases alters with
  | unpolled sourceId polled _ entry announces => exact .unpolled sourceId polled _ entry (announces.mono more)
  | unlistened sourceId listened _ entry announces => exact .unlistened sourceId listened _ entry (announces.mono more)
  | unregistered sourceId _ isUnmatched absent announces =>
    exact .unregistered sourceId _ (fewer isUnmatched) absent (announces.mono more)
  | changed sourceId polled data entry => exact .changed sourceId polled data entry
  | removed => exact .removed

theorem AltersAll.mono (more : casts' → casts) (fewer : unmatched → unmatched')
    (alters : AltersAll client casts unmatched s s' events) : AltersAll client casts' unmatched' s s' events := by
  induction alters with
  | none s => exact .none s
  | next first _ ih => exact .next (first.mono more fewer) ih

/-- What one alteration preserves, a sequence preserves. -/
theorem AltersAll.keeps {Inv : EthConnectService → List Event → Prop}
    (each : ∀ s s' log events, Inv s log → Alters client casts unmatched s s' events → Inv s' (log ++ events))
    (all : AltersAll client casts unmatched s s' events) (log : List Event) (inv : Inv s log) : Inv s' (log ++ events) := by
  induction all generalizing log with
  | none s => rwa [List.append_nil]
  | next first _ ih =>
    rw [← List.append_assoc]
    exact ih _ (each _ _ _ _ inv first)

/-- No source is listed twice among those listened to. -/
theorem Starts.nodup {config : RelaydConfig} {env : Env} {sourceConfig : FeedConfigSource}
    (starts : Starts config client env sourceConfig s s' events) (nodup : s.sourceListening.keys.Nodup) :
    s'.sourceListening.keys.Nodup := by
  cases starts with
  | listening => exact OrderedMap.nodup_set nodup _ _
  | _ => exact nodup

theorem Alters.nodup (alters : Alters client casts unmatched s s' events) (nodup : s.sourceListening.keys.Nodup) :
    s'.sourceListening.keys.Nodup := by
  cases alters with
  | unlistened => exact OrderedMap.nodup_delete nodup _
  | _ => exact nodup

end

section
variable (client : Client) (env : Env) {unmatched : Prop}

theorem stopSourcePolling_alters (sourceId : String) (reasonMsg : Option String) (s : EthConnectService) :
    AltersAll client env.PollingCasts unmatched s
      (stopSourcePolling client env sourceId .REMOVE_PERIODIC reasonMsg s).state
      (stopSourcePolling client env sourceId .REMOVE_PERIODIC reasonMsg s).events := by
  simp only [stopSourcePolling, Traced.read_bind_apply]
  cases entry : s.sourcePolling.get sourceId with
  | none => exact .none s
  | some polled =>
    obtain ⟨state, announces⟩ := castSourcePolling_announces client env sourceId .REMOVE_PERIODIC reasonMsg
      { s with
        intervals := s.intervals.filter fun interval => interval.timeout != polled.timeout
        sourcePolling := s.sourcePolling.delete sourceId }
    simp only [Traced.update_bind_apply, state]
    exact (Alters.unpolled sourceId polled _ entry announces).all

/-- The end of a listener: what it does to a source that is listened to, and what it announces of one that is not. -/
theorem stopSourceEventListener_cases (sourceId : String) (reasonMsg : Option String) (s : EthConnectService) :
    Announces client env.PollingCasts sourceId .REMOVE_LISTEN_EVENT
        (stopSourceEventListener client env sourceId .REMOVE_LISTEN_EVENT reasonMsg s).events ∧
      ((s.sourceListening.get sourceId = none ∧
          (stopSourceEventListener client env sourceId .REMOVE_LISTEN_EVENT reasonMsg s).state = s) ∨
        ∃ listened, s.sourceListening.get sourceId = some listened ∧
          (stopSourceEventListener client env sourceId .REMOVE_LISTEN_EVENT reasonMsg s).state = { s with
            listeners := s.listeners.filter fun listener => listener.contract.object != listened.contract.object
            sourceListening := s.sourceListening.delete sourceId }) := by
  simp only [stopSourceEventListener, Traced.update_bind_apply]
  cases s.sourceListening.get sourceId with
  | none =>
    obtain ⟨state, announces⟩ := castSourcePolling_announces client env sourceId .REMOVE_LISTEN_EVENT reasonMsg s
    exact ⟨announces, Or.inl ⟨rfl, state⟩⟩
  | some listened =>
    obtain ⟨state, announces⟩ := castSourcePolling_announces client env sourceId .REMOVE_LISTEN_EVENT reasonMsg
      { s with
        listeners := s.listeners.filter fun listener => listener.contract.object != listened.contract.object
        sourceListening := s.sourceListening.delete sourceId }
    exact ⟨announces, Or.inr ⟨listened, rfl, state⟩⟩

theorem stopSourceEventListener_alters (sourceId : String) (reasonMsg : Option String) (s : EthConnectService)
    (isUnmatched : s.sourceListening.get sourceId = none → unmatched) :
    AltersAll client env.PollingCasts unmatched s
      (stopSourceEventListener client env sourceId .REMOVE_LISTEN_EVENT reasonMsg s).state
      (stopSourceEventListener client env sourceId .REMOVE_LISTEN_EVENT reasonMsg s).events := by
  obtain ⟨announces, ⟨absent, state⟩ | ⟨listened, entry, state⟩⟩ := stopSourceEventListener_cases client env sourceId reasonMsg s
  · rw [state]
    exact (Alters.unregistered sourceId _ (isUnmatched absent) absent announces).all
  · rw [state]
    exact (Alters.unlistened sourceId listened _ entry announces).all

theorem stopEachPolling_alters (sources : List String) (s : EthConnectService) :
    AltersAll client env.PollingCasts unmatched s (stopEachPolling client env sources s).state
      (stopEachPolling client env sources s).events := by
  induction sources generalizing s with
  | nil => exact .none s
  | cons contractAddr polledSources ih =>
    simp only [stopEachPolling, Traced.bind_apply]
    exact (stopSourcePolling_alters client env contractAddr _ s).append (ih _)

/-- Every source is found listened to, as none is listed twice. -/
theorem stopEachListening_alters (getServiceId : String) (sources : List String) (nodup : sources.Nodup)
    (s : EthConnectService) (listed : ∀ sourceId ∈ sources, (s.sourceListening.get sourceId).isSome = true) :
    AltersAll client env.PollingCasts unmatched s (stopEachListening client env getServiceId sources s).state
      (stopEachListening client env getServiceId sources s).events := by
  induction sources generalizing s with
  | nil => exact .none s
  | cons sourceId polledSources ih =>
    obtain ⟨new, nodup⟩ := List.nodup_cons.1 nodup
    have here := listed sourceId List.mem_cons_self
    simp only [stopEachListening, Traced.bind_apply]
    apply (stopSourceEventListener_alters client env sourceId _ s ?_).append (ih nodup _ ?_)
    · intro absent
      rw [absent] at here
      cases here
    · intro other member
      obtain ⟨_, ⟨absent, state⟩ | ⟨listened, entry, state⟩⟩ := stopSourceEventListener_cases client env sourceId
        (some ("Service '" ++ getServiceId ++ "' shutting down")) s
      · rw [absent] at here
        cases here
      · have another : other ≠ sourceId := fun same => new (same ▸ member)
        rw [state, OrderedMap.get_delete_other another]
        exact listed other (List.mem_cons_of_mem _ member)

/-- A poll changes at most the data of its source. -/
theorem loadContractData_alters (poll : PollEnv) (interval : PollingInterval) (s : EthConnectService) {casts : Prop} :
    AltersAll client casts unmatched s (loadContractData poll interval s).state (loadContractData poll interval s).events := by
  unfold loadContractData
  cases poll.latestRoundData with
  | error error => exact .none s
  | ok result =>
    cases interval.notif with
    | none => exact .none s
    | some notif =>
      cases notif with
      | CHECK => exact .none s
      | CHANGE =>
        simp only [checkForSourceDataChange, Traced.bind_apply, Traced.read_apply]
        cases entry : s.sourcePolling.get interval.contract.address with
        | none => exact .none s
        | some previous =>
          simp only [Traced.ite_apply]
          split
          · exact (Alters.changed _ previous result entry).all
          · exact .none s

end

/-! ## Actions -/

namespace Instance

/-- The polling changes that the action casts are written. -/
def Action.Casts : Action → Prop
  | .initiate env _ _ | .resume _ env | .stopPolling env _ _ | .stopAllPolling env | .stopListening env _ _
  | .stopAllListening env _ => env.PollingCasts
  | .tick _ | .answer _ _ => True

/-- The action stops listening to a source that is not listened to. -/
def Unmatched (s : Instance) : Action → Prop
  | .resume n _ => ∃ sourceId, s.pending[n]? = some (.stopFailedListening sourceId) ∧
      s.service.sourceListening.get sourceId = none
  | .stopListening _ sourceId _ => s.service.sourceListening.get sourceId = none
  | _ => False

section
variable {config : RelaydConfig} {client : Client} {s s' : Instance}

/-- What an action does: the start of a poller, or alterations of the registered ones. -/
def Effect (config : RelaydConfig) (client : Client) (s : Instance) (a : Action) (service : EthConnectService)
    (events : List Event) : Prop :=
  (∃ env sourceConfig feedId, a = .initiate env sourceConfig feedId ∧
      Starts config client env sourceConfig s.service service events) ∨
    AltersAll client a.Casts (s.Unmatched a) s.service service events

/-- **Each action is a start or a sequence of alterations**, and adds what it emits to the log. -/
theorem step_effect {a : Action} (nodup : s.service.sourceListening.keys.Nodup)
    (stepped : s.step config client a = some s') :
    ∃ events, s'.log = s.log ++ events ∧ Effect config client s a s'.service events := by
  cases a with
  | initiate env sourceConfig feedId =>
    cases poll : sourceConfig.poll with
    | none =>
      simp only [step, poll, Option.some.injEq] at stepped
      subst stepped
      exact ⟨[], (List.append_nil _).symm, Or.inr (.none _)⟩
    | some type =>
      cases type with
      | TIMEPERIOD =>
        simp only [step, poll, Option.some.injEq] at stepped
        subst stepped
        exact ⟨_, rfl, Or.inl ⟨env, sourceConfig, feedId, rfl, (initiatePeriodicPolling_start config client env _ _ poll _).starts⟩⟩
      | EVENT =>
        have starts := (startListening_start config client env sourceConfig feedId poll s.service).starts
        simp only [step, poll] at stepped
        split at stepped <;> cases stepped <;> exact ⟨_, rfl, Or.inl ⟨env, sourceConfig, feedId, rfl, starts⟩⟩
  | tick timeout =>
    obtain ⟨interval, -, rfl⟩ := Option.map_eq_some_iff.1 stepped
    exact ⟨[], (List.append_nil _).symm, Or.inr (.none _)⟩
  | answer n poll =>
    obtain ⟨interval, -, rfl⟩ := Option.map_eq_some_iff.1 stepped
    have alters : AltersAll client True False s.service (loadContractData poll interval s.service).state
      (loadContractData poll interval s.service).events := loadContractData_alters client poll interval s.service
    dsimp only
    split <;> exact ⟨_, rfl, Or.inr alters⟩
  | resume n env =>
    obtain ⟨pending, there, rfl⟩ := Option.map_eq_some_iff.1 stepped
    cases pending with
    | stopFailedListening sourceId =>
      refine ⟨_, rfl, Or.inr ?_⟩
      exact stopSourceEventListener_alters client env sourceId _ s.service fun absent => ⟨sourceId, there, absent⟩
    | countError interval error =>
      simp only [countError]
      split
      · exact ⟨_, rfl, Or.inr (stopSourcePolling_alters client env _ _ s.service)⟩
      · exact ⟨[], (List.append_nil _).symm, Or.inr (.none _)⟩
    | removeAllListeners => exact ⟨[], (List.append_nil _).symm, Or.inr Alters.removed.all⟩
  | stopPolling env sourceId reasonMsg =>
    cases stepped
    exact ⟨_, rfl, Or.inr (stopSourcePolling_alters client env sourceId reasonMsg s.service)⟩
  | stopAllPolling env =>
    cases stepped
    exact ⟨_, rfl, Or.inr (stopEachPolling_alters client env _ s.service)⟩
  | stopListening env sourceId reasonMsg =>
    cases stepped
    exact ⟨_, rfl, Or.inr (stopSourceEventListener_alters client env sourceId reasonMsg s.service id)⟩
  | stopAllListening env getServiceId =>
    cases stepped
    refine ⟨_, rfl, Or.inr ?_⟩
    exact stopEachListening_alters client env getServiceId _ nodup s.service fun sourceId => OrderedMap.mem_keys.1

theorem step_nodup {a : Action} (nodup : s.service.sourceListening.keys.Nodup)
    (stepped : s.step config client a = some s') : s'.service.sourceListening.keys.Nodup := by
  obtain ⟨events, -, ⟨env, sourceConfig, feedId, -, starts⟩ | alters⟩ := step_effect nodup stepped
  · exact starts.nodup nodup
  · exact alters.keeps (fun _ _ _ _ nodup alters => Alters.nodup alters nodup) [] nodup

/-- A law of the service and the log, kept by every start that `P` allows and by every alteration. -/
structure Kept (config : RelaydConfig) (client : Client) (P : Instance → Action → Prop) (casts unmatched : Prop)
    (Inv : EthConnectService → List Event → Prop) : Prop where
  starts : ∀ s env sourceConfig feedId service events, Inv s.service s.log → P s (.initiate env sourceConfig feedId) →
    Starts config client env sourceConfig s.service service events → Inv service (s.log ++ events)
  alters : ∀ s s' log events, Inv s log → Alters client casts unmatched s s' events → Inv s' (log ++ events)
  casts : ∀ s a, P s a → casts → a.Casts
  unmatched : ∀ s a, P s a → s.Unmatched a → unmatched

/-- **The induction on the runs of an instance.** -/
theorem Kept.run {P : Instance → Action → Prop} {casts unmatched : Prop} {Inv : EthConnectService → List Event → Prop}
    (kept : Kept config client P casts unmatched Inv) {as : List Action}
    (nodup : s.service.sourceListening.keys.Nodup) (start : Inv s.service s.log)
    (along : Along (step config client) P s as) (reached : Sys.run (step config client) s as = some s') :
    Inv s'.service s'.log := by
  have each : ∀ s a s', (s.service.sourceListening.keys.Nodup ∧ Inv s.service s.log) → P s a →
      step config client s a = some s' → s'.service.sourceListening.keys.Nodup ∧ Inv s'.service s'.log := by
    rintro s a s' ⟨nodup, inv⟩ allowed stepped
    refine ⟨step_nodup nodup stepped, ?_⟩
    obtain ⟨events, log, effect⟩ := step_effect nodup stepped
    rw [log]
    rcases effect with ⟨env, sourceConfig, feedId, rfl, starts⟩ | alters
    · exact kept.starts s env sourceConfig feedId _ _ inv allowed starts
    · exact (alters.mono (kept.casts s a allowed) (kept.unmatched s a allowed)).keeps kept.alters s.log inv
  exact (invariant each ⟨nodup, start⟩ along reached).2

theorem init_nodup : ({} : Instance).service.sourceListening.keys.Nodup := List.nodup_nil

theorem run_nodup {as : List Action} (reached : Sys.run (step config client) {} as = some s) :
    s.service.sourceListening.keys.Nodup :=
  invariant (P := fun _ _ => True) (fun _ _ _ nodup _ stepped => step_nodup nodup stepped) init_nodup .trivial reached

end

end Instance

end Relayd.EthClient
