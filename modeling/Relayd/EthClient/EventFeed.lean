import Relayd.Lib.Subscribers
import Relayd.EthClient.Decoding
import Relayd.EthClient.FailedStart
import Relayd.EthClient.Listeners
import Relayd.EthClient.Registries

/-!
# What the listeners report

An event of a contract is given to every listener that is on the contract, and each
casts the data that it converts of it. As long as no source is listened to that is
polled or listened to already, and none while a shutdown is about to remove every
listener, each event of a listened contract is cast once for its source, by the
listener that the registry has, and nothing is cast for a source that the registry
does not have.
-/

namespace Relayd.EthClient
set_option autoImplicit false
open Relayd.Common Sys

/-! ## Events -/

/-- An event that a contract emits, with the arguments that the listeners are given. -/
structure Emission where
  /-- Whether an address is the one of the contract -/
  emittedBy : String → Bool
  eventSignature : String
  current : JsValue
  roundId : JsValue
  updatedAt : JsValue

/-- A record of `SOURCE_DATA` that a listener casts. Its round is what the event had. -/
structure EventDataUpdate where
  feedId : String
  sourceId : String
  source : SourceValues
  reason : ESourceDataUpdateReason
  deriving DecidableEq

/-- How an event is met: what is written is up to the broker. -/
structure Delivery where
  event : Emission
  writeFails : EventDataUpdate → Bool

section
variable (js : Js)

/-- `castSourceDataUpdate`, of the data of an event. -/
def castEventDataUpdate (writeFails : EventDataUpdate → Bool) (feedId sourceId : String) (sourceData : SourceValues)
    (reason : ESourceDataUpdateReason) : Except String EventDataUpdate :=
  let sourceUpd : EventDataUpdate := { feedId := feedId, sourceId := sourceId, source := sourceData, reason := reason }
  if writeFails sourceUpd then
    .error (errorText ("Failed to cast Source Data Update for '" ++ sourceId ++ "' \n"
      ++ writeToStreamError .SOURCE_DATA sourceId))
  else .ok sourceUpd

/-- The callback of `listenToContractEvent`. -/
def EventListener.onEvent (listener : EventListener) (delivery : Delivery) : Except String EventDataUpdate := do
  let result ← convertListenedEvent js delivery.event.current delivery.event.roundId delivery.event.updatedAt listener.decimals
  rethrow ("Failed to cast event-based Source Data update for '" ++ listener.feedId ++ "' \n")
    (castEventDataUpdate delivery.writeFails listener.feedId listener.sourceId result .DATA_CHANGE)

/-- What a listener casts of an event: nothing when the event is not of its contract or its filter. What fails in the
callback is reported to nobody. -/
def EventListener.cast (delivery : Delivery) (listener : EventListener) : Option EventDataUpdate :=
  if delivery.event.emittedBy listener.contract.address ∧ delivery.event.eventSignature = listener.eventSignature then
    (listener.onEvent js delivery).toOption
  else none

/-- What the listeners cast of an event, the one that was put on first before the others. -/
def EthConnectService.deliver (service : EthConnectService) (delivery : Delivery) : List EventDataUpdate :=
  publish (EventListener.cast js delivery) service.listeners.reverse

end

/-- The listener that the registry has for a source. -/
def EthConnectService.subscriber (service : EthConnectService) (sourceId : String) : Option EventListener :=
  (service.sourceListening.get sourceId).bind fun listened =>
    service.listeners.find? fun listener => listener.contract.object = listened.contract.object

/-! ## The registry and the listeners -/

/-- Every registered source has a listener, and no two listeners have the same contract object. -/
structure EthConnectService.Heard (service : EthConnectService) : Prop where
  apart : (service.listeners.map fun listener => listener.contract.object).Nodup
  listened : ∀ sourceId, (service.sourceListening.get sourceId).isSome = true →
    ∃ listener ∈ service.listeners, listener.sourceId = sourceId

section
variable {js : Js} {client : Client} {env : Env} {s s' : EthConnectService} {sourceId : String} {delivery : Delivery}

theorem EventListener.cast_named (listener : EventListener) (update : EventDataUpdate)
    (given : listener.cast js delivery = some update) : update.sourceId = listener.sourceId := by
  rw [EventListener.cast] at given
  split at given
  case isFalse => cases given
  case isTrue =>
    rw [EventListener.onEvent] at given
    cases converted : convertListenedEvent js delivery.event.current delivery.event.roundId delivery.event.updatedAt
        listener.decimals with
    | error error =>
      rw [converted] at given
      cases given
    | ok result =>
      simp only [converted, bind, Except.bind, castEventDataUpdate] at given
      split at given
      · cases given
      · cases given
        rfl

/-- The registered listener of a source is the one that casts for it. -/
theorem EthConnectService.subscriber_eq (listens : s.Listens) (heard : s.Heard) (sourceId : String) :
    s.subscriber sourceId = s.listeners.reverse.find? fun listener => listener.sourceId = sourceId := by
  have unique : (s.listeners.reverse.map EventListener.sourceId).Nodup := by
    rw [List.map_reverse]
    exact List.nodup_reverse.2 listens.unique
  rw [EthConnectService.subscriber]
  cases entry : s.sourceListening.get sourceId with
  | none =>
    symm
    apply List.find?_eq_none.2
    intro listener member own
    have registered := listens.tracked listener (List.mem_reverse.1 member)
    rw [of_decide_eq_true own, entry] at registered
    cases registered
  | some listened =>
    obtain ⟨listener, member, rfl⟩ := heard.listened sourceId (Option.isSome_of_eq_some entry)
    have registered := listens.tracked listener member
    rw [entry, Option.map_some, Option.some.injEq] at registered
    rw [Option.bind_some, registered, find?_key heard.apart member, find?_key unique (List.mem_reverse.2 member)]

/-- **What is cast for a source is what its registered listener casts.** -/
theorem EthConnectService.deliver_named (listens : s.Listens) (heard : s.Heard) (sourceId : String) (delivery : Delivery) :
    (s.deliver js delivery).filter (fun update => update.sourceId = sourceId) =
      ((s.subscriber sourceId).bind (EventListener.cast js delivery)).toList := by
  rw [EthConnectService.subscriber_eq listens heard]
  apply publish_named EventListener.cast_named
  rw [List.map_reverse]
  exact List.nodup_reverse.2 listens.unique

theorem EthConnectService.Heard.same (heard : s.Heard)
    (same : s'.listeners = s.listeners ∧ s'.sourceListening = s.sourceListening) : s'.Heard := by
  obtain ⟨listeners, registry⟩ := same
  constructor
  · rw [listeners]
    exact heard.apart
  · rw [listeners, registry]
    exact heard.listened

/-- A new listener, registered. -/
theorem EthConnectService.Heard.listening (heard : s.Heard) (allocated : s.Allocated) (listener : EventListener)
    (new : s.fresh ≤ listener.contract.object) (own : listener.sourceId = sourceId) (fresh : Nat) :
    ({ s with
      listeners := listener :: s.listeners
      sourceListening := s.sourceListening.set sourceId { contract := listener.contract, data := none }
      fresh := fresh } : EthConnectService).Heard := by
  constructor
  · show (listener.contract.object :: s.listeners.map fun listener => listener.contract.object).Nodup
    apply List.nodup_cons.2 ⟨?_, heard.apart⟩
    intro member
    obtain ⟨older, member, same⟩ := List.mem_map.1 member
    have inUse := allocated.listeners older member
    omega
  · intro other registered
    by_cases same : other = sourceId
    · exact ⟨listener, List.mem_cons_self, own.trans same.symm⟩
    · rw [OrderedMap.get_set_other same] at registered
      obtain ⟨older, member, its⟩ := heard.listened other registered
      exact ⟨older, List.mem_cons_of_mem _ member, its⟩

/-- The end of a listener leaves those of other sources, which are on other objects. -/
theorem EthConnectService.Heard.unlistened (heard : s.Heard) (listens : s.Listens) {listened : SourceListened}
    (entry : s.sourceListening.get sourceId = some listened) :
    ({ s with
      listeners := s.listeners.filter fun listener => listener.contract.object != listened.contract.object
      sourceListening := s.sourceListening.delete sourceId } : EthConnectService).Heard := by
  constructor
  · exact heard.apart.sublist (List.filter_sublist.map _)
  · intro other registered
    have another : other ≠ sourceId := by
      intro same
      rw [same, OrderedMap.get_delete_same] at registered
      cases registered
    rw [OrderedMap.get_delete_other another] at registered
    obtain ⟨listener, member, its⟩ := heard.listened other registered
    refine ⟨listener, List.mem_filter.2 ⟨member, ?_⟩, its⟩
    rw [bne_iff_ne]
    intro sameObject
    -- the listener of the stopped source has this object, and its source is another one
    obtain ⟨stopped, stoppedMember, stoppedIts⟩ := heard.listened sourceId (Option.isSome_of_eq_some entry)
    have tracked := listens.tracked stopped stoppedMember
    rw [stoppedIts, entry, Option.map_some, Option.some.injEq] at tracked
    rw [tracked] at sameObject
    have same := List.inj_on_of_nodup_map heard.apart member stoppedMember sameObject
    apply another
    rw [← its, ← stoppedIts, same]

/-! ## What the calls do to the listeners -/

theorem stopSourcePolling_listening (client : Client) (env : Env) (sourceId : String) (reasonCode : ESourcePollingChange)
    (reasonMsg : Option String) (s : EthConnectService) :
    (stopSourcePolling client env sourceId reasonCode reasonMsg s).state.listeners = s.listeners ∧
      (stopSourcePolling client env sourceId reasonCode reasonMsg s).state.sourceListening = s.sourceListening := by
  simp only [stopSourcePolling, Traced.read_bind_apply]
  cases s.sourcePolling.get sourceId with
  | none => exact ⟨rfl, rfl⟩
  | some polled =>
    simp only [Traced.update_bind_apply, (castSourcePolling_announces client env _ _ _ _).1, and_self]

theorem stopEachPolling_listening (client : Client) (env : Env) (sources : List String) (s : EthConnectService) :
    (stopEachPolling client env sources s).state.listeners = s.listeners ∧
      (stopEachPolling client env sources s).state.sourceListening = s.sourceListening := by
  induction sources generalizing s with
  | nil => exact ⟨rfl, rfl⟩
  | cons contractAddr polledSources ih =>
    obtain ⟨listeners, registry⟩ := stopSourcePolling_listening client env contractAddr .REMOVE_PERIODIC
      (some ("Service '" ++ client.serviceId ++ "' shutting down")) s
    simp only [stopEachPolling, Traced.bind_apply, ih, listeners, registry, and_self]

theorem loadContractData_listening (poll : PollEnv) (interval : PollingInterval) (s : EthConnectService) :
    (loadContractData poll interval s).state.listeners = s.listeners ∧
      (loadContractData poll interval s).state.sourceListening = s.sourceListening := by
  unfold loadContractData
  cases poll.latestRoundData with
  | error error => exact ⟨rfl, rfl⟩
  | ok result =>
    cases interval.notif with
    | none => exact ⟨rfl, rfl⟩
    | some notif =>
      cases notif with
      | CHECK => exact ⟨rfl, rfl⟩
      | CHANGE =>
        simp only [checkForSourceDataChange, Traced.bind_apply, Traced.read_apply]
        cases s.sourcePolling.get interval.contract.address with
        | none => exact ⟨rfl, rfl⟩
        | some previous =>
          simp only [Traced.ite_apply]
          split <;> exact ⟨rfl, rfl⟩

/-- Stops leave an empty registry empty. -/
theorem Alters.empty {casts unmatched : Prop} {events : List Event} (alters : Alters client casts unmatched s s' events)
    (empty : ∀ sourceId, s.sourceListening.get sourceId = none) (sourceId : String) :
    s'.sourceListening.get sourceId = none := by
  cases alters with
  | unlistened stopped listened _ entry =>
    rw [empty stopped] at entry
    cases entry
  | _ => exact empty sourceId

theorem stopSourceEventListener_heard (client : Client) (env : Env) (sourceId : String) (reasonMsg : Option String)
    (listens : s.Listens) (heard : s.Heard) :
    (stopSourceEventListener client env sourceId .REMOVE_LISTEN_EVENT reasonMsg s).state.Listens ∧
      (stopSourceEventListener client env sourceId .REMOVE_LISTEN_EVENT reasonMsg s).state.Heard := by
  constructor
  · exact (stopSourceEventListener_alters client env sourceId reasonMsg s fun _ => True.intro).keeps
      (fun _ _ _ _ listens alters => Alters.listens alters listens) [] listens
  · obtain ⟨-, ⟨-, state⟩ | ⟨listened, entry, state⟩⟩ := stopSourceEventListener_cases client env sourceId reasonMsg s
    · rw [state]
      exact heard
    · rw [state]
      exact heard.unlistened listens entry

theorem stopEachListening_heard (client : Client) (env : Env) (getServiceId : String) (sources : List String)
    (listens : s.Listens) (heard : s.Heard) :
    (stopEachListening client env getServiceId sources s).state.Heard := by
  induction sources generalizing s with
  | nil => exact heard
  | cons sourceId polledSources ih =>
    simp only [stopEachListening, Traced.bind_apply]
    obtain ⟨listens, heard⟩ := stopSourceEventListener_heard client env sourceId
      (some ("Service '" ++ getServiceId ++ "' shutting down")) listens heard
    exact ih listens heard

end

/-! ## Steps of an instance -/

/-- The removal of every listener is still to come. -/
def Pending.removes : Pending → Bool
  | .removeAllListeners => true
  | .stopFailedListening _ | .countError _ _ => false

namespace Instance

/-- A shutdown is about to remove every listener. -/
def removing (s : Instance) : Bool := s.pending.any Pending.removes

/-- No source is listened to while every listener is about to be removed. -/
def BeforeRemoval (s : Instance) : Action → Prop
  | .initiate env sourceConfig _ => env.startsListening sourceConfig = true → s.removing = false
  | _ => True

instance (s : Instance) : (a : Action) → Decidable (s.BeforeRemoval a)
  | .initiate _ _ _ => inferInstanceAs (Decidable (_ → _))
  | .tick _ | .answer _ _ | .resume _ _ | .stopPolling _ _ _ | .stopAllPolling _ | .stopListening _ _ _
  | .stopAllListening _ _ => isTrue True.intro

/-- **The registry and the listeners agree**: what holds after every action. -/
structure Attached (s : Instance) : Prop where
  nodup : s.service.sourceListening.keys.Nodup
  allocated : s.service.Allocated
  listens : s.service.Listens
  heard : s.service.Heard
  /-- Nothing is registered any more when the listeners are removed. -/
  shut : s.removing = true → ∀ sourceId, s.service.sourceListening.get sourceId = none

section
variable {config : RelaydConfig} {client : Client} {s s' : Instance} {a : Action}

theorem step_listens (nodup : s.service.sourceListening.keys.Nodup) (listens : s.service.Listens) (first : s.FirstListening a)
    (stepped : s.step config client a = some s') : s'.service.Listens := by
  obtain ⟨events, -, ⟨env, sourceConfig, feedId, rfl, starts⟩ | alters⟩ := step_effect nodup stepped
  · exact starts.listens listens first
  · exact alters.keeps (fun _ _ _ _ listens alters => alters.listens listens) [] listens

theorem step_heard (attached : s.Attached) (first : s.FirstListening a) (stepped : s.step config client a = some s') :
    s'.service.Heard := by
  have heard := attached.heard
  cases a with
  | initiate env sourceConfig feedId =>
    cases poll : sourceConfig.poll with
    | none =>
      simp only [step, poll, Option.some.injEq] at stepped
      subst stepped
      exact heard
    | some type =>
      cases type with
      | TIMEPERIOD =>
        simp only [step, poll, Option.some.injEq] at stepped
        subst stepped
        have start := initiatePeriodicPolling_start config client env sourceConfig feedId poll s.service
        simp only [called]
        generalize initiatePeriodicPolling config client env sourceConfig feedId s.service = call at *
        obtain ⟨value, state, events⟩ := call
        cases start <;> exact heard.same ⟨rfl, rfl⟩
      | EVENT =>
        have start := startListening_start config client env sourceConfig feedId poll s.service
        have kept : (startListening config client env sourceConfig feedId s.service).state.Heard := by
          generalize startListening config client env sourceConfig feedId s.service = call at *
          cases start with
          | unloaded | idle => exact heard.same ⟨rfl, rfl⟩
          | refused listener fresh new inUse own loaded starts polled =>
            -- only a source that is not polled is listened to
            rw [(first starts).1] at polled
            cases polled
          | registered listener fresh new inUse own => exact heard.listening attached.allocated listener new own fresh
        simp only [step, poll] at stepped
        split at stepped <;> cases stepped <;> exact kept
  | tick timeout =>
    obtain ⟨interval, -, rfl⟩ := Option.map_eq_some_iff.1 stepped
    exact heard
  | answer n poll =>
    obtain ⟨interval, -, rfl⟩ := Option.map_eq_some_iff.1 stepped
    have kept := heard.same (loadContractData_listening poll interval s.service)
    dsimp only
    split <;> exact kept
  | resume n env =>
    obtain ⟨pending, there, rfl⟩ := Option.map_eq_some_iff.1 stepped
    cases pending with
    | stopFailedListening sourceId => exact (stopSourceEventListener_heard client env sourceId _ attached.listens heard).2
    | countError interval error =>
      simp only [countError]
      split
      · exact heard.same (stopSourcePolling_listening client env _ _ _ s.service)
      · exact heard
    | removeAllListeners =>
      have removing : s.removing = true := List.any_eq_true.2 ⟨_, List.mem_of_getElem? there, rfl⟩
      refine ⟨List.nodup_nil, ?_⟩
      intro sourceId registered
      rw [attached.shut removing sourceId] at registered
      cases registered
  | stopPolling env sourceId reasonMsg =>
    cases stepped
    exact heard.same (stopSourcePolling_listening client env _ _ _ s.service)
  | stopAllPolling env =>
    cases stepped
    exact heard.same (stopEachPolling_listening client env _ s.service)
  | stopListening env sourceId reasonMsg =>
    cases stepped
    exact (stopSourceEventListener_heard client env sourceId _ attached.listens heard).2
  | stopAllListening env getServiceId =>
    cases stepped
    exact stopEachListening_heard client env getServiceId _ attached.listens heard

/-- Only the stop of all listeners announces their removal. -/
theorem step_removing (stepped : s.step config client a = some s') (removing : s'.removing = true) :
    s.removing = true ∨ ∃ env getServiceId, a = .stopAllListening env getServiceId := by
  have added : ∀ pending : Pending, pending.removes = false → (s.pending ++ [pending]).any Pending.removes = true →
      s.removing = true := by
    intro pending stays any
    rw [List.any_append, List.any_cons, stays, List.any_nil, Bool.or_false, Bool.or_false] at any
    exact any
  cases a with
  | initiate env sourceConfig feedId =>
    left
    simp only [step] at stepped
    split at stepped
    · cases stepped
      exact removing
    · split at stepped <;> cases stepped
      · exact added _ rfl removing
      · exact removing
    · cases stepped
      exact removing
  | tick timeout =>
    obtain ⟨interval, -, rfl⟩ := Option.map_eq_some_iff.1 stepped
    exact Or.inl removing
  | answer n poll =>
    obtain ⟨interval, -, rfl⟩ := Option.map_eq_some_iff.1 stepped
    left
    dsimp only at removing
    split at removing
    · exact removing
    · exact removing
    · exact added _ rfl removing
  | resume n env =>
    obtain ⟨pending, there, rfl⟩ := Option.map_eq_some_iff.1 stepped
    left
    have fewer : (s.pending.eraseIdx n).any Pending.removes = true → s.removing = true := by
      intro any
      obtain ⟨left, member, removes⟩ := List.any_eq_true.1 any
      exact List.any_eq_true.2 ⟨left, List.mem_of_mem_eraseIdx member, removes⟩
    apply fewer
    cases pending with
    | stopFailedListening | removeAllListeners => exact removing
    | countError interval error =>
      simp only [countError] at removing
      split at removing <;> exact removing
  | stopPolling | stopAllPolling | stopListening =>
    cases stepped
    exact Or.inl removing
  | stopAllListening env getServiceId => exact Or.inr ⟨env, getServiceId, rfl⟩

/-- An empty registry stays empty as long as no source is listened to. -/
theorem step_shut (attached : s.Attached) (before : s.BeforeRemoval a) (stepped : s.step config client a = some s')
    (removing : s'.removing = true) (sourceId : String) : s'.service.sourceListening.get sourceId = none := by
  cases step_removing stepped removing with
  | inr all =>
    obtain ⟨env, getServiceId, rfl⟩ := all
    cases stepped
    exact stopEverySourceListening_get client env getServiceId s.service sourceId
  | inl removing =>
    have empty := attached.shut removing
    obtain ⟨events, -, ⟨env, sourceConfig, feedId, rfl, starts⟩ | alters⟩ := step_effect attached.nodup stepped
    · generalize s'.service = service at *
      cases starts with
      | listening listener fresh _ starts =>
        rw [before starts] at removing
        cases removing
      | _ => exact empty sourceId
    · exact alters.keeps (fun _ _ _ _ empty alters => alters.empty empty) [] empty sourceId

/-- **What one action preserves.** -/
theorem Attached.step (attached : s.Attached) (first : s.FirstListening a) (before : s.BeforeRemoval a)
    (stepped : s.step config client a = some s') : s'.Attached where
  nodup := step_nodup attached.nodup stepped
  allocated := step_allocated attached.nodup attached.allocated stepped
  listens := step_listens attached.nodup attached.listens first stepped
  heard := step_heard attached first stepped
  shut := step_shut attached before stepped

theorem init_attached : ({} : Instance).Attached where
  nodup := init_nodup
  allocated := ⟨fun _ _ entry => (nomatch entry), fun _ member => absurd member List.not_mem_nil⟩
  listens := ⟨List.nodup_nil, fun _ member => absurd member List.not_mem_nil⟩
  heard := ⟨List.nodup_nil, fun _ registered => (nomatch registered)⟩
  shut removing := nomatch removing

end

end Instance

/-! ## An instance and the events -/

/-- An instance with the data that its listeners cast. -/
structure EventFeed where
  node : Instance := {}
  casts : List EventDataUpdate := []

namespace EventFeed

inductive Action
  | act (a : Instance.Action)
  | deliver (delivery : Delivery)

section
variable (config : RelaydConfig) (client : Client) (js : Js)

def step (s : EventFeed) : Action → Option EventFeed
  | .act a => (s.node.step config client a).map fun node => { s with node := node }
  | .deliver delivery => some { s with casts := s.casts ++ s.node.service.deliver js delivery }

/-- What the registered listener of a source makes of the events of a run. -/
def subscriberCasts (sourceId : String) : EventFeed → List Action → List EventDataUpdate
  | _, [] => []
  | s, a :: as =>
    let here := match a with
      | .act _ => []
      | .deliver delivery => ((s.node.service.subscriber sourceId).bind (EventListener.cast js delivery)).toList
    here ++ (step config client js s a).elim [] fun s' => subscriberCasts sourceId s' as

/-- A source that starts to be listened to is neither polled nor listened to, and no removal of all listeners is due. -/
def Undisturbed (s : EventFeed) : Action → Prop
  | .act a => s.node.FirstListening a ∧ s.node.BeforeRemoval a
  | .deliver _ => True

instance (s : EventFeed) : (a : Action) → Decidable (s.Undisturbed a)
  | .act _ => inferInstanceAs (Decidable (_ ∧ _))
  | .deliver _ => isTrue True.intro

/-- The registry has a listener for each of its sources and for no other. -/
def Subscribes (s : EventFeed) : Prop :=
  ∀ sourceId, (s.node.service.subscriber sourceId).map EventListener.contract =
    (s.node.service.sourceListening.get sourceId).map SourceListened.contract

variable {config client js} {s s' : EventFeed} {as : List Action}

theorem subscribes (attached : s.node.Attached) : s.Subscribes := by
  intro sourceId
  rw [EthConnectService.subscriber]
  cases entry : s.node.service.sourceListening.get sourceId with
  | none => rfl
  | some listened =>
    obtain ⟨listener, member, own⟩ := attached.heard.listened sourceId (Option.isSome_of_eq_some entry)
    have registered := attached.listens.tracked listener member
    rw [own, entry, Option.map_some, Option.some.injEq] at registered
    rw [Option.bind_some, registered, find?_key attached.heard.apart member, Option.map_some, Option.map_some, registered]

theorem step_attached {a : Action} (attached : s.node.Attached) (undisturbed : s.Undisturbed a)
    (stepped : step config client js s a = some s') : s'.node.Attached := by
  cases a with
  | act a =>
    obtain ⟨node, acted, rfl⟩ := Option.map_eq_some_iff.1 stepped
    exact attached.step undisturbed.1 undisturbed.2 acted
  | deliver delivery =>
    cases stepped
    exact attached

theorem run_attached_from (attached : s.node.Attached) (along : Along (step config client js) Undisturbed s as)
    (reached : run (step config client js) s as = some s') : s'.node.Attached := by
  have each : ∀ (s : EventFeed) a s', s.node.Attached → s.Undisturbed a → step config client js s a = some s' →
      s'.node.Attached := fun _ _ _ attached undisturbed stepped => step_attached attached undisturbed stepped
  exact invariant each attached along reached

theorem run_attached (along : Along (step config client js) Undisturbed {} as)
    (reached : run (step config client js) {} as = some s) : s.node.Attached :=
  run_attached_from Instance.init_attached along reached

/-- The run lemma, from any state in which registry and listeners agree. -/
theorem run_casts (attached : s.node.Attached) (along : Along (step config client js) Undisturbed s as)
    (reached : run (step config client js) s as = some s') (sourceId : String) :
    s'.casts.filter (fun update => update.sourceId = sourceId) =
      s.casts.filter (fun update => update.sourceId = sourceId) ++ subscriberCasts config client js sourceId s as := by
  induction as generalizing s with
  | nil =>
    cases reached
    exact (List.append_nil _).symm
  | cons a as ih =>
    obtain ⟨s₁, first, rest⟩ := run_cons.1 reached
    obtain ⟨here, later⟩ := Along.cons_iff.1 along
    rw [ih (step_attached attached here first) (later s₁ first) rest]
    cases a with
    | act a =>
      obtain ⟨node, acted, rfl⟩ := Option.map_eq_some_iff.1 first
      simp only [subscriberCasts, first, Option.elim_some, List.nil_append]
    | deliver delivery =>
      simp only [subscriberCasts, first, Option.elim_some]
      cases first
      rw [List.filter_append, EthConnectService.deliver_named attached.listens attached.heard, List.append_assoc]

/-- **Each event is cast once for each source that listens to its contract**: over an undisturbed run, what is cast for a source
is what its registered listener makes of the events, in their order, and at any time the registered sources are those
with a listener. -/
theorem events_cast_once (along : Along (step config client js) Undisturbed {} as)
    (reached : run (step config client js) {} as = some s) :
    Along (step config client js) (fun s _ => s.Subscribes) {} as ∧ s.Subscribes ∧
      ∀ sourceId, s.casts.filter (fun update => update.sourceId = sourceId) =
        subscriberCasts config client js sourceId {} as := by
  refine ⟨?_, subscribes (run_attached along reached), ?_⟩
  · intro pre a post s₁ split before
    rw [split] at along
    exact subscribes (run_attached along.left before)
  · intro sourceId
    exact run_casts Instance.init_attached along reached sourceId

end

/-- Another proxy of the same aggregator. -/
def secondProxy : FeedConfigSource := { contract := "0x37bC7498f4FF12C19678ee8fE19d309b87F6a9e6" }

/-- The aggregator has a new answer. -/
def answerOf (current roundId : Int) : Delivery where
  event :=
    { emittedBy := fun address => address = proxyAddress
      eventSignature := "AnswerUpdated(int256,uint256,uint256)"
      current := .big current
      roundId := .big roundId
      updatedAt := .big 1650024000 }
  writeFails := fun _ => false

/-- An aggregator is listened to for both of its proxies, and then for one of them. -/
def twoProxies : List Action :=
  [.act (.initiate healthyEnv newSource "feed-btc"), .act (.initiate healthyEnv secondProxy "feed-btc-2"),
    .deliver (answerOf 4200000000000 7), .act (.stopListening healthyEnv proxyAddress none),
    .deliver (answerOf 4300000000000 8)]

theorem events_cast_once_twoProxies :
    ∃ s, run (step RelaydConfig.prod Instance.relayClient plainJs) {} twoProxies = some s ∧
      s.casts.filter (fun update => update.sourceId = proxyAddress) =
        [{ feedId := "feed-btc", sourceId := proxyAddress, reason := .DATA_CHANGE,
           source := { value := .number (some 42000), time := .text "2022-04-15T12:00:00.000Z", round := .big 7 } }] ∧
      (s.casts.filter fun update => update.sourceId = secondProxy.contract).map (fun update => update.source.round) =
        [.big 7, .big 8] := by
  have possible : (run (step RelaydConfig.prod Instance.relayClient plainJs) {} twoProxies).isSome = true := by decide +kernel
  obtain ⟨s, reached⟩ := Option.isSome_iff_exists.1 possible
  have along : Along (step RelaydConfig.prod Instance.relayClient plainJs) Undisturbed {} twoProxies := by decide +kernel
  obtain ⟨-, -, casts⟩ := events_cast_once along reached
  refine ⟨s, reached, ?_, ?_⟩
  · rw [casts proxyAddress]
    decide +kernel
  · rw [casts secondProxy.contract]
    decide +kernel

end EventFeed

end Relayd.EthClient
