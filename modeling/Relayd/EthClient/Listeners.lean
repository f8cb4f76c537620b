import Relayd.EthClient.TrackedTimers

/-!
# Listeners and the registry of listened sources

A listener is on before the registry is looked at, and it is the registry of the
periodic polls that is: a second listener of one source takes the place of the
first one, which nothing stops any more, and a listener of a polled source is
refused and stays on. Without these, a source has at most one listener,
on the contract that the registry has for it.
-/

namespace Relayd.EthClient
set_option autoImplicit false
open Relayd.Common Sys

/-- A source has at most one listener, and it is on the contract that the source is registered with. -/
structure EthConnectService.Listens (service : EthConnectService) : Prop where
  unique : (service.listeners.map EventListener.sourceId).Nodup
  tracked : ∀ listener ∈ service.listeners,
    (service.sourceListening.get listener.sourceId).map SourceListened.contract = some listener.contract

instance (service : EthConnectService) : Decidable service.Listens :=
  decidable_of_iff ((service.listeners.map EventListener.sourceId).Nodup ∧ ∀ listener ∈ service.listeners,
      (service.sourceListening.get listener.sourceId).map SourceListened.contract = some listener.contract)
    ⟨fun ⟨unique, tracked⟩ => ⟨unique, tracked⟩, fun ⟨unique, tracked⟩ => ⟨unique, tracked⟩⟩

section
variable {config : RelaydConfig} {client : Client} {env : Env} {sourceConfig : FeedConfigSource}
  {casts unmatched : Prop} {s s' : EthConnectService} {events : List Event}

/-- Fewer listeners, with the registration of each of them left as it is. -/
theorem EthConnectService.Listens.sublist (listens : s.Listens) (fewer : List.Sublist s'.listeners s.listeners)
    (same : ∀ listener ∈ s'.listeners, s'.sourceListening.get listener.sourceId = s.sourceListening.get listener.sourceId) :
    s'.Listens where
  unique := listens.unique.sublist (fewer.map _)
  tracked := by
    intro listener member
    rw [same listener member]
    exact listens.tracked listener (fewer.subset member)

theorem Starts.listens (starts : Starts config client env sourceConfig s s' events) (listens : s.Listens)
    (first : env.startsListening sourceConfig = true →
      s.sourcePolling.get sourceConfig.contract = none ∧ ∀ listener ∈ s.listeners, listener.sourceId ≠ sourceConfig.contract) :
    s'.Listens := by
  cases starts with
  | idle | refusedInterval | polling => exact ⟨listens.unique, listens.tracked⟩
  | refusedListener listener fresh _ starts own polled =>
    rw [(first starts).1] at polled
    cases polled
  | listening listener fresh _ starts own =>
    obtain ⟨-, others⟩ := first starts
    constructor
    · simp only [List.map_cons, List.nodup_cons]
      refine ⟨?_, listens.unique⟩
      rintro member
      obtain ⟨other, member, same⟩ := List.mem_map.1 member
      exact others other member (same.trans own)
    · intro live member
      simp only
      rcases List.mem_cons.1 member with rfl | member
      · rw [own, OrderedMap.get_set_same, Option.map_some]
      · rw [OrderedMap.get_set_other (others live member)]
        exact listens.tracked live member

theorem Alters.listens (alters : Alters client casts unmatched s s' events) (listens : s.Listens) : s'.Listens := by
  cases alters with
  | unlistened sourceId listened _ entry =>
    apply listens.sublist List.filter_sublist
    intro listener member
    obtain ⟨member, kept⟩ := List.mem_filter.1 member
    apply OrderedMap.get_delete_other
    intro same
    have registered := listens.tracked listener member
    rw [same, entry, Option.map_some, Option.some.injEq] at registered
    simp only [registered, bne_self_eq_false, Bool.false_eq_true] at kept
  | unpolled | unregistered | changed => exact ⟨listens.unique, listens.tracked⟩
  | removed =>
    apply listens.sublist (List.nil_sublist _)
    intro listener member
    cases member

end

namespace Instance

/-- An event initiation that gets as far as its listener is of a source that is not polled and has no listener. -/
def FirstListening (s : Instance) : Action → Prop
  | .initiate env sourceConfig _ =>
    env.startsListening sourceConfig = true →
      s.service.sourcePolling.get sourceConfig.contract = none ∧
        ∀ listener ∈ s.service.listeners, listener.sourceId ≠ sourceConfig.contract
  | _ => True

instance (s : Instance) : (a : Action) → Decidable (s.FirstListening a)
  | .initiate _ _ _ => inferInstanceAs (Decidable (_ → _ ∧ _))
  | .tick _ | .answer _ _ | .resume _ _ | .stopPolling _ _ _ | .stopAllPolling _ | .stopListening _ _ _
  | .stopAllListening _ _ => isTrue True.intro

section
variable (config : RelaydConfig) (client : Client)

theorem kept_listens : Kept config client FirstListening False True fun service _ => service.Listens where
  starts _ _ _ _ _ _ listens first starts := starts.listens listens first
  alters _ _ _ _ listens alters := alters.listens listens
  casts _ _ _ impossible := impossible.elim
  unmatched _ _ _ _ := True.intro

/-- **As long as no source that is polled or has a listener is listened to, listeners are unique and tracked.** -/
theorem listeners_tracked (as : List Action) (s : Instance) (along : Along (step config client) FirstListening {} as)
    (reached : run (step config client) {} as = some s) : s.service.Listens := by
  have start : ({} : Instance).service.Listens := by
    refine ⟨List.nodup_nil, ?_⟩
    intro listener member
    cases member
  exact (kept_listens config client).run init_nodup start along reached

end

/-- A source is listened to again, by an instance whose first registration could not be cast. -/
def listenAgain : List Action :=
  [.initiate { healthyEnv with writeFails := fun _ => true } newSource "feed-btc", .resume 0 healthyEnv,
    .initiate healthyEnv newSource "feed-btc", .stopAllListening healthyEnv "getServiceId", .resume 0 healthyEnv,
    .initiate healthyEnv newSource "feed-btc-2"]

theorem listenAgain_tracked :
    ∃ s, run (step RelaydConfig.prod relayClient) {} listenAgain = some s ∧ s.service.Listens := by
  obtain ⟨s, reached⟩ : ∃ s, run (step RelaydConfig.prod relayClient) {} listenAgain = some s := ⟨_, rfl⟩
  have along : Along (step RelaydConfig.prod relayClient) FirstListening {} listenAgain := by decide +kernel
  exact ⟨s, reached, listeners_tracked RelaydConfig.prod relayClient listenAgain s along reached⟩

/-! ## Two feeds on one contract -/

/-- The source of two feeds is listened to for each of them. -/
def listenTwice : List Action :=
  [.initiate healthyEnv newSource "feed-btc", .initiate healthyEnv newSource "feed-btc-2"]

/-- The source is polled for one feed and listened to for another one, and what failed is cleaned up. -/
def pollAndListen : List Action :=
  [.initiate healthyEnv periodicSource "feed-btc", .initiate healthyEnv newSource "feed-btc-2", .resume 0 healthyEnv]

/-- A source ends with two listeners, and a polled one with a listener that is not registered. -/
theorem second_listener_untracked :
    RelaydConfig.prod.sourcePollingAllowMultipleBySameIssuer = false ∧
      (∃ s, run (step RelaydConfig.prod relayClient) {} listenTwice = some s ∧
        s.service.listeners.map EventListener.sourceId = [proxyAddress, proxyAddress] ∧ ¬ s.service.Listens) ∧
      ∃ s, run (step RelaydConfig.prod relayClient) {} pollAndListen = some s ∧
        s.service.listeners.map EventListener.sourceId = [proxyAddress] ∧ s.service.sourceListening.keys = [] ∧
          ¬ s.service.Listens := by
  refine ⟨rfl, ⟨_, rfl, ?_⟩, _, rfl, ?_⟩ <;> decide +kernel

end Instance

end Relayd.EthClient
