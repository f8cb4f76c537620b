import Relayd.EthClient.EventFeed
import Relayd.EthClient.Proxied

/-!
# Listening to a proxy whose aggregator is replaced

A proxy source is listened to on the aggregator that the proxy has when the
listening starts. The owner of the proxy may confirm another aggregator, and the
listener stays where it is: the answers of the new aggregator are cast for nobody
until the source is listened to again.
-/

namespace Relayd.EthClient
set_option autoImplicit false
open Relayd.Common Sys

/-- The aggregator that is loaded is the one that the chain gives. -/
theorem loadClProxyContractAggregator_ok {reads : ContractReads} {address aggregator loaded : String}
    (given : reads.aggregator address = .ok aggregator) (ok : loadClProxyContractAggregator reads address = .ok loaded) :
    aggregator = loaded := by
  simp only [loadClProxyContractAggregator, given, bind, Except.bind] at ok
  split at ok
  · cases ok
    rfl
  · cases ok

section
variable (config : RelaydConfig) (client : Client) (env : Env)

/-- The start of a listener registers a source at its listened address, if it registers it. -/
theorem startListening_address (sourceConfig : FeedConfigSource) (feedId : String) (s : EthConnectService)
    {listened : SourceListened}
    (registered : (startListening config client env sourceConfig feedId s).state.sourceListening.get sourceConfig.contract =
      some listened) :
    s.sourceListening.get sourceConfig.contract = some listened ∨
      env.listenedAddress sourceConfig = .ok listened.contract.address := by
  obtain ⟨fresh, later, state, events, new⟩ := listenedContract_cases env sourceConfig s
  simp only [startListening, Traced.bind_apply, state] at registered
  cases loaded : (listenedContract env sourceConfig s).value with
  | error error =>
    rw [loaded] at registered
    exact Or.inl registered
  | ok sourceContract =>
    rw [loaded] at new registered
    obtain ⟨-, -, address⟩ := new
    simp only [Traced.bind_apply, Traced.pure_apply, listenToSource] at registered
    cases decimals : loadContractDecimals env.reads sourceContract.address with
    | error error =>
      rw [decimals] at registered
      exact Or.inl registered
    | ok contractDecimals =>
      simp only [decimals, andThen_ok, Traced.bind_apply, listenToContractEvent, Traced.emit_apply] at registered
      cases event : eventName sourceConfig with
      | none =>
        rw [event] at registered
        exact Or.inl registered
      | some eventSignature =>
        simp only [event, Traced.update_bind_apply, Traced.pure_apply, andThen_ok] at registered
        rcases registration_cases config client env sourceConfig.contract .ADD_LISTEN_EVENT
          (some "Source Event listening started")
          (errorText ("Forbidden attempt to register a second event listener on same Source on same node "
            ++ "instance for '" ++ sourceConfig.contract ++ "'"))
          (fun service => { service with
            sourceListening := service.sourceListening.set sourceConfig.contract { contract := sourceContract, data := none } })
          { s with
            listeners := { contract := sourceContract, eventSignature := eventSignature, feedId := feedId,
                           sourceId := sourceConfig.contract, decimals := contractDecimals } :: s.listeners
            fresh := fresh } with
          ⟨polled, single, refused⟩ | ⟨admitted, state, announces⟩
        · rw [trackSourceEventListener, refused] at registered
          exact Or.inl registered
        · rw [trackSourceEventListener, state, OrderedMap.get_set_same, Option.some.injEq] at registered
          subst registered
          exact Or.inr address

end

/-- Stops register nothing. -/
theorem Alters.registered {client : Client} {casts unmatched : Prop} {s s' : EthConnectService} {events : List Event}
    {sourceId : String} {listened : SourceListened} (alters : Alters client casts unmatched s s' events)
    (registered : s'.sourceListening.get sourceId = some listened) : s.sourceListening.get sourceId = some listened := by
  cases alters with
  | unlistened => exact OrderedMap.get_delete_some registered
  | _ => exact registered

theorem AltersAll.registered {client : Client} {casts unmatched : Prop} {s s' : EthConnectService} {events : List Event}
    {sourceId : String} {listened : SourceListened} (alters : AltersAll client casts unmatched s s' events)
    (registered : s'.sourceListening.get sourceId = some listened) : s.sourceListening.get sourceId = some listened := by
  induction alters with
  | none s => exact registered
  | next first _ ih => exact first.registered (ih registered)

namespace Instance

/-- The action starts to listen to a source. -/
def Action.StartsListening (sourceId : String) : Action → Prop
  | .initiate env sourceConfig _ => sourceConfig.contract = sourceId ∧ env.startsListening sourceConfig = true
  | _ => False

section
variable {config : RelaydConfig} {client : Client} {s s' : Instance} {a : Action} {sourceId : String}
  {listened : SourceListened}

/-- What is registered was registered before, unless it is the listening that the action starts. -/
theorem step_registered (nodup : s.service.sourceListening.keys.Nodup) (kept : ¬ a.StartsListening sourceId)
    (stepped : s.step config client a = some s') (registered : s'.service.sourceListening.get sourceId = some listened) :
    s.service.sourceListening.get sourceId = some listened := by
  obtain ⟨events, -, ⟨env, sourceConfig, feedId, rfl, starts⟩ | alters⟩ := step_effect nodup stepped
  · generalize s'.service = service at *
    cases starts with
    | listening listener fresh _ starts own =>
      have other : sourceId ≠ sourceConfig.contract := fun same => kept ⟨same.symm, starts⟩
      rwa [OrderedMap.get_set_other other] at registered
    | _ => exact registered
  · exact alters.registered registered

/-- A source that starts to be listened to is registered at its listened address. -/
theorem step_started {env : Env} {sourceConfig : FeedConfigSource} {feedId : String} (attached : s.Attached)
    (starts : env.startsListening sourceConfig = true) (first : s.FirstListening (.initiate env sourceConfig feedId))
    (stepped : s.step config client (.initiate env sourceConfig feedId) = some s')
    (registered : s'.service.sourceListening.get sourceConfig.contract = some listened) :
    env.listenedAddress sourceConfig = .ok listened.contract.address := by
  have onEvent : sourceConfig.poll = some .EVENT := by
    simp only [Env.startsListening, Bool.and_eq_true, decide_eq_true_eq] at starts
    exact starts.1.1
  have state : s'.service = (startListening config client env sourceConfig feedId s.service).state := by
    simp only [step, onEvent] at stepped
    split at stepped <;> cases stepped <;> rfl
  rw [state] at registered
  cases startListening_address config client env sourceConfig feedId s.service registered with
  | inr address => exact address
  | inl older =>
    obtain ⟨listener, member, own⟩ := attached.heard.listened _ (Option.isSome_of_eq_some older)
    exact absurd own ((first starts).2 listener member)

end

end Instance

namespace EventFeed

/-- The action starts to listen to a source. -/
def Action.StartsListening (sourceId : String) : Action → Prop
  | .act a => a.StartsListening sourceId
  | .deliver _ => False

section
variable {config : RelaydConfig} {client : Client} {js : Js} {s s' : EventFeed} {sourceId : String}

/-- A registration is as old as the last start. -/
theorem run_registered {post : List Action} {listened : SourceListened} (attached : s.node.Attached)
    (along : Along (step config client js) Undisturbed s post) (kept : ∀ a ∈ post, ¬ a.StartsListening sourceId)
    (reached : run (step config client js) s post = some s')
    (registered : s'.node.service.sourceListening.get sourceId = some listened) :
    s.node.service.sourceListening.get sourceId = some listened := by
  induction post generalizing s with
  | nil =>
    cases reached
    exact registered
  | cons a post ih =>
    obtain ⟨s₁, first, rest⟩ := run_cons.1 reached
    obtain ⟨here, later⟩ := Along.cons_iff.1 along
    obtain ⟨notHere, notLater⟩ := List.forall_mem_cons.1 kept
    have before := ih (step_attached attached here first) (later s₁ first) notLater rest
    cases a with
    | act a =>
      obtain ⟨node, acted, rfl⟩ := Option.map_eq_some_iff.1 first
      exact Instance.step_registered attached.nodup notHere acted before
    | deliver delivery =>
      cases first
      exact before

/-- **A listener does not follow its proxy**: in an undisturbed run, after any later transactions and actions, an answer of the
proxy's aggregator is cast for the source only if it is the aggregator that was there when the listening started. -/
theorem replaced_aggregator_unheard {pre post : List Action} {s₁ : EventFeed} {env : Env} {sourceConfig : FeedConfigSource}
    {feedId : String} (contract : ProxyContract)
    (along : Along (step config client js) Undisturbed {} (pre ++ .act (.initiate env sourceConfig feedId) :: post))
    (before : run (step config client js) {} pre = some s)
    (started : step config client js s (.act (.initiate env sourceConfig feedId)) = some s₁)
    (after : run (step config client js) s₁ post = some s')
    (isProxy : sourceConfig.type = some .CL_AGGR_PROX) (starts : env.startsListening sourceConfig = true)
    (reads : env.reads.aggregator sourceConfig.contract = .ok (contract.text contract.ledger.proxy.currentPhase.aggregator))
    (kept : ∀ a ∈ post, ¬ a.StartsListening sourceConfig.contract) (later : List Chainlink.Transaction) (delivery : Delivery)
    (emitted : ∀ address, delivery.event.emittedBy (contract.text address) = true ↔
      address = (contract.ledger.after later).proxy.currentPhase.aggregator) :
    (s'.node.service.deliver js delivery).filter (fun update => update.sourceId = sourceConfig.contract) =
      if (contract.ledger.after later).proxy.currentPhase.aggregator = contract.ledger.proxy.currentPhase.aggregator then
        ((s'.node.service.subscriber sourceConfig.contract).bind (EventListener.cast js delivery)).toList
      else [] := by
  have attached := run_attached along.left before
  obtain ⟨first, undisturbed⟩ := Along.cons_iff.1 (along.right before)
  have attached₁ := step_attached attached first started
  have attached' := run_attached_from attached₁ (undisturbed s₁ started) after
  rw [EthConnectService.deliver_named attached'.listens attached'.heard]
  split
  case isTrue => rfl
  case isFalse replaced =>
    cases subscribed : s'.node.service.subscriber sourceConfig.contract with
    | none => rfl
    | some listener =>
      have contractOf := subscribes attached' sourceConfig.contract
      rw [subscribed, Option.map_some, eq_comm, Option.map_eq_some_iff] at contractOf
      obtain ⟨listened, registered, same⟩ := contractOf
      have since := run_registered attached₁ (undisturbed s₁ started) kept after registered
      obtain ⟨node, acted, rfl⟩ := Option.map_eq_some_iff.1 started
      have address := Instance.step_started attached starts first.1 acted since
      rw [Env.listenedAddress, if_pos isProxy] at address
      -- the listener is on the aggregator of the start, which is not the one that answers
      have onOld : contract.text contract.ledger.proxy.currentPhase.aggregator = listener.contract.address := by
        rw [← same]
        exact loadClProxyContractAggregator_ok reads address
      have silent : delivery.event.emittedBy listener.contract.address = false := by
        rw [← onOld, ← Bool.not_eq_true, emitted]
        exact fun equal => replaced equal.symm
      rw [Option.bind_some, EventListener.cast, silent]
      simp

end

/-- A proxy of the aggregator 2, which its owner 1 replaces by the aggregator 4. -/
def replacedProxy : ProxyContract where
  ledger := .deploy 1 2 0 (.of [])
  address := 9
  text address :=
    if address = 2 then proxyAddress else if address = 4 then "0x37bC7498f4FF12C19678ee8fE19d309b87F6a9e6" else ""

def replacement : List Chainlink.Transaction := [.send 1 (.proposeAggregator 4), .send 1 (.confirmAggregator 4)]

/-- An answer of the second aggregator. -/
def secondAnswer : Delivery where
  event :=
    { (answerOf 4300000000000 1).event with
      emittedBy := fun address => address = "0x37bC7498f4FF12C19678ee8fE19d309b87F6a9e6" }
  writeFails := fun _ => false

theorem secondAnswer_emitted (address : Chainlink.Address) :
    secondAnswer.event.emittedBy (replacedProxy.text address) = true ↔ address = 4 := by
  simp only [secondAnswer, replacedProxy, decide_eq_true_eq]
  split
  case isTrue first =>
    subst first
    decide
  case isFalse =>
    split
    case isTrue second => simp only [second]
    case isFalse other =>
      refine iff_of_false ?_ other
      decide

/-- The source is listened to, its aggregator answers and is replaced, and the other aggregator answers. -/
theorem replaced_aggregator_unheard_second :
    ∃ s', run (step RelaydConfig.prod Instance.relayClient plainJs) {}
        [.act (.initiate healthyEnv newSource "feed-btc"), .deliver (answerOf 4200000000000 7)] = some s' ∧
      (s'.node.service.subscriber proxyAddress).isSome = true ∧
      (s'.node.service.deliver plainJs secondAnswer).filter (fun update => update.sourceId = proxyAddress) = [] := by
  have possible : (step RelaydConfig.prod Instance.relayClient plainJs {}
      (.act (.initiate healthyEnv newSource "feed-btc"))).any (fun s₁ =>
        (run (step RelaydConfig.prod Instance.relayClient plainJs) s₁ [.deliver (answerOf 4200000000000 7)]).any fun s' =>
          (s'.node.service.subscriber proxyAddress).isSome) = true := by decide +kernel
  obtain ⟨s₁, started, possible⟩ := (Option.any_eq_true _ _).1 possible
  obtain ⟨s', after, subscribed⟩ := (Option.any_eq_true _ _).1 possible
  have along : Along (step RelaydConfig.prod Instance.relayClient plainJs) Undisturbed {}
      ([] ++ [.act (.initiate healthyEnv newSource "feed-btc"), .deliver (answerOf 4200000000000 7)]) := by decide +kernel
  have unheard := replaced_aggregator_unheard replacedProxy along rfl started after rfl (by decide +kernel) rfl
    (by simp [Action.StartsListening]) replacement secondAnswer secondAnswer_emitted
  refine ⟨s', run_cons.2 ⟨s₁, started, after⟩, subscribed, ?_⟩
  rw [if_neg (by decide)] at unheard
  exact unheard

end EventFeed

end Relayd.EthClient
