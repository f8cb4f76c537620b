import Relayd.Chainlink.Proxy
import Relayd.Lib.Handover

/-!
# Transactions

The proxy and the contracts it calls, over runs of transactions. The owner and
the aggregator are both changed in two steps (`Sys.IsTwoStep`): the owner offers
the contract to an account, which accepts it, and the owner proposes an
aggregator, which the owner of that time confirms.
-/

namespace Relayd.Chainlink
set_option autoImplicit false

open Sys

/-! ## What a call does -/

namespace EACAggregatorProxy
variable {s s' : EACAggregatorProxy} {sender : Address}

theorem execute_transferOwnership {recipient : Address} :
    s.execute sender (.transferOwnership recipient) = .ok s' ↔
      sender = s.owner ∧ s' = { s with pendingOwner := recipient } := by
  simp only [execute, Owned.transferOwnership, Owned.onlyOwner]
  split <;> simp [*, Except.map, eq_comm]

theorem execute_acceptOwnership :
    s.execute sender .acceptOwnership = .ok s' ↔
      sender = s.pendingOwner ∧ s' = { s with owner := sender, pendingOwner := 0 } := by
  simp only [execute, Owned.acceptOwnership]
  split <;> simp [*, Except.map, eq_comm]

theorem execute_proposeAggregator {aggregator : Address} :
    s.execute sender (.proposeAggregator aggregator) = .ok s' ↔
      sender = s.owner ∧ s' = { s with proposedAggregator := aggregator } := by
  simp only [execute, AggregatorProxy.proposeAggregator, Owned.onlyOwner]
  split <;> simp [*, Except.map, eq_comm]

theorem execute_confirmAggregator {aggregator : Address} :
    s.execute sender (.confirmAggregator aggregator) = .ok s' ↔
      sender = s.owner ∧ aggregator = s.proposedAggregator ∧
        s' = { s with
          toAggregatorProxy :=
            AggregatorProxy.setAggregator { s.toAggregatorProxy with proposedAggregator := 0 } aggregator } := by
  simp only [execute, AggregatorProxy.confirmAggregator, Owned.onlyOwner]
  split
  · split <;> simp [*, Except.map, eq_comm]
  · simp [*, Except.map]

theorem execute_setController {controller : Address} :
    s.execute sender (.setController controller) = .ok s' ↔
      sender = s.owner ∧ s' = { s with accessController := controller } := by
  simp only [execute, EACAggregatorProxy.setController, Owned.onlyOwner]
  split <;> simp [*, eq_comm]

end EACAggregatorProxy

/-! ## Runs -/

/-- The proxy and the contracts it calls. -/
structure Ledger where
  proxy : EACAggregatorProxy
  chain : Chain

inductive Transaction
  | send (sender : Address) (call : Call)
  /-- A transaction that does not call the proxy. -/
  | elsewhere (chain : Chain)

namespace Ledger

/-- The ledger after a transaction. A call that reverts leaves it as it is. -/
def next (l : Ledger) : Transaction → Ledger
  | .send sender call =>
    match l.proxy.execute sender call with
    | .ok proxy => { l with proxy := proxy }
    | .error _ => l
  | .elsewhere chain => { l with chain := chain }

def after (l : Ledger) (transactions : List Transaction) : Ledger := transactions.foldl next l

def deploy (deployer aggregator accessController : Address) (chain : Chain) : Ledger :=
  { proxy := EACAggregatorProxy.deploy deployer aggregator accessController, chain := chain }

/-- The call of the proxy that a transaction executes. -/
def executes (l : Ledger) : Transaction → Option Call
  | .send sender call =>
    match l.proxy.execute sender call with
    | .ok _ => some call
    | .error _ => none
  | .elsewhere _ => none

/-- An executed call is all that its transaction does. -/
theorem executes_cases {l : Ledger} {t : Transaction} {call : Call} (executed : l.executes t = some call) :
    ∃ sender proxy, t = .send sender call ∧ l.proxy.execute sender call = .ok proxy ∧
      l.next t = { l with proxy := proxy } := by
  cases t with
  | send sender sent =>
    cases result : l.proxy.execute sender sent with
    | ok proxy =>
      simp only [executes, result, Option.some.injEq] at executed
      subst executed
      exact ⟨sender, proxy, rfl, result, by simp only [next, result]⟩
    | error reason =>
      simp only [executes, result] at executed
      cases executed
  | elsewhere chain => cases executed

theorem next_proxy_of_none {l : Ledger} {t : Transaction} (none : l.executes t = none) : (l.next t).proxy = l.proxy := by
  cases t with
  | send sender call =>
    cases result : l.proxy.execute sender call with
    | ok proxy =>
      simp only [executes, result] at none
      cases none
    | error reason => simp only [next, result]
  | elsewhere chain => rfl

/-- A law of the executed calls is one of the transactions. -/
theorem isTwoStep_of_calls {V : Type} {part : EACAggregatorProxy → TwoStep V}
    {move : EACAggregatorProxy → Call → Option (Move V)}
    (calls : ∀ s sender call s', s.execute sender call = .ok s' → (part s).Moved (part s') (move s call)) :
    IsTwoStep next (fun l => part l.proxy) fun l t => (l.executes t).bind (move l.proxy) := by
  intro l t
  show (part l.proxy).Moved (part (l.next t).proxy) ((l.executes t).bind (move l.proxy))
  cases executed : l.executes t with
  | none =>
    rw [next_proxy_of_none executed]
    rfl
  | some call =>
    obtain ⟨sender, proxy, rfl, done, now⟩ := executes_cases executed
    rw [now]
    exact calls _ sender call proxy done

end Ledger

/-! ## Owners and aggregators -/

/-- An address as a value, when there may be somebody or something. -/
def present (address : Address) : Option Address := if address = 0 then none else some address

theorem present_eq_some {address value : Address} : present address = some value ↔ address = value ∧ value ≠ 0 := by
  unfold present
  split <;> grind

/-- The calls that change who owns the contract, or may own it next. -/
def Call.changesOwnership : Call → Prop
  | .transferOwnership _ => True
  | .acceptOwnership => True
  | _ => False

def Call.changesAggregator : Call → Prop
  | .proposeAggregator _ => True
  | .confirmAggregator _ => True
  | _ => False

def Call.confirmsAggregator : Call → Prop
  | .confirmAggregator _ => True
  | _ => False

namespace EACAggregatorProxy

def ownership (s : EACAggregatorProxy) : TwoStep Address :=
  { current := present s.owner, proposed := present s.pendingOwner }

def ownershipMove (s : EACAggregatorProxy) : Call → Option (Move Address)
  | .transferOwnership recipient => some (.propose (present recipient))
  | .acceptOwnership => some (.confirm (present s.pendingOwner))
  | .proposeAggregator _ => none
  | .confirmAggregator _ => none
  | .setController _ => none

def aggregation (s : EACAggregatorProxy) : TwoStep Address :=
  { current := present s.currentPhase.aggregator, proposed := present s.proposedAggregator }

def aggregationMove (_ : EACAggregatorProxy) : Call → Option (Move Address)
  | .transferOwnership _ => none
  | .acceptOwnership => none
  | .proposeAggregator aggregator => some (.propose (present aggregator))
  | .confirmAggregator aggregator => some (.confirm (present aggregator))
  | .setController _ => none

variable {s s' : EACAggregatorProxy} {call : Call}

theorem present_zero : present 0 = none := if_pos rfl

/-- Every executed call moves the ownership and the aggregator as it says. -/
theorem execute_moved {sender : Address} (executed : s.execute sender call = .ok s') :
    s.ownership.Moved s'.ownership (s.ownershipMove call) ∧ s.aggregation.Moved s'.aggregation (s.aggregationMove call) := by
  cases call with
  | transferOwnership recipient =>
    rw [(execute_transferOwnership.1 executed).2]
    exact ⟨rfl, rfl⟩
  | acceptOwnership =>
    obtain ⟨isPending, rfl⟩ := execute_acceptOwnership.1 executed
    refine ⟨⟨rfl, ?_⟩, rfl⟩
    simp only [ownership, isPending, present_zero]
  | proposeAggregator aggregator =>
    rw [(execute_proposeAggregator.1 executed).2]
    exact ⟨rfl, rfl⟩
  | confirmAggregator aggregator =>
    obtain ⟨-, isProposed, rfl⟩ := execute_confirmAggregator.1 executed
    refine ⟨rfl, ?_, ?_⟩
    · rw [isProposed]
      rfl
    · simp only [aggregation, AggregatorProxy.setAggregator, present_zero]
  | setController controller =>
    rw [(execute_setController.1 executed).2]
    exact ⟨rfl, rfl⟩

theorem ownershipMove_ne_none (changes : call.changesOwnership) : s.ownershipMove call ≠ none := by
  cases call with
  | transferOwnership recipient => exact Option.some_ne_none _
  | acceptOwnership => exact Option.some_ne_none _
  | proposeAggregator aggregator => cases changes
  | confirmAggregator aggregator => cases changes
  | setController controller => cases changes

theorem aggregationMove_ne_none (changes : call.changesAggregator) : s.aggregationMove call ≠ none := by
  cases call with
  | proposeAggregator aggregator => exact Option.some_ne_none _
  | confirmAggregator aggregator => exact Option.some_ne_none _
  | transferOwnership recipient => cases changes
  | acceptOwnership => cases changes
  | setController controller => cases changes

theorem aggregationMove_confirms (confirms : call.confirmsAggregator) :
    ∃ value, s.aggregationMove call = some (.confirm value) := by
  cases call with
  | confirmAggregator aggregator => exact ⟨_, rfl⟩
  | proposeAggregator aggregator => cases confirms
  | transferOwnership recipient => cases confirms
  | acceptOwnership => cases confirms
  | setController controller => cases confirms

end EACAggregatorProxy

namespace Ledger
variable {l : Ledger} {t : Transaction} {address : Address}

theorem ownership_isTwoStep :
    IsTwoStep next (fun l => l.proxy.ownership) fun l t => (l.executes t).bind l.proxy.ownershipMove :=
  isTwoStep_of_calls fun _ _ _ _ executed => (EACAggregatorProxy.execute_moved executed).1

theorem aggregation_isTwoStep :
    IsTwoStep next (fun l => l.proxy.aggregation) fun l t => (l.executes t).bind l.proxy.aggregationMove :=
  isTwoStep_of_calls fun _ _ _ _ executed => (EACAggregatorProxy.execute_moved executed).2

/-- Only the owner offers the contract. -/
theorem offer_of_move (step : (l.executes t).bind l.proxy.ownershipMove = some (.propose (some address))) :
    t = .send l.proxy.owner (.transferOwnership address) := by
  obtain ⟨call, executed, moved⟩ := Option.bind_eq_some_iff.1 step
  obtain ⟨sender, proxy, rfl, done, -⟩ := executes_cases executed
  cases call with
  | transferOwnership recipient =>
    obtain ⟨rfl, -⟩ := EACAggregatorProxy.execute_transferOwnership.1 done
    simp only [EACAggregatorProxy.ownershipMove, Option.some.injEq, Move.propose.injEq] at moved
    rw [(present_eq_some.1 moved).1]
  | acceptOwnership => simp [EACAggregatorProxy.ownershipMove] at moved
  | proposeAggregator aggregator => cases moved
  | confirmAggregator aggregator => cases moved
  | setController controller => cases moved

/-- Only the account that the contract is offered to accepts it. -/
theorem acceptance_of_move (step : (l.executes t).bind l.proxy.ownershipMove = some (.confirm (some address))) :
    t = .send address .acceptOwnership := by
  obtain ⟨call, executed, moved⟩ := Option.bind_eq_some_iff.1 step
  obtain ⟨sender, proxy, rfl, done, -⟩ := executes_cases executed
  cases call with
  | acceptOwnership =>
    obtain ⟨rfl, -⟩ := EACAggregatorProxy.execute_acceptOwnership.1 done
    simp only [EACAggregatorProxy.ownershipMove, Option.some.injEq, Move.confirm.injEq] at moved
    rw [(present_eq_some.1 moved).1]
  | transferOwnership recipient => simp [EACAggregatorProxy.ownershipMove] at moved
  | proposeAggregator aggregator => cases moved
  | confirmAggregator aggregator => cases moved
  | setController controller => cases moved

/-- Only the owner proposes an aggregator. -/
theorem proposal_of_move (step : (l.executes t).bind l.proxy.aggregationMove = some (.propose (some address))) :
    t = .send l.proxy.owner (.proposeAggregator address) := by
  obtain ⟨call, executed, moved⟩ := Option.bind_eq_some_iff.1 step
  obtain ⟨sender, proxy, rfl, done, -⟩ := executes_cases executed
  cases call with
  | proposeAggregator aggregator =>
    obtain ⟨rfl, -⟩ := EACAggregatorProxy.execute_proposeAggregator.1 done
    simp only [EACAggregatorProxy.aggregationMove, Option.some.injEq, Move.propose.injEq] at moved
    rw [(present_eq_some.1 moved).1]
  | confirmAggregator aggregator => simp [EACAggregatorProxy.aggregationMove] at moved
  | transferOwnership recipient => cases moved
  | acceptOwnership => cases moved
  | setController controller => cases moved

/-- Only the owner confirms an aggregator. -/
theorem confirmation_of_move (step : (l.executes t).bind l.proxy.aggregationMove = some (.confirm (some address))) :
    t = .send l.proxy.owner (.confirmAggregator address) := by
  obtain ⟨call, executed, moved⟩ := Option.bind_eq_some_iff.1 step
  obtain ⟨sender, proxy, rfl, done, -⟩ := executes_cases executed
  cases call with
  | confirmAggregator aggregator =>
    obtain ⟨rfl, -⟩ := EACAggregatorProxy.execute_confirmAggregator.1 done
    simp only [EACAggregatorProxy.aggregationMove, Option.some.injEq, Move.confirm.injEq] at moved
    rw [(present_eq_some.1 moved).1]
  | proposeAggregator aggregator => simp [EACAggregatorProxy.aggregationMove] at moved
  | transferOwnership recipient => cases moved
  | acceptOwnership => cases moved
  | setController controller => cases moved

/-- No transaction executes a call of the kind. -/
def Never (kind : Call → Prop) (l : Ledger) (transactions : List Transaction) : Prop :=
  ∀ o ∈ outcomes next executes l transactions, ∀ call, o.2 = some call → ¬ kind call

/-- A kind of calls all of which move something. -/
theorem never_of_move {V : Type} (kind : Call → Prop) (move : EACAggregatorProxy → Call → Option (Move V))
    (P : Option (Move V) → Prop) (moves : ∀ s call, kind call → ¬ P (move s call)) {transactions : List Transaction}
    (all : ∀ o ∈ outcomes next (fun l t => (l.executes t).bind (move l.proxy)) l transactions, P o.2) :
    Never kind l transactions := by
  apply outcomes_all P (fun o : Option Call => ∀ call, o = some call → ¬ kind call) _ all
  intro l t holds call executed isKind
  rw [executed] at holds
  exact moves l.proxy call isKind holds

/-- An account that was offered the contract by its owner of that time accepted it, before any other offer, and nobody
did since. -/
def Accepted (start : Ledger) (transactions : List Transaction) (owner : Address) : Prop :=
  ∃ before between after,
    let offer := Transaction.send (start.after before).proxy.owner (.transferOwnership owner)
    let acceptance := Transaction.send owner .acceptOwnership
    transactions = before ++ offer :: (between ++ acceptance :: after) ∧
    (start.after (before ++ [offer])).Never Call.changesOwnership between ∧
    (start.after (before ++ offer :: (between ++ [acceptance]))).Never (· = .acceptOwnership) after

/-- An aggregator that an owner proposed was confirmed by the owner of that time, before any other proposal, and none
was since. -/
def Confirmed (start : Ledger) (transactions : List Transaction) (aggregator : Address) : Prop :=
  ∃ before between after,
    let proposal := Transaction.send (start.after before).proxy.owner (.proposeAggregator aggregator)
    let confirmation :=
      Transaction.send (start.after (before ++ proposal :: between)).proxy.owner (.confirmAggregator aggregator)
    transactions = before ++ proposal :: (between ++ confirmation :: after) ∧
    (start.after (before ++ [proposal])).Never Call.changesAggregator between ∧
    (start.after (before ++ proposal :: (between ++ [confirmation]))).Never Call.confirmsAggregator after

variable (deployer aggregator accessController : Address) (chain : Chain) (transactions : List Transaction)

/-- **Whoever owns the contract deployed it, or accepted it from the owner of that time.** -/
theorem owner_accepted {owner : Address}
    (owns : ((deploy deployer aggregator accessController chain).after transactions).proxy.owner = owner)
    (somebody : owner ≠ 0) :
    let start := deploy deployer aggregator accessController chain
    (owner = deployer ∧ start.Never (· = .acceptOwnership) transactions) ∨ start.Accepted transactions owner := by
  intro start
  have never_accepted : ∀ (l : Ledger) transactions,
      (∀ o ∈ outcomes next (fun l t => (l.executes t).bind l.proxy.ownershipMove) l transactions,
        ∀ value, o.2 ≠ some (.confirm value)) → l.Never (· = .acceptOwnership) transactions := by
    intro l transactions never
    apply never_of_move _ EACAggregatorProxy.ownershipMove (fun move => ∀ value, move ≠ some (.confirm value)) _ never
    rintro s call rfl never
    exact never _ rfl
  have vacant : start.proxy.ownership.proposed = none := EACAggregatorProxy.present_zero
  have holds : (start.after transactions).proxy.ownership.current = some owner := present_eq_some.2 ⟨owns, somebody⟩
  cases ownership_isTwoStep.in_force vacant holds with
  | inl unchanged =>
    have first : present deployer = some owner := unchanged.1
    exact Or.inl ⟨(present_eq_some.1 first).1.symm, never_accepted _ _ unchanged.2⟩
  | inr changed =>
    obtain ⟨before, offer, between, acceptance, after, split, offered, quiet, accepted, never⟩ := changed
    obtain rfl := offer_of_move offered
    obtain rfl := acceptance_of_move accepted
    refine Or.inr ⟨before, between, after, split, ?_, never_accepted _ _ never⟩
    apply never_of_move _ EACAggregatorProxy.ownershipMove (· = none) _ quiet
    exact fun _ _ changes => EACAggregatorProxy.ownershipMove_ne_none changes

/-- Account 1 offers the contract to 5. Account 4 fails to accept it, and 5 does not. -/
theorem owner_accepted_of_offer :
    (deploy 1 2 0 (.of [])).Accepted
      [.send 1 (.transferOwnership 5), .send 4 .acceptOwnership, .send 5 .acceptOwnership] 5 := by
  have owns : ((deploy 1 2 0 (.of [])).after
      [.send 1 (.transferOwnership 5), .send 4 .acceptOwnership, .send 5 .acceptOwnership]).proxy.owner = 5 := rfl
  exact (owner_accepted 1 2 0 (.of []) _ owns (by decide)).resolve_left fun first => absurd first.1 (by decide)

/-- **The aggregator that answers was deployed with the contract, or an owner proposed it and the owner of that time
confirmed it.** -/
theorem aggregator_confirmed {newest : Address}
    (answers : ((deploy deployer aggregator accessController chain).after transactions).proxy.currentPhase.aggregator = newest)
    (something : newest ≠ 0) :
    let start := deploy deployer aggregator accessController chain
    (newest = aggregator ∧ start.Never Call.confirmsAggregator transactions) ∨ start.Confirmed transactions newest := by
  intro start
  have never_confirmed : ∀ (l : Ledger) transactions,
      (∀ o ∈ outcomes next (fun l t => (l.executes t).bind l.proxy.aggregationMove) l transactions,
        ∀ value, o.2 ≠ some (.confirm value)) → l.Never Call.confirmsAggregator transactions := by
    intro l transactions never
    apply never_of_move _ EACAggregatorProxy.aggregationMove (fun move => ∀ value, move ≠ some (.confirm value)) _ never
    intro s call confirms never
    obtain ⟨value, moved⟩ := EACAggregatorProxy.aggregationMove_confirms confirms
    exact never value moved
  have vacant : start.proxy.aggregation.proposed = none := EACAggregatorProxy.present_zero
  have holds : (start.after transactions).proxy.aggregation.current = some newest :=
    present_eq_some.2 ⟨answers, something⟩
  cases aggregation_isTwoStep.in_force vacant holds with
  | inl unchanged =>
    have first : present aggregator = some newest := unchanged.1
    exact Or.inl ⟨(present_eq_some.1 first).1.symm, never_confirmed _ _ unchanged.2⟩
  | inr changed =>
    obtain ⟨before, proposal, between, confirmation, after, split, proposed, quiet, confirmed, never⟩ := changed
    obtain rfl := proposal_of_move proposed
    obtain rfl := confirmation_of_move confirmed
    refine Or.inr ⟨before, between, after, split, ?_, never_confirmed _ _ never⟩
    apply never_of_move _ EACAggregatorProxy.aggregationMove (· = none) _ quiet
    exact fun _ _ changes => EACAggregatorProxy.aggregationMove_ne_none changes

/-- The owner replaces its first proposal, and confirms the second one. -/
theorem aggregator_confirmed_of_proposal :
    (deploy 1 2 0 (.of [])).Confirmed
      [.send 1 (.proposeAggregator 3), .send 1 (.proposeAggregator 4), .send 1 (.confirmAggregator 3),
        .send 1 (.confirmAggregator 4)] 4 := by
  have answers : ((deploy 1 2 0 (.of [])).after
      [.send 1 (.proposeAggregator 3), .send 1 (.proposeAggregator 4), .send 1 (.confirmAggregator 3),
        .send 1 (.confirmAggregator 4)]).proxy.currentPhase.aggregator = 4 := rfl
  exact (aggregator_confirmed 1 2 0 (.of []) _ answers (by decide)).resolve_left fun first => absurd first.1 (by decide)

end Ledger

end Relayd.Chainlink
