import Mathlib.Data.List.Forall2
import Relayd.Chainlink.Ledger

/-!
# What an account without access sees

The access controller grants or denies an account the answers of the
aggregators. An account that it denies them sees the phases, the owner and what
describes the aggregators, and none of their rounds: two runs that differ in the
rounds alone look the same to it.
-/

namespace Relayd.Chainlink
set_option autoImplicit false

open Sys

/-- What an account needs no access for, and may learn of the aggregators. -/
structure Chain.Alike (caller : Address) (chain chain' : Chain) : Prop where
  hasAccess : chain'.hasAccess = chain.hasAccess
  decimals : ∀ address, chain'.call caller address (·.decimals) = chain.call caller address (·.decimals)
  version : ∀ address, chain'.call caller address (·.version) = chain.call caller address (·.version)
  description : ∀ address, chain'.call caller address (·.description) = chain.call caller address (·.description)

/-- The views that need access. -/
def View.gated : View → Bool
  | .latestAnswer => true
  | .latestTimestamp => true
  | .getAnswer _ => true
  | .getTimestamp _ => true
  | .latestRound => true
  | .getRoundData _ => true
  | .latestRoundData => true
  | .proposedGetRoundData _ => true
  | .proposedLatestRoundData => true
  | .owner => false
  | .proposedAggregator => false
  | .phaseAggregators _ => false
  | .accessController => false
  | .aggregator => false
  | .phaseId => false
  | .decimals => false
  | .version => false
  | .description => false

namespace EACAggregatorProxy
variable {self : Address} {chain chain' : Chain} {s : EACAggregatorProxy} {user : Address} {data : View}

/-- The controller grants an account what it asks for. -/
def Grants (chain : Chain) (s : EACAggregatorProxy) (user : Address) (data : View) : Prop :=
  s.accessController = 0 ∨ chain.hasAccess s.accessController user data = .ok true

/-- **A view that is checked answers an account exactly if it is granted**, and otherwise gives a reason that no answer of
an aggregator is in. -/
theorem checkAccess_eq {α : Type} (chain : Chain) (s : EACAggregatorProxy) (user : Address) (data : View) :
    (s.Grants chain user data ∧ ∀ body : Returns α, s.checkAccess chain user data body = body) ∨
      ¬ s.Grants chain user data ∧ ∃ reason, ∀ body : Returns α, s.checkAccess chain user data body = .error reason := by
  unfold Grants checkAccess
  by_cases uncontrolled : s.accessController = 0
  · exact Or.inl ⟨Or.inl uncontrolled, fun body => if_pos uncontrolled⟩
  · cases asked : chain.hasAccess s.accessController user data with
    | error reason =>
      refine Or.inr ⟨?_, reason, fun body => ?_⟩
      · rintro (zero | granted)
        · exact uncontrolled zero
        · cases granted
      · rw [if_neg uncontrolled]
        rfl
    | ok granted =>
      cases granted with
      | true =>
        refine Or.inl ⟨Or.inr rfl, fun body => ?_⟩
        rw [if_neg uncontrolled]
        rfl
      | false =>
        refine Or.inr ⟨?_, "No access", fun body => ?_⟩
        · rintro (zero | granted)
          · exact uncontrolled zero
          · cases granted
        · rw [if_neg uncontrolled]
          rfl

/-- The check on two chains with the same controllers. -/
theorem checkAccess_alike {α : Type} (alike : chain.Alike self chain') (denied : ¬ s.Grants chain user data)
    (body body' : Returns α) : s.checkAccess chain' user data body' = s.checkAccess chain user data body := by
  have same : ∀ body : Returns α, s.checkAccess chain' user data body = s.checkAccess chain user data body := by
    intro body
    simp only [checkAccess, alike.hasAccess]
  rcases checkAccess_eq (α := α) chain s user data with ⟨granted, -⟩ | ⟨-, reason, fails⟩
  · exact absurd granted denied
  · rw [same, fails, fails]

/-- **An account that is denied every view of the rounds sees the same on two chains** that are alike but for these. -/
theorem view_alike (alike : chain.Alike self chain') (denied : ∀ data : View, data.gated → ¬ s.Grants chain user data) :
    s.view self chain' user data = s.view self chain user data := by
  cases data with
  | owner => rfl
  | proposedAggregator => rfl
  | phaseAggregators id => rfl
  | accessController => rfl
  | aggregator => rfl
  | phaseId => rfl
  | decimals => simp only [view, AggregatorProxy.decimals, alike.decimals]
  | version => simp only [view, AggregatorProxy.version, alike.version]
  | description => simp only [view, AggregatorProxy.description, alike.description]
  | latestAnswer => exact checkAccess_alike alike (denied .latestAnswer rfl) _ _
  | latestTimestamp => exact checkAccess_alike alike (denied .latestTimestamp rfl) _ _
  | getAnswer roundId => exact checkAccess_alike alike (denied (.getAnswer roundId) rfl) _ _
  | getTimestamp roundId => exact checkAccess_alike alike (denied (.getTimestamp roundId) rfl) _ _
  | latestRound => exact checkAccess_alike alike (denied .latestRound rfl) _ _
  | getRoundData roundId => exact checkAccess_alike alike (denied (.getRoundData roundId) rfl) _ _
  | latestRoundData => exact checkAccess_alike alike (denied .latestRoundData rfl) _ _
  | proposedGetRoundData roundId => exact checkAccess_alike alike (denied (.proposedGetRoundData roundId) rfl) _ _
  | proposedLatestRoundData => exact checkAccess_alike alike (denied .proposedLatestRoundData rfl) _ _

end EACAggregatorProxy

/-! ## Runs that look the same -/

/-- The same call of the proxy, or changes elsewhere to contracts that are alike. -/
inductive Transaction.Alike (caller : Address) : Transaction → Transaction → Prop
  | send (sender : Address) (call : Call) : Alike caller (.send sender call) (.send sender call)
  | elsewhere (chain chain' : Chain) (alike : chain.Alike caller chain') : Alike caller (.elsewhere chain) (.elsewhere chain')

/-- The same proxy, and contracts that are alike. -/
structure Ledger.Alike (caller : Address) (l l' : Ledger) : Prop where
  proxy : l'.proxy = l.proxy
  chain : l.chain.Alike caller l'.chain

namespace Ledger
variable {self : Address} {l l' : Ledger}

theorem Alike.next {t t' : Transaction} (alike : l.Alike self l') (same : t.Alike self t') :
    (l.next t).Alike self (l'.next t') := by
  cases same with
  | send sender call =>
    unfold Ledger.next
    simp only [alike.proxy]
    split
    · exact ⟨rfl, alike.chain⟩
    · exact alike
  | elsewhere chain chain' same => exact ⟨alike.proxy, same⟩

theorem Alike.after {transactions transactions' : List Transaction} (alike : l.Alike self l')
    (same : List.Forall₂ (Transaction.Alike self) transactions transactions') :
    (l.after transactions).Alike self (l'.after transactions') := by
  induction same generalizing l l' with
  | nil => exact alike
  | cons first _ ih => exact ih (alike.next first)

/-- **Without access, nothing of the rounds is seen**: after two runs that differ in no more than the answers of the
aggregators, every view answers such an account the same. -/
theorem view_without_access {transactions transactions' : List Transaction} {user : Address} (alike : l.Alike self l')
    (same : List.Forall₂ (Transaction.Alike self) transactions transactions')
    (denied : ∀ data : View, data.gated → ¬ (l.after transactions).proxy.Grants (l.after transactions).chain user data)
    (data : View) :
    (l'.after transactions').proxy.view self (l'.after transactions').chain user data =
      (l.after transactions).proxy.view self (l.after transactions).chain user data := by
  have alike := alike.after same
  rw [alike.proxy]
  exact EACAggregatorProxy.view_alike alike.chain denied

theorem alike_of_rounds (round round' : RoundData) :
    (Chain.of [(2, round.contract)]).Alike 9 (.of [(2, round'.contract)]) := by
  refine ⟨rfl, ?_, ?_, ?_⟩
  all_goals
    intro address
    by_cases here : address = 2
    · subst here
      rfl
    · have other : (address == 2) = false := beq_eq_false_iff_ne.2 here
      simp only [Chain.call, Chain.of, List.lookup_cons, List.lookup_nil, other]

/-- A round that comes in changes nothing that the account 5 sees behind the controller 7. -/
theorem view_without_access_of_rounds :
    let l := deploy 1 2 7 (.of [(2, firstRound.contract)])
    let l' := l.after [.elsewhere (.of [(2, secondRound.contract)])]
    l'.proxy.view 9 l'.chain 5 .latestRoundData = l.proxy.view 9 l.chain 5 .latestRoundData := by
  have same : List.Forall₂ (Transaction.Alike 9) [.elsewhere (.of [(2, firstRound.contract)])]
      [.elsewhere (.of [(2, secondRound.contract)])] :=
    .cons (.elsewhere _ _ (alike_of_rounds _ _)) .nil
  have alike : (deploy 1 2 7 (.of [(2, firstRound.contract)])).Alike 9 (deploy 1 2 7 (.of [(2, firstRound.contract)])) :=
    ⟨rfl, alike_of_rounds _ _⟩
  apply view_without_access alike same
  rintro data - (zero | granted)
  · exact absurd zero (by decide)
  · cases granted

end Ledger

end Relayd.Chainlink
