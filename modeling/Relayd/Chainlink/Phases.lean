import Relayd.Chainlink.Ledger
import Relayd.Lib.Numbered
import Relayd.Lib.Packed

/-!
# Phases and rounds

The phases of the proxy are the aggregators that came into force, numbered one
after the other (`Sys.numbered`), and a round id is a phase and a round of its
aggregator in one word. As long as the phase ids do not start over, a round id
that was given out stays that of the same round, and later rounds have greater
ids.
-/

namespace Relayd.Chainlink
set_option autoImplicit false

open Sys

/-! ## Round ids -/

theorem addPhase_eq (phase : BitVec 16) (originalId : BitVec 64) : addPhase phase originalId = phase ++ originalId :=
  shiftLeft_or_eq_append phase originalId (by decide)

/-- **The ids of a round are the phase and the round it is made of.** -/
theorem parseIds_addPhase (phase : BitVec 16) (originalId : BitVec 64) :
    parseIds ((addPhase phase originalId).setWidth 256) = (phase, originalId) := by
  have fits : 16 + 64 ≤ 256 := by decide
  rw [addPhase_eq, parseIds]
  exact Prod.ext (high_append phase originalId fits) (low_append phase originalId fits)

/-! ## The phases -/

/-- The phases are the aggregators that came into force, newest first. -/
structure AggregatorProxy.Phases (s : AggregatorProxy) (aggregators : List Address) : Prop where
  newest : s.currentPhase.aggregator = aggregators.headD 0
  id : s.currentPhase.id = BitVec.ofNat 16 aggregators.length
  phaseAggregators : ∀ id, s.phaseAggregators id = (numbered aggregators id).getD 0

namespace AggregatorProxy
variable {s s' : AggregatorProxy} {aggregators : List Address}

theorem Phases.of_same (phases : s.Phases aggregators) (current : s'.currentPhase = s.currentPhase)
    (table : s'.phaseAggregators = s.phaseAggregators) : s'.Phases aggregators where
  newest := by rw [current, phases.newest]
  id := by rw [current, phases.id]
  phaseAggregators := by
    intro id
    rw [table, phases.phaseAggregators]

/-- The next phase has the next id. -/
theorem Phases.setAggregator (phases : s.Phases aggregators) (aggregator : Address) :
    (s.setAggregator aggregator).Phases (aggregator :: aggregators) := by
  have id : s.currentPhase.id + 1 = BitVec.ofNat 16 (aggregators.length + 1) := by
    rw [phases.id]
    exact (BitVec.ofNat_add aggregators.length 1).symm
  refine ⟨rfl, id, ?_⟩
  intro asked
  show Function.update s.phaseAggregators (s.currentPhase.id + 1) aggregator asked =
    (numbered (aggregator :: aggregators) asked).getD 0
  rw [id]
  by_cases here : BitVec.ofNat 16 (aggregators.length + 1) = asked
  · subst here
    rw [Function.update_self, numbered_cons_same]
    rfl
  · rw [Function.update_of_ne (Ne.symm here), numbered_cons_other here, phases.phaseAggregators]

/-- The current aggregator is that of its phase. -/
theorem Phases.current {older : List Address} {newest : Address} (phases : s.Phases (newest :: older)) :
    s.phaseAggregators s.currentPhase.id = s.currentPhase.aggregator := by
  rw [phases.phaseAggregators, phases.id, List.length_cons, numbered_cons_same, phases.newest]
  rfl

variable {self : Address} {chain : Chain} {data : RoundData}

/-- The round of an id that is made of a phase and a round. -/
theorem getRoundData_addPhase (phase : BitVec 16) (originalId : BitVec 64) :
    s.getRoundData self chain (addPhase phase originalId) =
      (chain.call self (s.phaseAggregators phase) (·.getRoundData (originalId.setWidth 80))).map (addPhaseIds · phase) := by
  simp only [getRoundData, parseIds_addPhase]

/-- The latest round is one of the current aggregator. -/
theorem latestRoundData_ok (given : s.latestRoundData self chain = .ok data) :
    ∃ original, chain.call self s.currentPhase.aggregator (·.latestRoundData) = .ok original ∧
      data = addPhaseIds original s.currentPhase.id := by
  unfold latestRoundData at given
  cases called : chain.call self s.currentPhase.aggregator (·.latestRoundData) with
  | error reason =>
    rw [called] at given
    cases given
  | ok original =>
    rw [called] at given
    cases given
    exact ⟨original, rfl, rfl⟩

end AggregatorProxy

/-- The aggregator that a call brings into force. -/
def Call.confirmed : Call → List Address
  | .confirmAggregator aggregator => [aggregator]
  | _ => []

/-- An executed call starts a phase for the aggregator that it confirms. -/
theorem EACAggregatorProxy.execute_phases {s s' : EACAggregatorProxy} {sender : Address} {call : Call}
    {aggregators : List Address} (executed : s.execute sender call = .ok s') (phases : s.Phases aggregators) :
    s'.Phases (call.confirmed ++ aggregators) := by
  cases call with
  | transferOwnership recipient =>
    rw [(execute_transferOwnership.1 executed).2]
    exact phases.of_same rfl rfl
  | acceptOwnership =>
    rw [(execute_acceptOwnership.1 executed).2]
    exact phases.of_same rfl rfl
  | proposeAggregator aggregator =>
    rw [(execute_proposeAggregator.1 executed).2]
    exact phases.of_same rfl rfl
  | confirmAggregator aggregator =>
    have unproposed : AggregatorProxy.Phases { s.toAggregatorProxy with proposedAggregator := 0 } aggregators :=
      phases.of_same rfl rfl
    rw [(execute_confirmAggregator.1 executed).2.2]
    exact unproposed.setAggregator aggregator
  | setController controller =>
    rw [(execute_setController.1 executed).2]
    exact phases.of_same rfl rfl

namespace Ledger

/-- The aggregators that come into force in a run, newest first. -/
def confirmations : Ledger → List Transaction → List Address
  | _, [] => []
  | l, t :: rest => (l.next t).confirmations rest ++ (l.executes t).elim [] Call.confirmed

theorem confirmations_append (l : Ledger) (earlier later : List Transaction) :
    l.confirmations (earlier ++ later) = (l.after earlier).confirmations later ++ l.confirmations earlier := by
  induction earlier generalizing l with
  | nil => exact (List.append_nil _).symm
  | cons t earlier ih =>
    rw [List.cons_append, confirmations, ih, confirmations, List.append_assoc]
    rfl

theorem phases_next {l : Ledger} {aggregators : List Address} (phases : l.proxy.Phases aggregators) (t : Transaction) :
    (l.next t).proxy.Phases ((l.executes t).elim [] Call.confirmed ++ aggregators) := by
  cases executed : l.executes t with
  | none =>
    rw [next_proxy_of_none executed]
    exact phases
  | some call =>
    obtain ⟨sender, proxy, rfl, done, now⟩ := executes_cases executed
    rw [now]
    exact EACAggregatorProxy.execute_phases done phases

theorem phases_after {l : Ledger} {aggregators : List Address} (phases : l.proxy.Phases aggregators)
    (transactions : List Transaction) : (l.after transactions).proxy.Phases (l.confirmations transactions ++ aggregators) := by
  induction transactions generalizing l aggregators with
  | nil => exact phases
  | cons t rest ih =>
    rw [confirmations, List.append_assoc]
    exact ih (phases_next phases t)

theorem phases_deployed (deployer aggregator accessController : Address) (chain : Chain) :
    (deploy deployer aggregator accessController chain).proxy.Phases [aggregator] := by
  have undeployed : AggregatorProxy.Phases { owner := deployer } [] := ⟨rfl, rfl, fun _ => rfl⟩
  exact (undeployed.setAggregator aggregator).of_same rfl rfl

/-- **The phases are the aggregators that were confirmed, in their order.** The contract was deployed with the first of
them, and the ids start over after 65535. -/
theorem phases_of_deploy (deployer aggregator accessController : Address) (chain : Chain)
    (transactions : List Transaction) :
    let start := deploy deployer aggregator accessController chain
    (start.after transactions).proxy.Phases (start.confirmations transactions ++ [aggregator]) :=
  phases_after (phases_deployed deployer aggregator accessController chain) transactions

/-! ## Rounds -/

/-- Two times of a contract since it was deployed, and the transactions between them. Its phase ids did not start over. -/
def Leads (l : Ledger) (later : List Transaction) (l' : Ledger) : Prop :=
  ∃ deployer aggregator accessController chain earlier,
    let start := deploy deployer aggregator accessController chain
    l = start.after earlier ∧ l' = l.after later ∧ (start.confirmations (earlier ++ later)).length + 1 < 2 ^ 16

variable {l l' : Ledger} {later : List Transaction}

/-- A part of the transactions leads from its start to its end. -/
theorem Leads.segment {first mid last : List Transaction} (leads : l.Leads (first ++ mid ++ last) l') :
    (l.after first).Leads mid ((l.after first).after mid) := by
  obtain ⟨deployer, aggregator, accessController, chain, earlier, rfl, -, few⟩ := leads
  refine ⟨deployer, aggregator, accessController, chain, earlier ++ first, List.foldl_append.symm, rfl, ?_⟩
  rw [← List.append_assoc, confirmations_append, List.length_append, ← List.append_assoc] at few
  omega

/-- The phases of both times. -/
theorem Leads.phases (leads : l.Leads later l') :
    ∃ newest older, l.proxy.Phases (newest :: older) ∧ l'.proxy.Phases (l.confirmations later ++ newest :: older) ∧
      (l.confirmations later ++ newest :: older).length < 2 ^ 16 := by
  obtain ⟨deployer, aggregator, accessController, chain, earlier, rfl, rfl, few⟩ := leads
  have before := phases_after (phases_deployed deployer aggregator accessController chain) earlier
  rw [confirmations_append] at few
  obtain ⟨newest, older, same⟩ : ∃ newest older,
      (deploy deployer aggregator accessController chain).confirmations earlier ++ [aggregator] = newest :: older :=
    List.exists_cons_of_ne_nil (by simp)
  refine ⟨newest, older, same ▸ before, same ▸ phases_after before later, ?_⟩
  rw [← same, ← List.append_assoc, List.length_append]
  exact few

/-- **A phase keeps its aggregator for good.** -/
theorem Leads.phase_kept (leads : l.Leads later l') {id : BitVec 16} (known : l.proxy.phaseAggregators id ≠ 0) :
    l'.proxy.phaseAggregators id = l.proxy.phaseAggregators id := by
  obtain ⟨newest, older, before, now, few⟩ := leads.phases
  rw [before.phaseAggregators] at known ⊢
  rw [now.phaseAggregators]
  cases registered : numbered (newest :: older) id with
  | none =>
    rw [registered] at known
    exact absurd rfl known
  | some first => rw [numbered_keeps few registered]

/-- **What is asked of a past round is asked of the same round of the same aggregator at any later time.** -/
theorem past_round_kept (leads : l.Leads later l') {self : Address} {chain : Chain} {roundId : BitVec 80}
    (known : l.proxy.phaseAggregators (parseIds (roundId.setWidth 256)).1 ≠ 0) :
    l'.proxy.getRoundData self chain roundId = l.proxy.getRoundData self chain roundId ∧
      l'.proxy.getAnswer self chain (roundId.setWidth 256) = l.proxy.getAnswer self chain (roundId.setWidth 256) ∧
      l'.proxy.getTimestamp self chain (roundId.setWidth 256) = l.proxy.getTimestamp self chain (roundId.setWidth 256) := by
  have same := leads.phase_kept known
  refine ⟨?_, ?_, ?_⟩
  · simp only [AggregatorProxy.getRoundData, same]
  · simp only [AggregatorProxy.getAnswer, AggregatorProxy.ofRound, same]
  · simp only [AggregatorProxy.getTimestamp, AggregatorProxy.ofRound, same]

/-- A contract deployed with the aggregator 2, whose owner replaces it by the aggregator 3. -/
def replaced : List Transaction := [.send 1 (.proposeAggregator 3), .send 1 (.confirmAggregator 3)]

def aggregators : Chain := .of [(2, firstRound.contract), (3, secondRound.contract)]

theorem replaced_leads :
    (deploy 1 2 0 aggregators).Leads replaced ((deploy 1 2 0 aggregators).after replaced) :=
  ⟨1, 2, 0, aggregators, [], rfl, rfl, by decide⟩

theorem past_round_kept_replaced :
    let l' := (deploy 1 2 0 aggregators).after replaced
    let roundId := addPhase 1 7
    l'.proxy.getRoundData 9 aggregators roundId = (deploy 1 2 0 aggregators).proxy.getRoundData 9 aggregators roundId :=
  (past_round_kept replaced_leads (by decide)).1

/-- **A round that was the latest one stays readable under its id**, whatever aggregators came into force since. It is
the aggregator of that time that has to keep it. -/
theorem latest_round_kept (leads : l.Leads later l') {self : Address} {data : RoundData}
    (given : l.proxy.latestRoundData self l.chain = .ok data)
    (keeps : ∀ original, l.chain.call self l.proxy.currentPhase.aggregator (·.latestRoundData) = .ok original →
      original.roundId.toNat < 2 ^ 64 ∧
      l'.chain.call self l.proxy.currentPhase.aggregator (·.getRoundData original.roundId) = .ok original) :
    l'.proxy.getRoundData self l'.chain data.roundId = .ok data := by
  obtain ⟨original, called, rfl⟩ := AggregatorProxy.latestRoundData_ok given
  obtain ⟨small, kept⟩ := keeps original called
  obtain ⟨newest, older, before, -, -⟩ := leads.phases
  have current := before.current
  have known : l.proxy.phaseAggregators l.proxy.currentPhase.id ≠ 0 := by
    intro zero
    rw [← current, zero, Chain.call_zero] at called
    cases called
  have whole : (original.roundId.setWidth 64).setWidth 80 = original.roundId := by
    apply BitVec.eq_of_toNat_eq
    rw [BitVec.toNat_setWidth, BitVec.toNat_setWidth, Nat.mod_eq_of_lt small, Nat.mod_eq_of_lt original.roundId.isLt]
  show l'.proxy.getRoundData self l'.chain (addPhase l.proxy.currentPhase.id (original.roundId.setWidth 64)) = _
  rw [AggregatorProxy.getRoundData_addPhase, leads.phase_kept known, current, whole, kept]
  rfl

theorem latest_round_kept_replaced :
    ((deploy 1 2 0 aggregators).after replaced).proxy.getRoundData 9 aggregators (addPhase 1 7) =
      .ok (addPhaseIds firstRound 1) := by
  apply latest_round_kept replaced_leads rfl
  intro original given
  cases given
  exact ⟨by decide, rfl⟩

/-- Without confirmations the phase is the same. -/
theorem Leads.same_phase (leads : l.Leads later l') (unconfirmed : l.confirmations later = []) :
    l'.proxy.currentPhase = l.proxy.currentPhase := by
  obtain ⟨newest, older, before, now, -⟩ := leads.phases
  rw [unconfirmed, List.nil_append] at now
  have id : l'.proxy.currentPhase.id = l.proxy.currentPhase.id := by rw [now.id, before.id]
  have aggregator : l'.proxy.currentPhase.aggregator = l.proxy.currentPhase.aggregator := by rw [now.newest, before.newest]
  calc
    l'.proxy.currentPhase = ⟨l'.proxy.currentPhase.id, l'.proxy.currentPhase.aggregator⟩ := rfl
    _ = ⟨l.proxy.currentPhase.id, l.proxy.currentPhase.aggregator⟩ := by rw [id, aggregator]

/-- A confirmation starts a phase with a higher id. -/
theorem Leads.later_phase (leads : l.Leads later l') (confirmed : l.confirmations later ≠ []) :
    l.proxy.currentPhase.id.toNat < l'.proxy.currentPhase.id.toNat := by
  obtain ⟨newest, older, before, now, few⟩ := leads.phases
  obtain ⟨latest, others, some⟩ := List.exists_cons_of_ne_nil confirmed
  simp only [some, List.length_append, List.length_cons] at few
  simp only [now.id, before.id, some, List.length_append, List.length_cons, BitVec.toNat_ofNat]
  rw [Nat.mod_eq_of_lt few, Nat.mod_eq_of_lt (by omega)]
  omega

section
variable {self : Address} {data data' : RoundData}

theorem latest_round_lt (leads : l.Leads later l') (given : l.proxy.latestRoundData self l.chain = .ok data)
    (given' : l'.proxy.latestRoundData self l'.chain = .ok data') (confirmed : l.confirmations later ≠ []) :
    data.roundId.toNat < data'.roundId.toNat := by
  obtain ⟨original, -, rfl⟩ := AggregatorProxy.latestRoundData_ok given
  obtain ⟨original', -, rfl⟩ := AggregatorProxy.latestRoundData_ok given'
  simp only [addPhaseIds, addPhase_eq]
  exact append_lt_of_high (leads.later_phase confirmed) _ _

variable (leads : l.Leads later l')
  (given : l.proxy.latestRoundData self l.chain = .ok data) (given' : l'.proxy.latestRoundData self l'.chain = .ok data')
  (counts : ∀ original original',
    l.chain.call self l.proxy.currentPhase.aggregator (·.latestRoundData) = .ok original →
    l'.chain.call self l.proxy.currentPhase.aggregator (·.latestRoundData) = .ok original' →
    original.roundId.toNat ≤ original'.roundId.toNat ∧ original'.roundId.toNat < 2 ^ 64)
include leads given given' counts

theorem latest_round_le : data.roundId.toNat ≤ data'.roundId.toNat := by
  by_cases confirmed : l.confirmations later = []
  · obtain ⟨original, called, rfl⟩ := AggregatorProxy.latestRoundData_ok given
    obtain ⟨original', called', rfl⟩ := AggregatorProxy.latestRoundData_ok given'
    have same := leads.same_phase confirmed
    rw [same] at called'
    obtain ⟨counted, small⟩ := counts original original' called called'
    simp only [addPhaseIds, addPhase_eq, same]
    refine append_le_iff.2 (Or.inr ⟨rfl, ?_⟩)
    rw [BitVec.toNat_setWidth, BitVec.toNat_setWidth, Nat.mod_eq_of_lt small, Nat.mod_eq_of_lt (by omega)]
    exact counted
  · exact (latest_round_lt leads given given' confirmed).le

/-- **The rounds of the contract never go back**, and grow with every phase. It is the aggregators that have to count
their rounds up, within 64 bits. -/
theorem latest_round_grows :
    data.roundId.toNat ≤ data'.roundId.toNat ∧
      (l.confirmations later ≠ [] → data.roundId.toNat < data'.roundId.toNat) :=
  ⟨latest_round_le leads given given' counts, latest_round_lt leads given given'⟩

end

/-- The round of the first aggregator is 7, and that of the second one 2. -/
theorem latest_round_grows_replaced : (addPhaseIds firstRound 1).roundId.toNat < (addPhaseIds secondRound 2).roundId.toNat := by
  apply (@latest_round_grows _ _ _ 9 _ _ replaced_leads rfl rfl _).2 (by decide)
  intro original original' given given'
  cases given
  cases given'
  exact ⟨by decide, by decide⟩

end Ledger

end Relayd.Chainlink
