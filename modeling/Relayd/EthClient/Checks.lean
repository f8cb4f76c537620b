import Relayd.EthClient.Chain

/-!
# What a validation resolves with

The checks that `validateSourceContract` makes of a source and of the aggregator
behind it, by the way the source is polled: a periodic source is accepted on its
round data, and one that is polled by events on the past events of the contract to
listen to. What else is read may only stand in the way.
-/

namespace Relayd.EthClient
set_option autoImplicit false
open Relayd.Common

section
variable {config : RelaydConfig} {reads : ContractReads} {rejectData : FeedSourceData → Option String}
  {sourceConfig : FeedConfigSource} {contractType : EFeedSourceType} {decimals : Nat} {result : PendingCheck}

/-- What the check of the source finds of its round data. -/
def sourceData (config : RelaydConfig) (reads : ContractReads) (sourceConfig : FeedConfigSource)
    (contractType : EFeedSourceType) (decimals : Nat) : Option (Except String FeedSourceData) :=
  if sourceConfig.poll = some .TIMEPERIOD ∨ config.sourceContractValidationMode = .FULL then
    some (rethrow ("Failed to validate latestRoundData for '" ++ sourceConfig.contract ++ "' (" ++ contractType.text ++ ")\n")
      ((reads.latestRoundData sourceConfig.contract decimals).map fun result =>
        { result with decimals := some (decimals : Rat) }))
  else none

/-- What the check of the aggregator behind a proxy finds of its round data. -/
def aggregatorData (config : RelaydConfig) (reads : ContractReads) (sourceConfig : FeedConfigSource)
    (contractType : EFeedSourceType) (decimals : Nat) (aggregator : String) : Option (Except String FeedSourceData) :=
  if config.sourceContractValidationMode = .FULL then
    some (rethrow ("Failed to fetch latestRoundData for validating sub-ClAggregator '" ++ aggregator ++ "' of '"
      ++ sourceConfig.contract ++ "' (" ++ contractType.text ++ ") \n") (reads.latestRoundData aggregator decimals))
  else none

theorem checkSource_eq : checkSource config reads sourceConfig contractType decimals =
    if (sourceConfig.poll = some .EVENT ∨ config.sourceContractValidationMode = .FULL) ∧ contractType ≠ .CL_AGGR_PROX then
      (reads.contractEvent sourceConfig.contract (eventName sourceConfig) decimals).map fun event =>
        { data := sourceData config reads sourceConfig contractType decimals, event := some event }
    else .ok { data := sourceData config reads sourceConfig contractType decimals, event := none } := by
  unfold checkSource
  refine if_congr Iff.rfl ?_ rfl
  cases reads.contractEvent sourceConfig.contract (eventName sourceConfig) decimals <;> rfl

theorem checkProxyAggregator_ok : checkProxyAggregator config reads sourceConfig contractType decimals = .ok result ↔
    ∃ aggregator event, loadClProxyContractAggregator reads sourceConfig.contract = .ok aggregator ∧
      reads.contractEvent aggregator (eventName sourceConfig) decimals = .ok event ∧
      result = { data := aggregatorData config reads sourceConfig contractType decimals aggregator, event := some event } := by
  simp only [checkProxyAggregator, rethrow_eq_ok, bind_eq_ok, Except.ok.injEq]
  constructor
  · rintro ⟨aggregator, known, event, read, rfl⟩
    exact ⟨aggregator, event, known, read, rfl⟩
  · rintro ⟨aggregator, event, known, read, rfl⟩
    exact ⟨aggregator, known, event, read, rfl⟩

theorem assignFound_ok {aggrRes out : FeedSourceData} {failure : String} {found : Option (Except String FeedSourceData)} :
    assignFound aggrRes failure found = .ok out ↔
      (found = none ∧ out = aggrRes) ∨ ∃ data, found = some (.ok data) ∧ out = FeedSourceData.assign aggrRes data := by
  match found with
  | none => simp [assignFound, eq_comm]
  | some (.ok data) => simp [assignFound, eq_comm]
  | some (.error error) => simp [assignFound]

/-- The data that the loop over the checks starts with. -/
def placeholder : FeedSourceData := { value := some (-1), time := some "" }

/-- A check goes through, and what it found is taken over. -/
def Assigns (sourceConfig : FeedConfigSource) (check : Except String PendingCheck) (aggrRes out : FeedSourceData) : Prop :=
  ∃ result, check = .ok result ∧ assignCheck sourceConfig aggrRes result = .ok out

/-- The checks of a source, by its type. -/
def AssignsAll (config : RelaydConfig) (reads : ContractReads) (sourceConfig : FeedConfigSource) (decimals : Nat)
    (out : FeedSourceData) : EFeedSourceType → Prop
  | .CL_AGGR => Assigns sourceConfig (checkSource config reads sourceConfig .CL_AGGR decimals) placeholder out
  | .CL_AGGR_PROX => ∃ aggrRes,
      Assigns sourceConfig (checkProxyAggregator config reads sourceConfig .CL_AGGR_PROX decimals) placeholder aggrRes ∧
        Assigns sourceConfig (checkSource config reads sourceConfig .CL_AGGR_PROX decimals) aggrRes out

theorem pendingChecks_assigned {out : FeedSourceData} :
    (∃ checks, pendingChecks config reads sourceConfig contractType = .ok checks ∧
        checks.foldlM (assignCheck sourceConfig) placeholder = .ok out) ↔
      ∃ decimals, loadContractDecimals reads sourceConfig.contract = .ok decimals ∧
        AssignsAll config reads sourceConfig decimals out contractType := by
  cases contractType with
  | CL_AGGR =>
    simp only [pendingChecks, bind_eq_ok, Except.ok.injEq, AssignsAll, Assigns]
    constructor
    · rintro ⟨checks, ⟨decimals, loaded, sourceRes, checked, rfl⟩, assigned⟩
      rw [List.foldlM_cons, bind_eq_ok] at assigned
      obtain ⟨aggrRes, assigned, ⟨⟩⟩ := assigned
      exact ⟨decimals, loaded, sourceRes, checked, assigned⟩
    · rintro ⟨decimals, loaded, sourceRes, checked, assigned⟩
      refine ⟨[sourceRes], ⟨decimals, loaded, sourceRes, checked, rfl⟩, ?_⟩
      rw [List.foldlM_cons, bind_eq_ok]
      exact ⟨out, assigned, rfl⟩
  | CL_AGGR_PROX =>
    simp only [pendingChecks, bind_eq_ok, Except.ok.injEq, AssignsAll, Assigns]
    constructor
    · rintro ⟨checks, ⟨decimals, loaded, proxyRes, proxyChecked, sourceRes, checked, rfl⟩, assigned⟩
      simp only [List.foldlM_cons, bind_eq_ok] at assigned
      obtain ⟨aggrRes, proxyAssigned, _, assigned, ⟨⟩⟩ := assigned
      exact ⟨decimals, loaded, aggrRes, ⟨proxyRes, proxyChecked, proxyAssigned⟩, sourceRes, checked, assigned⟩
    · rintro ⟨decimals, loaded, aggrRes, ⟨proxyRes, proxyChecked, proxyAssigned⟩, sourceRes, checked, assigned⟩
      refine ⟨[proxyRes, sourceRes], ⟨decimals, loaded, proxyRes, proxyChecked, sourceRes, checked, rfl⟩, ?_⟩
      simp only [List.foldlM_cons, bind_eq_ok]
      exact ⟨aggrRes, proxyAssigned, out, assigned, rfl⟩

/-- **What a validation resolves with** is what its checks found, one after the other. -/
theorem validateSourceContract_ok (typed : sourceConfig.type = some contractType) {out : FeedSourceData} :
    validateSourceContract config reads rejectData sourceConfig = .ok out ↔
      isEthereumAddress sourceConfig.contract = true ∧ rejectData out = none ∧
        ∃ decimals, loadContractDecimals reads sourceConfig.contract = .ok decimals ∧
          AssignsAll config reads sourceConfig decimals out contractType := by
  rw [← pendingChecks_assigned]
  unfold validateSourceContract
  by_cases isAddress : isEthereumAddress sourceConfig.contract = true
  · simp only [isAddress, Bool.not_true, Bool.false_eq_true, ↓reduceIte, typed, true_and, bind_eq_ok]
    constructor
    · rintro ⟨checks, checked, aggrRes, assigned, accepted⟩
      cases rejected : rejectData aggrRes with
      | some error =>
        rw [rejected] at accepted
        cases accepted
      | none =>
        rw [rejected] at accepted
        cases accepted
        exact ⟨rejected, checks, checked, assigned⟩
    · rintro ⟨accepted, checks, checked, assigned⟩
      exact ⟨checks, checked, out, assigned, by rw [accepted]⟩
  · simp [isAddress]

/-! ## Periodic sources -/

/-- Data that were read take the place of all there was, but for a path. -/
theorem FeedSourceData.assign_read {aggrRes data : FeedSourceData} (noPath : aggrRes.path = none) (noPath' : data.path = none)
    (decimals : Rat) :
    FeedSourceData.assign aggrRes { data with decimals := some decimals } = { data with decimals := some decimals } := by
  simp only [FeedSourceData.assign, noPath, noPath', Option.some_or, Option.or_none]

section
variable (periodic : sourceConfig.poll = some .TIMEPERIOD) {aggrRes out : FeedSourceData}
include periodic

theorem assignCheck_periodic : assignCheck sourceConfig aggrRes result = .ok out ↔
    (result.data = none ∧ out = aggrRes) ∨ ∃ data, result.data = some (.ok data) ∧ out = FeedSourceData.assign aggrRes data := by
  rw [assignCheck, periodic]
  exact assignFound_ok

/-- What the check of a periodic source finds are its round data. -/
theorem checkSource_periodic :
    Assigns sourceConfig (checkSource config reads sourceConfig contractType decimals) aggrRes out ↔
      (contractType = .CL_AGGR → config.sourceContractValidationMode = .FULL →
        ∃ event, reads.contractEvent sourceConfig.contract (eventName sourceConfig) decimals = .ok event) ∧
      ∃ data, reads.latestRoundData sourceConfig.contract decimals = .ok data ∧
        out = FeedSourceData.assign aggrRes { data with decimals := some (decimals : Rat) } := by
  have found : (sourceData config reads sourceConfig contractType decimals = none ∧ out = aggrRes ∨
      ∃ data, sourceData config reads sourceConfig contractType decimals = some (.ok data) ∧
        out = FeedSourceData.assign aggrRes data) ↔
      ∃ data, reads.latestRoundData sourceConfig.contract decimals = .ok data ∧
        out = FeedSourceData.assign aggrRes { data with decimals := some (decimals : Rat) } := by
    simp only [sourceData, periodic, true_or, ↓reduceIte, reduceCtorEq, false_and, false_or, Option.some.injEq, rethrow_eq_ok,
      map_eq_ok]
    constructor
    · rintro ⟨_, ⟨data, read, rfl⟩, rfl⟩
      exact ⟨data, read, rfl⟩
    · rintro ⟨data, read, rfl⟩
      exact ⟨_, ⟨data, read, rfl⟩, rfl⟩
  rw [← found, Assigns, checkSource_eq]
  simp only [assignCheck_periodic periodic]
  cases contractType with
  | CL_AGGR_PROX => simp
  | CL_AGGR =>
    by_cases full : config.sourceContractValidationMode = .FULL
    · cases reads.contractEvent sourceConfig.contract (eventName sourceConfig) decimals <;>
        simp [full, Except.map]
    · simp [full, periodic]

/-- The check of the aggregator behind a periodic source finds its round data, if it looks for them. -/
theorem checkProxyAggregator_periodic :
    Assigns sourceConfig (checkProxyAggregator config reads sourceConfig contractType decimals) aggrRes out ↔
      ∃ aggregator, loadClProxyContractAggregator reads sourceConfig.contract = .ok aggregator ∧
        (∃ event, reads.contractEvent aggregator (eventName sourceConfig) decimals = .ok event) ∧
        if config.sourceContractValidationMode = .FULL then
          ∃ data, reads.latestRoundData aggregator decimals = .ok data ∧ out = FeedSourceData.assign aggrRes data
        else out = aggrRes := by
  have found : ∀ aggregator, (aggregatorData config reads sourceConfig contractType decimals aggregator = none ∧ out = aggrRes ∨
      ∃ data, aggregatorData config reads sourceConfig contractType decimals aggregator = some (.ok data) ∧
        out = FeedSourceData.assign aggrRes data) ↔
      if config.sourceContractValidationMode = .FULL then
        ∃ data, reads.latestRoundData aggregator decimals = .ok data ∧ out = FeedSourceData.assign aggrRes data
      else out = aggrRes := by
    intro aggregator
    unfold aggregatorData
    split <;> simp [rethrow_eq_ok]
  simp only [Assigns, checkProxyAggregator_ok, assignCheck_periodic periodic]
  constructor
  · rintro ⟨result, ⟨aggregator, event, known, read, rfl⟩, assigned⟩
    exact ⟨aggregator, known, ⟨event, read⟩, (found aggregator).1 assigned⟩
  · rintro ⟨aggregator, known, ⟨event, read⟩, assigned⟩
    exact ⟨_, ⟨aggregator, event, known, read, rfl⟩, (found aggregator).2 assigned⟩

end

/-- What the validation of a periodic source reads besides the round data of the source neither throws nor is rejected. -/
def BesidesRead (config : RelaydConfig) (reads : ContractReads) (sourceConfig : FeedConfigSource) (decimals : Nat) :
    EFeedSourceType → Prop
  | .CL_AGGR => config.sourceContractValidationMode = .FULL →
      ∃ event, reads.contractEvent sourceConfig.contract (eventName sourceConfig) decimals = .ok event
  | .CL_AGGR_PROX => ∃ aggregator, loadClProxyContractAggregator reads sourceConfig.contract = .ok aggregator ∧
      (∃ event, reads.contractEvent aggregator (eventName sourceConfig) decimals = .ok event) ∧
      (config.sourceContractValidationMode = .FULL → ∃ data, reads.latestRoundData aggregator decimals = .ok data)

section
variable (periodic : sourceConfig.poll = some .TIMEPERIOD)
include periodic

/-- The check of the aggregator behind a periodic source goes through when what it reads does. -/
theorem proxyAssigns_iff :
    (∃ aggrRes, Assigns sourceConfig (checkProxyAggregator config reads sourceConfig .CL_AGGR_PROX decimals) placeholder
        aggrRes) ↔ BesidesRead config reads sourceConfig decimals .CL_AGGR_PROX := by
  simp only [checkProxyAggregator_periodic periodic, BesidesRead]
  by_cases full : config.sourceContractValidationMode = .FULL
  · simp only [full, ↓reduceIte, true_imp_iff]
    constructor
    · rintro ⟨_, aggregator, known, events, data, read, -⟩
      exact ⟨aggregator, known, events, data, read⟩
    · rintro ⟨aggregator, known, events, data, read⟩
      exact ⟨_, aggregator, known, events, data, read, rfl⟩
  · simp only [full, ↓reduceIte, false_imp_iff, and_true]
    constructor
    · rintro ⟨_, aggregator, known, events, -⟩
      exact ⟨aggregator, known, events⟩
    · rintro ⟨aggregator, known, events⟩
      exact ⟨_, aggregator, known, events, rfl⟩

variable (noPath : ∀ address decimals data, reads.latestRoundData address decimals = .ok data → data.path = none)
  {aggrRes out : FeedSourceData}
include noPath

/-- The check of the aggregator behind a periodic source finds no path. -/
theorem proxyAssigned_path
    (assigned : Assigns sourceConfig (checkProxyAggregator config reads sourceConfig .CL_AGGR_PROX decimals) placeholder
      aggrRes) : aggrRes.path = none := by
  obtain ⟨aggregator, -, -, found⟩ := (checkProxyAggregator_periodic periodic).1 assigned
  split at found
  · obtain ⟨data, read, rfl⟩ := found
    simp only [FeedSourceData.assign, placeholder, noPath _ _ _ read, Option.or_none]
  · rw [found, placeholder]

/-- The round data of a periodic source take the place of what was found before. -/
theorem sourceAssigns_iff (isUnset : aggrRes.path = none) :
    Assigns sourceConfig (checkSource config reads sourceConfig contractType decimals) aggrRes out ↔
      (∃ data, reads.latestRoundData sourceConfig.contract decimals = .ok data ∧
        out = { data with decimals := some (decimals : Rat) }) ∧
      (contractType = .CL_AGGR → config.sourceContractValidationMode = .FULL →
        ∃ event, reads.contractEvent sourceConfig.contract (eventName sourceConfig) decimals = .ok event) := by
  rw [checkSource_periodic periodic, and_comm]
  refine and_congr_left fun _ => exists_congr fun data => and_congr_right fun read => ?_
  rw [FeedSourceData.assign_read isUnset (noPath _ _ data read)]

/-- A periodic source is accepted on its round data, if nothing else stands in the way. -/
theorem validate_period_iff (typed : sourceConfig.type = some contractType) :
    validateSourceContract config reads rejectData sourceConfig = .ok out ↔
      isEthereumAddress sourceConfig.contract = true ∧ rejectData out = none ∧
        ∃ decimals, loadContractDecimals reads sourceConfig.contract = .ok decimals ∧
          (∃ data, reads.latestRoundData sourceConfig.contract decimals = .ok data ∧
            out = { data with decimals := some (decimals : Rat) }) ∧
          BesidesRead config reads sourceConfig decimals contractType := by
  rw [validateSourceContract_ok typed]
  refine and_congr_right fun _ => and_congr_right fun _ => exists_congr fun decimals => and_congr_right fun _ => ?_
  cases contractType with
  | CL_AGGR =>
    rw [AssignsAll, sourceAssigns_iff periodic noPath rfl]
    simp only [BesidesRead, true_imp_iff]
  | CL_AGGR_PROX =>
    rw [← proxyAssigns_iff periodic]
    constructor
    · rintro ⟨aggrRes, proxied, assigned⟩
      have isUnset := proxyAssigned_path periodic noPath proxied
      exact ⟨((sourceAssigns_iff periodic noPath isUnset).1 assigned).1, aggrRes, proxied⟩
    · rintro ⟨found, aggrRes, proxied⟩
      have isUnset := proxyAssigned_path periodic noPath proxied
      exact ⟨aggrRes, proxied, (sourceAssigns_iff periodic noPath isUnset).2 ⟨found, fun impossible => (nomatch impossible)⟩⟩

end

/-! ## Sources polled by events -/

section
variable (onEvent : sourceConfig.poll = some .EVENT) {aggrRes out : FeedSourceData}
include onEvent

theorem assignCheck_event : assignCheck sourceConfig aggrRes result = .ok out ↔
    (result.event = none ∧ out = aggrRes) ∨ ∃ data, result.event = some (.ok data) ∧ out = FeedSourceData.assign aggrRes data := by
  rw [assignCheck, onEvent]
  exact assignFound_ok

/-- The check of a source that is no proxy finds its events. -/
theorem checkSource_event : Assigns sourceConfig (checkSource config reads sourceConfig .CL_AGGR decimals) aggrRes out ↔
    ∃ data, reads.contractEvent sourceConfig.contract (eventName sourceConfig) decimals = .ok (.ok data) ∧
      out = FeedSourceData.assign aggrRes data := by
  simp only [Assigns, checkSource_eq, onEvent, true_or, ne_eq, reduceCtorEq, not_false_eq_true, and_self, ↓reduceIte, map_eq_ok,
    assignCheck_event onEvent]
  constructor
  · rintro ⟨_, ⟨event, read, rfl⟩, ⟨⟨⟩, -⟩ | ⟨data, ⟨⟩, rfl⟩⟩
    exact ⟨data, read, rfl⟩
  · rintro ⟨data, read, rfl⟩
    exact ⟨_, ⟨_, read, rfl⟩, Or.inr ⟨data, rfl, rfl⟩⟩

/-- The check of a proxy itself finds no events. -/
theorem checkSource_proxy_event :
    Assigns sourceConfig (checkSource config reads sourceConfig .CL_AGGR_PROX decimals) aggrRes out ↔ out = aggrRes := by
  simp [Assigns, checkSource_eq, assignCheck_event onEvent]

/-- The check of the aggregator behind a proxy finds its events. -/
theorem checkProxyAggregator_event :
    Assigns sourceConfig (checkProxyAggregator config reads sourceConfig contractType decimals) aggrRes out ↔
      ∃ aggregator data, loadClProxyContractAggregator reads sourceConfig.contract = .ok aggregator ∧
        reads.contractEvent aggregator (eventName sourceConfig) decimals = .ok (.ok data) ∧
        out = FeedSourceData.assign aggrRes data := by
  simp only [Assigns, checkProxyAggregator_ok, assignCheck_event onEvent]
  constructor
  · rintro ⟨result, ⟨aggregator, event, known, read, rfl⟩, ⟨⟨⟩, -⟩ | ⟨data, ⟨⟩, rfl⟩⟩
    exact ⟨aggregator, data, known, read, rfl⟩
  · rintro ⟨aggregator, data, known, read, rfl⟩
    exact ⟨_, ⟨aggregator, _, known, read, rfl⟩, Or.inr ⟨data, rfl, rfl⟩⟩

end

/-- The contract whose events a source is polled by. -/
def listenedTo (reads : ContractReads) (sourceConfig : FeedConfigSource) : EFeedSourceType → Except String String
  | .CL_AGGR => .ok sourceConfig.contract
  | .CL_AGGR_PROX => loadClProxyContractAggregator reads sourceConfig.contract

/-- A source polled by events is accepted on the past events of the contract to listen to. -/
theorem validate_event_iff (typed : sourceConfig.type = some contractType) (onEvent : sourceConfig.poll = some .EVENT)
    {out : FeedSourceData} :
    validateSourceContract config reads rejectData sourceConfig = .ok out ↔
      isEthereumAddress sourceConfig.contract = true ∧ rejectData out = none ∧
        ∃ decimals, loadContractDecimals reads sourceConfig.contract = .ok decimals ∧
          ∃ address data, listenedTo reads sourceConfig contractType = .ok address ∧
            reads.contractEvent address (eventName sourceConfig) decimals = .ok (.ok data) ∧
            out = FeedSourceData.assign placeholder data := by
  rw [validateSourceContract_ok typed]
  refine and_congr_right fun _ => and_congr_right fun _ => exists_congr fun decimals => and_congr_right fun _ => ?_
  cases contractType with
  | CL_AGGR => simp only [AssignsAll, checkSource_event onEvent, listenedTo, Except.ok.injEq, exists_and_left, exists_eq_left']
  | CL_AGGR_PROX =>
    simp only [AssignsAll, checkSource_proxy_event onEvent, checkProxyAggregator_event onEvent, listenedTo, exists_eq_right']

/-- A source that is not said to be polled in any way is accepted on the placeholder. -/
theorem validate_unpolled (typed : sourceConfig.type = some contractType) (unpolled : sourceConfig.poll = none)
    {out : FeedSourceData} (resolved : validateSourceContract config reads rejectData sourceConfig = .ok out) :
    out = placeholder := by
  obtain ⟨-, -, decimals, -, assigned⟩ := (validateSourceContract_ok typed).1 resolved
  have same : ∀ check aggrRes out, Assigns sourceConfig check aggrRes out → out = aggrRes := by
    rintro check aggrRes out ⟨result, -, assigned⟩
    rw [assignCheck, unpolled] at assigned
    cases assigned
    rfl
  cases contractType with
  | CL_AGGR => exact same _ _ _ assigned
  | CL_AGGR_PROX =>
    obtain ⟨aggrRes, proxyAssigned, assigned⟩ := assigned
    rw [same _ _ _ assigned, same _ _ _ proxyAssigned]

end

end Relayd.EthClient
