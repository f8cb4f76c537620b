import Relayd.EthClient.Casts

/-!
# What a consumption writes on `SOURCE_CONFIG`

A consumption answers its record with at most one recast. A source on an
unsupported network, and a source whose handling fails, are recast with one more
note and, at the last attempt, in status `FAIL`; a handled source is recast if
its handling updated it.
-/

namespace Relayd.EthClient
set_option autoImplicit false
open Relayd.Common Sys

/-- The records written on `SOURCE_CONFIG`. -/
def recasts (events : List Event) : List (String × FeedConfigSource) :=
  events.filterMap fun
    | .sourceCast .SOURCE_CONFIG feedId source => some (feedId, source)
    | _ => none

@[simp] theorem recasts_append (events events' : List Event) :
    recasts (events ++ events') = recasts events ++ recasts events' := List.filterMap_append

/-- Not a record of `SOURCE_CONFIG`. -/
def NotRecast : Event → Prop
  | .sourceCast topic _ _ => topic ≠ .SOURCE_CONFIG
  | _ => True

theorem recasts_of_none {events : List Event} (none : ∀ e ∈ events, NotRecast e) : recasts events = [] := by
  apply List.filterMap_eq_nil_iff.2
  intro e member
  have not := none e member
  cases e with
  | sourceCast topic f upd =>
    cases topic with
    | SOURCE_CONFIG => exact absurd rfl not
    | _ => rfl
  | _ => rfl

theorem mem_recasts {events : List Event} {f : String} {upd : FeedConfigSource} :
    (f, upd) ∈ recasts events ↔ .sourceCast .SOURCE_CONFIG f upd ∈ events := by
  unfold recasts
  constructor
  · intro member
    obtain ⟨e, member, cast⟩ := List.mem_filterMap.1 member
    split at cast
    · cases cast
      exact member
    · cases cast
  · intro member
    exact List.mem_filterMap.2 ⟨_, member, rfl⟩

/-- The announcement of a poller that stops is no recast. -/
theorem not_recast_of_stops {events : List Event} (stops : ∀ e ∈ events, Stops e) {f : String} {upd : FeedConfigSource} :
    (f, upd) ∉ recasts events := by
  intro recast
  obtain ⟨_, _, impossible, -⟩ := stops _ (mem_recasts.1 recast)
  cases impossible

/-- The casts that carry a note of the reason go through. -/
def Env.CastsFor (env : Env) (reason : ESourceCastReason) : Prop :=
  ∀ feedId upd note older, upd.issue = some (note :: older) → note.type = reason →
    env.validateSource upd = .accepted ∧ env.writeFails (.sourceCast .SOURCE_CONFIG feedId upd) = false

section
variable {config : RelaydConfig} {client : Client} {env : Env} {feedId : String} {sourceConfig : FeedConfigSource}

theorem castSourceConfig_castsFor {reason : ESourceCastReason} (casts : env.CastsFor reason) (source : FeedConfigSource)
    (info : Option String) (s : EthConnectService) :
    castSourceConfig config client env .SOURCE_CONFIG feedId source reason info s =
      ⟨(issueSourceProcessingNote config client.serviceId source reason info, .ok ()), s,
        [.sourceCast .SOURCE_CONFIG feedId (issueSourceProcessingNote config client.serviceId source reason info)]⟩ := by
  obtain ⟨accepted, writes⟩ := casts feedId (issueSourceProcessingNote config client.serviceId source reason info) _ _
    rfl rfl
  simp only [castSourceConfig, accepted, writes]
  rfl

variable (config client env feedId) in
theorem castErrorSourceConfig_notRecast (source : FeedConfigSource) (errorType : EErrorType) (prevError : String) :
    Traced.Spec (fun _ => True) NotRecast
      (castErrorSourceConfig config client env errorType source feedId prevError) := by
  refine (castErrorSourceConfig_spec (Recast.refl True source) errorType prevError).mono (fun _ _ => True.intro) ?_
  rintro e ⟨upd, rfl, -⟩
  intro same
  cases same

variable (config client env feedId) in
theorem reportLast_notRecast (keepTrying : Bool) (errorType : EErrorType) (source : FeedConfigSource)
    (prevError : String) :
    Traced.Spec (fun _ => True) NotRecast
      (reportLast config client env keepTrying errorType source feedId prevError) := by
  unfold reportLast
  split
  · exact .pure True.intro
  · exact castErrorSourceConfig_notRecast _ _ _ _ _ _ _

variable (config client env feedId sourceConfig) in
/-- The handling itself writes no source update. -/
theorem handleSourceContract_notRecast :
    Traced.Spec (fun _ => True) NotRecast (handleSourceContract config client env sourceConfig feedId) := by
  unfold handleSourceContract
  split
  · exact .bind (andThen_spec fun _ => .bind (.emit True.intro) fun _ _ => .pure True.intro) fun _ _ => .pure True.intro
  · refine andThen_spec fun toPoll => ?_
    cases toPoll with
    | none => exact .pure True.intro
    | some poll =>
      have polls_notRecast : ∀ e, Polls client feedId sourceConfig e → NotRecast e := by
        intro e polls
        cases e with
        | sourceCast topic f upd => exact polls.elim
        | _ => exact True.intro
      refine .bind (initiateSourceDataPolling_polls.mono (fun _ value => value) polls_notRecast) fun result _ => ?_
      cases result with
      | ok _ => exact .pure True.intro
      | error error => exact .bind (castErrorSourceConfig_notRecast _ _ _ _ _ _ _) fun _ _ => .pure True.intro
  · exact .pure True.intro

theorem andThen_pure_events {α β : Type} (result : Except String α) (f : α → Except String β) (s : EthConnectService) :
    ((andThen result fun value => (pure (f value) : Method (Except String β))) s).events = [] := by
  cases result <;> rfl

variable (config client env feedId sourceConfig) in
/-- What `handleAndCast` writes: nothing when the handling failed or left the source as it is, else
the update, unless its cast fails. -/
theorem recasts_handleAndCast (s : EthConnectService) :
    ((∃ error, (handleAndCast config client env feedId sourceConfig s).value = .error error) ∧
        recasts (handleAndCast config client env feedId sourceConfig s).events = []) ∨
      ((handleSourceContract config client env sourceConfig feedId s).value = .ok none ∧
        (handleAndCast config client env feedId sourceConfig s).value = .ok () ∧
        recasts (handleAndCast config client env feedId sourceConfig s).events = []) ∨
      ∃ upd info, (handleSourceContract config client env sourceConfig feedId s).value = .ok (some upd) ∧
        (handleAndCast config client env feedId sourceConfig s).value = .ok () ∧
        recasts (handleAndCast config client env feedId sourceConfig s).events =
          [(feedId, issueSourceProcessingNote config client.serviceId upd .HANDLING_SUCCESS (some info))] := by
  have handled := recasts_of_none (handleSourceContract_notRecast config client env feedId sourceConfig s).2
  unfold handleAndCast
  simp only [Traced.bind_apply, recasts_append, handled, List.nil_append]
  cases value : (handleSourceContract config client env sourceConfig feedId s).value with
  | error error => exact Or.inl ⟨⟨error, rfl⟩, rfl⟩
  | ok configUpd =>
    cases configUpd with
    | none => exact Or.inr (Or.inl ⟨rfl, rfl, rfl⟩)
    | some upd =>
      simp only [andThen, Traced.bind_apply]
      rcases castSourceConfig_cases config client env .SOURCE_CONFIG feedId upd .HANDLING_SUCCESS
        (some ("Status: " ++ statusText upd)) (handleSourceContract config client env sourceConfig feedId s).state
        with ⟨error, failed⟩ | written
      · rw [failed]
        exact Or.inl ⟨⟨error, rfl⟩, rfl⟩
      · rw [written]
        exact Or.inr (Or.inr ⟨upd, _, rfl, rfl, rfl⟩)

variable (config client feedId sourceConfig) in
/-- **A source on an unsupported network is recast**, with one more note. -/
theorem recasts_unsupported (casts : env.CastsFor .FAILURE_NETWORK_NOT_MATCHING) (s : EthConnectService) :
    ∃ info, recasts (recastUnsupported config client env feedId sourceConfig s).events =
      [(feedId, issueSourceProcessingNote config client.serviceId
        (retried config.maxRecastNetworkSourceNotMatching .FAILURE_NETWORK_NOT_MATCHING sourceConfig)
        .FAILURE_NETWORK_NOT_MATCHING info)] := by
  have report := fun keepTrying source error s => recasts_of_none (reportLast_notRecast config client env feedId
    keepTrying .SOURCE_CONFIG_NETWORK_NOSUPPORT source error s).2
  unfold recastUnsupported
  simp only [Traced.bind_apply, castSourceConfig_castsFor casts, recasts_append, report]
  exact ⟨_, rfl⟩

variable (config client feedId sourceConfig) in
/-- **A source whose handling failed is recast**, with one more note. -/
theorem recasts_failed (casts : env.CastsFor .HANDLING_FAILED) (error : String) (s : EthConnectService) :
    ∃ info, recasts (recastFailed config client env feedId sourceConfig error s).events =
      [(feedId, issueSourceProcessingNote config client.serviceId
        (retried config.maxRecastSourceHandlingFail .HANDLING_FAILED sourceConfig) .HANDLING_FAILED info)] := by
  have report := fun keepTrying source error s => recasts_of_none (reportLast_notRecast config client env feedId
    keepTrying .SOURCE_CONFIG_HANDLING_FAIL source error s).2
  unfold recastFailed
  simp only [Traced.bind_apply, castSourceConfig_castsFor casts, recasts_append, report, andThen_pure_events]
  exact ⟨_, rfl⟩

end

/-! ## Instances and answers for concrete runs -/

/-- An instance on the main network. -/
def mainClient : Client where
  serviceId := "relayd.eth_homestead_1650000000000"
  network := "homestead"

/-- Everything the package and the broker are asked goes through, and no contract answers. -/
def silentEnv : Env where
  reads :=
    { decimals := fun _ => .error "Error: call revert exception"
      aggregator := fun _ => .error "Error: call revert exception"
      latestRoundData := fun _ _ => .error "Error: call revert exception"
      contractEvent := fun _ _ _ => .error "Error: call revert exception" }
  validateSource := fun _ => .accepted
  validateData := fun _ => .accepted
  rejectData := fun _ => none
  validatePolling := fun _ => .accepted
  writeFails := fun _ => false
  stringify := fun _ => "{}"
  numberText := fun _ => "0"

/-- An instance on a network that no source is on. -/
def strayClient : Client where
  serviceId := "relayd.eth_goerli_1650000000000"
  network := "goerli"

theorem silentEnv_castsFor (reason : ESourceCastReason) : silentEnv.CastsFor reason := fun _ _ _ _ _ _ => ⟨rfl, rfl⟩

end Relayd.EthClient
