import Relayd.EthClient.Controller
import Relayd.EthClient.Handling

/-!
# What a consumption casts

Everything `handleSourceConfig` emits is about the feed and the contract it was
called for, and a recast keeps the registrations of the record it answers:
`handleSourceConfig_own`. A record gets status `OK` only by being validated,
and reading starts only from a record in status `OK`.
-/

namespace Relayd.EthClient
set_option autoImplicit false
open Relayd.Common Sys

/-- What a recast keeps of a source. Its status changes to `FAIL`, or, when the source was just
`checked`, from `INI` to the outcome of the validation. -/
structure Recast (checked : Prop) (sourceConfig upd : FeedConfigSource) : Prop where
  contract : upd.contract = sourceConfig.contract
  network : upd.network = sourceConfig.network
  handle : upd.handle = sourceConfig.handle
  status : upd.status = sourceConfig.status ∨ upd.status = some .FAIL ∨
    (checked ∧ sourceConfig.status = some .INI ∧ (upd.status = some .OK ∨ upd.status = some .PARTIAL))

theorem Recast.refl (checked : Prop) (sourceConfig : FeedConfigSource) : Recast checked sourceConfig sourceConfig :=
  ⟨rfl, rfl, rfl, Or.inl rfl⟩

theorem Recast.failed {checked : Prop} {sourceConfig upd : FeedConfigSource}
    (recast : Recast checked sourceConfig upd) :
    Recast checked sourceConfig { upd with status := some .FAIL } :=
  ⟨recast.contract, recast.network, recast.handle, Or.inr (Or.inl rfl)⟩

theorem Recast.noted {checked : Prop} {sourceConfig upd : FeedConfigSource} (recast : Recast checked sourceConfig upd)
    (config : RelaydConfig) (serviceId : String) (reason : ESourceCastReason) (info : Option String) :
    Recast checked sourceConfig (issueSourceProcessingNote config serviceId upd reason info) :=
  ⟨recast.contract, recast.network, recast.handle, recast.status⟩

theorem Recast.retried {checked : Prop} (sourceConfig : FeedConfigSource) (maxRecast : Nat)
    (reason : ESourceCastReason) :
    Recast checked sourceConfig (retried maxRecast reason sourceConfig) := by
  unfold EthClient.retried
  split
  · exact Recast.refl checked sourceConfig
  · exact (Recast.refl checked sourceConfig).failed

/-- What an instance may emit while it handles the source of a feed. -/
def Own (checked : Prop) (client : Client) (feedId : String) (sourceConfig : FeedConfigSource) : Event → Prop
  | .sourceCast _ f upd => f = feedId ∧ Recast checked sourceConfig upd
  | .pollingCast sourceId info =>
    sourceId = sourceConfig.contract ∧ info.source = sourceConfig.contract ∧ info.issuer = client.serviceId
  | .validated f contract => f = feedId ∧ contract = sourceConfig.contract
  | .reading f contract => f = feedId ∧ contract = sourceConfig.contract ∧ sourceConfig.status = some .OK

/-- What the start of a poller emits. -/
def Polls (client : Client) (feedId : String) (sourceConfig : FeedConfigSource) : Event → Prop
  | .sourceCast _ _ _ => False
  | .pollingCast sourceId info =>
    sourceId = sourceConfig.contract ∧ info.source = sourceConfig.contract ∧ info.issuer = client.serviceId
  | .validated _ _ => False
  | .reading f contract => f = feedId ∧ contract = sourceConfig.contract

/-- A recast on the topic. -/
def RecastOn (checked : Prop) (topic : ETopic) (feedId : String) (sourceConfig : FeedConfigSource) (e : Event) : Prop :=
  ∃ upd, e = .sourceCast topic feedId upd ∧ Recast checked sourceConfig upd

theorem Polls.own {checked : Prop} {client : Client} {feedId : String} {sourceConfig : FeedConfigSource}
    (ready : sourceConfig.status = some .OK) {e : Event} (polls : Polls client feedId sourceConfig e) :
    Own checked client feedId sourceConfig e := by
  cases e with
  | sourceCast topic f upd => exact polls.elim
  | pollingCast sourceId info => exact polls
  | validated f contract => exact polls.elim
  | reading f contract => exact ⟨polls.1, polls.2, ready⟩

/-- A recast, on any topic. -/
def Recasts (checked : Prop) (feedId : String) (sourceConfig : FeedConfigSource) (e : Event) : Prop :=
  ∃ topic, RecastOn checked topic feedId sourceConfig e

theorem Recasts.own {checked : Prop} {client : Client} {feedId : String} {sourceConfig : FeedConfigSource} {e : Event}
    (recasts : Recasts checked feedId sourceConfig e) : Own checked client feedId sourceConfig e := by
  obtain ⟨topic, upd, rfl, recast⟩ := recasts
  exact ⟨rfl, recast⟩

section
variable {checked : Prop} {config : RelaydConfig} {client : Client} {env : Env} {feedId : String}
  {sourceConfig : FeedConfigSource}

/-- The noted source is valid, and the broker takes its record. -/
def Env.Takes (env : Env) (topic : ETopic) (feedId : String) (source : FeedConfigSource) : Prop :=
  env.validateSource source = .accepted ∧ env.writeFails (.sourceCast topic feedId source) = false

/-- A cast notes its reason on the source, then writes the record if it is taken, else fails. -/
theorem castSourceConfig_takes (config : RelaydConfig) (client : Client) (env : Env) (topic : ETopic) (feedId : String)
    (source : FeedConfigSource) (reason : ESourceCastReason) (info : Option String) (s : EthConnectService) :
    (¬ env.Takes topic feedId (issueSourceProcessingNote config client.serviceId source reason info) ∧
      ∃ error, castSourceConfig config client env topic feedId source reason info s =
        ⟨(issueSourceProcessingNote config client.serviceId source reason info, .error error), s, []⟩) ∨
      env.Takes topic feedId (issueSourceProcessingNote config client.serviceId source reason info) ∧
        castSourceConfig config client env topic feedId source reason info s =
          ⟨(issueSourceProcessingNote config client.serviceId source reason info, .ok ()), s,
            [.sourceCast topic feedId (issueSourceProcessingNote config client.serviceId source reason info)]⟩ := by
  by_cases takes : env.Takes topic feedId (issueSourceProcessingNote config client.serviceId source reason info)
  · refine Or.inr ⟨takes, ?_⟩
    simp only [castSourceConfig, takes.1, takes.2]
    rfl
  · refine Or.inl ⟨takes, ?_⟩
    unfold castSourceConfig
    cases valid : env.validateSource (issueSourceProcessingNote config client.serviceId source reason info) with
    | errors count json => exact ⟨_, rfl⟩
    | thrown error => exact ⟨_, rfl⟩
    | accepted =>
      have fails : env.writeFails
          (.sourceCast topic feedId (issueSourceProcessingNote config client.serviceId source reason info)) = true :=
        Bool.of_not_eq_false fun writes => takes ⟨valid, writes⟩
      simp only [fails, ↓reduceIte]
      exact ⟨_, rfl⟩

theorem castSourceConfig_cases (config : RelaydConfig) (client : Client) (env : Env) (topic : ETopic) (feedId : String)
    (source : FeedConfigSource) (reason : ESourceCastReason) (info : Option String) (s : EthConnectService) :
    (∃ error, castSourceConfig config client env topic feedId source reason info s =
        ⟨(issueSourceProcessingNote config client.serviceId source reason info, .error error), s, []⟩) ∨
      castSourceConfig config client env topic feedId source reason info s =
        ⟨(issueSourceProcessingNote config client.serviceId source reason info, .ok ()), s,
          [.sourceCast topic feedId (issueSourceProcessingNote config client.serviceId source reason info)]⟩ :=
  (castSourceConfig_takes config client env topic feedId source reason info s).imp And.right And.right

/-- Nothing stands in the way of a cast. -/
structure Env.Casts (env : Env) : Prop where
  validateSource : ∀ source, env.validateSource source = .accepted
  validatePolling : ∀ info, env.validatePolling info = .accepted
  writes : ∀ event, env.writeFails event = false

/-- A cast that nothing stands in the way of. -/
theorem castSourceConfig_written (casts : env.Casts) (topic : ETopic) (source : FeedConfigSource)
    (reason : ESourceCastReason) (info : Option String) (s : EthConnectService) :
    castSourceConfig config client env topic feedId source reason info s =
      ⟨(issueSourceProcessingNote config client.serviceId source reason info, .ok ()), s,
        [.sourceCast topic feedId (issueSourceProcessingNote config client.serviceId source reason info)]⟩ := by
  simp only [castSourceConfig, casts.validateSource, casts.writes]
  rfl

theorem castSourceConfig_spec (topic : ETopic) {source : FeedConfigSource} (recast : Recast checked sourceConfig source)
    (reason : ESourceCastReason) (info : Option String) :
    Traced.Spec (fun cast => Recast checked sourceConfig cast.1) (RecastOn checked topic feedId sourceConfig)
      (castSourceConfig config client env topic feedId source reason info) := by
  intro s
  have noted := recast.noted config client.serviceId reason info
  rcases castSourceConfig_cases config client env topic feedId source reason info s with ⟨error, failed⟩ | written
  · rw [failed]
    exact ⟨noted, by simp⟩
  · rw [written]
    refine ⟨noted, ?_⟩
    intro e member
    exact ⟨_, List.mem_singleton.1 member, noted⟩

theorem castSourceConfig_recasts (topic : ETopic) {source : FeedConfigSource}
    (recast : Recast checked sourceConfig source) (reason : ESourceCastReason) (info : Option String) :
    Traced.Spec (fun cast => Recast checked sourceConfig cast.1) (Recasts checked feedId sourceConfig)
      (castSourceConfig config client env topic feedId source reason info) :=
  (castSourceConfig_spec topic recast reason info).mono (fun _ value => value) fun _ recast => ⟨topic, recast⟩

theorem castErrorSourceConfig_spec {source : FeedConfigSource} (recast : Recast checked sourceConfig source)
    (errorType : EErrorType) (prevError : String) :
    Traced.Spec (fun cast => Recast checked sourceConfig cast.1) (RecastOn checked .ERROR_SOURCE feedId sourceConfig)
      (castErrorSourceConfig config client env errorType source feedId prevError) :=
  .bind (castSourceConfig_spec .ERROR_SOURCE recast .HANDLING_FAILED _) fun _ noted => .pure noted

theorem castErrorSourceConfig_recasts {source : FeedConfigSource} (recast : Recast checked sourceConfig source)
    (errorType : EErrorType) (prevError : String) :
    Traced.Spec (fun cast => Recast checked sourceConfig cast.1) (Recasts checked feedId sourceConfig)
      (castErrorSourceConfig config client env errorType source feedId prevError) :=
  (castErrorSourceConfig_spec recast errorType prevError).mono (fun _ value => value) fun _ recast => ⟨_, recast⟩

theorem castSourcePolling_cases (client : Client) (env : Env) (sourceId : String) (changeType : ESourcePollingChange)
    (info : Option String) (s : EthConnectService) :
    (∃ error, castSourcePolling client env sourceId changeType info s = ⟨.error error, s, []⟩) ∨
      castSourcePolling client env sourceId changeType info s =
        ⟨.ok (), s, [.pollingCast sourceId
          { source := sourceId, issuer := client.serviceId, change := changeType, info := info }]⟩ := by
  unfold castSourcePolling
  cases env.validatePolling { source := sourceId, issuer := client.serviceId, change := changeType, info := info } with
  | errors count json => exact Or.inl ⟨_, rfl⟩
  | thrown error => exact Or.inl ⟨_, rfl⟩
  | accepted =>
    by_cases fails : env.writeFails (.pollingCast sourceId
        { source := sourceId, issuer := client.serviceId, change := changeType, info := info }) = true
    · left
      simp only [fails, ↓reduceIte]
      exact ⟨_, rfl⟩
    · right
      simp only [fails]
      rfl

theorem castSourcePolling_polls (changeType : ESourcePollingChange) (info : Option String) :
    Traced.Spec (fun _ => True) (Polls client feedId sourceConfig)
      (castSourcePolling client env sourceConfig.contract changeType info) := by
  intro s
  refine ⟨True.intro, ?_⟩
  intro e member
  rcases castSourcePolling_cases client env sourceConfig.contract changeType info s with ⟨error, failed⟩ | written
  · rw [failed] at member
    cases member
  · rw [written] at member
    rw [List.mem_singleton.1 member]
    exact ⟨rfl, rfl, rfl⟩

theorem andThen_spec {α β : Type} {Q : Event → Prop} {result : Except String α} {next : α → Method (Except String β)}
    (rest : ∀ value, Traced.Spec (fun _ => True) Q (next value)) :
    Traced.Spec (fun _ => True) Q (andThen result next) := by
  cases result with
  | error error => exact .pure True.intro
  | ok value => exact rest value

theorem initContract_emits {Q : Event → Prop} (address : String) :
    Traced.Spec (fun _ => True) Q (initContractClAggregator address) :=
  .bind .read fun _ _ => .bind (.update _) fun _ _ => .pure True.intro

theorem listenedContract_emits {Q : Event → Prop} : Traced.Spec (fun _ => True) Q
    (listenedContract env sourceConfig) := by
  refine .bind (initContract_emits _) fun tmpContract _ => ?_
  split
  · exact andThen_spec fun aggrAddr => .bind (initContract_emits _) fun _ _ => .pure True.intro
  · exact .pure True.intro

theorem trackSourcePolling_polls (timeout : Nat) : Traced.Spec (fun _ => True) (Polls client feedId sourceConfig)
    (trackSourcePolling config client env sourceConfig.contract timeout) := by
  refine .bind .read fun service _ => ?_
  split
  · exact .pure True.intro
  · exact .bind (.update _) fun _ _ => castSourcePolling_polls _ _

theorem trackSourceEventListener_polls (contract : Contract) : Traced.Spec (fun _ => True)
    (Polls client feedId sourceConfig)
    (trackSourceEventListener config client env sourceConfig.contract contract) := by
  refine .bind .read fun service _ => ?_
  split
  · exact .pure True.intro
  · exact .bind (.update _) fun _ _ => castSourcePolling_polls _ _

theorem listenToContractEvent_polls (contract : Contract) (eventSignature : Option String) (nbDecimals : Nat) :
    Traced.Spec (fun _ => True) (Polls client feedId sourceConfig)
      (listenToContractEvent feedId sourceConfig.contract contract eventSignature nbDecimals) := by
  refine .bind (.emit ⟨rfl, rfl⟩) fun _ _ => ?_
  cases eventSignature with
  | none => exact .pure True.intro
  | some eventSignature => exact .bind (.update _) fun _ _ => .pure True.intro

theorem initiatePeriodicPolling_polls : Traced.Spec (fun _ => True) (Polls client feedId sourceConfig)
    (initiatePeriodicPolling config client env sourceConfig feedId) := by
  unfold initiatePeriodicPolling
  split
  · exact .pure True.intro
  · refine .bind (initContract_emits _) fun contract _ => .bind (andThen_spec fun decimals => ?_) fun _ _ => .pure True.intro
    refine .bind (R := fun _ => True) ?_ fun timeout _ => trackSourcePolling_polls timeout
    exact .bind (.emit ⟨rfl, rfl⟩) fun _ _ => .bind .read fun _ _ => .bind (.update _) fun _ _ => .pure True.intro

theorem initiateEventListening_polls : Traced.Spec (fun _ => True) (Polls client feedId sourceConfig)
    (initiateEventListening config client env sourceConfig feedId) := by
  refine .bind listenedContract_emits fun loaded _ => andThen_spec fun sourceContract => ?_
  refine .bind (andThen_spec fun decimals => ?_) fun result _ => ?_
  · exact .bind (listenToContractEvent_polls _ _ _) fun listened _ =>
      andThen_spec fun contract => trackSourceEventListener_polls contract
  · cases result with
    | ok _ => exact .pure True.intro
    | error error =>
      exact .bind (.bind (.update _) fun _ _ => castSourcePolling_polls _ _) fun _ _ => .pure True.intro

theorem initiateSourceDataPolling_polls : Traced.Spec (fun _ => True) (Polls client feedId sourceConfig)
    (initiateSourceDataPolling config client env sourceConfig feedId) := by
  unfold initiateSourceDataPolling
  split
  · exact initiatePeriodicPolling_polls
  · exact initiateEventListening_polls
  · exact .pure True.intro

theorem sourceValidated_recast (isChecked : checked) (initial : sourceConfig.status = some .INI)
    (data : FeedSourceData) :
    ∀ upd, sourceValidated config client env sourceConfig data = .ok upd → Recast checked sourceConfig upd := by
  intro upd validated
  unfold sourceValidated at validated
  split at validated
  · cases validated
    exact ⟨rfl, rfl, rfl, Or.inr (Or.inr ⟨isChecked, initial, Or.inr rfl⟩)⟩
  · cases validated
    exact ⟨rfl, rfl, rfl, Or.inr (Or.inr ⟨isChecked, initial, Or.inl rfl⟩)⟩
  · cases validated

/-- The validation of the source resolves. -/
def Checked (config : RelaydConfig) (env : Env) (sourceConfig : FeedConfigSource) : Prop :=
  ∃ data, validateSourceContract config env.reads env.rejectData sourceConfig = .ok data

/-- The outcome of a handled source: no update, or a recast. -/
def Updates (checked : Prop) (sourceConfig : FeedConfigSource) (result : Except String (Option FeedConfigSource)) :
    Prop :=
  ∀ upd, result = .ok (some upd) → Recast checked sourceConfig upd

variable (client feedId) in
theorem validateSource_unchecked {error : String}
    (failed : validateSourceContract config env.reads env.rejectData sourceConfig = .error error) (s : EthConnectService) :
    ∃ error', validateSource config client env sourceConfig feedId s = ⟨.error error', s, []⟩ := by
  unfold validateSource
  rw [failed]
  exact ⟨_, rfl⟩

variable (client feedId) in
theorem validateSource_checked {data : FeedSourceData}
    (resolved : validateSourceContract config env.reads env.rejectData sourceConfig = .ok data) (s : EthConnectService) :
    (validateSource config client env sourceConfig feedId s).events = [.validated feedId sourceConfig.contract] ∧
      ∀ upd, (validateSource config client env sourceConfig feedId s).value = .ok (some upd) →
        sourceValidated config client env sourceConfig data = .ok upd := by
  unfold validateSource
  rw [resolved]
  refine ⟨rfl, ?_⟩
  intro upd updated
  simp only [andThen, Traced.bind_apply, Traced.emit_apply, Traced.pure_apply] at updated
  cases outcome : sourceValidated config client env sourceConfig data with
  | error error =>
    rw [outcome] at updated
    cases updated
  | ok upd' =>
    rw [outcome] at updated
    cases updated
    rfl

theorem validateSource_own (isChecked : Checked config env sourceConfig → checked)
    (initial : sourceConfig.status = some .INI) :
    Traced.Spec (Updates checked sourceConfig) (Own checked client feedId sourceConfig)
      (validateSource config client env sourceConfig feedId) := by
  intro s
  cases outcome : validateSourceContract config env.reads env.rejectData sourceConfig with
  | error error =>
    obtain ⟨error', failed⟩ := validateSource_unchecked client feedId outcome s
    rw [failed]
    constructor
    · intro upd impossible
      cases impossible
    · intro e member
      cases member
  | ok data =>
    obtain ⟨events, value⟩ := validateSource_checked client feedId outcome s
    constructor
    · intro upd updated
      exact sourceValidated_recast (isChecked ⟨data, outcome⟩) initial data upd (value upd updated)
    · intro e member
      rw [events] at member
      rw [List.mem_singleton.1 member]
      exact ⟨rfl, rfl⟩

variable (checked) in
/-- Polling a source leaves it as it is. -/
theorem pollSource_own (ready : sourceConfig.status = some .OK) :
    Traced.Spec (fun result => ∀ upd, result ≠ .ok (some upd)) (Own checked client feedId sourceConfig)
      (pollSource config client env sourceConfig feedId) := by
  unfold pollSource
  cases checkIfDataPollingRequired config client sourceConfig with
  | error error => exact .pure fun upd => by simp
  | ok toPoll =>
    cases toPoll with
    | none => exact .pure fun upd => by simp
    | some poll =>
      refine .bind (initiateSourceDataPolling_polls.mono (fun _ value => value) fun _ polls => polls.own ready)
        fun pollingInitResult _ => ?_
      cases pollingInitResult with
      | ok _ => exact .pure fun upd => by simp
      | error error =>
        refine .bind ((castErrorSourceConfig_recasts (Recast.refl checked sourceConfig) _ _).mono (fun _ value => value)
          fun _ recasts => recasts.own) fun cast _ => .pure ?_
        intro upd
        cases cast.2 <;> simp [Except.map]

variable (config client env feedId sourceConfig) in
/-- The handling by status: a validation, a polling, or an error. -/
theorem handleSourceContract_cases :
    (sourceConfig.status = some .INI ∧ handleSourceContract config client env sourceConfig feedId =
        validateSource config client env sourceConfig feedId) ∨
      (sourceConfig.status = some .OK ∧ handleSourceContract config client env sourceConfig feedId =
        pollSource config client env sourceConfig feedId) ∨
      ((sourceConfig.status = none ∨ sourceConfig.status = some .PARTIAL ∨ sourceConfig.status = some .FAIL) ∧
        ∃ error, handleSourceContract config client env sourceConfig feedId = pure (.error error)) := by
  unfold handleSourceContract
  match status : sourceConfig.status with
  | some .INI => exact Or.inl ⟨rfl, rfl⟩
  | some .OK => exact Or.inr (Or.inl ⟨rfl, rfl⟩)
  | some .PARTIAL => exact Or.inr (Or.inr ⟨Or.inr (Or.inl rfl), _, rfl⟩)
  | some .FAIL => exact Or.inr (Or.inr ⟨Or.inr (Or.inr rfl), _, rfl⟩)
  | none => exact Or.inr (Or.inr ⟨Or.inl rfl, _, rfl⟩)

theorem handleSourceContract_own
    (isChecked : sourceConfig.status = some .INI → Checked config env sourceConfig → checked) :
    Traced.Spec (Updates checked sourceConfig) (Own checked client feedId sourceConfig)
      (handleSourceContract config client env sourceConfig feedId) := by
  have unsupported : ∀ {error : String}, Updates checked sourceConfig (.error error) := by
    intro error upd impossible
    cases impossible
  rcases handleSourceContract_cases config client env feedId sourceConfig with
    ⟨initial, same⟩ | ⟨ready, same⟩ | ⟨-, error, same⟩ <;> rw [same]
  · exact validateSource_own (isChecked initial) initial
  · exact (pollSource_own checked ready).mono (fun _ never upd updated => absurd updated (never upd)) fun _ own => own
  · exact .pure unsupported

theorem handleAndCast_own
    (isChecked : sourceConfig.status = some .INI → Checked config env sourceConfig → checked) :
    Traced.Spec (fun _ => True) (Own checked client feedId sourceConfig)
      (handleAndCast config client env feedId sourceConfig) := by
  refine .bind (handleSourceContract_own isChecked) fun handled updates => ?_
  cases handled with
  | error error => exact .pure True.intro
  | ok configUpd =>
    cases configUpd with
    | none => exact .pure True.intro
    | some upd =>
      exact .bind ((castSourceConfig_recasts _ (updates upd rfl) _ _).mono (fun _ value => value) fun _ recasts =>
        recasts.own) fun _ _ => .pure True.intro

theorem failInvalid_recasts (validInput : String) :
    Traced.Spec (fun _ => True) (Recasts checked feedId sourceConfig)
      (failInvalid config client env feedId sourceConfig validInput) := by
  refine .bind (castSourceConfig_recasts _ (Recast.refl checked sourceConfig).failed _ _) fun cast recast => ?_
  exact andThen_spec fun _ => .bind (castErrorSourceConfig_recasts recast _ _) fun _ _ => .pure True.intro

theorem reportLast_recasts {source : FeedConfigSource} (recast : Recast checked sourceConfig source) (keepTrying : Bool)
    (errorType : EErrorType) (prevError : String) :
    Traced.Spec (fun report => Recast checked sourceConfig report.1) (Recasts checked feedId sourceConfig)
      (reportLast config client env keepTrying errorType source feedId prevError) := by
  unfold reportLast
  split
  · exact .pure recast
  · exact castErrorSourceConfig_recasts recast _ _

theorem recastUnsupported_recasts :
    Traced.Spec (fun _ => True) (Recasts checked feedId sourceConfig)
      (recastUnsupported config client env feedId sourceConfig) := by
  refine .bind (castSourceConfig_recasts _ (Recast.retried sourceConfig _ _) _ _) fun cast recast => ?_
  exact .bind (reportLast_recasts recast _ _ _) fun _ _ => .pure True.intro

theorem recastFailed_recasts (error : String) :
    Traced.Spec (fun _ => True) (Recasts checked feedId sourceConfig)
      (recastFailed config client env feedId sourceConfig error) := by
  refine .bind (castSourceConfig_recasts _ (Recast.retried sourceConfig _ _) _ _) fun cast recast => ?_
  refine .bind (reportLast_recasts recast _ _ _) fun reported recast => andThen_spec fun _ => ?_
  split
  · exact .pure True.intro
  · exact .bind (castErrorSourceConfig_recasts recast _ _) fun _ _ => .pure True.intro

/-- The consumption gets as far as the validation of the source, and it resolves. -/
structure Validates (config : RelaydConfig) (client : Client) (env : Env) (feedId : String)
    (sourceConfig : FeedConfigSource) : Prop where
  input : inputError env feedId sourceConfig = none
  network : checkNetworkMatch client sourceConfig.network = true
  status : sourceConfig.status = some .INI
  checked : Checked config env sourceConfig

/-- **Everything a consumption emits is its own**: about its feed and contract, recasts keeping the
registrations, a new status only after a validation, reading only from status `OK`. -/
theorem handleSourceConfig_own (config : RelaydConfig) (client : Client) (env : Env) (feedId : String)
    (sourceConfig : FeedConfigSource) :
    Traced.Spec (fun _ => True) (Own (Validates config client env feedId sourceConfig) client feedId sourceConfig)
      (handleSourceConfig config client env feedId sourceConfig) := by
  unfold handleSourceConfig
  split
  · exact .pure True.intro
  · cases input : inputError env feedId sourceConfig with
    | some validInput => exact (failInvalid_recasts validInput).mono (fun _ value => value) fun _ recasts => recasts.own
    | none =>
      by_cases network : checkNetworkMatch client sourceConfig.network = true
      · simp only [network]
        refine .bind (handleAndCast_own fun initial checked => ⟨input, network, initial, checked⟩) fun upd _ => ?_
        cases upd with
        | ok _ => exact .pure True.intro
        | error error => exact (recastFailed_recasts error).mono (fun _ value => value) fun _ recasts => recasts.own
      · simp only [network]
        exact recastUnsupported_recasts.mono (fun _ value => value) fun _ recasts => recasts.own


/-! ## Validation comes first -/

/-- A consumption that validates its source says so. -/
theorem handleSourceConfig_validates (validates : Validates config client env feedId sourceConfig)
    (s : EthConnectService) :
    .validated feedId sourceConfig.contract ∈ (handleSourceConfig config client env feedId sourceConfig s).events := by
  obtain ⟨data, resolved⟩ := validates.checked
  have active : sourceConfig.status ≠ some .FAIL := by
    rw [validates.status]
    decide
  have handled : .validated feedId sourceConfig.contract ∈ (handleAndCast config client env feedId sourceConfig s).events := by
    simp only [handleAndCast, handleSourceContract, validates.status, Traced.bind_apply,
      (validateSource_checked client feedId resolved s).1, List.mem_append, List.mem_singleton, true_or]
  simp only [handleSourceConfig, active, ↓reduceIte, validates.input, validates.network, handleSupported,
    Traced.bind_apply]
  exact List.mem_append_left _ handled

/-- **A record gets status `OK` from a record that has it, or in a consumption that validates the contract.** -/
theorem validated_of_ok {topic : ETopic} {f : String} {upd : FeedConfigSource} {s : EthConnectService}
    (cast : .sourceCast topic f upd ∈ (handleSourceConfig config client env feedId sourceConfig s).events)
    (ok : upd.status = some .OK) :
    sourceConfig.status = some .OK ∨
      .validated feedId sourceConfig.contract ∈ (handleSourceConfig config client env feedId sourceConfig s).events := by
  obtain ⟨-, recast⟩ := (handleSourceConfig_own config client env feedId sourceConfig s).2 _ cast
  rcases recast.status with same | failed | ⟨validates, -⟩
  · left
    rw [← same, ok]
  · rw [ok] at failed
    cases failed
  · exact Or.inr (handleSourceConfig_validates validates s)

/-! ## Reading comes before registering -/

/-- Not an announcement of a new poller. -/
def Unregistering : Event → Prop
  | .pollingCast _ info => added info.change = none
  | _ => True

/-- The method announces a new poller only if it starts reading. -/
def ReadsFirst {α : Type} (feedId contract : String) (m : Method α) : Prop :=
  ∀ s, .reading feedId contract ∈ (m s).events ∨ ∀ e ∈ (m s).events, Unregistering e

theorem ReadsFirst.of_spec {α : Type} {contract : String} {m : Method α}
    (spec : Traced.Spec (fun _ => True) Unregistering m) : ReadsFirst feedId contract m := fun s => Or.inr (spec s).2

theorem ReadsFirst.bind {α β : Type} {contract : String} {m : Method α} {f : α → Method β}
    (first : ReadsFirst feedId contract m) (rest : ∀ a, ReadsFirst feedId contract (f a)) :
    ReadsFirst feedId contract (m >>= f) := by
  intro s
  simp only [Traced.bind_apply, List.mem_append]
  rcases first s with reads | quiet
  · exact Or.inl (Or.inl reads)
  · rcases rest (m s).value (m s).state with reads | quiet'
    · exact Or.inl (Or.inr reads)
    · right
      intro e member
      rcases member with member | member
      · exact quiet e member
      · exact quiet' e member

theorem ReadsFirst.reading {α β : Type} {contract : String} {m : Method α} (f : α → Method β)
    (reads : ∀ s, .reading feedId contract ∈ (m s).events) : ReadsFirst feedId contract (m >>= f) :=
  fun s => Or.inl (List.mem_append_left _ (reads s))

theorem ReadsFirst.andThen {α β : Type} {contract : String} {result : Except String α}
    {next : α → Method (Except String β)} (rest : ∀ value, ReadsFirst feedId contract (next value)) :
    ReadsFirst feedId contract (andThen result next) := by
  cases result with
  | error error => exact .of_spec (.pure True.intro)
  | ok value => exact rest value

/-- The announcement of a poller that stops. -/
def Stops (e : Event) : Prop := ∃ sourceId info, e = .pollingCast sourceId info ∧ added info.change = none

theorem Stops.unregistering {e : Event} (stops : Stops e) : Unregistering e := by
  obtain ⟨sourceId, info, rfl, removal⟩ := stops
  exact removal

theorem castSourcePolling_stops {changeType : ESourcePollingChange} (removal : added changeType = none)
    (sourceId : String) (info : Option String) :
    Traced.Spec (fun _ => True) Stops (castSourcePolling client env sourceId changeType info) := by
  intro s
  refine ⟨True.intro, ?_⟩
  intro e member
  rcases castSourcePolling_cases client env sourceId changeType info s with ⟨error, failed⟩ | written
  · rw [failed] at member
    cases member
  · rw [written] at member
    exact ⟨_, _, List.mem_singleton.1 member, removal⟩

variable (client env) in
theorem stopSourceEventListener_stops (sourceId : String) (reasonMsg : Option String) :
    Traced.Spec (fun _ => True) Stops (stopSourceEventListener client env sourceId .REMOVE_LISTEN_EVENT reasonMsg) :=
  .bind (.update _) fun _ _ => castSourcePolling_stops rfl sourceId reasonMsg

variable (client env) in
theorem stopSourcePolling_stops (sourceId : String) (reasonMsg : Option String) :
    Traced.Spec (fun _ => True) Stops (stopSourcePolling client env sourceId .REMOVE_PERIODIC reasonMsg) := by
  refine .bind .read fun service _ => ?_
  cases service.sourcePolling.get sourceId with
  | none => exact .pure True.intro
  | some polled => exact .bind (.update _) fun _ _ => castSourcePolling_stops rfl sourceId reasonMsg

theorem initiateSourceDataPolling_readsFirst :
    ReadsFirst feedId sourceConfig.contract (initiateSourceDataPolling config client env sourceConfig feedId) := by
  unfold initiateSourceDataPolling
  split
  · unfold initiatePeriodicPolling
    split
    · exact .of_spec (.pure True.intro)
    · refine .bind (.of_spec (initContract_emits _)) fun contract => .bind (.andThen fun decimals => ?_) fun _ =>
        .of_spec (.pure True.intro)
      exact .reading _ fun s => List.mem_cons_self
  · refine .bind (.of_spec listenedContract_emits) fun loaded => .andThen fun sourceContract => ?_
    refine .bind (.andThen fun decimals => .reading _ fun s => List.mem_cons_self) fun result => ?_
    cases result with
    | ok _ => exact .of_spec (.pure True.intro)
    | error error =>
      refine .bind (.of_spec ?_) fun _ => .of_spec (.pure True.intro)
      exact (stopSourceEventListener_stops client env _ _).mono (fun _ value => value) fun _ stops => stops.unregistering
  · exact .of_spec (.pure True.intro)

theorem Recasts.unregistering {checked : Prop} {e : Event} (recasts : Recasts checked feedId sourceConfig e) :
    Unregistering e := by
  obtain ⟨topic, upd, rfl, -⟩ := recasts
  exact True.intro

theorem ReadsFirst.of_recasts {α : Type} {R : α → Prop} {source : FeedConfigSource} {contract : String} {m : Method α}
    (spec : Traced.Spec R (Recasts True feedId source) m) : ReadsFirst feedId contract m :=
  .of_spec (spec.mono (fun _ _ => True.intro) fun _ recasts => recasts.unregistering)

theorem pollSource_readsFirst :
    ReadsFirst feedId sourceConfig.contract (pollSource config client env sourceConfig feedId) := by
  refine .andThen fun toPoll => ?_
  cases toPoll with
  | none => exact .of_spec (.pure True.intro)
  | some poll =>
    refine .bind initiateSourceDataPolling_readsFirst fun pollingInitResult => ?_
    cases pollingInitResult with
    | ok _ => exact .of_spec (.pure True.intro)
    | error error =>
      exact .bind (.of_recasts (castErrorSourceConfig_recasts (Recast.refl True sourceConfig) _ _)) fun _ =>
        .of_spec (.pure True.intro)

theorem validateSource_unregistering : Traced.Spec (fun _ => True) Unregistering
    (validateSource config client env sourceConfig feedId) :=
  .bind (andThen_spec fun _ => .bind (.emit True.intro) fun _ _ => .pure True.intro) fun _ _ => .pure True.intro

theorem handleAndCast_readsFirst :
    ReadsFirst feedId sourceConfig.contract (handleAndCast config client env feedId sourceConfig) := by
  refine .bind ?_ fun handled => .andThen fun configUpd => ?_
  · unfold handleSourceContract
    split
    · exact .of_spec validateSource_unregistering
    · exact pollSource_readsFirst
    · exact .of_spec (.pure True.intro)
  · cases configUpd with
    | none => exact .of_spec (.pure True.intro)
    | some upd =>
      exact .bind (.of_recasts (castSourceConfig_recasts _ (Recast.refl True upd) _ _)) fun _ => .of_spec (.pure True.intro)

/-- **An instance registers as a poller only in a consumption in which it starts reading the source's data.** -/
theorem handleSourceConfig_readsFirst (config : RelaydConfig) (client : Client) (env : Env) (feedId : String)
    (sourceConfig : FeedConfigSource) :
    ReadsFirst feedId sourceConfig.contract (handleSourceConfig config client env feedId sourceConfig) := by
  unfold handleSourceConfig
  split
  · exact .of_spec (.pure True.intro)
  · split
    · exact .of_recasts (failInvalid_recasts _)
    · split
      · refine .bind handleAndCast_readsFirst fun upd => ?_
        cases upd with
        | ok _ => exact .of_spec (.pure True.intro)
        | error error => exact .of_recasts (recastFailed_recasts error)
      · exact .of_recasts recastUnsupported_recasts

end

end Relayd.EthClient
