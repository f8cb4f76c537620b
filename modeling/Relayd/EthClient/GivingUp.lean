import Relayd.EthClient.Recasts

/-!
# Giving a source up

A failed attempt at a source puts its record in status `FAIL` when the attempts reach
their maximum. What counts as an attempt is every note of the failure in the history,
also one that is older than a note of another type, although `countIssueInLastRow` is
said to count the last row of them.
-/

namespace Relayd.EthClient
set_option autoImplicit false
open Relayd.Common Sys

/-- A note of the type. -/
def isOf (reason : ESourceCastReason) (issue : ProcessingIssue) : Bool := issue.type = reason

section
variable (config : RelaydConfig) (client : Client) (env : Env) (feedId : String) (sourceConfig : FeedConfigSource)
  (s : EthConnectService)

/-- The consumption is a failed attempt: the maximum of such attempts, and how they are noted. -/
inductive FailedAttempt : Nat → ESourceCastReason → Prop
  | handling (error : String) (matching : checkNetworkMatch client sourceConfig.network = true)
    (failed : (handleAndCast config client env feedId sourceConfig s).value = .error error) :
    FailedAttempt config.maxRecastSourceHandlingFail .HANDLING_FAILED
  | network (stray : checkNetworkMatch client sourceConfig.network = false) :
    FailedAttempt config.maxRecastNetworkSourceNotMatching .FAILURE_NETWORK_NOT_MATCHING

variable {config client env feedId sourceConfig s}

/-- An attempt that is not the last one keeps the status. -/
theorem retried_status (active : sourceConfig.status ≠ some .FAIL) (maxRecast : Nat) (reason : ESourceCastReason) :
    (retried maxRecast reason sourceConfig).status = some .FAIL ↔
      maxRecast ≤ 1 + (notes sourceConfig).countP (isOf reason) := by
  have counted : countIssueInLastRow sourceConfig reason = (notes sourceConfig).countP (isOf reason) :=
    count_eq_countP sourceConfig reason
  rw [retried, keepTrying, counted]
  split
  case isTrue trying =>
    have trying := of_decide_eq_true trying
    simp only [active, false_iff]
    omega
  case isFalse tired =>
    simp only [decide_eq_true_eq] at tired
    simp only [true_iff]
    omega

section
variable (config client feedId sourceConfig) (maxRecast : Nat) (reason : ESourceCastReason)

/-- Of the records written on `SOURCE_CONFIG`, only the one that answers a failed attempt. -/
def Retries : Event → Prop
  | .sourceCast .SOURCE_CONFIG f upd =>
    f = feedId ∧ ∃ info, upd = issueSourceProcessingNote config client.serviceId (retried maxRecast reason sourceConfig)
      reason info
  | _ => True

variable {config client feedId sourceConfig maxRecast reason}

theorem NotRecast.retries {e : Event} (other : NotRecast e) : Retries config client feedId sourceConfig maxRecast reason e := by
  cases e with
  | sourceCast topic f upd =>
    cases topic with
    | SOURCE_CONFIG => exact absurd rfl other
    | _ => exact True.intro
  | _ => exact True.intro

theorem notRecast_of_nil {events : List Event} (nothing : recasts events = []) : ∀ e ∈ events, NotRecast e := by
  intro e member
  cases e with
  | sourceCast topic f upd =>
    rintro rfl
    have recast : (f, upd) ∈ recasts events := mem_recasts.2 member
    rw [nothing] at recast
    cases recast
  | _ => exact True.intro

theorem castSourceConfig_retries (info : Option String) :
    Traced.Spec (fun _ => True) (Retries config client feedId sourceConfig maxRecast reason)
      (castSourceConfig config client env .SOURCE_CONFIG feedId (retried maxRecast reason sourceConfig) reason info) := by
  intro s
  refine ⟨True.intro, ?_⟩
  rcases castSourceConfig_cases config client env .SOURCE_CONFIG feedId (retried maxRecast reason sourceConfig) reason info s
    with ⟨error, failed⟩ | written
  · rw [failed]
    exact fun e member => absurd member List.not_mem_nil
  · rw [written]
    intro e member
    rw [List.mem_singleton.1 member]
    exact ⟨rfl, info, rfl⟩

theorem reportLast_retries (keepTrying : Bool) (errorType : EErrorType) (source : FeedConfigSource) (prevError : String) :
    Traced.Spec (fun _ => True) (Retries config client feedId sourceConfig maxRecast reason)
      (reportLast config client env keepTrying errorType source feedId prevError) :=
  (reportLast_notRecast config client env feedId keepTrying errorType source prevError).mono (fun _ _ => True.intro)
    fun _ => NotRecast.retries

end

theorem recastUnsupported_retries :
    Traced.Spec (fun _ => True)
      (Retries config client feedId sourceConfig config.maxRecastNetworkSourceNotMatching .FAILURE_NETWORK_NOT_MATCHING)
      (recastUnsupported config client env feedId sourceConfig) :=
  .bind (castSourceConfig_retries _) fun _ _ => .bind (reportLast_retries _ _ _ _) fun _ _ => .pure True.intro

theorem recastFailed_retries (error : String) :
    Traced.Spec (fun _ => True)
      (Retries config client feedId sourceConfig config.maxRecastSourceHandlingFail .HANDLING_FAILED)
      (recastFailed config client env feedId sourceConfig error) := by
  refine .bind (castSourceConfig_retries _) fun ⟨source, castResult⟩ _ => ?_
  refine .bind (reportLast_retries _ _ _ _) fun ⟨source, reported⟩ _ => ?_
  refine andThen_spec fun _ => ?_
  cases castResult with
  | ok _ => exact .pure True.intro
  | error error =>
    exact .bind ((castErrorSourceConfig_notRecast config client env feedId _ _ _).mono (fun _ _ => True.intro)
      fun _ => NotRecast.retries) fun _ _ => .pure True.intro

variable {maxRecast : Nat} {reason : ESourceCastReason}

section
variable (attempt : FailedAttempt config client env feedId sourceConfig s maxRecast reason)
  (active : sourceConfig.status ≠ some .FAIL) (valid : inputError env feedId sourceConfig = none)
include attempt active valid

/-- A failed attempt writes no source update but the record with one more note. -/
theorem FailedAttempt.retries :
    ∀ e ∈ (handleSourceConfig config client env feedId sourceConfig s).events,
      Retries config client feedId sourceConfig maxRecast reason e := by
  cases attempt with
  | handling error matching failed =>
    simp only [handleSourceConfig, active, ↓reduceIte, valid, matching, failed, handleSupported, Traced.bind_apply]
    intro e member
    rcases List.mem_append.1 member with early | late
    · rcases recasts_handleAndCast config client env feedId sourceConfig s with
        ⟨-, nothing⟩ | ⟨-, ok, -⟩ | ⟨upd, info, -, ok, -⟩
      · exact (notRecast_of_nil nothing e early).retries
      · rw [failed] at ok
        cases ok
      · rw [failed] at ok
        cases ok
    · exact (recastFailed_retries error _).2 e late
  | network stray =>
    simp only [handleSourceConfig, active, ↓reduceIte, valid, stray, Bool.false_eq_true]
    exact (recastUnsupported_retries s).2

/-- **A failed attempt recasts the record with one more note**, when casts that carry the note go through. -/
theorem FailedAttempt.recasts (casts : env.CastsFor reason) :
    ∃ info, EthClient.recasts (handleSourceConfig config client env feedId sourceConfig s).events =
      [(feedId, issueSourceProcessingNote config client.serviceId (retried maxRecast reason sourceConfig) reason info)] := by
  cases attempt with
  | handling error matching failed =>
    simp only [handleSourceConfig, active, ↓reduceIte, valid, matching, failed, handleSupported, Traced.bind_apply,
      recasts_append]
    obtain ⟨info, written⟩ := recasts_failed config client feedId sourceConfig casts error
      (handleAndCast config client env feedId sourceConfig s).state
    rcases recasts_handleAndCast config client env feedId sourceConfig s with
      ⟨-, nothing⟩ | ⟨-, ok, -⟩ | ⟨upd, info, -, ok, -⟩
    · exact ⟨info, by rw [nothing, written, List.nil_append]⟩
    · rw [failed] at ok
      cases ok
    · rw [failed] at ok
      cases ok
  | network stray =>
    simp only [handleSourceConfig, active, ↓reduceIte, valid, stray, Bool.false_eq_true]
    exact recasts_unsupported config client feedId sourceConfig casts s

end

/-- **When a failed attempt gives the source up**: the record it writes goes by the last row of such attempts exactly
when the older ones do not make up for what the row lacks to the maximum. When its casts go through, it writes one. -/
theorem given_up_iff (attempt : FailedAttempt config client env feedId sourceConfig s maxRecast reason)
    (active : sourceConfig.status ≠ some .FAIL) (valid : inputError env feedId sourceConfig = none) :
    (∀ f upd, (f, upd) ∈ recasts (handleSourceConfig config client env feedId sourceConfig s).events →
        ((upd.status = some .FAIL ↔ maxRecast ≤ 1 + lastRow (isOf reason) (notes sourceConfig)) ↔
          (maxRecast ≤ 1 + (notes sourceConfig).countP (isOf reason) →
            maxRecast ≤ 1 + lastRow (isOf reason) (notes sourceConfig)))) ∧
      (env.CastsFor reason →
        ∃ upd, recasts (handleSourceConfig config client env feedId sourceConfig s).events = [(feedId, upd)]) := by
  constructor
  · intro f upd recast
    obtain ⟨-, info, rfl⟩ := attempt.retries active valid _ (mem_recasts.1 recast)
    have row := countP_eq_lastRow_add (isOf reason) (notes sourceConfig)
    rw [note_status, retried_status active]
    omega
  · intro casts
    obtain ⟨info, written⟩ := attempt.recasts active valid casts
    exact ⟨_, written⟩

end

/-! ## A source that was partially valid -/

/-- A source with notes of these types, newest first. -/
def notedSource (reasons : List ESourceCastReason) : FeedConfigSource where
  status := some .PARTIAL
  contract := proxyAddress
  issue := some (reasons.map fun reason => { issuer := "relayd.eth_homestead_1650000000000", type := reason })

/-- Nothing handles a source in status `PARTIAL`. -/
theorem notedSource_fails (reasons : List ESourceCastReason) :
    FailedAttempt RelaydConfig.prod mainClient silentEnv "feed-btc" (notedSource reasons) {} 2 .HANDLING_FAILED :=
  .handling _ rfl rfl

/-- The second failure in a row is the last one. -/
theorem second_failure_gives_up :
    ∃ upd, recasts (handleSourceConfig RelaydConfig.prod mainClient silentEnv "feed-btc" (notedSource [.HANDLING_FAILED])
        {}).events = [("feed-btc", upd)] ∧ upd.status = some .FAIL := by
  obtain ⟨rows, one⟩ := given_up_iff (notedSource_fails [.HANDLING_FAILED]) (by decide) rfl
  obtain ⟨upd, written⟩ := one (silentEnv_castsFor _)
  have row := (rows "feed-btc" upd (by rw [written]; exact List.mem_singleton_self _)).2 (by decide)
  exact ⟨upd, written, row.2 (by decide)⟩

/-- So is the first one after a validation, when there was another before it. -/
theorem separate_failures_give_up :
    ∃ upd, recasts (handleSourceConfig RelaydConfig.prod mainClient silentEnv "feed-btc"
          (notedSource [.HANDLING_SUCCESS, .HANDLING_VALIDATION_PARTIAL, .HANDLING_FAILED]) {}).events = [("feed-btc", upd)] ∧
      ¬ (upd.status = some .FAIL ↔
        2 ≤ 1 + lastRow (isOf .HANDLING_FAILED)
          (notes (notedSource [.HANDLING_SUCCESS, .HANDLING_VALIDATION_PARTIAL, .HANDLING_FAILED]))) :=
  ⟨_, rfl, by decide⟩

end Relayd.EthClient
