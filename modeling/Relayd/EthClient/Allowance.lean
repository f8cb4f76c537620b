import Mathlib.Data.List.Induction
import Relayd.EthClient.Review
import Relayd.EthClient.Service

/-!
# The allowance flags

Two gates look at the polls an instance is listed with: `checkIfDataPollingRequired`
before it starts a poll, and `reviewSourceHandling` when the poll is registered. The
first refuses what a flag does not allow, the second what it does allow. So the gates
disagree, and the flags are enforced on those sequences of registrations only in which
no `ADD` comes to the wrong case.
-/

namespace Relayd.EthClient
set_option autoImplicit false
open Relayd.Common Sys

/-- The error of an instance that polls the source already. -/
def alreadyPolls (client : Client) (source : FeedConfigSource) : String :=
  errorText ("Instance '" ++ client.serviceId ++ "' already polls the data of Source '" ++ source.contract ++ "'\n"
    ++ pollsJson (extractContractPollingStatus client source).handling)

theorem mem_or_otherType {polls : List EFeedSourcePoll} (polled : polls ≠ []) (type : EFeedSourcePoll) :
    type ∈ polls ∨ otherType type ∈ polls := by
  obtain ⟨poll, member⟩ := List.exists_mem_of_ne_nil polls polled
  cases poll <;> cases type <;> simp only [otherType, member, true_or, or_true]

/-! ## The two gates -/

section
variable (config : RelaydConfig) {client : Client} {source : FeedConfigSource} {type : EFeedSourcePoll}

/-- The gate in front of a poll: with no allowance it is closed to every instance that polls the source, and with the
first flag alone to the ones that poll it in this way. -/
theorem checkIfDataPollingRequired_error_iff (polled : source.poll = some type) :
    checkIfDataPollingRequired config client source = .error (alreadyPolls client source) ↔
      polledBy client.serviceId (source.handle.getD []) ≠ [] ∧
        (config.sourcePollingAllowMultipleBySameIssuer = false ∨
          type ∈ polledBy client.serviceId (source.handle.getD []) ∧
            config.sourcePollingAllowMultipleTypeBySameIssuer = false) := by
  have handling : (extractContractPollingStatus client source).handling =
      polledBy client.serviceId (source.handle.getD []) := rfl
  simp only [checkIfDataPollingRequired, handling, polled, Option.any_some, List.contains_iff_mem, Bool.not_eq_true,
    List.length_pos_iff]
  split
  case isTrue refused => simpa only [alreadyPolls, handling, true_iff] using refused
  case isFalse admitted =>
    simp only [admitted, iff_false]
    cases type <;> exact fun impossible => nomatch impossible

/-- The gate in front of a registration is closed to what is listed and allowed. -/
theorem review_error_iff {info : SourcePollingInfo} (adds : added info.change = some type)
    (actual : Option (List FeedSourceHandle)) (now : String) :
    (∃ error, reviewSourceHandling config actual info now = .error error) ↔
      type ∈ polledBy info.issuer (actual.getD []) ∧ config.sourcePollingAllowMultipleBySameIssuer = true ∨
        otherType type ∈ polledBy info.issuer (actual.getD []) ∧
          config.sourcePollingAllowMultipleTypeBySameIssuer = true := by
  rcases review_cases config actual info now with ⟨error, failed, own⟩ | ⟨handles, done, -, own⟩
  · simp only [failed, Except.error.injEq, exists_eq', true_iff]
    simp only [ownReview, adds] at own
    split at own
    case isTrue refuses => exact refuses
    case isFalse => cases own
  · simp only [done, reduceCtorEq, exists_false, false_iff]
    simp only [ownReview, adds] at own
    split at own
    case isTrue => cases own
    case isFalse admits => exact admits

/-- The polls of an instance for which the two gates agree on one more. -/
def GatesAgree (polls : List EFeedSourcePoll) (type : EFeedSourcePoll) : Prop :=
  polls = [] ∨
    config.sourcePollingAllowMultipleBySameIssuer = true ∧ config.sourcePollingAllowMultipleTypeBySameIssuer = false ∨
    config.sourcePollingAllowMultipleBySameIssuer = false ∧ config.sourcePollingAllowMultipleTypeBySameIssuer = true ∧
      otherType type ∈ polls

/-- **The gates agree in these cases only**: the instance is not listed, or the first flag alone is set, or the second
alone and the instance is listed with the other type. -/
theorem gates_agree_iff (polled : source.poll = some type) {info : SourcePollingInfo}
    (ofInstance : info.issuer = client.serviceId) (adds : added info.change = some type) (now : String) :
    (checkIfDataPollingRequired config client source = .error (alreadyPolls client source) ↔
        ∃ error, reviewSourceHandling config source.handle info now = .error error) ↔
      GatesAgree config (polledBy client.serviceId (source.handle.getD [])) type := by
  rw [checkIfDataPollingRequired_error_iff config polled, review_error_iff config adds, ofInstance, GatesAgree]
  by_cases listed : polledBy client.serviceId (source.handle.getD []) = []
  · simp only [listed, ne_eq, not_true_eq_false, false_and, List.not_mem_nil, or_self, true_or]
  · have either := mem_or_otherType listed type
    cases config.sourcePollingAllowMultipleBySameIssuer <;> cases config.sourcePollingAllowMultipleTypeBySameIssuer <;>
      simp [listed, either]

/-- A poll that is started and then not registered: both flags are set, and the instance is listed. -/
theorem started_unregistered_iff (polled : source.poll = some type) {info : SourcePollingInfo}
    (ofInstance : info.issuer = client.serviceId) (adds : added info.change = some type) (now : String) :
    checkIfDataPollingRequired config client source ≠ .error (alreadyPolls client source) ∧
        (∃ error, reviewSourceHandling config source.handle info now = .error error) ↔
      polledBy client.serviceId (source.handle.getD []) ≠ [] ∧ config.sourcePollingAllowMultipleBySameIssuer = true ∧
        config.sourcePollingAllowMultipleTypeBySameIssuer = true := by
  rw [ne_eq, checkIfDataPollingRequired_error_iff config polled, review_error_iff config adds, ofInstance]
  by_cases listed : polledBy client.serviceId (source.handle.getD []) = []
  · simp only [listed, ne_eq, not_true_eq_false, false_and, List.not_mem_nil, or_self, and_false]
  · have either := mem_or_otherType listed type
    cases config.sourcePollingAllowMultipleBySameIssuer <;> cases config.sourcePollingAllowMultipleTypeBySameIssuer <;>
      simp [listed, either]

end

/-- A source that the instance is registered on as a listener. -/
def listenedSource : FeedConfigSource where
  contract := proxyAddress
  handle := some [{ handler := "eth-1", type := .EVENT, time := "2022-04-15T12:00:00.000Z" }]

/-- The registration of one more listener of the instance. -/
def secondListener : SourcePollingInfo where
  source := proxyAddress
  issuer := "eth-1"
  change := .ADD_LISTEN_EVENT

/-- With the first flag alone, the second listener passes neither gate. -/
theorem second_listener_refused :
    checkIfDataPollingRequired { sourcePollingAllowMultipleBySameIssuer := true } ⟨"eth-1", "homestead"⟩ listenedSource =
        .error (alreadyPolls ⟨"eth-1", "homestead"⟩ listenedSource) ↔
      ∃ error, reviewSourceHandling { sourcePollingAllowMultipleBySameIssuer := true } listenedSource.handle secondListener
        "2022-04-15T12:01:00.000Z" = .error error :=
  (gates_agree_iff { sourcePollingAllowMultipleBySameIssuer := true } rfl rfl rfl "2022-04-15T12:01:00.000Z").2
    (Or.inr (Or.inl ⟨rfl, rfl⟩))

/-- In production the instance does not start it, and the review would let it pass. -/
theorem second_listener_registered :
    ¬ (checkIfDataPollingRequired RelaydConfig.prod ⟨"eth-1", "homestead"⟩ listenedSource =
        .error (alreadyPolls ⟨"eth-1", "homestead"⟩ listenedSource) ↔
      ∃ error, reviewSourceHandling RelaydConfig.prod listenedSource.handle secondListener "2022-04-15T12:01:00.000Z" =
        .error error) := by
  intro agree
  obtain ⟨error, failed⟩ := agree.1 rfl
  cases failed

/-! ## A sequence of registrations -/

/-- The flags are enforced on a list that is reviewed record by record. -/
structure FlagsEnforced (config : RelaydConfig) (records : List PollingRecord) : Prop where
  /-- No two registrations of one handler with one type -/
  noSecond : config.sourcePollingAllowMultipleBySameIssuer = false → ∀ before after, records = before ++ after →
    (entries (reviewAll config before)).Nodup
  /-- No two registrations of one handler with different types -/
  noOtherType : config.sourcePollingAllowMultipleTypeBySameIssuer = false → ∀ before after, records = before ++ after →
    ∀ issuer, ¬ ((issuer, .EVENT) ∈ entries (reviewAll config before) ∧
      (issuer, .TIMEPERIOD) ∈ entries (reviewAll config before))
  /-- No `ADD` is rejected when everything is allowed -/
  admitted : config.sourcePollingAllowMultipleBySameIssuer = true →
    config.sourcePollingAllowMultipleTypeBySameIssuer = true → ∀ before record after, records = before ++ record :: after →
      (added record.1.change).isSome = true → accepts config (reviewAll config before) record = true

/-- An `ADD` that the flags are enforced on: its issuer is not listed, or the one flag that is set makes the review
refuse it. -/
def Enforceable (config : RelaydConfig) (polls : List EFeedSourcePoll) (type : EFeedSourcePoll) : Prop :=
  polls = [] ∨
    config.sourcePollingAllowMultipleBySameIssuer = true ∧ config.sourcePollingAllowMultipleTypeBySameIssuer = false ∧
      type ∈ polls ∨
    config.sourcePollingAllowMultipleBySameIssuer = false ∧ config.sourcePollingAllowMultipleTypeBySameIssuer = true ∧
      otherType type ∈ polls

/-- No handler is listed twice. -/
def OnePerHandler (handle : Option (List FeedSourceHandle)) : Prop :=
  ∀ issuer, (polledBy issuer (handle.getD [])).length ≤ 1

section
variable {config : RelaydConfig}

theorem OnePerHandler.none : OnePerHandler none := fun _ => Nat.zero_le 1

theorem OnePerHandler.nodup {handle : Option (List FeedSourceHandle)} (one : OnePerHandler handle) :
    (entries handle).Nodup := by
  rw [List.nodup_iff_count_le_one]
  intro e
  rw [entries, count_entries]
  exact Nat.le_trans List.count_le_length (one e.1)

theorem OnePerHandler.one_type {handle : Option (List FeedSourceHandle)} (one : OnePerHandler handle) (issuer : String) :
    ¬ ((issuer, .EVENT) ∈ entries handle ∧ (issuer, .TIMEPERIOD) ∈ entries handle) := by
  rintro ⟨event, timePeriod⟩
  have event := mem_polledBy.2 event
  have timePeriod := mem_polledBy.2 timePeriod
  obtain ⟨poll, polls⟩ : ∃ poll, polledBy issuer (handle.getD []) = [poll] :=
    List.length_eq_one_iff.1 (Nat.le_antisymm (one issuer) (List.length_pos_of_mem event))
  rw [polls, List.mem_singleton] at event timePeriod
  rw [← event] at timePeriod
  cases timePeriod

/-- **A review keeps one registration per handler**, as long as its `ADD` is enforceable. -/
theorem OnePerHandler.step {handle : Option (List FeedSourceHandle)} (one : OnePerHandler handle) {record : PollingRecord}
    (enforceable : ∀ type, added record.1.change = some type →
      Enforceable config (polledBy record.1.issuer (handle.getD [])) type) :
    OnePerHandler (reviewStep config handle record) := by
  intro issuer
  by_cases own : issuer = record.1.issuer
  · subst own
    have held := one record.1.issuer
    rw [(reviewStep_local config).own handle record, ownNext]
    cases adds : added record.1.change with
    | some type =>
      have enforced := enforceable type adds
      simp only [ownReview, adds]
      split
      case isTrue => exact held
      case isFalse admits =>
        have unlisted : polledBy record.1.issuer (handle.getD []) = [] := by
          rcases enforced with unlisted | ⟨flag, -, listed⟩ | ⟨-, flag, listed⟩
          · exact unlisted
          · exact absurd (Or.inl ⟨listed, flag⟩) admits
          · exact absurd (Or.inr ⟨listed, flag⟩) admits
        rw [unlisted]
        exact Nat.le_refl 1
    | none =>
      cases about : pollingType record.1.change with
      | none => simpa only [ownReview, adds, about, Option.getD_none] using held
      | some type =>
        simp only [ownReview, adds, about]
        split
        · exact Nat.le_trans (List.length_filter_le _ _) held
        · exact held
  · rw [(reviewStep_local config).other handle record issuer own]
    exact one issuer

/-- Every `ADD` of the sequence is enforceable on the list it comes to. -/
def AllEnforceable (config : RelaydConfig) (records : List PollingRecord) : Prop :=
  ∀ before record after, records = before ++ record :: after → ∀ type, added record.1.change = some type →
    Enforceable config (polledBy record.1.issuer ((reviewAll config before).getD [])) type

theorem reviewAll_append (before : List PollingRecord) (record : PollingRecord) :
    reviewAll config (before ++ [record]) = reviewStep config (reviewAll config before) record := by
  rw [reviewAll, List.foldl_append]
  rfl

/-- The run lemma: one registration per handler, after every part of the sequence. -/
theorem AllEnforceable.one {records : List PollingRecord} (enforceable : AllEnforceable config records)
    (before after : List PollingRecord) (split : records = before ++ after) :
    OnePerHandler (reviewAll config before) := by
  induction before using List.reverseRecOn generalizing after with
  | nil => exact OnePerHandler.none
  | append_singleton before record ih =>
    have split' : records = before ++ record :: after := by rw [split, List.append_assoc, List.singleton_append]
    rw [reviewAll_append]
    exact (ih (record :: after) split').step (enforceable before record after split')

/-- An `ADD` is accepted unless its issuer is listed with a type whose flag is set. -/
theorem accepts_add_iff {handle : Option (List FeedSourceHandle)} {record : PollingRecord} {type : EFeedSourcePoll}
    (adds : added record.1.change = some type) :
    accepts config handle record = true ↔
      ¬ (type ∈ polledBy record.1.issuer (handle.getD []) ∧ config.sourcePollingAllowMultipleBySameIssuer = true ∨
        otherType type ∈ polledBy record.1.issuer (handle.getD []) ∧
          config.sourcePollingAllowMultipleTypeBySameIssuer = true) := by
  rw [accepts_own, ownReview, adds]
  dsimp only
  split
  case isTrue refuses => simp only [Option.isSome_none, Bool.false_eq_true, refuses, not_true_eq_false]
  case isFalse admits => simp only [Option.isSome_some, admits, not_false_eq_true]

/-- The polls of an issuer after an `ADD` that is accepted. -/
theorem reviewAll_add {before : List PollingRecord} {record : PollingRecord} {type : EFeedSourcePoll}
    (adds : added record.1.change = some type)
    (accepted : accepts config (reviewAll config before) record = true) :
    polledBy record.1.issuer ((reviewAll config (before ++ [record])).getD []) =
      type :: polledBy record.1.issuer ((reviewAll config before).getD []) := by
  have admits := (accepts_add_iff adds).1 accepted
  rw [reviewAll_append, (reviewStep_local config).own, ownNext]
  simp only [ownReview, adds, if_neg admits, Option.getD_some]

/-- What is not enforceable leaves its issuer with two registrations, or is refused although everything is allowed. -/
theorem FlagsEnforced.enforceable {records : List PollingRecord} (enforced : FlagsEnforced config records) :
    AllEnforceable config records := by
  intro before record after split type adds
  by_contra wrong
  obtain ⟨listed, wrong⟩ := not_or.1 wrong
  obtain ⟨notFirst, notSecond⟩ := not_or.1 wrong
  have split' : records = (before ++ [record]) ++ after := by rw [split, List.append_assoc, List.singleton_append]
  have accepted : accepts config (reviewAll config before) record = true := by
    by_contra refused
    have reason := not_not.1 fun admits => refused ((accepts_add_iff adds).2 admits)
    cases first : config.sourcePollingAllowMultipleBySameIssuer <;>
      cases second : config.sourcePollingAllowMultipleTypeBySameIssuer <;>
      simp only [first, second, Bool.false_eq_true, and_false, or_false, false_or, and_true] at reason
    · exact notSecond ⟨first, second, reason⟩
    · exact notFirst ⟨first, second, reason⟩
    · exact refused (enforced.admitted first second before record after split (by rw [adds]; rfl))
  have admits := (accepts_add_iff adds).1 accepted
  have polls := reviewAll_add adds accepted
  rcases mem_or_otherType listed type with same | other
  · have flag := Bool.eq_false_iff.2 fun set => admits (Or.inl ⟨same, set⟩)
    have once := List.nodup_iff_count_le_one.1 (enforced.noSecond flag _ after split') (record.1.issuer, type)
    rw [entries, count_entries, polls, List.count_cons_self] at once
    exact absurd (List.count_pos_iff.2 same) (Nat.not_lt.2 (Nat.le_of_succ_le_succ once))
  · have flag := Bool.eq_false_iff.2 fun set => admits (Or.inr ⟨other, set⟩)
    apply enforced.noOtherType flag _ after split' record.1.issuer
    rw [entries, ← mem_polledBy, ← mem_polledBy, polls]
    cases type with
    | EVENT => exact ⟨List.mem_cons_self, List.mem_cons_of_mem _ other⟩
    | TIMEPERIOD => exact ⟨List.mem_cons_of_mem _ other, List.mem_cons_self⟩

/-- With everything allowed, an enforceable `ADD` is accepted. -/
theorem Enforceable.accepted {handle : Option (List FeedSourceHandle)} {record : PollingRecord} {type : EFeedSourcePoll}
    (adds : added record.1.change = some type)
    (enforceable : Enforceable config (polledBy record.1.issuer (handle.getD [])) type)
    (first : config.sourcePollingAllowMultipleBySameIssuer = true)
    (second : config.sourcePollingAllowMultipleTypeBySameIssuer = true) : accepts config handle record = true := by
  rw [accepts_add_iff adds]
  rcases enforceable with unlisted | ⟨-, flag, -⟩ | ⟨flag, -⟩
  · simp only [unlisted, List.not_mem_nil, false_and, or_self, not_false_eq_true]
  · rw [second] at flag
    cases flag
  · rw [first] at flag
    cases flag

/-- **The flags are enforced exactly when every `ADD` is enforceable**: it comes to a list without its issuer, or to one
for which the only flag that is set makes the review refuse it. -/
theorem flags_enforced_iff (config : RelaydConfig) (records : List PollingRecord) :
    FlagsEnforced config records ↔ AllEnforceable config records := by
  constructor
  · exact FlagsEnforced.enforceable
  · intro enforceable
    refine ⟨?_, ?_, ?_⟩
    · intro _ before after split
      exact (enforceable.one before after split).nodup
    · intro _ before after split
      exact (enforceable.one before after split).one_type
    · intro first second before record after split adds
      obtain ⟨type, adds⟩ := Option.isSome_iff_exists.1 adds
      exact (enforceable before record after split type adds).accepted adds first second

end

/-- In production a second `ADD` of the same type is registered beside the first. -/
theorem second_registration :
    ¬ FlagsEnforced RelaydConfig.prod
      [(secondListener, "2022-04-15T12:00:00.000Z"), (secondListener, "2022-04-15T12:01:00.000Z")] := by
  intro enforced
  have once := enforced.noSecond rfl _ [] (List.append_nil _).symm
  revert once
  decide

end Relayd.EthClient
