import Relayd.EthClient.Recasts

/-!
# The retry loops

A record whose consumption fails is recast and consumed again, by the same
instance or another. The loop has no counter: an attempt counts the notes of its
failure in the history, which keeps no more than `sourceIssueMaxNumber` of them.
So a loop ends exactly when the attempts it allows fit in the history; else
every attempt looks like one of the first and the record is recast for ever.
-/

namespace Relayd.EthClient
set_option autoImplicit false
open Relayd.Common Sys

/-- The circumstances of a consumption: the instance, its state, and what it meets. -/
structure Consumption where
  client : Client
  env : Env
  service : EthConnectService

/-- The chain of recasts of a record: each one answers the consumption of the one before it. -/
def chain (config : RelaydConfig) (meets : Nat → Consumption) (feedId : String) (source : FeedConfigSource) :
    Nat → Option FeedConfigSource
  | 0 => some source
  | n + 1 => (chain config meets feedId source n).bind fun record =>
      (recasts (handleSourceConfig config (meets n).client (meets n).env feedId record (meets n).service).events).head?.map
        Prod.snd

section
variable (config : RelaydConfig) (meets : Nat → Consumption) (feedId : String) (source : FeedConfigSource)

/-- The chain is finite: it has between one and `maxRecast` records, and ends in status `FAIL`. -/
def Ends (maxRecast : Nat) : Prop :=
  ∃ n, 1 ≤ n ∧ n ≤ max 1 maxRecast ∧
    (∃ last, chain config meets feedId source n = some last ∧ last.status = some .FAIL) ∧
    chain config meets feedId source (n + 1) = none

/-- Every consumption of the chain meets an unsupported network, and its recast is written. -/
structure MeetsUnsupported : Prop where
  input : ∀ n record, chain config meets feedId source n = some record → record.status ≠ some .FAIL →
    inputError (meets n).env feedId record = none
  network : ∀ n record, chain config meets feedId source n = some record → record.status ≠ some .FAIL →
    checkNetworkMatch (meets n).client record.network = false
  casts : ∀ n, (meets n).env.CastsFor .FAILURE_NETWORK_NOT_MATCHING

/-- Every consumption of the chain meets a handling error, and its recast is written. -/
structure MeetsErrors : Prop where
  input : ∀ n record, chain config meets feedId source n = some record → record.status ≠ some .FAIL →
    inputError (meets n).env feedId record = none
  network : ∀ n record, chain config meets feedId source n = some record → record.status ≠ some .FAIL →
    checkNetworkMatch (meets n).client record.network = true
  error : ∀ n record, chain config meets feedId source n = some record → record.status ≠ some .FAIL →
    ∃ error, (handleAndCast config (meets n).client (meets n).env feedId record (meets n).service).value = .error error
  casts : ∀ n, (meets n).env.CastsFor .HANDLING_FAILED

/-- Every consumption of the chain is a failed attempt. -/
def Attempts (maxRecast : Nat) (reason : ESourceCastReason) : Prop :=
  ∀ n record, chain config meets feedId source n = some record → record.status ≠ some .FAIL →
    ∃ info, chain config meets feedId source (n + 1) =
      some (issueSourceProcessingNote config (meets n).client.serviceId (retried maxRecast reason record) reason info)

end

section
variable {config : RelaydConfig} {meets : Nat → Consumption} {feedId : String} {source : FeedConfigSource}

theorem chain_succ {n : Nat} {record upd : FeedConfigSource} (here : chain config meets feedId source n = some record)
    (written : recasts (handleSourceConfig config (meets n).client (meets n).env feedId record (meets n).service).events =
      [(feedId, upd)]) : chain config meets feedId source (n + 1) = some upd := by
  simp only [chain, here, Option.bind_some, written, List.head?_cons, Option.map_some]

theorem MeetsUnsupported.attempts (unsupported : MeetsUnsupported config meets feedId source) :
    Attempts config meets feedId source config.maxRecastNetworkSourceNotMatching .FAILURE_NETWORK_NOT_MATCHING := by
  intro n record here active
  obtain ⟨info, written⟩ := recasts_unsupported config (meets n).client feedId record (unsupported.casts n)
    (meets n).service
  refine ⟨info, chain_succ here ?_⟩
  simp only [handleSourceConfig, active, ↓reduceIte, unsupported.input n record here active,
    unsupported.network n record here active]
  exact written

theorem MeetsErrors.attempts (errors : MeetsErrors config meets feedId source) :
    Attempts config meets feedId source config.maxRecastSourceHandlingFail .HANDLING_FAILED := by
  intro n record here active
  obtain ⟨error, failed⟩ := errors.error n record here active
  obtain ⟨info, written⟩ := recasts_failed config (meets n).client feedId record (errors.casts n) error
    (handleAndCast config (meets n).client (meets n).env feedId record (meets n).service).state
  have nothing : recasts (handleAndCast config (meets n).client (meets n).env feedId record (meets n).service).events = [] := by
    rcases recasts_handleAndCast config (meets n).client (meets n).env feedId record (meets n).service
      with ⟨-, nothing⟩ | ⟨-, ok, -⟩ | ⟨upd, info, -, ok, -⟩
    · exact nothing
    · rw [failed] at ok
      cases ok
    · rw [failed] at ok
      cases ok
  refine ⟨info, chain_succ here ?_⟩
  simp only [handleSourceConfig, active, ↓reduceIte, errors.input n record here active, errors.network n record here active,
    handleSupported, Traced.bind_apply, failed, recasts_append, nothing, List.nil_append]
  exact written

/-- A record in status `FAIL` is not recast. -/
theorem chain_stops {n : Nat} {record : FeedConfigSource} (here : chain config meets feedId source n = some record)
    (failed : record.status = some .FAIL) : chain config meets feedId source (n + 1) = none := by
  simp only [chain, here, Option.bind_some, handleSourceConfig, failed, ↓reduceIte, Traced.pure_apply]
  rfl

/-- After `n` attempts the loop still runs: the history has the notes of the attempts that fit in it. -/
def Running (config : RelaydConfig) (meets : Nat → Consumption) (feedId : String) (source : FeedConfigSource)
    (reason : ESourceCastReason) (n : Nat) : Prop :=
  ∃ record, chain config meets feedId source n = some record ∧ record.status ≠ some .FAIL ∧
    Pushed config.sourceIssueMaxNumber (notes source) (fun issue => decide (issue.type = reason) = true) n (notes record)

/-- After `n` attempts the source is given up. -/
def GivenUp (config : RelaydConfig) (meets : Nat → Consumption) (feedId : String) (source : FeedConfigSource)
    (n : Nat) : Prop :=
  ∃ record, chain config meets feedId source n = some record ∧ record.status = some .FAIL

variable {maxRecast : Nat} {reason : ESourceCastReason}

theorem Running.start (active : source.status ≠ some .FAIL) : Running config meets feedId source reason 0 :=
  ⟨source, rfl, active, Pushed.zero⟩

/-- An attempt that may be followed by another leaves the loop running, one more note in the history. -/
theorem Running.attempt (attempts : Attempts config meets feedId source maxRecast reason) {n : Nat}
    (running : Running config meets feedId source reason n) :
    Running config meets feedId source reason (n + 1) ∨ GivenUp config meets feedId source (n + 1) := by
  obtain ⟨record, here, active, pushed⟩ := running
  obtain ⟨info, next⟩ := attempts n record here active
  by_cases trying : keepTrying maxRecast reason record = true
  · left
    refine ⟨_, next, ?_, ?_⟩
    · simp only [retried, trying, ↓reduceIte, note_status]
      exact active
    · simp only [retried, trying, ↓reduceIte]
      rw [notes_note config (meets n).client.serviceId record reason info]
      exact pushed.push (decide_eq_true rfl)
  · right
    refine ⟨_, next, ?_⟩
    simp only [retried, trying, note_status]
    rfl

/-- With more attempts allowed than the history holds notes, the loop goes on. -/
theorem Running.goes_on (attempts : Attempts config meets feedId source maxRecast reason)
    (many : 1 + fullLength config.sourceIssueMaxNumber (notes source) < maxRecast) {n : Nat}
    (running : Running config meets feedId source reason n) : Running config meets feedId source reason (n + 1) := by
  rcases running.attempt attempts with next | ⟨upd, next, failed⟩
  · exact next
  · obtain ⟨record, here, active, pushed⟩ := running
    obtain ⟨info, next'⟩ := attempts n record here active
    have trying : keepTrying maxRecast reason record = true := by
      have count := pushed.count_le fun issue => decide (issue.type = reason)
      simp only [keepTrying, count_eq_countP, decide_eq_true_eq]
      omega
    rw [next'] at next
    cases next
    simp only [retried, trying, ↓reduceIte, note_status] at failed
    exact absurd failed active

/-- Once the history shows enough attempts, the source is given up. -/
theorem Running.gives_up (attempts : Attempts config meets feedId source maxRecast reason) {n : Nat}
    (enough : maxRecast ≤ 1 + min n (fullLength config.sourceIssueMaxNumber (notes source)))
    (running : Running config meets feedId source reason n) : GivenUp config meets feedId source (n + 1) := by
  obtain ⟨record, here, active, pushed⟩ := running
  obtain ⟨info, next⟩ := attempts n record here active
  have tired : ¬ keepTrying maxRecast reason record = true := by
    have count := pushed.le_count
    simp only [keepTrying, count_eq_countP, decide_eq_true_eq]
    omega
  refine ⟨_, next, ?_⟩
  simp only [retried, tired, note_status]
  rfl

/-- The loop runs until the source is given up. -/
theorem running_or_givenUp (attempts : Attempts config meets feedId source maxRecast reason)
    (active : source.status ≠ some .FAIL) (n : Nat) :
    Running config meets feedId source reason n ∨ ∃ m, 1 ≤ m ∧ m ≤ n ∧ GivenUp config meets feedId source m := by
  induction n with
  | zero => exact Or.inl (Running.start active)
  | succ n ih =>
    rcases ih with running | ⟨m, first, bound, givenUp⟩
    · rcases running.attempt attempts with next | givenUp
      · exact Or.inl next
      · exact Or.inr ⟨n + 1, by omega, Nat.le_refl _, givenUp⟩
    · exact Or.inr ⟨m, first, by omega, givenUp⟩

/-- **The loop ends exactly when the attempts it allows fit in the history.** -/
theorem ends_iff (attempts : Attempts config meets feedId source maxRecast reason)
    (active : source.status ≠ some .FAIL) :
    Ends config meets feedId source maxRecast ↔
      maxRecast ≤ 1 + fullLength config.sourceIssueMaxNumber (notes source) := by
  constructor
  · rintro ⟨n, -, -, ⟨last, here, failed⟩, -⟩
    by_contra many
    have running : ∀ n, Running config meets feedId source reason n := by
      intro n
      induction n with
      | zero => exact Running.start active
      | succ n ih => exact ih.goes_on attempts (by omega)
    obtain ⟨record, here', active', -⟩ := running n
    rw [here] at here'
    cases here'
    exact active' failed
  · intro fits
    have givenUp : ∃ m, 1 ≤ m ∧ m ≤ max 1 maxRecast ∧ GivenUp config meets feedId source m := by
      rcases running_or_givenUp attempts active (maxRecast - 1) with running | ⟨m, first, bound, givenUp⟩
      · exact ⟨maxRecast - 1 + 1, by omega, by omega, running.gives_up attempts (by omega)⟩
      · exact ⟨m, first, by omega, givenUp⟩
    obtain ⟨m, first, bound, record, here, failed⟩ := givenUp
    exact ⟨m, first, bound, ⟨record, here, failed⟩, chain_stops here failed⟩

/-- **The retry loops**: with every consumption on an unsupported network, or with every consumption
in error, the chain of recasts ends within its maximum exactly when the maximum exceeds by at most one
the length at which the history stays. -/
theorem retry_loops_end_iff (config : RelaydConfig) (meets : Nat → Consumption) (feedId : String)
    (source : FeedConfigSource) (active : source.status ≠ some .FAIL) :
    (MeetsUnsupported config meets feedId source →
      (Ends config meets feedId source config.maxRecastNetworkSourceNotMatching ↔
        config.maxRecastNetworkSourceNotMatching ≤ 1 + fullLength config.sourceIssueMaxNumber (notes source))) ∧
    (MeetsErrors config meets feedId source →
      (Ends config meets feedId source config.maxRecastSourceHandlingFail ↔
        config.maxRecastSourceHandlingFail ≤ 1 + fullLength config.sourceIssueMaxNumber (notes source))) :=
  ⟨fun unsupported => ends_iff unsupported.attempts active, fun errors => ends_iff errors.attempts active⟩

end

/-! ## A loop without end -/

section
variable {config : RelaydConfig} {feedId : String}

theorem stray_unsupported (config : RelaydConfig) (feedId : String) (source : FeedConfigSource) :
    MeetsUnsupported config (fun _ => ⟨strayClient, silentEnv, {}⟩) feedId source where
  input := fun _ _ _ _ => rfl
  network := by
    intro n record _ _
    unfold checkNetworkMatch
    split <;> decide
  casts := fun _ => silentEnv_castsFor _

/-- A source that its validation found wanting: nothing handles its status. -/
def partialSource : FeedConfigSource := { status := some .PARTIAL, contract := proxyAddress }

theorem partial_chain {n : Nat} {record : FeedConfigSource}
    (here : chain config (fun _ => ⟨mainClient, silentEnv, {}⟩) feedId partialSource n = some record) :
    record.network = partialSource.network ∧ (record.status = some .PARTIAL ∨ record.status = some .FAIL) := by
  induction n generalizing record with
  | zero =>
    cases here
    exact ⟨rfl, Or.inl rfl⟩
  | succ n ih =>
    obtain ⟨previous, before, written⟩ := Option.bind_eq_some_iff.1 here
    obtain ⟨⟨f, upd⟩, first, rfl⟩ := Option.map_eq_some_iff.1 written
    have cast := mem_recasts.1 (List.mem_of_mem_head? first)
    obtain ⟨-, recast⟩ := (handleSourceConfig_own config mainClient silentEnv feedId previous {}).2 _ cast
    obtain ⟨network, status⟩ := ih before
    refine ⟨recast.network.trans network, ?_⟩
    rcases recast.status with same | failed | ⟨-, initial, -⟩
    · rw [same]
      exact status
    · exact Or.inr failed
    · rw [initial] at status
      rcases status with impossible | impossible <;> cases impossible

theorem partial_errors (config : RelaydConfig) (feedId : String) :
    MeetsErrors config (fun _ => ⟨mainClient, silentEnv, {}⟩) feedId partialSource where
  input := fun _ _ _ _ => rfl
  network := by
    intro n record here _
    rw [(partial_chain here).1]
    decide
  error := by
    intro n record here active
    have status : record.status = some .PARTIAL := (partial_chain here).2.resolve_right active
    simp only [handleAndCast, handleSourceContract, status, Traced.bind_apply, Traced.pure_apply, andThen]
    exact ⟨_, rfl⟩
  casts := fun _ => silentEnv_castsFor _

theorem prod_retry_loops_end :
    Ends RelaydConfig.prod (fun _ => ⟨strayClient, silentEnv, {}⟩) "feed-btc" { contract := proxyAddress }
        RelaydConfig.prod.maxRecastNetworkSourceNotMatching ∧
      Ends RelaydConfig.prod (fun _ => ⟨mainClient, silentEnv, {}⟩) "feed-btc" partialSource
        RelaydConfig.prod.maxRecastSourceHandlingFail :=
  ⟨((retry_loops_end_iff RelaydConfig.prod (fun _ => ⟨strayClient, silentEnv, {}⟩) "feed-btc"
      { contract := proxyAddress } (by decide)).1 (stray_unsupported _ _ _)).2 (by decide),
    ((retry_loops_end_iff RelaydConfig.prod (fun _ => ⟨mainClient, silentEnv, {}⟩) "feed-btc"
      partialSource (by decide)).2 (partial_errors _ _)).2 (by decide)⟩

/-- Settings within the bounds that keep no history, with the ten attempts of the network branch. -/
def forgetfulConfig : RelaydConfig := { maxRecastNetworkSourceNotMatching := 10, sourceIssueMaxNumber := 0 }

theorem forgetful_loop_never_ends :
    forgetfulConfig.InBounds ∧
      MeetsUnsupported forgetfulConfig (fun _ => ⟨strayClient, silentEnv, {}⟩) "feed-btc" { contract := proxyAddress } ∧
      ¬ Ends forgetfulConfig (fun _ => ⟨strayClient, silentEnv, {}⟩) "feed-btc" { contract := proxyAddress }
        forgetfulConfig.maxRecastNetworkSourceNotMatching := by
  refine ⟨by constructor <;> decide, stray_unsupported _ _ _, ?_⟩
  rw [ends_iff (stray_unsupported _ _ _).attempts (by decide)]
  decide

end

end Relayd.EthClient
