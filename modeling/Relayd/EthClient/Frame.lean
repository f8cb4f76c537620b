import Relayd.EthClient.Recasts

/-!
# What a consumption may change of its record

A consumption answers its record with at most one record on `SOURCE_CONFIG`. It
differs from the consumed one in the status, the data and the notes only: a
status is given by a validation or is `FAIL`, the data are those of a validation
that found them valid, and the notes are one or two new ones in front of those
that fit in the history.
-/

namespace Relayd.EthClient
set_option autoImplicit false
open Relayd.Common Sys

/-- The fields that the handling of a source may change, and how. -/
structure Handled (sourceConfig upd : FeedConfigSource) : Prop where
  rest : { upd with status := sourceConfig.status, issue := sourceConfig.issue, data := sourceConfig.data } = sourceConfig
  status : upd.status = sourceConfig.status ∨ upd.status = some .FAIL ∨
    (sourceConfig.status = some .INI ∧ (upd.status = some .OK ∨ upd.status = some .PARTIAL))
  data : upd.data ≠ sourceConfig.data → sourceConfig.status = some .INI ∧ upd.status = some .OK

/-- The history is that of the source behind `n` new notes. -/
def Noted (n : Nat) (sourceConfig upd : FeedConfigSource) : Prop :=
  ∃ (new : List ProcessingIssue) (kept : Nat), new.length = n ∧ notes upd = new ++ (notes sourceConfig).take kept

/-- **What a record written in response is**: a handled source with one or two new notes. -/
structure Processed (sourceConfig upd : FeedConfigSource) : Prop extends Handled sourceConfig upd where
  noted : Noted 1 sourceConfig upd ∨ Noted 2 sourceConfig upd

theorem Handled.refl (sourceConfig : FeedConfigSource) : Handled sourceConfig sourceConfig :=
  ⟨rfl, Or.inl rfl, fun changed => absurd rfl changed⟩

theorem Noted.refl (sourceConfig : FeedConfigSource) : Noted 0 sourceConfig sourceConfig :=
  ⟨[], (notes sourceConfig).length, rfl, by rw [List.take_length, List.nil_append]⟩

section
variable {sourceConfig upd : FeedConfigSource}

/-- Giving a source up leaves the rest of it. -/
theorem Handled.failed (handled : Handled sourceConfig upd) (same : upd.data = sourceConfig.data) :
    Handled sourceConfig { upd with status := some .FAIL } :=
  ⟨handled.rest, Or.inr (Or.inl rfl), fun changed => absurd same changed⟩

theorem Handled.noted (handled : Handled sourceConfig upd) (config : RelaydConfig) (serviceId : String)
    (reason : ESourceCastReason) (info : Option String) :
    Handled sourceConfig (issueSourceProcessingNote config serviceId upd reason info) :=
  ⟨handled.rest, handled.status, handled.data⟩

theorem Handled.retried (sourceConfig : FeedConfigSource) (maxRecast : Nat) (reason : ESourceCastReason) :
    Handled sourceConfig (retried maxRecast reason sourceConfig) := by
  unfold EthClient.retried
  split
  · exact Handled.refl sourceConfig
  · exact (Handled.refl sourceConfig).failed rfl

theorem Noted.retried (sourceConfig : FeedConfigSource) (maxRecast : Nat) (reason : ESourceCastReason) :
    Noted 0 sourceConfig (retried maxRecast reason sourceConfig) := by
  unfold EthClient.retried
  split <;> exact Noted.refl sourceConfig

variable (config : RelaydConfig) (serviceId : String) (reason : ESourceCastReason) (info : Option String)

/-- A note in front of those that are kept. -/
theorem notes_kept (source : FeedConfigSource) : ∃ (note : ProcessingIssue) (kept : Nat),
    notes (issueSourceProcessingNote config serviceId source reason info) = note :: (notes source).take kept :=
  ⟨_, _, notes_note config serviceId source reason info⟩

/-- A first note. -/
theorem Noted.first (noted : Noted 0 sourceConfig upd) :
    Noted 1 sourceConfig (issueSourceProcessingNote config serviceId upd reason info) := by
  obtain ⟨new, kept, none, history⟩ := noted
  obtain ⟨note, capacity, pushed⟩ := notes_kept config serviceId reason info upd
  rw [List.length_eq_zero_iff.1 none, List.nil_append] at history
  rw [history, List.take_take] at pushed
  exact ⟨[note], _, rfl, pushed⟩

/-- One more note; in a history of one note it takes the place of the first one. -/
theorem Noted.second (noted : Noted 1 sourceConfig upd) :
    Noted 1 sourceConfig (issueSourceProcessingNote config serviceId upd reason info) ∨
      Noted 2 sourceConfig (issueSourceProcessingNote config serviceId upd reason info) := by
  obtain ⟨new, kept, one, history⟩ := noted
  obtain ⟨first, rfl⟩ := List.length_eq_one_iff.1 one
  obtain ⟨note, capacity, pushed⟩ := notes_kept config serviceId reason info upd
  rw [history, List.singleton_append] at pushed
  cases capacity with
  | zero => exact Or.inl ⟨[note], 0, rfl, by rw [pushed, List.take_zero, List.take_zero]; rfl⟩
  | succ capacity =>
    rw [List.take_succ_cons, List.take_take] at pushed
    exact Or.inr ⟨[note, first], _, rfl, pushed⟩

/-- A handled source without new notes is cast with one. -/
theorem Handled.cast (handled : Handled sourceConfig upd) (noted : Noted 0 sourceConfig upd) :
    Processed sourceConfig (issueSourceProcessingNote config serviceId upd reason info) :=
  ⟨handled.noted config serviceId reason info, Or.inl (noted.first config serviceId reason info)⟩

end

section
variable {config : RelaydConfig} {client : Client} {env : Env} {feedId : String} {sourceConfig : FeedConfigSource}

/-- At most one record is written on `SOURCE_CONFIG`, and it satisfies `P`. -/
def WritesAtMost (feedId : String) (P : FeedConfigSource → Prop) (events : List Event) : Prop :=
  recasts events = [] ∨ ∃ upd, recasts events = [(feedId, upd)] ∧ P upd

/-- A cast writes the source with its new note, or nothing. -/
theorem castSourceConfig_writes {P : FeedConfigSource → Prop} (source : FeedConfigSource) (reason : ESourceCastReason)
    (info : Option String) (good : P (issueSourceProcessingNote config client.serviceId source reason info))
    (s : EthConnectService) : WritesAtMost feedId P
      (castSourceConfig config client env .SOURCE_CONFIG feedId source reason info s).events := by
  rcases castSourceConfig_cases config client env .SOURCE_CONFIG feedId source reason info s with ⟨error, failed⟩ | written
  · rw [failed]
    exact Or.inl rfl
  · rw [written]
    exact Or.inr ⟨_, rfl, good⟩

theorem WritesAtMost.append_quiet {P : FeedConfigSource → Prop} {events events' : List Event}
    (writes : WritesAtMost feedId P events) (quiet : recasts events' = []) :
    WritesAtMost feedId P (events ++ events') := by
  simpa only [WritesAtMost, recasts_append, quiet, List.append_nil] using writes

theorem WritesAtMost.quiet_append {P : FeedConfigSource → Prop} {events events' : List Event}
    (quiet : recasts events = []) (writes : WritesAtMost feedId P events') :
    WritesAtMost feedId P (events ++ events') := by
  simpa only [WritesAtMost, recasts_append, quiet, List.nil_append] using writes

theorem recasts_quiet {α : Type} {m : Method α} (quiet : Traced.Spec (fun _ => True) NotRecast m) (s : EthConnectService) :
    recasts (m s).events = [] := recasts_of_none (quiet s).2

/-- A source that failed its input validation is recast in status `FAIL`. -/
theorem failInvalid_writes (validInput : String) (s : EthConnectService) : WritesAtMost feedId (Processed sourceConfig)
    (failInvalid config client env feedId sourceConfig validInput s).events := by
  have handled : Handled sourceConfig { sourceConfig with status := some .FAIL } := (Handled.refl sourceConfig).failed rfl
  unfold failInvalid
  simp only [Traced.bind_apply]
  apply (castSourceConfig_writes _ _ _ (handled.cast _ _ _ _ (Noted.refl sourceConfig)) s).append_quiet
  exact recasts_quiet (andThen_spec fun _ => .bind (castErrorSourceConfig_notRecast _ _ _ _ _ _ _) fun _ _ => .pure True.intro) _

/-- A source on another network is recast as one more failed attempt. -/
theorem recastUnsupported_writes (s : EthConnectService) : WritesAtMost feedId (Processed sourceConfig)
    (recastUnsupported config client env feedId sourceConfig s).events := by
  have handled := Handled.retried sourceConfig config.maxRecastNetworkSourceNotMatching .FAILURE_NETWORK_NOT_MATCHING
  unfold recastUnsupported
  simp only [Traced.bind_apply]
  apply (castSourceConfig_writes _ _ _ (handled.cast _ _ _ _ (Noted.retried _ _ _)) s).append_quiet
  exact recasts_quiet (.bind (reportLast_notRecast _ _ _ _ _ _ _ _) fun _ _ => .pure True.intro) _

/-- A source whose handling failed is recast as one more failed attempt. -/
theorem recastFailed_writes (error : String) (s : EthConnectService) : WritesAtMost feedId (Processed sourceConfig)
    (recastFailed config client env feedId sourceConfig error s).events := by
  have handled := Handled.retried sourceConfig config.maxRecastSourceHandlingFail .HANDLING_FAILED
  unfold recastFailed
  simp only [Traced.bind_apply]
  apply (castSourceConfig_writes _ _ _ (handled.cast _ _ _ _ (Noted.retried _ _ _)) s).append_quiet
  refine recasts_quiet (.bind (reportLast_notRecast _ _ _ _ _ _ _ _) fun _ _ => andThen_spec fun _ => ?_) _
  split
  · exact .pure True.intro
  · exact .bind (castErrorSourceConfig_notRecast _ _ _ _ _ _ _) fun _ _ => .pure True.intro

/-- The source that a validation gives: `OK` with the data found, or `PARTIAL` with a first note. -/
theorem sourceValidated_handled (initial : sourceConfig.status = some .INI) {result : FeedSourceData}
    {upd : FeedConfigSource} (validated : sourceValidated config client env sourceConfig result = .ok upd) :
    Handled sourceConfig upd ∧ (Noted 0 sourceConfig upd ∨ Noted 1 sourceConfig upd) := by
  unfold sourceValidated at validated
  split at validated
  · cases validated
    exact ⟨⟨rfl, Or.inr (Or.inr ⟨initial, Or.inr rfl⟩), fun changed => absurd rfl changed⟩,
      Or.inr ((Noted.refl sourceConfig).first _ _ _ _)⟩
  · cases validated
    exact ⟨⟨rfl, Or.inr (Or.inr ⟨initial, Or.inl rfl⟩), fun _ => ⟨initial, rfl⟩⟩, Or.inl (Noted.refl sourceConfig)⟩
  · cases validated

/-- The update that the handling gives. -/
theorem handleSourceContract_handled {s : EthConnectService} {upd : FeedConfigSource}
    (updated : (handleSourceContract config client env sourceConfig feedId s).value = .ok (some upd)) :
    Handled sourceConfig upd ∧ (Noted 0 sourceConfig upd ∨ Noted 1 sourceConfig upd) := by
  rcases handleSourceContract_cases config client env feedId sourceConfig with
    ⟨initial, same⟩ | ⟨ready, same⟩ | ⟨-, error, same⟩ <;> rw [same] at updated
  · cases outcome : validateSourceContract config env.reads env.rejectData sourceConfig with
    | error error =>
      obtain ⟨error', failed⟩ := validateSource_unchecked client feedId outcome s
      rw [failed] at updated
      cases updated
    | ok data =>
      exact sourceValidated_handled initial ((validateSource_checked client feedId outcome s).2 upd updated)
  · exact absurd updated ((pollSource_own True ready s).1 upd)
  · cases updated

/-- A source on the client's network is cast as its handling leaves it, or as a failed attempt. -/
theorem handleSupported_writes (s : EthConnectService) : WritesAtMost feedId (Processed sourceConfig)
    (handleSupported config client env feedId sourceConfig s).events := by
  unfold handleSupported
  simp only [Traced.bind_apply]
  rcases recasts_handleAndCast config client env feedId sourceConfig s with
    ⟨⟨error, failed⟩, quiet⟩ | ⟨-, done, quiet⟩ | ⟨upd, info, updated, done, written⟩
  · rw [failed]
    exact (recastFailed_writes error _).quiet_append quiet
  · rw [done]
    exact Or.inl (by rw [recasts_append, quiet]; rfl)
  · obtain ⟨handled, noted⟩ := handleSourceContract_handled updated
    rw [done]
    refine Or.inr ⟨_, by rw [recasts_append, written]; rfl, handled.noted _ _ _ _, ?_⟩
    rcases noted with none | one
    · exact Or.inl (none.first _ _ _ _)
    · exact one.second _ _ _ _

end

/-- `handleSourceConfig` when the network the client is connected to is asked for first: without an
answer the record is neither handled nor recast. -/
def handleSourceConfigOnline (config : RelaydConfig) (client : Client) (env : Env) (network : Except String String)
    (feedId : String) (sourceConfig : FeedConfigSource) : Method (Except String Unit) :=
  match network with
  | .ok name => handleSourceConfig config { client with network := name } env feedId sourceConfig
  | .error error =>
    if sourceConfig.status = some .FAIL then
      return .ok ()
    else
      match inputError env feedId sourceConfig with
      | some validInput => failInvalid config client env feedId sourceConfig validInput
      | none => return .error (errorText ("Failed to connect to ETH network \n" ++ error))

/-- **Processing a source record changes only what it may**: one record at most answers it, none a record in
status `FAIL`, and it is the consumed one but for its status, data and notes. -/
theorem handleSourceConfig_frame (config : RelaydConfig) (client : Client) (env : Env) (network : Except String String)
    (feedId : String) (sourceConfig : FeedConfigSource) (s : EthConnectService) :
    WritesAtMost feedId (fun upd => sourceConfig.status ≠ some .FAIL ∧ Processed sourceConfig upd)
      (handleSourceConfigOnline config client env network feedId sourceConfig s).events := by
  by_cases given : sourceConfig.status = some .FAIL
  · left
    cases network <;> simp only [handleSourceConfigOnline, handleSourceConfig, given, ↓reduceIte] <;> rfl
  · have active : ∀ {events}, WritesAtMost feedId (Processed sourceConfig) events →
        WritesAtMost feedId (fun upd => sourceConfig.status ≠ some .FAIL ∧ Processed sourceConfig upd) events := by
      rintro events (none | ⟨upd, one, processed⟩)
      · exact Or.inl none
      · exact Or.inr ⟨upd, one, given, processed⟩
    apply active
    cases network with
    | error error =>
      simp only [handleSourceConfigOnline, given, ↓reduceIte]
      cases inputError env feedId sourceConfig with
      | some validInput => exact failInvalid_writes validInput s
      | none => exact Or.inl rfl
    | ok name =>
      simp only [handleSourceConfigOnline, handleSourceConfig, given, ↓reduceIte]
      cases inputError env feedId sourceConfig with
      | some validInput => exact failInvalid_writes validInput s
      | none =>
        by_cases supported : checkNetworkMatch { client with network := name } sourceConfig.network = true
        · simp only [supported, ↓reduceIte]
          exact handleSupported_writes s
        · simp only [supported]
          exact recastUnsupported_writes s

end Relayd.EthClient
