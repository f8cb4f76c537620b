import Relayd.EthClient.Net

/-!
# A healthy source

Nothing goes wrong around the instance: its network is the source's, every
contract answers with valid data, every cast goes through. A source is then
given up only because of what its record says. The record that carries the
instance's own registration is such a record: `checkIfDataPollingRequired`
throws on it, as on an attempt to poll twice, and the attempts are counted.
-/

namespace Relayd.EthClient
set_option autoImplicit false
open Relayd.Common Sys

/-- Nothing goes wrong outside the service. -/
structure Env.Healthy (env : Env) : Prop extends env.Casts where
  reads : env.reads.Valid
  validateData : ∀ data, env.validateData data = .accepted
  rejectData : ∀ data, env.rejectData data = none

/-- An environment in which every contract is an aggregator, with 8 decimals and a price of 42000. -/
def healthyEnv : Env where
  reads :=
    { decimals := fun _ => .ok 8
      aggregator := fun _ => .ok proxyAddress
      latestRoundData := fun _ _ => .ok { value := some 42000, time := some "2022-04-15T12:00:00.000Z", round := some 7 }
      contractEvent := fun _ _ _ => .ok (.ok { value := some 42000, time := some "2022-04-15T12:00:00.000Z", round := some 7 }) }
  validateSource := fun _ => .accepted
  validateData := fun _ => .accepted
  rejectData := fun _ => none
  validatePolling := fun _ => .accepted
  writeFails := fun _ => false
  stringify := fun _ => "{}"
  numberText := fun _ => "0"

theorem healthyEnv_healthy : healthyEnv.Healthy where
  validateSource := fun _ => rfl
  validatePolling := fun _ => rfl
  writes := fun _ => rfl
  reads :=
    { decimals := fun _ => ⟨8, by decide, rfl⟩
      aggregator := fun _ => ⟨proxyAddress, by decide, rfl⟩
      latestRoundData := fun _ _ => ⟨_, rfl⟩
      contractEvent := fun _ _ _ => ⟨_, rfl⟩ }
  validateData := fun _ => rfl
  rejectData := fun _ => rfl

/-- A source as its class fills it in: status `INI`, main network, polled by events. -/
def newSource : FeedConfigSource := { contract := proxyAddress }

/-- The handling throws on the record, whatever the chain answers: a source to validate without an ETH
address or a type, a source to poll that the instance polls already, a status that nothing handles. -/
def refused (config : RelaydConfig) (client : Client) (record : FeedConfigSource) : Bool :=
  match record.status with
  | some .INI => !(isEthereumAddress record.contract && record.type.isSome)
  | some .OK =>
    match checkIfDataPollingRequired config client record with
    | .error _ => true
    | .ok _ => false
  | some .FAIL => false
  | _ => true

/-- The consumption of the record gives the source up: the handling throws once too often. -/
def GivesUp (config : RelaydConfig) (client : Client) (record : FeedConfigSource) : Prop :=
  refused config client record = true ∧ keepTrying config.maxRecastSourceHandlingFail .HANDLING_FAILED record = false

instance (config : RelaydConfig) (client : Client) (record : FeedConfigSource) :
    Decidable (GivesUp config client record) := inferInstanceAs (Decidable (_ ∧ _))

/-- With the default allowances, a validated source is refused by the instances registered on it, and
by all when it has no polling mode. -/
theorem refused_by_default {config : RelaydConfig} {client : Client} {record : FeedConfigSource}
    (allowance : config.sourcePollingAllowMultipleBySameIssuer = false) (ready : record.status = some .OK) :
    refused config client record = true ↔
      (∃ e ∈ entries record.handle, e.1 = client.serviceId) ∨ record.poll = none := by
  have registered : (extractContractPollingStatus client record).handling.length > 0 ↔
      ∃ e ∈ entries record.handle, e.1 = client.serviceId := by
    simp only [extractContractPollingStatus, List.length_map, gt_iff_lt, List.length_pos_iff_exists_mem,
      List.mem_filter, beq_iff_eq, entries, List.mem_map]
    constructor
    · rintro ⟨handle, member, own⟩
      exact ⟨_, ⟨handle, member, rfl⟩, own⟩
    · rintro ⟨_, ⟨handle, member, rfl⟩, own⟩
      exact ⟨handle, member, own⟩
  rw [← registered]
  simp only [refused, ready, checkIfDataPollingRequired, allowance]
  by_cases polled : (extractContractPollingStatus client record).handling.length > 0
  · simp [polled]
  · simp only [polled, false_and, ↓reduceIte, false_or]
    cases record.poll with
    | none => simp
    | some poll => cases poll <;> simp

section
variable {config : RelaydConfig} {client : Client} {env : Env} {feedId : String} {record : FeedConfigSource}

theorem Env.Healthy.castsFor (healthy : env.Healthy) (reason : ESourceCastReason) : env.CastsFor reason :=
  fun _ _ _ _ _ _ => ⟨healthy.validateSource _, healthy.writes _⟩

/-- An update of a handled source is the outcome of its validation. -/
theorem handled_status {upd : FeedConfigSource} {s : EthConnectService}
    (handled : (handleSourceContract config client env record feedId s).value = .ok (some upd)) :
    upd.status = some .OK ∨ upd.status = some .PARTIAL := by
  rcases handleSourceContract_cases config client env feedId record with
    ⟨-, same⟩ | ⟨ready, same⟩ | ⟨-, error, same⟩ <;> rw [same] at handled
  · cases outcome : validateSourceContract config env.reads env.rejectData record with
    | error error =>
      obtain ⟨error', failed⟩ := validateSource_unchecked client feedId outcome s
      rw [failed] at handled
      cases handled
    | ok data =>
      have validated := (validateSource_checked client feedId outcome s).2 upd handled
      unfold sourceValidated at validated
      split at validated
      · cases validated
        exact Or.inr rfl
      · cases validated
        exact Or.inl rfl
      · cases validated
  · exact absurd handled ((pollSource_own True ready s).1 upd)
  · cases handled

theorem castErrorSourceConfig_written (casts : env.Casts) (errorType : EErrorType) (source : FeedConfigSource)
    (prevError : String) (s : EthConnectService) :
    (castErrorSourceConfig config client env errorType source feedId prevError s).value.2 = .ok () := by
  simp only [castErrorSourceConfig, Traced.bind_apply, castSourceConfig_written casts, Traced.pure_apply, rethrow_ok]

theorem validateSource_error_iff (healthy : env.Healthy) (s : EthConnectService) :
    (∃ error, (validateSource config client env record feedId s).value = .error error) ↔
      ¬ (isEthereumAddress record.contract = true ∧ record.type ≠ none) := by
  rw [← validateSourceContract_valid config healthy.reads healthy.rejectData record]
  cases outcome : validateSourceContract config env.reads env.rejectData record with
  | error error =>
    obtain ⟨error', failed⟩ := validateSource_unchecked client feedId outcome s
    simp [failed]
  | ok data =>
    unfold validateSource
    simp [outcome, andThen, sourceValidated, healthy.validateData, Except.map]

theorem pollSource_error_iff (healthy : env.Healthy) (s : EthConnectService) :
    (∃ error, (pollSource config client env record feedId s).value = .error error) ↔
      ∃ error, checkIfDataPollingRequired config client record = .error error := by
  unfold pollSource
  cases checkIfDataPollingRequired config client record with
  | error error => simp [andThen]
  | ok toPoll =>
    cases toPoll with
    | none => simp [andThen]
    | some poll =>
      simp only [andThen, Traced.bind_apply]
      cases (initiateSourceDataPolling config client env record feedId s).value with
      | ok _ => simp
      | error error =>
        simp [castErrorSourceConfig_written healthy.toCasts, Except.map]

variable (feedId) in
/-- **In a healthy environment the handling throws exactly on the refused records.** -/
theorem handled_error_iff (healthy : env.Healthy) (active : record.status ≠ some .FAIL) (s : EthConnectService) :
    (∃ error, (handleSourceContract config client env record feedId s).value = .error error) ↔
      refused config client record = true := by
  rcases handleSourceContract_cases config client env feedId record with
    ⟨initial, same⟩ | ⟨ready, same⟩ | ⟨status, error, same⟩ <;> rw [same]
  · rw [validateSource_error_iff healthy]
    simp only [refused, initial]
    cases isEthereumAddress record.contract <;> cases record.type <;> simp
  · rw [pollSource_error_iff healthy]
    simp only [refused, ready]
    cases checkIfDataPollingRequired config client record <;> simp
  · rcases status with unset | part | failed
    · simp [refused, unset]
    · simp [refused, part]
    · exact absurd failed active

/-- **In a healthy environment a consumption writes status `FAIL` exactly when it gives the source up.** -/
theorem writes_fail_iff (healthy : env.Healthy) (network : checkNetworkMatch client record.network = true)
    (active : record.status ≠ some .FAIL) (s : EthConnectService) :
    (∃ f upd, (f, upd) ∈ recasts (handleSourceConfig config client env feedId record s).events ∧
        upd.status = some .FAIL) ↔ GivesUp config client record := by
  have input : inputError env feedId record = none := by simp only [inputError, healthy.validateSource]
  have consumed : handleSourceConfig config client env feedId record = handleSupported config client env feedId record := by
    simp only [handleSourceConfig, active, ↓reduceIte, input, network]
  rw [consumed, GivesUp, ← handled_error_iff feedId healthy active s]
  simp only [handleSupported, Traced.bind_apply, recasts_append]
  cases handled : (handleSourceContract config client env record feedId s).value with
  | error error =>
    have failed : (handleAndCast config client env feedId record s).value = .error error := by
      simp only [handleAndCast, Traced.bind_apply, handled, andThen, Traced.pure_apply]
    have nothing : recasts (handleAndCast config client env feedId record s).events = [] := by
      rcases recasts_handleAndCast config client env feedId record s with ⟨-, nothing⟩ | ⟨-, ok, -⟩ | ⟨upd, info, -, ok, -⟩
      · exact nothing
      · rw [failed] at ok
        cases ok
      · rw [failed] at ok
        cases ok
    obtain ⟨info, written⟩ := recasts_failed config client feedId record (healthy.castsFor .HANDLING_FAILED) error
      (handleAndCast config client env feedId record s).state
    simp only [failed, nothing, written, List.nil_append, List.mem_singleton, Prod.mk.injEq]
    constructor
    · rintro ⟨f, upd, ⟨rfl, rfl⟩, fail⟩
      refine ⟨⟨error, rfl⟩, ?_⟩
      rw [note_status, retried] at fail
      by_contra trying
      simp only [Bool.not_eq_false] at trying
      rw [if_pos trying] at fail
      exact active fail
    · rintro ⟨-, tired⟩
      refine ⟨feedId, _, ⟨rfl, rfl⟩, ?_⟩
      simp only [note_status, retried, tired]
      rfl
  | ok configUpd =>
    have ok : (handleAndCast config client env feedId record s).value = .ok () := by
      cases configUpd <;>
        simp only [handleAndCast, Traced.bind_apply, handled, andThen, Traced.pure_apply,
          castSourceConfig_written healthy.toCasts]
    simp only [ok, Traced.pure_apply]
    refine iff_of_false ?_ (by simp)
    rintro ⟨f, upd, member, fail⟩
    rcases recasts_handleAndCast config client env feedId record s with ⟨⟨error, failed⟩, -⟩ | ⟨-, -, nothing⟩ |
      ⟨upd', info, updated, -, written⟩
    · rw [failed] at ok
      cases ok
    · rw [nothing] at member
      cases member
    · rw [written] at member
      have equal : (f, upd) = (feedId, issueSourceProcessingNote config client.serviceId upd' .HANDLING_SUCCESS (some info)) := by
        simpa [recasts] using member
      cases equal
      rcases handled_status updated with status | status <;> rw [note_status, status] at fail <;> cases fail

end

end Relayd.EthClient
