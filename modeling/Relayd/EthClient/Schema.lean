import Relayd.EthClient.Healthy
import Relayd.EthClient.Pollers
import Relayd.EthClient.Review

/-!
# The records of an ETH client and the constraints on their classes

The three casts of an instance build their records from a source, texts of any
length and values of the chain, and the validation in front of a write is given
plain objects, of which it says nothing. A note is cut at 512 units where its
class admits 255 characters, a polling change is not cut at all, a merge puts a
handle on a list that may be full, and the ID of a data update is a contract's
address, two characters too long for its class.
-/

namespace Relayd.EthClient
set_option autoImplicit false
open Relayd.Common Sys

/-- An instance that was started at `now`, in milliseconds, on the network that its provider calls `name`. -/
def Client.init (name : String) (now : Nat) : Client where
  serviceId := "relayd.eth_" ++ name ++ "_" ++ toString now
  network := name

/-- The validation package reports no error on a plain object. -/
structure Env.IgnoresPlain (env : Env) : Prop where
  validateSource : ∀ source, env.validateSource source = .accepted
  validatePolling : ∀ info, env.validatePolling info = .accepted

/-- What an instance writes. -/
inductive Record
  | source (sourceConfig : FeedConfigSource)
  | polling (info : SourcePollingInfo)
  | update (upd : FeedSourceDataUpdate)

/-- The constraints declared on the class of the record. -/
def Record.valid (isDateString : String → Bool) : Record → Bool
  | .source sourceConfig => sourceConfig.valid isDateString
  | .polling info => info.valid
  | .update upd => upd.valid isDateString

/-- The record of an event. -/
def Event.record : Event → Option Record
  | .sourceCast _ _ source => some (.source source)
  | .pollingCast _ info => some (.polling info)
  | .validated _ _ | .reading _ _ => none

/-- A note about a source: its reason and its text. -/
abbrev Note := ESourceCastReason × Option String

/-- The note, as it stands in the history. -/
def Client.issue (client : Client) (note : Note) : ProcessingIssue :=
  { issuer := client.serviceId, type := note.1, info := note.2.map (substr 512) }

/-- The source after the notes, the oldest first. -/
def noted (config : RelaydConfig) (serviceId : String) (notes : List Note) (source : FeedConfigSource) : FeedConfigSource :=
  notes.foldl (fun source note => issueSourceProcessingNote config serviceId source note.1 note.2) source

/-- The source of a merge, with the handle list that the review of the polling change gives it. -/
def reviewedSource (config : RelaydConfig) (source : FeedConfigSource) (change : SourcePollingInfo) (now : String) :
    Option FeedConfigSource :=
  match reviewSourceHandling config source.handle change now with
  | .ok handle => some { source with handle := some handle }
  | .error _ => none

/-- A cast about a source. -/
inductive CastCall
  /-- `castSourceConfig`, on the source with the status, the data and the notes that its handling gave it before -/
  | sourceConfig (topic : ETopic) (feedId : String) (status : Option ESourceStatus) (data : Option FeedSourceData)
    (earlier : List Note) (reason : ESourceCastReason) (info : Option String)
  /-- `castSourceConfig` of a merge, on the source with the handle list that the review of a polling change gives it -/
  | mergedConfig (feedId : String) (change : SourcePollingInfo) (now : String)
  /-- `castSourcePolling` -/
  | sourcePolling (change : ESourcePollingChange) (info : Option String)
  /-- `castSourceDataUpdate` -/
  | sourceData (feedId : String) (sourceData : FeedSourceData) (reason : ESourceDataUpdateReason) (info : Option String)

namespace CastCall

section
variable (config : RelaydConfig) (client : Client) (env : Env) (writeFails : FeedSourceDataUpdate → Bool)
  (source : FeedConfigSource)

/-- The records that the cast writes. -/
def writes (s : EthConnectService) : CastCall → List Record
  | .sourceConfig topic feedId status data earlier reason info =>
    (castSourceConfig config client env topic feedId
      (noted config client.serviceId earlier { source with status := status, data := data }) reason info s).events.filterMap
      Event.record
  | .mergedConfig feedId change now =>
    match reviewedSource config source change now with
    | some upd => (castSourceConfig config client env .SOURCE_CONFIG feedId upd .HANDLING_SUCCESS
        (some "Update Source data handling") s).events.filterMap Event.record
    | none => []
  | .sourcePolling change info => (castSourcePolling client env source.contract change info s).events.filterMap Event.record
  | .sourceData feedId data reason info =>
    match castSourceDataUpdate writeFails feedId source.contract data reason info with
    | .ok upd => [.update upd]
    | .error _ => []

/-- The record that the cast builds, unless it is a merge whose change the review rejects. -/
def record : CastCall → Option Record
  | .sourceConfig _ _ status data earlier reason info =>
    some (.source (issueSourceProcessingNote config client.serviceId
      (noted config client.serviceId earlier { source with status := status, data := data }) reason info))
  | .mergedConfig _ change now =>
    (reviewedSource config source change now).map fun upd => .source (issueSourceProcessingNote config client.serviceId upd
      .HANDLING_SUCCESS (some "Update Source data handling"))
  | .sourcePolling change info =>
    some (.polling { source := source.contract, issuer := client.serviceId, change := change, info := info })
  | .sourceData feedId data reason info =>
    some (.update { feedId := feedId, sourceId := some source.contract, source := some data, reason := some reason, info := info })

/-- The write of the record is rejected, or the review rejects the change to be merged. -/
def rejected : CastCall → Bool
  | .sourceConfig topic feedId status data earlier reason info =>
    env.writeFails (.sourceCast topic feedId (issueSourceProcessingNote config client.serviceId
      (noted config client.serviceId earlier { source with status := status, data := data }) reason info))
  | .mergedConfig feedId change now =>
    (reviewedSource config source change now).all fun upd =>
      env.writeFails (.sourceCast .SOURCE_CONFIG feedId (issueSourceProcessingNote config client.serviceId upd
        .HANDLING_SUCCESS (some "Update Source data handling")))
  | .sourcePolling change info =>
    env.writeFails (.pollingCast source.contract
      { source := source.contract, issuer := client.serviceId, change := change, info := info })
  | .sourceData feedId data reason info => writeFails ⟨feedId, some source.contract, some data, some reason, info⟩

/-- What the call is given fits the class of its record. No source's address is an ID of a data update. -/
def Fits (isDateString : String → Bool) : CastCall → Prop
  | .sourceConfig _ _ _ data earlier reason info =>
    -- of the new notes, the history keeps the newest ones
    client.serviceId.length ≤ 40 ∧
      (∀ note ∈ (earlier ++ [(reason, info)]).reverse.take (fullLength config.sourceIssueMaxNumber (notes source)),
        ∀ text ∈ note.2, text.length ≤ 255) ∧
      ∀ found ∈ data, FeedSourceData.valid isDateString found = true
  | .mergedConfig _ change now =>
    client.serviceId.length ≤ 40 ∧ (added change.change ≠ none →
      (source.handle.getD []).length < 20 ∧ hasLength 6 40 change.issuer = true ∧ isDateString now = true)
  | .sourcePolling change info =>
    client.serviceId.length ≤ 40 ∧ (∀ text ∈ info, 3 ≤ text.length ∧ text.length ≤ 255) ∧ ∀ text, change ≠ .unknown text
  | .sourceData _ _ _ _ => False

end

end CastCall

/-! ## Lengths -/

theorem init_serviceId_length (name : String) (now : Nat) : 12 ≤ (Client.init name now).serviceId.length := by
  have first : "relayd.eth_".length = 11 := by decide
  have last : "_".length = 1 := by decide
  simp only [Client.init, String.length_append, first, last]
  omega

/-- An address has 42 characters. -/
theorem isEthereumAddress_length {s : String} (address : isEthereumAddress s = true) : s.length = 42 := by
  unfold isEthereumAddress at address
  rw [← String.length_toList]
  split at address
  case h_1 x digits split =>
    simp only [Bool.and_eq_true, beq_iff_eq] at address
    rw [split, List.length_cons, List.length_cons, address.1.2]
  case h_2 => cases address

/-- An optional text is checked when it is there. -/
theorem optional_iff {α : Type} {check : α → Bool} {value : Option α} :
    Common.optional check value = true ↔ ∀ a ∈ value, check a = true := by
  cases value <;> simp [Common.optional]

section
variable {config : RelaydConfig} {client : Client} {env : Env} {isDateString : String → Bool} {source : FeedConfigSource}

/-- A note's text is cut at 512 units and may have 255 characters. -/
theorem Client.issue_valid_iff (longEnough : 3 ≤ client.serviceId.length) (note : Note) :
    (client.issue note).valid = true ↔ client.serviceId.length ≤ 40 ∧ ∀ text ∈ note.2, text.length ≤ 255 := by
  obtain ⟨reason, info⟩ := note
  unfold Client.issue ProcessingIssue.valid hasLength
  cases info <;> simp [longEnough, Common.optional, substr_short_iff]

variable (config client) in
/-- Notes change the history only. -/
theorem noted_eq (ns : List Note) (source : FeedConfigSource) :
    noted config client.serviceId ns source = { source with issue := (noted config client.serviceId ns source).issue } := by
  induction ns generalizing source with
  | nil => rfl
  | cons note ns ih => exact ih (issueSourceProcessingNote config client.serviceId source note.1 note.2)

variable (config client source) in
theorem notes_noted (ns : List Note) :
    notes (noted config client.serviceId ns source) = pushAll config.sourceIssueMaxNumber (ns.map client.issue) (notes source) := by
  induction ns generalizing source with
  | nil => rfl
  | cons note ns ih =>
    refine (ih _).trans ?_
    rw [notes_note]
    rfl

variable (source) in
/-- New notes leave a valid history a valid one, of at most twenty notes, if those that it has room for are valid. -/
theorem noted_issues (bound : config.sourceIssueMaxNumber ≤ 20) (longEnough : 3 ≤ client.serviceId.length)
    (valid : Common.optional (fun l => decide (l.length ≤ 20) && l.all ProcessingIssue.valid) source.issue = true)
    (earlier : List Note) (note : Note) :
    Common.optional (fun l => decide (l.length ≤ 20) && l.all ProcessingIssue.valid)
        (noted config client.serviceId (earlier ++ [note]) source).issue = true ↔
      client.serviceId.length ≤ 40 ∧
        ∀ n ∈ (earlier ++ [note]).reverse.take (fullLength config.sourceIssueMaxNumber (notes source)),
          ∀ text ∈ n.2, text.length ≤ 255 := by
  have before : (notes source).length ≤ 20 ∧ ∀ n ∈ notes source, n.valid = true := by
    cases history : source.issue with
    | none => simp [notes, history]
    | some issues => simpa [notes, history, Common.optional] using valid
  have after : (noted config client.serviceId (earlier ++ [note]) source).issue = some
      (notes (noted config client.serviceId (earlier ++ [note]) source)) := by
    rw [noted, List.foldl_append]
    rfl
  have bounded := (Pushed.pushAll config.sourceIssueMaxNumber ((earlier ++ [note]).map client.issue) (notes source)).bounded
  have few : fullLength config.sourceIssueMaxNumber (notes source) ≤ 20 := by
    unfold fullLength
    omega
  obtain ⟨room, isRoom⟩ : ∃ room, fullLength config.sourceIssueMaxNumber (notes source) = room + 1 :=
    ⟨fullLength config.sourceIssueMaxNumber (notes source) - 1, by unfold fullLength; omega⟩
  have short : (notes (noted config client.serviceId (earlier ++ [note]) source)).length ≤ 20 := by
    rw [notes_noted]
    exact Nat.le_trans bounded few
  rw [after, Common.optional, decide_eq_true short, Bool.true_and, List.all_eq_true, notes_noted,
    forall_pushAll_iff before.2, ← List.map_reverse, ← List.map_take, List.forall_mem_map]
  simp only [Client.issue_valid_iff longEnough, isRoom, List.reverse_append, List.reverse_singleton, List.singleton_append,
    List.take_succ_cons, List.forall_mem_cons]
  constructor
  · rintro ⟨⟨id, newest⟩, others⟩
    exact ⟨id, newest, fun n member => (others n member).2⟩
  · rintro ⟨id, newest, others⟩
    exact ⟨⟨id, newest⟩, fun n member => ⟨id, others n member⟩⟩

/-- **The record of a source**, with the handle list that it is given. -/
theorem noted_valid_iff (inBounds : config.InBounds) (longEnough : 3 ≤ client.serviceId.length)
    (valid : source.valid isDateString = true) (status : Option ESourceStatus) (data : Option FeedSourceData)
    (handle : Option (List FeedSourceHandle)) (earlier : List Note) (note : Note) :
    (noted config client.serviceId (earlier ++ [note]) { source with status := status, data := data, handle := handle }).valid
        isDateString = true ↔
      (client.serviceId.length ≤ 40 ∧
        ∀ n ∈ (earlier ++ [note]).reverse.take (fullLength config.sourceIssueMaxNumber (notes source)),
          ∀ text ∈ n.2, text.length ≤ 255) ∧
        (∀ found ∈ data, FeedSourceData.valid isDateString found = true) ∧
        ∀ handles ∈ handle, handles.length ≤ 20 ∧ ∀ element ∈ handles, FeedSourceHandle.valid isDateString element = true := by
  simp only [FeedConfigSource.valid, Bool.and_eq_true] at valid
  obtain ⟨⟨⟨⟨⟨⟨issue, address⟩, length⟩, event⟩, period⟩, -⟩, -⟩ := valid
  have history := noted_issues { source with status := status, data := data, handle := handle }
    inBounds.sourceIssueMaxNumber longEnough issue earlier note
  rw [noted_eq]
  simp only [FeedConfigSource.valid, address, length, event, period, Bool.and_true, Bool.and_eq_true]
  rw [history, optional_iff, optional_iff, and_assoc]
  simp only [Bool.and_eq_true, decide_eq_true_eq, List.all_eq_true]
  rfl

/-- **The record of a polling change.** -/
theorem polling_valid_iff (longEnough : 6 ≤ client.serviceId.length) (valid : source.valid isDateString = true)
    (change : ESourcePollingChange) (info : Option String) :
    SourcePollingInfo.valid { source := source.contract, issuer := client.serviceId, change := change, info := info } = true ↔
      client.serviceId.length ≤ 40 ∧ (∀ text ∈ info, 3 ≤ text.length ∧ text.length ≤ 255) ∧
        ∀ text, change ≠ .unknown text := by
  simp only [FeedConfigSource.valid, Bool.and_eq_true] at valid
  obtain ⟨⟨⟨⟨⟨⟨-, address⟩, length⟩, -⟩, -⟩, -⟩, -⟩ := valid
  simp only [SourcePollingInfo.valid, address, length, Bool.true_and]
  simp only [hasLength, longEnough, decide_true, Bool.true_and, Bool.and_eq_true, decide_eq_true_eq, optional_iff, and_assoc]
  apply and_congr_right
  intro _
  apply and_congr_right
  intro _
  cases change <;> simp

/-- No data update with a source's address in it is valid. -/
theorem update_invalid (valid : source.valid isDateString = true) (feedId : String) (data : Option FeedSourceData)
    (reason : Option ESourceDataUpdateReason) (info : Option String) :
    FeedSourceDataUpdate.valid isDateString ⟨feedId, some source.contract, data, reason, info⟩ = false := by
  simp only [FeedConfigSource.valid, Bool.and_eq_true] at valid
  obtain ⟨⟨⟨⟨⟨⟨-, address⟩, -⟩, -⟩, -⟩, -⟩, -⟩ := valid
  simp [FeedSourceDataUpdate.valid, Common.optional, isEthereumAddress_length address]

/-- The record of a merge: only a poller that is added may not fit. -/
theorem merged_valid_iff (inBounds : config.InBounds) (longEnough : 3 ≤ client.serviceId.length)
    (valid : source.valid isDateString = true) {change : SourcePollingInfo} {now : String} {upd : FeedConfigSource}
    (accepted : reviewedSource config source change now = some upd) :
    (issueSourceProcessingNote config client.serviceId upd .HANDLING_SUCCESS
        (some "Update Source data handling")).valid isDateString = true ↔
      client.serviceId.length ≤ 40 ∧ (added change.change ≠ none →
        (source.handle.getD []).length < 20 ∧ hasLength 6 40 change.issuer = true ∧ isDateString now = true) := by
  unfold reviewedSource at accepted
  rcases review_cases config source.handle change now with ⟨error, failed, -⟩ | ⟨handle, done, changed, -⟩
  · rw [failed] at accepted
    cases accepted
  rw [done] at accepted
  cases accepted
  have record := noted_valid_iff inBounds longEnough valid source.status source.data (some handle) []
    (.HANDLING_SUCCESS, some "Update Source data handling")
  have short : ∀ n ∈ ([] ++ [((.HANDLING_SUCCESS, some "Update Source data handling") : Note)]).reverse.take
      (fullLength config.sourceIssueMaxNumber (notes source)), ∀ text ∈ n.2, text.length ≤ 255 := by
    intro n member text isText
    cases List.mem_singleton.1 (List.mem_of_mem_take member)
    cases isText
    decide
  simp only [FeedConfigSource.valid, Bool.and_eq_true] at valid
  obtain ⟨⟨-, data⟩, listed⟩ := valid
  have before : (source.handle.getD []).length ≤ 20 ∧ ∀ element ∈ source.handle.getD [], element.valid isDateString = true := by
    cases handles : source.handle with
    | none => simp
    | some handles' => simpa [handles, Common.optional] using listed
  refine record.trans ?_
  rw [and_iff_left short, and_congr_right_iff]
  intro _
  rw [and_iff_right (optional_iff.1 data)]
  simp only [Option.mem_some_iff, forall_eq']
  cases changed with
  | registered type adds =>
    simp only [List.length_cons, List.forall_mem_cons, adds, ne_eq, reduceCtorEq, not_false_eq_true, forall_const]
    rw [and_iff_left before.2, FeedSourceHandle.valid, Bool.and_eq_true, Nat.succ_le_iff]
  | unregistered type removes =>
    simp only [removes, ne_eq, not_true_eq_false, false_implies, iff_true]
    exact ⟨Nat.le_trans (List.length_filter_le _ _) before.1, fun element member => before.2 element (List.mem_filter.1 member).1⟩

/-- A cast of a plain object writes its record unless the write is rejected. -/
theorem writes_eq (plain : env.IgnoresPlain) (writeFails : FeedSourceDataUpdate → Bool) (call : CastCall)
    (s : EthConnectService) :
    call.writes config client env writeFails source s =
      if call.rejected config client env writeFails source then [] else (call.record config client source).toList := by
  have written : ∀ topic feedId given reason info,
      (castSourceConfig config client env topic feedId given reason info s).events.filterMap Event.record =
        if env.writeFails (.sourceCast topic feedId (issueSourceProcessingNote config client.serviceId given reason info)) then []
        else [.source (issueSourceProcessingNote config client.serviceId given reason info)] := by
    intro topic feedId given reason info
    simp only [castSourceConfig, plain.validateSource, Traced.ite_apply]
    split
    case isTrue fails => rfl
    case isFalse writes => rfl
  cases call with
  | sourceConfig topic feedId status data earlier reason info => exact written _ _ _ _ _
  | mergedConfig feedId change now =>
    cases accepted : reviewedSource config source change now with
    | some upd =>
      simp only [CastCall.writes, CastCall.rejected, CastCall.record, accepted]
      exact written _ _ _ _ _
    | none =>
      simp only [CastCall.writes, CastCall.rejected, CastCall.record, accepted]
      rfl
  | sourcePolling change info =>
    simp only [CastCall.writes, CastCall.rejected, castSourcePolling, plain.validatePolling, Traced.ite_apply]
    split
    case isTrue fails =>
      simp only [fails, ↓reduceIte]
      rfl
    case isFalse writes =>
      simp only [writes]
      rfl
  | sourceData feedId data reason info =>
    simp only [CastCall.writes, CastCall.rejected, castSourceDataUpdate]
    by_cases fails : writeFails ⟨feedId, some source.contract, some data, some reason, info⟩ = true
    · simp only [fails, ↓reduceIte]
    · simp only [fails]
      rfl

/-- A cast that is not rejected has a record. -/
theorem record_of_written {writeFails : FeedSourceDataUpdate → Bool} {call : CastCall}
    (written : ¬ call.rejected config client env writeFails source = true) :
    ∃ record, call.record config client source = some record := by
  cases call with
  | mergedConfig feedId change now =>
    simp only [CastCall.rejected, CastCall.record] at written ⊢
    cases accepted : reviewedSource config source change now with
    | some upd => exact ⟨_, rfl⟩
    | none =>
      rw [accepted] at written
      exact absurd rfl written
  | _ => exact ⟨_, rfl⟩

/-- The record of a valid source is valid exactly when what the cast is given fits its class. -/
theorem record_valid_iff (inBounds : config.InBounds) (longEnough : 6 ≤ client.serviceId.length)
    (valid : source.valid isDateString = true) (call : CastCall) {record : Record}
    (builds : call.record config client source = some record) :
    record.valid isDateString = true ↔ call.Fits config client source isDateString := by
  cases call with
  | sourceConfig topic feedId status data earlier reason info =>
    cases builds
    have long : 3 ≤ client.serviceId.length := by omega
    have noted := noted_valid_iff inBounds long valid status data source.handle earlier (reason, info)
    rw [EthClient.noted, List.foldl_append] at noted
    refine noted.trans ?_
    simp only [FeedConfigSource.valid, Bool.and_eq_true, optional_iff, decide_eq_true_eq, List.all_eq_true] at valid
    rw [and_assoc, and_iff_left valid.2]
    rfl
  | mergedConfig feedId change now =>
    obtain ⟨upd, accepted, rfl⟩ := Option.map_eq_some_iff.1 builds
    exact merged_valid_iff inBounds (by omega) valid accepted
  | sourcePolling change info =>
    cases builds
    exact polling_valid_iff longEnough valid change info
  | sourceData feedId data reason info =>
    cases builds
    simp only [Record.valid, CastCall.Fits, update_invalid valid, Bool.false_eq_true]

end

/-- **A cast writes valid records exactly when it is rejected or what it is given fits the record's class.** -/
theorem writes_valid_iff (isDateString : String → Bool) (config : RelaydConfig) (inBounds : config.InBounds) (name : String)
    (now : Nat) (env : Env) (plain : env.IgnoresPlain) (writeFails : FeedSourceDataUpdate → Bool) (source : FeedConfigSource)
    (valid : source.valid isDateString = true) (call : CastCall) (s : EthConnectService) :
    (∀ record ∈ call.writes config (Client.init name now) env writeFails source s, record.valid isDateString = true) ↔
      call.rejected config (Client.init name now) env writeFails source = true ∨
        call.Fits config (Client.init name now) source isDateString := by
  have long := init_serviceId_length name now
  rw [writes_eq plain]
  split
  case isTrue rejected => simp [rejected]
  case isFalse written =>
    obtain ⟨record, builds⟩ := record_of_written written
    simp only [written, builds, Bool.false_eq_true, false_or, Option.mem_toList, Option.some.injEq, forall_eq']
    exact record_valid_iff inBounds (by omega) valid call builds

/-- What an instance with the default settings writes for the cast. -/
def recordsOf (source : FeedConfigSource) (call : CastCall) : List Record :=
  call.writes RelaydConfig.prod (Client.init "homestead" 1650024000000) healthyEnv (fun _ => false) source {}

/-- A note of a failure. -/
def shortNote : CastCall := .sourceConfig .SOURCE_CONFIG "feed-btc" (some .FAIL) none [] .HANDLING_FAILED (some "timeout")

/-- The merge of one more poller. -/
def oneMore : CastCall :=
  .mergedConfig "feed-btc" { source := proxyAddress, issuer := "relayd.eth_x", change := .ADD_LISTEN_EVENT }
    "2022-04-15T12:00:01.000Z"

/-- A source that was not handled in time, and the merge of its first poller, are written as their class has them. -/
theorem writes_valid_short :
    ((recordsOf newSource shortNote).length = 1 ∧ ∀ record ∈ recordsOf newSource shortNote, record.valid (fun _ => true) = true) ∧
      (recordsOf newSource oneMore).length = 1 ∧ ∀ record ∈ recordsOf newSource oneMore, record.valid (fun _ => true) = true := by
  have valid := FeedConfigSource.default_valid (fun _ => true) proxyAddress (by decide) (by decide)
  have fits : ∀ call : CastCall,
      call.Fits RelaydConfig.prod (Client.init "homestead" 1650024000000) newSource (fun _ => true) →
      ∀ record ∈ recordsOf newSource call, record.valid (fun _ => true) = true := by
    intro call fits
    exact (writes_valid_iff (fun _ => true) RelaydConfig.prod RelaydConfig.prod_inBounds "homestead" 1650024000000 healthyEnv
      ⟨fun _ => rfl, fun _ => rfl⟩ (fun _ => false) newSource valid call {}).2 (Or.inr fits)
  refine ⟨⟨by decide +kernel, fits shortNote ⟨by decide +kernel, by decide +kernel, ?_⟩⟩, by decide +kernel, fits oneMore ?_⟩
  · rintro found ⟨⟩
  · exact ⟨by decide +kernel, fun _ => by decide +kernel⟩

/-- An error of so many characters. -/
def errorOfLength (length : Nat) : String := String.ofList (List.replicate length 'x')

theorem errorOfLength_length (length : Nat) : (errorOfLength length).length = length := by
  rw [errorOfLength, String.length_ofList, List.length_replicate]

/-- The data of a periodic check. -/
def checkedData : FeedSourceData := { value := some 42000, time := some "2022-04-15T12:00:00.000Z" }

/-- A source that twenty instances poll. -/
def crowded : FeedConfigSource :=
  { newSource with handle := some ("abcdefghijklmnopqrst".toList.map fun c =>
      { handler := "relayd.eth_" ++ String.singleton c, type := .EVENT, time := "2022-04-15T12:00:00.000Z" }) }

/-- The cast is one of a valid source, and what it writes is not valid. -/
def WritesInvalid (source : FeedConfigSource) (call : CastCall) : Prop :=
  source.valid (fun _ => true) = true ∧ ∃ record ∈ recordsOf source call, record.valid (fun _ => true) = false

/-- A record that does not fit is written nevertheless. -/
theorem writesInvalid_of_unfit {source : FeedConfigSource} (call : CastCall) (record : Record)
    (valid : source.valid (fun _ => true) = true)
    (builds : call.record RelaydConfig.prod (Client.init "homestead" 1650024000000) source = some record)
    (taken : call.rejected RelaydConfig.prod (Client.init "homestead" 1650024000000) healthyEnv (fun _ => false) source = false)
    (unfit : ¬ call.Fits RelaydConfig.prod (Client.init "homestead" 1650024000000) source (fun _ => true)) :
    WritesInvalid source call := by
  have plain : healthyEnv.IgnoresPlain := ⟨fun _ => rfl, fun _ => rfl⟩
  have long := init_serviceId_length "homestead" 1650024000000
  refine ⟨valid, record, ?_, ?_⟩
  · rw [recordsOf, writes_eq plain, taken, builds]
    exact List.mem_singleton_self _
  · rwa [← record_valid_iff RelaydConfig.prod_inBounds (by omega) valid call builds, Bool.not_eq_true] at unfit

/-- Each of the casts writes a record that its class does not admit: a note and a polling change with a long
error, the merge of one more poller, and every data update. -/
theorem long_texts_invalid :
    WritesInvalid newSource
        (.sourceConfig .SOURCE_CONFIG "feed-btc" (some .INI) none [] .HANDLING_FAILED (some (errorOfLength 300))) ∧
      WritesInvalid newSource (.sourcePolling .REMOVE_PERIODIC (some (errorOfLength 300))) ∧
      WritesInvalid crowded oneMore ∧
      WritesInvalid newSource (.sourceData "feed-btc" checkedData .PERIODIC none) := by
  have valid : newSource.valid (fun _ => true) = true := FeedConfigSource.default_valid _ proxyAddress (by decide) (by decide)
  have validCrowded : crowded.valid (fun _ => true) = true := by decide +kernel
  have length := errorOfLength_length 300
  refine ⟨writesInvalid_of_unfit _ _ valid rfl rfl ?_, writesInvalid_of_unfit _ _ valid rfl rfl ?_,
    writesInvalid_of_unfit _ _ validCrowded rfl rfl ?_, writesInvalid_of_unfit _ _ valid rfl rfl id⟩
  · rintro ⟨-, short, -⟩
    have := short _ (List.mem_cons_self ..) _ rfl
    omega
  · rintro ⟨-, short, -⟩
    have := short _ rfl
    omega
  · rintro ⟨-, room⟩
    exact absurd (room (by decide)).1 (by decide +kernel)

end Relayd.EthClient
