import Relayd.EthClient.Net
import Relayd.EthClient.Review
import Relayd.FeedHandler.Steps

/-!
# A merge that fails

`mergeSourcePollingToConfig` and `mergeSourceToFeedConfig` on one record, with
every way they can end. The tables give out the objects they hold, and a merge
writes into such an object before its cast is known to go through. So a merge
that fails leaves the table as it was exactly when it fails before it writes, or
writes what was there.
-/

namespace Relayd
set_option autoImplicit false
open Relayd.Common Sys

/-- A record of a stream. -/
structure StreamRecord (α : Type) where
  key : Option String
  value : α

namespace EthClient

/-- The service of an instance, and its table of sources. -/
structure MergeProcess where
  service : EthConnectService := {}
  sourceTable : String → Option FeedSourceConfigWrap := fun _ => none

/-- The JSON of what the errors of a merge show. -/
structure MergeJson where
  record : StreamRecord SourcePollingInfo → String
  info : SourcePollingInfo → String
  wrap : FeedSourceConfigWrap → String

/-- Load a source config, wrapped with its feed id, from the table. -/
def getSourceFromTable (json : MergeJson) (sourceTable : String → Option FeedSourceConfigWrap) (keyId : String) :
    Except String (Option FeedSourceConfigWrap) :=
  match sourceTable keyId with
  | none => .ok none
  | some sourceFeedWrap =>
    if sourceFeedWrap.feedId = "" then
      .error (errorText ("Failed to extract Wrapped Source config '" ++ keyId ++ "' from kTable \n"
        ++ errorText ("Invalid feed-wrapped Source config '" ++ keyId ++ "'\n" ++ json.wrap sourceFeedWrap)))
    else
      .ok (some sourceFeedWrap)

/-- The process with the entry in its table, when the table's storage gives out the objects it holds. -/
def MergeProcess.holding (process : MergeProcess) (aliased : Bool) (keyId : String) (feedSourceWrap : FeedSourceConfigWrap) :
    MergeProcess :=
  { process with
    sourceTable := if aliased then Function.update process.sourceTable keyId (some feedSourceWrap) else process.sourceTable }

/-- Changes the source of the loaded entry. -/
def writeSource (aliased : Bool) (keyId : String) (feedSourceWrap : FeedSourceConfigWrap) :
    Traced MergeProcess Event Unit :=
  Traced.update fun process => process.holding aliased keyId feedSourceWrap

section
variable (config : RelaydConfig) (client : Client) (env : Env) (json : MergeJson) (aliased : Bool)

/-- Casts the source of the loaded entry. The cast puts its note on that source before it may fail. -/
def castHeldSource (sourceId : String) (feedSourceWrap : FeedSourceConfigWrap) :
    Traced MergeProcess Event (Except String Unit) := do
  let (noted, cast) ← Traced.within MergeProcess.service (fun process service => { process with service := service })
    (castSourceConfig config client env .SOURCE_CONFIG feedSourceWrap.feedId feedSourceWrap.source .HANDLING_SUCCESS
      (some "Update Source data handling"))
  writeSource aliased sourceId { feedSourceWrap with source := noted }
  return cast

/-- The merge of a polling change into the loaded entry. -/
def mergeIntoSource (sourceId : String) (feedSourceWrap : FeedSourceConfigWrap) (sourcePollingInfo : SourcePollingInfo)
    (now : String) : Traced MergeProcess Event (Except String Unit) :=
  match reviewSourceHandling config feedSourceWrap.source.handle sourcePollingInfo now with
  | .error error =>
    return .error (errorText ("Failed to review Source polling handle for '" ++ feedSourceWrap.feedId ++ "' \n"
      ++ errorText error))
  | .ok newHandleRes => do
    let feedSourceWrap := { feedSourceWrap with source := { feedSourceWrap.source with handle := some newHandleRes } }
    writeSource aliased sourceId feedSourceWrap
    let cast ← castHeldSource config client env aliased sourceId feedSourceWrap
    return rethrow ("Failed to cast merged feed-source config '" ++ sourceId ++ "'\n") cast

/-- The merge of a polling change into the source of the table. -/
def mergeSource (sourceId : String) (sourcePollingInfo : SourcePollingInfo) (now : String) :
    Traced MergeProcess Event (Except String Unit) := do
  let process ← Traced.read
  match getSourceFromTable json process.sourceTable sourceId with
  | .error error => return .error error
  | .ok none =>
    return .error (errorText ("No target source config '" ++ sourceId ++ "' found for merging source polling '"
      ++ sourcePollingInfo.source ++ "'"))
  | .ok (some feedSourceWrap) =>
    mergeIntoSource config client env aliased sourceId feedSourceWrap sourcePollingInfo now

/-- `mergeSourcePollingToConfig`, on a record of `SOURCE_POLLING`. -/
def mergeSourcePollingRecord (sourcePollingRecord : StreamRecord SourcePollingInfo) (now : String) :
    Traced MergeProcess Event (Except String Unit) :=
  match sourcePollingRecord.key with
  | none =>
    return .error (errorText ("Source polling record on '" ++ ETopic.SOURCE_POLLING.text ++ "' has no source ID key \n"
      ++ json.record sourcePollingRecord))
  | some sourceId => do
    let merged ← mergeSource config client env json aliased sourceId sourcePollingRecord.value now
    return rethrow ("Failed to merge source polling info into Source config '" ++ sourceId ++ "' \n"
      ++ json.info sourcePollingRecord.value ++ " \n\n") merged

end

/-- **How a merge ends**: refused before it writes, rejected by the cast after it wrote, or cast. -/
inductive MergeEnd (env : Env) (process : MergeProcess) (aliased : Bool) (sourceId : String)
    (merged : Option FeedSourceConfigWrap) : Called MergeProcess Event (Except String Unit) → Prop
  | refused (error : String) (none : merged = none) : MergeEnd env process aliased sourceId merged ⟨.error error, process, []⟩
  | rejected (error : String) (upd : FeedSourceConfigWrap) (some : merged = some upd)
    (rejects : ¬ env.Takes .SOURCE_CONFIG upd.feedId upd.source) :
    MergeEnd env process aliased sourceId merged ⟨.error error, process.holding aliased sourceId upd, []⟩
  | cast (upd : FeedSourceConfigWrap) (some : merged = some upd) (takes : env.Takes .SOURCE_CONFIG upd.feedId upd.source) :
    MergeEnd env process aliased sourceId merged
      ⟨.ok (), process.holding aliased sourceId upd, [.sourceCast .SOURCE_CONFIG upd.feedId upd.source]⟩

section
variable (config : RelaydConfig) (client : Client) (env : Env) (json : MergeJson) (aliased : Bool)

variable {config client env json aliased} in
/-- The errors of a merge are given in other words. -/
theorem MergeEnd.rethrow {process : MergeProcess} {sourceId : String} {merged : Option FeedSourceConfigWrap}
    {m : Traced MergeProcess Event (Except String Unit)} (ended : MergeEnd env process aliased sourceId merged (m process))
    (message : String) :
    MergeEnd env process aliased sourceId merged ((m >>= fun result => pure (Common.rethrow message result)) process) := by
  rw [Traced.bind_apply]
  cases call : m process with
  | mk value state events =>
    rw [call] at ended
    rw [Traced.pure_apply, List.append_nil]
    cases ended with
    | refused error none => exact .refused _ none
    | rejected error upd some rejects => exact .rejected _ upd some rejects
    | cast upd some takes => exact .cast upd some takes

/-- Of two writes into an entry, the second one stays. -/
theorem holding_twice (process : MergeProcess) (sourceId : String) (first upd : FeedSourceConfigWrap) :
    (process.holding aliased sourceId first).holding aliased sourceId upd = process.holding aliased sourceId upd := by
  cases aliased with
  | false => rfl
  | true => simp only [MergeProcess.holding, ↓reduceIte, Function.update_idem]

/-- The entry with the note of the cast. -/
def notedWrap (wrap : FeedSourceConfigWrap) : FeedSourceConfigWrap :=
  { wrap with
    source := issueSourceProcessingNote config client.serviceId wrap.source .HANDLING_SUCCESS
      (some "Update Source data handling") }

/-- The note is on the loaded entry, whether the cast fails or not. -/
theorem castHeldSource_end (process : MergeProcess) (sourceId : String) (wrap : FeedSourceConfigWrap) :
    MergeEnd env process aliased sourceId (some (notedWrap config client wrap))
      (castHeldSource config client env aliased sourceId wrap process) := by
  unfold castHeldSource
  rcases castSourceConfig_takes config client env .SOURCE_CONFIG wrap.feedId wrap.source .HANDLING_SUCCESS
      (some "Update Source data handling") process.service with ⟨rejects, error, failed⟩ | ⟨takes, written⟩
  · simp only [Traced.bind_apply, Traced.within_apply, failed]
    exact .rejected error _ rfl rejects
  · simp only [Traced.bind_apply, Traced.within_apply, written]
    exact .cast _ rfl takes

variable {config client env aliased} in
/-- A write into the entry before it is written again makes no difference. -/
theorem MergeEnd.of_holding {process : MergeProcess} {sourceId : String} {first upd : FeedSourceConfigWrap}
    {call : Called MergeProcess Event (Except String Unit)}
    (ended : MergeEnd env (process.holding aliased sourceId first) aliased sourceId (some upd) call) :
    MergeEnd env process aliased sourceId (some upd) call := by
  cases ended with
  | refused error none => cases none
  | rejected error upd' same rejects =>
    rw [holding_twice]
    exact .rejected error upd' same rejects
  | cast upd' same takes =>
    rw [holding_twice]
    exact .cast upd' same takes

theorem mergeIntoSource_end (process : MergeProcess) (sourceId : String) (wrap : FeedSourceConfigWrap)
    (known : wrap.feedId ≠ "") (info : SourcePollingInfo) (now : String) :
    MergeEnd env process aliased sourceId (mergeSourcePolling config client.serviceId (some wrap) info now)
      (mergeIntoSource config client env aliased sourceId wrap info now process) := by
  simp only [mergeSourcePolling, known, ↓reduceIte]
  unfold mergeIntoSource
  cases reviewSourceHandling config wrap.source.handle info now with
  | error error => exact .refused _ rfl
  | ok handle =>
    let reviewed := { wrap with source := { wrap.source with handle := some handle } }
    have ended := castHeldSource_end config client env aliased (process.holding aliased sourceId reviewed) sourceId reviewed
    exact (ended.rethrow ("Failed to cast merged feed-source config '" ++ sourceId ++ "'\n")).of_holding

theorem mergeSource_end (process : MergeProcess) (sourceId : String) (info : SourcePollingInfo) (now : String) :
    MergeEnd env process aliased sourceId (mergeSourcePolling config client.serviceId (process.sourceTable sourceId) info now)
      (mergeSource config client env json aliased sourceId info now process) := by
  rw [mergeSource, Traced.read_bind_apply, getSourceFromTable]
  cases entry : process.sourceTable sourceId with
  | none => exact .refused _ rfl
  | some wrap =>
    by_cases anonymous : wrap.feedId = ""
    · simp only [anonymous, ↓reduceIte]
      exact .refused _ (by simp only [mergeSourcePolling, anonymous, ↓reduceIte])
    · simp only [anonymous, ↓reduceIte]
      exact mergeIntoSource_end config client env aliased process sourceId wrap anonymous info now

theorem mergeSourcePollingRecord_end (process : MergeProcess) (sourceId : String) (info : SourcePollingInfo) (now : String) :
    MergeEnd env process aliased sourceId (mergeSourcePolling config client.serviceId (process.sourceTable sourceId) info now)
      (mergeSourcePollingRecord config client env json aliased { key := some sourceId, value := info } now process) :=
  (mergeSource_end config client env json aliased process sourceId info now).rethrow _

end

/-- The merge left the table as it was, and wrote no record of `SOURCE_CONFIG`. -/
structure LeftAsWas (process : MergeProcess) (call : Called MergeProcess Event (Except String Unit)) : Prop where
  table : call.state.sourceTable = process.sourceTable
  unwritten : recasts call.events = []

/-- The merge has no valid entry to write into, or the review of the entry's handles throws. -/
def Refuses (config : RelaydConfig) (stored : Option FeedSourceConfigWrap) (info : SourcePollingInfo) (now : String) :
    Prop :=
  ∀ wrap, stored = some wrap →
    wrap.feedId = "" ∨ ∃ error, reviewSourceHandling config wrap.source.handle info now = .error error

section
variable {config : RelaydConfig} {client : Client} {env : Env} {json : MergeJson} {aliased : Bool}
  {process : MergeProcess} {info : SourcePollingInfo} {now : String}

theorem mergeSourcePolling_none_iff {serviceId : String} {stored : Option FeedSourceConfigWrap} :
    mergeSourcePolling config serviceId stored info now = none ↔ Refuses config stored info now := by
  cases stored with
  | none => simp only [mergeSourcePolling, Refuses, reduceCtorEq, false_implies, implies_true]
  | some wrap =>
    simp only [mergeSourcePolling, Refuses, Option.some.injEq, forall_eq']
    by_cases anonymous : wrap.feedId = ""
    · simp only [anonymous, ↓reduceIte, true_or]
    · cases reviewSourceHandling config wrap.source.handle info now with
      | error error => simp [anonymous]
      | ok handle => simp [anonymous]

/-- A merge changes its entry: a review that passes changes the handle list. -/
theorem mergeSourcePolling_changes {serviceId : String} {stored : Option FeedSourceConfigWrap} {upd : FeedSourceConfigWrap}
    (merged : mergeSourcePolling config serviceId stored info now = some upd) : stored ≠ some upd := by
  obtain ⟨entry, result⟩ := mergeSourcePolling_some merged
  obtain ⟨handle, passed, held⟩ := result.handle
  rw [result.stored]
  rintro ⟨⟩
  rcases review_cases config upd.source.handle info now with ⟨error, failed, -⟩ | ⟨handles, done, reviewed, -⟩
  · rw [failed] at passed
    cases passed
  · rw [done] at passed
    cases passed
    rw [held, Option.getD_some] at reviewed
    exact reviewed.ne rfl

/-- **A failed merge of a polling change** leaves the table as it was exactly when it is refused before the review
is passed. -/
theorem failed_merge_left_iff {sourcePollingRecord : StreamRecord SourcePollingInfo} {error : String}
    (failed : (mergeSourcePollingRecord config client env json true sourcePollingRecord now process).value = .error error) :
    LeftAsWas process (mergeSourcePollingRecord config client env json true sourcePollingRecord now process) ↔
      ∀ sourceId, sourcePollingRecord.key = some sourceId →
        Refuses config (process.sourceTable sourceId) sourcePollingRecord.value now := by
  obtain ⟨key, info⟩ := sourcePollingRecord
  cases key with
  | none =>
    constructor
    · rintro - sourceId ⟨⟩
    · intro _
      exact ⟨rfl, rfl⟩
  | some sourceId =>
    simp only [Option.some.injEq, forall_eq']
    have refuses : mergeSourcePolling config client.serviceId (process.sourceTable sourceId) info now = none ↔
        Refuses config (process.sourceTable sourceId) info now := mergeSourcePolling_none_iff
    rw [← refuses]
    have ended := mergeSourcePollingRecord_end config client env json true process sourceId info now
    generalize mergeSourcePollingRecord config client env json true ⟨some sourceId, info⟩ now process = call at *
    cases ended with
    | refused error' none =>
      simp only [none, iff_true]
      exact ⟨rfl, rfl⟩
    | rejected error' upd some rejects =>
      simp only [some, reduceCtorEq, iff_false]
      intro left
      have same := left.table
      simp only [MergeProcess.holding, ↓reduceIte, Function.update_eq_self_iff] at same
      exact mergeSourcePolling_changes some same.symm
    | cast upd some takes => cases failed

/-- A table that gives out copies is as it was, however the merge ends. -/
theorem merge_copies (sourcePollingRecord : StreamRecord SourcePollingInfo) :
    (mergeSourcePollingRecord config client env json false sourcePollingRecord now process).state.sourceTable =
      process.sourceTable := by
  obtain ⟨key, info⟩ := sourcePollingRecord
  cases key with
  | none => rfl
  | some sourceId =>
    have ended := mergeSourcePollingRecord_end config client env json false process sourceId info now
    generalize mergeSourcePollingRecord config client env json false ⟨some sourceId, info⟩ now process = call at *
    cases ended <;> rfl

theorem mergeSourcePolling_takes (casts : env.CastsFor .HANDLING_SUCCESS) {serviceId : String}
    {stored : Option FeedSourceConfigWrap} {upd : FeedSourceConfigWrap}
    (merged : mergeSourcePolling config serviceId stored info now = some upd) : env.Takes .SOURCE_CONFIG upd.feedId upd.source := by
  unfold mergeSourcePolling at merged
  split at merged
  · cases merged
  · split at merged
    · cases merged
    · split at merged
      · cases merged
      · cases merged
        exact casts _ _ _ _ rfl rfl

/-- **The merge of the net** is this one, when its cast goes through. -/
theorem merge_step {ι : Type} [DecidableEq ι] {clients : ι → Client} {net : Net ι} {i : ι} {sourceId : String}
    (next : net.sourcePolling.next net.merged sourceId = some info) (casts : env.CastsFor .HANDLING_SUCCESS) :
    let call := mergeSourcePollingRecord config (clients i) env json aliased { key := some sourceId, value := info } now
      { service := net.services i, sourceTable := net.sourceTable }
    ∃ accepted, net.step config clients aliased (.merge i sourceId now) = some { net with
      merged := net.merged.advance sourceId
      sourceConfig := net.sourceConfig.appendAll (recasts call.events)
      sourceTable := call.state.sourceTable
      accepted := accepted } := by
  intro call
  have ended := mergeSourcePollingRecord_end config (clients i) env json aliased
    { service := net.services i, sourceTable := net.sourceTable } sourceId info now
  change MergeEnd env _ aliased sourceId _ call at ended
  simp only [Net.step, next, Option.map_some, Option.some.injEq]
  generalize call = call' at *
  cases ended with
  | refused error none =>
    rw [none]
    exact ⟨net.accepted, rfl⟩
  | rejected error upd some rejects => exact absurd (mergeSourcePolling_takes casts some) rejects
  | cast upd some takes =>
    rw [some]
    exact ⟨_, rfl⟩

end

end EthClient

namespace FeedHandler

section
variable (aliased : Bool) (writeFails : FeedConfig → Bool) (json : StreamRecord FeedConfigSource → String)

/-- The merge of a source update into the loaded feed, which is changed before its cast may fail. -/
def mergeIntoFeed (s : FeedHandlerService) (feedId : String) (ref : Nat) (feedConfig : FeedConfig)
    (sourceConfig : FeedConfigSource) : Except String Unit × FeedHandlerService :=
  let feedConfig := { feedConfig with source := sourceConfig }
  let s := { s with heap := s.heap.write ref feedConfig }
  if writeFails feedConfig then
    (.error (errorText ("Failed to cast merged feed-source config '" ++ feedId ++ "'\n"
      ++ errorText ("Failed to cast Feed config update for '" ++ feedConfig.id ++ "' \n"
        ++ writeToStreamError .FEED_CONFIG feedConfig.id))), s)
  else
    (.ok (), s.castFeedConfig ref false)

/-- `mergeSourceToFeedConfig`, on a record of `SOURCE_CONFIG`, when the casts of some feeds are rejected. -/
def mergeSourceConfigRecord (s : FeedHandlerService) (sourceConfigRecord : StreamRecord FeedConfigSource) :
    Except String Unit × FeedHandlerService :=
  let sourceConfig := sourceConfigRecord.value
  match sourceConfigRecord.key with
  | none =>
    (.error (errorText ("Source config record on '" ++ ETopic.SOURCE_CONFIG.text ++ "' has no feed ID key\n"
      ++ json sourceConfigRecord)), s)
  | some feedId =>
    let (loaded, s) := s.loadFeedFromTable aliased feedId
    let (merged, s) :=
      match loaded.bind fun ref => (s.heap.deref ref).map fun feedConfig => (ref, feedConfig) with
      | none =>
        (.error (errorText ("No target feed config '" ++ feedId ++ "' found for merging source '" ++ sourceConfig.contract
          ++ "'")), s)
      | some (ref, feedConfig) => mergeIntoFeed writeFails s feedId ref feedConfig sourceConfig
    (rethrow ("Failed to merge Source '" ++ sourceConfig.contract ++ "' to Feed '" ++ feedId ++ "'\n") merged, s)

end

/-- **How a merge ends**, over a table that gives out the feeds it holds. -/
inductive MergeEnd (writeFails : FeedConfig → Bool) (s : FeedHandlerService) (feedId : String) (source : FeedConfigSource) :
    Except String Unit × FeedHandlerService → Prop
  | unknown (error : String) (absent : s.stored feedId = none) : MergeEnd writeFails s feedId source (.error error, s)
  | rejected (error : String) (ref : Nat) (feed : FeedConfig) (entry : s.feedConfigTable feedId = some ref)
    (object : s.heap.deref ref = some feed) (rejects : writeFails { feed with source := source } = true) :
    MergeEnd writeFails s feedId source (.error error, { s with heap := s.heap.write ref { feed with source := source } })
  | cast (ref : Nat) (feed : FeedConfig) (entry : s.feedConfigTable feedId = some ref) (object : s.heap.deref ref = some feed)
    (takes : writeFails { feed with source := source } = false) :
    MergeEnd writeFails s feedId source
      (.ok (), { s with heap := s.heap.write ref { feed with source := source } }.castFeedConfig ref false)

section
variable {writeFails : FeedConfig → Bool} {json : StreamRecord FeedConfigSource → String} {s : FeedHandlerService}

theorem mergeSourceConfigRecord_end (feedId : String) (source : FeedConfigSource) :
    MergeEnd writeFails s feedId source
      (mergeSourceConfigRecord true writeFails json s { key := some feedId, value := source }) := by
  unfold mergeSourceConfigRecord
  cases entry : s.feedConfigTable feedId with
  | none =>
    simp only [FeedHandlerService.loadFeedFromTable, entry]
    exact .unknown _ (by simp only [FeedHandlerService.stored, entry, Option.bind_none])
  | some ref =>
    simp only [FeedHandlerService.loadFeedFromTable, entry, ↓reduceIte, Option.bind_some]
    cases object : s.heap.deref ref with
    | none => exact .unknown _ (by simp only [FeedHandlerService.stored, entry, Option.bind_some, object])
    | some feed =>
      simp only [Option.map_some, mergeIntoFeed]
      cases fails : writeFails { feed with source := source } with
      | true => exact .rejected _ ref feed entry object fails
      | false => exact .cast ref feed entry object fails

end

/-- The merge left the table as it was, and cast no record of `FEED_CONFIG`. -/
structure LeftAsWas (s s' : FeedHandlerService) : Prop where
  table : ∀ feedId, s'.stored feedId = s.stored feedId
  unwritten : s'.feedConfig = s.feedConfig ∧ s'.feedCasts = s.feedCasts

section
variable {writeFails : FeedConfig → Bool} {json : StreamRecord FeedConfigSource → String} {s : FeedHandlerService}

/-- **A failed merge of a source update** leaves the table as it was exactly when the table has no feed to write
into, or a feed with that source. -/
theorem failed_merge_left_iff {sourceConfigRecord : StreamRecord FeedConfigSource} {error : String}
    (failed : (mergeSourceConfigRecord true writeFails json s sourceConfigRecord).1 = .error error) :
    LeftAsWas s (mergeSourceConfigRecord true writeFails json s sourceConfigRecord).2 ↔
      ∀ feedId, sourceConfigRecord.key = some feedId → ∀ feed, s.stored feedId = some feed →
        feed.source = sourceConfigRecord.value := by
  obtain ⟨key, source⟩ := sourceConfigRecord
  cases key with
  | none =>
    constructor
    · rintro - feedId ⟨⟩
    · intro _
      exact ⟨fun _ => rfl, rfl, rfl⟩
  | some feedId =>
    simp only [Option.some.injEq, forall_eq']
    have ended : MergeEnd writeFails s feedId source (mergeSourceConfigRecord true writeFails json s ⟨some feedId, source⟩) :=
      mergeSourceConfigRecord_end feedId source
    generalize mergeSourceConfigRecord true writeFails json s ⟨some feedId, source⟩ = result at *
    cases ended with
    | unknown error' absent =>
      simp only [absent, reduceCtorEq, false_implies, implies_true, iff_true]
      exact ⟨fun _ => rfl, rfl, rfl⟩
    | rejected error' ref feed entry object rejects =>
      have stored : s.stored feedId = some feed := by simp only [FeedHandlerService.stored, entry, Option.bind_some, object]
      simp only [stored, Option.some.injEq, forall_eq']
      constructor
      · intro left
        have same := left.table feedId
        simp only [FeedHandlerService.stored, entry, Option.bind_some, object, Heap.deref_write_same _ object,
          Option.some.injEq] at same
        rw [← same]
      · rintro rfl
        have unchanged : s.heap.write ref { feed with source := feed.source } = s.heap := Heap.write_held object
        rw [unchanged]
        exact ⟨fun _ => rfl, rfl, rfl⟩
    | cast ref feed entry object takes => cases failed

/-- **The merge of the feed handler** is this one, when its cast goes through. -/
theorem merge_step (takes : ∀ feed, writeFails feed = false) (aliased : Bool) (feedId : String) (source : FeedConfigSource) :
    (mergeSourceConfigRecord aliased writeFails json s { key := some feedId, value := source }).2 =
      s.mergeSourceToFeedConfig aliased feedId source := by
  rcases loaded : s.loadFeedFromTable aliased feedId with ⟨ref, s'⟩
  simp only [mergeSourceConfigRecord, FeedHandlerService.mergeSourceToFeedConfig, loaded]
  cases ref with
  | none => rfl
  | some ref =>
    simp only [Option.bind_some]
    cases s'.heap.deref ref with
    | none => rfl
    | some feed => simp only [Option.map_some, mergeIntoFeed, takes, Bool.false_eq_true, ↓reduceIte]

theorem castFeedConfig_stored (ref : Nat) (castSourceConfig : Bool) (feedId : String) :
    (s.castFeedConfig ref castSourceConfig).stored feedId = s.stored feedId := by
  unfold FeedHandlerService.castFeedConfig
  cases s.heap.deref ref <;> rfl

/-- A write into a copy leaves the feeds of the table. -/
theorem stored_write_copy (linked : Linked s) (copy upd : FeedConfig) (feedId : String) :
    ({ s with heap := (s.heap.alloc copy).write s.heap.length upd } : FeedHandlerService).stored feedId = s.stored feedId := by
  unfold FeedHandlerService.stored
  cases entry : s.feedConfigTable feedId with
  | none => rfl
  | some ref =>
    obtain ⟨feed, object, -⟩ := linked.table feedId ref entry
    have other : ref ≠ s.heap.length := Nat.ne_of_lt (List.getElem?_eq_some_iff.1 object).1
    simp only [Option.bind_some, Heap.deref_write_other upd other, Heap.deref_alloc copy object, object]

/-- A table that gives out copies is as it was, however the merge ends. -/
theorem merge_copies (linked : Linked s) (sourceConfigRecord : StreamRecord FeedConfigSource) (feedId : String) :
    (mergeSourceConfigRecord false writeFails json s sourceConfigRecord).2.stored feedId = s.stored feedId := by
  obtain ⟨key, source⟩ := sourceConfigRecord
  unfold mergeSourceConfigRecord
  cases key with
  | none => rfl
  | some feedId' =>
    cases entry : s.feedConfigTable feedId' with
    | none => simp only [FeedHandlerService.loadFeedFromTable, entry, Option.bind_none]
    | some ref =>
      obtain ⟨feed, object, -⟩ := linked.table feedId' ref entry
      simp only [FeedHandlerService.loadFeedFromTable, entry, object, Bool.false_eq_true, ↓reduceIte, Option.bind_some,
        Heap.deref_alloc_new, Option.map_some, mergeIntoFeed]
      split
      · exact stored_write_copy linked feed _ feedId
      · exact (castFeedConfig_stored _ _ feedId).trans (stored_write_copy linked feed _ feedId)

end

end FeedHandler

open EthClient FeedHandler

/-! ## Merges whose casts are rejected -/

def rejectingEnv : Env := { silentEnv with writeFails := fun _ => true }

def emptyJson : MergeJson := { record := fun _ => "{}", info := fun _ => "{}", wrap := fun _ => "{}" }

/-- A process whose table holds the source of the sample feed. -/
def sampleProcess : MergeProcess where
  sourceTable := fun sourceId =>
    if sourceId = proxyAddress then some { feedId := feedConfigPriceBtcUsd.id, source := feedConfigPriceBtcUsd.source } else none

def sampleChange (change : ESourcePollingChange) : StreamRecord SourcePollingInfo where
  key := some proxyAddress
  value := { source := proxyAddress, issuer := mainClient.serviceId, change := change, info := none }

/-- The merge of a change into the sample source. -/
def sampleMerge (change : ESourcePollingChange) : Called MergeProcess Event (Except String Unit) :=
  mergeSourcePollingRecord RelaydConfig.prod mainClient rejectingEnv emptyJson true (sampleChange change) "2022-05-01T00:00:00.000Z"
    sampleProcess

/-- A feed handler whose table holds the sample feed. -/
def sampleHandler : FeedHandlerService where
  heap := [feedConfigPriceBtcUsd]
  feedConfigTable := fun feedId => if feedId = feedConfigPriceBtcUsd.id then some 0 else none

/-- The merge of a source update into the sample feed. -/
def sampleFeedMerge (source : FeedConfigSource) : Except String Unit × FeedHandlerService :=
  mergeSourceConfigRecord true (fun _ => true) (fun _ => "{}") sampleHandler
    { key := some feedConfigPriceBtcUsd.id, value := source }

/-! ## Failed merges of either table -/

/-- **A failed merge leaves the table as it was exactly when** it writes nothing into the entry, or what was there: of
a polling change, when the key has no valid entry or the review throws; of a source update, when the table has no feed
for the key, or one with that source. -/
theorem failed_merges_left_iff (config : RelaydConfig) (client : Client) (env : Env) (json : MergeJson)
    (process : MergeProcess) (sourcePollingRecord : StreamRecord SourcePollingInfo) (now : String)
    (writeFails : FeedConfig → Bool) (recordJson : StreamRecord FeedConfigSource → String) (s : FeedHandlerService)
    (sourceConfigRecord : StreamRecord FeedConfigSource) :
    (∀ error,
      (mergeSourcePollingRecord config client env json true sourcePollingRecord now process).value = .error error →
      (EthClient.LeftAsWas process (mergeSourcePollingRecord config client env json true sourcePollingRecord now process) ↔
        ∀ sourceId, sourcePollingRecord.key = some sourceId →
          Refuses config (process.sourceTable sourceId) sourcePollingRecord.value now)) ∧
    ∀ error,
      (mergeSourceConfigRecord true writeFails recordJson s sourceConfigRecord).1 = .error error →
      (FeedHandler.LeftAsWas s (mergeSourceConfigRecord true writeFails recordJson s sourceConfigRecord).2 ↔
        ∀ feedId, sourceConfigRecord.key = some feedId → ∀ feed, s.stored feedId = some feed →
          feed.source = sourceConfigRecord.value) :=
  ⟨fun _ failed => EthClient.failed_merge_left_iff failed, fun _ failed => FeedHandler.failed_merge_left_iff failed⟩

/-- The removal of a polling that is not listed is refused, and a source that the feed has already changes nothing. -/
theorem sampleMerges_left :
    EthClient.LeftAsWas sampleProcess (sampleMerge .REMOVE_PERIODIC) ∧
      FeedHandler.LeftAsWas sampleHandler (sampleFeedMerge feedConfigPriceBtcUsd.source).2 := by
  have left_iff := failed_merges_left_iff RelaydConfig.prod mainClient rejectingEnv emptyJson sampleProcess
    (sampleChange .REMOVE_PERIODIC) "2022-05-01T00:00:00.000Z" (fun _ => true) (fun _ => "{}") sampleHandler
    { key := some feedConfigPriceBtcUsd.id, value := feedConfigPriceBtcUsd.source }
  constructor
  · refine (left_iff.1 _ rfl).2 ?_
    rintro sourceId ⟨⟩ wrap ⟨⟩
    exact Or.inr ⟨_, rfl⟩
  · refine (left_iff.2 _ rfl).2 ?_
    rintro feedId ⟨⟩ feed ⟨⟩
    rfl

/-- The registration of a polling whose cast is rejected stays in the table, with the note of the cast, and so does
a source whose feed cannot be cast. -/
theorem sampleMerges_kept :
    ((∃ error, (sampleMerge .ADD_PERIODIC).value = .error error) ∧
      (sampleMerge .ADD_PERIODIC).state.sourceTable proxyAddress = some {
        feedId := feedConfigPriceBtcUsd.id
        source := { feedConfigPriceBtcUsd.source with
          handle := some [{ handler := mainClient.serviceId, type := .TIMEPERIOD, time := "2022-05-01T00:00:00.000Z" }]
          issue := some [{ issuer := mainClient.serviceId, type := .HANDLING_SUCCESS
                           info := some "Update Source data handling" }] } } ∧
      ¬ EthClient.LeftAsWas sampleProcess (sampleMerge .ADD_PERIODIC)) ∧
    (∃ error, (sampleFeedMerge { feedConfigPriceBtcUsd.source with status := some .OK }).1 = .error error) ∧
      ((sampleFeedMerge { feedConfigPriceBtcUsd.source with status := some .OK }).2.stored feedConfigPriceBtcUsd.id).map
        (fun feed => feed.source.status) = some (some .OK) ∧
      ¬ FeedHandler.LeftAsWas sampleHandler (sampleFeedMerge { feedConfigPriceBtcUsd.source with status := some .OK }).2 := by
  refine ⟨⟨⟨_, rfl⟩, rfl, ?_⟩, ⟨_, rfl⟩, rfl, ?_⟩
  · intro left
    have same := congrFun left.table proxyAddress
    exact absurd same (by decide)
  · intro left
    have same := left.table feedConfigPriceBtcUsd.id
    exact absurd same (by decide)

end Relayd
