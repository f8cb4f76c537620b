import Relayd.Lib.Run
import Relayd.Lib.Topic
import Relayd.EthClient.Handling
import Relayd.EthClient.Recasts

/-!
# ETH clients around two topics

The instances of the ETH client, the topics `SOURCE_CONFIG` (keyed by feed) and
`SOURCE_POLLING` (keyed by contract), and their three consumers:
`handleSourceConfig`, the source table (keyed by contract) and the stream that
merges polling changes into the sources of that table. Any action may come
after any other.
-/

namespace Relayd.EthClient
set_option autoImplicit false
open Relayd.Common Sys

/-- `mergeSourcePollingToConfig`, on a record of `SOURCE_POLLING` and the table's entry for its key: the
source to cast, or `none` when the merge ends in an error, which goes to `ERROR_SOURCE`. -/
def mergeSourcePolling (config : RelaydConfig) (serviceId : String) (stored : Option FeedSourceConfigWrap)
    (sourcePollingInfo : SourcePollingInfo) (now : String) : Option FeedSourceConfigWrap :=
  match stored with
  | none => none
  | some feedSourceWrap =>
    if feedSourceWrap.feedId = "" then none
    else
      match reviewSourceHandling config feedSourceWrap.source.handle sourcePollingInfo now with
      | .error _ => none
      | .ok newHandleRes =>
        let sourceConfig := { feedSourceWrap.source with handle := some newHandleRes }
        some { feedSourceWrap with
          source := issueSourceProcessingNote config serviceId sourceConfig .HANDLING_SUCCESS
            (some "Update Source data handling") }

/-- **What a merge does**: it casts the source of the table's entry, with the reviewed handle list. -/
structure Merged (config : RelaydConfig) (stored : Option FeedSourceConfigWrap) (info : SourcePollingInfo) (now : String)
    (entry upd : FeedSourceConfigWrap) : Prop where
  stored : stored = some entry
  feedId : upd.feedId = entry.feedId
  contract : upd.source.contract = entry.source.contract
  network : upd.source.network = entry.source.network
  status : upd.source.status = entry.source.status
  handle : ∃ handle, reviewSourceHandling config entry.source.handle info now = .ok handle ∧
    upd.source.handle = some handle

theorem mergeSourcePolling_some {config : RelaydConfig} {serviceId now : String} {stored : Option FeedSourceConfigWrap}
    {info : SourcePollingInfo} {upd : FeedSourceConfigWrap}
    (merged : mergeSourcePolling config serviceId stored info now = some upd) :
    ∃ entry, Merged config stored info now entry upd := by
  unfold mergeSourcePolling at merged
  cases stored with
  | none => cases merged
  | some entry =>
    simp only at merged
    split at merged
    · cases merged
    · cases review : reviewSourceHandling config entry.source.handle info now with
      | error error =>
        rw [review] at merged
        cases merged
      | ok handle =>
        rw [review] at merged
        cases merged
        exact ⟨entry, rfl, rfl, rfl, rfl, rfl, handle, review, rfl⟩

/-- The records written on `SOURCE_POLLING`. -/
def announcements (events : List Event) : List (String × SourcePollingInfo) :=
  events.filterMap fun
    | .pollingCast sourceId info => some (sourceId, info)
    | _ => none

theorem mem_announcements {events : List Event} {sourceId : String} {info : SourcePollingInfo} :
    (sourceId, info) ∈ announcements events ↔ .pollingCast sourceId info ∈ events := by
  unfold announcements
  constructor
  · intro member
    obtain ⟨e, member, cast⟩ := List.mem_filterMap.1 member
    split at cast
    · cases cast
      exact member
    · cases cast
  · intro member
    exact List.mem_filterMap.2 ⟨_, member, rfl⟩

/-- The instances `ι`, the topics and their consumers. -/
structure Net (ι : Type) where
  services : ι → EthConnectService := fun _ => {}
  sourceConfig : Topic String FeedConfigSource := fun _ => []
  sourcePolling : Topic String SourcePollingInfo := fun _ => []
  /-- What `handleSourceConfig` has consumed -/
  handled : Cursor String := fun _ => 0
  /-- What the source table has consumed -/
  tabled : Cursor String := fun _ => 0
  /-- What the merge stream has consumed -/
  merged : Cursor String := fun _ => 0
  sourceTable : String → Option FeedSourceConfigWrap := fun _ => none
  /-- The polling changes merged for each contract, with the time of the merge -/
  accepted : String → List (SourcePollingInfo × String) := fun _ => []
  /-- Everything the instances emitted -/
  history : List (String × Event) := []

inductive Action (ι : Type)
  /-- The feed handler casts the source of a feed. -/
  | submit (feedId : String) (source : FeedConfigSource)
  /-- An instance consumes the next source record of a feed. -/
  | consume (i : ι) (env : Env) (feedId : String)
  /-- An instance stops its periodic polling of a contract. -/
  | stopPolling (i : ι) (env : Env) (sourceId : String) (reasonMsg : Option String)
  /-- An instance stops listening to a contract. -/
  | stopListening (i : ι) (env : Env) (sourceId : String) (reasonMsg : Option String)
  /-- Anyone casts a polling change. -/
  | announce (sourceId : String) (info : SourcePollingInfo)
  /-- The merge stream of an instance consumes the next polling change of a contract. -/
  | merge (i : ι) (sourceId : String) (now : String)
  /-- The source table consumes the next source record of a feed. -/
  | table (feedId : String)

namespace Net

variable {ι : Type} [DecidableEq ι]

/-- What a method call of an instance leaves in the net. -/
def called {α : Type} (net : Net ι) (i : ι) (serviceId : String) (call : Called EthConnectService Event α) : Net ι :=
  { net with
    services := Function.update net.services i call.state
    sourceConfig := net.sourceConfig.appendAll (recasts call.events)
    sourcePolling := net.sourcePolling.appendAll (announcements call.events)
    history := net.history ++ call.events.map fun e => (serviceId, e) }

section
variable (config : RelaydConfig) (clients : ι → Client) (aliased : Bool)

/-- One action. With `aliased`, the storage of the source table gives out the objects it holds, and a
merge changes the table's entry in place; else it gives out copies. -/
def step (net : Net ι) : Action ι → Option (Net ι)
  | .submit feedId source => some { net with sourceConfig := net.sourceConfig.append feedId source }
  | .consume i env feedId =>
    (net.sourceConfig.next net.handled feedId).map fun record =>
      { net with handled := net.handled.advance feedId }.called i (clients i).serviceId
        (handleSourceConfig config (clients i) env feedId record (net.services i))
  | .stopPolling i env sourceId reasonMsg =>
    some (net.called i (clients i).serviceId
      (stopSourcePolling (clients i) env sourceId .REMOVE_PERIODIC reasonMsg (net.services i)))
  | .stopListening i env sourceId reasonMsg =>
    some (net.called i (clients i).serviceId
      (stopSourceEventListener (clients i) env sourceId .REMOVE_LISTEN_EVENT reasonMsg (net.services i)))
  | .announce sourceId info => some { net with sourcePolling := net.sourcePolling.append sourceId info }
  | .merge i sourceId now =>
    (net.sourcePolling.next net.merged sourceId).map fun info =>
      let net := { net with merged := net.merged.advance sourceId }
      match mergeSourcePolling config (clients i).serviceId (net.sourceTable sourceId) info now with
      | none => net
      | some upd => { net with
          sourceConfig := net.sourceConfig.append upd.feedId upd.source
          sourceTable := if aliased then Function.update net.sourceTable sourceId (some upd) else net.sourceTable
          accepted := Function.update net.accepted sourceId (net.accepted sourceId ++ [(info, now)]) }
  | .table feedId =>
    (net.sourceConfig.next net.tabled feedId).map fun record =>
      { net with
        tabled := net.tabled.advance feedId
        sourceTable := Function.update net.sourceTable record.contract (some { feedId := feedId, source := record }) }

end

/-- No record of the feed or of the contract is in flight. -/
def Settled (net : Net ι) (feedId sourceId : String) : Prop :=
  CaughtUp net.sourceConfig net.handled feedId ∧ CaughtUp net.sourceConfig net.tabled feedId ∧
    CaughtUp net.sourcePolling net.merged sourceId

omit [DecidableEq ι] in
instance (net : Net ι) (feedId sourceId : String) : Decidable (net.Settled feedId sourceId) :=
  inferInstanceAs (Decidable (_ ∧ _ ∧ _))

/-- **What an action does** to the net. -/
inductive Effect (config : RelaydConfig) (clients : ι → Client) (aliased : Bool) (net : Net ι) : Action ι → Net ι → Prop
  | submit (feedId : String) (source : FeedConfigSource) :
    Effect config clients aliased net (.submit feedId source)
      { net with sourceConfig := net.sourceConfig.append feedId source }
  | consume (i : ι) (env : Env) (feedId : String) (record : FeedConfigSource)
    (next : net.sourceConfig.next net.handled feedId = some record) :
    Effect config clients aliased net (.consume i env feedId)
      ({ net with handled := net.handled.advance feedId }.called i (clients i).serviceId
        (handleSourceConfig config (clients i) env feedId record (net.services i)))
  /-- An instance stops a poller, or has none to stop. -/
  | stop (a : Action ι) (i : ι) (call : Called EthConnectService Event (Except String Unit))
    (stops : ∀ e ∈ call.events, Stops e) :
    Effect config clients aliased net a (net.called i (clients i).serviceId call)
  | announce (sourceId : String) (info : SourcePollingInfo) :
    Effect config clients aliased net (.announce sourceId info)
      { net with sourcePolling := net.sourcePolling.append sourceId info }
  /-- The merge ends in an error. -/
  | ignore (i : ι) (sourceId now : String) (info : SourcePollingInfo)
    (next : net.sourcePolling.next net.merged sourceId = some info) :
    Effect config clients aliased net (.merge i sourceId now) { net with merged := net.merged.advance sourceId }
  | merge (i : ι) (sourceId now : String) (info : SourcePollingInfo) (entry upd : FeedSourceConfigWrap)
    (next : net.sourcePolling.next net.merged sourceId = some info)
    (outcome : mergeSourcePolling config (clients i).serviceId (net.sourceTable sourceId) info now = some upd)
    (result : Merged config (net.sourceTable sourceId) info now entry upd) :
    Effect config clients aliased net (.merge i sourceId now)
      { net with
        merged := net.merged.advance sourceId
        sourceConfig := net.sourceConfig.append upd.feedId upd.source
        sourceTable := if aliased then Function.update net.sourceTable sourceId (some upd) else net.sourceTable
        accepted := Function.update net.accepted sourceId (net.accepted sourceId ++ [(info, now)]) }
  | table (feedId : String) (record : FeedConfigSource) (next : net.sourceConfig.next net.tabled feedId = some record) :
    Effect config clients aliased net (.table feedId)
      { net with
        tabled := net.tabled.advance feedId
        sourceTable := Function.update net.sourceTable record.contract (some { feedId := feedId, source := record }) }

theorem effect {config : RelaydConfig} {clients : ι → Client} {aliased : Bool} {net net' : Net ι} {a : Action ι}
    (stepped : net.step config clients aliased a = some net') : Effect config clients aliased net a net' := by
  cases a with
  | submit feedId source =>
    cases stepped
    exact .submit feedId source
  | consume i env feedId =>
    obtain ⟨record, next, rfl⟩ := Option.map_eq_some_iff.1 stepped
    exact .consume i env feedId record next
  | stopPolling i env sourceId reasonMsg =>
    cases stepped
    exact .stop _ i _ (stopSourcePolling_stops (clients i) env sourceId reasonMsg _).2
  | stopListening i env sourceId reasonMsg =>
    cases stepped
    exact .stop _ i _ (stopSourceEventListener_stops (clients i) env sourceId reasonMsg _).2
  | announce sourceId info =>
    cases stepped
    exact .announce sourceId info
  | merge i sourceId now =>
    obtain ⟨info, next, rfl⟩ := Option.map_eq_some_iff.1 stepped
    cases outcome : mergeSourcePolling config (clients i).serviceId (net.sourceTable sourceId) info now with
    | none =>
      simp only [outcome]
      exact .ignore i sourceId now info next
    | some upd =>
      obtain ⟨entry, result⟩ := mergeSourcePolling_some outcome
      simp only [outcome]
      exact .merge i sourceId now info entry upd next outcome result
  | table feedId =>
    obtain ⟨record, next, rfl⟩ := Option.map_eq_some_iff.1 stepped
    exact .table feedId record next

/-- The consumption of a known record. -/
theorem consume_eq {config : RelaydConfig} {clients : ι → Client} {aliased : Bool} {net net' : Net ι} {i : ι} {env : Env}
    {feedId : String} {record : FeedConfigSource} (next : net.sourceConfig.next net.handled feedId = some record)
    (stepped : net.step config clients aliased (.consume i env feedId) = some net') :
    net' = { net with handled := net.handled.advance feedId }.called i (clients i).serviceId
      (handleSourceConfig config (clients i) env feedId record (net.services i)) := by
  simp only [step, next, Option.map_some, Option.some.injEq] at stepped
  exact stepped.symm

/-- **An action appends records to the topic of sources**, and does nothing else to it. -/
theorem step_appends {config : RelaydConfig} {clients : ι → Client} {aliased : Bool} {net net' : Net ι} {a : Action ι}
    (stepped : net.step config clients aliased a = some net') :
    ∃ records, net'.sourceConfig = net.sourceConfig.appendAll records := by
  cases effect stepped with
  | submit feedId source => exact ⟨[(feedId, source)], rfl⟩
  | consume | stop => exact ⟨_, rfl⟩
  | merge i sourceId now info entry upd => exact ⟨[(upd.feedId, upd.source)], rfl⟩
  | announce | ignore | table => exact ⟨[], rfl⟩

/-- A topic of sources only grows. -/
theorem step_grows {config : RelaydConfig} {clients : ι → Client} {aliased : Bool} {net net' : Net ι} {a : Action ι}
    (stepped : net.step config clients aliased a = some net') (feedId : String) :
    ∃ more, net'.sourceConfig feedId = net.sourceConfig feedId ++ more := by
  obtain ⟨records, appended⟩ := step_appends stepped
  exact ⟨_, (congrFun appended feedId).trans (Topic.appendAll_apply _ _ _)⟩

/-- Records stay in their topic. -/
theorem step_keeps {config : RelaydConfig} {clients : ι → Client} {aliased : Bool} {net net' : Net ι} {a : Action ι}
    (stepped : net.step config clients aliased a = some net') {feedId : String} {record : FeedConfigSource}
    (member : record ∈ net.sourceConfig feedId) : record ∈ net'.sourceConfig feedId := by
  obtain ⟨more, grown⟩ := step_grows stepped feedId
  rw [grown]
  exact List.mem_append_left more member

/-- `P` holds of every source of the net: of the records of each feed and of the table's entries. -/
structure Everywhere (P : String → FeedConfigSource → Prop) (net : Net ι) : Prop where
  records : ∀ feedId, ∀ record ∈ net.sourceConfig feedId, P feedId record
  table : ∀ sourceId entry, net.sourceTable sourceId = some entry → P entry.feedId entry.source

omit [DecidableEq ι] in
theorem Everywhere.init {P : String → FeedConfigSource → Prop} : Everywhere P ({} : Net ι) where
  records := by
    intro feedId record member
    cases member
  table := by
    intro sourceId entry stored
    cases stored

section
variable {P P' : String → FeedConfigSource → Prop} {net : Net ι} (all : Everywhere P net)
  (keeps : ∀ feedId source, P feedId source → P' feedId source)
include all keeps

theorem Everywhere.called {α : Type} {i : ι} {serviceId : String} {call : Called EthConnectService Event α}
    (casts : ∀ feedId upd, (feedId, upd) ∈ recasts call.events → P' feedId upd) :
    Everywhere P' (net.called i serviceId call) where
  records := by
    intro feedId record member
    rcases Topic.mem_appendAll.1 member with old | new
    · exact keeps _ _ (all.records feedId record old)
    · exact casts feedId record new
  table := fun sourceId entry stored => keeps _ _ (all.table sourceId entry stored)

omit [DecidableEq ι] in
theorem Everywhere.append {feedId : String} {source : FeedConfigSource} (new : P' feedId source) :
    Everywhere P' { net with sourceConfig := net.sourceConfig.append feedId source } where
  records := by
    intro f record member
    rcases Topic.mem_append.1 member with old | ⟨rfl, rfl⟩
    · exact keeps _ _ (all.records f record old)
    · exact new
  table := fun sourceId entry stored => keeps _ _ (all.table sourceId entry stored)

omit [DecidableEq ι] in
theorem Everywhere.store (sourceId : String) (entry : FeedSourceConfigWrap) (new : P' entry.feedId entry.source) :
    Everywhere P' { net with sourceTable := Function.update net.sourceTable sourceId (some entry) } where
  records := fun feedId record member => keeps _ _ (all.records feedId record member)
  table := by
    intro contract entry' stored
    by_cases same : contract = sourceId
    · subst same
      simp only [Function.update_self, Option.some.injEq] at stored
      subst stored
      exact new
    · simp only [Function.update_of_ne same] at stored
      exact keeps _ _ (all.table contract entry' stored)

omit [DecidableEq ι] in
theorem Everywhere.of_same {net' : Net ι} (log : net'.sourceConfig = net.sourceConfig)
    (table : net'.sourceTable = net.sourceTable) : Everywhere P' net' where
  records := fun feedId record member => keeps _ _ (all.records feedId record (log ▸ member))
  table := fun sourceId entry stored => keeps _ _ (all.table sourceId entry (table ▸ stored))

/-- **What an action preserves of the sources of a net**: what a submission has, what a recast keeps of
its record, and what a merge keeps of the table's entry. -/
theorem Everywhere.step {config : RelaydConfig} {clients : ι → Client} {aliased : Bool} {net' : Net ι} {a : Action ι}
    (stepped : net.step config clients aliased a = some net')
    (submits : ∀ feedId source, a = .submit feedId source → P' feedId source)
    (casts : ∀ i env feedId record, a = .consume i env feedId → record ∈ net.sourceConfig feedId →
      net.sourceConfig.next net.handled feedId = some record → P feedId record →
      ∀ f upd, (f, upd) ∈ recasts (handleSourceConfig config (clients i) env feedId record (net.services i)).events →
        P' f upd)
    (merges : ∀ i sourceId info now entry upd, a = .merge i sourceId now →
      net.sourcePolling.next net.merged sourceId = some info →
      mergeSourcePolling config (clients i).serviceId (net.sourceTable sourceId) info now = some upd →
      Merged config (net.sourceTable sourceId) info now entry upd → P' entry.feedId entry.source →
      P' entry.feedId upd.source) : Everywhere P' net' := by
  cases effect stepped with
  | submit feedId source => exact all.append keeps (submits feedId source rfl)
  | consume i env feedId record next =>
    have member := Topic.next_mem next
    exact ((all.of_same (fun _ _ held => held) rfl rfl : Everywhere P
      { net with handled := net.handled.advance feedId }).called keeps)
        (casts i env feedId record rfl member next (all.records feedId record member))
  | stop _ i call stops =>
    apply all.called keeps
    intro feedId upd recast
    exact absurd recast (not_recast_of_stops stops)
  | announce | ignore => exact all.of_same keeps rfl rfl
  | merge i sourceId now info entry upd next outcome result =>
    have new : P' upd.feedId upd.source := by
      rw [result.feedId]
      exact merges i sourceId info now entry upd rfl next outcome result (keeps _ _ (all.table sourceId entry result.stored))
    have appended := all.append keeps new
    cases aliased with
    | false => exact appended.of_same (fun _ _ held => held) rfl rfl
    | true => exact (appended.store (fun _ _ held => held) sourceId upd new).of_same (fun _ _ held => held) rfl rfl
  | table feedId record next =>
    have held := keeps _ _ (all.records feedId record (Topic.next_mem next))
    exact (all.store keeps record.contract ⟨feedId, record⟩ held).of_same (fun _ _ held => held) rfl rfl

end

end Net

end Relayd.EthClient
