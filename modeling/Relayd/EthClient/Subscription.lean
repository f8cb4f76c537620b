import Relayd.EthClient.OneSource
import Relayd.EthClient.Sharing

/-!
# The pollers of a source

An instance counts the pollers of a source on the record it consumes; nothing
counts them when its registration is merged. A source has no more pollers than
the settings ask for as long as, at every start of a poller, the limit holds of
each source that a registration may still be merged into, with the registrations
that wait. A removal gives several records to consume at a time, and with them
one poller too many.
-/

namespace Relayd.EthClient
set_option autoImplicit false
open Relayd.Common Sys

/-- How many pollers of a type the settings ask for. -/
def nbPollers (config : RelaydConfig) : EFeedSourcePoll → Nat
  | .EVENT => config.sourceNbEventListener
  | .TIMEPERIOD => config.sourceNbPeriodicQuerier

/-- The elements of a type in a handle list. -/
def polling (type : EFeedSourcePoll) (handle : Option (List FeedSourceHandle)) : Nat :=
  (handle.getD []).countP fun element => element.type == type

/-- The polling change registers a poller of the type. -/
def registers (type : EFeedSourcePoll) (info : SourcePollingInfo) : Bool := added info.change == some type

/-- The instance starts a poller of the type on the record. -/
structure Admits (config : RelaydConfig) (client : Client) (env : Env) (feedId : String) (record : FeedConfigSource)
    (type : EFeedSourcePoll) : Prop where
  status : record.status = some .OK
  input : inputError env feedId record = none
  network : checkNetworkMatch client record.network = true
  required : checkIfDataPollingRequired config client record = .ok (some type)

instance (config : RelaydConfig) (client : Client) (env : Env) (feedId : String) (record : FeedConfigSource)
    (type : EFeedSourcePoll) : Decidable (Admits config client env feedId record type) :=
  match required : checkIfDataPollingRequired config client record with
  | .error _ => isFalse fun admits => by simp [admits.required] at required
  | .ok toPoll => decidable_of_iff
      (record.status = some .OK ∧ inputError env feedId record = none ∧ checkNetworkMatch client record.network = true ∧
        toPoll = some type)
      ⟨fun ⟨status, input, network, same⟩ => ⟨status, input, network, by rw [required, same]⟩,
        fun admits => ⟨admits.status, admits.input, admits.network, Except.ok.inj (required.symm.trans admits.required)⟩⟩

/-! ## What a review adds -/

theorem registerPolling_polling {config : RelaydConfig} {actual : List FeedSourceHandle} {info : SourcePollingInfo}
    {now text : String} {pollingType otherType : EFeedSourcePoll} {handle : List FeedSourceHandle}
    (registered : registerPolling config actual info now pollingType otherType text = .ok handle) (type : EFeedSourcePoll) :
    polling type (some handle) = polling type (some actual) + if pollingType == type then 1 else 0 := by
  simp only [registerPolling] at registered
  split at registered
  · cases registered
  · split at registered <;> cases registered
    simp only [polling, Option.getD_some, List.countP_cons]

theorem unregisterPolling_polling {actual : List FeedSourceHandle} {info : SourcePollingInfo} {kind : String}
    {pollingType : EFeedSourcePoll} {handle : List FeedSourceHandle}
    (unregistered : unregisterPolling actual info pollingType kind = .ok handle) (type : EFeedSourcePoll) :
    polling type (some handle) ≤ polling type (some actual) := by
  simp only [unregisterPolling] at unregistered
  split at unregistered <;> cases unregistered
  exact List.Sublist.countP_le List.filter_sublist

/-- **A review adds a poller of the type that the change registers, and no other.** -/
theorem review_polling {config : RelaydConfig} {actual : Option (List FeedSourceHandle)} {info : SourcePollingInfo}
    {now : String} {handle : List FeedSourceHandle} (accepted : reviewSourceHandling config actual info now = .ok handle)
    (type : EFeedSourcePoll) :
    polling type (some handle) ≤ polling type actual + if registers type info then 1 else 0 := by
  have same : polling type (some (actual.getD [])) = polling type actual := rfl
  rw [← same]
  unfold reviewSourceHandling at accepted
  unfold registers
  cases change : info.change with
  | ADD_PERIODIC =>
    rw [change] at accepted
    exact Nat.le_of_eq (registerPolling_polling accepted type)
  | ADD_LISTEN_EVENT =>
    rw [change] at accepted
    exact Nat.le_of_eq (registerPolling_polling accepted type)
  | REMOVE_PERIODIC =>
    rw [change] at accepted
    exact Nat.le_add_right_of_le (unregisterPolling_polling accepted type)
  | REMOVE_LISTEN_EVENT =>
    rw [change] at accepted
    exact Nat.le_add_right_of_le (unregisterPolling_polling accepted type)
  | unknown text =>
    rw [change] at accepted
    cases accepted

/-! ## What a consumption registers -/

/-- The announcement of a new poller of the type. -/
def announces (type : EFeedSourcePoll) : Event → Bool
  | .pollingCast _ info => registers type info
  | _ => false

section
variable {config : RelaydConfig} {client : Client} {env : Env} {feedId : String} {sourceConfig : FeedConfigSource}
  {type : EFeedSourcePoll} {n : Nat}

theorem castSourcePolling_atMost {changeType : ESourcePollingChange} (room : added changeType = some type → 1 ≤ n)
    (sourceId : String) (info : Option String) :
    Traced.AtMost (announces type) n (castSourcePolling client env sourceId changeType info) := by
  intro s
  rcases castSourcePolling_cases client env sourceId changeType info s with ⟨error, failed⟩ | written
  · rw [failed]
    exact Nat.zero_le n
  · rw [written]
    by_cases adds : added changeType = some type
    · exact Nat.le_trans List.countP_le_length (room adds)
    · simp [announces, registers, adds]

theorem atMost_andThen {α β : Type} {result : Except String α} {next : α → Method (Except String β)}
    (rest : ∀ value, Traced.AtMost (announces type) n (next value)) :
    Traced.AtMost (announces type) n (andThen result next) := by
  cases result with
  | error error => exact .of_spec (.pure True.intro)
  | ok value => exact rest value

theorem Unregistering.quiet {e : Event} (unregistering : Unregistering e) : announces type e = false := by
  cases e with
  | pollingCast sourceId info =>
    have none : added info.change = none := unregistering
    simp [announces, registers, none]
  | _ => rfl

/-- What announces no poller announces none of the type. -/
theorem atMost_unregistering {α : Type} {m : Method α} (spec : Traced.Spec (fun _ => True) Unregistering m) :
    Traced.AtMost (announces type) n m :=
  .of_spec (spec.mono (fun _ value => value) fun _ unregistering => unregistering.quiet)

/-- A registration announces one poller of its type. -/
theorem registration_atMost {sourceId : String} {change : ESourcePollingChange} {info : Option String} {refusal : String}
    {register : EthConnectService → EthConnectService} (room : added change = some type → 1 ≤ n) :
    Traced.AtMost (announces type) n (Traced.read >>= fun service =>
      if (service.sourcePolling.get sourceId).isSome ∧ ¬ config.sourcePollingAllowMultipleBySameIssuer then
        return .error refusal
      else do
        Traced.update register
        castSourcePolling client env sourceId change info : Method (Except String Unit)) := by
  refine .quiet_then (.of_spec .read) fun service => ?_
  split
  · exact .of_spec (.pure True.intro)
  · exact .quiet_then (.of_spec (.update _)) fun _ => castSourcePolling_atMost room _ _

theorem initiatePeriodicPolling_atMost (room : EFeedSourcePoll.TIMEPERIOD = type → 1 ≤ n) :
    Traced.AtMost (announces type) n (initiatePeriodicPolling config client env sourceConfig feedId) := by
  unfold initiatePeriodicPolling
  split
  · exact .of_spec (.pure True.intro)
  · refine .quiet_then (.of_spec (initContract_emits _)) fun contract => ?_
    refine .then_quiet (atMost_andThen fun decimals => ?_) fun _ => .of_spec (.pure True.intro)
    refine .quiet_then (.of_spec ?_) fun timeout => ?_
    · exact .bind (.emit rfl) fun _ _ => .bind .read fun _ _ => .bind (.update _) fun _ _ => .pure True.intro
    · apply registration_atMost
      rintro ⟨⟩
      exact room rfl

theorem initiateEventListening_atMost (room : EFeedSourcePoll.EVENT = type → 1 ≤ n) :
    Traced.AtMost (announces type) n (initiateEventListening config client env sourceConfig feedId) := by
  refine .quiet_then (.of_spec listenedContract_emits) fun loaded => atMost_andThen fun sourceContract => ?_
  refine .then_quiet (atMost_andThen fun decimals => ?_) fun result => ?_
  · refine .quiet_then (.quiet_then (.of_spec (.emit rfl)) fun _ => ?_) fun listened => atMost_andThen fun contract => ?_
    · split
      · exact .of_spec (.pure True.intro)
      · exact .quiet_then (.of_spec (.update _)) fun _ => .of_spec (.pure True.intro)
    · apply registration_atMost
      rintro ⟨⟩
      exact room rfl
  · cases result with
    | ok _ => exact .of_spec (.pure True.intro)
    | error error =>
      refine .quiet_then (atMost_unregistering ?_) fun _ => .of_spec (.pure True.intro)
      exact (stopSourceEventListener_stops client env _ _).mono (fun _ value => value) fun _ stops => stops.unregistering

theorem initiateSourceDataPolling_atMost (room : sourceConfig.poll = some type → 1 ≤ n) :
    Traced.AtMost (announces type) n (initiateSourceDataPolling config client env sourceConfig feedId) := by
  unfold initiateSourceDataPolling
  split
  · rename_i poll
    exact initiatePeriodicPolling_atMost fun same => room (poll.trans (congrArg some same))
  · rename_i poll
    exact initiateEventListening_atMost fun same => room (poll.trans (congrArg some same))
  · exact .of_spec (.pure True.intro)

/-- The poller that a source lacks is of the type that the source asks for. -/
theorem required_poll {toPoll : EFeedSourcePoll}
    (required : checkIfDataPollingRequired config client sourceConfig = .ok (some toPoll)) :
    sourceConfig.poll = some toPoll := by
  simp only [checkIfDataPollingRequired] at required
  split at required
  · cases required
  · split at required
    · rename_i poll
      split at required <;> cases required
      exact poll
    · rename_i poll
      split at required <;> cases required
      exact poll
    · cases required

theorem pollSource_atMost (room : checkIfDataPollingRequired config client sourceConfig = .ok (some type) → 1 ≤ n) :
    Traced.AtMost (announces type) n (pollSource config client env sourceConfig feedId) := by
  unfold pollSource
  cases required : checkIfDataPollingRequired config client sourceConfig with
  | error error => exact .of_spec (.pure True.intro)
  | ok toPoll =>
    cases toPoll with
    | none => exact .of_spec (.pure True.intro)
    | some toPoll =>
      refine .then_quiet (initiateSourceDataPolling_atMost fun poll => room ?_) fun pollingInitResult => ?_
      · cases (required_poll required).symm.trans poll
        exact required
      · cases pollingInitResult with
        | ok _ => exact .of_spec (.pure True.intro)
        | error error =>
          refine .quiet_then (atMost_unregistering ?_) fun cast => .of_spec (.pure True.intro)
          exact (castErrorSourceConfig_recasts (Recast.refl True sourceConfig) _ _).mono (fun _ _ => True.intro)
            fun _ recasts => recasts.unregistering

theorem handleAndCast_atMost (room : sourceConfig.status = some .OK →
      checkIfDataPollingRequired config client sourceConfig = .ok (some type) → 1 ≤ n) :
    Traced.AtMost (announces type) n (handleAndCast config client env feedId sourceConfig) := by
  refine .then_quiet ?_ fun handled => atMost_andThen fun configUpd => ?_
  · rcases handleSourceContract_cases config client env feedId sourceConfig with
      ⟨-, same⟩ | ⟨ready, same⟩ | ⟨-, error, same⟩ <;> rw [same]
    · exact atMost_unregistering validateSource_unregistering
    · exact pollSource_atMost (room ready)
    · exact .of_spec (.pure True.intro)
  · cases configUpd with
    | none => exact .of_spec (.pure True.intro)
    | some upd =>
      refine .quiet_then (atMost_unregistering ?_) fun cast => .of_spec (.pure True.intro)
      exact (castSourceConfig_recasts _ (Recast.refl True upd) _ _).mono (fun _ _ => True.intro)
        fun _ recasts => recasts.unregistering

/-- **A consumption announces one new poller at most**, of the type that it admits. -/
theorem handleSourceConfig_atMost (room : Admits config client env feedId sourceConfig type → 1 ≤ n) :
    Traced.AtMost (announces type) n (handleSourceConfig config client env feedId sourceConfig) := by
  have recasting : ∀ {α : Type} {m : Method α},
      Traced.Spec (fun _ => True) (Recasts True feedId sourceConfig) m → Traced.AtMost (announces type) 0 m := by
    intro α m spec
    exact atMost_unregistering (spec.mono (fun _ value => value) fun _ recasts => recasts.unregistering)
  unfold handleSourceConfig
  split
  · exact .of_spec (.pure True.intro)
  · cases input : inputError env feedId sourceConfig with
    | some validInput => exact fun s => Nat.le_trans (recasting (failInvalid_recasts validInput) s) (Nat.zero_le n)
    | none =>
      by_cases network : checkNetworkMatch client sourceConfig.network = true
      · simp only [network]
        refine .then_quiet (handleAndCast_atMost fun status required => room ⟨status, input, network, required⟩)
          fun upd => ?_
        cases upd with
        | ok _ => exact .of_spec (.pure True.intro)
        | error error => exact recasting (recastFailed_recasts error)
      · simp only [network]
        exact fun s => Nat.le_trans (recasting recastUnsupported_recasts s) (Nat.zero_le n)

end

/-! ## The limit -/

section
variable {ι : Type}

/-- The sources of a feed that a registration may yet be merged into: the table's, and the records that are
yet to be tabled, or to be handled and maybe cast again. -/
def Net.current (net : Net ι) (feedId sourceId : String) : List FeedConfigSource :=
  ((net.sourceTable sourceId).map FeedSourceConfigWrap.source).toList ++
    (net.sourceConfig feedId).drop (min (net.handled feedId) (net.tabled feedId))

/-- The registrations of a type that wait to be merged. -/
def Net.registering (net : Net ι) (sourceId : String) (type : EFeedSourcePoll) : Nat :=
  ((net.sourcePolling sourceId).drop (net.merged sourceId)).countP (registers type)

/-- A poller that starts is within the limit of every current source, with the registrations that wait. -/
def Spare (config : RelaydConfig) (clients : ι → Client) (net : Net ι) : Action ι → Prop
  | .consume i env feedId => ∀ record ∈ net.sourceConfig.next net.handled feedId, ∀ type ∈ record.poll,
      Admits config (clients i) env feedId record type → ∀ source ∈ net.current feedId record.contract,
        polling type source.handle + net.registering record.contract type < nbPollers config type
  | _ => True

instance (config : RelaydConfig) (clients : ι → Client) (net : Net ι) (a : Action ι) :
    Decidable (Spare config clients net a) :=
  match a with
  | .consume i env feedId => inferInstanceAs (Decidable (∀ record ∈ (_ : Option FeedConfigSource),
      ∀ type ∈ (_ : Option EFeedSourcePoll), Admits config (clients i) env feedId record type →
        ∀ source ∈ (_ : List FeedConfigSource), _ < _))
  | .submit .. | .stopPolling .. | .stopListening .. | .announce .. | .merge .. | .table .. => isTrue True.intro

/-- Every source is of the feed and of the contract. -/
structure Confined (feedId sourceId : String) (net : Net ι) : Prop where
  sources : net.Everywhere fun f source => f = feedId ∧ source.contract = sourceId
  table : ∀ contract, net.sourceTable contract ≠ none → contract = sourceId

/-- No record has more pollers than the settings ask for, nor will one have that is made of a current source
and the registrations that wait. -/
structure Limited (config : RelaydConfig) (feedId sourceId : String) (net : Net ι) : Prop where
  records : ∀ record ∈ net.sourceConfig feedId, ∀ type, polling type record.handle ≤ nbPollers config type
  current : ∀ source ∈ net.current feedId sourceId, ∀ type,
    polling type source.handle + net.registering sourceId type ≤ nbPollers config type

/-- The announcements of new pollers among the records on one contract. -/
theorem announcements_countP (type : EFeedSourcePoll) (sourceId : String) (events : List Event) :
    (((announcements events).filter fun r => r.1 = sourceId).map Prod.snd).countP (registers type) ≤
      events.countP (announces type) := by
  have all : ((announcements events).map Prod.snd).countP (registers type) = events.countP (announces type) := by
    induction events with
    | nil => rfl
    | cons e events ih =>
      cases e with
      | pollingCast contract info =>
        have split : announcements (.pollingCast contract info :: events) = (contract, info) :: announcements events := rfl
        rw [split, List.map_cons, List.countP_cons, List.countP_cons, ih]
        rfl
      | _ => exact ih
  rw [← all]
  exact (List.filter_sublist.map Prod.snd).countP_le

section
variable {config : RelaydConfig} {feedId sourceId : String} {net : Net ι}

theorem mem_current {source : FeedConfigSource} : source ∈ net.current feedId sourceId ↔
    (net.sourceTable sourceId).map FeedSourceConfigWrap.source = some source ∨
      source ∈ (net.sourceConfig feedId).drop (min (net.handled feedId) (net.tabled feedId)) := by
  rw [Net.current, List.mem_append, Option.mem_toList]

theorem created_confined (feedId : String) (source : FeedConfigSource) :
    Confined feedId source.contract (created feedId source : Net ι) where
  sources :=
    (Net.Everywhere.init.append (fun _ _ held => held) ⟨rfl, rfl⟩ :
      Net.Everywhere (fun f record => f = feedId ∧ record.contract = source.contract) (created feedId source))
  table := fun _ stored => absurd rfl stored

theorem Confined.step [DecidableEq ι] {clients : ι → Client} {aliased : Bool} {net' : Net ι} {a : Action ι}
    (confined : Confined feedId sourceId net) (undeclared : Undeclared a)
    (stepped : net.step config clients aliased a = some net') : Confined feedId sourceId net' where
  sources := by
    apply confined.sources.step (fun _ _ held => held) stepped
    · rintro f source rfl
      exact undeclared.elim
    · rintro i env f record - - - held f' upd cast
      obtain ⟨rfl, recast⟩ := (handleSourceConfig_own config (clients i) env f record _).2 _ (mem_recasts.1 cast)
      rwa [recast.contract]
    · rintro i contract info now entry upd - - - result held
      rwa [result.contract]
  table := by
    intro contract stored
    cases Net.effect stepped with
    | submit => exact undeclared.elim
    | consume | stop | announce | ignore => exact confined.table contract stored
    | merge i contract' now info entry upd next outcome result =>
      have merged : contract' = sourceId := confined.table contract' (by rw [result.stored]; exact Option.some_ne_none entry)
      by_cases same : contract = contract'
      · exact same.trans merged
      · apply confined.table contract
        cases aliased <;> simpa [Function.update_of_ne same] using stored
    | table f record next =>
      have own := (confined.sources.records f record (Topic.next_mem next)).2
      by_cases same : contract = record.contract
      · exact same.trans own
      · simp only [Function.update_of_ne same] at stored
        exact confined.table contract stored

/-- A method call that casts current sources again, and starts no poller too many. -/
theorem Limited.called [DecidableEq ι] {α : Type} {i : ι} {serviceId : String} {call : Called EthConnectService Event α}
    (limited : Limited config feedId sourceId net) {handled : Cursor String} (ahead : net.handled feedId ≤ handled feedId)
    (casts : ∀ upd, (feedId, upd) ∈ recasts call.events → ∃ source ∈ net.current feedId sourceId, upd.handle = source.handle)
    (room : ∀ type, ∀ source ∈ net.current feedId sourceId,
      polling type source.handle + net.registering sourceId type + call.events.countP (announces type) ≤
        nbPollers config type) :
    Limited config feedId sourceId (Net.called { net with handled := handled } i serviceId call) := by
  have registering : ∀ type, Net.registering (Net.called { net with handled := handled } i serviceId call) sourceId type ≤
      net.registering sourceId type + call.events.countP (announces type) := by
    intro type
    have fewer := announcements_countP type sourceId call.events
    simp only [Net.registering, Net.called, Topic.appendAll_apply, List.drop_append, List.countP_append]
    have dropped := (List.drop_sublist (net.merged sourceId - (net.sourcePolling sourceId).length)
      (((announcements call.events).filter fun r => r.1 = sourceId).map Prod.snd)).countP_le (p := registers type)
    omega
  constructor
  · intro record member type
    rcases Topic.mem_appendAll.1 member with old | new
    · exact limited.records record old type
    · obtain ⟨source, current, same⟩ := casts record new
      have bound := limited.current source current type
      rw [same]
      omega
  · intro source member type
    have kept : ∃ source' ∈ net.current feedId sourceId, source.handle = source'.handle := by
      rcases mem_current.1 member with stored | pending
      · exact ⟨source, mem_current.2 (Or.inl stored), rfl⟩
      · have moved : min (net.handled feedId) (net.tabled feedId) ≤ min (handled feedId) (net.tabled feedId) := by omega
        simp only [Net.called, Topic.appendAll_apply] at pending
        rcases Topic.mem_drop_append moved pending with old | new
        · exact ⟨source, mem_current.2 (Or.inr old), rfl⟩
        · obtain ⟨⟨f, upd⟩, cast, rfl⟩ := List.mem_map.1 new
          obtain ⟨among, own⟩ := List.mem_filter.1 cast
          cases of_decide_eq_true own
          exact casts upd among
    obtain ⟨source', current, same⟩ := kept
    have bound := room type source' current
    have more := registering type
    rw [same]
    omega

/-- A merge takes its change from those that wait. -/
theorem registering_of_next {info : SourcePollingInfo} (next : net.sourcePolling.next net.merged sourceId = some info)
    (type : EFeedSourcePoll) : net.registering sourceId type =
      ((net.sourcePolling sourceId).drop (net.merged sourceId + 1)).countP (registers type) +
        if registers type info then 1 else 0 := by
  rw [Net.registering, Topic.drop_of_next next, List.countP_cons]

/-- The merge of a change into the table's source. -/
theorem Limited.merge {info : SourcePollingInfo} {now : String} {entry upd : FeedSourceConfigWrap}
    (limited : Limited config feedId sourceId net) (own : upd.feedId = feedId)
    (next : net.sourcePolling.next net.merged sourceId = some info)
    (result : Merged config (net.sourceTable sourceId) info now entry upd) (aliased : Bool)
    (accepted : String → List (SourcePollingInfo × String)) : Limited config feedId sourceId { net with
      merged := net.merged.advance sourceId
      sourceConfig := net.sourceConfig.append upd.feedId upd.source
      sourceTable := if aliased then Function.update net.sourceTable sourceId (some upd) else net.sourceTable
      accepted := accepted } := by
  subst own
  obtain ⟨handle, review, reviewed⟩ := result.handle
  have stored : entry.source ∈ net.current upd.feedId sourceId := mem_current.2 (Or.inl (by rw [result.stored]; rfl))
  -- the merged change is among those that waited
  have new : ∀ type, polling type upd.source.handle +
      ((net.sourcePolling sourceId).drop (net.merged sourceId + 1)).countP (registers type) ≤ nbPollers config type := by
    intro type
    have bound := limited.current entry.source stored type
    have added := review_polling review type
    rw [registering_of_next next] at bound
    rw [reviewed]
    omega
  constructor
  · intro record member type
    rcases Topic.mem_append.1 member with old | ⟨-, rfl⟩
    · exact limited.records record old type
    · have bound := new type
      omega
  · intro source member type
    simp only [Net.registering, Cursor.advance_same]
    have old : source ∈ net.current upd.feedId sourceId ∨ source = upd.source := by
      rcases mem_current.1 member with stored | pending
      · cases aliased with
        | false => exact Or.inl (mem_current.2 (Or.inl stored))
        | true =>
          simp only [↓reduceIte, Function.update_self, Option.map_some, Option.some.injEq] at stored
          exact Or.inr stored.symm
      · simp only [Topic.append_same] at pending
        rcases Topic.mem_drop_append (Nat.le_refl _) pending with old | new
        · exact Or.inl (mem_current.2 (Or.inr old))
        · exact Or.inr (List.mem_singleton.1 new)
    rcases old with old | rfl
    · have bound := limited.current source old type
      rw [registering_of_next next] at bound
      omega
    · exact new type

/-- A call that only stops pollers starts none. -/
theorem Limited.stop [DecidableEq ι] {α : Type} {i : ι} {serviceId : String} {call : Called EthConnectService Event α}
    (limited : Limited config feedId sourceId net) (stops : ∀ e ∈ call.events, Stops e) :
    Limited config feedId sourceId (net.called i serviceId call) := by
  refine limited.called (Nat.le_refl _) ?_ ?_
  · intro upd cast
    exact absurd cast (not_recast_of_stops stops)
  · intro type source current
    have none : call.events.countP (announces type) = 0 := by
      apply List.countP_eq_zero.2
      intro e member
      rw [(stops e member).unregistering.quiet]
      exact Bool.false_ne_true
    rw [none]
    exact limited.current source current type

/-- The consumption of a record of the source starts one poller at most, where there is room for one. -/
theorem Limited.consume [DecidableEq ι] {clients : ι → Client} {record : FeedConfigSource} (i : ι) (env : Env)
    (limited : Limited config feedId record.contract net) (next : net.sourceConfig.next net.handled feedId = some record)
    (spare : Spare config clients net (.consume i env feedId)) :
    Limited config feedId record.contract (Net.called { net with handled := net.handled.advance feedId } i
      (clients i).serviceId (handleSourceConfig config (clients i) env feedId record (net.services i))) := by
  have pending : record ∈ net.current feedId record.contract :=
    mem_current.2 (Or.inr (Topic.next_mem_drop next (Nat.min_le_left _ _)))
  refine limited.called (by rw [Cursor.advance_same]; omega) ?_ ?_
  · intro upd cast
    obtain ⟨-, recast⟩ := (handleSourceConfig_own config (clients i) env feedId record _).2 _ (mem_recasts.1 cast)
    exact ⟨record, pending, recast.handle⟩
  · intro type source current
    by_cases admits : Admits config (clients i) env feedId record type
    · have one := handleSourceConfig_atMost
        (fun _ => Nat.le_refl 1 : Admits config (clients i) env feedId record type → 1 ≤ 1) (net.services i)
      have below := spare record next type (required_poll admits.required) admits source current
      omega
    · have none := handleSourceConfig_atMost (fun impossible => absurd impossible admits) (n := 0) (net.services i)
      have bound := limited.current source current type
      omega

/-- A merge that ends in an error uses up its change. -/
theorem Limited.ignore {info : SourcePollingInfo} (limited : Limited config feedId sourceId net) (contract : String)
    (next : net.sourcePolling.next net.merged contract = some info) :
    Limited config feedId sourceId { net with merged := net.merged.advance contract } := by
  refine ⟨limited.records, ?_⟩
  intro source current type
  have bound := limited.current source current type
  by_cases same : sourceId = contract
  · subst same
    rw [registering_of_next next] at bound
    simp only [Net.registering, Cursor.advance_same]
    omega
  · simp only [Net.registering, Cursor.advance_other same]
    exact bound

/-- The table takes a record that was current before. -/
theorem Limited.table {record : FeedConfigSource} (limited : Limited config feedId record.contract net)
    (next : net.sourceConfig.next net.tabled feedId = some record) : Limited config feedId record.contract { net with
      tabled := net.tabled.advance feedId
      sourceTable := Function.update net.sourceTable record.contract (some { feedId := feedId, source := record }) } := by
  refine ⟨limited.records, ?_⟩
  intro source member type
  apply limited.current source ?_ type
  rcases mem_current.1 member with stored | pending
  · simp only [Function.update_self, Option.map_some, Option.some.injEq] at stored
    subst stored
    exact mem_current.2 (Or.inr (Topic.next_mem_drop next (Nat.min_le_right _ _)))
  · refine mem_current.2 (Or.inr (List.drop_subset_drop_left _ ?_ pending))
    simp only [Cursor.advance_same]
    omega

/-- **Every action keeps the limit**, when a poller that starts is within it. -/
theorem Limited.step [DecidableEq ι] {clients : ι → Client} {aliased : Bool} {net' : Net ι} {a : Action ι}
    (limited : Limited config feedId sourceId net) (confined : Confined feedId sourceId net) (undeclared : Undeclared a)
    (ofInstances : OfInstances a) (spare : Spare config clients net a)
    (stepped : net.step config clients aliased a = some net') : Limited config feedId sourceId net' := by
  cases Net.effect stepped with
  | submit => exact undeclared.elim
  | consume i env f record next =>
    obtain ⟨rfl, rfl⟩ := confined.sources.records f record (Topic.next_mem next)
    exact limited.consume i env next spare
  | stop _ i call stops => exact limited.stop stops
  | announce => exact ofInstances.elim
  | ignore i contract now info next => exact limited.ignore contract next
  | merge i contract now info entry upd next outcome result =>
    obtain rfl := confined.table contract (by rw [result.stored]; exact Option.some_ne_none entry)
    have own := (confined.sources.table contract entry result.stored).1
    exact limited.merge (result.feedId.trans own) next result aliased _
  | table f record next =>
    obtain ⟨rfl, rfl⟩ := confined.sources.records f record (Topic.next_mem next)
    exact limited.table next

end

/-- No record of the feed has more pollers of a type than the settings ask for. -/
def Net.WithinLimits (config : RelaydConfig) (net : Net ι) (feedId : String) : Prop :=
  ∀ record ∈ net.sourceConfig feedId, polling .EVENT record.handle ≤ config.sourceNbEventListener ∧
    polling .TIMEPERIOD record.handle ≤ config.sourceNbPeriodicQuerier

instance (config : RelaydConfig) (net : Net ι) (feedId : String) : Decidable (net.WithinLimits config feedId) :=
  inferInstanceAs (Decidable (∀ record ∈ net.sourceConfig feedId, _ ∧ _))

/-- **A source never has more pollers than the settings ask for, as long as a poller starts only within the
limit of every current source.** -/
theorem limits_kept [DecidableEq ι] (config : RelaydConfig) (clients : ι → Client) (aliased : Bool) (feedId : String)
    (source : FeedConfigSource) (unregistered : source.handle.getD [] = []) (as : List (Action ι)) (net : Net ι)
    (undeclared : ∀ a ∈ as, Undeclared a) (ofInstances : ∀ a ∈ as, OfInstances a)
    (spare : Along (Net.step config clients aliased) (Spare config clients) (created feedId source) as)
    (reached : run (Net.step config clients aliased) (created feedId source) as = some net) :
    net.WithinLimits config feedId := by
  have each : ∀ net a net', (Confined feedId source.contract net ∧ Limited config feedId source.contract net) →
      (Undeclared a ∧ OfInstances a ∧ Spare config clients net a) → Net.step config clients aliased net a = some net' →
      Confined feedId source.contract net' ∧ Limited config feedId source.contract net' := by
    rintro net a net' ⟨confined, limited⟩ ⟨undeclared, ofInstances, spare⟩ stepped
    exact ⟨confined.step undeclared stepped, limited.step confined undeclared ofInstances spare stepped⟩
  have none : ∀ type, polling type source.handle = 0 := by
    intro type
    rw [polling, unregistered, List.countP_nil]
  have only : (created feedId source : Net ι).sourceConfig feedId = [source] := by
    simp only [created, Topic.append_same, List.nil_append]
  have start : Limited config feedId source.contract (created feedId source : Net ι) := by
    constructor
    · intro record member type
      rw [only, List.mem_singleton] at member
      rw [member, none]
      exact Nat.zero_le _
    · intro record member type
      rcases mem_current.1 member with stored | pending
      · cases stored
      · have first := List.mem_of_mem_drop pending
        rw [only, List.mem_singleton] at first
        rw [first, none]
        exact Nat.zero_le _
  obtain ⟨-, limited⟩ := invariant each ⟨created_confined feedId source, start⟩
    ((Along.of_forall undeclared).and ((Along.of_forall ofInstances).and spare)) reached
  intro record member
  exact ⟨limited.records record member .EVENT, limited.records record member .TIMEPERIOD⟩

end

/-! ## Two removals and three registrations -/

/-- The instance `x` shuts down and its removal is merged; `w` takes its place. -/
def replacing : List (Action String) :=
  enrolling ++
    [.consume "v" healthyEnv "feed-btc",
      .stopListening "x" healthyEnv proxyAddress (some "Service 'relayd.eth_x' shutting down"),
      .merge "x" proxyAddress "2022-04-15T12:00:02.000Z", .table "feed-btc"] ++ enrol "w"

/-- Two instances shut down. The records of both removals are consumed before a registration is merged, and
the record of the first registration before the second one is. -/
def overlapping : List (Action String) :=
  enrolling ++
    [.consume "v" healthyEnv "feed-btc",
      .stopListening "x" healthyEnv proxyAddress (some "Service 'relayd.eth_x' shutting down"),
      .merge "x" proxyAddress "2022-04-15T12:00:02.000Z", .table "feed-btc",
      .stopListening "y" healthyEnv proxyAddress (some "Service 'relayd.eth_y' shutting down"),
      .merge "y" proxyAddress "2022-04-15T12:00:03.000Z", .table "feed-btc",
      .consume "w" healthyEnv "feed-btc", .consume "v" healthyEnv "feed-btc",
      .merge "w" proxyAddress "2022-04-15T12:00:04.000Z", .table "feed-btc", .consume "u" healthyEnv "feed-btc",
      .merge "v" proxyAddress "2022-04-15T12:00:05.000Z", .table "feed-btc",
      .merge "u" proxyAddress "2022-04-15T12:00:06.000Z"]

theorem replacing_limited :
    ∃ net, run (Net.step RelaydConfig.prod fleet false) (created "feed-btc" newSource) replacing = some net ∧
      net.WithinLimits RelaydConfig.prod "feed-btc" := by
  have possible : (run (Net.step RelaydConfig.prod fleet false) (created "feed-btc" newSource) replacing).isSome = true := by
    decide +kernel
  obtain ⟨net, reached⟩ := Option.isSome_iff_exists.1 possible
  have spare : Along (Net.step RelaydConfig.prod fleet false) (Spare RelaydConfig.prod fleet)
      (created "feed-btc" newSource) replacing := by
    decide +kernel
  exact ⟨net, reached, limits_kept RelaydConfig.prod fleet false "feed-btc" newSource rfl replacing net (by decide +kernel)
    (by decide +kernel) spare reached⟩

/-- Four instances listen to the source, whether or not the table's objects are changed in place. -/
theorem overlapping_exceeds :
    (∀ a ∈ overlapping, Undeclared a ∧ OfInstances a) ∧ ∀ aliased : Bool,
      ∃ net, run (Net.step RelaydConfig.prod fleet aliased) (created "feed-btc" newSource) overlapping = some net ∧
        ¬ net.WithinLimits RelaydConfig.prod "feed-btc" := by
  refine ⟨by decide +kernel, ?_⟩
  intro aliased
  have exceeded : (run (Net.step RelaydConfig.prod fleet aliased) (created "feed-btc" newSource) overlapping).any
      (fun net => decide (¬ net.WithinLimits RelaydConfig.prod "feed-btc")) = true := by
    cases aliased <;> decide +kernel
  obtain ⟨net, reached, exceeded⟩ := (Option.any_eq_true _ _).1 exceeded
  exact ⟨net, reached, of_decide_eq_true exceeded⟩

end Relayd.EthClient
