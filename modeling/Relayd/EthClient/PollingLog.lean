import Relayd.EthClient.Listeners
import Relayd.EthClient.Review

/-!
# The polling changes that an instance casts

For each source and polling type, the changes that an instance casts are an
addition, a removal and so on, as long as its registries say what it cast
last: a listener must not be registered twice, and only a source that is
listened to may be stopped being listened to. A failed start does the latter
whatever the registry says.
-/

namespace Relayd.EthClient
set_option autoImplicit false
open Relayd.Common Sys

/-- The values alternate, from `b` on. -/
def Alternates : Bool → List Bool → Prop
  | _, [] => True
  | b, a :: as => a = b ∧ Alternates (!b) as

instance Alternates.decide : (b : Bool) → (as : List Bool) → Decidable (Alternates b as)
  | _, [] => isTrue True.intro
  | b, _ :: as =>
    have : Decidable (Alternates (!b) as) := Alternates.decide (!b) as
    inferInstanceAs (Decidable (_ ∧ _))

theorem Alternates.next {b a : Bool} {as : List Bool} (alternates : Alternates b (as ++ [a])) :
    Alternates b (as ++ [a] ++ [!a]) := by
  induction as generalizing b with
  | nil =>
    obtain ⟨rfl, -⟩ := alternates
    exact ⟨rfl, rfl, True.intro⟩
  | cons x as ih => exact ⟨alternates.1, ih alternates.2⟩

theorem Alternates.left {b : Bool} {as bs : List Bool} (alternates : Alternates b (as ++ bs)) : Alternates b as := by
  induction as generalizing b with
  | nil => exact True.intro
  | cons x as ih => exact ⟨alternates.1, ih alternates.2⟩

/-- Of the changes about a polling type, which are additions. -/
def addsOf (type : EFeedSourcePoll) (infos : List SourcePollingInfo) : List Bool :=
  (infos.filter fun info => pollingType info.change = some type).map fun info => (added info.change).isSome

theorem addsOf_cons_same {type : EFeedSourcePoll} {info : SourcePollingInfo} (about : pollingType info.change = some type)
    (infos : List SourcePollingInfo) : addsOf type (info :: infos) = (added info.change).isSome :: addsOf type infos := by
  simp only [addsOf, List.filter_cons, about, decide_true, ↓reduceIte, List.map_cons]

theorem addsOf_cons_other {type : EFeedSourcePoll} {info : SourcePollingInfo} (about : pollingType info.change ≠ some type)
    (infos : List SourcePollingInfo) : addsOf type (info :: infos) = addsOf type infos := by
  simp only [addsOf, List.filter_cons, about, decide_false, Bool.false_eq_true, ↓reduceIte]

/-- The changes cast for a source. -/
def changesOf (sourceId : String) (log : List Event) : List SourcePollingInfo :=
  ((announcements log).filter fun record => record.1 = sourceId).map Prod.snd

/-- The instance has the source in the registry of the polling type. -/
def EthConnectService.registered (service : EthConnectService) (sourceId : String) : EFeedSourcePoll → Bool
  | .TIMEPERIOD => (service.sourcePolling.get sourceId).isSome
  | .EVENT => (service.sourceListening.get sourceId).isSome

/-- The log alternates, and would go on doing so with a change of what is registered. -/
structure Matching (client : Client) (service : EthConnectService) (log : List Event) : Prop where
  alternates : ∀ sourceId type, Alternates true (addsOf type (changesOf sourceId log) ++ [!service.registered sourceId type])
  own : ∀ record ∈ announcements log, record.2.issuer = client.serviceId ∧ (pollingType record.2.change).isSome = true

section
variable {client : Client} {s s' : EthConnectService} {log events : List Event}

theorem changesOf_append (sourceId : String) (log events : List Event) :
    changesOf sourceId (log ++ events) = changesOf sourceId log ++ changesOf sourceId events := by
  simp only [changesOf, announcements_append, List.filter_append, List.map_append]

theorem addsOf_append (type : EFeedSourcePoll) (infos infos' : List SourcePollingInfo) :
    addsOf type (infos ++ infos') = addsOf type infos ++ addsOf type infos' := by
  simp only [addsOf, List.filter_append, List.map_append]

/-- Nothing is cast, and the registries keep their sources. -/
theorem Matching.quiet (matching : Matching client s log) (quiet : announcements events = [])
    (same : ∀ sourceId type, s'.registered sourceId type = s.registered sourceId type) :
    Matching client s' (log ++ events) where
  alternates := by
    intro sourceId type
    have nothing : changesOf sourceId events = [] := by simp only [changesOf, quiet, List.filter_nil, List.map_nil]
    rw [changesOf_append, nothing, List.append_nil, same]
    exact matching.alternates sourceId type
  own := by
    rw [announcements_append, quiet, List.append_nil]
    exact matching.own

/-- One change is cast, and it is what becomes of the registry. -/
theorem Matching.change (type : EFeedSourcePoll) {sourceId : String} {change : ESourcePollingChange}
    (matching : Matching client s log) (announces : Announces client True sourceId change events)
    (about : pollingType change = some type) (turns : (added change).isSome = !s.registered sourceId type)
    (turned : s'.registered sourceId type = !s.registered sourceId type)
    (same : ∀ other type', (other, type') ≠ (sourceId, type) → s'.registered other type' = s.registered other type') :
    Matching client s' (log ++ events) := by
  obtain ⟨info, announces⟩ | ⟨fails, -⟩ := announces
  swap
  · exact absurd True.intro fails
  constructor
  · intro other type'
    have before := matching.alternates other type'
    rw [changesOf_append, addsOf_append]
    by_cases own : (other, type') = (sourceId, type)
    · cases own
      have here : addsOf type (changesOf sourceId events) = [!s.registered sourceId type] := by
        simp [changesOf, announces, addsOf, about, turns]
      rw [here, turned]
      exact before.next
    · have elsewhere : addsOf type' (changesOf other events) = [] := by
        simp only [changesOf, announces, addsOf, List.map_eq_nil_iff, List.filter_eq_nil_iff, List.mem_map, List.mem_filter,
          List.mem_singleton, decide_eq_true_eq]
        rintro _ ⟨_, ⟨rfl, rfl⟩, rfl⟩ same
        exact own (by rw [Option.some.inj (same.symm.trans about)])
      rw [elsewhere, List.append_nil, same other type' own]
      exact before
  · intro record member
    rw [announcements_append, announces] at member
    rcases List.mem_append.1 member with old | new
    · exact matching.own record old
    · cases List.mem_singleton.1 new
      exact ⟨rfl, by rw [about]; rfl⟩

/-- A change of the periodic polling of one source. -/
theorem registered_polling {sourceId : String} (listening : s'.sourceListening = s.sourceListening)
    (others : ∀ other, other ≠ sourceId → s'.sourcePolling.get other = s.sourcePolling.get other) (other : String)
    (type : EFeedSourcePoll) (different : (other, type) ≠ (sourceId, .TIMEPERIOD)) :
    s'.registered other type = s.registered other type := by
  cases type with
  | EVENT => simp only [EthConnectService.registered, listening]
  | TIMEPERIOD =>
    have another : other ≠ sourceId := fun same => different (by rw [same])
    simp only [EthConnectService.registered, others other another]

/-- A change of the listening to one source. -/
theorem registered_listening {sourceId : String} (polling : s'.sourcePolling = s.sourcePolling)
    (others : ∀ other, other ≠ sourceId → s'.sourceListening.get other = s.sourceListening.get other) (other : String)
    (type : EFeedSourcePoll) (different : (other, type) ≠ (sourceId, .EVENT)) :
    s'.registered other type = s.registered other type := by
  cases type with
  | TIMEPERIOD => simp only [EthConnectService.registered, polling]
  | EVENT =>
    have another : other ≠ sourceId := fun same => different (by rw [same])
    simp only [EthConnectService.registered, others other another]

theorem Starts.matching {config : RelaydConfig} {env : Env} {sourceConfig : FeedConfigSource}
    (starts : Starts config client env sourceConfig s s' events) (matching : Matching client s log)
    (single : config.sourcePollingAllowMultipleBySameIssuer = false) (casts : env.PollingCasts)
    (first : env.startsListening sourceConfig = true → s.sourcePolling.get sourceConfig.contract = none →
      s.sourceListening.get sourceConfig.contract = none) : Matching client s' (log ++ events) := by
  have unpolled : ((s.sourcePolling.get sourceConfig.contract).isSome = true →
      config.sourcePollingAllowMultipleBySameIssuer = true) → s.sourcePolling.get sourceConfig.contract = none := by
    intro admitted
    apply Option.not_isSome_iff_eq_none.1
    intro polled
    cases single.symm.trans (admitted polled)
  cases starts with
  | idle _ _ quiet | refusedInterval _ _ _ _ _ _ _ quiet | refusedListener _ _ _ _ _ _ _ quiet =>
    apply matching.quiet quiet
    intro other type
    cases type <;> rfl
  | polling interval fresh _ starts own admitted announces =>
    have new := unpolled admitted
    apply matching.change .TIMEPERIOD (announces.mono fun _ => casts) rfl
    · simp only [added, EthConnectService.registered, new, Option.isSome_some, Option.isSome_none, Bool.not_false]
    · simp only [EthConnectService.registered, OrderedMap.get_set_same, new, Option.isSome_some, Option.isSome_none,
        Bool.not_false]
    · exact registered_polling rfl fun other another => OrderedMap.get_set_other another
  | listening listener fresh _ starts own admitted announces =>
    have new := first starts (unpolled admitted)
    apply matching.change .EVENT (announces.mono fun _ => casts) rfl
    · simp only [added, EthConnectService.registered, new, Option.isSome_some, Option.isSome_none, Bool.not_false]
    · simp only [EthConnectService.registered, OrderedMap.get_set_same, new, Option.isSome_some, Option.isSome_none,
        Bool.not_false]
    · exact registered_listening rfl fun other another => OrderedMap.get_set_other another

theorem Alters.matching (alters : Alters client True False s s' events) (matching : Matching client s log) :
    Matching client s' (log ++ events) := by
  cases alters with
  | unpolled sourceId polled _ entry announces =>
    apply matching.change .TIMEPERIOD announces rfl
    · simp only [added, EthConnectService.registered, entry, Option.isSome_some, Option.isSome_none, Bool.not_true]
    · simp only [EthConnectService.registered, OrderedMap.get_delete_same, entry, Option.isSome_some, Option.isSome_none,
        Bool.not_true]
    · exact registered_polling rfl fun other another => OrderedMap.get_delete_other another
  | unlistened sourceId listened _ entry announces =>
    apply matching.change .EVENT announces rfl
    · simp only [added, EthConnectService.registered, entry, Option.isSome_some, Option.isSome_none, Bool.not_true]
    · simp only [EthConnectService.registered, OrderedMap.get_delete_same, entry, Option.isSome_some, Option.isSome_none,
        Bool.not_true]
    · exact registered_listening rfl fun other another => OrderedMap.get_delete_other another
  | unregistered sourceId _ isUnmatched => exact isUnmatched.elim
  | changed sourceId polled data entry =>
    apply matching.quiet rfl
    intro other type
    cases type with
    | EVENT => rfl
    | TIMEPERIOD =>
      by_cases same : other = sourceId
      · simp only [EthConnectService.registered, same, OrderedMap.get_set_same, entry, Option.isSome_some]
      · simp only [EthConnectService.registered, OrderedMap.get_set_other same]
  | removed =>
    apply matching.quiet rfl
    intro other type
    cases type <;> rfl

end

/-! ## The review of an alternating log -/

/-- What an accepted change of a polling type does to the polls of its issuer. -/
theorem ownReview_alternating {config : RelaydConfig} (single : config.sourcePollingAllowMultipleBySameIssuer = false)
    (oneType : config.sourcePollingAllowMultipleTypeBySameIssuer = false) {polls : List EFeedSourcePoll}
    {change : ESourcePollingChange} {type : EFeedSourcePoll} (about : pollingType change = some type)
    (turns : (added change).isSome = decide (type ∉ polls)) :
    ∃ polls', ownReview config polls change = some polls' ∧ (type ∈ polls' ↔ type ∉ polls) ∧
      ∀ other, other ≠ type → (other ∈ polls' ↔ other ∈ polls) := by
  cases adds : added change with
  | some added =>
    rw [pollingType_of_added adds, Option.some.injEq] at about
    subst about
    have new : added ∉ polls := by simpa [adds] using turns
    refine ⟨added :: polls, ?_, ?_, ?_⟩
    · simp [ownReview, adds, single, oneType]
    · simp [new]
    · intro other different
      simp [different]
  | none =>
    have listed : type ∈ polls := by simpa [adds] using turns
    refine ⟨polls.filter (· ≠ type), ?_, ?_, ?_⟩
    · simp [ownReview, adds, about, listed]
    · simp [listed]
    · intro other different
      simp [different]

/-- **The review accepts every change of an issuer whose changes alternate.** -/
theorem reviewed_alternating {config : RelaydConfig} (single : config.sourcePollingAllowMultipleBySameIssuer = false)
    (oneType : config.sourcePollingAllowMultipleTypeBySameIssuer = false) (issuer : String) (records : List PollingRecord)
    (handle : Option (List FeedSourceHandle))
    (own : ∀ record ∈ records, record.1.issuer = issuer ∧ (pollingType record.1.change).isSome = true)
    (alternates : ∀ type, Alternates (decide (type ∉ polledBy issuer (handle.getD []))) (addsOf type (records.map Prod.fst))) :
    ∀ o ∈ reviewed config handle records, o.2 = true := by
  induction records generalizing handle with
  | nil =>
    intro o member
    cases member
  | cons record records ih =>
    obtain ⟨issued, known⟩ := own record List.mem_cons_self
    obtain ⟨type, about⟩ := Option.isSome_iff_exists.1 known
    have turns : (added record.1.change).isSome = decide (type ∉ polledBy issuer (handle.getD [])) := by
      have here := alternates type
      rw [List.map_cons, addsOf_cons_same about] at here
      exact here.1
    obtain ⟨polls', reviews, turned, others⟩ := ownReview_alternating single oneType about turns
    have next : polledBy issuer ((reviewStep config handle record).getD []) = polls' := by
      have step := (reviewStep_local config).own handle record
      simpa only [issued, ownNext, reviews, Option.getD_some] using step
    intro o member
    rcases List.mem_cons.1 member with rfl | member
    · rw [accepts_own, issued, reviews]
      rfl
    · apply ih (reviewStep config handle record) (fun later member => own later (List.mem_cons_of_mem _ member)) ?_ o member
      intro type'
      have here := alternates type'
      rw [next]
      by_cases same : type' = type
      · subst same
        rw [List.map_cons, addsOf_cons_same about] at here
        have flips : decide (type' ∉ polls') = !decide (type' ∉ polledBy issuer (handle.getD [])) := by
          simp [turned]
        rw [flips]
        exact here.2
      · rw [List.map_cons, addsOf_cons_other fun equal => same (Option.some.inj (equal.symm.trans about))] at here
        have keeps : decide (type' ∉ polls') = decide (type' ∉ polledBy issuer (handle.getD [])) := by
          simp [others type' same]
        rwa [keeps]

namespace Instance

/-- A listener is registered for a source that is not listened to, and only a source that is listened to is
stopped being listened to. -/
def Matches (s : Instance) (a : Action) : Prop :=
  ¬ s.Unmatched a ∧
    match a with
    | .initiate env sourceConfig _ =>
      env.startsListening sourceConfig = true → s.service.sourcePolling.get sourceConfig.contract = none →
        s.service.sourceListening.get sourceConfig.contract = none
    | _ => True

instance (s : Instance) : (a : Action) → Decidable (s.Unmatched a)
  | .resume n _ =>
    match there : s.pending[n]? with
    | some (.stopFailedListening sourceId) =>
      decidable_of_iff (s.service.sourceListening.get sourceId = none) (by simp [Unmatched, there])
    | some (.countError _ _) | some .removeAllListeners | none => isFalse (by simp [Unmatched, there])
  | .stopListening _ _ _ => inferInstanceAs (Decidable (_ = none))
  | .initiate _ _ _ | .tick _ | .answer _ _ | .stopPolling _ _ _ | .stopAllPolling _ | .stopAllListening _ _ => isFalse id

instance (s : Instance) : (a : Action) → Decidable (s.Matches a)
  | .initiate _ _ _ => inferInstanceAs (Decidable (_ ∧ (_ → _ → _)))
  | .tick _ | .answer _ _ | .resume _ _ | .stopPolling _ _ _ | .stopAllPolling _ | .stopListening _ _ _
  | .stopAllListening _ _ => inferInstanceAs (Decidable (_ ∧ True))

section
variable (config : RelaydConfig) (client : Client)
  (single : config.sourcePollingAllowMultipleBySameIssuer = false)
include single

theorem kept_matching : Kept config client (fun s a => a.Casts ∧ s.Matches a) True False (Matching client) where
  starts _ _ _ _ _ _ matching allowed starts := starts.matching matching single allowed.1 allowed.2.2
  alters _ _ _ _ matching alters := alters.matching matching
  casts _ _ allowed _ := allowed.1
  unmatched _ _ allowed := allowed.2.1

/-- **When all casts are written and listening is matched, the changes that an instance casts for a source and
polling type alternate, starting with an addition**, and the review of the changes of a source accepts them all. -/
theorem polling_log_alternates (oneType : config.sourcePollingAllowMultipleTypeBySameIssuer = false) (as : List Action)
    (s : Instance) (casts : ∀ a ∈ as, a.Casts) (along : Along (step config client) Matches {} as)
    (reached : run (step config client) {} as = some s) :
    (∀ sourceId type, Alternates true (addsOf type (changesOf sourceId s.log))) ∧
      ∀ sourceId records, records.map Prod.fst = changesOf sourceId s.log →
        ∀ o ∈ reviewed config none records, o.2 = true := by
  have start : Matching client ({} : Instance).service ({} : Instance).log := by
    constructor
    · intro sourceId type
      cases type <;> exact ⟨rfl, True.intro⟩
    · intro record member
      cases member
  have matching := (kept_matching config client single).run init_nodup start ((Along.of_forall casts).and along) reached
  have alternates : ∀ sourceId type, Alternates true (addsOf type (changesOf sourceId s.log)) :=
    fun sourceId type => (matching.alternates sourceId type).left
  refine ⟨alternates, ?_⟩
  intro sourceId records logged
  apply reviewed_alternating single oneType client.serviceId
  · intro record member
    have change : record.1 ∈ changesOf sourceId s.log := logged ▸ List.mem_map_of_mem member
    obtain ⟨announced, member, same⟩ := List.mem_map.1 change
    rw [← same]
    exact matching.own announced (List.mem_filter.1 member).1
  · intro type
    rw [logged]
    exact alternates sourceId type

end

/-- A listener is started, its source is stopped being listened to and listened to again. -/
def relisten : List Action :=
  [.initiate healthyEnv newSource "feed-btc", .stopListening healthyEnv proxyAddress none,
    .initiate healthyEnv newSource "feed-btc"]

theorem relisten_alternates :
    ∃ s, run (step RelaydConfig.prod relayClient) {} relisten = some s ∧
      addsOf .EVENT (changesOf proxyAddress s.log) = [true, false, true] ∧
      ∀ sourceId type, Alternates true (addsOf type (changesOf sourceId s.log)) := by
  have possible : (run (step RelaydConfig.prod relayClient) {} relisten).any (fun s =>
      addsOf .EVENT (changesOf proxyAddress s.log) = [true, false, true]) = true := by decide +kernel
  obtain ⟨s, reached, cast⟩ := (Option.any_eq_true _ _).1 possible
  have casts : ∀ a ∈ relisten, a.Casts := by
    have healthy : healthyEnv.PollingCasts := ⟨fun _ => rfl, fun _ => rfl⟩
    simp [relisten, Action.Casts, healthy]
  have along : Along (step RelaydConfig.prod relayClient) Matches {} relisten := by decide +kernel
  exact ⟨s, reached, of_decide_eq_true cast,
    (polling_log_alternates RelaydConfig.prod relayClient rfl rfl relisten s casts along reached).1⟩

/-! ## A start that fails, and a second feed -/

/-- The decimals of the source's contract do not load. -/
def noDecimals : Env := { healthyEnv with reads := { healthyEnv.reads with decimals := fun _ => .error "timeout" } }

/-- The listener of a source does not start, and what it left is cleaned up. -/
def failToListen : List Action := [.initiate noDecimals newSource "feed-btc", .resume 0 healthyEnv]

/-- What the clean-up casts. -/
def strayRemoval : PollingRecord :=
  ({ source := proxyAddress, issuer := relayClient.serviceId, change := .REMOVE_LISTEN_EVENT,
     info := some "Listener init by 'relayd.eth_1' failed" }, "2022-04-15T12:00:00.000Z")

/-- The failed start casts a removal that nothing precedes and the review rejects; two feeds on one contract
cast an addition twice. -/
theorem polling_log_breaks :
    RelaydConfig.prod.sourcePollingAllowMultipleBySameIssuer = false ∧
      RelaydConfig.prod.sourcePollingAllowMultipleTypeBySameIssuer = false ∧
      (∀ a ∈ failToListen ++ listenTwice, a.Casts) ∧
      (∃ s, run (step RelaydConfig.prod relayClient) {} failToListen = some s ∧
        ¬ Alternates true (addsOf .EVENT (changesOf proxyAddress s.log)) ∧
        ∃ record : PollingRecord, [record.1] = changesOf proxyAddress s.log ∧ added record.1.change = none ∧
          (record, false) ∈ reviewed RelaydConfig.prod none [record]) ∧
      ∃ s, run (step RelaydConfig.prod relayClient) {} listenTwice = some s ∧
        ¬ Alternates true (addsOf .EVENT (changesOf proxyAddress s.log)) := by
  have healthy : healthyEnv.PollingCasts := ⟨fun _ => rfl, fun _ => rfl⟩
  have noDecimals : noDecimals.PollingCasts := ⟨fun _ => rfl, fun _ => rfl⟩
  refine ⟨rfl, rfl, by simp [failToListen, listenTwice, Action.Casts, healthy, noDecimals], ?_, ?_⟩
  · refine ⟨_, rfl, by decide +kernel, ?_⟩
    exact ⟨strayRemoval, by decide +kernel⟩
  · exact ⟨_, rfl, by decide +kernel⟩

end Instance

end Relayd.EthClient
