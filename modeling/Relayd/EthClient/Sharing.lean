import Relayd.EthClient.OneSource
import Relayd.EthClient.Review
import Relayd.EthClient.Vetted

/-!
# Feeds on one contract

`SOURCE_POLLING` and the source table know a source by its contract, while
`SOURCE_CONFIG` knows it by its feed. A polling change of a contract that two
feeds share is merged into the feed whose record reached the table last,
whichever feed the instance reads for. The other feeds of the contract agree
with it only if they showed the change before, as they do when an instance reads
for one feed after the other.
-/

namespace Relayd.EthClient
set_option autoImplicit false
open Relayd.Common Sys

/-- The contract whose data the event starts to read for the feed. -/
def Event.readFor (feedId : String) : Event → Option String
  | .reading f contract => if f = feedId then some contract else none
  | _ => none

/-- The instance has started to read data for the feed. -/
def ReadBy (history : List (String × Event)) (serviceId feedId : String) : Prop :=
  ∃ contract, (serviceId, .reading feedId contract) ∈ history

instance (history : List (String × Event)) (serviceId feedId : String) : Decidable (ReadBy history serviceId feedId) :=
  decidable_of_iff (∃ e ∈ history, ∃ contract ∈ e.2.readFor feedId, e = (serviceId, .reading feedId contract)) (by
    constructor
    · rintro ⟨_, member, contract, -, rfl⟩
      exact ⟨contract, member⟩
    · rintro ⟨contract, member⟩
      exact ⟨_, member, contract, by simp [Event.readFor], rfl⟩)

theorem ReadBy.append {history new : List (String × Event)} {serviceId feedId : String}
    (read : ReadBy history serviceId feedId) : ReadBy (history ++ new) serviceId feedId := by
  obtain ⟨contract, member⟩ := read
  exact ⟨contract, List.mem_append_left new member⟩

section
variable {ι : Type}

/-- The registrations that a feed was submitted with. -/
def Net.initial (net : Net ι) (feedId : String) : List Entry :=
  entries ((net.sourceConfig feedId).head?.bind FeedConfigSource.handle)

/-- The instances that the source lists read for the feed, unless it was submitted with them. -/
def Attributed (net : Net ι) (feedId : String) (source : FeedConfigSource) : Prop :=
  ∀ e ∈ entries source.handle, e ∈ net.initial feedId ∨ ReadBy net.history e.1 feedId

/-- The polling changes are those of the instances. -/
def OfInstances : Action ι → Prop
  | .announce _ _ => False
  | _ => True

instance : DecidablePred (OfInstances : Action ι → Prop)
  | .announce _ _ => isFalse id
  | .consume .. | .stopPolling .. | .stopListening .. | .submit .. | .merge .. | .table .. => isTrue True.intro

/-- Every registration, made or announced, is one of an instance that reads for a feed of the contract. -/
structure Owned (net : Net ι) : Prop where
  sources : net.Everywhere (Attributed net)
  announced : ∀ sourceId, ∀ info ∈ net.sourcePolling sourceId, added info.change ≠ none →
    ∃ feedId, net.Carries feedId sourceId ∧ ReadBy net.history info.issuer feedId

theorem Owned.init : Owned ({} : Net ι) where
  sources := Net.Everywhere.init
  announced := by
    intro sourceId info member
    cases member

/-! ## What a merged change is to every feed of its contract -/

/-- The change is about the registration. -/
def IsAbout (e : Entry) (change : PollingRecord) : Prop := change.1.issuer = e.1 ∧ pollingType change.1.change = some e.2

instance (e : Entry) (change : PollingRecord) : Decidable (IsAbout e change) := inferInstanceAs (Decidable (_ ∧ _))

/-- The registration is listed after the changes: the last one about it registers it, or it was listed before and
none is about it. -/
def ListedAfter (listed : List Entry) (changes : List PollingRecord) (e : Entry) : Prop :=
  match (changes.filter fun change => IsAbout e change).getLast? with
  | some change => added change.1.change = some e.2
  | none => e ∈ listed

instance (listed : List Entry) (changes : List PollingRecord) (e : Entry) : Decidable (ListedAfter listed changes e) := by
  unfold ListedAfter
  split <;> infer_instance

theorem listedAfter_append (listed : List Entry) (changes : List PollingRecord) (change : PollingRecord) (e : Entry) :
    ListedAfter listed (changes ++ [change]) e ↔
      if IsAbout e change then added change.1.change = some e.2 else ListedAfter listed changes e := by
  by_cases about : IsAbout e change
  · simp [ListedAfter, List.filter_append, about]
  · simp [ListedAfter, List.filter_append, about]

/-- The feed's last record shows the change. -/
def Net.Shows (net : Net ι) (feedId : String) (info : SourcePollingInfo) : Prop :=
  ∀ type ∈ pollingType info.change, (info.issuer, type) ∈ net.registered feedId ↔ added info.change = some type

instance (net : Net ι) (feedId : String) (info : SourcePollingInfo) : Decidable (net.Shows feedId info) :=
  inferInstanceAs (Decidable (∀ type ∈ (_ : Option EFeedSourcePoll), _))

/-- The change is merged for the feed `merged` of its contract. The feed `other` of the contract shows it already, and
its issuer reads for both if it reads for that one. -/
def SharedBy (net : Net ι) (merged other : String) (info : SourcePollingInfo) : Prop :=
  net.Shows other info ∧
    (added info.change ≠ none → ReadBy net.history info.issuer other → ReadBy net.history info.issuer merged)

instance (net : Net ι) (merged other : String) (info : SourcePollingInfo) : Decidable (SharedBy net merged other info) :=
  inferInstanceAs (Decidable (_ ∧ _))

/-- A change that is merged for one feed is shared by the other feeds that have records on its contract; and a feed is
submitted once. -/
def Joint (config : RelaydConfig) (clients : ι → Client) (net : Net ι) : Action ι → Prop
  | .submit feedId _ => net.sourceConfig feedId = []
  | .merge i sourceId now => ∀ info ∈ net.sourcePolling.next net.merged sourceId, ∀ entry ∈ net.sourceTable sourceId,
      mergeSourcePolling config (clients i).serviceId (some entry) info now ≠ none →
      ∀ feedId, feedId ≠ entry.feedId → net.Carries feedId sourceId → SharedBy net entry.feedId feedId info
  | _ => True

/-- The last record of a feed lists the registrations that the changes leave it, and no instance that does not
read for the feed, but those that its first record listed. -/
structure Reflects (net : Net ι) (feedId : String) (first last : FeedConfigSource) (changes : List PollingRecord) : Prop where
  merged : ∀ e, e ∈ entries last.handle ↔ ListedAfter (entries first.handle) changes e
  readers : ∀ e ∈ entries last.handle, e ∈ entries first.handle ∨ ReadBy net.history e.1 feedId

/-- A registration that is listed after some changes was listed before, or is registered by one of them. -/
theorem ListedAfter.known {listed : List Entry} {changes : List PollingRecord} {e : Entry}
    (after : ListedAfter listed changes e) :
    e ∈ listed ++ changes.filterMap fun change => (added change.1.change).map fun type => (change.1.issuer, type) := by
  unfold ListedAfter at after
  split at after
  case h_1 change isLast =>
    obtain ⟨member, about⟩ := List.mem_filter.1 (List.mem_of_getLast? isLast)
    have issuer := (of_decide_eq_true about).1
    apply List.mem_append_right
    exact List.mem_filterMap.2 ⟨change, member, by rw [after, issuer]; rfl⟩
  case h_2 => exact List.mem_append_left _ after

instance (net : Net ι) (feedId : String) (first last : FeedConfigSource) (changes : List PollingRecord) :
    Decidable (Reflects net feedId first last changes) :=
  decidable_of_iff
    ((∀ e ∈ entries last.handle, ListedAfter (entries first.handle) changes e) ∧
      (∀ e ∈ entries first.handle ++
          changes.filterMap fun change => (added change.1.change).map fun type => (change.1.issuer, type),
        ListedAfter (entries first.handle) changes e → e ∈ entries last.handle) ∧
      ∀ e ∈ entries last.handle, e ∈ entries first.handle ∨ ReadBy net.history e.1 feedId) (by
    constructor
    · rintro ⟨listed, all, readers⟩
      exact ⟨fun e => ⟨listed e, fun after => all e after.known after⟩, readers⟩
    · rintro ⟨merged, readers⟩
      exact ⟨fun e => (merged e).1, fun e _ => (merged e).2, readers⟩)

/-- Every feed reflects, in the last state of a run, the changes merged for its contract since it was created. -/
def Reflected (last : Net ι) (net : Net ι) : Action ι → Prop
  | .submit feedId source => ∃ record ∈ last.sourceConfig.last feedId,
      Reflects last feedId source record ((last.accepted source.contract).drop (net.accepted source.contract).length)
  | _ => True

instance (last net : Net ι) : DecidablePred (Reflected last net)
  | .submit .. => inferInstanceAs (Decidable (∃ record ∈ (_ : Option FeedConfigSource), _))
  | .consume .. | .stopPolling .. | .stopListening .. | .announce .. | .merge .. | .table .. => isTrue True.intro

/-- The source is on the contract that its feed was created on. -/
def Homed (net : Net ι) (feedId : String) (source : FeedConfigSource) : Prop :=
  ∃ first ∈ (net.sourceConfig feedId).head?, source.contract = first.contract

/-- A feed stays on one contract, and the table has sources of that contract under it. -/
structure Housed (net : Net ι) : Prop where
  sources : net.Everywhere (Homed net)
  table : ∀ sourceId entry, net.sourceTable sourceId = some entry → entry.source.contract = sourceId

theorem Housed.init : Housed ({} : Net ι) where
  sources := Net.Everywhere.init
  table := by
    intro sourceId entry stored
    cases stored

/-- The entry of a contract is of a feed that was created on it. -/
theorem Housed.entry {net : Net ι} (housed : Housed net) {sourceId : String} {entry : FeedSourceConfigWrap}
    (stored : net.sourceTable sourceId = some entry) :
    ∃ first ∈ (net.sourceConfig entry.feedId).head?, first.contract = sourceId := by
  obtain ⟨first, isFirst, contract⟩ := housed.sources.table sourceId entry stored
  exact ⟨first, isFirst, contract.symm.trans (housed.table sourceId entry stored)⟩

/-- Recasts with the registrations of the feed's last record leave these as they are. -/
theorem registered_recasts {net : Net ι} {feedId : String} {records : List (String × FeedConfigSource)}
    (same : ∀ upd, (feedId, upd) ∈ records → entries upd.handle = net.registered feedId) :
    Net.registered { net with sourceConfig := net.sourceConfig.appendAll records } feedId = net.registered feedId := by
  have appended := Topic.appendAll_apply net.sourceConfig records feedId
  rcases List.eq_nil_or_concat ((records.filter fun r => r.1 = feedId).map Prod.snd) with none | ⟨before, upd, ends⟩
  · exact registered_congr (appended.trans (by rw [none, List.append_nil]))
  · have member : upd ∈ (records.filter fun r => r.1 = feedId).map Prod.snd := by
      rw [ends, List.concat_eq_append]
      exact List.mem_concat_self
    obtain ⟨⟨f, upd'⟩, kept, rfl⟩ := List.mem_map.1 member
    obtain ⟨recast, own⟩ := List.mem_filter.1 kept
    obtain rfl : f = feedId := of_decide_eq_true own
    rw [← same upd' recast]
    apply registered_last
    refine (congrArg List.getLast? appended).trans ?_
    rw [ends, List.concat_eq_append, ← List.append_assoc, List.getLast?_concat]

variable [DecidableEq ι] {config : RelaydConfig} {clients : ι → Client} {aliased : Bool} {net net' : Net ι} {a : Action ι}

theorem Attributed.step (stepped : net.step config clients aliased a = some net') (feedId : String)
    (source : FeedConfigSource) (attributed : Attributed net feedId source) : Attributed net' feedId source := by
  obtain ⟨new, history⟩ := Net.history_grows stepped
  obtain ⟨more, grown⟩ := Net.step_grows stepped feedId
  intro e member
  rcases attributed e member with initial | read
  · left
    unfold Net.initial at initial ⊢
    cases head : (net.sourceConfig feedId).head? with
    | none =>
      rw [head] at initial
      cases initial
    | some first =>
      rw [head] at initial
      rw [grown, List.head?_append, head]
      exact initial
  · right
    rw [history]
    exact read.append

theorem Net.Carries.step (stepped : net.step config clients aliased a = some net') {feedId sourceId : String}
    (carries : net.Carries feedId sourceId) : net'.Carries feedId sourceId := by
  obtain ⟨record, member, contract⟩ := carries
  exact ⟨record, Net.step_keeps stepped member, contract⟩

theorem Housed.step (housed : Housed net) (joint : Joint config clients net a)
    (stepped : net.step config clients aliased a = some net') : Housed net' where
  sources := by
    apply housed.sources.step _ stepped
    · rintro feedId source rfl
      cases stepped
      exact ⟨source, congrArg List.head? (Topic.append_first joint source), rfl⟩
    · rintro i env feedId record - - - ⟨first, isFirst, contract⟩ f upd cast
      obtain ⟨rfl, recast⟩ := (handleSourceConfig_own config (clients i) env feedId record _).2 _ (mem_recasts.1 cast)
      exact ⟨first, Net.step_head stepped isFirst, recast.contract.trans contract⟩
    · rintro i sourceId info now entry upd - - - result ⟨first, isFirst, contract⟩
      exact ⟨first, isFirst, result.contract.trans contract⟩
    · rintro feedId source ⟨first, isFirst, contract⟩
      exact ⟨first, Net.step_head stepped isFirst, contract⟩
  table := by
    intro sourceId entry stored
    cases Net.effect stepped with
    | submit | consume | stop | announce | ignore => exact housed.table sourceId entry stored
    | merge i merged now info held upd next outcome result =>
      have own := result.contract.trans (housed.table merged held result.stored)
      cases aliased with
      | false => exact housed.table sourceId entry stored
      | true =>
        by_cases same : sourceId = merged
        · subst same
          simp only [↓reduceIte, Function.update_self, Option.some.injEq] at stored
          rw [← stored]
          exact own
        · simp only [↓reduceIte, Function.update_of_ne same] at stored
          exact housed.table sourceId entry stored
    | table feedId record next =>
      by_cases same : sourceId = record.contract
      · subst same
        simp only [Function.update_self, Option.some.injEq] at stored
        rw [← stored]
      · simp only [Function.update_of_ne same] at stored
        exact housed.table sourceId entry stored

/-- A polling change comes from an announcement, from the consumption of a source record, or is a removal. -/
theorem Net.step_announced (stepped : net.step config clients aliased a = some net') {sourceId : String}
    {info : SourcePollingInfo} (member : info ∈ net'.sourcePolling sourceId) :
    info ∈ net.sourcePolling sourceId ∨ a = .announce sourceId info ∨ added info.change = none ∨
      ∃ i env feedId record, a = .consume i env feedId ∧ net.sourceConfig.next net.handled feedId = some record ∧
        .pollingCast sourceId info ∈ (handleSourceConfig config (clients i) env feedId record (net.services i)).events := by
  cases Net.effect stepped with
  | consume i env feedId record next =>
    rcases Topic.mem_appendAll.1 member with old | new
    · exact Or.inl old
    · exact Or.inr (Or.inr (Or.inr ⟨i, env, feedId, record, rfl, next, mem_announcements.1 new⟩))
  | stop _ i call stops =>
    rcases Topic.mem_appendAll.1 member with old | new
    · exact Or.inl old
    · obtain ⟨_, _, equal, removal⟩ := stops _ (mem_announcements.1 new)
      cases equal
      exact Or.inr (Or.inr (Or.inl removal))
  | announce contract info' =>
    rcases Topic.mem_append.1 member with old | ⟨rfl, rfl⟩
    · exact Or.inl old
    · exact Or.inr (Or.inl rfl)
  | submit | ignore | merge | table => exact Or.inl member

/-- A new poller is announced by an instance that started reading for the feed of the consumed record. -/
theorem announces_reading {client : Client} {env : Env} {feedId : String} {record : FeedConfigSource}
    {s : EthConnectService} {sourceId : String} {info : SourcePollingInfo}
    (cast : .pollingCast sourceId info ∈ (handleSourceConfig config client env feedId record s).events)
    (adds : added info.change ≠ none) : sourceId = record.contract ∧ info.issuer = client.serviceId ∧
      .reading feedId record.contract ∈ (handleSourceConfig config client env feedId record s).events := by
  obtain ⟨contract, -, issuer⟩ := (handleSourceConfig_own config client env feedId record s).2 _ cast
  rcases handleSourceConfig_readsFirst config client env feedId record s with reads | quiet
  · exact ⟨contract, issuer, reads⟩
  · exact absurd (quiet _ cast) adds

/-- **Every action keeps the registrations owned**, when the changes it merges are shared by the feeds of their
contract. -/
theorem Owned.step (owned : Owned net) (ofInstances : OfInstances a)
    (joint : Joint config clients net a) (stepped : net.step config clients aliased a = some net') : Owned net' := by
  constructor
  · apply owned.sources.step (Attributed.step stepped) stepped
    · rintro feedId source rfl e member
      left
      cases stepped
      simpa only [Net.initial, Topic.append_first joint, List.head?_cons, Option.bind_some] using member
    · rintro i env feedId record - - - held f upd cast e member
      obtain ⟨rfl, recast⟩ := (handleSourceConfig_own config (clients i) env feedId record _).2 _ (mem_recasts.1 cast)
      rw [recast.handle] at member
      exact Attributed.step stepped f record held e member
    · rintro i sourceId info now entry upd rfl next outcome result held e member
      obtain ⟨reviewed, review, handle⟩ := result.handle
      rw [handle] at member
      rcases review_gains review member with old | ⟨issuer, adds⟩
      · exact held e old
      · -- the issuer reads for a feed of the contract, and so for the one of the table
        have adds := Option.isSome_iff_ne_none.1 adds
        obtain ⟨feedId, carries, read⟩ := owned.announced sourceId info (Topic.next_mem next) adds
        have readsEntry : ReadBy net.history info.issuer entry.feedId := by
          by_cases same : feedId = entry.feedId
          · rwa [← same]
          · have accepted : mergeSourcePolling config (clients i).serviceId (some entry) info now ≠ none := by
              rw [← result.stored, outcome]
              exact Option.some_ne_none upd
            exact (joint info next entry result.stored accepted feedId same carries).2 adds read
        obtain ⟨new, history⟩ := Net.history_grows stepped
        right
        rw [history, issuer]
        exact readsEntry.append
  · intro sourceId info member adds
    obtain ⟨new, history⟩ := Net.history_grows stepped
    rcases Net.step_announced stepped member with old | rfl | removal | ⟨i, env, feedId, record, rfl, next, cast⟩
    · obtain ⟨feedId, carries, read⟩ := owned.announced sourceId info old adds
      rw [history]
      exact ⟨feedId, carries.step stepped, read.append⟩
    · exact ofInstances.elim
    · exact absurd removal adds
    · obtain ⟨rfl, issuer, reads⟩ := announces_reading cast adds
      have carries : net.Carries feedId record.contract := ⟨record, Topic.next_mem next, rfl⟩
      refine ⟨feedId, carries.step stepped, record.contract, ?_⟩
      obtain rfl := Net.consume_eq next stepped
      rw [issuer]
      exact List.mem_append_right _ (List.mem_map.2 ⟨_, reads, rfl⟩)

/-- Since `start` changes were merged for its contract, when it was created, a feed lists what the changes leave it. -/
structure Follows (start : Nat) (feedId : String) (first : FeedConfigSource) (net : Net ι) : Prop where
  isFirst : (net.sourceConfig feedId).head? = some first
  known : start ≤ (net.accepted first.contract).length
  listed : ∀ e, e ∈ net.registered feedId ↔ ListedAfter (entries first.handle) ((net.accepted first.contract).drop start) e

/-- A new feed lists what it was submitted with. -/
theorem Follows.created {feedId : String} {first : FeedConfigSource} (new : net.sourceConfig feedId = [])
    (stepped : net.step config clients aliased (.submit feedId first) = some net') :
    Follows (net.accepted first.contract).length feedId first net' := by
  cases stepped
  refine ⟨congrArg List.head? (Topic.append_first new first), Nat.le_refl _, ?_⟩
  intro e
  rw [registered_append_same, List.drop_length]
  rfl

/-- **Every action keeps what a feed lists**, when a merged change is shared and what is written over was read. -/
theorem Follows.step {start : Nat} {feedId : String} {first : FeedConfigSource} (follows : Follows start feedId first net)
    (housed : Housed net) (joint : Joint config clients net a) (upToDate : UpToDate config clients net a)
    (stepped : net.step config clients aliased a = some net') : Follows start feedId first net' := by
  have isFirst := Net.step_head stepped follows.isFirst
  have member : first ∈ net.sourceConfig feedId := List.mem_of_mem_head? follows.isFirst
  -- an action that neither changes the registrations of the feed nor merges a change for its contract
  have unchanged : net'.registered feedId = net.registered feedId → net'.accepted first.contract = net.accepted first.contract →
      Follows start feedId first net' := by
    intro registered accepted
    exact ⟨isFirst, by rw [accepted]; exact follows.known, by rw [registered, accepted]; exact follows.listed⟩
  cases Net.effect stepped with
  | submit f source =>
    have other : feedId ≠ f := by
      rintro rfl
      rw [show net.sourceConfig feedId = [] from joint] at member
      cases member
    exact unchanged (registered_append_other other) rfl
  | consume i env f record next =>
    refine unchanged ?_ rfl
    apply registered_recasts
    intro upd cast
    obtain ⟨rfl, recast⟩ := (handleSourceConfig_own config (clients i) env f record _).2 _ (mem_recasts.1 cast)
    rw [recast.handle]
    exact upToDate record next (List.ne_nil_of_mem cast)
  | stop _ i call stops =>
    refine unchanged ?_ rfl
    apply registered_recasts
    intro upd cast
    exact absurd cast (not_recast_of_stops stops)
  | announce | ignore | table => exact unchanged rfl rfl
  | merge i sourceId now info entry upd next outcome result =>
    obtain ⟨home, isHome, contract⟩ := housed.entry result.stored
    obtain ⟨reviewed, review, handle⟩ := result.handle
    have accepts : mergeSourcePolling config (clients i).serviceId (some entry) info now ≠ none := by
      rw [← result.stored, outcome]
      exact Option.some_ne_none upd
    by_cases own : first.contract = sourceId
    case neg =>
      have other : feedId ≠ upd.feedId := by
        rintro rfl
        rw [result.feedId] at follows
        cases follows.isFirst.symm.trans isHome
        exact own contract
      exact unchanged (registered_append_other other) (Function.update_of_ne own _ _)
    case pos =>
      subst own
      have grown : (net.accepted first.contract ++ [(info, now)]).drop start =
          (net.accepted first.contract).drop start ++ [(info, now)] := List.drop_append_of_le_length follows.known
      refine ⟨isFirst, ?_, ?_⟩
      · simp only [Function.update_self, List.length_append]
        exact Nat.le_trans follows.known (Nat.le_add_right _ _)
      · intro e
        simp only [Function.update_self, grown, listedAfter_append]
        by_cases merged : feedId = upd.feedId
        · -- the feed of the table takes the change over
          subst merged
          have read := upToDate info next entry result.stored accepts
          rw [← result.feedId] at read
          have registered := (registered_append_same net upd.feedId upd.source).trans (congrArg entries handle)
          refine (iff_of_eq (congrArg (e ∈ ·) registered)).trans ?_
          rcases review_cases config entry.source.handle info now with ⟨error, failed, -⟩ | ⟨handles, done, changed, -⟩
          · cases review.symm.trans failed
          · cases review.symm.trans done
            refine (changed.listed_iff e).trans ?_
            rw [show e ∈ List.map Relayd.EthClient.entry (entry.source.handle.getD []) ↔ _ from
              (iff_of_eq (congrArg (e ∈ ·) read)).trans (follows.listed e)]
            rfl
        · -- another feed of the contract shows it already
          have registered : Net.registered { net with sourceConfig := net.sourceConfig.append upd.feedId upd.source } feedId =
              net.registered feedId := registered_append_other merged
          refine (iff_of_eq (congrArg (e ∈ ·) registered)).trans ?_
          rw [result.feedId] at merged
          obtain ⟨shows, -⟩ := joint info next entry result.stored accepts feedId merged ⟨first, member, rfl⟩
          split
          case isTrue about =>
            obtain ⟨issuer, type⟩ := e
            obtain ⟨rfl, about⟩ := about
            exact shows type about
          case isFalse => exact follows.listed e

/-- **Feeds do not disturb each other, as long as a merged change is shared by the feeds of its contract and what is
written over was read.** -/
theorem feeds_undisturbed (config : RelaydConfig) (clients : ι → Client) (aliased : Bool) (as : List (Action ι))
    (net : Net ι) (ofInstances : ∀ a ∈ as, OfInstances a)
    (joint : Along (Net.step config clients aliased) (Joint config clients) {} as)
    (upToDate : Along (Net.step config clients aliased) (UpToDate config clients) {} as)
    (reached : run (Net.step config clients aliased) {} as = some net) :
    Along (Net.step config clients aliased) (Reflected net) {} as := by
  have each : ∀ net a net', (Housed net ∧ Owned net) → (OfInstances a ∧ Joint config clients net a) →
      Net.step config clients aliased net a = some net' → Housed net' ∧ Owned net' := by
    rintro net a net' ⟨housed, owned⟩ ⟨ofInstances, joint⟩ stepped
    exact ⟨housed.step joint stepped, owned.step ofInstances joint stepped⟩
  have along := (Along.of_forall ofInstances).and joint
  obtain ⟨-, owned⟩ := invariant each ⟨Housed.init, Owned.init⟩ along reached
  rintro before a after created rfl start
  cases a with
  | submit feedId first =>
    obtain ⟨housed, -⟩ := invariant each ⟨Housed.init, Owned.init⟩ along.left start
    have new : Joint config clients created (.submit feedId first) := joint before _ after created rfl start
    rw [run_append, start, Option.bind_some] at reached
    obtain ⟨added, stepped, rest⟩ := run_cons.1 reached
    -- from its creation on, the feed follows the changes
    have follow : ∀ net a net', (Housed net ∧ Follows (created.accepted first.contract).length feedId first net) →
        (Joint config clients net a ∧ UpToDate config clients net a) → Net.step config clients aliased net a = some net' →
        Housed net' ∧ Follows (created.accepted first.contract).length feedId first net' := by
      rintro net a net' ⟨housed, follows⟩ ⟨joint, upToDate⟩ stepped
      exact ⟨housed.step joint stepped, follows.step housed joint upToDate stepped⟩
    have later := (Along.cons_iff.1 ((joint.and upToDate).right start)).2 added stepped
    obtain ⟨-, follows⟩ := invariant follow ⟨housed.step new stepped, Follows.created new stepped⟩ later rest
    obtain ⟨last, isLast⟩ := Topic.last_isSome (List.mem_of_mem_head? follows.isFirst)
    refine ⟨last, isLast, ?_, ?_⟩
    · intro e
      rw [← registered_last isLast]
      exact follows.listed e
    · intro e member
      rcases owned.sources.records feedId last (Topic.last_mem isLast) e member with initial | read
      · left
        simpa only [Net.initial, follows.isFirst, Option.bind_some] using initial
      · exact Or.inr read
  | _ => exact True.intro

/-- The condition of a run that submits no other feeds than these. -/
def JointAmong (feeds : List String) (config : RelaydConfig) (clients : ι → Client) (net : Net ι) : Action ι → Prop
  | .submit feedId _ => feedId ∈ feeds ∧ net.sourceConfig feedId = []
  | .merge i sourceId now => ∀ info ∈ net.sourcePolling.next net.merged sourceId, ∀ entry ∈ net.sourceTable sourceId,
      mergeSourcePolling config (clients i).serviceId (some entry) info now ≠ none →
      ∀ feedId ∈ feeds, feedId ≠ entry.feedId → net.Carries feedId sourceId → SharedBy net entry.feedId feedId info
  | _ => True

instance (feeds : List String) (config : RelaydConfig) (clients : ι → Client) (net : Net ι) :
    DecidablePred (JointAmong feeds config clients net)
  | .submit .. => inferInstanceAs (Decidable (_ ∧ _))
  | .merge _ sourceId _ =>
    have (feedId : String) : Decidable (net.Carries feedId sourceId) :=
      inferInstanceAs (Decidable (∃ record ∈ net.sourceConfig feedId, record.contract = sourceId))
    inferInstanceAs (Decidable (∀ info ∈ (_ : Option SourcePollingInfo), ∀ entry ∈ (_ : Option FeedSourceConfigWrap),
      _ → ∀ feedId ∈ feeds, _ → _ → _))
  | .consume .. | .stopPolling .. | .stopListening .. | .announce .. | .table .. => isTrue True.intro

theorem Joint.of_among {feeds : List String} {as : List (Action ι)}
    (among : Along (Net.step config clients aliased) (JointAmong feeds config clients) {} as) :
    Along (Net.step config clients aliased) (Joint config clients) {} as := by
  have each : ∀ (net : Net ι) a net', net.Everywhere (fun feedId _ => feedId ∈ feeds) → JointAmong feeds config clients net a →
      Net.step config clients aliased net a = some net' → net'.Everywhere fun feedId _ => feedId ∈ feeds := by
    intro net a net' all among stepped
    apply all.step (fun _ _ held => held) stepped
    · rintro feedId source rfl
      exact among.1
    · rintro i env feedId record - - - held f upd cast
      obtain ⟨rfl, -⟩ := (handleSourceConfig_own config (clients i) env feedId record _).2 _ (mem_recasts.1 cast)
      exact held
    · rintro i sourceId info now entry upd - - - - held
      exact held
  rintro before a after net rfl reached
  have here := among before a after net rfl reached
  have all := invariant each Net.Everywhere.init among.left reached
  cases a with
  | submit => exact here.2
  | merge i sourceId now =>
    intro info next entry stored accepts feedId other carries
    obtain ⟨record, member, contract⟩ := carries
    exact here info next entry stored accepts feedId (all.records feedId record member) other ⟨record, member, contract⟩
  | _ => exact True.intro

end

/-! ## Two feeds on the contract of one aggregator -/

/-- The feed is created; `x` validates its source and starts to listen for it, and its registration is merged. -/
def enter (feedId : String) : List (Action String) :=
  [.submit feedId newSource, .consume "x" healthyEnv feedId, .table feedId, .table feedId, .consume "x" healthyEnv feedId,
    .merge "x" proxyAddress "2022-04-15T12:00:01.000Z", .table feedId]

/-- Two feeds on one contract, the second one created when the first one is listened to. -/
def sharing : List (Action String) := enter "feed-btc" ++ enter "feed-btc-2"

/-- The registration of `name` is merged and tabled, and `next` consumes a record of the second feed. -/
def passOn (name next : String) : List (Action String) :=
  [.merge name proxyAddress "2022-04-15T12:00:01.000Z", .table "feed-btc-2", .consume next healthyEnv "feed-btc-2"]

/-- Both sources are validated before one of them is listened to. The records of the second one reach the table last, so
every registration goes to it, and it is polled until it has as many pollers as the settings ask for. -/
def mixing : List (Action String) :=
  [.submit "feed-btc" newSource, .submit "feed-btc-2" newSource, .consume "x" healthyEnv "feed-btc",
      .consume "x" healthyEnv "feed-btc-2", .table "feed-btc", .table "feed-btc", .table "feed-btc-2", .table "feed-btc-2",
      .consume "x" healthyEnv "feed-btc"] ++
    passOn "x" "y" ++ passOn "y" "z" ++ passOn "z" "w" ++ passOn "w" "v" ++ [.consume "v" healthyEnv "feed-btc-2"]

/-- `x` reads for both feeds and is registered for both, by two changes merged for their contract. -/
theorem sharing_undisturbed :
    ∃ net, run (Net.step RelaydConfig.prod fleet false) {} sharing = some net ∧
      ((net.accepted proxyAddress).length = 2 ∧
        ∀ feedId ∈ ["feed-btc", "feed-btc-2"], net.registered feedId = [("relayd.eth_x", .EVENT)]) ∧
      Along (Net.step RelaydConfig.prod fleet false) (Reflected net) {} sharing := by
  have merged : (run (Net.step RelaydConfig.prod fleet false) {} sharing).any (fun net =>
      decide ((net.accepted proxyAddress).length = 2 ∧
        ∀ feedId ∈ ["feed-btc", "feed-btc-2"], net.registered feedId = [("relayd.eth_x", .EVENT)])) = true := by
    decide +kernel
  obtain ⟨net, reached, merged⟩ := (Option.any_eq_true _ _).1 merged
  have joint : Along (Net.step RelaydConfig.prod fleet false) (JointAmong ["feed-btc", "feed-btc-2"] RelaydConfig.prod fleet) {}
      sharing := by
    decide +kernel
  have upToDate : Along (Net.step RelaydConfig.prod fleet false) (UpToDate RelaydConfig.prod fleet) {} sharing := by
    decide +kernel
  exact ⟨net, reached, of_decide_eq_true merged, feeds_undisturbed RelaydConfig.prod fleet false sharing net
    (by decide +kernel) (Joint.of_among joint) upToDate reached⟩

/-- The first feed's source does not list the instance that reads for it, and the second feed's source
lists it though it never reads for that feed. -/
theorem mixing_disturbs :
    (∀ a ∈ mixing, OfInstances a) ∧ ∀ aliased : Bool,
      ∃ net, run (Net.step RelaydConfig.prod fleet aliased) {} mixing = some net ∧
        ∀ feedId ∈ ["feed-btc", "feed-btc-2"], net.Settled feedId proxyAddress ∧
          ∃ last ∈ net.sourceConfig.last feedId,
            ¬ Reflects net feedId newSource last (net.accepted proxyAddress) := by
  refine ⟨by decide +kernel, ?_⟩
  intro aliased
  have disturbed : (run (Net.step RelaydConfig.prod fleet aliased) {} mixing).any (fun net =>
      decide (∀ feedId ∈ ["feed-btc", "feed-btc-2"], net.Settled feedId proxyAddress ∧
        ∃ last ∈ net.sourceConfig.last feedId, ¬ Reflects net feedId newSource last (net.accepted proxyAddress))) = true := by
    cases aliased <;> decide +kernel
  obtain ⟨net, reached, disturbed⟩ := (Option.any_eq_true _ _).1 disturbed
  exact ⟨net, reached, of_decide_eq_true disturbed⟩

end Relayd.EthClient
