import Relayd.EthClient.Net

/-!
# Registrations through the net

A polling change is merged into the handle list that the source table holds,
and the controller recasts the handle list of the record it consumes. Either
may be older than the last record of the source, and then writes over the
registrations made since. As long as neither happens, and only contracts of one
feed have changes merged, the handle list of a source is what the review makes
of the changes merged for its contract.
-/

namespace Relayd.EthClient
set_option autoImplicit false
open Relayd.Common Sys

variable {ι : Type}

/-- The review of one change after the other, from a handle list. -/
def replay (config : RelaydConfig) (handle : Option (List FeedSourceHandle))
    (changes : List (SourcePollingInfo × String)) : Except String (Option (List FeedSourceHandle)) :=
  changes.foldlM (fun handle change => (reviewSourceHandling config handle change.1 change.2).map some) handle

/-- The registrations in the last record of a feed. -/
def Net.registered (net : Net ι) (feedId : String) : List Entry :=
  entries ((net.sourceConfig.last feedId).bind FeedConfigSource.handle)

section
variable (config : RelaydConfig) (clients : ι → Client)

/-- What the action writes over is what it has read: a recast and a merge go by the registrations in
the last record of the feed. -/
def UpToDate (net : Net ι) : Action ι → Prop
  | .consume i env feedId => ∀ record ∈ net.sourceConfig.next net.handled feedId,
      recasts (handleSourceConfig config (clients i) env feedId record (net.services i)).events ≠ [] →
      entries record.handle = net.registered feedId
  | .merge i sourceId now => ∀ info ∈ net.sourcePolling.next net.merged sourceId,
      ∀ entry ∈ net.sourceTable sourceId,
      mergeSourcePolling config (clients i).serviceId (some entry) info now ≠ none →
      entries entry.source.handle = net.registered entry.feedId
  | _ => True

instance (net : Net ι) (a : Action ι) : Decidable (UpToDate config clients net a) :=
  match a with
  | .consume .. => inferInstanceAs (Decidable (∀ record ∈ (_ : Option FeedConfigSource), _ → _ = _))
  | .merge .. => inferInstanceAs (Decidable (∀ info ∈ (_ : Option SourcePollingInfo), ∀ entry ∈ (_ : Option FeedSourceConfigWrap),
      _ → _ = _))
  | .submit .. | .stopPolling .. | .stopListening .. | .announce .. | .table .. => isTrue True.intro

end

/-- The feed has a record on the contract. -/
def Net.Carries (net : Net ι) (feedId sourceId : String) : Prop :=
  ∃ record ∈ net.sourceConfig feedId, record.contract = sourceId

/-- At most one feed has records on the contract. -/
def Net.OneFeed (net : Net ι) (sourceId : String) : Prop :=
  ∀ feedId feedId', net.Carries feedId sourceId → net.Carries feedId' sourceId → feedId = feedId'

/-- No polling change concerns two feeds: a feed is submitted once, on a contract that has no merged
changes yet, and a change is merged only for a contract of one feed. -/
def Unshared (config : RelaydConfig) (clients : ι → Client) (net : Net ι) : Action ι → Prop
  | .submit feedId source => net.sourceConfig feedId = [] ∧ net.accepted source.contract = []
  | .merge i sourceId now => ∀ info ∈ net.sourcePolling.next net.merged sourceId,
      mergeSourcePolling config (clients i).serviceId (net.sourceTable sourceId) info now ≠ none → net.OneFeed sourceId
  | _ => True

/-- A feed has one contract, a contract with merged changes has one feed, and the table that caught up
with the only feed of a contract has its last record. -/
structure Keyed (net : Net ι) : Prop where
  within : Within net.sourceConfig net.tabled
  contract : ∀ feedId, ∀ record ∈ net.sourceConfig feedId, ∀ record' ∈ net.sourceConfig feedId,
    record.contract = record'.contract
  table : ∀ sourceId entry, net.sourceTable sourceId = some entry →
    entry.source.contract = sourceId ∧ net.Carries entry.feedId sourceId
  current : ∀ feedId last, net.sourceConfig.last feedId = some last → CaughtUp net.sourceConfig net.tabled feedId →
    net.OneFeed last.contract → net.sourceTable last.contract = some { feedId := feedId, source := last }
  unshared : ∀ sourceId, net.accepted sourceId ≠ [] → net.OneFeed sourceId

/-- The last record of a feed has the registrations that the merged changes make. -/
structure Synced (config : RelaydConfig) (net : Net ι) : Prop extends Keyed net where
  replayed : ∀ feedId first, (net.sourceConfig feedId).head? = some first →
    ∃ handle, replay config first.handle (net.accepted first.contract) = .ok handle ∧
      entries handle = net.registered feedId

theorem replay_append {config : RelaydConfig} {handle handle' : Option (List FeedSourceHandle)}
    {changes : List (SourcePollingInfo × String)}
    (replayed : replay config handle changes = .ok handle') (change : SourcePollingInfo × String) :
    replay config handle (changes ++ [change]) = (reviewSourceHandling config handle' change.1 change.2).map some := by
  unfold replay at replayed ⊢
  rw [List.foldlM_append, replayed]
  simp only [List.foldlM_cons, List.foldlM_nil, bind_pure]
  rfl

theorem Synced.init (config : RelaydConfig) : Synced config ({} : Net ι) where
  within := fun _ => Nat.le_refl _
  contract := by
    intro feedId record member
    cases member
  table := by
    intro sourceId entry stored
    cases stored
  current := by
    intro feedId last impossible
    cases impossible
  unshared := fun _ some => absurd rfl some
  replayed := by
    intro feedId first impossible
    cases impossible

/-- Whether a contract has one feed depends on the feeds' contracts only. -/
theorem Net.OneFeed.mono {net net' : Net ι} {sourceId : String} (one : net.OneFeed sourceId)
    (known : ∀ feedId, net'.Carries feedId sourceId → net.Carries feedId sourceId) : net'.OneFeed sourceId :=
  fun feedId feedId' carries carries' => one feedId feedId' (known feedId carries) (known feedId' carries')

theorem registered_congr {net net' : Net ι} {feedId : String}
    (same : net'.sourceConfig feedId = net.sourceConfig feedId) : net'.registered feedId = net.registered feedId := by
  simp only [Net.registered, Topic.last, same]

theorem registered_last {net : Net ι} {feedId : String} {last : FeedConfigSource}
    (isLast : net.sourceConfig.last feedId = some last) : net.registered feedId = entries last.handle := by
  simp only [Net.registered, isLast, Option.bind_some]

theorem registered_append_same (net : Net ι) (feedId : String) (source : FeedConfigSource) :
    Net.registered { net with sourceConfig := net.sourceConfig.append feedId source } feedId = entries source.handle :=
  registered_last (Topic.last_append_same _ _ _)

theorem registered_append_other {net : Net ι} {feedId feedId' : String} {source : FeedConfigSource}
    (other : feedId' ≠ feedId) :
    Net.registered { net with sourceConfig := net.sourceConfig.append feedId source } feedId' = net.registered feedId' :=
  registered_congr (Topic.append_other other)

/-- Which feed has records on which contract, after a record on a contract that its feed had one on. -/
theorem Net.carries_append {net : Net ι} {feedId : String} {upd : FeedConfigSource}
    (carries : net.Carries feedId upd.contract) (feedId' sourceId : String) :
    Net.Carries { net with sourceConfig := net.sourceConfig.append feedId upd } feedId' sourceId ↔
      net.Carries feedId' sourceId := by
  constructor
  · rintro ⟨record, member, rfl⟩
    rcases Topic.mem_append.1 member with old | ⟨rfl, rfl⟩
    · exact ⟨record, old, rfl⟩
    · exact carries
  · rintro ⟨record, member, contract⟩
    exact ⟨record, Topic.mem_append.2 (Or.inl member), contract⟩

/-- A record on the contract that its feed has anyway. -/
theorem Keyed.append {net : Net ι} (keyed : Keyed net) {feedId : String} {upd : FeedConfigSource}
    (carries : net.Carries feedId upd.contract) :
    Keyed { net with sourceConfig := net.sourceConfig.append feedId upd } := by
  have same := Net.carries_append carries
  obtain ⟨record, member, contract⟩ := carries
  have known : ∀ f, ∀ r ∈ net.sourceConfig.append feedId upd f, ∃ r' ∈ net.sourceConfig f, r'.contract = r.contract := by
    intro f r new
    rcases Topic.mem_append.1 new with old | ⟨rfl, rfl⟩
    · exact ⟨r, old, rfl⟩
    · exact ⟨record, member, contract⟩
  constructor
  · exact keyed.within.append feedId upd
  · intro f r new r' new'
    obtain ⟨old, oldMember, equal⟩ := known f r new
    obtain ⟨old', oldMember', equal'⟩ := known f r' new'
    rw [← equal, ← equal']
    exact keyed.contract f old oldMember old' oldMember'
  · intro sourceId entry stored
    obtain ⟨contract, carries⟩ := keyed.table sourceId entry stored
    exact ⟨contract, (same _ _).2 carries⟩
  · intro f last isLast caught one
    by_cases appended : f = feedId
    · subst appended
      exact absurd caught (keyed.within.behind f upd)
    · rw [Topic.last_append_other appended] at isLast
      exact keyed.current f last isLast ((CaughtUp.append_other appended).1 caught) (one.mono fun f' => (same f' _).2)
  · intro sourceId merged
    exact (keyed.unshared sourceId merged).mono fun f => (same f sourceId).1

/-- The first record of a feed that had one. -/
theorem head_of_append {net : Net ι} {feedId feedId' : String} {upd first : FeedConfigSource}
    (carries : net.Carries feedId upd.contract)
    (isFirst : (net.sourceConfig.append feedId upd feedId').head? = some first) :
    (net.sourceConfig feedId').head? = some first := by
  obtain ⟨record, member, -⟩ := carries
  by_cases appended : feedId' = feedId
  · subst appended
    rwa [Topic.append_same, List.head?_append_of_ne_nil _ (List.ne_nil_of_mem member)] at isFirst
  · rwa [Topic.append_other appended] at isFirst

section
variable {config : RelaydConfig} {net : Net ι} (synced : Synced config net)
include synced

/-- The first record of a feed, on a contract without merged changes. -/
theorem Synced.submit {feedId : String} {source : FeedConfigSource} (new : net.sourceConfig feedId = [])
    (unmerged : net.accepted source.contract = []) :
    Synced config { net with sourceConfig := net.sourceConfig.append feedId source } := by
  have only : net.sourceConfig.append feedId source feedId = [source] := by
    rw [Topic.append_same, new]
    rfl
  constructor
  · constructor
    · exact synced.within.append feedId source
    · intro f record member record' member'
      by_cases same : f = feedId
      · subst same
        have member : record ∈ net.sourceConfig.append f source f := member
        have member' : record' ∈ net.sourceConfig.append f source f := member'
        rw [only, List.mem_singleton] at member member'
        rw [member, member']
      · simp only [Topic.append_other same] at member member'
        exact synced.contract f record member record' member'
    · intro sourceId entry stored
      obtain ⟨contract, record, member, same⟩ := synced.table sourceId entry stored
      exact ⟨contract, record, Topic.mem_append.2 (Or.inl member), same⟩
    · intro f last isLast caught one
      by_cases same : f = feedId
      · subst same
        exact absurd caught (synced.within.behind f source)
      · rw [Topic.last_append_other same] at isLast
        apply synced.current f last isLast ((CaughtUp.append_other same).1 caught)
        apply one.mono
        rintro f' ⟨record, member, contract⟩
        exact ⟨record, Topic.mem_append.2 (Or.inl member), contract⟩
    · intro sourceId merged
      apply (synced.unshared sourceId merged).mono
      rintro f ⟨record, member, contract⟩
      rcases Topic.mem_append.1 member with old | ⟨rfl, rfl⟩
      · exact ⟨record, old, contract⟩
      · exact absurd (contract ▸ unmerged) merged
  · intro f first isFirst
    by_cases same : f = feedId
    · subst same
      have isFirst : (net.sourceConfig.append f source f).head? = some first := isFirst
      rw [only] at isFirst
      cases isFirst
      refine ⟨source.handle, ?_, (registered_append_same net f source).symm⟩
      rw [unmerged]
      rfl
    · have isFirst : (net.sourceConfig.append feedId source f).head? = some first := isFirst
      rw [Topic.append_other same] at isFirst
      obtain ⟨handle, replayed, registered⟩ := synced.replayed f first isFirst
      exact ⟨handle, replayed, registered.trans (registered_append_other same).symm⟩

/-- A recast with the registrations of the last record. -/
theorem Synced.recast {feedId : String} {upd : FeedConfigSource} (carries : net.Carries feedId upd.contract)
    (upToDate : entries upd.handle = net.registered feedId) :
    Synced config { net with sourceConfig := net.sourceConfig.append feedId upd } := by
  refine ⟨synced.toKeyed.append carries, ?_⟩
  intro f first isFirst
  obtain ⟨handle, replayed, registered⟩ := synced.replayed f first (head_of_append carries isFirst)
  refine ⟨handle, replayed, registered.trans ?_⟩
  by_cases recast : f = feedId
  · subst recast
    rw [registered_append_same, upToDate]
  · exact (registered_append_other recast).symm

omit synced in
/-- Several recasts of the kind, one after the other. -/
theorem Synced.recastAll {records : List (String × FeedConfigSource)} {net : Net ι} (synced : Synced config net)
    (own : ∀ f upd, (f, upd) ∈ records → net.Carries f upd.contract ∧ entries upd.handle = net.registered f) :
    Synced config { net with sourceConfig := net.sourceConfig.appendAll records } := by
  induction records generalizing net with
  | nil => exact synced
  | cons record records ih =>
    obtain ⟨carries, upToDate⟩ := own record.1 record.2 List.mem_cons_self
    apply ih (synced.recast carries upToDate)
    intro f upd member
    obtain ⟨carries', upToDate'⟩ := own f upd (List.mem_cons_of_mem _ member)
    refine ⟨(Net.carries_append carries f upd.contract).2 carries', upToDate'.trans ?_⟩
    by_cases same : f = record.1
    · rw [same, registered_append_same, upToDate]
    · exact (registered_append_other same).symm

theorem Synced.moved (services : ι → EthConnectService) (sourcePolling : Topic String SourcePollingInfo)
    (handled merged : Cursor String) (history : List (String × Event)) :
    Synced config { net with
      services := services, sourcePolling := sourcePolling, handled := handled, merged := merged, history := history } :=
  ⟨⟨synced.within, synced.contract, synced.table, synced.current, synced.unshared⟩, synced.replayed⟩

/-- A method call whose recasts are of the contract of their feed, with the registrations of its last record. -/
theorem Synced.called [DecidableEq ι] {α : Type} {i : ι} {serviceId : String}
    {call : Called EthConnectService Event α}
    (own : ∀ f upd, (f, upd) ∈ recasts call.events →
      net.Carries f upd.contract ∧ entries upd.handle = net.registered f) :
    Synced config (net.called i serviceId call) :=
  (synced.recastAll own).moved _ _ net.handled net.merged _

theorem Synced.stops [DecidableEq ι] {α : Type} {i : ι} {serviceId : String} {call : Called EthConnectService Event α}
    (stops : ∀ e ∈ call.events, Stops e) : Synced config (net.called i serviceId call) := by
  apply synced.called
  intro f upd recast
  exact absurd recast (not_recast_of_stops stops)

theorem Synced.consume [DecidableEq ι] (client : Client) (env : Env) (i : ι) {feedId : String}
    {record : FeedConfigSource} (member : record ∈ net.sourceConfig feedId) (s : EthConnectService)
    (upToDate : recasts (handleSourceConfig config client env feedId record s).events ≠ [] →
      entries record.handle = net.registered feedId) :
    Synced config (net.called i client.serviceId (handleSourceConfig config client env feedId record s)) := by
  apply synced.called
  intro f upd cast
  obtain ⟨rfl, recast⟩ := (handleSourceConfig_own config client env feedId record s).2 _ (mem_recasts.1 cast)
  refine ⟨⟨record, member, recast.contract.symm⟩, ?_⟩
  rw [recast.handle]
  exact upToDate (List.ne_nil_of_mem cast)

theorem Synced.tabled {feedId : String} {record : FeedConfigSource}
    (next : net.sourceConfig.next net.tabled feedId = some record) : Synced config { net with
      tabled := net.tabled.advance feedId
      sourceTable := Function.update net.sourceTable record.contract (some { feedId := feedId, source := record }) } where
  within := synced.within.advance next
  contract := synced.contract
  table := by
    intro sourceId entry stored
    by_cases same : sourceId = record.contract
    · subst same
      simp only [Function.update_self, Option.some.injEq] at stored
      subst stored
      exact ⟨rfl, record, Topic.next_mem next, rfl⟩
    · simp only [Function.update_of_ne same] at stored
      exact synced.table sourceId entry stored
  current := by
    intro f last isLast caught one
    by_cases same : f = feedId
    · subst same
      have equal := Topic.last_of_next next caught
      rw [equal] at isLast
      cases isLast
      exact Function.update_self _ _ _
    · have other : last.contract ≠ record.contract := fun equal =>
        same (one f feedId ⟨last, Topic.last_mem isLast, rfl⟩ ⟨record, Topic.next_mem next, equal.symm⟩)
      simp only [Function.update_of_ne other]
      exact synced.current f last isLast ((CaughtUp.advance_other same).1 caught) one
  unshared := synced.unshared
  replayed := synced.replayed

/-- The table's entry changes in place with the merged change, or stays. -/
theorem Synced.stored {sourceId : String} {upd : FeedSourceConfigWrap} (contract : upd.source.contract = sourceId)
    (carries : net.Carries upd.feedId sourceId) (one : net.OneFeed sourceId)
    (behind : ¬ CaughtUp net.sourceConfig net.tabled upd.feedId) (aliased : Bool) : Synced config { net with
      sourceTable := if aliased then Function.update net.sourceTable sourceId (some upd) else net.sourceTable } := by
  cases aliased with
  | false => exact synced
  | true =>
    refine ⟨⟨synced.within, synced.contract, ?_, ?_, synced.unshared⟩, synced.replayed⟩
    · intro contract' entry stored
      by_cases merged : contract' = sourceId
      · subst merged
        simp only [↓reduceIte, Function.update_self, Option.some.injEq] at stored
        subst stored
        exact ⟨contract, carries⟩
      · simp only [↓reduceIte, Function.update_of_ne merged] at stored
        exact synced.table contract' entry stored
    · intro f last isLast caught oneLast
      have unmerged : last.contract ≠ sourceId := by
        intro equal
        rw [one f upd.feedId ⟨last, Topic.last_mem isLast, equal⟩ carries] at caught
        exact behind caught
      simp only [↓reduceIte, Function.update_of_ne unmerged]
      exact synced.current f last isLast caught oneLast

/-- The record of an accepted change, reviewed against the registrations of the last record. -/
theorem Synced.accepted {feedId sourceId now : String} {info : SourcePollingInfo} {upd : FeedConfigSource}
    {actual : Option (List FeedSourceHandle)} {reviewed : List FeedSourceHandle}
    (review : reviewSourceHandling config actual info now = .ok reviewed) (handle : upd.handle = some reviewed)
    (upToDate : entries actual = net.registered feedId) (contract : upd.contract = sourceId)
    (carries : net.Carries feedId sourceId) (one : net.OneFeed sourceId) : Synced config { net with
      sourceConfig := net.sourceConfig.append feedId upd
      accepted := Function.update net.accepted sourceId (net.accepted sourceId ++ [(info, now)]) } := by
  subst contract
  have appended := synced.toKeyed.append carries
  refine ⟨⟨appended.within, appended.contract, appended.table, appended.current, ?_⟩, ?_⟩
  · intro sourceId merges
    by_cases merged : sourceId = upd.contract
    · subst merged
      exact one.mono fun f => (Net.carries_append carries f _).1
    · simp only [Function.update_of_ne merged] at merges
      exact appended.unshared sourceId merges
  · intro f first isFirst
    have before := head_of_append carries isFirst
    have member : first ∈ net.sourceConfig f := List.mem_of_mem_head? before
    obtain ⟨handle', replayed, registered⟩ := synced.replayed f first before
    by_cases merged : f = feedId
    · subst merged
      have same : first.contract = upd.contract := by
        obtain ⟨record, member', contract⟩ := carries
        exact (synced.contract f first member record member').trans contract
      obtain ⟨reviewed', review', equal⟩ := review_agrees (upToDate.trans registered.symm) review now
      rw [same] at replayed ⊢
      refine ⟨some reviewed', ?_, ?_⟩
      · simp only [Function.update_self]
        rw [replay_append replayed, review']
        rfl
      · refine Eq.trans ?_ (registered_append_same net f upd).symm
        rw [handle]
        exact equal
    · have unmerged : first.contract ≠ upd.contract := fun same => merged (one f feedId ⟨first, member, same⟩ carries)
      refine ⟨handle', ?_, registered.trans (registered_append_other merged).symm⟩
      simp only [Function.update_of_ne unmerged]
      exact replayed

theorem Synced.merge {sourceId now : String} {info : SourcePollingInfo} {entry upd : FeedSourceConfigWrap}
    (result : Merged config (net.sourceTable sourceId) info now entry upd) (one : net.OneFeed sourceId)
    (upToDate : entries entry.source.handle = net.registered entry.feedId) (aliased : Bool) :
    Synced config { net with
      sourceConfig := net.sourceConfig.append upd.feedId upd.source
      sourceTable := if aliased then Function.update net.sourceTable sourceId (some upd) else net.sourceTable
      accepted := Function.update net.accepted sourceId (net.accepted sourceId ++ [(info, now)]) } := by
  obtain ⟨contract, carries⟩ := synced.table sourceId entry result.stored
  obtain ⟨reviewed, review, handle⟩ := result.handle
  rw [← result.feedId] at carries upToDate
  have contract := result.contract.trans contract
  have carries' : net.Carries upd.feedId upd.source.contract := by rwa [contract]
  have accepted := synced.accepted review handle upToDate contract carries one
  exact accepted.stored contract ((Net.carries_append carries' _ _).2 carries)
    (one.mono fun f => (Net.carries_append carries' f _).1) (synced.within.behind _ _) aliased

end

/-- **Every action keeps the net synced**, when no polling change concerns two feeds and what is written
over was read. -/
theorem Synced.step [DecidableEq ι] {config : RelaydConfig} {clients : ι → Client} {aliased : Bool} {net net' : Net ι}
    {a : Action ι} (synced : Synced config net) (unshared : Unshared config clients net a)
    (upToDate : UpToDate config clients net a)
    (stepped : Net.step config clients aliased net a = some net') : Synced config net' := by
  cases Net.effect stepped with
  | submit feedId source => exact synced.submit unshared.1 unshared.2
  | consume i env feedId record next =>
    exact (synced.moved net.services net.sourcePolling (net.handled.advance feedId) net.merged net.history).consume (clients i) env i
      (Topic.next_mem next) _ (upToDate record next)
  | stop _ i call stops => exact synced.stops stops
  | announce sourceId info => exact synced.moved net.services _ net.handled net.merged net.history
  | ignore i sourceId now info next =>
    exact synced.moved net.services net.sourcePolling net.handled (net.merged.advance sourceId) net.history
  | merge i sourceId now info entry upd next outcome result =>
    have accepted : mergeSourcePolling config (clients i).serviceId (net.sourceTable sourceId) info now ≠ none := by
      rw [outcome]
      exact Option.some_ne_none upd
    apply (synced.moved net.services net.sourcePolling net.handled (net.merged.advance sourceId) net.history).merge result
      (unshared info next accepted) _ aliased
    apply upToDate info next entry result.stored
    rw [← result.stored]
    exact accepted
  | table feedId record next => exact synced.tabled next

end Relayd.EthClient
