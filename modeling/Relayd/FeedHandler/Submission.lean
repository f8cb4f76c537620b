import Relayd.FeedHandler.OneFeed

/-!
# A feed and its last submission

A merge casts the whole feed that it found in the table, for the sake of one
field. The table lags behind the submissions, so that a merge may bring back
what a resumption has changed; a cast that is appended late does the same. As
long as a merge finds the last submission and no cast is overtaken by one with
other fields, the feed has all but its source from its last submission.
-/

namespace Relayd.FeedHandler
set_option autoImplicit false
open Relayd.Common Sys

/-- All of a feed but its source. -/
def withoutSource (feed : FeedConfig) : FeedConfig := { feed with source := { contract := "" } }

namespace FeedHandlerService

/-- The feed that the last accepted request for the id has cast. -/
def lastAccepted (s : FeedHandlerService) (feedId : String) : Option FeedConfig := (s.accepted feedId).getLast?

/-- The feed in the table has all but its source from the last accepted request. -/
def Submitted (s : FeedHandlerService) (feedId : String) : Prop :=
  ∀ submission ∈ s.lastAccepted feedId, ∃ feed ∈ s.stored feedId, withoutSource feed = withoutSource submission

instance (s : FeedHandlerService) (feedId : String) : Decidable (s.Submitted feedId) :=
  inferInstanceAs (Decidable (∀ submission ∈ s.lastAccepted feedId, ∃ feed ∈ s.stored feedId,
    withoutSource feed = withoutSource submission))

end FeedHandlerService

/-- The feed that a merge finds is that of the last accepted request but for its source, and the newest
waiting cast is not appended before an older one that differs in more than the source. -/
def UpToDate (feedId : String) (s : FeedHandlerService) : Action → Prop
  | .merge f => f = feedId → ∀ _source ∈ s.sourceConfig.next s.merged feedId, ∀ feed ∈ s.stored feedId,
      ∀ submission ∈ s.lastAccepted feedId, withoutSource feed = withoutSource submission
  | .appendFeed n => ∀ cast ∈ s.feedCasts[n]?, cast.1 = feedId → s.feedCasts.newer n feedId = [] →
      ∀ ref ∈ s.feedCasts.older n feedId, (s.heap.deref ref).map withoutSource = (s.heap.deref cast.2).map withoutSource
  | _ => True

instance (feedId : String) (s : FeedHandlerService) (a : Action) : Decidable (UpToDate feedId s a) :=
  match a with
  | .merge _ => inferInstanceAs (Decidable (_ → ∀ _source ∈ (_ : Option FeedConfigSource), ∀ feed ∈ (_ : Option FeedConfig),
      ∀ submission ∈ (_ : Option FeedConfig), withoutSource feed = withoutSource submission))
  | .appendFeed _ => inferInstanceAs (Decidable (∀ cast ∈ (_ : Option (String × Nat)), _ → _ → ∀ ref ∈ (_ : List Nat), _ = _))
  | .request .. | .decide .. | .appendSource .. | .castSource .. | .table .. => isTrue True.intro

/-- The last cast of the feed has all but its source from the last accepted request. -/
def LastSubmitted (feedId : String) (s : FeedHandlerService) : Prop :=
  ∀ submission, s.lastAccepted feedId = some submission →
    (s.lastCast feedId).map withoutSource = some (withoutSource submission)

section
variable {feedId : String} {s s' : FeedHandlerService}

/-- A merge casts the feed that the table has, with the source it consumes. -/
theorem merge_lastCast (linked : Linked s) {aliased : Bool} (stepped : s.step aliased (.merge feedId) = some s')
    {source : FeedConfigSource} (next : s.sourceConfig.next s.merged feedId = some source) {feed : FeedConfig}
    (stored : s.stored feedId = some feed) : s'.lastCast feedId = some { feed with source := source } := by
  obtain ⟨ref, entry, object⟩ := Option.bind_eq_some_iff.1 stored
  obtain ⟨held, object', id⟩ := linked.table feedId ref entry
  rw [object] at object'
  cases object'
  obtain rfl := id
  simp only [FeedHandlerService.step, next, Option.map_some, Option.some.injEq] at stepped
  subst stepped
  cases aliased with
  | true =>
    have written := Heap.deref_write_same { feed with source := source } object
    simp only [FeedHandlerService.mergeSourceToFeedConfig, FeedHandlerService.loadFeedFromTable, entry, ↓reduceIte, object,
      FeedHandlerService.castFeedConfig, written]
    exact lastCast_newest (Outbox.waiting_send_same _ _ _) written
  | false =>
    have written := Heap.deref_write_same { feed with source := source } (Heap.deref_alloc_new s.heap feed)
    simp only [FeedHandlerService.mergeSourceToFeedConfig, FeedHandlerService.loadFeedFromTable, entry, Bool.false_eq_true,
      ↓reduceIte, object, Heap.deref_alloc_new, FeedHandlerService.castFeedConfig, written]
    exact lastCast_newest (Outbox.waiting_send_same _ _ _) written

/-- An accepted request casts its feed. -/
theorem Step.accepted_last {n : Nat} {now : IsoDate} {request : Request} {feed : FeedConfig} {answer : RelayActionResult}
    (transition : Step s (.decide n now) s') (position : s.requests[n]? = some request)
    (decision : createFeed now request.feedConfig (request.feedRes.bind s.heap.deref) = (some feed, answer))
    (own : feed.id = feedId) : s'.lastAccepted feedId = some feed ∧ s'.lastCast feedId = some feed := by
  cases transition with
  | declined n now request' answer' position' decision' =>
    cases position.symm.trans position'
    cases decision.symm.trans decision'
  | accepted n now request' feed' answer' position' decision' =>
    cases position.symm.trans position'
    cases decision.symm.trans decision'
    subst own
    rw [createFeed_id decision]
    have answered := accepted_append s (s.requests.eraseIdx n) request.feedConfig.id (createFeed_accepted decision)
    constructor
    · refine (congrArg List.getLast? answered).trans ?_
      rw [List.getLast?_append, List.getLast?_singleton, Option.some_or]
    · exact lastCast_newest (Outbox.waiting_send_same _ _ _) (Heap.deref_alloc_new _ _)

/-- **Every action in time keeps the last submission in the last cast.** -/
theorem LastSubmitted.step {aliased : Bool} {a : Action} (linked : Linked s) (submitted : LastSubmitted feedId s)
    (upToDate : UpToDate feedId s a) (stepped : s.step aliased a = some s') : LastSubmitted feedId s' := by
  have transition := linked.transition stepped
  have concerns : Concerns feedId s a s' := transition.concerns linked
  cases concerns with
  | other a s' same accepted =>
    intro submission last
    rw [FeedHandlerService.lastAccepted, accepted] at last
    rw [FeedHandlerService.lastCast, same.casts]
    exact submitted submission last
  | accepted n now request feed answer position own decision =>
    intro submission last
    obtain ⟨lastAccepted, lastCast⟩ := transition.accepted_last position decision own
    cases last.symm.trans lastAccepted
    rw [lastCast]
    rfl
  | appendFeed n ref feed position object =>
    intro submission last
    rw [lastCast_append withoutSource linked position object (upToDate (feedId, ref) position rfl)]
    exact submitted submission last
  | appendSource n source position => exact submitted
  | castSource source => exact submitted
  | dropped source next absent => exact submitted
  | merged source ref heap feed next loaded =>
    intro submission last
    obtain ⟨ref', entry⟩ := Option.ne_none_iff_exists'.1 loaded.stored
    obtain ⟨held, object, id⟩ := linked.table feedId ref' entry
    have stored : s.stored feedId = some held := by rw [FeedHandlerService.stored, entry, Option.bind_some, object]
    rw [merge_lastCast linked stepped next stored, Option.map_some]
    exact congrArg some (upToDate rfl source next held stored submission last)
  | tabled feed next own =>
    intro submission last
    rw [lastCast_tabled linked feed]
    exact submitted submission last

end

/-- **Once nothing is in flight the feed has all but its source from the last accepted request, as long as
every merge finds what that request has cast.** -/
theorem submission_kept (aliased : Bool) (feedId : String) (as : List Action) (s : FeedHandlerService)
    (upToDate : Along (FeedHandlerService.step aliased) (UpToDate feedId) {} as)
    (reached : run (FeedHandlerService.step aliased) {} as = some s) (settled : s.Settled feedId) : s.Submitted feedId := by
  have each : ∀ s a s', (Linked s ∧ TableCurrent feedId s ∧ LastSubmitted feedId s) → UpToDate feedId s a →
      FeedHandlerService.step aliased s a = some s' → Linked s' ∧ TableCurrent feedId s' ∧ LastSubmitted feedId s' := by
    rintro s a s' ⟨linked, current, submitted⟩ upToDate stepped
    have transition := linked.transition stepped
    exact ⟨linked.step transition, current.step linked (transition.concerns linked),
      submitted.step linked upToDate stepped⟩
  have first : LastSubmitted feedId {} := by
    intro submission last
    cases last
  obtain ⟨-, current, submitted⟩ := invariant each ⟨Linked.init, TableCurrent.init feedId, first⟩ upToDate reached
  intro submission last
  rw [current.settled settled]
  exact Option.map_eq_some_iff.1 (submitted submission last)

/-! ## A resumption under another name -/

/-- The feed as it is submitted again, under another name. -/
def feedConfigRenamed : FeedConfig := { feedConfigPriceBtcUsd with name := "CL-ETH BTC/USD Price feed, renamed" }

/-- The feed is resumed once nothing is in flight, and its source is merged once the table has it. -/
def resumedInTime : List Action :=
  [.request feedConfigPriceBtcUsd, .decide 0 0, .appendFeed 0, .table feedConfigPriceBtcUsd.id, .appendSource 0,
    .merge feedConfigPriceBtcUsd.id, .appendFeed 0, .table feedConfigPriceBtcUsd.id,
    .request feedConfigRenamed, .decide 0 200000, .appendFeed 0, .table feedConfigPriceBtcUsd.id, .appendSource 0,
    .merge feedConfigPriceBtcUsd.id, .appendFeed 0, .table feedConfigPriceBtcUsd.id]

/-- The source of the creation is merged after the resumption, into the feed that the table still has. -/
def resumedTooEarly : List Action :=
  [.request feedConfigPriceBtcUsd, .decide 0 0, .appendFeed 0, .table feedConfigPriceBtcUsd.id, .appendSource 0,
    .request feedConfigRenamed, .decide 0 200000, .merge feedConfigPriceBtcUsd.id, .appendFeed 0, .appendFeed 0,
    .table feedConfigPriceBtcUsd.id, .table feedConfigPriceBtcUsd.id, .appendSource 0, .merge feedConfigPriceBtcUsd.id,
    .appendFeed 0, .table feedConfigPriceBtcUsd.id]

theorem resumedInTime_kept :
    ∃ s, run (FeedHandlerService.step true) {} resumedInTime = some s ∧ s.Submitted feedConfigPriceBtcUsd.id := by
  have settled : (run (FeedHandlerService.step true) {} resumedInTime).any
      (fun s => decide (s.Settled feedConfigPriceBtcUsd.id)) = true := by
    decide +kernel
  obtain ⟨s, reached, settled⟩ := (Option.any_eq_true _ _).1 settled
  exact ⟨s, reached, submission_kept true feedConfigPriceBtcUsd.id resumedInTime s (by decide +kernel) reached
    (of_decide_eq_true settled)⟩

/-- The run ends with nothing in flight and the feed not as it was submitted last. -/
def Reverts (aliased : Bool) (as : List Action) : Prop :=
  ∃ s, run (FeedHandlerService.step aliased) {} as = some s ∧ s.Settled feedConfigPriceBtcUsd.id ∧
    ¬ s.Submitted feedConfigPriceBtcUsd.id

/-- The feed has its former name again, with either storage. -/
theorem resumedTooEarly_reverts : Reverts true resumedTooEarly ∧ Reverts false resumedTooEarly := by
  have either : ∀ aliased, Reverts aliased resumedTooEarly := by
    intro aliased
    have reverts : (run (FeedHandlerService.step aliased) {} resumedTooEarly).any
        (fun s => decide (s.Settled feedConfigPriceBtcUsd.id ∧ ¬ s.Submitted feedConfigPriceBtcUsd.id)) = true := by
      cases aliased <;> decide +kernel
    obtain ⟨s, reached, reverts⟩ := (Option.any_eq_true _ _).1 reverts
    exact ⟨s, reached, of_decide_eq_true reverts⟩
  exact ⟨either true, either false⟩

end Relayd.FeedHandler
