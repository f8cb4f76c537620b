import Relayd.FeedHandler.OneFeed

/-!
# The feed and its source

The last feed cast, appended or waiting, has the source that the merge stream
consumed last; when nothing waits the table has the last feed. Two things break
this: a merge that finds no feed in the table yet, and a cast that is appended
before an older one.
-/

namespace Relayd.FeedHandler
set_option autoImplicit false
open Relayd.Common Sys

namespace FeedHandlerService

/-- The feed in the table has the last source written for it. -/
def Agrees (s : FeedHandlerService) (feedId : String) : Prop :=
  s.feedConfig feedId ≠ [] → ∀ source ∈ s.sourceConfig.last feedId, ∃ feed ∈ s.stored feedId, feed.source = source

instance (s : FeedHandlerService) (feedId : String) : Decidable (s.Agrees feedId) :=
  inferInstanceAs (Decidable (_ → ∀ source ∈ s.sourceConfig.last feedId, ∃ feed ∈ s.stored feedId, feed.source = source))

end FeedHandlerService

/-- No source update of the feed is missed and none is overtaken: a merge that finds no feed is of the
source that was cast last, and the newest waiting cast is not appended before an older one with another
source. -/
def Orderly (feedId : String) (s : FeedHandlerService) : Action → Prop
  | .merge f => f = feedId → s.feedConfigTable feedId = none →
      ∀ source ∈ s.sourceConfig.next s.merged feedId, ∀ feed ∈ s.lastCast feedId, feed.source = source
  | .appendFeed n => ∀ cast ∈ s.feedCasts[n]?, cast.1 = feedId → s.feedCasts.newer n feedId = [] →
      ∀ ref ∈ s.feedCasts.older n feedId, (s.heap.deref ref).map FeedConfig.source = (s.heap.deref cast.2).map FeedConfig.source
  | _ => True

instance (feedId : String) (s : FeedHandlerService) (a : Action) : Decidable (Orderly feedId s a) :=
  match a with
  | .merge _ => inferInstanceAs (Decidable (_ → _ → ∀ source ∈ (_ : Option FeedConfigSource), ∀ feed ∈ (_ : Option FeedConfig),
      feed.source = source))
  | .appendFeed _ => inferInstanceAs (Decidable (∀ cast ∈ (_ : Option (String × Nat)), _ → _ → ∀ ref ∈ (_ : List Nat), _ = _))
  | .request .. | .decide .. | .appendSource .. | .castSource .. | .table .. => isTrue True.intro

/-- **The last cast of the feed has the last source, when no source is in flight; the table has the last
feed, when no feed is in flight.** -/
structure Agreeing (feedId : String) (s : FeedHandlerService) : Prop where
  source : s.sourceCasts.waiting feedId = [] → CaughtUp s.sourceConfig s.merged feedId →
    ∀ source, s.sourceConfig.last feedId = some source → ∀ feed, s.lastCast feedId = some feed → feed.source = source
  table : s.feedCasts.waiting feedId = [] → CaughtUp s.feedConfig s.tabled feedId →
    s.stored feedId = s.feedConfig.last feedId

theorem Agreeing.init (feedId : String) : Agreeing feedId {} where
  source := by
    intro _ _ source last
    cases last
  table := fun _ _ => rfl

section
variable {feedId : String} {s s' : FeedHandlerService}

/-- **Every orderly action keeps the feed agreeing with its source.** -/
theorem Agreeing.step {a : Action} (linked : Linked s) (agreeing : Agreeing feedId s) (orderly : Orderly feedId s a)
    (concerns : Concerns feedId s a s') : Agreeing feedId s' := by
  refine ⟨?_, TableCurrent.step linked agreeing.table concerns⟩
  cases concerns with
  | other a s' same accepted =>
    unfold FeedHandlerService.lastCast
    simp only [CaughtUp, Topic.last, same.casts, same.sourceCasts, same.sourceConfig, same.merged]
    exact agreeing.source
  | accepted n now request feed answer position own decision =>
    exact fun waits => absurd waits (Outbox.waiting_send_ne_nil _ _ _)
  | appendFeed n ref feed position object =>
    intro waits caught source last feed' lastCast
    have sources := lastCast_append FeedConfig.source linked position object (orderly (feedId, ref) position rfl)
    rw [lastCast] at sources
    obtain ⟨feed'', lastCast', same⟩ := Option.map_eq_some_iff.1 sources.symm
    rw [← same]
    exact agreeing.source waits caught source last feed'' lastCast'
  | appendSource n source position => exact fun _ caught => absurd caught (linked.merged.behind feedId source)
  | castSource source => exact fun _ caught => absurd caught (linked.merged.behind feedId source)
  | dropped source next absent =>
    -- the source that the merge drops is the one of the last cast
    intro waits caught source' last feed lastCast
    rw [Topic.last_of_next next caught] at last
    cases last
    exact orderly rfl absent source next feed lastCast
  | merged source ref heap feed next loaded =>
    intro waits caught source' last feed' lastCast
    rw [Topic.last_of_next next caught] at last
    cases last
    have object := Heap.deref_write_same { feed with source := source } loaded.object
    cases lastCast.symm.trans (lastCast_newest (Outbox.waiting_send_same _ _ _) object)
    rfl
  | tabled feed next own =>
    intro waits caught source last feed' lastCast
    exact agreeing.source waits caught source last feed' ((lastCast_tabled linked feed _ _).symm.trans lastCast)

end

/-- **Once nothing is in flight the feed in the table has the last source, as long as no source update was
missed or overtaken.** -/
theorem feed_agrees (aliased : Bool) (feedId : String) (as : List Action) (s : FeedHandlerService)
    (orderly : Along (FeedHandlerService.step aliased) (Orderly feedId) {} as)
    (reached : run (FeedHandlerService.step aliased) {} as = some s) (settled : s.Settled feedId) : s.Agrees feedId := by
  have each : ∀ s a s', (Linked s ∧ Agreeing feedId s) → Orderly feedId s a →
      FeedHandlerService.step aliased s a = some s' → Linked s' ∧ Agreeing feedId s' := by
    rintro s a s' ⟨linked, agreeing⟩ orderly stepped
    have transition := linked.transition stepped
    exact ⟨linked.step transition, agreeing.step linked orderly (transition.concerns linked)⟩
  obtain ⟨-, agreeing⟩ := invariant each ⟨Linked.init, Agreeing.init feedId⟩ orderly reached
  intro written source last
  obtain ⟨feed, isLast⟩ : ∃ feed, s.feedConfig.last feedId = some feed := ⟨_, List.getLast?_eq_some_getLast written⟩
  have lastCast : s.lastCast feedId = some feed := by
    rw [← TableCurrent.settled agreeing.table settled, agreeing.table settled.1 settled.2.2.1]
    exact isLast
  refine ⟨feed, (TableCurrent.settled agreeing.table settled).trans lastCast, ?_⟩
  exact agreeing.source settled.2.1 settled.2.2.2 source last feed lastCast

/-! ## The creation of a feed and the validation of its source -/

/-- The source that a validation casts. -/
def validatedSource : FeedConfigSource := { feedConfigPriceBtcUsd.source with status := some .OK }

/-- The table has the feed before its source and the validated source are merged. -/
def inOrder : List Action :=
  [.request feedConfigPriceBtcUsd, .decide 0 0, .appendFeed 0, .table feedConfigPriceBtcUsd.id, .appendSource 0,
    .merge feedConfigPriceBtcUsd.id, .castSource feedConfigPriceBtcUsd.id validatedSource,
    .merge feedConfigPriceBtcUsd.id, .appendFeed 0, .appendFeed 0, .table feedConfigPriceBtcUsd.id,
    .table feedConfigPriceBtcUsd.id]

/-- The source and the validated source are merged before the table has the feed. -/
def tooEarly : List Action :=
  [.request feedConfigPriceBtcUsd, .decide 0 0, .appendSource 0, .castSource feedConfigPriceBtcUsd.id validatedSource,
    .merge feedConfigPriceBtcUsd.id, .merge feedConfigPriceBtcUsd.id, .appendFeed 0, .table feedConfigPriceBtcUsd.id]

theorem inOrder_agrees :
    ∃ s, run (FeedHandlerService.step true) {} inOrder = some s ∧ s.Agrees feedConfigPriceBtcUsd.id := by
  have settled : (run (FeedHandlerService.step true) {} inOrder).any
      (fun s => decide (s.Settled feedConfigPriceBtcUsd.id)) = true := by
    decide +kernel
  obtain ⟨s, reached, settled⟩ := (Option.any_eq_true _ _).1 settled
  exact ⟨s, reached, feed_agrees true feedConfigPriceBtcUsd.id inOrder s (by decide +kernel) reached
    (of_decide_eq_true settled)⟩

/-- The run ends with nothing in flight and the feed without the last source. -/
def Diverges (aliased : Bool) (as : List Action) : Prop :=
  ∃ s, run (FeedHandlerService.step aliased) {} as = some s ∧ s.Settled feedConfigPriceBtcUsd.id ∧
    ¬ s.Agrees feedConfigPriceBtcUsd.id

/-- The feed keeps the source of its creation, with either storage: the validation is dropped. -/
theorem tooEarly_disagrees : Diverges true tooEarly ∧ Diverges false tooEarly := by
  have either : ∀ aliased, Diverges aliased tooEarly := by
    intro aliased
    have disagrees : (run (FeedHandlerService.step aliased) {} tooEarly).any
        (fun s => decide (s.Settled feedConfigPriceBtcUsd.id ∧ ¬ s.Agrees feedConfigPriceBtcUsd.id)) = true := by
      cases aliased <;> decide +kernel
    obtain ⟨s, reached, disagrees⟩ := (Option.any_eq_true _ _).1 disagrees
    exact ⟨s, reached, of_decide_eq_true disagrees⟩
  exact ⟨either true, either false⟩

end Relayd.FeedHandler
