import Relayd.FeedHandler.Submission

/-!
# What an accepted request leaves

The casts of a feed can always be appended and consumed until nothing is in
flight, in an order that merges no source into an older feed than the last
submission. So what a request was accepted with can come to be the feed in the
table, whatever ran before. Of the requests for a feed, the first that is
accepted is the one that gives it a date of creation.
-/

namespace Relayd.FeedHandler
set_option autoImplicit false
open Relayd.Common Sys

/-- A cast is appended or a record consumed. -/
def Delivers : Action → Prop
  | .appendFeed _ | .appendSource _ | .merge _ | .table _ => True
  | .request _ | .decide _ _ | .castSource _ _ => False

/-- What is in flight of a feed. Each source still gives a record, which gives a feed, which gives a record. -/
def backlog (feedId : String) (s : FeedHandlerService) : Nat :=
  4 * (s.sourceCasts.waiting feedId).length + 3 * ((s.sourceConfig feedId).length - s.merged feedId) +
    2 * (s.feedCasts.waiting feedId).length + ((s.feedConfig feedId).length - s.tabled feedId)

section
variable {feedId : String} {s s' : FeedHandlerService}

theorem Delivers.answers {a : Action} (delivers : Delivers a) (transition : Step s a s') : s'.answers = s.answers := by
  cases transition with
  | unknown feedConfig absent => exact delivers.elim
  | known feedConfig ref heap feed loaded => exact delivers.elim
  | declined n now request answer position decision => exact delivers.elim
  | accepted n now request feed answer position decision => exact delivers.elim
  | castSource f source => exact delivers.elim
  | appendFeed | appendSource | dropped | merged | tabled => rfl

/-- A cast of the feed is appended. -/
theorem Step.backlog_appendFeed (linked : Linked s) {n ref : Nat} (position : s.feedCasts[n]? = some (feedId, ref))
    (transition : Step s (.appendFeed n) s') : backlog feedId s' < backlog feedId s := by
  cases transition with
  | appendFeed n f ref' feed position' object =>
    cases position.symm.trans position'
    have gone := Outbox.length_waiting_eraseIdx position
    have within := linked.tabled feedId
    simp only [backlog, Topic.append_same, List.length_append, List.length_singleton]
    omega

theorem Step.backlog_appendSource (linked : Linked s) {n : Nat} {source : FeedConfigSource}
    (position : s.sourceCasts[n]? = some (feedId, source)) (transition : Step s (.appendSource n) s') :
    backlog feedId s' < backlog feedId s := by
  cases transition with
  | appendSource n f source' position' =>
    cases position.symm.trans position'
    have gone := Outbox.length_waiting_eraseIdx position
    have within := linked.merged feedId
    simp only [backlog, Topic.append_same, List.length_append, List.length_singleton]
    omega

theorem Step.backlog_table (transition : Step s (.table feedId) s') : backlog feedId s' < backlog feedId s := by
  cases transition with
  | tabled f feed next =>
    have behind := Topic.next_lt next
    simp only [backlog, Cursor.advance_same]
    omega

theorem Step.backlog_merge (transition : Step s (.merge feedId) s') : backlog feedId s' < backlog feedId s := by
  cases transition with
  | dropped f source next absent =>
    have behind := Topic.next_lt next
    simp only [backlog, Cursor.advance_same]
    omega
  | merged f source ref heap feed next loaded =>
    have behind := Topic.next_lt next
    simp only [backlog, Cursor.advance_same, Outbox.waiting_send_same, List.length_append, List.length_singleton]
    omega

/-- A consumer that has not caught up has a next record. -/
theorem next_of_behind {V : Type} {t : Topic String V} {c : Cursor String} (within : Within t c)
    (behind : ¬ CaughtUp t c feedId) : ∃ v, t.next c feedId = some v := by
  have bound := within feedId
  have strict : c feedId < (t feedId).length := Nat.lt_of_le_of_ne bound behind
  exact ⟨_, List.getElem?_eq_getElem strict⟩

/-- The feed on its way to the table, as it was submitted last; nothing is answered meanwhile. -/
structure Arriving (feedId : String) (answers : List (String × RelayActionResult)) (s : FeedHandlerService) : Prop where
  linked : Linked s
  current : TableCurrent feedId s
  submitted : LastSubmitted feedId s
  answers : s.answers = answers

/-- Unless nothing is in flight, a cast can be appended or a record consumed in time. -/
theorem exists_delivery (aliased : Bool) (linked : Linked s) (current : TableCurrent feedId s)
    (submitted : LastSubmitted feedId s) (unsettled : ¬ s.Settled feedId) :
    ∃ a, Delivers a ∧ UpToDate feedId s a ∧ (∃ s', s.step aliased a = some s') ∧
      ∀ s', Step s a s' → backlog feedId s' < backlog feedId s := by
  by_cases noFeed : s.feedCasts.waiting feedId = []
  · by_cases tabled : CaughtUp s.feedConfig s.tabled feedId
    · by_cases noSource : s.sourceCasts.waiting feedId = []
      · by_cases merged : CaughtUp s.sourceConfig s.merged feedId
        · exact absurd ⟨noFeed, noSource, tabled, merged⟩ unsettled
        · obtain ⟨source, next⟩ := next_of_behind linked.merged merged
          have possible : ∃ s', s.step aliased (.merge feedId) = some s' :=
            ⟨_, by simp only [FeedHandlerService.step, next]; rfl⟩
          refine ⟨.merge feedId, True.intro, ?_, possible, fun s' => Step.backlog_merge⟩
          -- the table has the last cast, so the merge finds what was submitted last
          intro _ source _ feed stored submission last
          have lastCast := submitted submission last
          rw [← current.lastCast noFeed tabled, Option.mem_def.1 stored] at lastCast
          exact Option.some.inj lastCast
      · obtain ⟨n, source, position, -⟩ := Outbox.exists_oldest noSource
        have possible : ∃ s', s.step aliased (.appendSource n) = some s' :=
          ⟨_, by simp only [FeedHandlerService.step, position]; rfl⟩
        exact ⟨.appendSource n, True.intro, True.intro, possible, fun s' => Step.backlog_appendSource linked position⟩
    · obtain ⟨feed, next⟩ := next_of_behind linked.tabled tabled
      have possible : ∃ s', s.step aliased (.table feedId) = some s' :=
        ⟨_, by simp only [FeedHandlerService.step, next]; rfl⟩
      exact ⟨.table feedId, True.intro, True.intro, possible, fun s' => Step.backlog_table⟩
  · obtain ⟨n, ref, position, oldest⟩ := Outbox.exists_oldest noFeed
    obtain ⟨feed, object, -⟩ := linked.cast feedId ref (List.mem_of_getElem? position)
    have possible : ∃ s', s.step aliased (.appendFeed n) = some s' :=
      ⟨_, by simp only [FeedHandlerService.step, position, Option.bind_some, object]; rfl⟩
    refine ⟨.appendFeed n, True.intro, ?_, possible, fun s' => Step.backlog_appendFeed linked position⟩
    intro cast _ _ _ ref' older
    rw [oldest] at older
    cases older

theorem Arriving.progress (aliased : Bool) {answers : List (String × RelayActionResult)}
    (arriving : Arriving feedId answers s) (unsettled : ¬ s.Settled feedId) :
    ∃ a s', Delivers a ∧ s.step aliased a = some s' ∧ Arriving feedId answers s' ∧ backlog feedId s' < backlog feedId s := by
  obtain ⟨a, delivers, upToDate, ⟨s', stepped⟩, smaller⟩ :=
    exists_delivery aliased arriving.linked arriving.current arriving.submitted unsettled
  have transition := arriving.linked.transition stepped
  refine ⟨a, s', delivers, stepped, ?_, smaller s' transition⟩
  exact ⟨arriving.linked.step transition, arriving.current.step arriving.linked (transition.concerns arriving.linked),
    arriving.submitted.step arriving.linked upToDate stepped, (delivers.answers transition).trans arriving.answers⟩

/-- **An accepted request can come to be the feed in the table**, whatever is in flight. -/
theorem accepted_arrives (aliased : Bool) (linked : Linked s) (current : TableCurrent feedId s) {n : Nat} {now : IsoDate}
    {request : Request} {feed : FeedConfig} {answer : RelayActionResult} (position : s.requests[n]? = some request)
    (decision : createFeed now request.feedConfig (request.feedRes.bind s.heap.deref) = (some feed, answer))
    (own : feed.id = feedId) :
    ∃ as s', (∀ a ∈ as, Delivers a) ∧ run (FeedHandlerService.step aliased) s (.decide n now :: as) = some s' ∧
      s'.Settled feedId ∧ ∃ stored ∈ s'.stored feedId, withoutSource stored = withoutSource feed := by
  obtain ⟨s₁, decided⟩ : ∃ s₁, s.step aliased (.decide n now) = some s₁ :=
    ⟨_, by simp only [FeedHandlerService.step, position]; rfl⟩
  have transition := linked.transition decided
  obtain ⟨lastAccepted, lastCast⟩ := transition.accepted_last position decision own
  have submitted : LastSubmitted feedId s₁ := by
    intro submission last
    cases last.symm.trans lastAccepted
    rw [lastCast]
    rfl
  have start : Arriving feedId s₁.answers s₁ :=
    ⟨linked.step transition, current.step linked (transition.concerns linked), submitted, rfl⟩
  have progress : ∀ s, Arriving feedId s₁.answers s → ¬ s.Settled feedId → ∃ a s', Delivers a ∧
      FeedHandlerService.step aliased s a = some s' ∧ Arriving feedId s₁.answers s' ∧
      backlog feedId s' < backlog feedId s := fun s arriving unsettled => arriving.progress aliased unsettled
  obtain ⟨as, s', delivers, rest, arrived, settled⟩ := run_until (backlog feedId) progress start
  refine ⟨as, s', delivers, run_cons.2 ⟨s₁, decided, rest⟩, settled, ?_⟩
  have last : s'.lastAccepted feedId = some feed := by
    rw [← lastAccepted]
    simp only [FeedHandlerService.lastAccepted, FeedHandlerService.accepted, arrived.answers]
  rw [arrived.current.settled settled]
  exact Option.map_eq_some_iff.1 (arrived.submitted feed last)

/-! ## The date of creation -/

/-- The answer of a resumption. -/
def RelayActionResult.resumes (answer : RelayActionResult) (feedId : String) : Bool :=
  answer.status = .OK && answer.message = "Resuming halted Feed " ++ feedId

/-- A halted feed is resumed as it is submitted, without its date of creation. -/
theorem createFeed_halted {now : IsoDate} {feedRes : FeedConfig} (isHalted : halted now feedRes = true)
    (feedConfig : FeedConfig) : ∃ feed answer, createFeed now feedConfig (some feedRes) = (some feed, answer) ∧
      feed.id = feedConfig.id ∧ feed.dateCreated = feedConfig.dateCreated ∧ answer.resumes feedConfig.id = true := by
  simp only [createFeed, isHalted, ↓reduceIte]
  exact ⟨_, _, rfl, rfl, rfl, by simp [RelayActionResult.resumes]⟩

/-- A request for any other feed is declined. -/
theorem createFeed_declines {now : IsoDate} {feedRes : FeedConfig} (running : halted now feedRes = false)
    (feedConfig : FeedConfig) : (createFeed now feedConfig (some feedRes)).2.declines = true ∧
      (createFeed now feedConfig (some feedRes)).2.resumes feedConfig.id = false := by
  simp [createFeed, running, RelayActionResult.declines, RelayActionResult.resumes]

/-- The submission has no date of creation. -/
def Undated : Action → Prop
  | .request feedConfig => feedConfig.dateCreated = none
  | _ => True

/-- Before a request for the feed is accepted there is no such feed, and the first one that is accepted
dates the feed; the requests have no date of creation themselves. -/
structure Founded (feedId : String) (s : FeedHandlerService) : Prop where
  requests : ∀ request ∈ s.requests, request.feedConfig.dateCreated = none
  known : s.accepted feedId = [] → s.feedConfigTable feedId = none ∧ s.feedConfig feedId = [] ∧
    s.feedCasts.waiting feedId = []
  loaded : s.accepted feedId = [] → ∀ request ∈ s.requests, request.feedConfig.id = feedId → request.feedRes = none
  first : ∀ first ∈ (s.accepted feedId).head?, first.dateCreated ≠ none

theorem Founded.init (feedId : String) : Founded feedId {} where
  requests := by
    intro request member
    cases member
  known := fun _ => ⟨rfl, rfl, rfl⟩
  loaded := by
    intro _ request member
    cases member
  first := by
    intro first member
    cases member

/-- The requests of a state after an action waited before, or were just made. -/
theorem Step.request_cases {a : Action} (transition : Step s a s') {request : Request} (member : request ∈ s'.requests) :
    request ∈ s.requests ∨ (a = .request request.feedConfig ∧
      (request.feedRes ≠ none → s.feedConfigTable request.feedConfig.id ≠ none)) := by
  cases transition with
  | unknown feedConfig absent =>
    rcases List.mem_append.1 member with old | new
    · exact Or.inl old
    · rw [List.mem_singleton.1 new]
      exact Or.inr ⟨rfl, fun found => absurd rfl found⟩
  | known feedConfig ref heap feed loaded =>
    rcases List.mem_append.1 member with old | new
    · exact Or.inl old
    · rw [List.mem_singleton.1 new]
      exact Or.inr ⟨rfl, fun _ => loaded.stored⟩
  | declined | accepted => exact Or.inl (List.mem_of_mem_eraseIdx member)
  | appendFeed | appendSource | castSource | dropped | merged | tabled => exact Or.inl member

theorem Linked.table_none (linked : Linked s) : s.feedConfigTable feedId = none ↔ s.stored feedId = none := by
  cases entry : s.feedConfigTable feedId with
  | none => simp only [FeedHandlerService.stored, entry, Option.bind_none]
  | some ref =>
    obtain ⟨feed, object, -⟩ := linked.table feedId ref entry
    simp only [FeedHandlerService.stored, entry, Option.bind_some, object, reduceCtorEq]

/-- What an action adds to the accepted requests: the feed of one more, which a first one dates. -/
theorem Founded.accepted {a : Action} (founded : Founded feedId s) (concerns : Concerns feedId s a s') :
    s'.accepted feedId = s.accepted feedId ∨
      ∃ feed, s'.accepted feedId = s.accepted feedId ++ [feed] ∧ (s.accepted feedId = [] → feed.dateCreated ≠ none) := by
  cases concerns with
  | other a s' same accepted => exact Or.inl accepted
  | accepted n now request feed answer position own decision =>
    refine Or.inr ⟨feed, ?_, ?_⟩
    · exact accepted_append s (s.requests.eraseIdx n) feedId (createFeed_accepted decision)
    · intro none
      have id := (createFeed_id decision).symm.trans own
      rw [founded.loaded none request (List.mem_of_getElem? position) id, Option.bind_none] at decision
      cases decision
      exact Option.some_ne_none now
  | appendFeed | appendSource | castSource | dropped | merged | tabled => exact Or.inl rfl

/-- **Every action keeps the feed founded**, when no submission has a date of creation. -/
theorem Founded.step {a : Action} (linked : Linked s) (founded : Founded feedId s) (undated : Undated a)
    (transition : Step s a s') : Founded feedId s' := by
  have concerns : Concerns feedId s a s' := transition.concerns linked
  have linked' := linked.step transition
  have before : s'.accepted feedId = [] → s.accepted feedId = [] := by
    intro none
    rcases founded.accepted concerns with same | ⟨feed, grown, -⟩
    · rwa [same] at none
    · rw [grown] at none
      exact (List.append_eq_nil_iff.1 none).1
  refine ⟨?_, ?_, ?_, ?_⟩
  · intro request member
    rcases transition.request_cases member with old | ⟨rfl, -⟩
    · exact founded.requests request old
    · exact undated
  · intro none
    obtain ⟨absent, unwritten, uncast⟩ := founded.known (before none)
    cases concerns with
    | other a s' same accepted =>
      exact ⟨linked'.table_none.2 (same.stored.trans (linked.table_none.1 absent)), same.feedConfig.trans unwritten,
        same.feedCasts.trans uncast⟩
    | accepted n now request feed answer position own decision =>
      have grown := accepted_append s (s.requests.eraseIdx n) feedId (createFeed_accepted decision)
      exact absurd (grown.symm.trans none) (List.append_ne_nil_of_right_ne_nil _ (List.cons_ne_nil _ _))
    | appendFeed n ref feed position object =>
      have waits := Outbox.waiting_at position
      rw [uncast] at waits
      exact absurd waits.symm (List.append_ne_nil_of_right_ne_nil _ (List.cons_ne_nil _ _))
    | appendSource | castSource | dropped => exact ⟨absent, unwritten, uncast⟩
    | merged source ref heap feed next loaded => exact absurd absent loaded.stored
    | tabled feed next own =>
      have member := Topic.next_mem next
      rw [unwritten] at member
      cases member
  · intro none request member id
    rcases transition.request_cases member with old | ⟨-, found⟩
    · exact founded.loaded (before none) request old id
    · by_contra loaded
      exact found loaded (id ▸ (founded.known (before none)).1)
  · intro first isFirst
    rcases founded.accepted concerns with same | ⟨feed, grown, dated⟩
    · rw [same] at isFirst
      exact founded.first first isFirst
    · rw [grown] at isFirst
      cases accepted : s.accepted feedId with
      | nil =>
        rw [accepted] at isFirst
        cases isFirst
        exact dated accepted
      | cons first' rest =>
        rw [accepted] at isFirst
        apply founded.first first
        rw [accepted]
        exact isFirst

end

end Relayd.FeedHandler
