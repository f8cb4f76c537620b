import Relayd.FeedHandler.Creation

/-!
# What an action is to one feed

`Concerns` lists the transitions of the feed handler that change what a feed is
made of: its casts, its entry in the table and its records in the two topics.
Every other transition leaves them the same. A law about one feed has these
cases to go through. The first such law is that of the table: it has the last
record of the feed, once no cast of the feed is in flight.
-/

namespace Relayd.FeedHandler
set_option autoImplicit false
open Relayd.Common Sys

namespace FeedHandlerService

/-- The casts of a feed on `FEED_CONFIG`, appended or waiting, as they are now. -/
def casts (s : FeedHandlerService) (feedId : String) : List FeedConfig :=
  s.feedConfig feedId ++ (s.feedCasts.waiting feedId).filterMap s.heap.deref

def lastCast (s : FeedHandlerService) (feedId : String) : Option FeedConfig := (s.casts feedId).getLast?

/-- The feeds that the accepted requests for an id have cast. -/
def accepted (s : FeedHandlerService) (feedId : String) : List FeedConfig :=
  (s.answers.filter fun answer => answer.1 = feedId).filterMap fun answer => answer.2.data

end FeedHandlerService

/-- What the agreement of a feed with its source depends on. -/
structure Same (feedId : String) (s s' : FeedHandlerService) : Prop where
  casts : s'.casts feedId = s.casts feedId
  stored : s'.stored feedId = s.stored feedId
  feedCasts : s'.feedCasts.waiting feedId = s.feedCasts.waiting feedId
  sourceCasts : s'.sourceCasts.waiting feedId = s.sourceCasts.waiting feedId
  feedConfig : s'.feedConfig feedId = s.feedConfig feedId
  sourceConfig : s'.sourceConfig feedId = s.sourceConfig feedId
  tabled : s'.tabled feedId = s.tabled feedId
  merged : s'.merged feedId = s.merged feedId

/-- **The transitions that concern a feed.** -/
inductive Concerns (feedId : String) (s : FeedHandlerService) : Action → FeedHandlerService → Prop
  | other (a : Action) (s' : FeedHandlerService) (same : Same feedId s s') (accepted : s'.accepted feedId = s.accepted feedId) :
    Concerns feedId s a s'
  | accepted (n : Nat) (now : IsoDate) (request : Request) (feed : FeedConfig) (answer : RelayActionResult)
    (position : s.requests[n]? = some request) (own : feed.id = feedId)
    (decision : createFeed now request.feedConfig (request.feedRes.bind s.heap.deref) = (some feed, answer)) :
    Concerns feedId s (.decide n now) { s with
      requests := s.requests.eraseIdx n, answers := s.answers ++ [(feedId, answer)]
      heap := s.heap.alloc feed
      feedCasts := s.feedCasts.send feedId s.heap.length
      sourceCasts := s.sourceCasts.send feedId feed.source }
  | appendFeed (n : Nat) (ref : Nat) (feed : FeedConfig) (position : s.feedCasts[n]? = some (feedId, ref))
    (object : s.heap.deref ref = some feed) :
    Concerns feedId s (.appendFeed n) { s with
      feedCasts := s.feedCasts.eraseIdx n, feedConfig := s.feedConfig.append feedId feed }
  | appendSource (n : Nat) (source : FeedConfigSource) (position : s.sourceCasts[n]? = some (feedId, source)) :
    Concerns feedId s (.appendSource n) { s with
      sourceCasts := s.sourceCasts.eraseIdx n, sourceConfig := s.sourceConfig.append feedId source }
  | castSource (source : FeedConfigSource) :
    Concerns feedId s (.castSource feedId source) { s with sourceConfig := s.sourceConfig.append feedId source }
  | dropped (source : FeedConfigSource) (next : s.sourceConfig.next s.merged feedId = some source)
    (absent : s.feedConfigTable feedId = none) :
    Concerns feedId s (.merge feedId) { s with merged := s.merged.advance feedId }
  | merged (source : FeedConfigSource) (ref : Nat) (heap : Heap FeedConfig) (feed : FeedConfig)
    (next : s.sourceConfig.next s.merged feedId = some source) (loaded : Loaded s feedId ref heap feed) :
    Concerns feedId s (.merge feedId) { s with
      merged := s.merged.advance feedId
      heap := heap.write ref { feed with source := source }
      feedCasts := s.feedCasts.send feedId ref }
  | tabled (feed : FeedConfig) (next : s.feedConfig.next s.tabled feedId = some feed) (own : feed.id = feedId) :
    Concerns feedId s (.table feedId) { s with
      tabled := s.tabled.advance feedId
      heap := s.heap.alloc feed
      feedConfigTable := Function.update s.feedConfigTable feedId (some s.heap.length) }

section
variable {feedId : String} {s s' : FeedHandlerService}

variable (feedId) in
/-- Heaps that agree on the feed's references give it the same casts and the same entry. -/
theorem Same.of_heap (linked : Linked s) {heap : Heap FeedConfig}
    (objects : ∀ ref, Refers s.heap feedId ref → heap.deref ref = s.heap.deref ref) :
    Same feedId s { s with heap := heap } where
  casts := by
    simp only [FeedHandlerService.casts]
    congr 1
    apply List.filterMap_congr
    intro ref waits
    exact objects ref (linked.cast feedId ref (Outbox.mem_waiting.1 waits))
  stored := by
    simp only [FeedHandlerService.stored]
    cases entry : s.feedConfigTable feedId with
    | none => rfl
    | some ref => exact objects ref (linked.table feedId ref entry)
  feedCasts := rfl
  sourceCasts := rfl
  feedConfig := rfl
  sourceConfig := rfl
  tabled := rfl
  merged := rfl

theorem Refers.deref_alloc {heap : Heap FeedConfig} {ref : Nat} (refers : Refers heap feedId ref) (feed : FeedConfig) :
    (heap.alloc feed).deref ref = heap.deref ref := by
  obtain ⟨held, object, -⟩ := refers
  rw [object]
  exact Heap.deref_alloc feed object

theorem Refers.deref_load {heap : Heap FeedConfig} {ref ref' : Nat} {f : String} {feed : FeedConfig}
    (loaded : Loaded s f ref heap feed) (refers : Refers s.heap feedId ref') : heap.deref ref' = s.heap.deref ref' := by
  obtain ⟨held, object, -⟩ := refers
  rw [object]
  exact loaded.keeps ref' held object

/-- A merge into another feed leaves the objects of this one. -/
theorem Refers.deref_merge {heap : Heap FeedConfig} {ref ref' : Nat} {f : String} {feed : FeedConfig}
    (loaded : Loaded s f ref heap feed) (source : FeedConfigSource) (other : f ≠ feedId)
    (refers : Refers s.heap feedId ref') :
    (heap.write ref { feed with source := source }).deref ref' = s.heap.deref ref' := by
  rw [← refers.deref_load loaded]
  apply Heap.deref_write_other
  rintro rfl
  obtain ⟨held, object, id⟩ := refers.load loaded
  rw [loaded.object] at object
  cases object
  exact other (loaded.id.symm.trans id)

/-- An answer without a feed. -/
theorem createFeed_declined {now : IsoDate} {feedConfig : FeedConfig} {feedRes : Option FeedConfig}
    {answer : RelayActionResult} (decision : createFeed now feedConfig feedRes = (none, answer)) : answer.data = none := by
  cases feedRes with
  | none => cases decision
  | some feedRes =>
    simp only [createFeed] at decision
    split at decision <;> cases decision
    rfl

/-- The answer to an accepted request has the feed that is cast. -/
theorem createFeed_accepted {now : IsoDate} {feedConfig feed : FeedConfig} {feedRes : Option FeedConfig}
    {answer : RelayActionResult} (decision : createFeed now feedConfig feedRes = (some feed, answer)) :
    answer.data = some feed := by
  cases feedRes with
  | none =>
    cases decision
    rfl
  | some feedRes =>
    simp only [createFeed] at decision
    split at decision <;> cases decision
    rfl

theorem accepted_answered (s : FeedHandlerService) (requests : List Request) (f : String) (answer : RelayActionResult) :
    FeedHandlerService.accepted { s with requests := requests, answers := s.answers ++ [(f, answer)] } feedId =
      s.accepted feedId ++ if f = feedId then answer.data.toList else [] := by
  simp only [FeedHandlerService.accepted, List.filter_append, List.filterMap_append]
  congr 1
  by_cases own : f = feedId
  · cases data : answer.data <;> simp [own, data]
  · simp [own]

/-- An answer with a feed adds it to those of the accepted requests. -/
theorem accepted_append (s : FeedHandlerService) (requests : List Request) (f : String) {answer : RelayActionResult}
    {feed : FeedConfig} (data : answer.data = some feed) :
    FeedHandlerService.accepted { s with requests := requests, answers := s.answers ++ [(f, answer)] } f =
      s.accepted f ++ [feed] := by
  rw [accepted_answered, if_pos rfl, data]
  rfl

/-- **Every transition is one that concerns the feed, or leaves it the same.** -/
theorem Step.concerns {a : Action} (linked : Linked s) (transition : Step s a s') : Concerns feedId s a s' := by
  have unchanged : ∀ {s' : FeedHandlerService}, s'.answers = s.answers → s'.accepted feedId = s.accepted feedId := by
    intro s' same
    rw [FeedHandlerService.accepted, same, FeedHandlerService.accepted]
  cases transition with
  | unknown feedConfig absent => exact .other _ _ ⟨rfl, rfl, rfl, rfl, rfl, rfl, rfl, rfl⟩ rfl
  | known feedConfig ref heap feed loaded =>
    have same := Same.of_heap feedId linked (fun _ => Refers.deref_load loaded)
    exact .other _ _ ⟨same.casts, same.stored, rfl, rfl, rfl, rfl, rfl, rfl⟩ (unchanged rfl)
  | declined n now request answer position decision =>
    refine .other _ _ ⟨rfl, rfl, rfl, rfl, rfl, rfl, rfl, rfl⟩ ?_
    rw [accepted_answered, createFeed_declined decision]
    split <;> exact List.append_nil _
  | accepted n now request feed answer position decision =>
    have id := createFeed_id decision
    by_cases own : feed.id = feedId
    · subst own
      rw [← id]
      exact .accepted n now request feed answer position rfl decision
    · have other : feedId ≠ feed.id := fun equal => own equal.symm
      have same := Same.of_heap feedId linked (fun _ refers => refers.deref_alloc feed)
      have waits : (s.feedCasts.send feed.id s.heap.length).waiting feedId = s.feedCasts.waiting feedId :=
        Outbox.waiting_send_other other
      refine .other _ _ ⟨?_, same.stored, waits, Outbox.waiting_send_other other, rfl, rfl, rfl, rfl⟩ ?_
      · rw [← same.casts]
        simp only [FeedHandlerService.casts, waits]
      · refine (accepted_answered s (s.requests.eraseIdx n) request.feedConfig.id answer).trans ?_
        rw [if_neg (id ▸ own), List.append_nil]
  | appendFeed n f ref feed position object =>
    by_cases own : feedId = f
    · subst own
      exact .appendFeed n ref feed position object
    · have waits := Outbox.waiting_eraseIdx_other position own
      refine .other _ _ ⟨?_, rfl, waits, rfl, Topic.append_other own, rfl, rfl, rfl⟩ (unchanged rfl)
      simp only [FeedHandlerService.casts, waits, Topic.append_other own]
  | appendSource n f source position =>
    by_cases own : feedId = f
    · subst own
      exact .appendSource n source position
    · exact .other _ _ ⟨rfl, rfl, rfl, Outbox.waiting_eraseIdx_other position own, rfl, Topic.append_other own, rfl, rfl⟩
        (unchanged rfl)
  | castSource f source =>
    by_cases own : feedId = f
    · subst own
      exact .castSource source
    · exact .other _ _ ⟨rfl, rfl, rfl, rfl, rfl, Topic.append_other own, rfl, rfl⟩ (unchanged rfl)
  | dropped f source next absent =>
    by_cases own : feedId = f
    · subst own
      exact .dropped source next absent
    · exact .other _ _ ⟨rfl, rfl, rfl, rfl, rfl, rfl, rfl, Cursor.advance_other own⟩ (unchanged rfl)
  | merged f source ref heap feed next loaded =>
    by_cases own : feedId = f
    · subst own
      exact .merged source ref heap feed next loaded
    · have same := Same.of_heap feedId linked (fun _ => Refers.deref_merge loaded source fun equal => own equal.symm)
      have waits : (s.feedCasts.send f ref).waiting feedId = s.feedCasts.waiting feedId := Outbox.waiting_send_other own
      refine .other _ _ ⟨?_, same.stored, waits, rfl, rfl, rfl, rfl, Cursor.advance_other own⟩ (unchanged rfl)
      rw [← same.casts]
      simp only [FeedHandlerService.casts, waits]
  | tabled f feed next =>
    have id : feed.id = f := linked.records f feed (Topic.next_mem next)
    subst id
    by_cases own : feedId = feed.id
    · subst own
      exact .tabled feed next rfl
    · have same := Same.of_heap feedId linked (fun _ refers => refers.deref_alloc feed)
      refine .other _ _ ⟨same.casts, ?_, rfl, rfl, rfl, rfl, Cursor.advance_other own, rfl⟩ (unchanged rfl)
      rw [← same.stored]
      simp only [FeedHandlerService.stored, Function.update_of_ne own]

/-! ## The last cast -/

/-- The newest waiting cast is the last one. -/
theorem lastCast_newest {refs : List Nat} {ref : Nat} {feed : FeedConfig}
    (newest : s.feedCasts.waiting feedId = refs ++ [ref]) (object : s.heap.deref ref = some feed) :
    s.lastCast feedId = some feed := by
  simp only [FeedHandlerService.lastCast, FeedHandlerService.casts, newest, List.filterMap_append, List.filterMap_cons,
    object, List.filterMap_nil]
  rw [← List.append_assoc, List.getLast?_append, List.getLast?_singleton, Option.some_or]

/-- The append of a waiting cast leaves what is looked at of the last one, if it is not different in an older
one that the newest overtakes. -/
theorem lastCast_append {P : Type} (look : FeedConfig → P) (linked : Linked s) {n ref : Nat} {feed : FeedConfig}
    (position : s.feedCasts[n]? = some (feedId, ref)) (object : s.heap.deref ref = some feed)
    (orderly : s.feedCasts.newer n feedId = [] →
      ∀ ref' ∈ s.feedCasts.older n feedId, (s.heap.deref ref').map look = (s.heap.deref ref).map look) :
    (FeedHandlerService.lastCast { s with
        feedCasts := s.feedCasts.eraseIdx n, feedConfig := s.feedConfig.append feedId feed } feedId).map look =
      (s.lastCast feedId).map look := by
  have waits := Outbox.waiting_at position
  have valid : ∀ {refs}, (∀ ref' ∈ refs, ref' ∈ s.feedCasts.waiting feedId) → refs.filterMap s.heap.deref = [] → refs = [] := by
    intro refs members none
    by_contra some
    obtain ⟨ref', member⟩ := List.exists_mem_of_ne_nil refs some
    obtain ⟨held, object', -⟩ := linked.cast feedId ref' (Outbox.mem_waiting.1 (members ref' member))
    have impossible := List.mem_filterMap.2 ⟨ref', member, object'⟩
    rw [none] at impossible
    cases impossible
  simp only [FeedHandlerService.lastCast, FeedHandlerService.casts, Topic.append_same, Outbox.waiting_eraseIdx, waits,
    List.filterMap_append, List.filterMap_cons, object]
  apply last_overtaken
  intro none feed' member
  have newest : s.feedCasts.newer n feedId = [] :=
    valid (fun ref' member => by rw [waits]; exact List.mem_append_right _ (List.mem_cons_of_mem _ member)) none
  obtain ⟨ref', older, object'⟩ := List.mem_filterMap.1 member
  have looks := orderly newest ref' older
  rw [object, object'] at looks
  exact Option.some.inj looks

/-- The record that the table consumes leaves the casts. -/
theorem lastCast_tabled (linked : Linked s) (feed : FeedConfig) (tabled : Cursor String) (table : String → Option Nat) :
    FeedHandlerService.lastCast { s with tabled := tabled, heap := s.heap.alloc feed, feedConfigTable := table } feedId =
      s.lastCast feedId :=
  congrArg List.getLast? (Same.of_heap feedId linked fun _ refers => refers.deref_alloc feed).casts

/-! ## The table -/

/-- **The table has the last feed, when no feed is in flight.** -/
def TableCurrent (feedId : String) (s : FeedHandlerService) : Prop :=
  s.feedCasts.waiting feedId = [] → CaughtUp s.feedConfig s.tabled feedId → s.stored feedId = s.feedConfig.last feedId

theorem TableCurrent.init (feedId : String) : TableCurrent feedId {} := fun _ _ => rfl

theorem TableCurrent.step {a : Action} (linked : Linked s) (current : TableCurrent feedId s)
    (concerns : Concerns feedId s a s') : TableCurrent feedId s' := by
  cases concerns with
  | other a s' same accepted =>
    simp only [TableCurrent, CaughtUp, Topic.last, same.stored, same.feedCasts, same.feedConfig, same.tabled]
    exact current
  | accepted n now request feed answer position own decision =>
    exact fun waits => absurd waits (Outbox.waiting_send_ne_nil _ _ _)
  | appendFeed n ref feed position object => exact fun _ caught => absurd caught (linked.tabled.behind feedId feed)
  | appendSource n source position => exact current
  | castSource source => exact current
  | dropped source next absent => exact current
  | merged source ref heap feed next loaded => exact fun waits => absurd waits (Outbox.waiting_send_ne_nil _ _ _)
  | tabled feed next own =>
    intro waits caught
    rw [Topic.last_of_next next caught]
    simp only [FeedHandlerService.stored, Function.update_self, Option.bind_some, Heap.deref_alloc_new]

/-- When no feed is in flight the feed in the table is the last cast. -/
theorem TableCurrent.lastCast (current : TableCurrent feedId s) (noFeed : s.feedCasts.waiting feedId = [])
    (tabled : CaughtUp s.feedConfig s.tabled feedId) : s.stored feedId = s.lastCast feedId := by
  rw [current noFeed tabled]
  simp only [FeedHandlerService.lastCast, FeedHandlerService.casts, noFeed, List.filterMap_nil, List.append_nil]
  rfl

theorem TableCurrent.settled (current : TableCurrent feedId s) (settled : s.Settled feedId) :
    s.stored feedId = s.lastCast feedId :=
  current.lastCast settled.1 settled.2.2.1

end

end Relayd.FeedHandler
