import Relayd.FeedHandler.Service

/-!
# What an action does

`Step` lists the transitions of the feed handler with what they read and what
they leave. It holds of every action in a state whose references are those of
feeds with the right id, and every action leads to such a state.
-/

namespace Relayd.FeedHandler
set_option autoImplicit false
open Relayd.Common Sys

/-- The reference is that of a feed with the id. -/
def Refers (heap : Heap FeedConfig) (feedId : String) (ref : Nat) : Prop :=
  ∃ feed, heap.deref ref = some feed ∧ feed.id = feedId

/-- Every reference is that of a feed with the right id, the records of a feed carry its id, and no
consumer is ahead of its topic. -/
structure Linked (s : FeedHandlerService) : Prop where
  cast : ∀ feedId ref, (feedId, ref) ∈ s.feedCasts → Refers s.heap feedId ref
  table : ∀ feedId ref, s.feedConfigTable feedId = some ref → Refers s.heap feedId ref
  loaded : ∀ request ∈ s.requests, ∀ ref, request.feedRes = some ref → Refers s.heap request.feedConfig.id ref
  records : ∀ feedId, ∀ feed ∈ s.feedConfig feedId, feed.id = feedId
  tabled : Within s.feedConfig s.tabled
  merged : Within s.sourceConfig s.merged

/-- The table's feed for the id, under a reference of the heap that the load leaves. -/
structure Loaded (s : FeedHandlerService) (feedId : String) (ref : Nat) (heap : Heap FeedConfig) (feed : FeedConfig) :
    Prop where
  id : feed.id = feedId
  stored : s.feedConfigTable feedId ≠ none
  held : ∃ ref, s.heap.deref ref = some feed
  object : heap.deref ref = some feed
  keeps : ∀ ref held, s.heap.deref ref = some held → heap.deref ref = some held
  adds : ∀ ref held, heap.deref ref = some held → s.heap.deref ref = some held ∨ held = feed

theorem load_cases {s : FeedHandlerService} (linked : Linked s) (aliased : Bool) (feedId : String) :
    (s.feedConfigTable feedId = none ∧ s.loadFeedFromTable aliased feedId = (none, s)) ∨
      ∃ ref heap feed, Loaded s feedId ref heap feed ∧
        s.loadFeedFromTable aliased feedId = (some ref, { s with heap := heap }) := by
  cases entry : s.feedConfigTable feedId with
  | none =>
    left
    simp only [FeedHandlerService.loadFeedFromTable, entry, and_self]
  | some ref =>
    right
    obtain ⟨feed, object, id⟩ := linked.table feedId ref entry
    have stored : s.feedConfigTable feedId ≠ none := by simp [entry]
    cases aliased with
    | true =>
      refine ⟨ref, s.heap, feed, ⟨id, stored, ⟨ref, object⟩, object, fun _ _ held => held, fun _ _ held => Or.inl held⟩, ?_⟩
      simp only [FeedHandlerService.loadFeedFromTable, entry, ↓reduceIte]
    | false =>
      refine ⟨s.heap.length, s.heap.alloc feed, feed, ?_, ?_⟩
      · exact ⟨id, stored, ⟨ref, object⟩, Heap.deref_alloc_new _ _, fun _ _ held => Heap.deref_alloc _ held,
          fun _ _ held => Heap.deref_alloc_cases held⟩
      · simp [FeedHandlerService.loadFeedFromTable, entry, object]

/-- **The transitions of the feed handler.** -/
inductive Step (s : FeedHandlerService) : Action → FeedHandlerService → Prop
  | unknown (feedConfig : FeedConfig) (absent : s.feedConfigTable feedConfig.id = none) :
    Step s (.request feedConfig) { s with requests := s.requests ++ [{ feedConfig := feedConfig, feedRes := none }] }
  | known (feedConfig : FeedConfig) (ref : Nat) (heap : Heap FeedConfig) (feed : FeedConfig)
    (loaded : Loaded s feedConfig.id ref heap feed) :
    Step s (.request feedConfig) { s with
      heap := heap, requests := s.requests ++ [{ feedConfig := feedConfig, feedRes := some ref }] }
  | declined (n : Nat) (now : IsoDate) (request : Request) (answer : RelayActionResult)
    (position : s.requests[n]? = some request)
    (decision : createFeed now request.feedConfig (request.feedRes.bind s.heap.deref) = (none, answer)) :
    Step s (.decide n now) { s with
      requests := s.requests.eraseIdx n, answers := s.answers ++ [(request.feedConfig.id, answer)] }
  | accepted (n : Nat) (now : IsoDate) (request : Request) (feed : FeedConfig) (answer : RelayActionResult)
    (position : s.requests[n]? = some request)
    (decision : createFeed now request.feedConfig (request.feedRes.bind s.heap.deref) = (some feed, answer)) :
    Step s (.decide n now) { s with
      requests := s.requests.eraseIdx n, answers := s.answers ++ [(request.feedConfig.id, answer)]
      heap := s.heap.alloc feed
      feedCasts := s.feedCasts.send feed.id s.heap.length
      sourceCasts := s.sourceCasts.send feed.id feed.source }
  | appendFeed (n : Nat) (feedId : String) (ref : Nat) (feed : FeedConfig)
    (position : s.feedCasts[n]? = some (feedId, ref)) (object : s.heap.deref ref = some feed) :
    Step s (.appendFeed n) { s with
      feedCasts := s.feedCasts.eraseIdx n, feedConfig := s.feedConfig.append feedId feed }
  | appendSource (n : Nat) (feedId : String) (source : FeedConfigSource)
    (position : s.sourceCasts[n]? = some (feedId, source)) :
    Step s (.appendSource n) { s with
      sourceCasts := s.sourceCasts.eraseIdx n, sourceConfig := s.sourceConfig.append feedId source }
  | castSource (feedId : String) (source : FeedConfigSource) :
    Step s (.castSource feedId source) { s with sourceConfig := s.sourceConfig.append feedId source }
  | dropped (feedId : String) (source : FeedConfigSource) (next : s.sourceConfig.next s.merged feedId = some source)
    (absent : s.feedConfigTable feedId = none) :
    Step s (.merge feedId) { s with merged := s.merged.advance feedId }
  | merged (feedId : String) (source : FeedConfigSource) (ref : Nat) (heap : Heap FeedConfig) (feed : FeedConfig)
    (next : s.sourceConfig.next s.merged feedId = some source) (loaded : Loaded s feedId ref heap feed) :
    Step s (.merge feedId) { s with
      merged := s.merged.advance feedId
      heap := heap.write ref { feed with source := source }
      feedCasts := s.feedCasts.send feedId ref }
  | tabled (feedId : String) (feed : FeedConfig) (next : s.feedConfig.next s.tabled feedId = some feed) :
    Step s (.table feedId) { s with
      tabled := s.tabled.advance feedId
      heap := s.heap.alloc feed
      feedConfigTable := Function.update s.feedConfigTable feed.id (some s.heap.length) }

theorem Linked.init : Linked {} where
  cast := by
    intro feedId ref member
    cases member
  table := by
    intro feedId ref entry
    cases entry
  loaded := by
    intro request member
    cases member
  records := by
    intro feedId feed member
    cases member
  tabled := fun _ => Nat.le_refl _
  merged := fun _ => Nat.le_refl _

/-- **Every action is one of the transitions.** -/
theorem Linked.transition {s s' : FeedHandlerService} {aliased : Bool} {a : Action} (linked : Linked s)
    (stepped : s.step aliased a = some s') : Step s a s' := by
  cases a with
  | request feedConfig =>
    rcases load_cases linked aliased feedConfig.id with ⟨absent, load⟩ | ⟨ref, heap, feed, loaded, load⟩ <;>
      simp only [FeedHandlerService.step, load, Option.some.injEq] at stepped <;> subst stepped
    · exact .unknown feedConfig absent
    · exact .known feedConfig ref heap feed loaded
  | decide n now =>
    obtain ⟨request, position, rfl⟩ := Option.map_eq_some_iff.1 stepped
    cases decision : createFeed now request.feedConfig (request.feedRes.bind s.heap.deref) with
    | mk cast answer =>
      cases cast with
      | none => exact .declined n now request answer position decision
      | some feed =>
        have object := Heap.deref_alloc_new s.heap feed
        simp only [FeedHandlerService.castFeedConfig, object, ↓reduceIte]
        exact .accepted n now request feed answer position decision
  | appendFeed n =>
    obtain ⟨⟨feedId, ref⟩, position, appended⟩ := Option.bind_eq_some_iff.1 stepped
    obtain ⟨feed, object, rfl⟩ := Option.map_eq_some_iff.1 appended
    exact .appendFeed n feedId ref feed position object
  | appendSource n =>
    obtain ⟨⟨feedId, source⟩, position, rfl⟩ := Option.map_eq_some_iff.1 stepped
    exact .appendSource n feedId source position
  | castSource feedId source =>
    cases stepped
    exact .castSource feedId source
  | merge feedId =>
    obtain ⟨source, next, rfl⟩ := Option.map_eq_some_iff.1 stepped
    have linked : Linked { s with merged := s.merged.advance feedId } :=
      ⟨linked.cast, linked.table, linked.loaded, linked.records, linked.tabled, linked.merged.advance next⟩
    rcases load_cases linked aliased feedId with ⟨absent, load⟩ | ⟨ref, heap, feed, loaded, load⟩
    · simp only [FeedHandlerService.mergeSourceToFeedConfig, load]
      exact .dropped feedId source next absent
    · have object := Heap.deref_write_same { feed with source := source } loaded.object
      obtain rfl := loaded.id
      simp only [FeedHandlerService.mergeSourceToFeedConfig, load, loaded.object, FeedHandlerService.castFeedConfig, object,
        Bool.false_eq_true, ↓reduceIte]
      exact .merged feed.id source ref heap feed next
        ⟨loaded.id, loaded.stored, loaded.held, loaded.object, loaded.keeps, loaded.adds⟩
  | table feedId =>
    obtain ⟨feed, next, rfl⟩ := Option.map_eq_some_iff.1 stepped
    exact .tabled feedId feed next

theorem Refers.alloc {heap : Heap FeedConfig} {feedId : String} {ref : Nat} (refers : Refers heap feedId ref)
    (feed : FeedConfig) : Refers (heap.alloc feed) feedId ref := by
  obtain ⟨held, object, id⟩ := refers
  exact ⟨held, Heap.deref_alloc feed object, id⟩

theorem Refers.load {s : FeedHandlerService} {heap : Heap FeedConfig} {feedId : String} {ref ref' : Nat}
    {feed : FeedConfig} {feedId' : String} (loaded : Loaded s feedId ref heap feed) (refers : Refers s.heap feedId' ref') :
    Refers heap feedId' ref' := by
  obtain ⟨held, object, id⟩ := refers
  exact ⟨held, loaded.keeps ref' held object, id⟩

/-- Changing a feed in place leaves its id. -/
theorem Refers.write {heap : Heap FeedConfig} {feedId : String} {ref ref' : Nat} {feed feed' : FeedConfig}
    (refers : Refers heap feedId ref') (object : heap.deref ref = some feed) (id : feed'.id = feed.id) :
    Refers (heap.write ref feed') feedId ref' := by
  obtain ⟨held, object', same⟩ := refers
  by_cases equal : ref' = ref
  · subst equal
    rw [object] at object'
    cases object'
    exact ⟨feed', Heap.deref_write_same feed' object, id.trans same⟩
  · exact ⟨held, (Heap.deref_write_other feed' equal).trans object', same⟩

/-- A heap in which the references stay good keeps the state linked. -/
theorem Linked.moved {s : FeedHandlerService} (linked : Linked s) {heap : Heap FeedConfig}
    (keeps : ∀ feedId ref, Refers s.heap feedId ref → Refers heap feedId ref) : Linked { s with heap := heap } where
  cast := fun feedId ref member => keeps feedId ref (linked.cast feedId ref member)
  table := fun feedId ref entry => keeps feedId ref (linked.table feedId ref entry)
  loaded := fun request member ref found => keeps _ ref (linked.loaded request member ref found)
  records := linked.records
  tabled := linked.tabled
  merged := linked.merged

/-- A cast of the feed under a good reference keeps the state linked. -/
theorem Linked.send {s : FeedHandlerService} (linked : Linked s) {feedId : String} {ref : Nat}
    (refers : Refers s.heap feedId ref) : Linked { s with feedCasts := s.feedCasts.send feedId ref } where
  cast := by
    intro feedId' ref' member
    rcases Outbox.mem_send.1 member with old | new
    · exact linked.cast feedId' ref' old
    · cases new
      exact refers
  table := linked.table
  loaded := linked.loaded
  records := linked.records
  tabled := linked.tabled
  merged := linked.merged

theorem Linked.requested {s : FeedHandlerService} (linked : Linked s) {request : Request}
    (refers : ∀ ref, request.feedRes = some ref → Refers s.heap request.feedConfig.id ref) :
    Linked { s with requests := s.requests ++ [request] } where
  cast := linked.cast
  table := linked.table
  loaded := by
    intro request' member
    rcases List.mem_append.1 member with old | new
    · exact linked.loaded request' old
    · rw [List.mem_singleton.1 new]
      exact refers
  records := linked.records
  tabled := linked.tabled
  merged := linked.merged

/-- **Every action keeps the state linked.** -/
theorem Linked.step {s s' : FeedHandlerService} {a : Action} (linked : Linked s) (transition : Step s a s') :
    Linked s' := by
  cases transition with
  | unknown feedConfig absent =>
    apply linked.requested
    rintro ref ⟨⟩
  | known feedConfig ref heap feed loaded =>
    apply (linked.moved fun _ _ => Refers.load loaded).requested
    rintro _ ⟨⟩
    exact ⟨feed, loaded.object, loaded.id⟩
  | declined n now request answer position decision =>
    exact ⟨linked.cast, linked.table, fun request member => linked.loaded request (List.mem_of_mem_eraseIdx member),
      linked.records, linked.tabled, linked.merged⟩
  | accepted n now request feed answer position decision =>
    have new : Refers (s.heap.alloc feed) feed.id s.heap.length := ⟨feed, Heap.deref_alloc_new s.heap feed, rfl⟩
    have sent := (linked.moved fun _ _ refers => Refers.alloc refers feed).send new
    exact ⟨sent.cast, sent.table, fun request member => sent.loaded request (List.mem_of_mem_eraseIdx member),
      sent.records, sent.tabled, sent.merged⟩
  | appendFeed n feedId ref feed position object =>
    constructor
    · exact fun feedId ref member => linked.cast feedId ref (List.mem_of_mem_eraseIdx member)
    · exact linked.table
    · exact linked.loaded
    · intro feedId' feed' member
      rcases Topic.mem_append.1 member with old | ⟨rfl, rfl⟩
      · exact linked.records feedId' feed' old
      · obtain ⟨held, object', id⟩ := linked.cast feedId' ref (List.mem_of_getElem? position)
        rw [object] at object'
        cases object'
        exact id
    · exact linked.tabled.append feedId feed
    · exact linked.merged
  | appendSource n feedId source position =>
    exact ⟨linked.cast, linked.table, linked.loaded, linked.records, linked.tabled, linked.merged.append feedId source⟩
  | castSource feedId source =>
    exact ⟨linked.cast, linked.table, linked.loaded, linked.records, linked.tabled, linked.merged.append feedId source⟩
  | dropped feedId source next absent =>
    exact ⟨linked.cast, linked.table, linked.loaded, linked.records, linked.tabled, linked.merged.advance next⟩
  | merged feedId source ref heap feed next loaded =>
    have kept : ∀ feedId' ref', Refers s.heap feedId' ref' →
        Refers (heap.write ref { feed with source := source }) feedId' ref' := fun _ _ refers =>
      (refers.load loaded).write loaded.object rfl
    have new : Refers (heap.write ref { feed with source := source }) feedId ref :=
      ⟨{ feed with source := source }, Heap.deref_write_same _ loaded.object, loaded.id⟩
    have sent := (linked.moved kept).send new
    exact ⟨sent.cast, sent.table, sent.loaded, sent.records, sent.tabled, sent.merged.advance next⟩
  | tabled feedId feed next =>
    have moved := linked.moved fun _ _ refers => Refers.alloc refers feed
    constructor
    · exact moved.cast
    · intro feedId' ref entry
      by_cases same : feedId' = feed.id
      · subst same
        simp only [Function.update_self, Option.some.injEq] at entry
        subst entry
        exact ⟨feed, Heap.deref_alloc_new s.heap feed, rfl⟩
      · simp only [Function.update_of_ne same] at entry
        exact moved.table feedId' ref entry
    · exact moved.loaded
    · exact linked.records
    · exact linked.tabled.advance next
    · exact linked.merged

end Relayd.FeedHandler
