import Relayd.FeedHandler.Steps
import Relayd.Lib.Run

/-!
# Requests for one feed

A request looks the feed up in the table, and what it casts reaches the table
later. Of the requests for one id, made within three minutes, only one finds no
feed, as long as none looks while an earlier one that found no feed is on its
way to the table.
-/

namespace Relayd.FeedHandler
set_option autoImplicit false
open Relayd.Common Sys

/-- The answer of a creation. -/
def RelayActionResult.initiates (answer : RelayActionResult) (feedId : String) : Bool :=
  answer.status = .OK && answer.message = "Initiating Feed " ++ feedId

/-- The answer of a refused creation. -/
def RelayActionResult.declines (answer : RelayActionResult) : Bool :=
  answer.status = .NOT_ACCEPTABLE &&
    answer.message = "A running Feed with the same ID already exists. Feed creation declined."

/-- At most one request for the feed is answered with its creation, every other one is declined. -/
structure OneWinner (feedId : String) (answers : List (String × RelayActionResult)) : Prop where
  one : answers.countP (fun answer => answer.1 = feedId && answer.2.initiates feedId) ≤ 1
  others : ∀ answer ∈ answers, answer.1 = feedId → answer.2.initiates feedId = true ∨ answer.2.declines = true

/-- The request is for the feed and found none. -/
def Request.candidate (feedId : String) (request : Request) : Bool :=
  request.feedConfig.id = feedId && request.feedRes.isNone

/-- The clock stands within three minutes whenever a request for the feed is decided. -/
def InTime (feedId : String) (start : IsoDate) (s : FeedHandlerService) : Action → Prop
  | .decide n now => ∀ request ∈ s.requests[n]?, request.feedConfig.id = feedId →
      start ≤ now ∧ now ≤ start + 3 * 60 * 1000
  | _ => True

/-- A request for the feed finds none only when no earlier one that found none is still on its way to the
table: none waits for its decision, none of the feed's casts waits, and the table has consumed every
record of the feed. -/
def Sequential (feedId : String) (s : FeedHandlerService) : Action → Prop
  | .request feedConfig => feedConfig.id = feedId → s.feedConfigTable feedId = none →
      s.requests.countP (Request.candidate feedId) = 0 ∧ s.feedCasts.waiting feedId = [] ∧
        CaughtUp s.feedConfig s.tabled feedId
  | _ => True

instance (feedId : String) (start : IsoDate) (s : FeedHandlerService) (a : Action) : Decidable
    (InTime feedId start s a) :=
  match a with
  | .decide .. => inferInstanceAs (Decidable (∀ request ∈ (_ : Option Request), _ → _ ∧ _))
  | .request .. | .appendFeed .. | .appendSource .. | .castSource .. | .merge .. | .table .. => isTrue True.intro

instance (feedId : String) (s : FeedHandlerService) (a : Action) : Decidable (Sequential feedId s a) :=
  match a with
  | .request .. => inferInstanceAs (Decidable (_ → _ → _ ∧ _ ∧ _))
  | .decide .. | .appendFeed .. | .appendSource .. | .castSource .. | .merge .. | .table .. => isTrue True.intro

/-! ## What a request is answered -/

theorem createFeed_unknown (now : IsoDate) (feedConfig : FeedConfig) :
    ∃ feed answer, createFeed now feedConfig none = (some feed, answer) ∧ feed.id = feedConfig.id ∧
      feed.dateUpdated = some now ∧ answer.initiates feedConfig.id = true :=
  ⟨_, _, rfl, rfl, rfl, by simp [RelayActionResult.initiates]⟩

/-- A feed updated within three minutes is running. -/
theorem createFeed_running {now t : Int} {feedConfig feedRes : FeedConfig} (updated : feedRes.dateUpdated = some t)
    (recent : now - t ≤ 3 * 60 * 1000) :
    ∃ answer, createFeed now feedConfig (some feedRes) = (none, answer) ∧ answer.declines = true := by
  have running : halted now feedRes = false := by
    have notOld : decide (now - t > 3 * 60 * 1000) = false := decide_eq_false (by omega)
    simp only [halted, updated, Option.any_some, notOld, Bool.false_and]
  exact ⟨_, by simp only [createFeed, running]; rfl, by simp [RelayActionResult.declines]⟩

/-- A request is answered for its own feed. -/
theorem createFeed_id {now : IsoDate} {feedConfig feed : FeedConfig} {feedRes : Option FeedConfig}
    {answer : RelayActionResult} (decision : createFeed now feedConfig feedRes = (some feed, answer)) :
    feed.id = feedConfig.id := by
  cases feedRes with
  | none =>
    cases decision
    rfl
  | some feedRes =>
    simp only [createFeed] at decision
    split at decision <;> cases decision
    rfl

/-- A request casts its feed exactly when it is not declined. -/
theorem createFeed_casts_iff (now : IsoDate) (feedConfig : FeedConfig) (feedRes : Option FeedConfig) :
    (createFeed now feedConfig feedRes).1.isSome = true ↔ (createFeed now feedConfig feedRes).2.declines = false := by
  cases feedRes with
  | none => simp [createFeed, RelayActionResult.declines]
  | some feedRes => cases running : halted now feedRes <;> simp [createFeed, running, RelayActionResult.declines]

theorem declines_not_initiates {answer : RelayActionResult} (declines : answer.declines = true) (feedId : String) :
    answer.initiates feedId = false := by
  simp only [RelayActionResult.declines, Bool.and_eq_true, decide_eq_true_eq] at declines
  simp [RelayActionResult.initiates, declines.1]

/-! ## The requests for one feed -/

/-- The feed's update is not from before the start. -/
def Dated (start : IsoDate) (feed : FeedConfig) : Prop := ∃ t, feed.dateUpdated = some t ∧ start ≤ t

/-- Of the requests for the feed, one at most has found none; once it is decided, its feed is in the table
or on its way there; and every feed with the id is of this run. -/
structure Contest (feedId : String) (start : IsoDate) (s : FeedHandlerService) : Prop where
  objects : ∀ ref feed, s.heap.deref ref = some feed → feed.id = feedId → Dated start feed
  records : ∀ feed ∈ s.feedConfig feedId, Dated start feed
  one : s.requests.countP (Request.candidate feedId) +
    s.answers.countP (fun answer => answer.1 = feedId && answer.2.initiates feedId) ≤ 1
  onItsWay : 0 < s.answers.countP (fun answer => answer.1 = feedId && answer.2.initiates feedId) →
    s.feedConfigTable feedId ≠ none ∨ s.feedCasts.waiting feedId ≠ [] ∨ ¬ CaughtUp s.feedConfig s.tabled feedId
  others : ∀ answer ∈ s.answers, answer.1 = feedId → answer.2.initiates feedId = true ∨ answer.2.declines = true

theorem Contest.init (feedId : String) (start : IsoDate) : Contest feedId start {} where
  objects := by
    intro ref feed held
    cases held
  records := by
    intro feed member
    cases member
  one := Nat.zero_le _
  onItsWay := fun some => absurd some (Nat.lt_irrefl 0)
  others := by
    intro answer member
    cases member

theorem countP_eraseIdx_le {α : Type} (p : α → Bool) (l : List α) (n : Nat) : (l.eraseIdx n).countP p ≤ l.countP p :=
  (List.eraseIdx_sublist l n).countP_le

theorem countP_eraseIdx {α : Type} {p : α → Bool} {l : List α} {n : Nat} {a : α} (position : l[n]? = some a)
    (counts : p a = true) : (l.eraseIdx n).countP p + 1 = l.countP p := by
  obtain ⟨bound, item⟩ := List.getElem?_eq_some_iff.1 position
  conv_rhs => rw [← List.take_append_drop n l, List.drop_eq_getElem_cons bound, item]
  rw [List.eraseIdx_eq_take_drop_succ, List.countP_append, List.countP_append, List.countP_cons_of_pos counts]
  omega

section
variable {feedId : String} {start : IsoDate} {s s' : FeedHandlerService}

theorem Contest.alloc (contest : Contest feedId start s) {feed : FeedConfig}
    (dated : feed.id = feedId → Dated start feed) :
    ∀ ref held, (s.heap.alloc feed).deref ref = some held → held.id = feedId → Dated start held := by
  intro ref held object id
  rcases Heap.deref_alloc_cases object with old | rfl
  · exact contest.objects ref held old id
  · exact dated id

theorem Contest.load (contest : Contest feedId start s) {f : String} {ref : Nat} {heap : Heap FeedConfig}
    {feed : FeedConfig}
    (loaded : Loaded s f ref heap feed) :
    ∀ ref held, heap.deref ref = some held → held.id = feedId → Dated start held := by
  intro ref held object id
  rcases loaded.adds ref held object with old | rfl
  · exact contest.objects ref held old id
  · obtain ⟨ref, old⟩ := loaded.held
    exact contest.objects ref held old id

/-- A request that found a feed finds it running. -/
theorem Contest.running (linked : Linked s) (contest : Contest feedId start s) {n : Nat} {now : IsoDate}
    {request : Request}
    (position : s.requests[n]? = some request) (own : request.feedConfig.id = feedId) (late : now ≤ start + 3 * 60 * 1000)
    {ref : Nat} (found : request.feedRes = some ref) :
    ∃ answer, createFeed now request.feedConfig (request.feedRes.bind s.heap.deref) = (none, answer) ∧
      answer.declines = true := by
  obtain ⟨feedRes, object, id⟩ := linked.loaded request (List.mem_of_getElem? position) ref found
  obtain ⟨t, updated, early⟩ := contest.objects ref feedRes object (id.trans own)
  rw [found, Option.bind_some, object]
  have recent : ∀ {now start t : Int}, start ≤ t → now ≤ start + 3 * 60 * 1000 → now - t ≤ 3 * 60 * 1000 := by
    intro now start t early late
    omega
  exact createFeed_running updated (recent early late)

/-- A request that looks while none is on its way to the table is the first that finds no feed. -/
theorem Contest.unknown (contest : Contest feedId start s) (feedConfig : FeedConfig)
    (absent : s.feedConfigTable feedConfig.id = none) (sequential : Sequential feedId s (.request feedConfig)) :
    Contest feedId start { s with requests := s.requests ++ [{ feedConfig := feedConfig, feedRes := none }] } := by
  refine ⟨contest.objects, contest.records, ?_, contest.onItsWay, contest.others⟩
  by_cases own : feedConfig.id = feedId
  · subst own
    obtain ⟨none, noCast, caught⟩ := sequential rfl absent
    have unanswered : s.answers.countP (fun answer => answer.1 = feedConfig.id && answer.2.initiates feedConfig.id) = 0 := by
      by_contra some
      rcases contest.onItsWay (by omega) with stored | waits | behind
      · exact stored absent
      · exact waits noCast
      · exact behind caught
    have first : [({ feedConfig := feedConfig, feedRes := Option.none } : Request)].countP
        (Request.candidate feedConfig.id) ≤ 1 := List.countP_le_length
    simp only [List.countP_append, unanswered, none]
    omega
  · have notCounted : [({ feedConfig := feedConfig, feedRes := Option.none } : Request)].countP
        (Request.candidate feedId) = 0 := by simp [Request.candidate, own]
    rw [List.countP_append, notCounted]
    exact contest.one

/-- An answer that is for another feed or declines. -/
theorem Contest.answered (contest : Contest feedId start s) (n : Nat) {f : String} (answer : RelayActionResult)
    (declines : f = feedId → answer.declines = true) : Contest feedId start { s with
      requests := s.requests.eraseIdx n, answers := s.answers ++ [(f, answer)] } := by
  have uncounted : (f = feedId && answer.initiates feedId) = false := by
    by_cases own : f = feedId
    · rw [declines_not_initiates (declines own), Bool.and_false]
    · rw [decide_eq_false own, Bool.false_and]
  have same : (s.answers ++ [(f, answer)]).countP (fun answer => answer.1 = feedId && answer.2.initiates feedId) =
      s.answers.countP (fun answer => answer.1 = feedId && answer.2.initiates feedId) := by
    simp only [List.countP_append, List.countP_singleton, uncounted, Bool.false_eq_true, ↓reduceIte, Nat.add_zero]
  constructor
  · exact contest.objects
  · exact contest.records
  · have fewer := countP_eraseIdx_le (Request.candidate feedId) s.requests n
    have one := contest.one
    simp only [same]
    omega
  · simp only [same]
    exact contest.onItsWay
  · intro answer' member own
    rcases List.mem_append.1 member with old | new
    · exact contest.others answer' old own
    · rw [List.mem_singleton.1 new] at own ⊢
      exact Or.inr (declines own)

/-- The request that found no feed becomes the one that is answered with the creation, and its cast waits. -/
theorem Contest.created (contest : Contest feedId start s) {n : Nat} {now : IsoDate} {request : Request}
    {feed : FeedConfig} {answer : RelayActionResult}
    (position : s.requests[n]? = some request) (own : request.feedConfig.id = feedId) (early : start ≤ now)
    (found : request.feedRes = none) (decision : createFeed now request.feedConfig none = (some feed, answer))
    (sourceCasts : Outbox String FeedConfigSource) : Contest feedId start { s with
      requests := s.requests.eraseIdx n, answers := s.answers ++ [(request.feedConfig.id, answer)]
      heap := s.heap.alloc feed
      feedCasts := s.feedCasts.send feed.id s.heap.length
      sourceCasts := sourceCasts } := by
  obtain ⟨feed', answer', created, id, updated, initiates⟩ := createFeed_unknown now request.feedConfig
  rw [created] at decision
  cases decision
  rw [own] at id initiates
  refine ⟨contest.alloc fun _ => ⟨now, updated, early⟩, contest.records, ?_, ?_, ?_⟩
  · have counts : Request.candidate feedId request = true := by simp [Request.candidate, own, found]
    have fewer := countP_eraseIdx position counts
    have one := contest.one
    have won : [(request.feedConfig.id, answer)].countP
        (fun answer => answer.1 = feedId && answer.2.initiates feedId) = 1 := by simp [own, initiates]
    simp only [List.countP_append, won]
    omega
  · intro _
    rw [id]
    exact Or.inr (Or.inl (Outbox.waiting_send_ne_nil _ _ _))
  · intro answer' member own'
    rcases List.mem_append.1 member with old | new
    · exact contest.others answer' old own'
    · rw [List.mem_singleton.1 new]
      exact Or.inl initiates

/-- A cast that is appended was on its way to the table, and is now behind its consumption. -/
theorem Contest.appended (linked : Linked s) (contest : Contest feedId start s) {n ref : Nat} {f : String}
    {feed : FeedConfig} (position : s.feedCasts[n]? = some (f, ref)) (object : s.heap.deref ref = some feed) :
    Contest feedId start { s with
      feedCasts := s.feedCasts.eraseIdx n, feedConfig := s.feedConfig.append f feed } := by
  by_cases own : feedId = f
  · subst own
    refine ⟨contest.objects, ?_, contest.one, ?_, contest.others⟩
    · intro feed' member
      rcases Topic.mem_append.1 member with old | ⟨-, rfl⟩
      · exact contest.records feed' old
      · obtain ⟨held, object', id⟩ := linked.cast feedId ref (List.mem_of_getElem? position)
        rw [object] at object'
        cases object'
        exact contest.objects ref feed' object id
    · intro _
      exact Or.inr (Or.inr (linked.tabled.behind feedId feed))
  · refine ⟨contest.objects, ?_, contest.one, ?_, contest.others⟩
    · simp only [Topic.append_other own]
      exact contest.records
    · simp only [Outbox.waiting_eraseIdx_other position own, CaughtUp.append_other own]
      exact contest.onItsWay

/-- A merged feed keeps its date. -/
theorem Contest.merged (contest : Contest feedId start s) {f : String} {ref : Nat} {heap : Heap FeedConfig}
    {feed : FeedConfig} (loaded : Loaded s f ref heap feed) (source : FeedConfigSource) (merged : Cursor String) :
    Contest feedId start { s with
      merged := merged
      heap := heap.write ref { feed with source := source }
      feedCasts := s.feedCasts.send f ref } := by
  refine ⟨?_, contest.records, contest.one, ?_, contest.others⟩
  · intro ref' held object id
    rcases Heap.deref_write_cases object with old | rfl
    · exact contest.load loaded ref' held old id
    · exact contest.load loaded ref feed loaded.object id
  · intro answered
    by_cases own : feedId = f
    · subst own
      exact Or.inr (Or.inl (Outbox.waiting_send_ne_nil _ _ _))
    · simp only [Outbox.waiting_send_other own]
      exact contest.onItsWay answered

/-- A record that the table consumes is its entry. -/
theorem Contest.tabled (linked : Linked s) (contest : Contest feedId start s) {f : String} {feed : FeedConfig}
    (next : s.feedConfig.next s.tabled f = some feed) : Contest feedId start { s with
      tabled := s.tabled.advance f
      heap := s.heap.alloc feed
      feedConfigTable := Function.update s.feedConfigTable feed.id (some s.heap.length) } := by
  have id : feed.id = f := linked.records f feed (Topic.next_mem next)
  refine ⟨contest.alloc ?_, contest.records, contest.one, ?_, contest.others⟩
  · intro own
    rw [← id, own] at next
    exact contest.records feed (Topic.next_mem next)
  · intro answered
    by_cases own : feedId = f
    · left
      simp [id, own]
    · simp only [id, Function.update_of_ne own, CaughtUp.advance_other own]
      exact contest.onItsWay answered

/-- **Every action keeps the contest**, in time and with requests that look one after the other. -/
theorem Contest.step {a : Action} (linked : Linked s) (contest : Contest feedId start s)
    (inTime : InTime feedId start s a)
    (sequential : Sequential feedId s a) (transition : Step s a s') : Contest feedId start s' := by
  cases transition with
  | unknown feedConfig absent => exact contest.unknown feedConfig absent sequential
  | known feedConfig ref heap feed loaded =>
    refine ⟨contest.load loaded, contest.records, ?_, contest.onItsWay, contest.others⟩
    have notCounted : [({ feedConfig := feedConfig, feedRes := some ref } : Request)].countP
        (Request.candidate feedId) = 0 := by simp [Request.candidate]
    rw [List.countP_append, notCounted]
    exact contest.one
  | declined n now request answer position decision =>
    apply contest.answered n answer
    intro own
    cases found : request.feedRes with
    | none =>
      rw [found] at decision
      cases decision
    | some ref =>
      obtain ⟨answer', running, declines⟩ := contest.running linked position own (inTime request position own).2 found
      rw [running] at decision
      cases decision
      exact declines
  | accepted n now request feed answer position decision =>
    have id := createFeed_id decision
    by_cases own : request.feedConfig.id = feedId
    · obtain ⟨early, late⟩ := inTime request position own
      cases found : request.feedRes with
      | none =>
        rw [found, Option.bind_none] at decision
        exact contest.created position own early found decision _
      | some ref =>
        obtain ⟨answer', running, -⟩ := contest.running linked position own late found
        rw [running] at decision
        cases decision
    · have other : feedId ≠ feed.id := fun same => own (id.symm.trans same.symm)
      have answered := contest.answered n answer fun same => absurd same own
      refine ⟨contest.alloc fun same => absurd same.symm other, answered.records, answered.one, ?_, answered.others⟩
      simp only [Outbox.waiting_send_other other]
      exact answered.onItsWay
  | appendFeed n f ref feed position object => exact contest.appended linked position object
  | appendSource n f source position =>
    exact ⟨contest.objects, contest.records, contest.one, contest.onItsWay, contest.others⟩
  | castSource f source =>
    exact ⟨contest.objects, contest.records, contest.one, contest.onItsWay, contest.others⟩
  | dropped f source next absent =>
    exact ⟨contest.objects, contest.records, contest.one, contest.onItsWay, contest.others⟩
  | merged f source ref heap feed next loaded => exact contest.merged loaded source _
  | tabled f feed next => exact contest.tabled linked next

end

/-- **At most one creation wins, when the requests that find no feed come one after the other.** -/
theorem one_creation_wins (aliased : Bool) (feedId : String) (start : IsoDate) (as : List Action)
    (s : FeedHandlerService)
    (inTime : Along (FeedHandlerService.step aliased) (InTime feedId start) {} as)
    (sequential : Along (FeedHandlerService.step aliased) (Sequential feedId) {} as)
    (reached : run (FeedHandlerService.step aliased) {} as = some s) : OneWinner feedId s.answers := by
  have each : ∀ s a s', (Linked s ∧ Contest feedId start s) → (InTime feedId start s a ∧ Sequential feedId s a) →
      FeedHandlerService.step aliased s a = some s' → Linked s' ∧ Contest feedId start s' := by
    rintro s a s' ⟨linked, contest⟩ ⟨inTime, sequential⟩ stepped
    have transition := linked.transition stepped
    exact ⟨linked.step transition, contest.step linked inTime sequential transition⟩
  obtain ⟨-, contest⟩ := invariant each ⟨Linked.init, Contest.init feedId start⟩ (inTime.and sequential) reached
  have one := contest.one
  exact ⟨by omega, contest.others⟩

/-- A second request comes when the table has the feed of the first. -/
def oneByOne : List Action :=
  [.request feedConfigPriceBtcUsd, .decide 0 0, .appendFeed 0, .table feedConfigPriceBtcUsd.id,
    .request feedConfigPriceBtcUsd, .decide 0 60000]

/-- A second request looks the feed up before the table has it. -/
def atOnce : List Action :=
  [.request feedConfigPriceBtcUsd, .decide 0 0, .request feedConfigPriceBtcUsd, .decide 0 1000]

theorem oneByOne_wins :
    ∃ s, run (FeedHandlerService.step true) {} oneByOne = some s ∧ OneWinner feedConfigPriceBtcUsd.id s.answers := by
  have possible : (run (FeedHandlerService.step true) {} oneByOne).isSome = true := by decide +kernel
  obtain ⟨s, reached⟩ := Option.isSome_iff_exists.1 possible
  exact ⟨s, reached, one_creation_wins true feedConfigPriceBtcUsd.id 0 oneByOne s (by decide +kernel) (by decide +kernel)
    reached⟩

/-- The run is in time and has more than one winner, or an answer that is neither. -/
def Contested (aliased : Bool) (as : List Action) : Prop :=
  Along (FeedHandlerService.step aliased) (InTime feedConfigPriceBtcUsd.id 0) {} as ∧
    ∃ s, run (FeedHandlerService.step aliased) {} as = some s ∧ ¬ OneWinner feedConfigPriceBtcUsd.id s.answers

/-- Both requests create the feed, with either storage. -/
theorem atOnce_both_win : Contested true atOnce ∧ Contested false atOnce := by
  have either : ∀ aliased, Contested aliased atOnce := by
    intro aliased
    have inTime : Along (FeedHandlerService.step aliased) (InTime feedConfigPriceBtcUsd.id 0) {} atOnce := by
      cases aliased <;> decide +kernel
    have both : (run (FeedHandlerService.step aliased) {} atOnce).any (fun s =>
        decide (s.answers.countP (fun answer => answer.1 = feedConfigPriceBtcUsd.id &&
          answer.2.initiates feedConfigPriceBtcUsd.id) = 2)) = true := by
      cases aliased <;> decide +kernel
    obtain ⟨s, reached, two⟩ := (Option.any_eq_true _ _).1 both
    refine ⟨inTime, s, reached, ?_⟩
    intro winner
    have one := winner.one
    rw [of_decide_eq_true two] at one
    omega
  exact ⟨either true, either false⟩

end Relayd.FeedHandler
