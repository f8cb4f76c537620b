import Relayd.FeedHandler.Resumption
import Relayd.World

/-!
# A feed that is submitted again

A request for a feed that exists is declined or resumes the feed. A resumption
casts what the client submitted: the date of creation is lost with it, and the
status and the handles of the source. So what belongs to a running feed is kept
exactly when the request is declined.
-/

namespace Relayd
set_option autoImplicit false
open Relayd.Common Relayd.EthClient Relayd.FeedHandler Sys

namespace World

section
variable {ι : Type}

/-- The instance has cast that it stops polling the contract. -/
def Removed (net : Net ι) (sourceId : String) (issuer : String) : Prop :=
  ∃ info ∈ net.sourcePolling sourceId, info.issuer = issuer ∧
    (info.change = .REMOVE_PERIODIC ∨ info.change = .REMOVE_LISTEN_EVENT)

/-- No request for the feed is decided. -/
def Undecided (feedId : String) (w : World ι) : Action ι → Prop
  | .feed (.decide n _) => ∀ request ∈ w.feedHandler.requests[n]?, request.feedConfig.id ≠ feedId
  | _ => True

instance (feedId : String) (w : World ι) (a : Action ι) : Decidable (Undecided feedId w a) :=
  match a with
  | .feed (.decide ..) => inferInstanceAs (Decidable (∀ request ∈ (_ : Option Request), _ ≠ _))
  | .feed (.request ..) | .feed (.appendFeed ..) | .feed (.appendSource ..) | .feed (.castSource ..) | .feed (.merge ..) |
    .feed (.table ..) | .eth .. => isTrue True.intro

/-- The feed has the date of its first creation, and its source every handle of an instance that has not
cast a removal. -/
structure StillRuns (feedId : String) (w w' : World ι) (feedRes feed : FeedConfig) : Prop where
  dateCreated : ∀ first ∈ (w.feedHandler.accepted feedId).head?, feed.dateCreated = first.dateCreated
  handle : ∀ e ∈ entries feedRes.source.handle, ¬ Removed w'.ethClients feedRes.source.contract e.1 →
    e ∈ entries feed.source.handle

/-- **What belongs to the feed that the `n`th waiting request has found is kept**: a source in status `OK` with
handles has the request declined, and after a resumption, once nothing of the feed is in flight, the feed in the
table still has its date of creation and its handles. -/
structure Keeps [DecidableEq ι] (isDateString : String → Bool) (config : RelaydConfig) (clients : ι → Client)
    (aliased : Bool) (w : World ι) (n : Nat) (now : IsoDate) (feedConfig feedRes : FeedConfig) : Prop where
  declined : feedRes.source.status = some .OK → entries feedRes.source.handle ≠ [] →
    (createFeed now feedConfig (some feedRes)).2.declines = true
  kept : (createFeed now feedConfig (some feedRes)).2.resumes feedConfig.id = true →
    ∀ w₁ as w', w.step isDateString config clients aliased (.feed (.decide n now)) = some w₁ →
      Along (step isDateString config clients aliased) (Undecided feedConfig.id) w₁ as →
      run (step isDateString config clients aliased) w₁ as = some w' → w'.feedHandler.Settled feedConfig.id →
      ∃ feed ∈ w'.feedHandler.stored feedConfig.id, StillRuns feedConfig.id w w' feedRes feed

end

section
variable {ι : Type} [DecidableEq ι] {isDateString : String → Bool} {config : RelaydConfig} {clients : ι → Client}
  {aliased : Bool}

/-- In the world a feed is founded by its first accepted request. -/
theorem feed_founded {as : List (Action ι)} {w : World ι}
    (reached : run (step isDateString config clients aliased) {} as = some w) (feedId : String) :
    Linked w.feedHandler ∧ TableCurrent feedId w.feedHandler ∧ Founded feedId w.feedHandler := by
  obtain ⟨bs, constrained, ran⟩ := feedHandler_runs reached
  have each : ∀ s b s', (Linked s ∧ TableCurrent feedId s ∧ Founded feedId s) → Constrained isDateString b →
      FeedHandlerService.step aliased s b = some s' → Linked s' ∧ TableCurrent feedId s' ∧ Founded feedId s' := by
    rintro s b s' ⟨linked, current, founded⟩ constrained stepped
    have transition := linked.transition stepped
    have undated : Undated b := by
      cases b with
      | request feedConfig => exact FeedConfig.valid_undated constrained
      | _ => exact True.intro
    exact ⟨linked.step transition, current.step linked (transition.concerns linked),
      founded.step linked undated transition⟩
  exact invariant each ⟨Linked.init, TableCurrent.init feedId, Founded.init feedId⟩ (Along.of_forall constrained) ran

/-- To deliver a cast is no submission and no decision. -/
theorem delivers_passes (isDateString : String → Bool) {b : FeedHandler.Action} (delivers : Delivers b) :
    passes isDateString b = true := by
  cases b with
  | request | decide | castSource => exact delivers.elim
  | appendFeed | appendSource | merge | table => rfl

omit [DecidableEq ι] in
theorem delivers_undecided {b : FeedHandler.Action} (delivers : Delivers b) (feedId : String) (w : World ι) :
    Undecided feedId w (.feed b) := by
  cases b with
  | request | decide | castSource => exact delivers.elim
  | appendFeed | appendSource | merge | table => exact True.intro

/-- A halted feed can come to lose its date of creation: nothing else has to happen than its casts being
delivered. -/
theorem resumed_undated {as : List (Action ι)} {w : World ι}
    (reached : run (step isDateString config clients aliased) {} as = some w) {n : Nat} {now : IsoDate} {request : Request}
    {feedRes : FeedConfig} (position : w.feedHandler.requests[n]? = some request)
    (found : request.feedRes.bind w.feedHandler.heap.deref = some feedRes) (isHalted : halted now feedRes = true) :
    ∃ w₁ bs w', w.step isDateString config clients aliased (.feed (.decide n now)) = some w₁ ∧
      Along (step isDateString config clients aliased) (Undecided request.feedConfig.id) w₁ bs ∧
      run (step isDateString config clients aliased) w₁ bs = some w' ∧ w'.feedHandler.Settled request.feedConfig.id ∧
      ∀ feed ∈ w'.feedHandler.stored request.feedConfig.id, feed.dateCreated = none := by
  obtain ⟨linked, current, founded⟩ := feed_founded reached request.feedConfig.id
  obtain ⟨feed, answer, decision, id, created, -⟩ := createFeed_halted isHalted request.feedConfig
  rw [← found] at decision
  obtain ⟨bs, s', delivers, ran, settled, stored, isStored, same⟩ := accepted_arrives aliased linked current position decision id
  have passing : ∀ b ∈ .decide n now :: bs, passes isDateString b = true := by
    intro b member
    rcases List.mem_cons.1 member with rfl | member
    · rfl
    · exact delivers_passes isDateString (delivers b member)
  obtain ⟨w', ran', rfl⟩ := run_feed passing ran
  obtain ⟨w₁, decided, rest⟩ := run_cons.1 ran'
  refine ⟨w₁, bs.map .feed, w', decided, ?_, rest, settled, ?_⟩
  · intro pre a post w₂ split _
    have member : a ∈ bs.map (Action.feed : FeedHandler.Action → Action ι) := by
      rw [split]
      exact List.mem_append_right pre List.mem_cons_self
    obtain ⟨b, isDelivered, rfl⟩ := List.mem_map.1 member
    exact delivers_undecided (delivers b isDelivered) request.feedConfig.id w₂
  · intro feed' isStored'
    cases isStored.symm.trans isStored'
    have undated := congrArg FeedConfig.dateCreated same
    exact undated.trans (created.trans (founded.requests request (List.mem_of_getElem? position)))

/-- **A request for an existing feed keeps what belongs to it exactly when the feed is not halted**, since any
other request is declined, and a resumption loses the date of creation. -/
theorem resubmission_keeps_iff (as : List (Action ι)) (w : World ι)
    (reached : run (step isDateString config clients aliased) {} as = some w) (n : Nat) (now : IsoDate) (request : Request)
    (feedRes : FeedConfig) (position : w.feedHandler.requests[n]? = some request)
    (found : request.feedRes.bind w.feedHandler.heap.deref = some feedRes) :
    Keeps isDateString config clients aliased w n now request.feedConfig feedRes ↔ halted now feedRes = false := by
  constructor
  · intro keeps
    by_contra running
    have isHalted : halted now feedRes = true := eq_true_of_ne_false running
    obtain ⟨-, -, founded⟩ := feed_founded reached request.feedConfig.id
    obtain ⟨w₁, bs, w', decided, undecided, rest, settled, undated⟩ := resumed_undated reached position found isHalted
    obtain ⟨feed, answer, decision, -, -, resumes⟩ := createFeed_halted isHalted request.feedConfig
    have resumes : (createFeed now request.feedConfig (some feedRes)).2.resumes request.feedConfig.id = true := by
      rw [decision]
      exact resumes
    obtain ⟨feed, stored, runs⟩ := keeps.kept resumes w₁ bs w' decided undecided rest settled
    -- the request found a feed, so one was accepted before, which has a date of creation
    cases accepted : w.feedHandler.accepted request.feedConfig.id with
    | nil =>
      rw [founded.loaded accepted request (List.mem_of_getElem? position) rfl] at found
      cases found
    | cons first rest =>
      have isFirst : first ∈ (w.feedHandler.accepted request.feedConfig.id).head? := by
        rw [accepted]
        rfl
      exact founded.first first isFirst ((runs.dateCreated first isFirst).symm.trans (undated feed stored))
  · intro running
    obtain ⟨declines, notResumes⟩ := createFeed_declines running request.feedConfig
    refine ⟨fun _ _ => declines, ?_⟩
    intro resumes
    rw [notResumes] at resumes
    cases resumes

end

/-! ## A feed submitted twice -/

/-- The source is validated and listened to, and the feed in the table says so when it is submitted again. -/
def running : List (Action Unit) :=
  [.feed (.request feedConfigPriceBtcUsd), .feed (.decide 0 0), .feed (.appendFeed 0),
    .feed (.table feedConfigPriceBtcUsd.id), .feed (.appendSource 0),
    .eth (.consume () healthyEnv feedConfigPriceBtcUsd.id), .eth (.table feedConfigPriceBtcUsd.id),
    .eth (.table feedConfigPriceBtcUsd.id), .eth (.consume () healthyEnv feedConfigPriceBtcUsd.id),
    .eth (.merge () proxyAddress "2022-04-15T12:00:01.000Z"),
    .feed (.merge feedConfigPriceBtcUsd.id), .feed (.appendFeed 0), .feed (.table feedConfigPriceBtcUsd.id),
    .feed (.merge feedConfigPriceBtcUsd.id), .feed (.appendFeed 0), .feed (.table feedConfigPriceBtcUsd.id),
    .feed (.merge feedConfigPriceBtcUsd.id), .feed (.appendFeed 0), .feed (.table feedConfigPriceBtcUsd.id),
    .feed (.request feedConfigPriceBtcUsd)]

/-- The second request is decided, and its casts are consumed. -/
def resuming : List (Action Unit) :=
  [.feed (.decide 0 200000), .feed (.appendFeed 0), .feed (.table feedConfigPriceBtcUsd.id), .feed (.appendSource 0),
    .feed (.merge feedConfigPriceBtcUsd.id), .feed (.appendFeed 0), .feed (.table feedConfigPriceBtcUsd.id)]

/-- A running feed submitted again after a second keeps what belongs to it. -/
theorem resubmitting_keeps :
    ∃ w request feedRes, run (step (fun _ => true) RelaydConfig.prod (fun _ => mainClient) false) {} running = some w ∧
      w.feedHandler.requests[0]? = some request ∧
      (feedRes.source.status = some .OK ∧ entries feedRes.source.handle = [(mainClient.serviceId, .EVENT)]) ∧
      Keeps (fun _ => true) RelaydConfig.prod (fun _ => mainClient) false w 0 1000 request.feedConfig feedRes := by
  have waits : (run (step (fun _ => true) RelaydConfig.prod (fun _ => mainClient) false) {} running).any (fun w =>
      w.feedHandler.requests[0]?.any fun request => (request.feedRes.bind w.feedHandler.heap.deref).any fun feedRes =>
        decide ((feedRes.source.status = some .OK ∧ entries feedRes.source.handle = [(mainClient.serviceId, .EVENT)]) ∧
          halted 1000 feedRes = false)) = true := by
    decide +kernel
  obtain ⟨w, reached, waits⟩ := (Option.any_eq_true _ _).1 waits
  obtain ⟨request, position, found⟩ := (Option.any_eq_true _ _).1 waits
  obtain ⟨feedRes, found, notHalted⟩ := (Option.any_eq_true _ _).1 found
  obtain ⟨handled, notHalted⟩ := of_decide_eq_true notHalted
  exact ⟨w, request, feedRes, reached, position, handled,
    (resubmission_keeps_iff running w reached 0 1000 request feedRes position found).2 notHalted⟩

/-- The run resumes a feed whose source is in status `OK` with a handle, and comes to rest with a feed that has
neither its date nor its handle. -/
structure Loses (aliased : Bool) (w : World Unit) (feedRes : FeedConfig) : Prop where
  stored : w.feedHandler.stored feedConfigPriceBtcUsd.id = some feedRes
  created : feedRes.dateCreated = some 0
  status : feedRes.source.status = some .OK
  handle : entries feedRes.source.handle = [(mainClient.serviceId, .EVENT)]
  resumes : (createFeed 200000 feedConfigPriceBtcUsd (some feedRes)).2.resumes feedConfigPriceBtcUsd.id = true
  settles : (run (step (fun _ => true) RelaydConfig.prod (fun _ => mainClient) aliased) w resuming).any (fun w' =>
    decide (w'.feedHandler.Settled feedConfigPriceBtcUsd.id) &&
      (w'.feedHandler.stored feedConfigPriceBtcUsd.id).any fun feed =>
        decide (feed.dateCreated = none ∧ entries feed.source.handle = [])) = true

instance (aliased : Bool) (w : World Unit) (feedRes : FeedConfig) : Decidable (Loses aliased w feedRes) :=
  decidable_of_iff (_ ∧ _ ∧ _ ∧ _ ∧ _ ∧ _)
    ⟨fun ⟨stored, created, status, handle, resumes, settles⟩ => ⟨stored, created, status, handle, resumes, settles⟩,
      fun loses => ⟨loses.stored, loses.created, loses.status, loses.handle, loses.resumes, loses.settles⟩⟩

/-- After more than three minutes the running feed is resumed, and nothing that belongs to it is kept. -/
def NotKept (aliased : Bool) : Prop :=
  ∃ w feedRes, run (step (fun _ => true) RelaydConfig.prod (fun _ => mainClient) aliased) {} running = some w ∧
    Loses aliased w feedRes ∧
    ¬ Keeps (fun _ => true) RelaydConfig.prod (fun _ => mainClient) aliased w 0 200000 feedConfigPriceBtcUsd feedRes

/-- It is so whether or not the tables' objects are changed in place. -/
theorem running_not_kept : NotKept true ∧ NotKept false := by
  have either : ∀ aliased, NotKept aliased := by
    intro aliased
    have loses : (run (step (fun _ => true) RelaydConfig.prod (fun _ => mainClient) aliased) {} running).any (fun w =>
        (w.feedHandler.stored feedConfigPriceBtcUsd.id).any fun feedRes => decide (Loses aliased w feedRes)) = true := by
      cases aliased <;> decide +kernel
    obtain ⟨w, reached, loses⟩ := (Option.any_eq_true _ _).1 loses
    obtain ⟨feedRes, -, loses⟩ := (Option.any_eq_true _ _).1 loses
    have loses := of_decide_eq_true loses
    refine ⟨w, feedRes, reached, loses, ?_⟩
    intro keeps
    have declines := keeps.declined loses.status (by rw [loses.handle]; exact List.cons_ne_nil _ _)
    have resumes := loses.resumes
    simp only [RelayActionResult.declines, RelayActionResult.resumes, Bool.and_eq_true, decide_eq_true_eq] at declines resumes
    cases declines.1.symm.trans resumes.1
  exact ⟨either true, either false⟩

end World

end Relayd
