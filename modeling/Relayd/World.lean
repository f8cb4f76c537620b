import Relayd.EthClient.Healthy
import Relayd.EthClient.Vetted
import Relayd.FeedHandler.Creation

/-!
# The feed handler and the ETH clients

The two services share the topic `SOURCE_CONFIG`: the feed handler writes the
sources of the feeds it casts there and merges what the ETH clients write, the
ETH clients consume what either writes. A submission reaches the feed handler
when the declared constraints accept it, with any status of its source.
-/

namespace Relayd
set_option autoImplicit false
open Relayd.Common Relayd.EthClient Relayd.FeedHandler Sys

structure World (ι : Type) where
  feedHandler : FeedHandlerService := {}
  ethClients : Net ι := {}

namespace World

inductive Action (ι : Type)
  | feed (a : FeedHandler.Action)
  | eth (a : EthClient.Action ι)

/-- `addFeedPrice` passes on what the constraints accept; the casts of other services are those of the
ETH clients. -/
def passes (isDateString : String → Bool) : FeedHandler.Action → Bool
  | .request feedConfig => feedConfig.valid isDateString
  | .castSource _ _ => false
  | _ => true

/-- A submission satisfies the constraints. -/
def Constrained (isDateString : String → Bool) : FeedHandler.Action → Prop
  | .request feedConfig => feedConfig.valid isDateString = true
  | _ => True

theorem Constrained.of_passes {isDateString : String → Bool} {a : FeedHandler.Action}
    (passes : passes isDateString a = true) : Constrained isDateString a := by
  cases a with
  | request feedConfig => exact passes
  | _ => exact True.intro

/-- The sources are submitted by the feed handler. -/
def submits {ι : Type} : EthClient.Action ι → Bool
  | .submit _ _ => true
  | _ => false

section
variable {ι : Type} [DecidableEq ι] (isDateString : String → Bool) (config : RelaydConfig) (clients : ι → Client)
  (aliased : Bool)

/-- One action of either service; the other one sees the records it writes on `SOURCE_CONFIG`. -/
def step (w : World ι) : Action ι → Option (World ι)
  | .feed a =>
    if passes isDateString a then
      (w.feedHandler.step aliased a).map fun feedHandler =>
        { feedHandler := feedHandler, ethClients := { w.ethClients with sourceConfig := feedHandler.sourceConfig } }
    else none
  | .eth a =>
    if submits a then none
    else
      (w.ethClients.step config clients aliased a).map fun net =>
        { feedHandler := { w.feedHandler with sourceConfig := net.sourceConfig }, ethClients := net }

end

/-- A feed that is cast has its source in status `OK` only when its contract was validated for the feed. -/
def Submits {ι : Type} (w : World ι) : Action ι → Prop
  | .feed (.decide n now) => ∀ request ∈ w.feedHandler.requests[n]?,
      ∀ feed ∈ (createFeed now request.feedConfig (request.feedRes.bind w.feedHandler.heap.deref)).1,
        VettedSource w.ethClients.history feed.id feed.source
  | _ => True

instance {ι : Type} (w : World ι) (a : Action ι) : Decidable (w.Submits a) :=
  match a with
  | .feed (.decide ..) => inferInstanceAs (Decidable (∀ request ∈ (_ : Option Request), ∀ feed ∈ (_ : Option FeedConfig),
      VettedSource _ _ _))
  | .feed (.request ..) | .feed (.appendFeed ..) | .feed (.appendSource ..) | .feed (.castSource ..) | .feed (.merge ..) |
    .feed (.table ..) | .eth .. => isTrue True.intro

/-- The services see one topic, and every source in status `OK`, written or waiting to be, is of a
validated contract. -/
structure Sound {ι : Type} (w : World ι) : Prop where
  shared : w.feedHandler.sourceConfig = w.ethClients.sourceConfig
  linked : Linked w.feedHandler
  vetted : Vetted w.ethClients
  waiting : ∀ feedId source, (feedId, source) ∈ w.feedHandler.sourceCasts →
    VettedSource w.ethClients.history feedId source

section
variable {ι : Type} [DecidableEq ι] {isDateString : String → Bool} {config : RelaydConfig} {clients : ι → Client}
  {aliased : Bool} {w w' : World ι}

omit [DecidableEq ι] in
theorem Sound.init : Sound ({} : World ι) where
  shared := rfl
  linked := Linked.init
  vetted := Vetted.init
  waiting := by
    intro feedId source waits
    cases waits

omit [DecidableEq ι] in
/-- An action of the feed handler that writes no source leaves the ETH clients as they are. -/
theorem Sound.unwritten (sound : Sound w) {feedHandler : FeedHandlerService} (linked : Linked feedHandler)
    (same : feedHandler.sourceConfig = w.feedHandler.sourceConfig)
    (waiting : ∀ feedId source, (feedId, source) ∈ feedHandler.sourceCasts → VettedSource w.ethClients.history feedId source) :
    Sound { feedHandler := feedHandler, ethClients := { w.ethClients with sourceConfig := feedHandler.sourceConfig } } := by
  have unchanged : { w.ethClients with sourceConfig := feedHandler.sourceConfig } = w.ethClients := by
    rw [same, sound.shared]
  rw [unchanged]
  exact ⟨same.trans sound.shared, linked, sound.vetted, waiting⟩

omit [DecidableEq ι] in
theorem Sound.feed (sound : Sound w) {a : FeedHandler.Action} {feedHandler : FeedHandlerService}
    (passes : passes isDateString a = true) (submits : w.Submits (.feed a)) (transition : Step w.feedHandler a feedHandler) :
    Sound { feedHandler := feedHandler, ethClients := { w.ethClients with sourceConfig := feedHandler.sourceConfig } } := by
  have linked := sound.linked.step transition
  cases transition with
  | unknown feedConfig absent => exact sound.unwritten linked rfl sound.waiting
  | known feedConfig ref heap feed loaded => exact sound.unwritten linked rfl sound.waiting
  | declined n now request answer position decision => exact sound.unwritten linked rfl sound.waiting
  | accepted n now request feed answer position decision =>
    apply sound.unwritten linked rfl
    intro feedId source waits
    rcases Outbox.mem_send.1 waits with old | new
    · exact sound.waiting feedId source old
    · cases new
      exact submits request position feed (by rw [decision]; rfl)
  | appendFeed n feedId ref feed position object => exact sound.unwritten linked rfl sound.waiting
  | appendSource n feedId source position =>
    have vetted := sound.vetted.append (sound.waiting feedId source (List.mem_of_getElem? position))
    refine ⟨rfl, linked, ?_, fun feedId source waits => sound.waiting feedId source (List.mem_of_mem_eraseIdx waits)⟩
    simp only [sound.shared]
    exact vetted
  | castSource feedId source => cases passes
  | dropped feedId source next absent => exact sound.unwritten linked rfl sound.waiting
  | merged feedId source ref heap feed next loaded => exact sound.unwritten linked rfl sound.waiting
  | tabled feedId feed next => exact sound.unwritten linked rfl sound.waiting

theorem Sound.eth (sound : Sound w) {a : EthClient.Action ι} {net : Net ι} (submits : submits a = false)
    (stepped : w.ethClients.step config clients aliased a = some net) :
    Sound { feedHandler := { w.feedHandler with sourceConfig := net.sourceConfig }, ethClients := net } := by
  have unsubmitted : NotPreapproved w.ethClients a := by
    cases a with
    | submit feedId source => cases submits
    | _ => exact True.intro
  obtain ⟨new, history⟩ := Net.history_grows stepped
  have linked := sound.linked
  refine ⟨rfl, ⟨linked.cast, linked.table, linked.loaded, linked.records, linked.tabled, ?_⟩,
    sound.vetted.step unsubmitted stepped, ?_⟩
  · intro feedId
    obtain ⟨more, grown⟩ := Net.step_grows stepped feedId
    have within := linked.merged feedId
    rw [sound.shared] at within
    simp only [grown, List.length_append]
    omega
  · intro feedId source waits
    rw [history]
    exact (sound.waiting feedId source waits).append

/-- An action is one of the feed handler, or one of the ETH clients that submits nothing. -/
theorem step_cases {a : Action ι} (stepped : w.step isDateString config clients aliased a = some w') :
    (∃ b feedHandler, a = .feed b ∧ passes isDateString b = true ∧ w.feedHandler.step aliased b = some feedHandler ∧
        w' = { feedHandler := feedHandler, ethClients := { w.ethClients with sourceConfig := feedHandler.sourceConfig } }) ∨
      ∃ b net, a = .eth b ∧ submits b = false ∧ w.ethClients.step config clients aliased b = some net ∧
        w' = { feedHandler := { w.feedHandler with sourceConfig := net.sourceConfig }, ethClients := net } := by
  cases a with
  | feed b =>
    simp only [World.step] at stepped
    split at stepped
    case isTrue passes =>
      obtain ⟨feedHandler, next, rfl⟩ := Option.map_eq_some_iff.1 stepped
      exact Or.inl ⟨b, feedHandler, rfl, passes, next, rfl⟩
    case isFalse => cases stepped
  | eth b =>
    simp only [World.step] at stepped
    split at stepped
    case isTrue => cases stepped
    case isFalse other =>
      obtain ⟨net, next, rfl⟩ := Option.map_eq_some_iff.1 stepped
      exact Or.inr ⟨b, net, rfl, Bool.eq_false_iff.2 other, next, rfl⟩

/-- **Every action keeps the world sound**, as long as no unvalidated source is cast in status `OK`. -/
theorem Sound.step {a : Action ι} (sound : Sound w) (submits : w.Submits a)
    (stepped : w.step isDateString config clients aliased a = some w') : Sound w' := by
  rcases step_cases stepped with ⟨b, feedHandler, rfl, passes, next, rfl⟩ | ⟨b, net, rfl, unsubmitted, next, rfl⟩
  · exact sound.feed passes submits (sound.linked.transition next)
  · exact sound.eth unsubmitted next

end

/-- **No source is read before its contract was validated, as long as no feed is cast whose source is in
status `OK` unvalidated.** -/
theorem reads_validated {ι : Type} [DecidableEq ι] (isDateString : String → Bool) (config : RelaydConfig)
    (clients : ι → Client) (aliased : Bool) (as : List (Action ι)) (w : World ι)
    (submits : Along (step isDateString config clients aliased) Submits {} as)
    (reached : run (step isDateString config clients aliased) {} as = some w) : ReadsValidated w.ethClients.history :=
  (invariant (fun _ _ _ => Sound.step) Sound.init submits reached).vetted.readings

/-! ## The feed handler in the world -/

section
variable {ι : Type} [DecidableEq ι] {isDateString : String → Bool} {config : RelaydConfig} {clients : ι → Client}
  {aliased : Bool}

theorem run_castSource (records : List (String × FeedConfigSource)) (s : FeedHandlerService) :
    run (FeedHandlerService.step aliased) s (records.map fun record => .castSource record.1 record.2) =
      some { s with sourceConfig := s.sourceConfig.appendAll records } := by
  induction records generalizing s with
  | nil => rfl
  | cons record records ih =>
    rw [List.map_cons, run_cons]
    exact ⟨_, rfl, ih _⟩

/-- What the ETH clients do is, to the feed handler, that other services cast sources. -/
theorem step_feedHandler {w w' : World ι} {a : Action ι}
    (shared : w.feedHandler.sourceConfig = w.ethClients.sourceConfig)
    (stepped : w.step isDateString config clients aliased a = some w') :
    w'.feedHandler.sourceConfig = w'.ethClients.sourceConfig ∧ ∃ bs, (∀ b ∈ bs, Constrained isDateString b) ∧
      run (FeedHandlerService.step aliased) w.feedHandler bs = some w'.feedHandler := by
  rcases step_cases stepped with ⟨b, feedHandler, rfl, passes, next, rfl⟩ | ⟨b, net, rfl, unsubmitted, next, rfl⟩
  · refine ⟨rfl, [b], ?_, run_cons.2 ⟨feedHandler, next, rfl⟩⟩
    intro b' member
    rw [List.mem_singleton.1 member]
    exact Constrained.of_passes passes
  · obtain ⟨records, appended⟩ := Net.step_appends next
    refine ⟨rfl, _, ?_, (run_castSource records w.feedHandler).trans ?_⟩
    · intro b' member
      obtain ⟨record, -, rfl⟩ := List.mem_map.1 member
      exact True.intro
    · rw [shared, appended]

/-- **The feed handler in the world runs as it does alone**, whatever the ETH clients do, on submissions that
satisfy the constraints. -/
theorem feedHandler_runs {as : List (Action ι)} {w : World ι}
    (reached : run (step isDateString config clients aliased) {} as = some w) :
    ∃ bs, (∀ b ∈ bs, Constrained isDateString b) ∧
      run (FeedHandlerService.step aliased) {} bs = some w.feedHandler := by
  have each : ∀ (w : World ι) (a : Action ι) w',
      (w.feedHandler.sourceConfig = w.ethClients.sourceConfig ∧ ∃ bs, (∀ b ∈ bs, Constrained isDateString b) ∧
        run (FeedHandlerService.step aliased) {} bs = some w.feedHandler) → True →
      w.step isDateString config clients aliased a = some w' →
      w'.feedHandler.sourceConfig = w'.ethClients.sourceConfig ∧ ∃ bs, (∀ b ∈ bs, Constrained isDateString b) ∧
        run (FeedHandlerService.step aliased) {} bs = some w'.feedHandler := by
    rintro w a w' ⟨shared, bs, constrained, before⟩ - stepped
    obtain ⟨shared', bs', constrained', during⟩ := step_feedHandler shared stepped
    refine ⟨shared', bs ++ bs', List.forall_mem_append.2 ⟨constrained, constrained'⟩, ?_⟩
    rw [run_append, before]
    exact during
  exact (invariant each ⟨rfl, [], by simp, rfl⟩ Along.trivial reached).2

/-- What the feed handler does by itself it does in the world. -/
theorem run_feed {bs : List FeedHandler.Action} (passing : ∀ b ∈ bs, passes isDateString b = true) {w : World ι}
    {s : FeedHandlerService} (ran : run (FeedHandlerService.step aliased) w.feedHandler bs = some s) :
    ∃ w', run (step isDateString config clients aliased) w (bs.map .feed) = some w' ∧ w'.feedHandler = s := by
  induction bs generalizing w with
  | nil =>
    cases ran
    exact ⟨w, rfl, rfl⟩
  | cons b bs ih =>
    obtain ⟨s₁, first, rest⟩ := run_cons.1 ran
    obtain ⟨here, later⟩ := List.forall_mem_cons.1 passing
    let w₁ : World ι := { feedHandler := s₁, ethClients := { w.ethClients with sourceConfig := s₁.sourceConfig } }
    obtain ⟨w', ran', same⟩ := ih later (w := w₁) rest
    refine ⟨w', ?_, same⟩
    rw [List.map_cons, run_cons]
    refine ⟨w₁, ?_, ran'⟩
    simp only [step, here, ↓reduceIte, first, Option.map_some]
    rfl

end

/-! ## A submission in status `OK` -/

/-- The sample of the tests, with its source declared ready. -/
def preapproved : FeedConfig :=
  { feedConfigPriceBtcUsd with source := { feedConfigPriceBtcUsd.source with status := some .OK } }

/-- A feed is submitted and cast, and an ETH client consumes its source. -/
def relaying (feedConfig : FeedConfig) : List (Action Unit) :=
  [.feed (.request feedConfig), .feed (.decide 0 0), .feed (.appendSource 0), .eth (.consume () healthyEnv feedConfig.id)]

theorem relaying_validated :
    ∃ w, run (step (fun _ => true) RelaydConfig.prod (fun _ => mainClient) false) {}
        (relaying feedConfigPriceBtcUsd ++ [.eth (.consume () healthyEnv feedConfigPriceBtcUsd.id)]) = some w ∧
      ReadsValidated w.ethClients.history := by
  have possible : (run (step (fun _ => true) RelaydConfig.prod (fun _ => mainClient) false) {}
      (relaying feedConfigPriceBtcUsd ++ [.eth (.consume () healthyEnv feedConfigPriceBtcUsd.id)])).isSome = true := by
    decide +kernel
  obtain ⟨w, reached⟩ := Option.isSome_iff_exists.1 possible
  exact ⟨w, reached, reads_validated (fun _ => true) RelaydConfig.prod (fun _ => mainClient) false _ w (by decide +kernel)
    reached⟩

/-- The constraints accept the submission, and its source is read unvalidated. -/
theorem preapproved_unvalidated :
    (∀ isDateString, preapproved.valid isDateString = true) ∧ ∀ aliased : Bool,
      ∃ w, run (step (fun _ => true) RelaydConfig.prod (fun _ => mainClient) aliased) {} (relaying preapproved) = some w ∧
        ¬ ReadsValidated w.ethClients.history := by
  refine ⟨fun isDateString => feedConfigPriceBtcUsd_valid isDateString, ?_⟩
  intro aliased
  have unvalidated : (run (step (fun _ => true) RelaydConfig.prod (fun _ => mainClient) aliased) {} (relaying preapproved)).any
      (fun w => decide ((mainClient.serviceId, Event.reading preapproved.id proxyAddress) ∈ w.ethClients.history ∧
        ¬ ValidatedIn w.ethClients.history preapproved.id proxyAddress)) = true := by
    cases aliased <;> decide +kernel
  obtain ⟨w, reached, unvalidated⟩ := (Option.any_eq_true _ _).1 unvalidated
  obtain ⟨read, notValidated⟩ := of_decide_eq_true unvalidated
  exact ⟨w, reached, fun readsValidated => notValidated (readsValidated.validated read)⟩

end World

end Relayd
