import Relayd.Common.Feed
import Relayd.Lib.Heap
import Relayd.Lib.Outbox
import Relayd.Lib.Topic

/-!
# The feed handler

`FeedHandlerService`: the creation of feeds, the table of `FEED_CONFIG` and the
stream that merges source updates into the feeds of that table. The table gives
out the objects it holds, and a cast writes its object as it is when the record
is appended; so both are references into the heap of the process.
-/

namespace Relayd.FeedHandler
set_option autoImplicit false
open Relayd.Common Sys

inductive HttpStatus
  | OK
  | NOT_ACCEPTABLE
  deriving DecidableEq

/-- The answer to a request. -/
structure RelayActionResult where
  status : HttpStatus
  message : String
  data : Option FeedConfig := none
  deriving DecidableEq

/-- A request for the creation of a feed, with what it loaded from the table. -/
structure Request where
  feedConfig : FeedConfig
  feedRes : Option Nat

structure FeedHandlerService where
  heap : Heap FeedConfig := []
  feedConfigTable : String → Option Nat := fun _ => none
  feedConfig : Topic String FeedConfig := fun _ => []
  sourceConfig : Topic String FeedConfigSource := fun _ => []
  /-- The casts on `FEED_CONFIG` that are not appended yet -/
  feedCasts : Outbox String Nat := []
  /-- The casts on `SOURCE_CONFIG` that are not appended yet -/
  sourceCasts : Outbox String FeedConfigSource := []
  /-- What the table has consumed -/
  tabled : Cursor String := fun _ => 0
  /-- What the merge stream has consumed -/
  merged : Cursor String := fun _ => 0
  /-- The requests that wait for the table's answer -/
  requests : List Request := []
  answers : List (String × RelayActionResult) := []

namespace FeedHandlerService

/-- The feed that the table holds for an id. -/
def stored (s : FeedHandlerService) (feedId : String) : Option FeedConfig :=
  (s.feedConfigTable feedId).bind s.heap.deref

/-- `loadFeedFromTable`. With `aliased`, the table's storage gives out its objects; else it gives out copies. -/
def loadFeedFromTable (aliased : Bool) (s : FeedHandlerService) (keyId : String) : Option Nat × FeedHandlerService :=
  match s.feedConfigTable keyId with
  | none => (none, s)
  | some ref =>
    if aliased then (some ref, s)
    else
      match s.heap.deref ref with
      | none => (none, s)
      | some feedConfig => (some s.heap.length, { s with heap := s.heap.alloc feedConfig })

/-- Cast a feed update, and its source on the topic of its own when `castSourceConfig` is set. -/
def castFeedConfig (s : FeedHandlerService) (ref : Nat) (castSourceConfig : Bool) : FeedHandlerService :=
  match s.heap.deref ref with
  | none => s
  | some feedConfig => { s with
      feedCasts := s.feedCasts.send feedConfig.id ref
      sourceCasts := if castSourceConfig then s.sourceCasts.send feedConfig.id feedConfig.source else s.sourceCasts }

/-- Merge a source update into its feed. Without a feed in the table, the record goes to `ERROR_FEED`. -/
def mergeSourceToFeedConfig (aliased : Bool) (s : FeedHandlerService) (feedId : String)
    (sourceConfig : FeedConfigSource) :
    FeedHandlerService :=
  match loadFeedFromTable aliased s feedId with
  | (none, s) => s
  | (some ref, s) =>
    match s.heap.deref ref with
    | none => s
    | some feedConfig =>
      castFeedConfig { s with heap := s.heap.write ref { feedConfig with source := sourceConfig } } ref false

end FeedHandlerService

/-- A feed that may be resumed: not updated for three minutes, with its source or its target not ready. -/
def halted (now : IsoDate) (feedRes : FeedConfig) : Bool :=
  (feedRes.dateUpdated.any fun dateUpdated => decide (now - dateUpdated > 3 * 60 * 1000)) &&
    (feedRes.source.status != some .OK || (feedRes.target.bind FeedConfigTarget.status) != some .OK)

/-- `createFeed`, once the table has answered: the feed to cast, if any, and the answer, which is given
when the casts went through. -/
def createFeed (now : IsoDate) (feedConfig : FeedConfig) (feedRes : Option FeedConfig) :
    Option FeedConfig × RelayActionResult :=
  match feedRes with
  | none =>
    let feedConfig := { feedConfig with dateCreated := some now, dateUpdated := some now }
    (some feedConfig, { status := .OK, message := "Initiating Feed " ++ feedConfig.id, data := some feedConfig })
  | some feedRes =>
    if halted now feedRes then
      let feedConfig := { feedConfig with dateUpdated := some now }
      (some feedConfig, { status := .OK, message := "Resuming halted Feed " ++ feedConfig.id, data := some feedConfig })
    else
      (none, { status := .NOT_ACCEPTABLE
               message := "A running Feed with the same ID already exists. Feed creation declined." })

inductive Action
  /-- A feed is submitted, and its id looked up in the table. -/
  | request (feedConfig : FeedConfig)
  /-- The `n`th waiting request goes on with what it loaded. -/
  | decide (n : Nat) (now : IsoDate)
  /-- The `n`th waiting cast on `FEED_CONFIG` is appended. -/
  | appendFeed (n : Nat)
  /-- The `n`th waiting cast on `SOURCE_CONFIG` is appended. -/
  | appendSource (n : Nat)
  /-- Another service casts a source update. -/
  | castSource (feedId : String) (source : FeedConfigSource)
  /-- The merge stream consumes the next source record of a feed. -/
  | merge (feedId : String)
  /-- The table consumes the next record of a feed. -/
  | table (feedId : String)

namespace FeedHandlerService

/-- One action. -/
def step (aliased : Bool) (s : FeedHandlerService) : Action → Option FeedHandlerService
  | .request feedConfig =>
    let (feedRes, s) := loadFeedFromTable aliased s feedConfig.id
    some { s with requests := s.requests ++ [{ feedConfig := feedConfig, feedRes := feedRes }] }
  | .decide n now =>
    s.requests[n]?.map fun request =>
      let (cast, answer) := createFeed now request.feedConfig (request.feedRes.bind s.heap.deref)
      let s := { s with
        requests := s.requests.eraseIdx n
        answers := s.answers ++ [(request.feedConfig.id, answer)] }
      match cast with
      | none => s
      | some feedConfig => castFeedConfig { s with heap := s.heap.alloc feedConfig } s.heap.length true
  | .appendFeed n =>
    s.feedCasts[n]?.bind fun cast =>
      (s.heap.deref cast.2).map fun feedConfig =>
        { s with feedCasts := s.feedCasts.eraseIdx n, feedConfig := s.feedConfig.append cast.1 feedConfig }
  | .appendSource n =>
    s.sourceCasts[n]?.map fun cast =>
      { s with sourceCasts := s.sourceCasts.eraseIdx n, sourceConfig := s.sourceConfig.append cast.1 cast.2 }
  | .castSource feedId source => some { s with sourceConfig := s.sourceConfig.append feedId source }
  | .merge feedId =>
    (s.sourceConfig.next s.merged feedId).map fun sourceConfig =>
      mergeSourceToFeedConfig aliased { s with merged := s.merged.advance feedId } feedId sourceConfig
  | .table feedId =>
    (s.feedConfig.next s.tabled feedId).map fun feedConfig =>
      { s with
        tabled := s.tabled.advance feedId
        heap := s.heap.alloc feedConfig
        feedConfigTable := Function.update s.feedConfigTable feedConfig.id (some s.heap.length) }

/-- No record and no cast of the feed is in flight. -/
def Settled (s : FeedHandlerService) (feedId : String) : Prop :=
  s.feedCasts.waiting feedId = [] ∧ s.sourceCasts.waiting feedId = [] ∧
    CaughtUp s.feedConfig s.tabled feedId ∧ CaughtUp s.sourceConfig s.merged feedId

instance (s : FeedHandlerService) (feedId : String) : Decidable (s.Settled feedId) :=
  inferInstanceAs (Decidable (_ ∧ _ ∧ _ ∧ _))

end FeedHandlerService

end Relayd.FeedHandler
