import Relayd.Common.Config
import Relayd.Common.Source

/-!
# Registrations of pollers

`reviewSourceHandling`: how a change announced on `SOURCE_POLLING` updates the
handle list of a source. The two allowance flags work the wrong way round: the
review throws when a flag is set and lets the registration pass, with a warning,
when it is not.
-/

namespace Relayd.EthClient
set_option autoImplicit false
open Relayd.Common

/-- The polling types under which an instance is registered. -/
def polledBy (issuer : String) (sourceHandle : List FeedSourceHandle) : List EFeedSourcePoll :=
  (sourceHandle.filter fun handle => handle.handler == issuer).map FeedSourceHandle.type

/-- An `ADD` change. A second registration of `pollingType` fails with `redeclared`. -/
def registerPolling (config : RelaydConfig) (sourceHandle : List FeedSourceHandle) (sourcePolling : SourcePollingInfo)
    (now : String) (pollingType otherType : EFeedSourcePoll) (redeclared : String) :
    Except String (List FeedSourceHandle) :=
  let issuer := sourcePolling.issuer
  let alreadyPolledByIssuer := polledBy issuer sourceHandle
  if alreadyPolledByIssuer.contains pollingType ∧ config.sourcePollingAllowMultipleBySameIssuer then
    .error redeclared
  else if alreadyPolledByIssuer.contains otherType ∧ config.sourcePollingAllowMultipleTypeBySameIssuer then
    .error ("Same handler '" ++ issuer ++ "' proceeds to both periodic and event-based polling of '"
      ++ sourcePolling.source ++ "'")
  else
    .ok ({ handler := issuer, type := pollingType, time := now } :: sourceHandle)

/-- A `REMOVE` change. -/
def unregisterPolling (sourceHandle : List FeedSourceHandle) (sourcePolling : SourcePollingInfo)
    (pollingType : EFeedSourcePoll) (kind : String) : Except String (List FeedSourceHandle) :=
  let issuer := sourcePolling.issuer
  if (polledBy issuer sourceHandle).contains pollingType then
    .ok (sourceHandle.filter fun element => !(element.handler == issuer && element.type == pollingType))
  else
    .error ("Unexpected removal of " ++ kind ++ " polling of '" ++ sourcePolling.source ++ "' for the non-registered '"
      ++ issuer ++ "' - Ignoring handle removal")

/-- Review a source's handles against a polling change. -/
def reviewSourceHandling (config : RelaydConfig) (actual : Option (List FeedSourceHandle))
    (sourcePolling : SourcePollingInfo) (now : String) : Except String (List FeedSourceHandle) :=
  let issuer := sourcePolling.issuer
  let source := sourcePolling.source
  let sourceHandle := actual.getD []
  match sourcePolling.change with
  | .ADD_LISTEN_EVENT => registerPolling config sourceHandle sourcePolling now .EVENT .TIMEPERIOD
      ("Unexpected re-declaration of an event-based polling of '" ++ source ++ "' by the already handling '" ++ issuer ++ "'")
  | .ADD_PERIODIC => registerPolling config sourceHandle sourcePolling now .TIMEPERIOD .EVENT
      ("Unexpected re-declaration of a periodic polling of '" ++ source ++ "' by the already registered '" ++ issuer ++ "'")
  | .REMOVE_LISTEN_EVENT => unregisterPolling sourceHandle sourcePolling .EVENT "an event-based"
  | .REMOVE_PERIODIC => unregisterPolling sourceHandle sourcePolling .TIMEPERIOD "a periodic"
  | .unknown change => .error ("Unknow Source Polling Change '" ++ change ++ "' for '" ++ source ++ "'. Not supported")

/-! ## What the review depends on -/

/-- Who polls, and how. -/
abbrev Entry := String × EFeedSourcePoll

/-- The registration that an element of the handle list stands for. -/
def entry (handle : FeedSourceHandle) : Entry := (handle.handler, handle.type)

/-- The registrations of a source. -/
def entries (handle : Option (List FeedSourceHandle)) : List Entry := (handle.getD []).map entry

theorem polledBy_entries {issuer : String} {a b : List FeedSourceHandle} (same : a.map entry = b.map entry) :
    polledBy issuer a = polledBy issuer b := by
  have viaEntries : ∀ handles : List FeedSourceHandle,
      polledBy issuer handles = ((handles.map entry).filter fun e => e.1 == issuer).map Prod.snd := by
    intro handles
    simp only [polledBy, List.filter_map, List.map_map]
    rfl
  rw [viaEntries, viaEntries, same]

theorem registerPolling_entries {config : RelaydConfig} {a b : List FeedSourceHandle} (same : a.map entry = b.map entry)
    (info : SourcePollingInfo) (now now' : String) (pollingType otherType : EFeedSourcePoll) (redeclared : String) :
    (registerPolling config a info now pollingType otherType redeclared).map (List.map entry) =
      (registerPolling config b info now' pollingType otherType redeclared).map (List.map entry) := by
  simp only [registerPolling, polledBy_entries same]
  split
  · rfl
  · split
    · rfl
    · simp only [Except.map, List.map_cons, entry] at same ⊢
      rw [same]

theorem unregisterPolling_entries {a b : List FeedSourceHandle} (same : a.map entry = b.map entry)
    (info : SourcePollingInfo) (pollingType : EFeedSourcePoll) (kind : String) :
    (unregisterPolling a info pollingType kind).map (List.map entry) =
      (unregisterPolling b info pollingType kind).map (List.map entry) := by
  have viaEntries : ∀ handles : List FeedSourceHandle,
      (handles.filter fun element => !(element.handler == info.issuer && element.type == pollingType)).map entry =
        (handles.map entry).filter fun e => !(e.1 == info.issuer && e.2 == pollingType) := by
    intro handles
    rw [List.filter_map]
    rfl
  simp only [unregisterPolling, polledBy_entries same]
  split
  · simp only [Except.map, viaEntries, same]
  · rfl

/-- **The review looks at the registrations only**: neither their times nor its own clock decide
whether a change is accepted, or which registrations it leaves. -/
theorem review_entries (config : RelaydConfig) {a b : Option (List FeedSourceHandle)} (same : entries a = entries b)
    (info : SourcePollingInfo) (now now' : String) :
    (reviewSourceHandling config a info now).map (List.map entry) =
      (reviewSourceHandling config b info now').map (List.map entry) := by
  unfold reviewSourceHandling
  cases info.change with
  | ADD_PERIODIC => exact registerPolling_entries same info now now' _ _ _
  | ADD_LISTEN_EVENT => exact registerPolling_entries same info now now' _ _ _
  | REMOVE_PERIODIC => exact unregisterPolling_entries same info _ _
  | REMOVE_LISTEN_EVENT => exact unregisterPolling_entries same info _ _
  | unknown text => rfl

/-- A change accepted on some registrations is accepted on the same ones, with the same outcome. -/
theorem review_agrees {config : RelaydConfig} {a b : Option (List FeedSourceHandle)} (same : entries a = entries b)
    {info : SourcePollingInfo} {now : String} {reviewed : List FeedSourceHandle}
    (accepted : reviewSourceHandling config a info now = .ok reviewed) (now' : String) :
    ∃ reviewed', reviewSourceHandling config b info now' = .ok reviewed' ∧ reviewed'.map entry = reviewed.map entry := by
  have agrees := review_entries config same info now now'
  rw [accepted] at agrees
  cases outcome : reviewSourceHandling config b info now' with
  | error error =>
    rw [outcome] at agrees
    cases agrees
  | ok reviewed' =>
    rw [outcome] at agrees
    exact ⟨reviewed', rfl, (Except.ok.inj agrees).symm⟩

/-- The polling type that a change registers. -/
def added : ESourcePollingChange → Option EFeedSourcePoll
  | .ADD_PERIODIC => some .TIMEPERIOD
  | .ADD_LISTEN_EVENT => some .EVENT
  | _ => none

/-- An accepted change gives the handle list no registration but the one it announces. -/
theorem review_gains {config : RelaydConfig} {actual : Option (List FeedSourceHandle)} {info : SourcePollingInfo}
    {now : String} {handle : List FeedSourceHandle}
    (accepted : reviewSourceHandling config actual info now = .ok handle) {e : Entry} (member : e ∈ handle.map entry) :
    e ∈ entries actual ∨ (e.1 = info.issuer ∧ (added info.change).isSome = true) := by
  have register : ∀ {type other : EFeedSourcePoll} {text : String},
      registerPolling config (actual.getD []) info now type other text = .ok handle →
        e ∈ entries actual ∨ e.1 = info.issuer := by
    intro type other text registered
    simp only [registerPolling] at registered
    split at registered
    · cases registered
    · split at registered
      · cases registered
      · cases registered
        rcases List.mem_cons.1 member with new | old
        · right
          rw [new]
          rfl
        · exact Or.inl old
  have unregister : ∀ {type : EFeedSourcePoll} {kind : String},
      unregisterPolling (actual.getD []) info type kind = .ok handle → e ∈ entries actual := by
    intro type kind unregistered
    simp only [unregisterPolling] at unregistered
    split at unregistered
    · cases unregistered
      obtain ⟨element, kept, rfl⟩ := List.mem_map.1 member
      exact List.mem_map.2 ⟨element, (List.mem_filter.1 kept).1, rfl⟩
    · cases unregistered
  unfold reviewSourceHandling at accepted
  cases change : info.change with
  | ADD_PERIODIC =>
    rw [change] at accepted
    exact (register accepted).imp_right fun issuer => ⟨issuer, rfl⟩
  | ADD_LISTEN_EVENT =>
    rw [change] at accepted
    exact (register accepted).imp_right fun issuer => ⟨issuer, rfl⟩
  | REMOVE_PERIODIC =>
    rw [change] at accepted
    exact Or.inl (unregister accepted)
  | REMOVE_LISTEN_EVENT =>
    rw [change] at accepted
    exact Or.inl (unregister accepted)
  | unknown text =>
    rw [change] at accepted
    cases accepted

end Relayd.EthClient
