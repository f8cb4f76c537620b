import Relayd.EthClient.Handling
import Relayd.Lib.Interleaving

/-!
# A sequence of registrations

`reviewSourceHandling` folded over polling changes, a rejected one leaving the
handle list as it is. A review reads and changes the elements of its issuer
only, so the list is what each issuer's accepted changes say, whatever the order
between issuers.
-/

namespace Relayd.EthClient
set_option autoImplicit false
open Relayd.Common Sys

/-- The polling type that a change is about. -/
def pollingType : ESourcePollingChange → Option EFeedSourcePoll
  | .ADD_PERIODIC | .REMOVE_PERIODIC => some .TIMEPERIOD
  | .ADD_LISTEN_EVENT | .REMOVE_LISTEN_EVENT => some .EVENT
  | .unknown _ => none

/-- The other polling type. -/
def otherType : EFeedSourcePoll → EFeedSourcePoll
  | .EVENT => .TIMEPERIOD
  | .TIMEPERIOD => .EVENT

/-- A polling change with the time of its review. -/
abbrev PollingRecord := SourcePollingInfo × String

section
variable (config : RelaydConfig)

/-- The handle list after a review; a rejected change leaves it. -/
def reviewStep (handle : Option (List FeedSourceHandle)) (record : PollingRecord) : Option (List FeedSourceHandle) :=
  match reviewSourceHandling config handle record.1 record.2 with
  | .ok reviewed => some reviewed
  | .error _ => handle

/-- The review accepts the change. -/
def accepts (handle : Option (List FeedSourceHandle)) (record : PollingRecord) : Bool :=
  match reviewSourceHandling config handle record.1 record.2 with
  | .ok _ => true
  | .error _ => false

/-- The handle list of a source without handles, after the reviews of the changes. -/
def reviewAll (records : List PollingRecord) : Option (List FeedSourceHandle) := records.foldl (reviewStep config) none

/-- Each change, and whether its review accepted it. -/
def reviewed (handle : Option (List FeedSourceHandle)) (records : List PollingRecord) : List (PollingRecord × Bool) :=
  outcomes (reviewStep config) (accepts config) handle records

end

/-- The accepted changes of an issuer for a polling type, in their order. -/
def acceptedBy (e : Entry) (reviewed : List (PollingRecord × Bool)) : List SourcePollingInfo :=
  (reviewed.filter fun o => o.2 && decide (o.1.1.issuer = e.1 ∧ pollingType o.1.1.change = some e.2)).map fun o => o.1.1

/-! ## One review -/

/-- What an accepted change does to the list: it puts its element in front of it, or takes the elements of
its issuer and type out. -/
inductive Reviewed (handles : List FeedSourceHandle) (info : SourcePollingInfo) (now : String) :
    List FeedSourceHandle → Prop
  | registered (type : EFeedSourcePoll) (adds : added info.change = some type) :
    Reviewed handles info now ({ handler := info.issuer, type := type, time := now } :: handles)
  | unregistered (type : EFeedSourcePoll) (removes : added info.change = none) (about : pollingType info.change = some type)
    (listed : (info.issuer, type) ∈ handles.map entry) :
    Reviewed handles info now (handles.filter fun element => entry element ≠ (info.issuer, type))

theorem pollingType_of_added {change : ESourcePollingChange} {type : EFeedSourcePoll} (adds : added change = some type) :
    pollingType change = some type := by
  cases change <;> cases adds <;> rfl

theorem mem_polledBy {issuer : String} {type : EFeedSourcePoll} {handles : List FeedSourceHandle} :
    type ∈ polledBy issuer handles ↔ (issuer, type) ∈ handles.map entry := by
  simp only [polledBy, List.mem_map, List.mem_filter, beq_iff_eq, entry, Prod.mk.injEq]
  constructor
  · rintro ⟨element, ⟨member, rfl⟩, rfl⟩
    exact ⟨element, member, rfl, rfl⟩
  · rintro ⟨element, member, rfl, rfl⟩
    exact ⟨element, ⟨member, rfl⟩, rfl⟩

theorem count_entries (e : Entry) (handles : List FeedSourceHandle) :
    (handles.map entry).count e = (polledBy e.1 handles).count e.2 := by
  induction handles with
  | nil => rfl
  | cons element handles ih =>
    by_cases own : element.handler = e.1
    · simp [polledBy, entry, own, List.count_cons, Prod.ext_iff] at ih ⊢
      omega
    · simpa [polledBy, entry, own, List.count_cons, Prod.ext_iff] using ih

/-- What the issuer itself polls decides about its change, and this is what it then polls. -/
def ownReview (config : RelaydConfig) (polls : List EFeedSourcePoll) (change : ESourcePollingChange) :
    Option (List EFeedSourcePoll) :=
  match added change, pollingType change with
  | some type, _ =>
    if type ∈ polls ∧ config.sourcePollingAllowMultipleBySameIssuer ∨
        otherType type ∈ polls ∧ config.sourcePollingAllowMultipleTypeBySameIssuer then none
    else some (type :: polls)
  | none, some type => if type ∈ polls then some (polls.filter (· ≠ type)) else none
  | none, none => none

section
variable (config : RelaydConfig) (handles : List FeedSourceHandle) (info : SourcePollingInfo) (now : String)

theorem registerPolling_own (type : EFeedSourcePoll) (redeclared : String) :
    (∃ error, registerPolling config handles info now type (otherType type) redeclared = .error error ∧
        (type ∈ polledBy info.issuer handles ∧ config.sourcePollingAllowMultipleBySameIssuer ∨
          otherType type ∈ polledBy info.issuer handles ∧ config.sourcePollingAllowMultipleTypeBySameIssuer)) ∨
      (registerPolling config handles info now type (otherType type) redeclared =
          .ok ({ handler := info.issuer, type := type, time := now } :: handles) ∧
        ¬ (type ∈ polledBy info.issuer handles ∧ config.sourcePollingAllowMultipleBySameIssuer ∨
          otherType type ∈ polledBy info.issuer handles ∧ config.sourcePollingAllowMultipleTypeBySameIssuer)) := by
  simp only [registerPolling, List.contains_iff_mem]
  split
  case isTrue same => exact Or.inl ⟨_, rfl, Or.inl same⟩
  case isFalse notSame =>
    split
    case isTrue other => exact Or.inl ⟨_, rfl, Or.inr other⟩
    case isFalse notOther => exact Or.inr ⟨rfl, fun either => either.elim notSame notOther⟩

theorem unregisterPolling_own (type : EFeedSourcePoll) (kind : String) :
    (∃ error, unregisterPolling handles info type kind = .error error ∧ type ∉ polledBy info.issuer handles) ∨
      (unregisterPolling handles info type kind = .ok (handles.filter fun element => entry element ≠ (info.issuer, type)) ∧
        type ∈ polledBy info.issuer handles) := by
  have others : (fun element : FeedSourceHandle => !(element.handler == info.issuer && element.type == type)) =
      fun element => decide (entry element ≠ (info.issuer, type)) := by
    funext element
    by_cases own : element.handler = info.issuer <;> by_cases same : element.type = type <;> simp [entry, own, same]
  simp only [unregisterPolling, List.contains_iff_mem, others]
  split
  case isTrue listed => exact Or.inr ⟨rfl, listed⟩
  case isFalse unlisted => exact Or.inl ⟨_, rfl, unlisted⟩

end

theorem polledBy_cons_same (issuer : String) (type : EFeedSourcePoll) (time : String) (handles : List FeedSourceHandle) :
    polledBy issuer ({ handler := issuer, type := type, time := time } :: handles) = type :: polledBy issuer handles := by
  simp [polledBy]

theorem polledBy_filter_same (issuer : String) (type : EFeedSourcePoll) (handles : List FeedSourceHandle) :
    polledBy issuer (handles.filter fun element => entry element ≠ (issuer, type)) =
      (polledBy issuer handles).filter (· ≠ type) := by
  simp only [polledBy, List.filter_map, List.filter_filter]
  congr 1
  apply List.filter_congr
  intro element _
  by_cases own : element.handler = issuer <;> simp [entry, own]

/-- **A review is that of the issuer's own polls**: they decide whether the change is accepted, and what
becomes of them. -/
theorem review_cases (config : RelaydConfig) (actual : Option (List FeedSourceHandle)) (info : SourcePollingInfo)
    (now : String) :
    (∃ error, reviewSourceHandling config actual info now = .error error ∧
        ownReview config (polledBy info.issuer (actual.getD [])) info.change = none) ∨
      ∃ handles, reviewSourceHandling config actual info now = .ok handles ∧
        Reviewed (actual.getD []) info now handles ∧
        ownReview config (polledBy info.issuer (actual.getD [])) info.change = some (polledBy info.issuer handles) := by
  have register : ∀ type redeclared, added info.change = some type →
      (∃ error, registerPolling config (actual.getD []) info now type (otherType type) redeclared = .error error ∧
        ownReview config (polledBy info.issuer (actual.getD [])) info.change = none) ∨
      ∃ handles, registerPolling config (actual.getD []) info now type (otherType type) redeclared = .ok handles ∧
        Reviewed (actual.getD []) info now handles ∧
        ownReview config (polledBy info.issuer (actual.getD [])) info.change = some (polledBy info.issuer handles) := by
    intro type redeclared adds
    rcases registerPolling_own config (actual.getD []) info now type redeclared with
      ⟨error, failed, refuses⟩ | ⟨done, admits⟩
    · exact Or.inl ⟨error, failed, by simp only [ownReview, adds, refuses, ↓reduceIte]⟩
    · refine Or.inr ⟨_, done, .registered type adds, ?_⟩
      simp only [ownReview, adds, admits, ↓reduceIte, polledBy_cons_same]
  have unregister : ∀ type kind, added info.change = none → pollingType info.change = some type →
      (∃ error, unregisterPolling (actual.getD []) info type kind = .error error ∧
        ownReview config (polledBy info.issuer (actual.getD [])) info.change = none) ∨
      ∃ handles, unregisterPolling (actual.getD []) info type kind = .ok handles ∧
        Reviewed (actual.getD []) info now handles ∧
        ownReview config (polledBy info.issuer (actual.getD [])) info.change = some (polledBy info.issuer handles) := by
    intro type kind removes about
    rcases unregisterPolling_own (actual.getD []) info type kind with
      ⟨error, failed, unlisted⟩ | ⟨done, listed⟩
    · exact Or.inl ⟨error, failed, by simp only [ownReview, removes, about, unlisted, ↓reduceIte]⟩
    · refine Or.inr ⟨_, done, .unregistered type removes about (mem_polledBy.1 listed), ?_⟩
      simp only [ownReview, removes, about, listed, ↓reduceIte, polledBy_filter_same]
  unfold reviewSourceHandling
  cases change : info.change with
  | ADD_PERIODIC =>
    have outcome := register .TIMEPERIOD
    rw [change] at outcome
    exact outcome _ rfl
  | ADD_LISTEN_EVENT =>
    have outcome := register .EVENT
    rw [change] at outcome
    exact outcome _ rfl
  | REMOVE_PERIODIC =>
    have outcome := unregister .TIMEPERIOD
    rw [change] at outcome
    exact outcome _ rfl rfl
  | REMOVE_LISTEN_EVENT =>
    have outcome := unregister .EVENT
    rw [change] at outcome
    exact outcome _ rfl rfl
  | unknown text => exact Or.inl ⟨_, rfl, rfl⟩

section
variable {handles reviewed : List FeedSourceHandle} {info : SourcePollingInfo} {now : String}

/-- An accepted change is about a polling type, and touches no element but those of its issuer and that type. -/
theorem Reviewed.others (done : Reviewed handles info now reviewed) :
    ∃ type, pollingType info.change = some type ∧
      reviewed.filter (fun element => entry element ≠ (info.issuer, type)) =
        handles.filter fun element => entry element ≠ (info.issuer, type) := by
  cases done with
  | registered type adds =>
    refine ⟨type, pollingType_of_added adds, ?_⟩
    rw [List.filter_cons_of_neg (by simp [entry])]
  | unregistered type removes about listed =>
    refine ⟨type, about, ?_⟩
    rw [List.filter_filter]
    simp only [Bool.and_self]

/-- An accepted change changes the list. -/
theorem Reviewed.ne (done : Reviewed handles info now reviewed) : reviewed ≠ handles := by
  cases done with
  | registered type adds => exact List.cons_ne_self _ _
  | unregistered type removes about listed =>
    intro same
    obtain ⟨element, member, own⟩ := List.mem_map.1 listed
    exact of_decide_eq_true (List.filter_eq_self.1 same element member) own

/-- An accepted change leaves what other issuers poll. -/
theorem Reviewed.polledBy_other (done : Reviewed handles info now reviewed) {issuer : String} (other : issuer ≠ info.issuer) :
    polledBy issuer reviewed = polledBy issuer handles := by
  cases done with
  | registered type adds =>
    rw [polledBy, List.filter_cons_of_neg (by simpa using other.symm), polledBy]
  | unregistered type removes about listed =>
    rw [polledBy, List.filter_filter, polledBy]
    congr 1
    apply List.filter_congr
    intro element _
    by_cases own : element.handler = issuer
    · simp [own, entry, other]
    · simp [own]

/-- After an accepted change the registration it is about is listed exactly when it was added. -/
theorem Reviewed.listed_iff (done : Reviewed handles info now reviewed) (e : Entry) :
    e ∈ reviewed.map entry ↔
      if info.issuer = e.1 ∧ pollingType info.change = some e.2 then added info.change = some e.2 else e ∈ handles.map entry := by
  obtain ⟨issuer, type'⟩ := e
  cases done with
  | registered type adds =>
    simp only [List.map_cons, List.mem_cons, entry, Prod.mk.injEq, pollingType_of_added adds, adds, Option.some.injEq]
    by_cases own : info.issuer = issuer ∧ type = type'
    · simp [own.1, own.2]
    · simp only [own, ↓reduceIte]
      constructor
      · rintro (⟨rfl, rfl⟩ | old)
        · exact absurd ⟨rfl, rfl⟩ own
        · exact old
      · exact Or.inr
  | unregistered type removes about listed =>
    simp only [List.mem_map, List.mem_filter, decide_eq_true_eq, about, removes, Option.some.injEq]
    by_cases own : info.issuer = issuer ∧ type = type'
    · obtain ⟨rfl, rfl⟩ := own
      simp only [and_self, ↓reduceIte, reduceCtorEq, iff_false]
      rintro ⟨element, ⟨-, kept⟩, same⟩
      exact kept same
    · simp only [own, ↓reduceIte]
      constructor
      · rintro ⟨element, ⟨member, -⟩, same⟩
        exact ⟨element, member, same⟩
      · rintro ⟨element, member, same⟩
        refine ⟨element, ⟨member, ?_⟩, same⟩
        rw [same]
        rintro ⟨rfl, rfl⟩
        exact own ⟨rfl, rfl⟩

end

/-! ## A sequence of reviews -/

section
variable (config : RelaydConfig)

/-- A rejected change leaves the list, an accepted one does what it announces. -/
theorem reviewStep_cases (handle : Option (List FeedSourceHandle)) (record : PollingRecord) :
    (accepts config handle record = false ∧ reviewStep config handle record = handle) ∨
      ∃ handles, accepts config handle record = true ∧ reviewStep config handle record = some handles ∧
        Reviewed (handle.getD []) record.1 record.2 handles := by
  rcases review_cases config handle record.1 record.2 with ⟨error, failed, -⟩ | ⟨handles, done, reviewed, -⟩
  · exact Or.inl ⟨by simp only [accepts, failed], by simp only [reviewStep, failed]⟩
  · exact Or.inr ⟨handles, by simp only [accepts, done], by simp only [reviewStep, done], reviewed⟩

/-- Whether a change is accepted depends on what its issuer polls. -/
theorem accepts_own (handle : Option (List FeedSourceHandle)) (record : PollingRecord) :
    accepts config handle record = (ownReview config (polledBy record.1.issuer (handle.getD [])) record.1.change).isSome := by
  rcases review_cases config handle record.1 record.2 with ⟨error, failed, own⟩ | ⟨handles, done, -, own⟩
  · simp only [accepts, failed, own, Option.isSome_none]
  · simp only [accepts, done, own, Option.isSome_some]

/-- What an issuer polls after a review of one of its changes. -/
def ownNext (polls : List EFeedSourcePoll) (info : SourcePollingInfo) : List EFeedSourcePoll :=
  (ownReview config polls info.change).getD polls

/-- **A review works on the polls of its issuer.** -/
theorem reviewStep_local : Local (fun record : PollingRecord => record.1.issuer) (reviewStep config)
    (fun issuer handle => polledBy issuer (handle.getD [])) (fun polls record => ownNext config polls record.1) where
  own := by
    intro handle record
    rcases review_cases config handle record.1 record.2 with ⟨error, failed, own⟩ | ⟨handles, done, -, own⟩
    · simp only [reviewStep, failed, ownNext, own, Option.getD_none]
    · simp only [reviewStep, done, ownNext, own, Option.getD_some]
  other := by
    intro handle record issuer other
    rcases reviewStep_cases config handle record with ⟨-, same⟩ | ⟨handles, -, done, reviewed⟩
    · simp only [same]
    · simp only [done, Option.getD_some]
      exact reviewed.polledBy_other other

/-- One review, as it bears on a registration. -/
theorem reviewStep_listed (handle : Option (List FeedSourceHandle)) (record : PollingRecord) (e : Entry) :
    e ∈ entries (reviewStep config handle record) ↔
      if accepts config handle record = true ∧ record.1.issuer = e.1 ∧ pollingType record.1.change = some e.2 then
        added record.1.change = some e.2
      else e ∈ entries handle := by
  rcases reviewStep_cases config handle record with ⟨rejected, same⟩ | ⟨handles, accepted, done, reviewed⟩
  · simp only [rejected, same, Bool.false_eq_true, false_and, ↓reduceIte]
  · simp only [accepted, done, true_and]
    exact reviewed.listed_iff e

/-- The registration is listed at the end of some reviews exactly when the last accepted change about it is an
`ADD`; without one it is as it was. -/
theorem foldl_listed (records : List PollingRecord) (handle : Option (List FeedSourceHandle)) (e : Entry) :
    e ∈ entries (records.foldl (reviewStep config) handle) ↔
      match (acceptedBy e (reviewed config handle records)).getLast? with
      | some info => added info.change = some e.2
      | none => e ∈ entries handle := by
  induction records generalizing handle with
  | nil => rfl
  | cons record records ih =>
    have first := reviewStep_listed config handle record e
    rw [List.foldl_cons, ih]
    by_cases about : accepts config handle record = true ∧ record.1.issuer = e.1 ∧ pollingType record.1.change = some e.2
    · have here : acceptedBy e (reviewed config handle (record :: records)) =
          record.1 :: acceptedBy e (reviewed config (reviewStep config handle record) records) := by
        simp only [acceptedBy, reviewed, outcomes]
        rw [List.filter_cons_of_pos (by simpa using about)]
        rfl
      rw [here, List.getLast?_cons]
      cases later : (acceptedBy e (reviewed config (reviewStep config handle record) records)).getLast? with
      | none => simpa only [about, and_self, ↓reduceIte, Option.getD_none] using first
      | some info => rfl
    · have here : acceptedBy e (reviewed config handle (record :: records)) =
          acceptedBy e (reviewed config (reviewStep config handle record) records) := by
        simp only [acceptedBy, reviewed, outcomes]
        rw [List.filter_cons_of_neg (by simpa using about)]
      rw [here]
      cases later : (acceptedBy e (reviewed config (reviewStep config handle record) records)).getLast? with
      | none => simpa only [about, ↓reduceIte] using first
      | some info => rfl

/-- The changes of each issuer are the same, in the same order. -/
def SameByIssuer (xs ys : List PollingRecord) : Prop :=
  ∀ issuer, (stepsOf (fun record : PollingRecord => record.1.issuer) issuer xs).map Prod.fst =
    (stepsOf (fun record : PollingRecord => record.1.issuer) issuer ys).map Prod.fst

variable {config} {xs ys : List PollingRecord}

/-- What an issuer polls after a sequence of reviews depends on its own changes. -/
theorem SameByIssuer.polls (same : SameByIssuer xs ys) (issuer : String) :
    polledBy issuer ((reviewAll config xs).getD []) = polledBy issuer ((reviewAll config ys).getD []) := by
  have local' : ∀ records, polledBy issuer ((reviewAll config records).getD []) =
      ((stepsOf (fun record : PollingRecord => record.1.issuer) issuer records).map Prod.fst).foldl (ownNext config) [] := by
    intro records
    rw [List.foldl_map]
    exact (reviewStep_local config).foldl issuer none records
  rw [local', local', same issuer]

/-- Whether the changes of an issuer are accepted depends on its own changes. -/
theorem SameByIssuer.accepted (same : SameByIssuer xs ys) (issuer : String) :
    (stepsOf (fun o => o.1.1.issuer) issuer (reviewed config none xs)).map (fun o => (o.1.1, o.2)) =
      (stepsOf (fun o => o.1.1.issuer) issuer (reviewed config none ys)).map (fun o => (o.1.1, o.2)) := by
  have local' : ∀ records, (stepsOf (fun o => o.1.1.issuer) issuer (reviewed config none records)).map (fun o => (o.1.1, o.2)) =
      outcomes (ownNext config) (fun polls info => (ownReview config polls info.change).isSome) []
        ((stepsOf (fun record : PollingRecord => record.1.issuer) issuer records).map Prod.fst) := by
    intro records
    have own := (reviewStep_local config).outcomes
      (fun polls record => (ownReview config polls record.1.change).isSome) (accepts_own config) issuer none records
    have untimed := outcomes_map (Prod.fst : PollingRecord → SourcePollingInfo) (ownNext config)
      (fun polls info => (ownReview config polls info.change).isSome) (fun _ _ => rfl) (fun _ _ => rfl) []
      (stepsOf (fun record : PollingRecord => record.1.issuer) issuer records)
    exact (congrArg (List.map fun o => (o.1.1, o.2)) own).trans untimed
  rw [local', local', same issuer]

/-- The lists have the same registrations, each as many times. -/
theorem SameByIssuer.perm (same : SameByIssuer xs ys) :
    (entries (reviewAll config xs)).Perm (entries (reviewAll config ys)) := by
  rw [List.perm_iff_count]
  rintro ⟨issuer, type⟩
  rw [entries, entries, count_entries, count_entries, same.polls issuer]

end

end Relayd.EthClient
