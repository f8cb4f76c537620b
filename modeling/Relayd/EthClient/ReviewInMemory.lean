import Relayd.EthClient.Review
import Relayd.Lib.Heap

/-!
# The review in memory

`reviewSourceHandling` as it works on arrays of objects: it copies the array it
is given, or its elements one by one, and changes the copy only. It gives what
the review of the list gives, and every array and object that was there before
is as it was.
-/

namespace Relayd.EthClient
set_option autoImplicit false
open Relayd.Common Sys

/-- Arrays of references to objects. -/
structure Memory where
  objects : Heap FeedSourceHandle := []
  arrays : Heap (List Nat) := []

namespace Memory

/-- The elements of an array. -/
def contents (mem : Memory) (array : Nat) : List FeedSourceHandle :=
  ((mem.arrays.deref array).getD []).filterMap mem.objects.deref

/-- `[]` -/
def newArray (mem : Memory) : Nat × Memory := (mem.arrays.length, { mem with arrays := mem.arrays.alloc [] })

/-- `array.push(element)`, of a new object. -/
def push (mem : Memory) (array : Nat) (element : FeedSourceHandle) : Memory where
  objects := mem.objects.alloc element
  arrays := mem.arrays.write array ((mem.arrays.deref array).getD [] ++ [mem.objects.length])

/-- `array.unshift(element)`, of a new object. -/
def unshift (mem : Memory) (array : Nat) (element : FeedSourceHandle) : Memory where
  objects := mem.objects.alloc element
  arrays := mem.arrays.write array (mem.objects.length :: (mem.arrays.deref array).getD [])

/-- A loop over some elements that pushes copies of those it keeps. -/
def pushAll (mem : Memory) (array : Nat) (keeps : FeedSourceHandle → Bool) (elements : List FeedSourceHandle) : Memory :=
  elements.foldl (fun mem element => if keeps element then mem.push array element else mem) mem

/-- `deepCopyJson(array)` -/
def deepCopyJson (mem : Memory) (array : Nat) : Nat × Memory :=
  let (copy, copied) := mem.newArray
  (copy, copied.pushAll copy (fun _ => true) (mem.contents array))

section
variable (mem : Memory) (config : RelaydConfig)

/-- An `ADD` change. -/
def registerPolling (sourceHandle : Nat) (sourcePolling : SourcePollingInfo) (now : String)
    (pollingType otherType : EFeedSourcePoll) (redeclared : String) : Except String Nat × Memory :=
  let issuer := sourcePolling.issuer
  let alreadyPolledByIssuer := polledBy issuer (mem.contents sourceHandle)
  let (handleUpd, copied) := mem.deepCopyJson sourceHandle
  if alreadyPolledByIssuer.contains pollingType ∧ config.sourcePollingAllowMultipleBySameIssuer then
    (.error redeclared, copied)
  else if alreadyPolledByIssuer.contains otherType ∧ config.sourcePollingAllowMultipleTypeBySameIssuer then
    (.error ("Same handler '" ++ issuer ++ "' proceeds to both periodic and event-based polling of '"
      ++ sourcePolling.source ++ "'"), copied)
  else
    (.ok handleUpd, copied.unshift handleUpd { handler := issuer, type := pollingType, time := now })

/-- A `REMOVE` change. -/
def unregisterPolling (sourceHandle : Nat) (sourcePolling : SourcePollingInfo) (pollingType : EFeedSourcePoll)
    (kind : String) : Except String Nat × Memory :=
  let issuer := sourcePolling.issuer
  if (polledBy issuer (mem.contents sourceHandle)).contains pollingType then
    let (handleUpd, copied) := mem.newArray
    (.ok handleUpd, copied.pushAll handleUpd
      (fun element => !(element.handler == issuer && element.type == pollingType)) (mem.contents sourceHandle))
  else
    (.error ("Unexpected removal of " ++ kind ++ " polling of '" ++ sourcePolling.source ++ "' for the non-registered '"
      ++ issuer ++ "' - Ignoring handle removal"), mem)

/-- `reviewSourceHandling`, of an array or of `undefined`. -/
def reviewSourceHandling (actual : Option Nat) (sourcePolling : SourcePollingInfo) (now : String) :
    Except String Nat × Memory :=
  let issuer := sourcePolling.issuer
  let source := sourcePolling.source
  let (sourceHandle, mem) :=
    match actual with
    | none => mem.newArray
    | some array => (array, mem)
  match sourcePolling.change with
  | .ADD_LISTEN_EVENT => mem.registerPolling config sourceHandle sourcePolling now .EVENT .TIMEPERIOD
      ("Unexpected re-declaration of an event-based polling of '" ++ source ++ "' by the already handling '" ++ issuer ++ "'")
  | .ADD_PERIODIC => mem.registerPolling config sourceHandle sourcePolling now .TIMEPERIOD .EVENT
      ("Unexpected re-declaration of a periodic polling of '" ++ source ++ "' by the already registered '" ++ issuer ++ "'")
  | .REMOVE_LISTEN_EVENT => mem.unregisterPolling sourceHandle sourcePolling .EVENT "an event-based"
  | .REMOVE_PERIODIC => mem.unregisterPolling sourceHandle sourcePolling .TIMEPERIOD "a periodic"
  | .unknown change => (.error ("Unknow Source Polling Change '" ++ change ++ "' for '" ++ source ++ "'. Not supported"), mem)

end

/-- The array is there, and its elements are these. -/
def Holds (mem : Memory) (array : Nat) (elements : List FeedSourceHandle) : Prop :=
  ∃ refs, mem.arrays.deref array = some refs ∧ refs.map mem.objects.deref = elements.map some

/-- Every array and every object is as it was. -/
structure Keeps (mem mem' : Memory) : Prop where
  arrays : ∀ array refs, mem.arrays.deref array = some refs → mem'.arrays.deref array = some refs
  objects : ∀ ref element, mem.objects.deref ref = some element → mem'.objects.deref ref = some element

theorem Keeps.refl (mem : Memory) : Keeps mem mem := ⟨fun _ _ held => held, fun _ _ held => held⟩

theorem Keeps.trans {mem mem' mem'' : Memory} (first : Keeps mem mem') (second : Keeps mem' mem'') : Keeps mem mem'' :=
  ⟨fun array refs held => second.arrays array refs (first.arrays array refs held),
    fun ref element held => second.objects ref element (first.objects ref element held)⟩

/-- A new array with these elements, in a memory that is otherwise `base`. -/
structure Built (base mem : Memory) (array : Nat) (elements : List FeedSourceHandle) : Prop where
  keeps : Keeps base mem
  new : base.arrays.deref array = none
  holds : mem.Holds array elements

section
variable {base mem mem' : Memory} {array : Nat} {elements : List FeedSourceHandle}

theorem Holds.contents (holds : mem.Holds array elements) : mem.contents array = elements := by
  obtain ⟨refs, held, objects⟩ := holds
  have mapped : refs.filterMap mem.objects.deref = (refs.map mem.objects.deref).filterMap id := by
    rw [List.filterMap_map]
    rfl
  rw [Memory.contents, held, Option.getD_some, mapped, objects, List.filterMap_map]
  exact List.filterMap_some

/-- Objects that are kept have the same values. -/
theorem map_deref_keeps {objects objects' : Heap FeedSourceHandle} {refs : List Nat}
    (keeps : ∀ ref element, objects.deref ref = some element → objects'.deref ref = some element)
    (held : refs.map objects.deref = elements.map some) : refs.map objects'.deref = elements.map some := by
  rw [← held]
  apply List.map_congr_left
  intro ref member
  have some : objects.deref ref ∈ elements.map some := by
    rw [← held]
    exact List.mem_map_of_mem member
  obtain ⟨element, -, object⟩ := List.mem_map.1 some
  rw [← object]
  exact keeps ref element object.symm

theorem Keeps.holds (keeps : Keeps mem mem') (holds : mem.Holds array elements) : mem'.Holds array elements := by
  obtain ⟨refs, held, objects⟩ := holds
  exact ⟨refs, keeps.arrays array refs held, map_deref_keeps keeps.objects objects⟩

theorem newArray_built (mem : Memory) : Built mem mem.newArray.2 mem.newArray.1 [] where
  keeps := ⟨fun _ _ held => Heap.deref_alloc [] held, fun _ _ held => held⟩
  new := List.getElem?_eq_none (Nat.le_refl mem.arrays.length)
  holds := ⟨[], Heap.deref_alloc_new mem.arrays [], rfl⟩

/-- A write into a new array leaves the others. -/
theorem Built.written (built : Built base mem array elements) (refs : List Nat) (element : FeedSourceHandle) :
    Keeps base { objects := mem.objects.alloc element, arrays := mem.arrays.write array refs } where
  arrays := by
    intro array' refs' held
    have other : array' ≠ array := by
      rintro rfl
      rw [built.new] at held
      cases held
    exact (Heap.deref_write_other refs other).trans (built.keeps.arrays array' refs' held)
  objects := fun ref element' held => Heap.deref_alloc element (built.keeps.objects ref element' held)

theorem Built.push (built : Built base mem array elements) (element : FeedSourceHandle) :
    Built base (mem.push array element) array (elements ++ [element]) := by
  obtain ⟨refs, held, objects⟩ := built.holds
  refine ⟨built.written _ element, built.new, refs ++ [mem.objects.length], ?_, ?_⟩
  · simp only [Memory.push, held, Option.getD_some]
    exact Heap.deref_write_same _ held
  · have kept := map_deref_keeps (fun _ _ object => Heap.deref_alloc element object) objects
    simp only [Memory.push, List.map_append, kept, List.map_cons, List.map_nil, Heap.deref_alloc_new]

theorem Built.unshift (built : Built base mem array elements) (element : FeedSourceHandle) :
    Built base (mem.unshift array element) array (element :: elements) := by
  obtain ⟨refs, held, objects⟩ := built.holds
  refine ⟨built.written _ element, built.new, mem.objects.length :: refs, ?_, ?_⟩
  · simp only [Memory.unshift, held, Option.getD_some]
    exact Heap.deref_write_same _ held
  · have kept := map_deref_keeps (fun _ _ object => Heap.deref_alloc element object) objects
    simp only [Memory.unshift, List.map_cons, kept, Heap.deref_alloc_new]

/-- The loop builds the elements it keeps. -/
theorem Built.pushAll (built : Built base mem array elements) (keeps : FeedSourceHandle → Bool)
    (more : List FeedSourceHandle) : Built base (mem.pushAll array keeps more) array (elements ++ more.filter keeps) := by
  induction more generalizing mem elements with
  | nil =>
    rw [List.filter_nil, List.append_nil]
    exact built
  | cons element more ih =>
    rw [Memory.pushAll, List.foldl_cons]
    by_cases kept : keeps element = true
    · rw [List.filter_cons_of_pos kept, List.append_cons, if_pos kept]
      exact ih (built.push element)
    · rw [List.filter_cons_of_neg kept, if_neg kept]
      exact ih built

theorem deepCopyJson_built (holds : mem.Holds array elements) :
    Built mem (mem.deepCopyJson array).2 (mem.deepCopyJson array).1 elements := by
  have copied := (newArray_built mem).pushAll (fun _ => true) (mem.contents array)
  rw [List.nil_append, List.filter_true, holds.contents] at copied
  simpa only [Memory.deepCopyJson, holds.contents] using copied

end

/-- What the review in memory does, beside the review of the list. -/
structure Does (mem : Memory) (review : Except String (List FeedSourceHandle)) (result : Except String Nat × Memory) :
    Prop where
  keeps : Keeps mem result.2
  outcome : match review, result.1 with
    | .ok reviewed, .ok array => result.2.Holds array reviewed
    | .error error, .error error' => error' = error
    | _, _ => False

section
variable {mem : Memory} {array : Nat} {handles : List FeedSourceHandle} (holds : mem.Holds array handles)
include holds

theorem registerPolling_does (config : RelaydConfig) (sourcePolling : SourcePollingInfo) (now : String)
    (pollingType otherType : EFeedSourcePoll) (redeclared : String) :
    Does mem (EthClient.registerPolling config handles sourcePolling now pollingType otherType redeclared)
      (mem.registerPolling config array sourcePolling now pollingType otherType redeclared) := by
  have copied := deepCopyJson_built holds
  simp only [Memory.registerPolling, EthClient.registerPolling, holds.contents]
  split
  · exact ⟨copied.keeps, rfl⟩
  · split
    · exact ⟨copied.keeps, rfl⟩
    · have added := copied.unshift { handler := sourcePolling.issuer, type := pollingType, time := now }
      exact ⟨added.keeps, added.holds⟩

theorem unregisterPolling_does (sourcePolling : SourcePollingInfo) (pollingType : EFeedSourcePoll) (kind : String) :
    Does mem (EthClient.unregisterPolling handles sourcePolling pollingType kind)
      (mem.unregisterPolling array sourcePolling pollingType kind) := by
  simp only [Memory.unregisterPolling, EthClient.unregisterPolling, holds.contents]
  split
  · have kept := (newArray_built mem).pushAll
      (fun element => !(element.handler == sourcePolling.issuer && element.type == pollingType)) handles
    exact ⟨kept.keeps, kept.holds⟩
  · exact ⟨Keeps.refl mem, rfl⟩

end

theorem Does.after {mem mem' : Memory} {review : Except String (List FeedSourceHandle)} {result : Except String Nat × Memory}
    (keeps : Keeps mem mem') (does : Does mem' review result) : Does mem review result :=
  ⟨keeps.trans does.keeps, does.outcome⟩

/-- The list that a review is given: `undefined`, or an array with its elements. -/
def Given (mem : Memory) : Option Nat → Option (List FeedSourceHandle) → Prop
  | none, none => True
  | some array, some handles => mem.Holds array handles
  | _, _ => False

/-- **The review in memory gives what the review of the list gives, and changes nothing that was there.** -/
theorem reviewSourceHandling_does (config : RelaydConfig) {mem : Memory} {actual : Option Nat}
    {handles : Option (List FeedSourceHandle)} (given : mem.Given actual handles) (info : SourcePollingInfo) (now : String) :
    Does mem (EthClient.reviewSourceHandling config handles info now) (mem.reviewSourceHandling config actual info now) := by
  obtain ⟨array, mem', start, keeps, holds⟩ : ∃ array mem', (match actual with
      | none => mem.newArray
      | some array => (array, mem)) = (array, mem') ∧ Keeps mem mem' ∧ mem'.Holds array (handles.getD []) := by
    cases actual with
    | none =>
      cases handles with
      | some handles => exact given.elim
      | none => exact ⟨_, _, rfl, (newArray_built mem).keeps, (newArray_built mem).holds⟩
    | some array =>
      cases handles with
      | none => exact given.elim
      | some handles => exact ⟨array, mem, rfl, Keeps.refl mem, given⟩
  apply Does.after keeps
  simp only [Memory.reviewSourceHandling, EthClient.reviewSourceHandling, start]
  cases info.change with
  | ADD_PERIODIC => exact registerPolling_does holds config info now _ _ _
  | ADD_LISTEN_EVENT => exact registerPolling_does holds config info now _ _ _
  | REMOVE_PERIODIC => exact unregisterPolling_does holds info _ _
  | REMOVE_LISTEN_EVENT => exact unregisterPolling_does holds info _ _
  | unknown text => exact ⟨Keeps.refl mem', rfl⟩

end Memory

/-- **What the handle list is** after a sequence of reviews: what the last accepted change of each issuer for
each type says; a review touches the elements of one registration only and nothing of the list it was given;
and the order between issuers decides nothing. -/
structure HandleLaw (config : RelaydConfig) : Prop where
  listed : ∀ records e, e ∈ entries (reviewAll config records) ↔
    ∃ info, (acceptedBy e (reviewed config none records)).getLast? = some info ∧ added info.change = some e.2
  others : ∀ actual info now handles, reviewSourceHandling config actual info now = .ok handles →
    ∃ type, pollingType info.change = some type ∧
      handles.filter (fun element => entry element ≠ (info.issuer, type)) =
        (actual.getD []).filter fun element => entry element ≠ (info.issuer, type)
  unmutated : ∀ (mem : Memory) actual handles info now, mem.Given actual handles →
    Memory.Does mem (reviewSourceHandling config handles info now) (mem.reviewSourceHandling config actual info now)
  accepted : ∀ xs ys issuer, SameByIssuer xs ys →
    (stepsOf (fun o => o.1.1.issuer) issuer (reviewed config none xs)).map (fun o => (o.1.1, o.2)) =
      (stepsOf (fun o => o.1.1.issuer) issuer (reviewed config none ys)).map (fun o => (o.1.1, o.2))
  order : ∀ xs ys, SameByIssuer xs ys → (entries (reviewAll config xs)).Perm (entries (reviewAll config ys))

/-- **The handle list is what the accepted registrations say, whatever the order between issuers.** -/
theorem handles_follow_registrations (config : RelaydConfig) : HandleLaw config where
  listed := by
    intro records e
    have listed := foldl_listed config records none e
    cases last : (acceptedBy e (reviewed config none records)).getLast? with
    | none => simpa [reviewAll, last, entries] using listed
    | some info => simpa [reviewAll, last] using listed
  others := by
    intro actual info now handles done
    rcases review_cases config actual info now with ⟨error, failed, -⟩ | ⟨handles', done', reviewed, -⟩
    · rw [failed] at done
      cases done
    · rw [done'] at done
      cases done
      exact reviewed.others
  unmutated := fun _ _ _ info now given => Memory.reviewSourceHandling_does config given info now
  accepted := fun _ _ issuer same => same.accepted issuer
  order := fun _ _ same => same.perm

/-- Two orders of the changes of two issuers. -/
def twoOrders : List PollingRecord × List PollingRecord :=
  let record := fun issuer change => ({ source := proxyAddress, issuer := issuer, change := change : SourcePollingInfo }, "")
  ([record "x" .ADD_LISTEN_EVENT, record "y" .ADD_LISTEN_EVENT, record "x" .REMOVE_LISTEN_EVENT, record "x" .ADD_PERIODIC],
    [record "y" .ADD_LISTEN_EVENT, record "x" .ADD_LISTEN_EVENT, record "x" .REMOVE_LISTEN_EVENT, record "x" .ADD_PERIODIC])

theorem two_orders_agree : SameByIssuer twoOrders.1 twoOrders.2 ∧ twoOrders.1 ≠ twoOrders.2 ∧
    (entries (reviewAll RelaydConfig.prod twoOrders.1)).Perm (entries (reviewAll RelaydConfig.prod twoOrders.2)) := by
  have same : SameByIssuer twoOrders.1 twoOrders.2 := by
    intro issuer
    by_cases x : "x" = issuer
    · subst x
      decide +kernel
    · by_cases y : "y" = issuer
      · subst y
        decide +kernel
      · simp [twoOrders, stepsOf, x, y]
  exact ⟨same, by decide +kernel, (handles_follow_registrations RelaydConfig.prod).order _ _ same⟩

end Relayd.EthClient
