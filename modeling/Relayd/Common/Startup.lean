import Relayd.Common.Topics
import Relayd.Lib.Run

/-!
# The start of the services

Every service creates the topics it needs when it starts: it asks the broker for
the topics there are, and then for those that it misses. Between the two another
service may create them, and the broker is asked for topics that exist.
-/

namespace Relayd.Common
set_option autoImplicit false
open Sys

/-- The topics that the ETH client requests. -/
def ethClientTopics : List ETopic := [.ERROR_SOURCE, .SOURCE_CONFIG, .SOURCE_DATA, .SOURCE_POLLING]

/-- A service that starts, with the topics that it requests. -/
structure Service where
  topics : List ETopic
  distinct : topics.Nodup

def feedHandler : Service := ⟨feedHandlerTopics, by decide⟩

def ethClient : Service := ⟨ethClientTopics, by decide⟩

def names (topics : List NewTopic) : List String := topics.map NewTopic.topic

/-- How a broker creates topics: those that do not exist. It answers whether it created all of them. -/
structure Broker where
  create : List NewTopic → CreateTopics → List NewTopic × Except String Bool
  creates : ∀ existing request, (names request.topics).Nodup →
    (create existing request).1 = existing ++ request.topics.filter fun created => created.topic ∉ names existing
  answers : ∀ existing request, (names request.topics).Nodup → (create existing request).2.isOk = true

/-- A broker and the services that start, each with what it was listed and how it ended. -/
structure Startup (ι : Type) where
  topics : List NewTopic
  listed : ι → Option (List String) := fun _ => none
  outcome : ι → Option (Except String Bool) := fun _ => none

namespace Startup
variable {ι : Type} [DecidableEq ι]

inductive Action (ι : Type)
  | list (i : ι)
  | create (i : ι)

section
variable (configs : ETopic → Option ITopicConfig) (stringify : List NewTopic → String) (broker : Broker)
  (services : ι → Service)

/-- What a service sees of the broker that listed these topics. -/
def admin (topicsListed : List String) (s : Startup ι) : KafkaAdmin where
  listTopics := .ok topicsListed
  createTopics request := (broker.create s.topics request).2

def step (s : Startup ι) : Action ι → Option (Startup ι)
  | .list i =>
    if s.listed i = none then some { s with listed := Function.update s.listed i (some (names s.topics)) } else none
  | .create i =>
    match s.listed i, s.outcome i with
    | some topicsListed, none =>
      let (request, outcome) := createTopics configs stringify (admin broker topicsListed s) (services i).topics
      some { s with
        topics := request.elim s.topics fun request => (broker.create s.topics request).1
        outcome := Function.update s.outcome i (some outcome) }
    | _, _ => none

end

section
variable {configs : ETopic → Option ITopicConfig} {stringify : List NewTopic → String} {broker : Broker}
  {services : ι → Service} {existing : List NewTopic} {s s' : Startup ι} {actions : List (Action ι)}

/-- The names of the topics that are missing are different. -/
theorem made_nodup {topicsListed : List String} {topics : List ETopic} {made : List NewTopic} (distinct : topics.Nodup)
    (holds : Made configs (missingTopics topicsListed topics) made) : (names made).Nodup := by
  rw [names, holds.names]
  exact (distinct.filter _).map ETopic.text_injective

omit [DecidableEq ι] in
/-- **What a creation does**: the topics missing from its list are made as their entries say, those of them that do not
exist are created, and the service goes on. -/
theorem create_effect {i : ι} {topicsListed : List String} (entered : Entered configs (services i).topics) :
    let call := createTopics configs stringify (admin broker topicsListed s) (services i).topics
    call.2 = .ok true ∧ ∃ made, Made configs (missingTopics topicsListed (services i).topics) made ∧
      (call.1.elim s.topics fun request => (broker.create s.topics request).1) =
        s.topics ++ made.filter fun created => created.topic ∉ names s.topics := by
  obtain ⟨made, pushed, holds⟩ := @pushMissing_made configs topicsListed _ entered []
  have distinct := made_nodup (services i).distinct holds
  rw [List.nil_append] at pushed
  have loaded : ((admin broker topicsListed s).listTopics.bind fun topicsExisting =>
      pushMissing configs topicsExisting [] (services i).topics) = .ok made := pushed
  intro call
  cases made with
  | nil =>
    have idle : call = (none, .ok true) := by simp only [call, createTopics, loaded]
    rw [idle]
    exact ⟨rfl, [], holds, (List.append_nil _).symm⟩
  | cons created made =>
    let request : CreateTopics := { topics := created :: made, waitForLeaders := true }
    have answered := broker.answers s.topics request distinct
    have asked : call = (some request, .ok true) := by
      simp only [call, createTopics, loaded]
      cases answer : (broker.create s.topics request).2 with
      | error error =>
        rw [answer] at answered
        cases answered
      | ok done =>
        simp only [request] at answer
        simp only [request, admin, answer, Except.map, rethrow, Except.mapError]
    rw [asked]
    exact ⟨rfl, created :: made, holds, broker.creates s.topics request distinct⟩

/-- What holds of the broker and the services at any time of their start. -/
structure Consistent (configs : ETopic → Option ITopicConfig) (services : ι → Service) (existing : List NewTopic)
    (s : Startup ι) : Prop where
  /-- The topics that there were are left as they were -/
  kept : existing <+: s.topics
  once : (names s.topics).Nodup
  made : ∀ created ∈ s.topics, created ∈ existing ∨
    ∃ i, ∃ topicName ∈ (services i).topics, newTopic configs topicName = .ok created
  current : ∀ i topicsListed, s.listed i = some topicsListed → topicsListed ⊆ names s.topics
  /-- A service that is through found its topics or created them -/
  through : ∀ i outcome, s.outcome i = some outcome → outcome = .ok true ∧
    ∀ topicName ∈ (services i).topics, topicName.text ∈ names s.topics

omit [DecidableEq ι] in
theorem Consistent.start (once : (names existing).Nodup) : Consistent configs services existing { topics := existing } where
  kept := List.prefix_rfl
  once := once
  made := fun _ => Or.inl
  current := by
    rintro i topicsListed ⟨⟩
  through := by
    rintro i outcome ⟨⟩

/-- The step lemma. -/
theorem Consistent.step (entered : ∀ i, Entered configs (services i).topics) (consistent : Consistent configs services existing s)
    {a : Action ι} (stepped : s.step configs stringify broker services a = some s') :
    Consistent configs services existing s' := by
  cases a with
  | list i =>
    simp only [Startup.step] at stepped
    split at stepped
    · cases stepped
      refine { consistent with current := ?_ }
      intro j topicsListed listed
      simp only at listed ⊢
      by_cases same : j = i
      · subst same
        rw [Function.update_self] at listed
        cases listed
        exact List.Subset.refl _
      · rw [Function.update_of_ne same] at listed
        exact consistent.current j topicsListed listed
    · cases stepped
  | create i =>
    simp only [Startup.step] at stepped
    split at stepped
    case h_2 => cases stepped
    case h_1 topicsListed listed undone =>
      obtain ⟨ok, made, holds, created⟩ := @create_effect ι configs stringify broker services s i topicsListed (entered i)
      rw [Option.some.injEq] at stepped
      subst stepped
      simp only [created, ok]
      have both : names (s.topics ++ made.filter fun created => created.topic ∉ names s.topics) =
          names s.topics ++ names (made.filter fun created => created.topic ∉ names s.topics) := List.map_append
      constructor
      case kept => exact consistent.kept.trans (List.prefix_append _ _)
      case once =>
        rw [both]
        refine List.nodup_append'.2 ⟨consistent.once, ?_, ?_⟩
        · exact (made_nodup (services i).distinct holds).sublist (List.filter_sublist.map _)
        · intro topicName there new
          obtain ⟨created, fresh, rfl⟩ := List.mem_map.1 new
          exact absurd there (of_decide_eq_true (List.mem_filter.1 fresh).2)
      case made =>
        intro created member
        rcases List.mem_append.1 member with before | new
        · exact consistent.made created before
        · obtain ⟨topicName, missing, new⟩ := (holds.mem created).1 (List.mem_filter.1 new).1
          exact Or.inr ⟨i, topicName, (mem_missingTopics.1 missing).1, new⟩
      case current =>
        intro j topicsListed' listed'
        rw [both]
        exact List.subset_append_of_subset_left _ (consistent.current j topicsListed' listed')
      case through =>
        intro j outcome ended
        simp only at ended
        rw [both]
        by_cases same : j = i
        · subst same
          rw [Function.update_self] at ended
          cases ended
          refine ⟨rfl, ?_⟩
          intro topicName member
          by_cases there : topicName.text ∈ names s.topics
          · exact List.mem_append_left _ there
          · have missing : topicName ∈ missingTopics topicsListed (services j).topics :=
              mem_missingTopics.2 ⟨member, fun found => there (consistent.current j topicsListed listed found)⟩
            have named : topicName.text ∈ names made := by
              rw [names, holds.names]
              exact List.mem_map_of_mem missing
            obtain ⟨created, new, same⟩ := List.mem_map.1 named
            refine List.mem_append_right _ (List.mem_map.2 ⟨created, List.mem_filter.2 ⟨new, ?_⟩, same⟩)
            rw [same]
            exact decide_eq_true there
        · rw [Function.update_of_ne same] at ended
          obtain ⟨ok', found⟩ := consistent.through j outcome ended
          exact ⟨ok', fun topicName member => List.mem_append_left _ (found topicName member)⟩

/-- **However the starts of the services interleave**, no topic that exists is touched, each topic is created once and with
the counts that `newTopic` makes of its entry in the configuration, and a service that is through has all of its topics
and no error. -/
theorem services_start (entered : ∀ i, Entered configs (services i).topics) (once : (names existing).Nodup)
    (ran : run (step configs stringify broker services) { topics := existing } actions = some s') :
    existing <+: s'.topics ∧ (names s'.topics).Nodup ∧
      (∀ created ∈ s'.topics, created ∈ existing ∨
        ∃ i, ∃ topicName ∈ (services i).topics, newTopic configs topicName = .ok created) ∧
      ∀ i outcome, s'.outcome i = some outcome → outcome = .ok true ∧
        ∀ topicName ∈ (services i).topics, topicName.text ∈ names s'.topics := by
  have each : ∀ (s : Startup ι) a s', Consistent configs services existing s → True →
      step configs stringify broker services s a = some s' → Consistent configs services existing s' :=
    fun _ _ _ consistent _ stepped => consistent.step entered stepped
  have consistent := invariant each (Consistent.start once) .trivial ran
  exact ⟨consistent.kept, consistent.once, consistent.made, consistent.through⟩

end

/-- A broker that creates what does not exist. -/
def sampleBroker : Broker where
  create existing request :=
    (existing ++ request.topics.filter fun created => created.topic ∉ names existing,
      .ok (request.topics.all fun created => created.topic ∉ names existing))
  creates _ _ _ := rfl
  answers _ _ _ := rfl

/-- A feed handler and two ETH clients. -/
def fleet (i : Fin 3) : Service := if i = 0 then feedHandler else ethClient

/-- All of them list the topics before any is created. -/
def racing : List (Action (Fin 3)) := [.list 0, .list 1, .list 2, .create 0, .create 1, .create 2]

/-- The six topics are created once each, with 31 partitions for the 30 of their entries. -/
theorem services_start_racing :
    ∃ s', run (step configKafkaTopics (fun _ => "") sampleBroker fleet) { topics := [] } racing = some s' ∧
      ((names s'.topics).length = 6 ∧ ∀ created ∈ s'.topics, created.numPartitions = 31) ∧
      (names s'.topics).Nodup ∧ s'.outcome 2 = some (.ok true) := by
  have possible : (run (step configKafkaTopics (fun _ => "") sampleBroker fleet) { topics := [] } racing).any
      (fun s' => ((names s'.topics).length = 6 ∧ ∀ created ∈ s'.topics, created.numPartitions = 31) ∧
        (s'.outcome 2).isSome = true) = true := by decide +kernel
  obtain ⟨s', ran, started⟩ := (Option.any_eq_true _ _).1 possible
  obtain ⟨six, ended⟩ := of_decide_eq_true started
  obtain ⟨outcome, ended⟩ := Option.isSome_iff_exists.1 ended
  have none : (names []).Nodup := List.nodup_nil
  obtain ⟨-, once, -, through⟩ := services_start (fun _ => configKafkaTopics_entered _) none ran
  exact ⟨s', ran, six, once, by rw [ended, (through 2 outcome ended).1]⟩

end Startup

end Relayd.Common
