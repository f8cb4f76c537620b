import Mathlib.Data.List.Nodup
import Relayd.Common.Kafka

/-!
# Topics creation

`createTopics` of `kafka.utils.ts` and the topics' configuration of
`kafka.config.ts`. The default of a count is set by a bitwise or, on the 32 low
bits of the count.
-/

namespace Relayd.Common
set_option autoImplicit false

/-! ## The bitwise or -/

/-- The 32 bits of a bitwise operator's operand; `undefined` has none set. -/
def toInt32 (operand : Option Int) : BitVec 32 := BitVec.ofInt 32 (operand.getD 0)

/-- `operand | n` -/
def bitOr (operand : Option Int) (n : Int) : Int := (toInt32 operand ||| toInt32 (some n)).toInt

theorem nat_or_one (m : Nat) : m ||| 1 = 2 * (m / 2) + 1 := by
  have half : (m ||| 1) / 2 = m / 2 := by
    rw [Nat.or_div_two]
    exact Nat.or_zero (m / 2)
  have odd : (m ||| 1) % 2 = 1 := Nat.or_mod_two_eq_one.2 (Or.inr rfl)
  omega

/-- The or with one sets the lowest bit: it leaves the odd numbers of 32 bits, and no other. -/
theorem bitOr_one_eq_self_iff (n : Int) : bitOr (some n) 1 = n ↔ n % 2 = 1 ∧ -2147483648 ≤ n ∧ n < 2147483648 := by
  have low : (toInt32 (some n) ||| toInt32 (some 1)).toNat = 2 * ((n % 4294967296).toNat / 2) + 1 := by
    rw [BitVec.toNat_or, ← nat_or_one]
    simp [toInt32]
  rw [bitOr, BitVec.toInt_eq_toNat_cond, low]
  split <;> omega

/-! ## The configured topics -/

structure ITopicConfig where
  numPartitions : Option Int := none
  replicationFactor : Option Int := none

/-- Configuration of messaging topics -/
def configKafkaTopics : ETopic → Option ITopicConfig
  | .ERROR_FEED | .ERROR_SOURCE | .FEED_CONFIG | .SOURCE_CONFIG | .SOURCE_DATA | .SOURCE_POLLING =>
    some { numPartitions := some 30, replicationFactor := some 1 }

/-- The topics that the feed handler requests. -/
def feedHandlerTopics : List ETopic := [.FEED_CONFIG, .SOURCE_CONFIG, .ERROR_FEED]

/-- A topic to create, as `ITopicConfig` of the Kafka client has it. -/
structure NewTopic where
  topic : String
  numPartitions : Int
  replicationFactor : Int
  deriving DecidableEq

/-- A request to the Kafka admin. -/
structure CreateTopics where
  topics : List NewTopic
  waitForLeaders : Bool
  deriving DecidableEq

/-- What the Kafka admin answers. -/
structure KafkaAdmin where
  listTopics : Except String (List String)
  createTopics : CreateTopics → Except String Bool

/-- A broker with these topics. -/
def broker (topicsExisting : List String) : KafkaAdmin where
  listTopics := .ok topicsExisting
  createTopics := fun _ => .ok true

section
variable (configs : ETopic → Option ITopicConfig)

/-- A topic to create, from its configuration. -/
def newTopic (topicName : ETopic) : Except String NewTopic :=
  match configs topicName with
  | none => .error "TypeError: Cannot read property 'numPartitions' of undefined"
  | some config => .ok {
      topic := topicName.text
      numPartitions := bitOr config.numPartitions 1
      replicationFactor := bitOr config.replicationFactor 1 }

/-- The loop over the requested topics. -/
def pushMissing (topicsExisting : List String) (appTopics : List NewTopic) (topics : List ETopic) :
    Except String (List NewTopic) :=
  topics.foldlM (fun appTopics topicName =>
    if topicsExisting.contains topicName.text then .ok appTopics
    else (newTopic configs topicName).map fun created => appTopics ++ [created]) appTopics

/-- Create the required topics, if not already existing: the request sent to the Kafka admin, if any,
and the outcome. -/
def createTopics (stringify : List NewTopic → String) (kafkaAdmin : KafkaAdmin) (topics : List ETopic) :
    Option CreateTopics × Except String Bool :=
  let loaded := kafkaAdmin.listTopics.bind fun topicsExisting => pushMissing configs topicsExisting [] topics
  match loaded with
  | .error error => (none, .error (errorText ("Failed to create missing default Topics \n" ++ error)))
  | .ok [] => (none, .ok true)
  | .ok appTopics =>
    let request := { topics := appTopics, waitForLeaders := true }
    (some request,
      rethrow "Failed to create missing default Topics \n" (rethrow "Failed to create a default Topic \n"
        (rethrow ("Failed to create topics " ++ stringify appTopics ++ "\n")
          ((kafkaAdmin.createTopics request).map fun _ => true))))

/-! ## What is requested -/

/-- The topic as its configuration has it, with a count of one where the configuration has none. -/
structure Configured (topicName : ETopic) (created : NewTopic) : Prop where
  topic : created.topic = topicName.text
  counts : ∃ config, configs topicName = some config ∧ created.numPartitions = config.numPartitions.getD 1 ∧
    created.replicationFactor = config.replicationFactor.getD 1

/-- The topics of a request. -/
def requested (request : Option CreateTopics) : List NewTopic := request.elim [] CreateTopics.topics

/-- **The topics are created as configured**: the request holds the missing ones, each once and as its
configuration has it, and there is no request when none is missing. -/
structure AsConfigured (topics : List ETopic) (topicsExisting : List String) (request : Option CreateTopics) : Prop where
  missing : ∀ created, created ∈ requested request ↔
    ∃ topicName ∈ topics, topicName.text ∉ topicsExisting ∧ Configured configs topicName created
  once : ((requested request).map NewTopic.topic).Nodup
  silent : (∀ topicName ∈ topics, topicName.text ∈ topicsExisting) → request = none

/-- Each requested topic has an entry, whose counts are positive where there are any. -/
def Entered (topics : List ETopic) : Prop :=
  ∀ topicName ∈ topics, ∃ config, configs topicName = some config ∧
    (∀ n ∈ config.numPartitions, 1 ≤ n) ∧ ∀ n ∈ config.replicationFactor, 1 ≤ n

end

/-- Every topic has an entry, with positive counts. -/
theorem configKafkaTopics_entered (topics : List ETopic) : Entered configKafkaTopics topics := by
  intro topicName _
  refine ⟨{ numPartitions := some 30, replicationFactor := some 1 }, by cases topicName <;> rfl, ?_, ?_⟩
  · rintro n ⟨⟩
    decide
  · rintro n ⟨⟩
    decide

/-- The or with one leaves the count. -/
def Kept (count : Option Int) : Prop := ∀ n ∈ count, n % 2 = 1 ∧ n < 2147483648

theorem bitOr_default_iff {count : Option Int} (positive : ∀ n ∈ count, 1 ≤ n) :
    bitOr count 1 = count.getD 1 ↔ Kept count := by
  cases count with
  | none => simpa [Kept] using (by decide : bitOr none 1 = 1)
  | some n =>
    have one := positive n rfl
    rw [Option.getD_some, bitOr_one_eq_self_iff]
    simp only [Kept, Option.mem_some_iff, forall_eq']
    omega

theorem ETopic.text_injective : Function.Injective ETopic.text := by
  intro topicName topicName' same
  cases topicName <;> cases topicName' <;> first | rfl | exact absurd same (by decide)

/-- The requested topics that do not exist yet. -/
def missingTopics (topicsExisting : List String) (topics : List ETopic) : List ETopic :=
  topics.filter fun topicName => topicName.text ∉ topicsExisting

section
variable {configs : ETopic → Option ITopicConfig} {topicsExisting : List String} {topics : List ETopic}

theorem newTopic_topic {topicName : ETopic} {created : NewTopic} (new : newTopic configs topicName = .ok created) :
    created.topic = topicName.text := by
  unfold newTopic at new
  split at new
  · cases new
  · cases new
    rfl

theorem Entered.makes (entered : Entered configs topics) {topicName : ETopic} (member : topicName ∈ topics) :
    ∃ created, newTopic configs topicName = .ok created := by
  obtain ⟨config, entry, -⟩ := entered topicName member
  rw [newTopic, entry]
  exact ⟨_, rfl⟩

/-- What the loop makes of some topics, in their order. -/
structure Made (configs : ETopic → Option ITopicConfig) (topics : List ETopic) (made : List NewTopic) : Prop where
  mem : ∀ created, created ∈ made ↔ ∃ topicName ∈ topics, newTopic configs topicName = .ok created
  names : made.map NewTopic.topic = topics.map ETopic.text

theorem Made.cons {topicName : ETopic} {created : NewTopic} {made : List NewTopic}
    (new : newTopic configs topicName = .ok created) (rest : Made configs topics made) :
    Made configs (topicName :: topics) (created :: made) where
  mem := by
    intro created'
    rw [List.exists_mem_cons_iff, List.mem_cons, rest.mem created', new, Except.ok.injEq, eq_comm]
  names := by
    rw [List.map_cons, List.map_cons, rest.names, newTopic_topic new]

/-- **The loop** pushes what the entries of the missing topics give. -/
theorem pushMissing_made (entered : Entered configs topics) (appTopics : List NewTopic) :
    ∃ made, pushMissing configs topicsExisting appTopics topics = .ok (appTopics ++ made) ∧
      Made configs (missingTopics topicsExisting topics) made := by
  induction topics generalizing appTopics with
  | nil => exact ⟨[], by rw [List.append_nil]; rfl, by simp [missingTopics], rfl⟩
  | cons topicName topics ih =>
    have later : Entered configs topics := fun topicName member => entered topicName (List.mem_cons_of_mem _ member)
    by_cases exists' : topicName.text ∈ topicsExisting
    · obtain ⟨made, pushed, holds⟩ := ih later appTopics
      refine ⟨made, ?_, ?_⟩
      · rw [← pushed]
        simp only [pushMissing, List.foldlM_cons, List.contains_iff_mem, exists', ↓reduceIte]
        rfl
      · rw [missingTopics, List.filter_cons_of_neg (by simpa using exists')]
        exact holds
    · obtain ⟨created, new⟩ := entered.makes List.mem_cons_self
      obtain ⟨made, pushed, holds⟩ := ih later (appTopics ++ [created])
      refine ⟨created :: made, ?_, ?_⟩
      · rw [List.append_cons, ← pushed]
        simp only [pushMissing, List.foldlM_cons, List.contains_iff_mem, exists', ↓reduceIte, new]
        rfl
      · rw [missingTopics, List.filter_cons_of_pos (by simpa using exists')]
        exact holds.cons new

theorem mem_missingTopics {topicName : ETopic} :
    topicName ∈ missingTopics topicsExisting topics ↔ topicName ∈ topics ∧ topicName.text ∉ topicsExisting := by
  simp only [missingTopics, List.mem_filter, decide_eq_true_eq]

/-- **What is requested**: the topics that the loop made, and nothing when it made none. -/
theorem createTopics_request {kafkaAdmin : KafkaAdmin} (listed : kafkaAdmin.listTopics = .ok topicsExisting)
    (stringify : List NewTopic → String) {made : List NewTopic}
    (pushed : pushMissing configs topicsExisting [] topics = .ok made) :
    requested (createTopics configs stringify kafkaAdmin topics).1 = made ∧
      (made = [] → (createTopics configs stringify kafkaAdmin topics).1 = none) := by
  have loaded : (kafkaAdmin.listTopics.bind fun topicsExisting => pushMissing configs topicsExisting [] topics) = .ok made := by
    rw [listed]
    exact pushed
  rw [createTopics, loaded]
  cases made with
  | nil => exact ⟨rfl, fun _ => rfl⟩
  | cons created made => exact ⟨rfl, fun empty => absurd empty (List.cons_ne_nil created made)⟩

/-- **Which topics are requested** does not depend on their counts: the missing ones. -/
theorem createTopics_names {kafkaAdmin : KafkaAdmin} (stringify : List NewTopic → String)
    (entered : Entered configs topics) (listed : kafkaAdmin.listTopics = .ok topicsExisting) :
    (requested (createTopics configs stringify kafkaAdmin topics).1).map NewTopic.topic =
      (missingTopics topicsExisting topics).map ETopic.text := by
  obtain ⟨made, pushed, holds⟩ := pushMissing_made entered []
  rw [(createTopics_request listed stringify pushed).1, List.nil_append, holds.names]

theorem Configured.unique {topicName : ETopic} {created created' : NewTopic} (configured : Configured configs topicName created)
    (configured' : Configured configs topicName created') : created = created' := by
  obtain ⟨topic, config, entry, partitions, replication⟩ := configured
  obtain ⟨topic', config', entry', partitions', replication'⟩ := configured'
  rw [entry] at entry'
  cases entry'
  rw [NewTopic.mk.injEq]
  exact ⟨topic.trans topic'.symm, partitions.trans partitions'.symm, replication.trans replication'.symm⟩

/-- The counts of a topic are those of its entry exactly when the or with one leaves them. -/
theorem Entered.configured_iff (entered : Entered configs topics) {topicName : ETopic} (member : topicName ∈ topics)
    {created : NewTopic} (new : newTopic configs topicName = .ok created) {config : ITopicConfig}
    (entry : configs topicName = some config) :
    Configured configs topicName created ↔ Kept config.numPartitions ∧ Kept config.replicationFactor := by
  obtain ⟨_, entry', partitions, replication⟩ := entered topicName member
  rw [entry] at entry'
  cases entry'
  rw [← bitOr_default_iff partitions, ← bitOr_default_iff replication]
  rw [newTopic, entry] at new
  cases new
  constructor
  · intro configured
    obtain ⟨_, entry', counts⟩ := configured.counts
    rw [entry] at entry'
    cases entry'
    exact counts
  · intro counts
    exact ⟨rfl, config, entry, counts⟩

/-- The counts of every missing topic are left by the or with one. -/
def CountsKept (configs : ETopic → Option ITopicConfig) (topicsExisting : List String) (topics : List ETopic) : Prop :=
  ∀ topicName ∈ topics, topicName.text ∉ topicsExisting → ∀ config, configs topicName = some config →
    Kept config.numPartitions ∧ Kept config.replicationFactor

/-- What the loop makes are the missing topics as configured, when their counts are kept. -/
theorem Made.configured_iff {made : List NewTopic} (holds : Made configs (missingTopics topicsExisting topics) made)
    (entered : Entered configs topics) (kept : CountsKept configs topicsExisting topics) (created : NewTopic) :
    created ∈ made ↔ ∃ topicName ∈ topics, topicName.text ∉ topicsExisting ∧ Configured configs topicName created := by
  have new_configured : ∀ topicName ∈ topics, topicName.text ∉ topicsExisting → ∀ created,
      newTopic configs topicName = .ok created → Configured configs topicName created := by
    intro topicName member absent created new
    obtain ⟨config, entry, -⟩ := entered topicName member
    exact (entered.configured_iff member new entry).2 (kept topicName member absent config entry)
  rw [holds.mem created]
  constructor
  · rintro ⟨topicName, missing, new⟩
    obtain ⟨member, absent⟩ := mem_missingTopics.1 missing
    exact ⟨topicName, member, absent, new_configured topicName member absent created new⟩
  · rintro ⟨topicName, member, absent, configured⟩
    obtain ⟨created', new⟩ := entered.makes member
    rw [configured.unique (new_configured topicName member absent created' new)]
    exact ⟨topicName, mem_missingTopics.2 ⟨member, absent⟩, new⟩

/-- The loop makes nothing when no topic is missing. -/
theorem Made.eq_nil {made : List NewTopic} (holds : Made configs (missingTopics topicsExisting topics) made)
    (noneMissing : ∀ topicName ∈ topics, topicName.text ∈ topicsExisting) : made = [] := by
  have empty : missingTopics topicsExisting topics = [] := by
    rw [List.eq_nil_iff_forall_not_mem]
    intro topicName missing
    obtain ⟨member, absent⟩ := mem_missingTopics.1 missing
    exact absent (noneMissing topicName member)
  have names := holds.names
  rw [empty, List.map_nil] at names
  exact List.map_eq_nil_iff.1 names

/-- **The topics are created as configured exactly when** every count of a missing topic is absent, or an odd
number of 32 bits: the or with one, which should default the absent counts, makes the even ones odd. -/
theorem createTopics_asConfigured_iff {kafkaAdmin : KafkaAdmin} (stringify : List NewTopic → String)
    (distinct : topics.Nodup) (entered : Entered configs topics) (listed : kafkaAdmin.listTopics = .ok topicsExisting) :
    AsConfigured configs topics topicsExisting (createTopics configs stringify kafkaAdmin topics).1 ↔
      CountsKept configs topicsExisting topics := by
  obtain ⟨made, pushed, holds⟩ := pushMissing_made entered []
  obtain ⟨request, silent⟩ := createTopics_request listed stringify pushed
  rw [List.nil_append] at request silent
  constructor
  · intro asConfigured topicName member absent config entry
    obtain ⟨created, new⟩ := entered.makes member
    have sent : created ∈ made := (holds.mem created).2 ⟨topicName, mem_missingTopics.2 ⟨member, absent⟩, new⟩
    rw [← request] at sent
    obtain ⟨topicName', -, -, configured⟩ := (asConfigured.missing created).1 sent
    have same : topicName' = topicName :=
      ETopic.text_injective (configured.topic.symm.trans (newTopic_topic new))
    subst same
    exact (entered.configured_iff member new entry).1 configured
  · intro kept
    constructor
    · rw [request]
      exact holds.configured_iff entered kept
    · rw [createTopics_names stringify entered listed]
      exact (distinct.filter _).map ETopic.text_injective
    · exact fun noneMissing => silent (holds.eq_nil noneMissing)

end

/-- With 29 partitions a topic, and no replication factor, the missing topics are created as configured. -/
theorem createTopics_odd :
    AsConfigured (fun _ => some { numPartitions := some 29 }) feedHandlerTopics ["relayd.feed"]
      (createTopics (fun _ => some { numPartitions := some 29 }) (fun _ => "[]") (broker ["relayd.feed"]) feedHandlerTopics).1 := by
  have entered : Entered (fun _ => some { numPartitions := some 29 }) feedHandlerTopics := by
    intro topicName _
    refine ⟨_, rfl, ?_, ?_⟩
    · rintro n ⟨⟩
      decide
    · rintro n ⟨⟩
  refine (createTopics_asConfigured_iff (fun _ => "[]") (by decide) entered rfl).2 ?_
  rintro topicName _ _ config ⟨⟩
  constructor
  · rintro n ⟨⟩
    decide
  · rintro n ⟨⟩

/-- The topics of the feed handler with 31 partitions each. -/
def raisedRequest : CreateTopics where
  topics := feedHandlerTopics.map fun topicName =>
    { topic := topicName.text, numPartitions := 31, replicationFactor := 1 }
  waitForLeaders := true

/-- The repository's own configuration has 30 partitions a topic: the feed handler requests 31. -/
theorem createTopics_even :
    feedHandlerTopics.Nodup ∧ Entered configKafkaTopics feedHandlerTopics ∧
      (createTopics configKafkaTopics (fun _ => "[]") (broker []) feedHandlerTopics).1 = some raisedRequest ∧
      ¬ AsConfigured configKafkaTopics feedHandlerTopics []
        (createTopics configKafkaTopics (fun _ => "[]") (broker []) feedHandlerTopics).1 := by
  have request : (createTopics configKafkaTopics (fun _ => "[]") (broker []) feedHandlerTopics).1 = some raisedRequest := by
    decide
  refine ⟨by decide, configKafkaTopics_entered _, request, ?_⟩
  intro asConfigured
  rw [request] at asConfigured
  obtain ⟨topicName, -, -, configured⟩ := (asConfigured.missing _).1 (List.mem_cons_self)
  obtain ⟨config, entry, partitions, -⟩ := configured.counts
  cases topicName <;> cases entry <;> exact absurd partitions (by decide)

end Relayd.Common
