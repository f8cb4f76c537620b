import Relayd.EthClient.Net

/-!
# Validation before reading

In a net whose sources are not submitted in status `OK` before their contract
was validated, every source record in that status is of a contract that was
validated for its feed. So an instance, which reads the data of such records
only, never reads an unvalidated contract.
-/

namespace Relayd.EthClient
set_option autoImplicit false
open Relayd.Common Sys

/-- Somewhere in the history the contract was validated for the feed. -/
def ValidatedIn (history : List (String × Event)) (feedId contract : String) : Prop :=
  ∃ serviceId, (serviceId, .validated feedId contract) ∈ history

/-- Every reading of a contract for a feed comes after a validation of the contract for the feed. -/
def ReadsValidated (history : List (String × Event)) : Prop :=
  Caused (fun e => ∃ feedId contract, e.2 = .reading feedId contract)
    (fun e e' => ∃ feedId contract, e.2 = .reading feedId contract ∧ e'.2 = .validated feedId contract) history

variable {ι : Type}

/-- The contract of the source was validated for the feed, if the source is in status `OK`. -/
def VettedSource (history : List (String × Event)) (feedId : String) (source : FeedConfigSource) : Prop :=
  source.status = some .OK → ValidatedIn history feedId source.contract

/-- Every source of the net that is in status `OK` was validated, and nothing else was read. -/
structure Vetted (net : Net ι) : Prop where
  sources : net.Everywhere (VettedSource net.history)
  readings : ReadsValidated net.history

theorem ValidatedIn.append {history new : List (String × Event)} {feedId contract : String}
    (validated : ValidatedIn history feedId contract) : ValidatedIn (history ++ new) feedId contract := by
  obtain ⟨serviceId, member⟩ := validated
  exact ⟨serviceId, List.mem_append_left _ member⟩

theorem Vetted.init : Vetted ({} : Net ι) := ⟨Net.Everywhere.init, Caused.nil⟩

theorem Vetted.append {net : Net ι} (vetted : Vetted net) {feedId : String} {source : FeedConfigSource}
    (new : VettedSource net.history feedId source) :
    Vetted { net with sourceConfig := net.sourceConfig.append feedId source } :=
  ⟨vetted.sources.append (fun _ _ held => held) new, vetted.readings⟩

/-- A source in status `OK` is submitted only when its contract was validated for the feed. -/
def NotPreapproved (net : Net ι) : Action ι → Prop
  | .submit feedId source => VettedSource net.history feedId source
  | _ => True

instance (history : List (String × Event)) (feedId contract : String) : Decidable
    (ValidatedIn history feedId contract) :=
  decidable_of_iff (∃ e ∈ history, e.2 = .validated feedId contract) (by
    constructor
    · rintro ⟨⟨serviceId, e⟩, member, rfl⟩
      exact ⟨serviceId, member⟩
    · rintro ⟨serviceId, member⟩
      exact ⟨_, member, rfl⟩)

instance (history : List (String × Event)) (feedId : String) (source : FeedConfigSource) :
    Decidable (VettedSource history feedId source) :=
  inferInstanceAs (Decidable (_ → _))

theorem VettedSource.append {history new : List (String × Event)} {feedId : String} {source : FeedConfigSource}
    (vetted : VettedSource history feedId source) : VettedSource (history ++ new) feedId source :=
  fun ok => (vetted ok).append

/-- What was read was validated. -/
theorem ReadsValidated.validated {history : List (String × Event)} (readsValidated : ReadsValidated history)
    {serviceId feedId contract : String} (read : (serviceId, .reading feedId contract) ∈ history) :
    ValidatedIn history feedId contract := by
  obtain ⟨n, at_n⟩ := List.getElem?_of_mem read
  obtain ⟨m, -, ⟨serviceId', e⟩, at_m, f, c, reading, validated⟩ := readsValidated n _ at_n ⟨feedId, contract, rfl⟩
  cases reading
  cases validated
  exact ⟨serviceId', List.mem_of_getElem? at_m⟩

variable [DecidableEq ι]

/-- The events of an action, with who emitted them. -/
theorem Net.step_history {config : RelaydConfig} {clients : ι → Client} {aliased : Bool} {net net' : Net ι}
    {a : Action ι}
    (stepped : net.step config clients aliased a = some net') :
    (∃ i env feedId record, a = .consume i env feedId ∧ net.sourceConfig.next net.handled feedId = some record ∧
        net'.history = net.history ++ (handleSourceConfig config (clients i) env feedId record (net.services i)).events.map
          fun e => ((clients i).serviceId, e)) ∨
      ∃ new, net'.history = net.history ++ new ∧ ∀ e ∈ new, Stops e.2 := by
  cases Net.effect stepped with
  | consume i env feedId record next => exact Or.inl ⟨i, env, feedId, record, rfl, next, rfl⟩
  | stop _ i call stops =>
    refine Or.inr ⟨_, rfl, ?_⟩
    intro e member
    obtain ⟨e', member', rfl⟩ := List.mem_map.1 member
    exact stops e' member'
  | submit | announce | ignore | merge | table => exact Or.inr ⟨[], by simp, by simp⟩

theorem Net.history_grows {config : RelaydConfig} {clients : ι → Client} {aliased : Bool} {net net' : Net ι}
    {a : Action ι} (stepped : net.step config clients aliased a = some net') :
    ∃ new, net'.history = net.history ++ new := by
  rcases Net.step_history stepped with ⟨i, env, feedId, record, -, -, history⟩ | ⟨new, history, -⟩
  · exact ⟨_, history⟩
  · exact ⟨new, history⟩

/-- **Every action keeps the net vetted**, as long as no source is submitted in status `OK` too early. -/
theorem Vetted.step {config : RelaydConfig} {clients : ι → Client} {aliased : Bool} {net net' : Net ι} {a : Action ι}
    (vetted : Vetted net) (fresh : NotPreapproved net a) (stepped : net.step config clients aliased a = some net') :
    Vetted net' := by
  have kept := Net.history_grows stepped
  constructor
  · apply vetted.sources.step _ stepped
    · rintro feedId source rfl
      obtain ⟨new, history⟩ := kept
      rw [history]
      exact fresh.append
    · rintro i env feedId record rfl - next held f upd cast ok
      obtain rfl := Net.consume_eq next stepped
      have cast := mem_recasts.1 cast
      obtain ⟨rfl, recast⟩ := (handleSourceConfig_own config (clients i) env feedId record _).2 _ cast
      rw [recast.contract]
      rcases validated_of_ok cast ok with before | during
      · exact (held before).append
      · exact ⟨(clients i).serviceId, List.mem_append_right _ (List.mem_map.2 ⟨_, during, rfl⟩)⟩
    · rintro i sourceId info now entry upd - - - result held ok
      rw [result.contract]
      exact held (result.status ▸ ok)
    · intro feedId source held ok
      obtain ⟨new, history⟩ := kept
      rw [history]
      exact held.append ok
  · rcases Net.step_history stepped with ⟨i, env, feedId, record, rfl, next, history⟩ | ⟨new, history, stops⟩
    · rw [history]
      apply vetted.readings.append
      rintro e member ⟨f, contract, reading⟩
      obtain ⟨e', member', rfl⟩ := List.mem_map.1 member
      have own := (handleSourceConfig_own config (clients i) env feedId record _).2 _ member'
      rw [show e' = .reading f contract from reading] at own
      obtain ⟨rfl, rfl, ok⟩ := own
      obtain ⟨serviceId, validated⟩ := vetted.sources.records f record (Topic.next_mem next) ok
      exact ⟨_, validated, f, record.contract, reading, rfl⟩
    · rw [history]
      apply vetted.readings.append
      rintro e member ⟨f, contract, reading⟩
      obtain ⟨_, _, impossible, -⟩ := stops e member
      rw [reading] at impossible
      cases impossible

end Relayd.EthClient
