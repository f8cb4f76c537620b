import Mathlib.Data.List.MinMax
import Mathlib.Order.WithBot
import Relayd.EthClient.Decoding

/-!
# Past events

`checkForContractEvent` reads the round of every event it finds and decodes the
event of the highest round. What one of them cannot be converted to is thrown, not
returned: `Readable` says which events it gets through.
-/

namespace Relayd.EthClient
set_option autoImplicit false
open Relayd.Common

/-- The number of the round of an event, if it has one. -/
def PastEvent.height (event : PastEvent) : WithBot Rat :=
  match event.round with
  | .ok (.number (some round)) => round
  | _ => ⊥

/-- The first event of the highest round. -/
def latestEvent (events : List PastEvent) : Option PastEvent := events.argmax PastEvent.height

/-- The rounds of the events can be read, and compared with the first one. -/
structure RoundsReadable (events : List PastEvent) : Prop where
  each : ∀ event ∈ events, ∃ round, event.round = .ok round
  first : ∀ event next rest, events = event :: next :: rest → event.arg 1 ≠ .ok .undefined

/-- The loop over the events reads their rounds, and the latest one is decoded. -/
structure Readable (js : Js) (rejectEvent : ContractEvent → Option String) (decimals : Nat) (events : List PastEvent) :
    Prop where
  rounds : RoundsReadable events
  latest : ∀ event ∈ latestEvent events, ∃ decoded, convertEventAnswerUpdated js event decimals = .ok decoded ∧
    rejectEvent decoded = none

/-! ## The loop -/

/-- The event has a round that can be read as a number. -/
def PastEvent.Numbered (event : PastEvent) : Prop := ∃ n : Int, event.arg 1 = .ok (.big n) ∧ n.natAbs < 2 ^ 53

theorem PastEvent.Numbered.round {event : PastEvent} {n : Int} (arg : event.arg 1 = .ok (.big n)) (small : n.natAbs < 2 ^ 53) :
    event.round = .ok (.number (some n)) := by
  simp only [PastEvent.round, arg, bind, Except.bind, optionalToNumber, toNumber_small small]

/-- A round that can be read is a number, or there is none. -/
theorem PastEvent.round_cases {event : PastEvent} {round : JsValue} (read : event.round = .ok round) :
    (event.arg 1 = .ok .undefined ∧ round = .undefined) ∨ event.Numbered := by
  simp only [PastEvent.round, bind_eq_ok] at read
  obtain ⟨value, arg, converted⟩ := read
  rcases optionalToNumber_ok converted with ⟨rfl, rfl⟩ | ⟨n, small, rfl, -⟩
  · exact Or.inl ⟨arg, rfl⟩
  · exact Or.inr ⟨n, arg, small⟩

theorem PastEvent.Numbered.height {event : PastEvent} {n : Int} (arg : event.arg 1 = .ok (.big n)) (small : n.natAbs < 2 ^ 53) :
    event.height = ((n : Rat) : WithBot Rat) := by
  rw [PastEvent.height, PastEvent.Numbered.round arg small]

/-- The event of the higher round. -/
def later (latest event : PastEvent) : PastEvent := if latest.height < event.height then event else latest

/-- One round of the loop keeps the event of the higher round, and it has a number. -/
theorem laterEvent_some {latest event : PastEvent} (numbered : latest.Numbered) {round : JsValue}
    (read : event.round = .ok round) :
    laterEvent (some latest) event = .ok (some (later latest event)) ∧ (later latest event).Numbered := by
  obtain ⟨n, arg, small⟩ := numbered
  have latestRound : toNumber (.big n) = .ok (.number (some n)) := toNumber_small small
  rcases PastEvent.round_cases read with ⟨-, rfl⟩ | ⟨m, arg', small'⟩
  · have none : ¬ latest.height < event.height := by
      simp only [PastEvent.height, read, not_lt_bot, not_false_eq_true]
    rw [later, if_neg none]
    refine ⟨?_, n, arg, small⟩
    simp only [laterEvent, read, arg, latestRound, bind, Except.bind, greater, Bool.false_eq_true, ↓reduceIte]
  · have round := PastEvent.Numbered.round arg' small'
    have higher : latest.height < event.height ↔ n < m := by
      rw [PastEvent.Numbered.height arg small, PastEvent.Numbered.height arg' small', WithBot.coe_lt_coe, Int.cast_lt]
    refine ⟨?_, ?_⟩
    · simp only [laterEvent, round, arg, latestRound, bind, Except.bind, greater, decide_eq_true_eq, Int.cast_lt, later,
        higher]
    · rw [later]
      split
      · exact ⟨m, arg', small'⟩
      · exact ⟨n, arg, small⟩

theorem foldlM_laterEvent_some {latest : PastEvent} (numbered : latest.Numbered) {events : List PastEvent}
    (each : ∀ event ∈ events, ∃ round, event.round = .ok round) :
    events.foldlM laterEvent (some latest) = .ok (some (events.foldl later latest)) := by
  induction events generalizing latest with
  | nil => rfl
  | cons event events ih =>
    obtain ⟨round, read⟩ := each event List.mem_cons_self
    obtain ⟨step, numbered'⟩ := laterEvent_some numbered read
    rw [List.foldlM_cons, step, List.foldl_cons]
    exact ih numbered' fun event member => each event (List.mem_cons_of_mem _ member)

/-- The latest of some events, as a loop. -/
theorem latestEvent_cons (event : PastEvent) (events : List PastEvent) :
    latestEvent (event :: events) = some (events.foldl later event) := by
  have general : ∀ latest, events.foldl (List.argAux fun b c => c.height < b.height) (some latest) =
      some (events.foldl later latest) := by
    induction events with
    | nil => exact fun _ => rfl
    | cons event events ih =>
      intro latest
      have step : List.argAux (fun b c => c.height < b.height) (some latest) event = some (later latest event) := by
        rw [later]
        exact (apply_ite some _ _ _).symm
      rw [List.foldl_cons, step, ih, List.foldl_cons]
  exact general event

/-- The loop reads every round. -/
theorem rounds_of_foldlM {events : List PastEvent} {latest latest' : Option PastEvent}
    (done : events.foldlM laterEvent latest = .ok latest') : ∀ event ∈ events, ∃ round, event.round = .ok round := by
  induction events generalizing latest with
  | nil => exact fun event member => absurd member List.not_mem_nil
  | cons event events ih =>
    rw [List.foldlM_cons, bind_eq_ok] at done
    obtain ⟨next, step, rest⟩ := done
    intro event' member
    rcases List.mem_cons.1 member with rfl | member
    · rw [laterEvent, bind_eq_ok] at step
      obtain ⟨round, read, -⟩ := step
      exact ⟨round, read⟩
    · exact ih rest event' member

/-- Without a number for the first round, a second event is one too many. -/
theorem laterEvent_undefined {latest : PastEvent} (arg : latest.arg 1 = .ok .undefined) (event : PastEvent) :
    ∃ error, laterEvent (some latest) event = .error error := by
  simp only [laterEvent, arg, toNumber, bind, Except.bind]
  split
  · exact ⟨_, rfl⟩
  · exact ⟨_, rfl⟩

theorem foldlM_laterEvent_cons {event : PastEvent} {round : JsValue} (read : event.round = .ok round)
    (events : List PastEvent) :
    (event :: events).foldlM laterEvent none = events.foldlM laterEvent (some event) := by
  rw [List.foldlM_cons, laterEvent_first, read]
  rfl

/-- **The loop over the events** gives the latest one, if it can read and compare their rounds. -/
theorem foldlM_laterEvent_iff {events : List PastEvent} {latest : Option PastEvent} :
    events.foldlM laterEvent none = .ok latest ↔ RoundsReadable events ∧ latest = latestEvent events := by
  constructor
  · intro done
    have each := rounds_of_foldlM done
    match events with
    | [] =>
      cases done
      exact ⟨⟨each, fun event next rest split => (nomatch split)⟩, rfl⟩
    | [event] =>
      obtain ⟨round, read⟩ := each event List.mem_cons_self
      rw [foldlM_laterEvent_cons read] at done
      cases done
      exact ⟨⟨each, fun event next rest split => (nomatch split)⟩, rfl⟩
    | event :: next :: rest =>
      obtain ⟨round, read⟩ := each event List.mem_cons_self
      rw [foldlM_laterEvent_cons read] at done
      rcases PastEvent.round_cases read with ⟨arg, -⟩ | numbered
      · obtain ⟨error, failed⟩ := laterEvent_undefined arg next
        rw [List.foldlM_cons, failed] at done
        cases done
      · rw [foldlM_laterEvent_some numbered fun event member => each event (List.mem_cons_of_mem _ member)] at done
        cases done
        refine ⟨⟨each, ?_⟩, (latestEvent_cons event (next :: rest)).symm⟩
        rintro _ _ _ ⟨⟩ undefined
        obtain ⟨n, arg, -⟩ := numbered
        rw [undefined] at arg
        cases arg
  · rintro ⟨⟨each, first⟩, rfl⟩
    match events with
    | [] => rfl
    | [event] =>
      obtain ⟨round, read⟩ := each event List.mem_cons_self
      exact foldlM_laterEvent_cons read []
    | event :: next :: rest =>
      obtain ⟨round, read⟩ := each event List.mem_cons_self
      have numbered := (PastEvent.round_cases read).resolve_left fun undefined => first event next rest rfl undefined.1
      rw [foldlM_laterEvent_cons read, latestEvent_cons]
      exact foldlM_laterEvent_some numbered fun event member => each event (List.mem_cons_of_mem _ member)

section
variable {js : Js} {rejectEvent : ContractEvent → Option String} {decimals : Nat} {events : List PastEvent}

/-- **What is found of the events that were loaded** is the latest one of them, decoded. -/
theorem lastEventData_iff {values : SourceValues} :
    lastEventData js rejectEvent events decimals = .ok values ↔
      RoundsReadable events ∧ ∃ latest decoded, latestEvent events = some latest ∧
        convertEventAnswerUpdated js latest decimals = .ok decoded ∧ rejectEvent decoded = none ∧
        values = { value := decoded.current, time := decoded.updatedAt, round := decoded.round } := by
  simp only [lastEventData, bind_eq_ok, foldlM_laterEvent_iff]
  constructor
  · rintro ⟨_, ⟨rounds, rfl⟩, found⟩
    cases isLatest : latestEvent events with
    | none =>
      rw [isLatest] at found
      cases found
    | some latest =>
      rw [isLatest, bind_eq_ok] at found
      obtain ⟨decoded, converted, found⟩ := found
      cases accepted : rejectEvent decoded with
      | some error =>
        rw [accepted] at found
        cases found
      | none =>
        rw [accepted] at found
        cases found
        exact ⟨rounds, latest, decoded, rfl, converted, accepted, rfl⟩
  · rintro ⟨rounds, latest, decoded, isLatest, converted, accepted, rfl⟩
    refine ⟨_, ⟨rounds, rfl⟩, ?_⟩
    rw [isLatest, bind_eq_ok]
    exact ⟨decoded, converted, by rw [accepted]⟩

/-- The events are got through exactly when they are readable. -/
theorem lastEventData_ok_iff (found : events ≠ []) :
    (∃ values, lastEventData js rejectEvent events decimals = .ok values) ↔ Readable js rejectEvent decimals events := by
  have some : ∃ latest, latestEvent events = some latest := by
    obtain ⟨event, rest, rfl⟩ := List.exists_cons_of_ne_nil found
    exact ⟨_, latestEvent_cons event rest⟩
  obtain ⟨latest, isLatest⟩ := some
  constructor
  · rintro ⟨values, found⟩
    obtain ⟨rounds, latest', decoded, isLatest', converted, accepted, -⟩ := lastEventData_iff.1 found
    refine ⟨rounds, ?_⟩
    intro event member
    cases isLatest'.symm.trans member
    exact ⟨decoded, converted, accepted⟩
  · rintro ⟨rounds, decodes⟩
    obtain ⟨decoded, converted, accepted⟩ := decodes latest isLatest
    exact ⟨_, lastEventData_iff.2 ⟨rounds, latest, decoded, isLatest, converted, accepted, rfl⟩⟩

/-- The event of an answer. -/
def RoundResult.event (result : RoundResult) : PastEvent := .answerUpdated result.answer result.roundId result.updatedAt

/-- **Past answers are readable** exactly when every round is safe as a number, and the answer of the latest is below the
largest such number. -/
theorem answers_readable_iff {answers : List RoundResult} (positive : 0 < decimals)
    (accepts : ∀ event, rejectEvent event = none)
    (decodable : ∀ result ∈ answers, Decodable js decimals result.answer result.roundId result.updatedAt) :
    Readable js rejectEvent decimals (answers.map RoundResult.event) ↔
      (∀ result ∈ answers, result.roundId.natAbs < 2 ^ 53) ∧
        ∀ result ∈ answers, latestEvent (answers.map RoundResult.event) = some result.event →
          result.answer.natAbs < 2 ^ 53 - 1 := by
  constructor
  · intro readable
    refine ⟨?_, ?_⟩
    · intro result member
      by_contra large
      obtain ⟨error, overflow⟩ := toNumber_large large
      obtain ⟨round, read⟩ := readable.rounds.each result.event (List.mem_map_of_mem member)
      cases (answerUpdated_round.trans overflow).symm.trans read
    · intro result member isLatest
      by_contra large
      obtain ⟨decoded, converted, -⟩ := readable.latest result.event isLatest
      obtain ⟨error, overflow⟩ : ∃ error, convertEventAnswerUpdated js result.event decimals = .error error :=
        convertEventAnswerUpdated_large (decodable result member) positive fun small => large small.1
      cases overflow.symm.trans converted
  · rintro ⟨smallRounds, smallLatest⟩
    refine ⟨⟨?_, ?_⟩, ?_⟩
    · intro event found
      obtain ⟨result, member, rfl⟩ := List.mem_map.1 found
      exact ⟨_, answerUpdated_round.trans (toNumber_small (smallRounds result member))⟩
    · intro event next rest split
      obtain ⟨result, -, rfl⟩ := List.mem_map.1 (split ▸ List.mem_cons_self : event ∈ answers.map RoundResult.event)
      rintro ⟨⟩
    · intro event isLatest
      obtain ⟨result, member, rfl⟩ := List.mem_map.1 (List.argmax_mem isLatest)
      obtain ⟨price, formatted, -⟩ := (decodable result member).answer.formatUnits
      exact ⟨_, convertEventAnswerUpdated_small (decodable result member) positive formatted
        (smallLatest result member isLatest) (smallRounds result member), accepts _⟩

end

end Relayd.EthClient
