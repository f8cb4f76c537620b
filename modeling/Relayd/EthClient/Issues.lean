import Relayd.Lib.History
import Relayd.Common.Config
import Relayd.Common.Source

/-!
# The processing history of a source

A source carries the notes of its last updates, newest first. The number of
attempts at a failing source is stored nowhere: `handleSourceConfig` recounts it
in these notes, which every cast extends and truncates.
-/

namespace Relayd.EthClient
set_option autoImplicit false
open Relayd.Common Sys

/-- The first UTF-16 units of a text, of which a character beyond the basic plane has two. A cut between the two leaves
half a character, for which the replacement character stands here. -/
def takeUnits (units : Nat) : List Char → List Char
  | [] => []
  | c :: cs =>
    let size := if c.val < 0x10000 then 1 else 2
    if units = 0 then []
    else if size ≤ units then c :: takeUnits (units - size) cs
    else [Char.ofNat 0xFFFD]

/-- `text?.substr(0, length)` -/
def substr (length : Nat) (text : String) : String := String.ofList (takeUnits length text.toList)

/-- Number of notes of a type. The `return` on a note of another type only leaves the callback of
`forEach`: the whole history is counted, not just the last row. -/
def countIssueInLastRow (sourceConfig : FeedConfigSource) (issueType : ESourceCastReason) : Nat :=
  match sourceConfig.issue with
  | none => 0
  | some issues => issues.foldl (fun countIssue issue => if issue.type = issueType then countIssue + 1 else countIssue) 0

/-- Puts a note at the head of the history, at the expense of the oldest one once the history is full. -/
def issueSourceProcessingNote (config : RelaydConfig) (serviceId : String) (source : FeedConfigSource)
    (reason : ESourceCastReason) (info : Option String) : FeedConfigSource :=
  let issue :=
    match source.issue with
    | none => []
    | some issue => if (issue.length : Int) > (config.sourceIssueMaxNumber : Int) - 1 then issue.dropLast else issue
  { source with
    issue := some ({ issuer := serviceId, type := reason, info := info.map (substr 512) } :: issue) }

/-- A cut text has a character for every two units at least. -/
theorem takeUnits_length (units : Nat) (text : List Char) :
    (takeUnits units text).length ≤ text.length ∧ min units (2 * text.length) ≤ 2 * (takeUnits units text).length := by
  induction text generalizing units with
  | nil => simp [takeUnits]
  | cons c cs ih =>
    have size : 1 ≤ (if c.val < 0x10000 then 1 else 2) ∧ (if c.val < 0x10000 then 1 else 2) ≤ 2 := by
      split <;> omega
    rw [takeUnits]
    generalize (if c.val < 0x10000 then 1 else 2) = n at size
    have rest := ih (units - n)
    by_cases none : units = 0
    · simp [none]
    · by_cases fits : n ≤ units
      · simp only [none, fits, ↓reduceIte, List.length_cons]
        omega
      · simp only [none, fits, ↓reduceIte, List.length_cons, List.length_nil]
        omega

/-- A text that is cut at 512 units is short exactly when it was short before. -/
theorem substr_short_iff (text : String) : (substr 512 text).length ≤ 255 ↔ text.length ≤ 255 := by
  have cut := takeUnits_length 512 text.toList
  rw [String.length_toList] at cut
  rw [substr, String.length_ofList]
  omega

/-- The notes of a source. -/
def notes (source : FeedConfigSource) : List ProcessingIssue := source.issue.getD []

section
variable (config : RelaydConfig) (serviceId : String) (source : FeedConfigSource) (reason : ESourceCastReason)
  (info : Option String)

@[simp] theorem note_status :
    (issueSourceProcessingNote config serviceId source reason info).status = source.status := rfl

/-- A note is pushed on the history, which keeps `sourceIssueMaxNumber` of them. -/
theorem notes_note :
    notes (issueSourceProcessingNote config serviceId source reason info) =
      push config.sourceIssueMaxNumber { issuer := serviceId, type := reason, info := info.map (substr 512) } (notes source) := by
  unfold issueSourceProcessingNote notes push
  cases source.issue with
  | none => simp
  | some issue =>
    by_cases full : (issue.length : Int) > (config.sourceIssueMaxNumber : Int) - 1
    · have filled : ¬ issue.length < config.sourceIssueMaxNumber := by omega
      simp [full, filled, List.dropLast_eq_take]
    · have room : issue.length < config.sourceIssueMaxNumber := by omega
      simp [full, room]

end

theorem count_eq_countP (source : FeedConfigSource) (reason : ESourceCastReason) :
    countIssueInLastRow source reason = (notes source).countP fun issue => issue.type = reason := by
  unfold countIssueInLastRow notes
  cases source.issue with
  | none => rfl
  | some issues =>
    have general : ∀ start, issues.foldl (fun countIssue issue =>
        if issue.type = reason then countIssue + 1 else countIssue) start =
          start + issues.countP fun issue => issue.type = reason := by
      induction issues with
      | nil => simp
      | cons issue issues ih =>
        intro start
        simp only [List.foldl_cons, ih, List.countP_cons, decide_eq_true_eq]
        split <;> omega
    simpa using general 0

end Relayd.EthClient
