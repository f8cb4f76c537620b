import Relayd.Common.Source

/-!
# Topics and errors

`kafka.config.ts`, `rpc.error.ts` and `writeToStream` of `kafka.utils.ts`.
-/

namespace Relayd.Common
set_option autoImplicit false

inductive ETopic
  | ERROR_FEED
  | ERROR_SOURCE
  | FEED_CONFIG
  | SOURCE_CONFIG
  | SOURCE_DATA
  | SOURCE_POLLING
  deriving DecidableEq

def ETopic.text : ETopic → String
  | .ERROR_FEED => "relayd.error.feed"
  | .ERROR_SOURCE => "relayd.error.source"
  | .FEED_CONFIG => "relayd.feed"
  | .SOURCE_CONFIG => "relayd.source"
  | .SOURCE_DATA => "relayd.source.data"
  | .SOURCE_POLLING => "relayd.source.polling"

inductive EErrorType
  | SOURCE_CONFIG_NETWORK_NOSUPPORT
  | SOURCE_CONFIG_INVALID
  | SOURCE_CONFIG_HANDLING_FAIL
  | SOURCE_CONFIG_MERGE_FAIL
  | SOURCE_CONFIG_GENERAL_FAIL
  | SOURCE_POLLING_CAST_FAIL
  | SOURCE_POLLING_HANDLE_FAIL
  deriving DecidableEq

def EErrorType.text : EErrorType → String
  | .SOURCE_CONFIG_NETWORK_NOSUPPORT => "source.config.handling.network.nosupport"
  | .SOURCE_CONFIG_INVALID => "source.config.invalid"
  | .SOURCE_CONFIG_HANDLING_FAIL => "source.config.handling.fail"
  | .SOURCE_CONFIG_MERGE_FAIL => "source.config.merge.fail"
  | .SOURCE_CONFIG_GENERAL_FAIL => "source.config.general.fail"
  | .SOURCE_POLLING_CAST_FAIL => "source.polling.cast.fail"
  | .SOURCE_POLLING_HANDLE_FAIL => "source.polling.handle.fail"

/-- An `Error` with this message, as string concatenation renders it. Errors are kept in this form. -/
def errorText (message : String) : String := "Error: " ++ message

/-- Throws an error that adds a message in front of the one it caught. -/
def rethrow {α : Type} (message : String) (result : Except String α) : Except String α :=
  result.mapError fun error => errorText (message ++ error)

/-- The error with which `writeToStream` rejects. -/
def writeToStreamError (topic : ETopic) (key : String) : String :=
  errorText ("Failed to write message to stream '" ++ topic.text ++ "' with key '" ++ key ++ "'")

@[simp] theorem rethrow_ok {α : Type} (message : String) (value : α) : rethrow message (.ok value) = .ok value := rfl

section
variable {α β : Type}

theorem rethrow_eq_ok {message : String} {result : Except String α} {value : α} :
    rethrow message result = .ok value ↔ result = .ok value := by
  cases result <;> simp [rethrow, Except.mapError]

theorem bind_eq_ok {result : Except String α} {next : α → Except String β} {value : β} :
    (result >>= next) = .ok value ↔ ∃ a, result = .ok a ∧ next a = .ok value := by
  cases result <;> simp [bind, Except.bind]

theorem map_eq_ok {result : Except String α} {f : α → β} {value : β} :
    result.map f = .ok value ↔ ∃ a, result = .ok a ∧ f a = value := by
  cases result <;> simp [Except.map]

theorem toOption_eq_some {result : Except String α} {value : α} : result.toOption = some value ↔ result = .ok value := by
  cases result <;> simp [Except.toOption]

end

end Relayd.Common
