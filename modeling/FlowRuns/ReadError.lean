import FlowRuns.Key.RunKey
import FlowRuns.Scope
import FlowRuns.Settings
import FlowRuns.Table.Fault

namespace FlowRuns

/-!
# Errors of a reader

A read fails because of what was asked, because of a stored row, because of
the store, or because of the settings.  Each part of the library has its own
faults, and here they come together under these four headings.
-/

/-- Why a read has no answer. -/
inductive ReadError where
  | invalid (detail : String)
  | malformedRow (detail : String)
  | store (fault : StoreFault)
  | settings (detail : String)
  deriving DecidableEq

namespace ReadError

/-- The error of a scope at fault. -/
def ofScope (fault : Scope.Fault) : ReadError := .invalid fault.message

/-- The error of a row key at fault. -/
def ofKey (fault : RunKey.Fault) : ReadError := .malformedRow fault.message

/-- The error of an environment at fault. -/
def ofSettings (fault : Settings.Fault) : ReadError := .settings fault.message

/-- The name of the heading. -/
def code : ReadError → String
  | .invalid _ => "VALIDATION_ERROR"
  | .malformedRow _ => "MALFORMED_ROW"
  | .store _ => "STORE_ERROR"
  | .settings _ => "CONFIG_ERROR"

/-- The wording of an error. -/
def message : ReadError → String
  | .invalid detail => "Validation error: " ++ detail
  | .malformedRow detail => "Malformed row: " ++ detail
  | .store fault => "Store error: " ++ fault.message
  | .settings detail => "Configuration error: " ++ detail

/-- Whether the same read may succeed when it is repeated. -/
def isRetryable : ReadError → Bool
  | .store fault => fault.isTransport
  | _ => false

end ReadError
end FlowRuns
