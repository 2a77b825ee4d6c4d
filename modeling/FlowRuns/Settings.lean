import FlowRuns.Text.Count
import FlowRuns.Text.Utf8

namespace FlowRuns

/-!
# Settings of a reader

A reader is told the table of the flow runs and the number of runs that a
range read returns at most when its caller gives no limit.  Both may be set by
environment variables.  A limit loaded from there is never zero.
-/

/-- Where a reader reads, and how much. -/
structure Settings where
  table : String := "timelineservice.flowrun"
  defaultLimit : UInt64 := 100
  deriving DecidableEq

namespace Settings

/-- Why an environment gives no settings. -/
inductive Fault where
  | limitUnreadable (fault : Text.CountFault)
  | limitZero
  deriving DecidableEq

/-- The wording of a fault. -/
def Fault.message : Fault → String
  | .limitUnreadable fault => "Invalid TIMELINE_DEFAULT_LIMIT: " ++ fault.message
  | .limitZero => "TIMELINE_DEFAULT_LIMIT must be positive"

/-- Check a limit that an environment gives. -/
def readLimit (text : String) : Except Fault UInt64 :=
  match Text.count text with
  | .error fault => .error (.limitUnreadable fault)
  | .ok limit => if limit = 0 then .error .limitZero else .ok limit

/-- The settings of an environment.  A variable whose value is not UTF-8
counts as unset, and an unset variable leaves its default. -/
def ofEnvironment (lookup : String → Option Bytes) : Except Fault Settings := do
  let standard : Settings := {}
  let text := fun name => (lookup name).bind Text.ofBytes?
  let limit ← match text "TIMELINE_DEFAULT_LIMIT" with
    | none => pure standard.defaultLimit
    | some written => readLimit written
  return ⟨(text "TIMELINE_FLOWRUN_TABLE").getD standard.table, limit⟩

/-- The limit that holds when a caller asks for one, or for none.  Asking for
zero is asking for none. -/
def effectiveLimit (settings : Settings) (requested : Option UInt64) : UInt64 :=
  match requested with
  | none => settings.defaultLimit
  | some limit => if limit = 0 then settings.defaultLimit else limit

end Settings
end FlowRuns
