namespace FlowRuns

/-!
# Store faults

Faults of the connection and of input and output are transport faults, after
which the same read may well succeed.
-/

/-- Why a store did not answer a read. -/
inductive StoreFault where
  | connection (detail : String)
  | io (detail : String)
  | tableNotFound (table : String)
  | decode (detail : String)
  deriving DecidableEq

namespace StoreFault

/-- The wording of a fault. -/
def message : StoreFault → String
  | .connection detail => "Connection error: " ++ detail
  | .io detail => "IO error: " ++ detail
  | .tableNotFound table => "Table not found: " ++ table
  | .decode detail => "Decode error: " ++ detail

/-- Whether the fault lies in the transport. -/
def isTransport : StoreFault → Bool
  | .connection _ => true
  | .io _ => true
  | .tableNotFound _ => false
  | .decode _ => false

end StoreFault
end FlowRuns
