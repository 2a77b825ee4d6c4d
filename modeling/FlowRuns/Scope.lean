import FlowRuns.Text.Blank

namespace FlowRuns

/-!
# The scope of a read

A read names a cluster, a user and a flow.  A single read also names a run of
the flow, and a range read covers all of them.  The three names must not be
blank, and they are checked in this order before the number of the run is.
-/

/-- Whether a read is for one run or for the runs of a flow. -/
inductive ReadMode where
  | single
  | range
  deriving DecidableEq

/-- What a read is about. -/
structure Scope where
  cluster : String
  user : String
  flow : String
  run : Option Int64 := none
  deriving DecidableEq

namespace Scope

/-- The same flow with a run chosen. -/
def withRun (scope : Scope) (run : Int64) : Scope :=
  { scope with run := some run }

/-- The scope as text. -/
def text (scope : Scope) : String :=
  let flow := scope.cluster ++ "/" ++ scope.user ++ "@" ++ scope.flow
  match scope.run with
  | none => flow
  | some run => flow ++ "/" ++ toString run.toInt

/-- Why a scope does not address a row or the rows of a flow. -/
inductive Fault where
  | blankCluster
  | blankUser
  | blankFlow
  | runMissing
  deriving DecidableEq

/-- The wording of a fault. -/
def Fault.message : Fault → String
  | .blankCluster => "cluster id shouldn't be empty"
  | .blankUser => "user id shouldn't be empty"
  | .blankFlow => "flow name shouldn't be empty"
  | .runMissing => "flow run id is required for a single entity read"

/-- The first fault of a scope, if it has one. -/
def fault? (scope : Scope) (mode : ReadMode) : Option Fault :=
  if Text.isBlank scope.cluster then some .blankCluster
  else if Text.isBlank scope.user then some .blankUser
  else if Text.isBlank scope.flow then some .blankFlow
  else if mode = .single ∧ scope.run = none then some .runMissing
  else none

end Scope
end FlowRuns
