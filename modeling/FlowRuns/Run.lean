import FlowRuns.SortedMap

namespace FlowRuns

/-!
# Flow runs

A flow run is one execution of a flow, as read back from the table.  Its
times and its version are present as far as they were stored.  Its metrics
are kept under their names, in the order of the names' code points, which is
the order of their UTF-8 bytes.
-/

/-- A metric over all of its data points, with the time of the newest one. -/
structure Metric where
  value : Int64
  timestamp : Int64
  deriving DecidableEq

/-- One execution of a flow. -/
@[ext]
structure Run where
  user : String
  flow : String
  number : Int64
  started : Option Int64 := none
  ended : Option Int64 := none
  version : Option String := none
  metrics : SortedMap String Metric := SortedMap.empty
  deriving DecidableEq

namespace Run

/-- The name of the run across flows. -/
def label (run : Run) : String :=
  run.user ++ "@" ++ run.flow ++ "/" ++ toString run.number.toInt

/-- The value of a metric that the run has. -/
def metricValue? (run : Run) (name : String) : Option Int64 :=
  (run.metrics.find? name).map Metric.value

end Run
end FlowRuns
