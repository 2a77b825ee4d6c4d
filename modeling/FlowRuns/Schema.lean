import FlowRuns.Key.Component
import FlowRuns.Table.Aggregator

namespace FlowRuns

/-!
# Columns of the run table

Every column of a run lies in one family.  Three columns are fixed.  Metrics
have one column each, whose qualifier is the name of the metric as a
component behind a common beginning, and each data point of a metric is a
version of its column.
-/

/-- The columns that every run may have. -/
inductive FixedColumn where
  | started
  | ended
  | version
  deriving DecidableEq

namespace FixedColumn

/-- The fixed columns in the order in which they are listed. -/
def list : List FixedColumn := [.started, .ended, .version]

def qualifier : FixedColumn → Bytes
  | .started => Text.bytes "min_start_time"
  | .ended => Text.bytes "max_end_time"
  | .version => Text.bytes "flow_version"

/-- How the versions of the column are merged.  Of a column without an
aggregator only the newest version counts. -/
def aggregator : FixedColumn → Option Aggregator
  | .started => some .min
  | .ended => some .max
  | .version => none

end FixedColumn

/-- Columns whose qualifiers begin alike and go on with a name. -/
structure ColumnGroup where
  start : Bytes
  aggregator : Aggregator

namespace ColumnGroup

/-- The columns behind a first component. -/
def named (name : String) (aggregator : Aggregator) : ColumnGroup :=
  ⟨Component.joinTerminated [name], aggregator⟩

/-- The qualifier of the column with a name. -/
def qualifier (group : ColumnGroup) (name : String) : Bytes :=
  group.start ++ Component.encode name

/-- The bytes that follow a beginning. -/
def rest? (start raw : Bytes) : Option Bytes :=
  if start.isPrefixOf raw then some (raw.drop start.length) else none

/-- The name of the column with a qualifier. -/
def name? (group : ColumnGroup) (qualifier : Bytes) : Option String :=
  (rest? group.start qualifier).bind Component.decode?

end ColumnGroup

/-- Where a run keeps its columns. -/
structure Schema where
  family : Bytes
  metrics : ColumnGroup

namespace Schema

/-- The layout of the table, with a choice of how metrics are merged. -/
def ofAggregator (aggregator : Aggregator) : Schema where
  family := Text.bytes "i"
  metrics := ColumnGroup.named "m" aggregator

/-- The layout in which the data points of a metric add up. -/
def standard : Schema := ofAggregator .sum

/-- The full name of a fixed column. -/
def fixed (schema : Schema) (column : FixedColumn) : Column :=
  ⟨schema.family, column.qualifier⟩

/-- The full name of the column of a metric. -/
def metric (schema : Schema) (name : String) : Column :=
  ⟨schema.family, schema.metrics.qualifier name⟩

end Schema
end FlowRuns
