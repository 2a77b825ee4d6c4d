import FlowRuns.FieldSelection
import FlowRuns.ReadError
import FlowRuns.Run
import FlowRuns.Schema

namespace FlowRuns

/-!
# Runs from rows

A row gives a run.  The user and the flow come from the scope of the read, and
the number of the run from the scope of a single read or from the row key in a
range.  Everything else is as present as the row has it: a value that does not
read is passed over, and only a key that does not read is an error.
-/

namespace Run

/-- The number of the run that a row is about. -/
def numberOf (scope : Scope) (mode : ReadMode) (row : Row) : Except ReadError Int64 :=
  match mode with
  | .single =>
      match scope.run with
      | none => .error (.ofScope .runMissing)
      | some run => .ok run
  | .range =>
      match RunKey.decode row.key with
      | .error fault => .error (.ofKey fault)
      | .ok key => .ok key.run

/-- The number that a fixed column comes to. -/
def fixedNumber (schema : Schema) (row : Row) (column : FixedColumn) : Option Int64 :=
  let versions := row.versions (schema.fixed column)
  match column.aggregator with
  | some aggregator => aggregator.foldCells versions
  | none => (Version.ofCells versions).head?.map Version.value

/-- The text of a fixed column, which is its newest version. -/
def fixedText (schema : Schema) (row : Row) (column : FixedColumn) : Option String :=
  (row.latest? (schema.fixed column)).bind fun cell => Text.ofBytes? cell.value

/-- The metric that a cell is a data point of, with the data point. -/
def pointOf? (group : ColumnGroup) (cell : Cell) : Option (String × Version) := do
  let name ← group.name? cell.column.qualifier
  let version ← Version.ofCell? cell
  return (name, version)

/-- The data points of a row under the names of their metrics, in stored order. -/
def points (schema : Schema) (row : Row) : SortedMap String (List Version) :=
  SortedMap.gather
    ((row.cellsUnder schema.family schema.metrics.start).filterMap (pointOf? schema.metrics))

/-- What the data points of a metric come to. -/
def metricOf? (aggregator : Aggregator) (versions : List Version) : Option Metric :=
  (aggregator.fold versions).map fun version => ⟨version.value, version.timestamp⟩

/-- The metrics of a row. -/
def metricsOf (schema : Schema) (row : Row) : SortedMap String Metric :=
  (points schema row).filterMap (metricOf? schema.metrics.aggregator)

/-- The run that a row is about. -/
def ofRow (schema : Schema) (scope : Scope) (mode : ReadMode) (selection : FieldSelection)
    (row : Row) : Except ReadError Run :=
  (numberOf scope mode row).map fun number =>
    { user := scope.user
      flow := scope.flow
      number := number
      started := fixedNumber schema row .started
      ended := fixedNumber schema row .ended
      version := fixedText schema row .version
      metrics := if selection.readsMetrics mode then metricsOf schema row else SortedMap.empty }

end Run
end FlowRuns
