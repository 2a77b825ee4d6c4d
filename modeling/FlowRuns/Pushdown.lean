import FlowRuns.FieldSelection
import FlowRuns.Schema
import FlowRuns.Table.Predicate

namespace FlowRuns

/-!
# Predicates of a read

Restrictions and selections are handed to the store as predicates, which
decide there which cells are returned.  A part of the request that says
nothing becomes a group without children.
-/

/-- The test that the time a run started at lies on one side of a bound.  The
time is the least one stored, and a run without one fails. -/
def Schema.startedTest (schema : Schema) (comparison : Comparison) (bound : Int64) : ColumnTest where
  column := schema.fixed .started
  comparison := comparison
  operand := .number bound
  rejectMissing := true
  fold := FixedColumn.aggregator .started

/-- Runs that started between two times, both included. -/
def Schema.createdBetween (schema : Schema) (first last : Int64) : Predicate :=
  .all [.value (schema.startedTest .greaterOrEqual first),
    .value (schema.startedTest .lessOrEqual last)]

/-- The test of the value that a run reports for a metric. -/
def Schema.metricTest (schema : Schema) (comparison : Comparison) (metric : String)
    (operand : Int64) (mustExist : Bool) : ColumnTest where
  column := schema.metric metric
  comparison := comparison
  operand := .number operand
  rejectMissing := mustExist
  fold := some schema.metrics.aggregator

/-- The group of predicates that a connective makes. -/
def Connective.group : Connective → List Predicate → Predicate
  | .and, children => .all children
  | .or, children => .any children

namespace Condition

mutual

/-- A condition as a predicate.  The beginning of a name, escaped, is also the
beginning of the escaped name. -/
def predicate (schema : Schema) : Condition → Predicate
  | .compare comparison metric operand mustExist =>
      .value (schema.metricTest comparison metric operand mustExist)
  | .named comparison start =>
      .qualifier comparison (.front (schema.metrics.qualifier start))
  | .group connective conditions => connective.group (predicates schema conditions)

/-- Conditions as predicates, one each. -/
def predicates (schema : Schema) : List Condition → List Predicate
  | [] => []
  | condition :: rest => predicate schema condition :: predicates schema rest

end

end Condition

/-- A group of conditions as a predicate. -/
def ConditionGroup.predicate (schema : Schema) (group : ConditionGroup) : Predicate :=
  group.connective.group (Condition.predicates schema group.conditions)

/-- The restrictions on runs.  Each kind is there only if the caller restricted it. -/
def RunFilter.predicate (schema : Schema) (filter : RunFilter) : Predicate :=
  let created := if filter.restrictsCreation then
    [schema.createdBetween filter.createdFrom filter.createdTo] else []
  let metrics := filter.metricConditions.toList.map (ConditionGroup.predicate schema)
  .all (created ++ metrics)

/-- The tests for the fixed columns, one each. -/
def FixedColumn.predicates : List Predicate :=
  FixedColumn.list.map fun column => .qualifier .equal (.whole column.qualifier)

/-- The cells of the family of runs that a further predicate admits. -/
def Schema.within (schema : Schema) (predicate : Predicate) : Predicate :=
  .all [.family .equal schema.family, predicate]

/-- The choice of columns.  There is no predicate if every column is wanted. -/
def FieldSelection.predicate (schema : Schema) (selection : FieldSelection) (mode : ReadMode) :
    Predicate :=
  match ColumnChoice.ofSelection mode selection, selection.metricConditions with
  | .withoutMetrics, _ =>
      .any [schema.within (.qualifier .notEqual (.front schema.metrics.start))]
  | .pickedMetrics, some picked =>
      .any [schema.within (.any (FixedColumn.predicates ++ [picked.predicate schema]))]
  | _, _ => .any []

end FlowRuns
