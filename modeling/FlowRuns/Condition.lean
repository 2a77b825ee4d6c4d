import FlowRuns.Table.Comparison

namespace FlowRuns

/-!
# Conditions on metrics

A caller restricts a read by conditions on metrics.  A condition compares the
value of one metric, or looks at how the name of a metric begins, or is a
group of conditions of which all or any must hold.
-/

/-- How many conditions of a group must hold. -/
inductive Connective where
  | and
  | or
  deriving DecidableEq

/-- A condition on the metrics of a run. -/
inductive Condition where
  /-- The value of a metric.  Runs without the metric fail if it must exist. -/
  | compare (comparison : Comparison) (metric : String) (operand : Int64) (mustExist : Bool)
  /-- The beginning of the name of a metric. -/
  | named (comparison : Comparison) (start : String)
  | group (connective : Connective) (conditions : List Condition)

/-- The group of conditions that a caller hands in. -/
structure ConditionGroup where
  connective : Connective := .and
  conditions : List Condition := []

namespace ConditionGroup

/-- Whether the group has no condition. -/
def isEmpty (group : ConditionGroup) : Bool :=
  group.conditions.isEmpty

/-- The group, unless it is absent or has no condition. -/
def nonempty? (group : Option ConditionGroup) : Option ConditionGroup :=
  group.filter fun group => !group.isEmpty

end ConditionGroup

/-- Restrictions on a range read.  They select runs by creation time and by
metrics, and bound how many of them are returned. -/
structure RunFilter where
  createdFrom : Int64 := 0
  createdTo : Int64 := Int64.maxValue
  metrics : Option ConditionGroup := none
  limit : Option UInt64 := none

namespace RunFilter

/-- Whether a bound on the creation time differs from what it is by default. -/
def restrictsCreation (filter : RunFilter) : Bool :=
  filter.createdFrom != 0 || filter.createdTo != Int64.maxValue

/-- The conditions on metrics, if there are any. -/
def metricConditions (filter : RunFilter) : Option ConditionGroup :=
  ConditionGroup.nonempty? filter.metrics

end RunFilter
end FlowRuns
