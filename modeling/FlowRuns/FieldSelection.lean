import FlowRuns.Condition
import FlowRuns.Scope

namespace FlowRuns

/-!
# Selecting fields

A caller names groups of fields and may pick metrics by conditions on their
names and values.  The two together with the mode of the read decide which
columns are fetched.
-/

/-- A group of fields.  `all` stands for every group. -/
inductive Field where
  | all
  | info
  | configs
  | events
  | isRelatedTo
  | relatesTo
  | metrics
  deriving DecidableEq

/-- Every group of fields, in the order in which a set of them is listed. -/
def Field.list : List Field :=
  [.all, .info, .configs, .events, .isRelatedTo, .relatesTo, .metrics]

/-- A set of groups of fields. -/
@[ext]
structure FieldSet where
  holds : Field → Bool

namespace FieldSet

/-- The set without members. -/
def empty : FieldSet := ⟨fun _ => false⟩

/-- The set with one more member. -/
def insert (set : FieldSet) (field : Field) : FieldSet :=
  ⟨fun other => other == field || set.holds other⟩

/-- The set of the members of a list. -/
def ofList (fields : List Field) : FieldSet :=
  ⟨fun field => fields.contains field⟩

/-- The members, each once and in the order of `Field.list`. -/
def toList (set : FieldSet) : List Field :=
  Field.list.filter set.holds

theorem mem_list (field : Field) : field ∈ Field.list := by
  cases field <;> decide

/-- A set is the set of its listed members. -/
@[simp]
theorem ofList_toList (set : FieldSet) : ofList set.toList = set := by
  ext field
  simp only [ofList, toList, List.contains_eq_mem, List.mem_filter, mem_list, true_and]
  exact Bool.decide_eq_true

end FieldSet

/-- What a caller wants of a run. -/
structure FieldSelection where
  fields : FieldSet := FieldSet.empty
  metrics : Option ConditionGroup := none

namespace FieldSelection

/-- Whether a group of fields is wanted. -/
def wants (selection : FieldSelection) (field : Field) : Bool :=
  selection.fields.holds .all || selection.fields.holds field

/-- The conditions that pick metrics, if there are any. -/
def metricConditions (selection : FieldSelection) : Option ConditionGroup :=
  ConditionGroup.nonempty? selection.metrics

/-- The selection with metrics wanted in case some are picked. -/
def augmented (selection : FieldSelection) : FieldSelection :=
  if selection.metricConditions.isSome then
    { selection with fields := selection.fields.insert .metrics }
  else selection

/-- Whether the runs of a read carry metrics.  A single read always does. -/
def readsMetrics (selection : FieldSelection) (mode : ReadMode) : Bool :=
  mode == .single || selection.wants .metrics

end FieldSelection

/-- Which columns a read fetches. -/
inductive ColumnChoice where
  /-- Every column of the info family but the metrics. -/
  | withoutMetrics
  /-- The fixed columns and the metrics that are picked. -/
  | pickedMetrics
  /-- Every column. -/
  | everything
  deriving DecidableEq

namespace ColumnChoice

/-- Picked metrics decide by themselves.  Otherwise only a range read that
does not want metrics goes without them. -/
def choose (mode : ReadMode) (wantsMetrics picksMetrics : Bool) : ColumnChoice :=
  match mode, wantsMetrics, picksMetrics with
  | _, _, true => .pickedMetrics
  | .range, false, false => .withoutMetrics
  | .range, true, false => .everything
  | .single, _, false => .everything

/-- The columns that a selection needs. -/
def ofSelection (mode : ReadMode) (selection : FieldSelection) : ColumnChoice :=
  choose mode (selection.wants .metrics) selection.metricConditions.isSome

end ColumnChoice
end FlowRuns
