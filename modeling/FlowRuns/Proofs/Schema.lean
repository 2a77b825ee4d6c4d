import FlowRuns.Proofs.Key.Component
import FlowRuns.Schema

namespace FlowRuns

/-!
# Metrics and their columns

A metric has one column, and the name of the metric is read back from its
qualifier.  A table may hold other qualifiers behind the beginning of the
metrics as well.  Where it holds none, a stored cell is a data point of a
metric exactly if it lies in the column of that metric.
-/

theorem FixedColumn.mem_list (column : FixedColumn) : column ∈ list := by
  cases column <;> decide

namespace ColumnGroup

theorem rest?_append (start tail : Bytes) : rest? start (start ++ tail) = some tail := by
  rw [rest?, if_pos (List.isPrefixOf_iff_prefix.mpr (List.prefix_append start tail)),
    List.drop_left]

@[simp]
theorem name?_qualifier (group : ColumnGroup) (name : String) :
    group.name? (group.qualifier name) = some name := by
  rw [name?, qualifier, rest?_append, Option.bind_some, Component.decode?_encode]

theorem start_prefix_qualifier (group : ColumnGroup) (name : String) :
    group.start <+: group.qualifier name :=
  List.prefix_append _ _

theorem qualifier_prefix_qualifier_iff (group : ColumnGroup) {start name : String} :
    group.qualifier start <+: group.qualifier name ↔ start.toList <+: name.toList := by
  rw [qualifier, qualifier, List.prefix_append_right_inj, Component.encode_prefix_encode_iff]

/-- Whether no fixed column lies behind the beginning of a group. -/
def Apart (group : ColumnGroup) : Prop :=
  ∀ column : FixedColumn, group.start.isPrefixOf column.qualifier = false

/-- The first component of a group ends with a separator, and no fixed column
has one in its qualifier. -/
theorem apart_named (name : String) (aggregator : Aggregator) : (named name aggregator).Apart := by
  intro column
  have free : Component.separator ∉ column.qualifier := by
    cases column <;> decide
  have ends : Component.separator ∈ (named name aggregator).start := by
    simp [named, Component.joinTerminated]
  rw [← Bool.not_eq_true, List.isPrefixOf_iff_prefix]
  intro begins
  exact free (begins.subset ends)

theorem Apart.not_qualifier_prefix {group : ColumnGroup} (apart : group.Apart) (name : String)
    (column : FixedColumn) : (group.qualifier name).isPrefixOf column.qualifier = false := by
  rw [← Bool.not_eq_true, List.isPrefixOf_iff_prefix]
  intro begins
  have behind := (group.start_prefix_qualifier name).trans begins
  rw [← List.isPrefixOf_iff_prefix, apart column] at behind
  exact Bool.false_ne_true behind

theorem Apart.qualifier_ne {group : ColumnGroup} (apart : group.Apart) (name : String)
    (column : FixedColumn) : group.qualifier name ≠ column.qualifier := by
  intro same
  have outside := apart.not_qualifier_prefix name column
  rw [same, ← Bool.not_eq_true, List.isPrefixOf_iff_prefix] at outside
  exact outside List.prefix_rfl

end ColumnGroup

namespace Schema

/-- The layout in which metrics lie in a family behind a first component. -/
def ofComponent (family : Bytes) (component : String) (aggregator : Aggregator) : Schema :=
  ⟨family, ColumnGroup.named component aggregator⟩

/-- Whether a cell lies among the metrics: in the family of runs, behind the
beginning of the metrics. -/
def amongMetrics (schema : Schema) (cell : Cell) : Bool :=
  cell.column.family = schema.family && schema.metrics.start.isPrefixOf cell.column.qualifier

/-- A cell that, if it lies among the metrics, lies in the column of one. -/
def Named (schema : Schema) (cell : Cell) : Prop :=
  schema.amongMetrics cell → ∃ name, cell.column = schema.metric name

theorem amongMetrics_of_metric (schema : Schema) {cell : Cell} {name : String}
    (own : cell.column = schema.metric name) : schema.amongMetrics cell := by
  rw [amongMetrics, own, Bool.and_eq_true_iff]
  exact ⟨by simp [metric], List.isPrefixOf_iff_prefix.mpr
    (schema.metrics.start_prefix_qualifier name)⟩

theorem name?_of_metric (schema : Schema) {column : Column} {name : String}
    (own : column = schema.metric name) : schema.metrics.name? column.qualifier = some name := by
  rw [own]
  exact schema.metrics.name?_qualifier name

theorem column_eq_metric_iff {schema : Schema} {cell : Cell} (named : schema.Named cell)
    (name : String) :
    cell.column = schema.metric name ↔
      schema.amongMetrics cell ∧ schema.metrics.name? cell.column.qualifier = some name := by
  constructor
  · intro own
    exact ⟨schema.amongMetrics_of_metric own, schema.name?_of_metric own⟩
  · rintro ⟨among, read⟩
    rcases named among with ⟨other, own⟩
    have read' := schema.name?_of_metric own
    rw [read'] at read
    cases read
    exact own

/-- The fixed columns do not lie among the metrics. -/
theorem not_prefix_fixed (aggregator : Aggregator) (column : FixedColumn) :
    (ofAggregator aggregator).metrics.start.isPrefixOf column.qualifier = false :=
  ColumnGroup.apart_named "m" aggregator column

end Schema
end FlowRuns
