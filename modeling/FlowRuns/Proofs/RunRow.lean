import FlowRuns.Proofs.Schema
import FlowRuns.Proofs.Table.Selection
import FlowRuns.RunRow
import Mathlib.Data.List.Basic

namespace FlowRuns

/-!
# What a run reports of a row

The fixed columns report what their versions come to, and that is the same
for rows that are alike.  Metrics are gathered by name from the whole row.  If
the cells among the metrics all lie in columns of metrics, gathering by name is
reading by column, and then the metrics of alike rows are the same too.
-/

variable {schema : Schema}

namespace Row

/-- The cells among the metrics whose columns read as a name. -/
def cellsNamed (row : Row) (schema : Schema) (name : String) : List Cell :=
  (row.cellsUnder schema.family schema.metrics.start).filter fun cell =>
    schema.metrics.name? cell.column.qualifier = some name

theorem cellsNamed_eq {row : Row} (named : ∀ cell ∈ row.cells, schema.Named cell) (name : String) :
    row.cellsNamed schema name = row.stored (schema.metric name) := by
  rw [cellsNamed, cellsUnder, List.filter_filter, stored]
  apply List.filter_congr
  intro cell member
  rw [Bool.eq_iff_iff, Bool.and_eq_true_iff, decide_eq_true_iff, decide_eq_true_iff, and_comm]
  exact (Schema.column_eq_metric_iff (named cell member) name).symm

end Row

namespace Run

theorem fixedNumber_eq {first second : Row} (alike : first.Alike second) (column : FixedColumn) :
    fixedNumber schema first column = fixedNumber schema second column := by
  rw [fixedNumber, fixedNumber, Row.versions_eq alike]

/-- The number that the versions of a fixed column are merged into.  Listing them
newest first makes no difference, because they are folded in the order of time. -/
theorem fixedNumber_of_aggregator {column : FixedColumn} {aggregator : Aggregator}
    (merged : column.aggregator = some aggregator) (row : Row) :
    fixedNumber schema row column = aggregator.foldCells (row.stored (schema.fixed column)) := by
  rw [fixedNumber, merged]
  exact aggregator.foldCells_eq (Cell.newestFirst_alike _)

theorem fixedText_eq {first second : Row} (alike : first.Alike second) (column : FixedColumn) :
    fixedText schema first column = fixedText schema second column := by
  rw [fixedText, fixedText, Row.latest?_eq alike]

/-- The metrics that a run of a row carries under a selection. -/
def carried (schema : Schema) (mode : ReadMode) (selection : FieldSelection) (row : Row) :
    SortedMap String Metric :=
  if selection.readsMetrics mode then metricsOf schema row else SortedMap.empty

/-- Runs of rows at one key with the same fixed columns differ in their metrics
alone. -/
theorem ofRow_eq_map {first second : Row}
    (fixed : ∀ column, first.stored (schema.fixed column) = second.stored (schema.fixed column))
    (key : first.key = second.key)
    (scope : Scope) (mode : ReadMode) (selection : FieldSelection) :
    ofRow schema scope mode selection first =
      (ofRow schema scope mode selection second).map fun run =>
        { run with metrics := carried schema mode selection first } := by
  have number : numberOf scope mode first = numberOf scope mode second := by
    rw [numberOf.eq_def, numberOf.eq_def, key]
  rw [ofRow, ofRow, number]
  simp only [fixedNumber, fixedText, Row.versions, Row.latest?, fixed]
  cases numberOf scope mode second <;> rfl

theorem metrics_of_ofRow {scope : Scope} {mode : ReadMode} {selection : FieldSelection} {row : Row}
    {run : Run} (made : ofRow schema scope mode selection row = .ok run) :
    run.metrics = carried schema mode selection row := by
  rw [ofRow] at made
  cases numbered : numberOf scope mode row with
  | error error =>
      rw [numbered] at made
      cases made
  | ok number =>
      rw [numbered] at made
      cases made
      rfl

/-! ## Metrics by column -/

/-- The data points of a metric are the numbers in the columns that read as its
name. -/
theorem under_points (row : Row) (name : String) :
    SortedMap.under name
        ((row.cellsUnder schema.family schema.metrics.start).filterMap (pointOf? schema.metrics)) =
      Version.ofCells (row.cellsNamed schema name) := by
  rw [SortedMap.under, List.filter_filterMap, List.map_filterMap, Version.ofCells, Row.cellsNamed,
    List.filterMap_filter]
  apply List.filterMap_congr
  intro cell _
  rw [pointOf?]
  cases read : schema.metrics.name? cell.column.qualifier with
  | none => simp
  | some another =>
      cases Version.ofCell? cell with
      | none => simp
      | some version => by_cases same : another = name <;> simp [Option.filter, same]

/-- The reported metric of a name is what the numbers come to that are stored in
columns that read as the name. -/
theorem find?_metricsOf_cellsNamed (row : Row) (name : String) :
    (metricsOf schema row).find? name =
      metricOf? schema.metrics.aggregator (Version.ofCells (row.cellsNamed schema name)) := by
  rw [metricsOf, SortedMap.find?_filterMap, points, SortedMap.find?_gather, under_points]
  by_cases empty : Version.ofCells (row.cellsNamed schema name) = []
  · rw [if_pos empty, empty, metricOf?, schema.metrics.aggregator.fold_eq_none_iff.mpr rfl]
    rfl
  · rw [if_neg empty, Option.bind_some]

/-- The reported metric of a name is what the numbers in its column come to. -/
theorem find?_metricsOf {row : Row} (named : ∀ cell ∈ row.cells, schema.Named cell)
    (name : String) :
    (metricsOf schema row).find? name =
      metricOf? schema.metrics.aggregator (Version.ofCells (row.stored (schema.metric name))) := by
  rw [find?_metricsOf_cellsNamed, Row.cellsNamed_eq named]

theorem metricsOf_eq {first second : Row} (alike : first.Alike second)
    (named : ∀ cell ∈ second.cells, schema.Named cell) :
    metricsOf schema first = metricsOf schema second := by
  apply SortedMap.ext_find?
  intro name
  rw [find?_metricsOf (fun cell member => named cell (alike.mem_of_mem member)),
    find?_metricsOf named, metricOf?, metricOf?,
    schema.metrics.aggregator.fold_eq (Version.ofCells_alike (alike (schema.metric name)))]

/-- Alike rows at one key report the same run. -/
theorem ofRow_eq {first second : Row} (alike : first.Alike second) (key : first.key = second.key)
    (named : ∀ cell ∈ second.cells, schema.Named cell) (scope : Scope) (mode : ReadMode)
    (selection : FieldSelection) :
    ofRow schema scope mode selection first = ofRow schema scope mode selection second := by
  have number : numberOf scope mode first = numberOf scope mode second := by
    rw [numberOf.eq_def, numberOf.eq_def, key]
  rw [ofRow, ofRow, number, fixedNumber_eq alike, fixedNumber_eq alike, fixedText_eq alike,
    metricsOf_eq alike named]

/-! ## The number of a run -/

theorem numberOf_range (scope : Scope) {row : Row} {key : RunKey}
    (read : RunKey.decode row.key = .ok key) : numberOf scope .range row = .ok key.run := by
  rw [numberOf, read]

/-- In a range the run of a row has the number in its key. -/
theorem ofRow_range (schema : Schema) (scope : Scope) (selection : FieldSelection) {row : Row}
    {key : RunKey} (read : RunKey.decode row.key = .ok key) :
    ∃ run, ofRow schema scope .range selection row = .ok run ∧ run.number = key.run := by
  rw [ofRow, numberOf_range scope read]
  exact ⟨_, rfl, rfl⟩

/-- A run of a range has its user and flow from the scope, and its number from
the key of its row. -/
theorem of_ofRow_range {scope : Scope} {selection : FieldSelection} {row : Row} {run : Run}
    (made : ofRow schema scope .range selection row = .ok run) :
    ∃ key, RunKey.decode row.key = .ok key ∧ run.user = scope.user ∧ run.flow = scope.flow ∧
      run.number = key.run := by
  cases read : RunKey.decode row.key with
  | error fault =>
      rw [ofRow, numberOf, read] at made
      cases made
  | ok key =>
      rw [ofRow, numberOf_range scope read] at made
      cases made
      exact ⟨key, rfl, rfl, rfl, rfl⟩

/-- A single read of the run in the key of a row agrees with a range read, if
that reads metrics too. -/
theorem ofRow_single (schema : Schema) (scope : Scope) {selection : FieldSelection}
    (wanted : selection.wants .metrics) {row : Row} {key : RunKey}
    (read : RunKey.decode row.key = .ok key) :
    ofRow schema (scope.withRun key.run) .single selection row =
      ofRow schema scope .range selection row := by
  have reads : ∀ mode, selection.readsMetrics mode = true := by
    intro mode
    rw [FieldSelection.readsMetrics, wanted, Bool.or_true]
  rw [ofRow, ofRow, numberOf_range scope read, reads, reads]
  rfl

end Run
end FlowRuns
