import FlowRuns.Proofs.Condition
import FlowRuns.Proofs.RunRow

namespace FlowRuns

/-!
# What the store decides for a read

The store judges restrictions by tests of columns, while a caller sees the
runs that are made of rows.  On a row whose metrics are all named and stored as
numbers the two agree, since tests and runs merge versions in the same way.
The columns that are left out of a read are among the metrics, so the run made
of the others is still the run of the whole row.
-/

variable {schema : Schema}

/-! ## Tests of columns -/

/-- A test of numbers compares what the stored versions of its column come to. -/
theorem ColumnTest.passes_folded (column : Column) (comparison : Comparison) (bound : Int64)
    (rejectMissing : Bool) (aggregator : Aggregator) (row : Row) :
    passes ⟨column, comparison, .number bound, rejectMissing, some aggregator⟩ row =
      if row.stored column = [] then !rejectMissing
      else (aggregator.foldCells (row.stored column)).any fun value =>
        comparison.holds (compare value bound) := by
  have merged := aggregator.foldCells_eq (Cell.newestFirst_alike (row.stored column))
  have empty := (Cell.newestFirst_alike (row.stored column)).nil_iff
  rw [← merged, passes, Row.versions]
  by_cases absent : row.stored column = []
  · rw [if_pos absent, empty.mpr absent]
  · rw [if_neg absent]
    cases listed : Cell.newestFirst (row.stored column) with
    | nil => exact absurd (empty.mp listed) absent
    | cons newest older =>
        simp only [order?]
        cases aggregator.foldCells (newest :: older) <;> rfl

namespace Schema

theorem startedTest_passes (comparison : Comparison) (bound : Int64) (row : Row) :
    (schema.startedTest comparison bound).passes row =
      (Run.fixedNumber schema row .started).any fun time =>
        comparison.holds (compare time bound) := by
  have reported : Run.fixedNumber schema row .started =
      Aggregator.min.foldCells (row.stored (schema.fixed .started)) :=
    Run.fixedNumber_of_aggregator rfl row
  rw [reported]
  refine (ColumnTest.passes_folded _ comparison bound true .min row).trans ?_
  split
  · next absent =>
      rw [absent, Aggregator.min.foldCells_eq_none_iff.mpr rfl]
      rfl
  · rfl

theorem createdBetween_admits (first last : Int64) (row : Row) (cell : Cell) :
    (schema.createdBetween first last).admits row cell =
      (Run.fixedNumber schema row .started).any fun time => first ≤ time && time ≤ last := by
  rw [createdBetween, Predicate.admits_all, List.all_cons, List.all_cons, List.all_nil,
    Bool.and_true, Predicate.admits, Predicate.admits, startedTest_passes, startedTest_passes]
  cases Run.fixedNumber schema row .started with
  | none => rfl
  | some time =>
      rw [Option.any_some, Option.any_some, Option.any_some, Comparison.holds_greaterOrEqual,
        Comparison.holds_lessOrEqual]

/-- The column of a metric holds numbers if the cells among the metrics do. -/
theorem ofCells_metric_eq_nil_iff {row : Row}
    (numbers : ∀ cell ∈ row.cells, schema.amongMetrics cell → cell.value.length = 8)
    (name : String) :
    Version.ofCells (row.stored (schema.metric name)) = [] ↔
      row.stored (schema.metric name) = [] := by
  rw [Version.ofCells, List.filterMap_eq_nil_iff, List.eq_nil_iff_forall_not_mem]
  apply forall_congr'
  intro cell
  apply imp_congr_right
  intro member
  rcases Row.mem_stored.mp member with ⟨listed, own⟩
  have size := numbers cell listed (schema.amongMetrics_of_metric own)
  rw [Version.ofCell?_eq_none_iff]
  exact ⟨fun wrong => absurd size wrong, False.elim⟩

end Schema

/-- What is said of a comparison by the metrics that a run reports and by the
columns of its row.  A metric that is not reported passes only if nothing is
stored in its column either, and does not have to exist. -/
def ValueJudgement.ofColumns (schema : Schema) (row : Row) (metrics : SortedMap String Metric) :
    ValueJudgement :=
  fun comparison metric operand mustExist =>
    match metrics.find? metric with
    | none => !mustExist && (row.stored (schema.metric metric)).isEmpty
    | some found => comparison.holds (compare found.value operand)

/-- The columns add to what the metrics say only of a metric that need not
exist and is not reported although something is stored for it. -/
theorem ValueJudgement.ofColumns_eq_iff {row : Row} {metrics : SortedMap String Metric}
    {comparison : Comparison} {metric : String} {operand : Int64} {mustExist : Bool} :
    ofColumns schema row metrics comparison metric operand mustExist =
        ofMetrics metrics comparison metric operand mustExist ↔
      mustExist ∨ (metrics.find? metric).isSome ∨ row.stored (schema.metric metric) = [] := by
  rw [ofColumns, ofMetrics]
  cases metrics.find? metric with
  | none => cases mustExist <;> simp
  | some found => simp

namespace Schema

/-- The test of a metric compares the reported metric, and if there is none it
looks for a cell in the column. -/
theorem metricTest_passes_columns {row : Row} (named : ∀ cell ∈ row.cells, schema.Named cell) :
    ValueJudgement.ofRow schema row =
      ValueJudgement.ofColumns schema row (Run.metricsOf schema row) := by
  funext comparison metric operand mustExist
  refine (ColumnTest.passes_folded _ comparison operand mustExist _ row).trans ?_
  rw [ValueJudgement.ofColumns, Run.find?_metricsOf named, Run.metricOf?, Aggregator.foldCells]
  by_cases absent : row.stored (schema.metric metric) = []
  · have silent : schema.metrics.aggregator.fold (Version.ofCells []) = none :=
      schema.metrics.aggregator.fold_eq_none_iff.mpr rfl
    rw [if_pos absent, absent, silent]
    simp
  · rw [if_neg absent]
    cases schema.metrics.aggregator.fold
        (Version.ofCells (row.stored (schema.metric metric))) with
    | none => simp [absent]
    | some version => rfl

/-- The test of a metric passes exactly if the reported metric does. -/
theorem metricTest_passes {row : Row} (named : ∀ cell ∈ row.cells, schema.Named cell)
    (numbers : ∀ cell ∈ row.cells, schema.amongMetrics cell → cell.value.length = 8) :
    ValueJudgement.ofRow schema row = ValueJudgement.ofMetrics (Run.metricsOf schema row) := by
  rw [metricTest_passes_columns named]
  funext comparison metric operand mustExist
  rw [ValueJudgement.ofColumns_eq_iff, Run.find?_metricsOf named, Run.metricOf?]
  cases folded : schema.metrics.aggregator.fold
      (Version.ofCells (row.stored (schema.metric metric))) with
  | none =>
      have empty := schema.metrics.aggregator.fold_eq_none_iff.mp folded
      exact .inr (.inr ((ofCells_metric_eq_nil_iff numbers metric).mp empty))
  | some version => exact .inr (.inl rfl)

end Schema

/-! ## Restrictions on runs -/

namespace RunFilter

/-- Whether a run with all of its fields meets the restrictions. -/
def accepts (filter : RunFilter) (run : Run) : Bool :=
  (!filter.restrictsCreation ||
    run.started.any fun time => filter.createdFrom ≤ time && time ≤ filter.createdTo) &&
  filter.metricConditions.all fun conditions => conditions.holdsOf run.metrics

/-- Whether the conditions on metrics have no leaf on names. -/
def valuesOnly (filter : RunFilter) : Bool :=
  filter.metricConditions.all fun conditions => conditions.asCondition.valuesOnly

/-- Restrictions admit a cell if its row started between the bounds and if the
conditions hold as the store judges them. -/
theorem admits_eq (filter : RunFilter) (row : Row) (cell : Cell) :
    (filter.predicate schema).admits row cell =
      ((!filter.restrictsCreation ||
          (Run.fixedNumber schema row .started).any fun time =>
            filter.createdFrom ≤ time && time ≤ filter.createdTo) &&
        filter.metricConditions.all fun conditions =>
          conditions.asCondition.truth (.ofRow schema row) (.ofCell schema cell)) := by
  have creation : (if filter.restrictsCreation then
        [schema.createdBetween filter.createdFrom filter.createdTo] else []).all
          (Predicate.admits row cell) =
      (!filter.restrictsCreation ||
        (Run.fixedNumber schema row .started).any fun time =>
          filter.createdFrom ≤ time && time ≤ filter.createdTo) := by
    cases filter.restrictsCreation with
    | false => rfl
    | true =>
        rw [if_pos rfl, List.all_cons, List.all_nil, Bool.and_true, Schema.createdBetween_admits]
        rfl
  have conditions : (filter.metricConditions.toList.map (ConditionGroup.predicate schema)).all
        (Predicate.admits row cell) =
      filter.metricConditions.all fun conditions =>
        conditions.asCondition.truth (.ofRow schema row) (.ofCell schema cell) := by
    cases filter.metricConditions with
    | none => rfl
    | some group =>
        rw [Option.toList_some, List.map_singleton, List.all_cons, List.all_nil, Bool.and_true,
          ConditionGroup.predicate_asCondition, Condition.admits_predicate, Option.all_some]
  rw [predicate, Predicate.admits_all, List.all_append, creation, conditions]

/-- The store admits every cell of a row, or none of them. -/
theorem predicate_admits (filter : RunFilter) (plain : filter.valuesOnly) {row : Row}
    (named : ∀ cell ∈ row.cells, schema.Named cell)
    (numbers : ∀ cell ∈ row.cells, schema.amongMetrics cell → cell.value.length = 8) {run : Run}
    (started : run.started = Run.fixedNumber schema row .started)
    (metrics : run.metrics = Run.metricsOf schema row) (cell : Cell) :
    (filter.predicate schema).admits row cell = filter.accepts run := by
  rw [admits_eq, accepts, started]
  congr 1
  cases asked : filter.metricConditions with
  | none => rfl
  | some group =>
      rw [valuesOnly, asked] at plain
      rw [Option.all_some, Option.all_some, Schema.metricTest_passes named numbers, ← metrics]
      exact Condition.truth_congr _ _ (fun _ _ _ _ => rfl) _ plain

end RunFilter

/-! ## Selections of fields -/

theorem Schema.admits_within (predicate : Predicate) (row : Row) (cell : Cell) :
    (schema.within predicate).admits row cell =
      (decide (cell.column.family = schema.family) && predicate.admits row cell) := by
  rw [within, Predicate.admits_all, List.all_cons, List.all_cons, List.all_nil, Bool.and_true,
    Predicate.admits, Comparison.holds_equal]

namespace FieldSelection

/-- Whether a range read fetches a cell, if no metrics are picked: all cells
if metrics are wanted, and otherwise those of the family that are none. -/
def fetches (schema : Schema) (selection : FieldSelection) (cell : Cell) : Bool :=
  selection.wants .metrics ||
    (cell.column.family = schema.family &&
      !schema.metrics.start.isPrefixOf cell.column.qualifier)

theorem augmented_of_unpicked {selection : FieldSelection}
    (unpicked : selection.metricConditions = none) : selection.augmented = selection := by
  rw [augmented, unpicked]
  rfl

theorem predicate_admits {selection : FieldSelection}
    (unpicked : selection.metricConditions = none) (row : Row) (cell : Cell) :
    (selection.predicate schema .range).admits row cell = selection.fetches schema cell := by
  have choice : ColumnChoice.ofSelection .range selection =
      ColumnChoice.choose .range (selection.wants .metrics) false := by
    rw [ColumnChoice.ofSelection, unpicked]
    rfl
  rw [predicate, choice, unpicked, fetches]
  cases selection.wants .metrics with
  | true => exact Predicate.admits_any row cell []
  | false =>
      rw [ColumnChoice.choose, Predicate.admits_any_singleton, Schema.admits_within,
        Predicate.admits, Comparison.holds_notEqual_front, Bool.false_or]

end FieldSelection

namespace Run

/-- Whoever reads metrics fetches every cell. -/
theorem carried_fetched (selection : FieldSelection) (row : Row) :
    carried schema .range selection
        ⟨row.key, row.cells.filter fun cell => selection.fetches schema cell⟩ =
      carried schema .range selection row := by
  refine ite_congr rfl (fun reads => ?_) fun _ => rfl
  have wanted : selection.wants .metrics := reads
  have whole : (row.cells.filter fun cell => selection.fetches schema cell) = row.cells :=
    List.filter_eq_self.mpr fun cell _ => by rw [FieldSelection.fetches, wanted, Bool.true_or]
  rw [whole]

/-- The run of the fetched cells is the run of the row. -/
theorem ofRow_fetched
    (apart : schema.metrics.Apart)
    (scope : Scope) (selection : FieldSelection) (row : Row) :
    ofRow schema scope .range selection
        ⟨row.key, row.cells.filter fun cell => selection.fetches schema cell⟩ =
      ofRow schema scope .range selection row := by
  have fixed : ∀ column : FixedColumn,
      Row.stored ⟨row.key, row.cells.filter fun cell => selection.fetches schema cell⟩
        (schema.fixed column) = row.stored (schema.fixed column) := by
    intro column
    apply Row.stored_filter_of_kept
    intro cell _ own
    rw [FieldSelection.fetches, own, Schema.fixed, apart column]
    simp
  refine (ofRow_eq_map fixed rfl scope .range selection).trans ?_
  rw [carried_fetched]
  exact (ofRow_eq_map (fun _ => rfl) rfl scope .range selection).symm

end Run
end FlowRuns
