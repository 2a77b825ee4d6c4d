import FlowRuns.Proofs.Pushdown
import Mathlib.Data.Bool.AllAny

namespace FlowRuns

/-!
# What a selection leaves of a run

A selection of fields judges the cells of a row.  It admits every cell of the
fixed columns, so the run of the admitted cells is the run of the row but for
its metrics.  Of the cells of one metric it admits all or none, since it looks
at nothing but their column and the row.  A metric is therefore reported with
the value it has in the whole row, or it is hidden.

Names are judged as they are stored, escaped.  An escaped name begins with an
escaped beginning exactly if the name begins with it, so a condition on how
names begin or do not begin may be read as one on the names themselves.
-/

/-- What a name says of a question how it begins.  The other comparisons put
escaped names in order and are no questions of that kind. -/
def NameJudgement.ofName (name : String) : NameJudgement
  | .equal, start => start.toList.isPrefixOf name.toList
  | .notEqual, start => !start.toList.isPrefixOf name.toList
  | _, _ => false

/-- How the store judges a comparison of names, on a qualifier. -/
def NameJudgement.ofQualifier (schema : Schema) (qualifier : Bytes) : NameJudgement :=
  fun comparison start =>
    comparison.holds ((NameOperand.front (schema.metrics.qualifier start)).order qualifier)

/-- Whether a leaf asks how a name begins, or how it does not. -/
def Leaf.asksBeginning : Leaf → Bool
  | .name comparison _ => comparison == .equal || comparison == .notEqual
  | .value _ _ _ _ => false

/-- Whether a group of conditions on the beginnings of names picks a name. -/
def ConditionGroup.picks (group : ConditionGroup) (name : String) : Bool :=
  group.asCondition.truth (fun _ _ _ _ => false) (.ofName name)

variable {schema : Schema}

namespace NameJudgement

theorem ofCell_eq (cell : Cell) :
    ofCell schema cell = ofQualifier schema cell.column.qualifier :=
  rfl

theorem ofQualifier_equal (qualifier : Bytes) (start : String) :
    ofQualifier schema qualifier .equal start =
      (schema.metrics.qualifier start).isPrefixOf qualifier :=
  Comparison.holds_equal_front _ _

theorem ofQualifier_notEqual (qualifier : Bytes) (start : String) :
    ofQualifier schema qualifier .notEqual start =
      !(schema.metrics.qualifier start).isPrefixOf qualifier :=
  Comparison.holds_notEqual_front _ _

theorem isPrefixOf_qualifier (start name : String) :
    (schema.metrics.qualifier start).isPrefixOf (schema.metrics.qualifier name) =
      start.toList.isPrefixOf name.toList := by
  rw [Bool.eq_iff_iff, List.isPrefixOf_iff_prefix, List.isPrefixOf_iff_prefix,
    ColumnGroup.qualifier_prefix_qualifier_iff]

end NameJudgement

theorem Leaf.eq_of_asksBeginning : ∀ {leaf : Leaf}, leaf.asksBeginning →
    ∃ start, leaf = .name .equal start ∨ leaf = .name .notEqual start
  | .name .equal start, _ => ⟨start, .inl rfl⟩
  | .name .notEqual start, _ => ⟨start, .inr rfl⟩

/-- Questions how names begin have the same answers for columns and for names. -/
theorem Leaf.truth_ofQualifier {leaf : Leaf} (asks : leaf.asksBeginning) (onValue : ValueJudgement)
    (name : String) :
    leaf.truth onValue (.ofQualifier schema (schema.metrics.qualifier name)) =
      leaf.truth (fun _ _ _ _ => false) (.ofName name) := by
  rcases Leaf.eq_of_asksBeginning asks with ⟨start, rfl | rfl⟩
  · rw [truth, truth, NameJudgement.ofQualifier_equal, NameJudgement.isPrefixOf_qualifier]
    rfl
  · rw [truth, truth, NameJudgement.ofQualifier_notEqual, NameJudgement.isPrefixOf_qualifier]
    rfl

theorem ConditionGroup.truth_eq_picks {group : ConditionGroup}
    (asks : ∀ leaf ∈ group.asCondition.leaves, leaf.asksBeginning) (onValue : ValueJudgement)
    (name : String) :
    group.asCondition.truth onValue (.ofQualifier schema (schema.metrics.qualifier name)) =
      group.picks name :=
  Condition.truth_eq_of_leaves fun leaf own => Leaf.truth_ofQualifier (asks leaf own) onValue name

/-! ## Admitted cells -/

namespace FieldSelection

variable {selection : FieldSelection} {picked : ConditionGroup}

@[simp]
theorem metricConditions_augmented (selection : FieldSelection) :
    selection.augmented.metricConditions = selection.metricConditions := by
  unfold augmented
  split <;> rfl

/-- Whoever picks metrics also reads them. -/
theorem readsMetrics_augmented (picks : selection.metricConditions = some picked)
    (mode : ReadMode) : selection.augmented.readsMetrics mode := by
  rw [readsMetrics, wants, augmented, picks]
  simp [FieldSet.insert]

/-- A single read without picked metrics is not restricted. -/
theorem predicate_single (unpicked : selection.metricConditions = none) :
    selection.predicate schema .single = .any [] := by
  rw [predicate, ColumnChoice.ofSelection, unpicked]
  rfl

theorem admits_of_picked (picks : selection.metricConditions = some picked) (mode : ReadMode)
    (row : Row) (cell : Cell) :
    (selection.predicate schema mode).admits row cell =
      (decide (cell.column.family = schema.family) &&
        ((FixedColumn.list.any fun column => cell.column.qualifier = column.qualifier) ||
          (picked.predicate schema).admits row cell)) := by
  have choice : ColumnChoice.ofSelection mode selection = .pickedMetrics := by
    rw [ColumnChoice.ofSelection, picks]
    cases mode <;> cases selection.wants .metrics <;> rfl
  have fixed : FixedColumn.predicates.any (Predicate.admits row cell) =
      FixedColumn.list.any fun column => cell.column.qualifier = column.qualifier := by
    rw [FixedColumn.predicates, List.any_map]
    congr 1
    funext column
    exact Comparison.holds_equal _ _
  rw [predicate, choice, picks, Predicate.admits_any_singleton, Schema.admits_within,
    Predicate.admits_any, List.any_append, fixed, List.any_cons, List.any_nil, Bool.or_false]
  rfl

variable (apart : schema.metrics.Apart)

include apart

/-- No selection drops a cell of a fixed column. -/
theorem admits_fixed (selection : FieldSelection) (mode : ReadMode) (row : Row) {cell : Cell}
    {column : FixedColumn} (own : cell.column = schema.fixed column) :
    (selection.predicate schema mode).admits row cell := by
  cases picks : selection.metricConditions with
  | some picked =>
      have listed : FixedColumn.list.any fun other => column.qualifier = other.qualifier :=
        List.any_of_mem column.mem_list (decide_eq_true rfl)
      rw [admits_of_picked picks, own, Schema.fixed, listed]
      simp
  | none =>
      cases mode with
      | single =>
          rw [predicate_single picks]
          rfl
      | range =>
          rw [predicate_admits picks, fetches, own, Schema.fixed, apart column]
          simp

/-- The cells of one metric are admitted, or not, by what the conditions say of
the metric. -/
theorem admits_metric (picks : selection.metricConditions = some picked) (mode : ReadMode)
    (row : Row) {cell : Cell} {name : String} (own : cell.column = schema.metric name) :
    (selection.predicate schema mode).admits row cell =
      picked.asCondition.truth (.ofRow schema row)
        (.ofQualifier schema (schema.metrics.qualifier name)) := by
  have other : (FixedColumn.list.any fun column =>
      schema.metrics.qualifier name = column.qualifier) = false := by
    rw [List.any_eq_false]
    intro column _ same
    exact apart.qualifier_ne name column (of_decide_eq_true same)
  rw [admits_of_picked picks, ConditionGroup.predicate_asCondition, Condition.admits_predicate,
    NameJudgement.ofCell_eq, own, Schema.metric, other]
  simp

end FieldSelection

/-! ## Runs of admitted cells -/

namespace Run

/-- If cells of one metric are kept or dropped together, the metrics of the kept
cells are those of the row whose cells are kept. -/
theorem metricsOf_filter {row : Row} {keeps : Cell → Bool} {keepsName : String → Bool}
    (named : ∀ cell ∈ row.cells, schema.Named cell)
    (together : ∀ cell ∈ row.cells, ∀ name, cell.column = schema.metric name →
      keeps cell = keepsName name) :
    metricsOf schema ⟨row.key, row.cells.filter keeps⟩ =
      (metricsOf schema row).restrict keepsName := by
  have named' : ∀ cell ∈ row.cells.filter keeps, schema.Named cell :=
    fun cell member => named cell (List.mem_of_mem_filter member)
  -- Reading by column, a kept metric has its whole column and a dropped one has none.
  apply SortedMap.ext_find?
  intro name
  rw [SortedMap.find?_restrict, find?_metricsOf named, find?_metricsOf named']
  cases kept : keepsName name with
  | true =>
      rw [Row.stored_filter_of_kept fun cell member own =>
        (together cell member name own).trans kept]
      rfl
  | false =>
      rw [Row.stored_filter_of_dropped fun cell member own =>
        (together cell member name own).trans kept]
      exact Option.map_eq_none_iff.mpr (schema.metrics.aggregator.fold_eq_none_iff.mpr rfl)

variable {selection : FieldSelection}

/-- The run of the admitted cells has everything but its metrics from the run
of the row. -/
theorem ofRow_apply
    (apart : schema.metrics.Apart)
    {scope : Scope} {mode : ReadMode} {row : Row} {full : Run}
    (made : ofRow schema scope mode selection row = .ok full) :
    ofRow schema scope mode selection ((selection.predicate schema mode).apply row) =
      .ok { full with
        metrics := carried schema mode selection ((selection.predicate schema mode).apply row) } := by
  have fixed : ∀ column, ((selection.predicate schema mode).apply row).stored (schema.fixed column) =
      row.stored (schema.fixed column) := fun column =>
    Row.stored_filter_of_kept fun _ _ own => selection.admits_fixed apart mode row own
  rw [ofRow_eq_map fixed rfl, made]
  rfl

/-- If no metrics are picked, a run carries the same metrics for the admitted
cells as for the row. -/
theorem carried_apply (unpicked : selection.metricConditions = none) (mode : ReadMode) (row : Row) :
    carried schema mode selection ((selection.predicate schema mode).apply row) =
      carried schema mode selection row := by
  cases mode with
  | single =>
      have whole : (selection.predicate schema .single).apply row = row := by
        rw [FieldSelection.predicate_single unpicked, Predicate.apply]
        exact congrArg (Row.mk row.key) (List.filter_eq_self.mpr fun _ _ => rfl)
      rw [whole]
  | range =>
      have fetched : (selection.predicate schema .range).apply row =
          ⟨row.key, row.cells.filter fun cell => selection.fetches schema cell⟩ :=
        congrArg (Row.mk row.key)
          (List.filter_congr fun cell _ => FieldSelection.predicate_admits unpicked row cell)
      rw [fetched, carried_fetched]

end Run

/-- A selection of fields hides metrics and nothing else.  What it leaves of a
row gives a run, and that run has its number, times and version from the run of
the whole row.  Without picked metrics it has its metrics from there too, and
in a single read these are all metrics of the row.  With picked metrics it has
some of them, with their values, and if the conditions only ask how names begin
or do not begin, it has exactly those with the names that are picked. -/
theorem FieldSelection.hides_only_metrics (family : Bytes) (component : String)
    (aggregator : Aggregator) {scope : Scope} {mode : ReadMode} {selection : FieldSelection}
    {row : Row} {full : Run}
    (made : Run.ofRow (.ofComponent family component aggregator) scope mode selection.augmented
      row = .ok full) :
    ∃ metrics,
      Run.ofRow (.ofComponent family component aggregator) scope mode selection.augmented
          ((selection.augmented.predicate (.ofComponent family component aggregator) mode).apply
            row) =
        .ok { full with metrics := metrics } ∧
      (selection.metricConditions = none →
        metrics = full.metrics ∧
        (mode = .single →
          metrics = Run.metricsOf (.ofComponent family component aggregator) row)) ∧
      ∀ picked, selection.metricConditions = some picked →
        (∀ cell ∈ row.cells, (Schema.ofComponent family component aggregator).Named cell) →
        (∃ keeps, metrics = full.metrics.restrict keeps) ∧
        ((∀ leaf ∈ picked.asCondition.leaves, leaf.asksBeginning) →
          metrics = full.metrics.restrict picked.picks) := by
  have apart : (Schema.ofComponent family component aggregator).metrics.Apart :=
    ColumnGroup.apart_named component aggregator
  have reported := Run.metrics_of_ofRow made
  refine ⟨_, Run.ofRow_apply apart made, ?_, ?_⟩
  · intro unpicked
    rw [← metricConditions_augmented] at unpicked
    rw [Run.carried_apply unpicked, reported]
    exact ⟨rfl, fun alone => by rw [alone]; rfl⟩
  · intro picked picks named
    have reads := readsMetrics_augmented picks mode
    rw [← metricConditions_augmented] at picks
    rw [reported, Run.carried, Run.carried, if_pos reads, if_pos reads]
    constructor
    · exact ⟨_, Run.metricsOf_filter named fun cell _ name own =>
        admits_metric apart picks mode row own⟩
    · intro asks
      apply Run.metricsOf_filter named
      intro cell _ name own
      rw [admits_metric apart picks mode row own, ConditionGroup.truth_eq_picks asks]

/-- A row with two metrics, of which a read picks one by its name. -/
theorem FieldSelection.hides_only_metrics_of_two_metrics :
    Run.ofRow (.ofComponent (Text.bytes "i") "m" .sum) ⟨"c", "u", "f", some 7⟩ .single
        (augmented { metrics := some ⟨.or, [.named .equal "a"]⟩ })
        ⟨[],
          [⟨Schema.standard.fixed .started, 1, Long.encode 100⟩,
            ⟨Schema.standard.metric "ab", 1, Long.encode 5⟩,
            ⟨Schema.standard.metric "b", 1, Long.encode 2⟩]⟩ =
      .ok { user := "u", flow := "f", number := 7, started := some 100,
            metrics := (SortedMap.empty.insert "ab" ⟨5, 1⟩).insert "b" ⟨2, 1⟩ } ∧
    Run.ofRow (.ofComponent (Text.bytes "i") "m" .sum) ⟨"c", "u", "f", some 7⟩ .single
        (augmented { metrics := some ⟨.or, [.named .equal "a"]⟩ })
        (((augmented { metrics := some ⟨.or, [.named .equal "a"]⟩ }).predicate
            (.ofComponent (Text.bytes "i") "m" .sum) .single).apply
          ⟨[],
            [⟨Schema.standard.fixed .started, 1, Long.encode 100⟩,
              ⟨Schema.standard.metric "ab", 1, Long.encode 5⟩,
              ⟨Schema.standard.metric "b", 1, Long.encode 2⟩]⟩) =
      .ok { user := "u", flow := "f", number := 7, started := some 100,
            metrics := SortedMap.empty.insert "ab" ⟨5, 1⟩ } := by
  have made : Run.ofRow (.ofComponent (Text.bytes "i") "m" .sum) ⟨"c", "u", "f", some 7⟩ .single
      (augmented { metrics := some ⟨.or, [.named .equal "a"]⟩ })
      ⟨[],
        [⟨Schema.standard.fixed .started, 1, Long.encode 100⟩,
          ⟨Schema.standard.metric "ab", 1, Long.encode 5⟩,
          ⟨Schema.standard.metric "b", 1, Long.encode 2⟩]⟩ =
      .ok { user := "u", flow := "f", number := 7, started := some 100,
            metrics := (SortedMap.empty.insert "ab" ⟨5, 1⟩).insert "b" ⟨2, 1⟩ } := by
    decide +kernel
  rcases hides_only_metrics _ _ _ made with ⟨metrics, left, _, picked⟩
  refine ⟨made, left.trans ?_⟩
  have restricted := (picked _ rfl ?_).2 ?_
  · rw [restricted]
    decide
  · intro cell member among
    simp only [List.mem_cons, List.not_mem_nil, or_false] at member
    rcases member with rfl | rfl | rfl
    · exact absurd among (by decide)
    · exact ⟨"ab", rfl⟩
    · exact ⟨"b", rfl⟩
  · intro leaf own
    rw [List.mem_singleton.mp own]
    rfl

end FlowRuns
