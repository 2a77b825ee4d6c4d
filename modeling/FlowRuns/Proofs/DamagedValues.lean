import FlowRuns.Proofs.Pushdown

namespace FlowRuns

/-!
# Conditions on damaged values

A value among the metrics that is no number is damaged.  Runs are made without
damaged values, so a metric with no other data point is not reported.  The
store still sees the column of the metric, and passes no comparison on it.
Conditions therefore agree with the metrics of a run but for one kind of leaf,
the comparison of a metric that need not exist, is not reported, and yet has
something stored in its column.
-/

/-- Whether no damaged value decides about a leaf.  The metric must exist, or
is reported, or has nothing stored. -/
def Leaf.Undamaged (schema : Schema) (row : Row) (metrics : SortedMap String Metric) : Leaf → Prop
  | .value _ metric _ mustExist =>
      mustExist ∨ (metrics.find? metric).isSome ∨ row.stored (schema.metric metric) = []
  | .name _ _ => True

namespace ConditionGroup

variable {schema : Schema} {row : Row}

/-- The store judges the conditions of a group by reported metrics and by what
is stored in columns. -/
theorem admits_eq_truth (named : ∀ cell ∈ row.cells, schema.Named cell) {group : ConditionGroup}
    (plain : group.asCondition.valuesOnly) (cell : Cell) :
    (group.predicate schema).admits row cell =
      group.asCondition.truth (.ofColumns schema row (Run.metricsOf schema row))
        fun _ _ => false := by
  rw [predicate_asCondition, Condition.admits_predicate,
    Schema.metricTest_passes_columns named]
  exact Condition.truth_congr _ _ (fun _ _ _ _ => rfl) _ plain

theorem truth_eq_holdsOf {metrics : SortedMap String Metric} {group : ConditionGroup}
    (undamaged : ∀ leaf ∈ group.asCondition.leaves, leaf.Undamaged schema row metrics) :
    (group.asCondition.truth (.ofColumns schema row metrics) fun _ _ => false) =
      group.holdsOf metrics := by
  apply Condition.truth_eq_of_leaves
  intro leaf own
  cases leaf with
  | value comparison metric operand mustExist =>
      exact ValueJudgement.ofColumns_eq_iff.mpr (undamaged _ own)
  | name comparison start => rfl

/-- The group of one comparison. -/
def single (comparison : Comparison) (metric : String) (operand : Int64) (mustExist : Bool) :
    ConditionGroup :=
  ⟨.and, [.compare comparison metric operand mustExist]⟩

theorem truth_single (onValue : ValueJudgement) (onName : NameJudgement) (comparison : Comparison)
    (metric : String) (operand : Int64) (mustExist : Bool) :
    (single comparison metric operand mustExist).asCondition.truth onValue onName =
      onValue comparison metric operand mustExist :=
  Bool.and_true _

/-- Whatever the values of its cells are, the store judges a row by the metrics
that its run reports and by the columns that have cells.  That is what the
metrics alone say wherever no damaged value decides about a leaf, and a
comparison that a damaged value decides about is judged otherwise. -/
theorem admits_iff_reported {scope : Scope} {selection : FieldSelection} {run : Run}
    (named : ∀ cell ∈ row.cells, schema.Named cell)
    (made : Run.ofRow schema scope .single selection row = .ok run) :
    (∀ (group : ConditionGroup) (cell : Cell), group.asCondition.valuesOnly →
      (group.predicate schema).admits row cell =
        group.asCondition.truth (.ofColumns schema row run.metrics) fun _ _ => false) ∧
    (∀ (group : ConditionGroup) (cell : Cell), group.asCondition.valuesOnly →
      (∀ leaf ∈ group.asCondition.leaves, leaf.Undamaged schema row run.metrics) →
      (group.predicate schema).admits row cell = group.holdsOf run.metrics) ∧
    (∀ comparison metric operand mustExist cell,
      ((single comparison metric operand mustExist).predicate schema).admits row cell =
          (single comparison metric operand mustExist).holdsOf run.metrics ↔
        Leaf.Undamaged schema row run.metrics
          (.value comparison metric operand mustExist)) := by
  have reported : run.metrics = Run.metricsOf schema row := Run.metrics_of_ofRow made
  rw [reported]
  refine ⟨fun group cell plain => admits_eq_truth named plain cell, ?_, ?_⟩
  · intro group cell plain undamaged
    rw [admits_eq_truth named plain, truth_eq_holdsOf undamaged]
  · intro comparison metric operand mustExist cell
    rw [admits_eq_truth named rfl, holdsOf, truth_single, truth_single]
    exact ValueJudgement.ofColumns_eq_iff

/-- A row with a metric in order and a damaged one, which must exist. -/
theorem admits_iff_reported_of_damaged_metric :
    Run.ofRow Schema.standard ⟨"c", "u", "f", some 7⟩ .single {}
        ⟨[], [⟨Schema.standard.metric "a", 1, Long.encode 5⟩,
          ⟨Schema.standard.metric "b", 1, [0x78]⟩]⟩ =
      .ok { user := "u", flow := "f", number := 7, metrics := SortedMap.empty.insert "a" ⟨5, 1⟩ } ∧
    ∀ cell,
      (ConditionGroup.predicate Schema.standard
          ⟨.or, [.compare .equal "b" 5 true, .compare .greater "a" 3 false]⟩).admits
        ⟨[], [⟨Schema.standard.metric "a", 1, Long.encode 5⟩,
          ⟨Schema.standard.metric "b", 1, [0x78]⟩]⟩ cell =
      ConditionGroup.holdsOf
        ⟨.or, [.compare .equal "b" 5 true, .compare .greater "a" 3 false]⟩
        (SortedMap.empty.insert "a" ⟨5, 1⟩) := by
  have made : Run.ofRow Schema.standard ⟨"c", "u", "f", some 7⟩ .single {}
      ⟨[], [⟨Schema.standard.metric "a", 1, Long.encode 5⟩,
        ⟨Schema.standard.metric "b", 1, [0x78]⟩]⟩ =
      .ok { user := "u", flow := "f", number := 7,
            metrics := SortedMap.empty.insert "a" ⟨5, 1⟩ } := by
    decide +kernel
  refine ⟨made, fun cell => (admits_iff_reported ?_ made).2.1 _ cell rfl ?_⟩
  · intro cell member _
    simp only [List.mem_cons, List.not_mem_nil, or_false] at member
    rcases member with rfl | rfl
    · exact ⟨"a", rfl⟩
    · exact ⟨"b", rfl⟩
  · intro leaf member
    simp only [asCondition, Condition.leaves, Condition.allLeaves, List.cons_append,
      List.nil_append, List.mem_cons, List.not_mem_nil, or_false] at member
    rcases member with rfl | rfl
    · exact .inl rfl
    · exact .inr (.inl rfl)

/-- A comparison of a damaged metric fails in the store although the metric
need not exist and the run has none. -/
theorem admits_ne_holdsOf :
    Run.ofRow Schema.standard ⟨"c", "u", "f", some 7⟩ .single {}
        ⟨[], [⟨Schema.standard.metric "a", 1, [0x78]⟩]⟩ =
      .ok { user := "u", flow := "f", number := 7 } ∧
    ((single .equal "a" 5 false).predicate Schema.standard).admits
        ⟨[], [⟨Schema.standard.metric "a", 1, [0x78]⟩]⟩
        ⟨Schema.standard.metric "a", 1, [0x78]⟩ = false ∧
    (single .equal "a" 5 false).holdsOf
        (Run.metrics { user := "u", flow := "f", number := 7 }) = true := by
  refine ⟨?_, ?_, rfl⟩
  · decide +kernel
  · decide +kernel

end ConditionGroup
end FlowRuns
