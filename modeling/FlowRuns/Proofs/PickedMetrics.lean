import FlowRuns.Proofs.FieldSelection

namespace FlowRuns

/-!
# Picked metrics and stray columns

A selection that picks metrics is there to fetch the fixed columns and the
metrics that are picked.  It fetches all of these.  Its conditions, however, are
put to every cell in the family of the runs and not to metrics alone.  A stray
cell is in that family without being of a fixed column or lying behind the
beginning of the metrics, and it is fetched as well if the conditions hold of it.

To a stray cell no name begins with anything.  Conditions that a name does not
begin in some way therefore hold of it, conditions that it does fail, and those
on values are about the row and not about the cell.  A group without conditions
always holds.  So a selection keeps clear of stray cells if it picks metrics only
by how their names begin and none of its groups is empty.
-/

/-- The cells that picked metrics are there to fetch: the fixed columns, and
the metrics of which the conditions hold. -/
structure ConditionGroup.Wants (schema : Schema) (picked : ConditionGroup) (row : Row)
    (cell : Cell) : Prop where
  family : cell.column.family = schema.family
  column : (∃ column : FixedColumn, cell.column.qualifier = column.qualifier) ∨
    schema.metrics.start <+: cell.column.qualifier ∧ (picked.predicate schema).admits row cell

/-- A cell in the family of the runs that has no part in the layout. -/
structure Schema.Stray (schema : Schema) (cell : Cell) : Prop where
  family : cell.column.family = schema.family
  unfixed : ∀ column : FixedColumn, cell.column.qualifier ≠ column.qualifier
  outside : ¬ schema.metrics.start <+: cell.column.qualifier

/-- How questions how a name begins are answered where there is no name. -/
def NameJudgement.ofNoName : NameJudgement :=
  fun comparison _ => comparison == .notEqual

/-- Where a group is not empty, its connective is satisfied only by some truth. -/
theorem Connective.exists_of_combine {α : Type} {conditions : List α} {holds : α → Bool}
    (nonempty : conditions ≠ []) :
    ∀ connective : Connective, connective.combine (conditions.map holds) →
      ∃ condition ∈ conditions, holds condition
  | .and, combined => by
      rw [combine, List.all_map, List.all_eq_true] at combined
      rcases List.exists_mem_of_ne_nil _ nonempty with ⟨condition, member⟩
      exact ⟨condition, member, combined condition member⟩
  | .or, combined => by
      rw [combine, List.isEmpty_map, List.any_map, Bool.or_eq_true, List.any_eq_true] at combined
      exact combined.resolve_left fun empty => nonempty (List.isEmpty_iff.mp empty)

namespace Condition

mutual

/-- Whether no group in a condition is empty. -/
def filled : Condition → Bool
  | .compare _ _ _ _ => true
  | .named _ _ => true
  | .group _ conditions => !conditions.isEmpty && allFilled conditions

/-- Whether no group in some conditions is empty. -/
def allFilled : List Condition → Bool
  | [] => true
  | condition :: rest => filled condition && allFilled rest

end

section

variable {onValue : ValueJudgement} {onName : NameJudgement}

mutual

/-- If no group in a condition is empty, the condition is true only by a leaf. -/
theorem exists_leaf : ∀ condition : Condition, filled condition →
    truth onValue onName condition → ∃ leaf ∈ leaves condition, leaf.truth onValue onName
  | .compare _ _ _ _, _, holds => ⟨_, List.mem_singleton_self _, holds⟩
  | .named _ _, _, holds => ⟨_, List.mem_singleton_self _, holds⟩
  | .group connective conditions, full, holds => by
      rcases Bool.and_eq_true_iff.mp full with ⟨nonempty, parts⟩
      rw [truth, truths_eq_map] at holds
      rcases connective.exists_of_combine (by simpa using nonempty) holds with
        ⟨condition, member, own⟩
      exact exists_leaf_of_mem conditions parts condition member own

theorem exists_leaf_of_mem : ∀ conditions : List Condition, allFilled conditions →
    ∀ condition ∈ conditions, truth onValue onName condition →
      ∃ leaf ∈ allLeaves conditions, leaf.truth onValue onName
  | first :: rest, full, condition, member, holds => by
      rcases Bool.and_eq_true_iff.mp full with ⟨part, others⟩
      rcases List.mem_cons.mp member with same | later
      · rw [same] at holds
        rcases exists_leaf first part holds with ⟨leaf, own, held⟩
        exact ⟨leaf, List.mem_append_left _ own, held⟩
      · rcases exists_leaf_of_mem rest others condition later holds with ⟨leaf, own, held⟩
        exact ⟨leaf, List.mem_append_right _ own, held⟩

end

end

end Condition

variable {schema : Schema} {picked : ConditionGroup} {row : Row} {cell : Cell}

/-! ## Stray cells -/

namespace Schema.Stray

/-- Picked metrics are not there to fetch stray cells. -/
theorem not_wants (stray : schema.Stray cell) : ¬ picked.Wants schema row cell := by
  rintro ⟨-, ⟨column, own⟩ | ⟨among, -⟩⟩
  · exact stray.unfixed column own
  · exact stray.outside among

/-- A stray qualifier begins like no column of a metric. -/
theorem isPrefixOf_eq_false (stray : schema.Stray cell) (start : String) :
    (schema.metrics.qualifier start).isPrefixOf cell.column.qualifier = false := by
  rw [← Bool.not_eq_true, List.isPrefixOf_iff_prefix]
  intro begins
  exact stray.outside ((schema.metrics.start_prefix_qualifier start).trans begins)

/-- Conditions on values and on the beginnings of names hold of a stray cell as
they would of no name. -/
theorem admits_eq (stray : schema.Stray cell)
    (asks : ∀ comparison start, Leaf.name comparison start ∈ picked.asCondition.leaves →
      comparison = .equal ∨ comparison = .notEqual) (row : Row) :
    (picked.predicate schema).admits row cell =
      picked.asCondition.truth (.ofRow schema row) .ofNoName := by
  rw [ConditionGroup.predicate_asCondition, Condition.admits_predicate]
  apply Condition.truth_eq_of_leaves
  intro leaf own
  cases leaf with
  | value => rfl
  | name comparison start =>
      rw [Leaf.truth, Leaf.truth, NameJudgement.ofCell_eq]
      rcases asks comparison start own with rfl | rfl
      · rw [NameJudgement.ofQualifier_equal, stray.isPrefixOf_eq_false]
        rfl
      · rw [NameJudgement.ofQualifier_notEqual, stray.isPrefixOf_eq_false]
        rfl

/-- Conditions that names begin in some way do not hold of a stray cell. -/
theorem not_admits (stray : schema.Stray cell) (full : picked.asCondition.filled)
    (begins : ∀ leaf ∈ picked.asCondition.leaves, ∃ start, leaf = .name .equal start) (row : Row) :
    ¬ (picked.predicate schema).admits row cell := by
  rw [ConditionGroup.predicate_asCondition, Condition.admits_predicate]
  intro holds
  rcases Condition.exists_leaf _ full holds with ⟨leaf, own, held⟩
  rcases begins leaf own with ⟨start, rfl⟩
  rw [Leaf.truth, NameJudgement.ofCell_eq, NameJudgement.ofQualifier_equal,
    stray.isPrefixOf_eq_false] at held
  cases held

end Schema.Stray

/-! ## Fetched cells -/

namespace FieldSelection

variable {selection : FieldSelection}

/-- The group of picked metrics is never empty itself. -/
theorem filled_of_picked (picks : selection.metricConditions = some picked)
    (full : Condition.allFilled picked.conditions) : picked.asCondition.filled := by
  rcases Option.filter_eq_some_iff.mp picks with ⟨-, nonempty⟩
  rw [ConditionGroup.asCondition, Condition.filled, Bool.and_eq_true]
  exact ⟨nonempty, full⟩

/-- The conditions that pick metrics are put to every cell of the family. -/
theorem admits_picked_iff (picks : selection.metricConditions = some picked) (mode : ReadMode) :
    (selection.predicate schema mode).admits row cell ↔
      cell.column.family = schema.family ∧
        ((∃ column : FixedColumn, cell.column.qualifier = column.qualifier) ∨
          (picked.predicate schema).admits row cell) := by
  have fixed : (FixedColumn.list.any fun column => cell.column.qualifier = column.qualifier) ↔
      ∃ column : FixedColumn, cell.column.qualifier = column.qualifier := by
    rw [List.any_eq_true]
    constructor
    · rintro ⟨column, _, own⟩
      exact ⟨column, of_decide_eq_true own⟩
    · rintro ⟨column, own⟩
      exact ⟨column, column.mem_list, decide_eq_true own⟩
  rw [admits_of_picked picks, Bool.and_eq_true, Bool.or_eq_true, decide_eq_true_iff, fixed]

/-- Picked metrics fetch what they are there to fetch, and the stray cells of
which their conditions hold. -/
theorem admits_iff_wants_or_holds (picks : selection.metricConditions = some picked)
    (mode : ReadMode) :
    (selection.predicate schema mode).admits row cell ↔
      picked.Wants schema row cell ∨
        schema.Stray cell ∧ (picked.predicate schema).admits row cell := by
  rw [admits_picked_iff picks]
  constructor
  · -- The layout may put fixed columns behind the beginning of the metrics, so
    -- these are asked for first.
    rintro ⟨family, own | holds⟩
    · exact .inl ⟨family, .inl own⟩
    · by_cases fixed : ∃ column : FixedColumn, cell.column.qualifier = column.qualifier
      · exact .inl ⟨family, .inl fixed⟩
      · by_cases among : schema.metrics.start <+: cell.column.qualifier
        · exact .inl ⟨family, .inr ⟨among, holds⟩⟩
        · exact .inr ⟨⟨family, not_exists.mp fixed, among⟩, holds⟩
  · rintro (⟨family, own | ⟨_, holds⟩⟩ | ⟨stray, holds⟩)
    · exact ⟨family, .inl own⟩
    · exact ⟨family, .inr holds⟩
    · exact ⟨stray.family, .inr holds⟩

/-- Picked metrics fetch what they are there to fetch, and no other cells but
the stray ones of which their conditions hold.  Conditions on values and on how
names begin or do not begin hold of all stray cells of a row or of none.  If all
of them say that names do begin in some way, and no group is empty, they hold of
no stray cell and nothing else is fetched. -/
theorem admits_iff_wants_or_stray (picks : selection.metricConditions = some picked)
    (mode : ReadMode) :
    (∀ row cell, (selection.predicate schema mode).admits row cell ↔
      picked.Wants schema row cell ∨
        schema.Stray cell ∧ (picked.predicate schema).admits row cell) ∧
    (∀ row cell, schema.Stray cell → ¬ picked.Wants schema row cell) ∧
    ((∀ comparison start, Leaf.name comparison start ∈ picked.asCondition.leaves →
        comparison = .equal ∨ comparison = .notEqual) →
      ∀ row cell, schema.Stray cell →
        (picked.predicate schema).admits row cell =
          picked.asCondition.truth (.ofRow schema row) .ofNoName) ∧
    ((∀ leaf ∈ picked.asCondition.leaves, ∃ start, leaf = .name .equal start) →
      Condition.allFilled picked.conditions →
        ∀ row cell, (selection.predicate schema mode).admits row cell ↔
          picked.Wants schema row cell) := by
  refine ⟨fun row cell => admits_iff_wants_or_holds picks mode,
    fun row cell stray => stray.not_wants, fun asks row cell stray => stray.admits_eq asks row, ?_⟩
  intro begins full row cell
  rw [admits_iff_wants_or_holds picks]
  apply or_iff_left
  rintro ⟨stray, holds⟩
  exact stray.not_admits (filled_of_picked picks full) begins row holds

end FieldSelection

/-- A cell in a column that the layout does not have. -/
def Cell.ofConfig : Cell :=
  ⟨⟨Schema.standard.family, Text.bytes "config"⟩, 1, [0x78]⟩

theorem Cell.stray_ofConfig : Schema.standard.Stray ofConfig where
  family := rfl
  unfixed column := by cases column <;> decide
  outside := by decide

namespace FieldSelection

/-- Picked by the beginning of its name, a metric is fetched and the stray cell
is not. -/
theorem admits_iff_wants_or_stray_of_beginning :
    (predicate Schema.standard { metrics := some ⟨.or, [.named .equal "a"]⟩ } .range).admits
        ⟨[], [Cell.ofConfig]⟩ ⟨Schema.standard.metric "ab", 1, Long.encode 5⟩ ∧
    ¬ (predicate Schema.standard { metrics := some ⟨.or, [.named .equal "a"]⟩ } .range).admits
        ⟨[], [Cell.ofConfig]⟩ Cell.ofConfig := by
  have picks : metricConditions { metrics := some ⟨.or, [.named .equal "a"]⟩ } =
      some ⟨.or, [.named .equal "a"]⟩ := rfl
  have fetched := (@admits_iff_wants_or_stray Schema.standard _ _ picks .range).2.2.2
    (fun leaf own => ⟨"a", List.mem_singleton.mp own⟩) rfl ⟨[], [Cell.ofConfig]⟩
  constructor
  · rw [fetched]
    exact ⟨rfl, .inr ⟨Schema.standard.metrics.start_prefix_qualifier "ab", by decide⟩⟩
  · rw [fetched]
    exact Cell.stray_ofConfig.not_wants

/-- Picked by what its name does not begin with, the stray cell is fetched. -/
theorem admits_stray_of_notEqual :
    (predicate Schema.standard { metrics := some ⟨.or, [.named .notEqual "a"]⟩ } .single).admits
        ⟨[], [Cell.ofConfig]⟩ Cell.ofConfig ∧
    ¬ ConditionGroup.Wants Schema.standard ⟨.or, [.named .notEqual "a"]⟩
        ⟨[], [Cell.ofConfig]⟩ Cell.ofConfig := by
  refine ⟨?_, Cell.stray_ofConfig.not_wants⟩
  decide

end FieldSelection
end FlowRuns
