import FlowRuns.Proofs.Table.Predicate
import FlowRuns.Pushdown
import FlowRuns.Run

namespace FlowRuns

/-!
# What conditions say

The truth of a condition follows from the truth of its leaves, and it does so
in the same way whether the leaves are judged on the metrics that a run
reports or by the tests that the store makes of a row.  A condition without
leaves on names says something of the metrics of a run alone.
-/

/-- All or some of some truths.  Where there are none, nothing is demanded. -/
def Connective.combine : Connective → List Bool → Bool
  | .and, truths => truths.all id
  | .or, truths => truths.isEmpty || truths.any id

/-- A way to judge comparisons of values. -/
abbrev ValueJudgement := Comparison → String → Int64 → Bool → Bool

/-- A way to judge comparisons of names. -/
abbrev NameJudgement := Comparison → String → Bool

/-- What the metrics of a run say of a comparison.  The value is the one
reported, and a run without the metric passes unless it must exist. -/
def ValueJudgement.ofMetrics (metrics : SortedMap String Metric) : ValueJudgement :=
  fun comparison metric operand mustExist =>
    match metrics.find? metric with
    | none => !mustExist
    | some found => comparison.holds (compare found.value operand)

/-- How the store judges a comparison of values, on the columns of a row. -/
def ValueJudgement.ofRow (schema : Schema) (row : Row) : ValueJudgement :=
  fun comparison metric operand mustExist =>
    (schema.metricTest comparison metric operand mustExist).passes row

/-- How the store judges a comparison of names, on the qualifier of a cell. -/
def NameJudgement.ofCell (schema : Schema) (cell : Cell) : NameJudgement :=
  fun comparison start =>
    comparison.holds
      ((NameOperand.front (schema.metrics.qualifier start)).order cell.column.qualifier)

namespace Condition

mutual

/-- The truth of a condition under judgements of its leaves. -/
def truth (onValue : ValueJudgement) (onName : NameJudgement) : Condition → Bool
  | .compare comparison metric operand mustExist => onValue comparison metric operand mustExist
  | .named comparison start => onName comparison start
  | .group connective conditions => connective.combine (truths onValue onName conditions)

/-- The truths of some conditions, one each. -/
def truths (onValue : ValueJudgement) (onName : NameJudgement) : List Condition → List Bool
  | [] => []
  | condition :: rest => truth onValue onName condition :: truths onValue onName rest

end

mutual

/-- Whether a condition has no leaf on names. -/
def valuesOnly : Condition → Bool
  | .compare _ _ _ _ => true
  | .named _ _ => false
  | .group _ conditions => allValuesOnly conditions

/-- Whether none of some conditions has a leaf on names. -/
def allValuesOnly : List Condition → Bool
  | [] => true
  | condition :: rest => valuesOnly condition && allValuesOnly rest

end

mutual

/-- Without leaves on names only the judgement of values counts. -/
theorem truth_congr {onValue onValue' : ValueJudgement} (onName onName' : NameJudgement)
    (same : ∀ comparison metric operand mustExist,
      onValue comparison metric operand mustExist = onValue' comparison metric operand mustExist) :
    ∀ condition : Condition, condition.valuesOnly →
      truth onValue onName condition = truth onValue' onName' condition
  | .compare comparison metric operand mustExist, _ => same comparison metric operand mustExist
  | .group connective conditions, plain => by
      rw [truth, truth, truths_congr onName onName' same conditions plain]

theorem truths_congr {onValue onValue' : ValueJudgement} (onName onName' : NameJudgement)
    (same : ∀ comparison metric operand mustExist,
      onValue comparison metric operand mustExist = onValue' comparison metric operand mustExist) :
    ∀ conditions : List Condition, allValuesOnly conditions →
      truths onValue onName conditions = truths onValue' onName' conditions
  | [], _ => rfl
  | condition :: rest, plain => by
      have parts := Bool.and_eq_true_iff.mp plain
      rw [truths, truths, truth_congr onName onName' same condition parts.1,
        truths_congr onName onName' same rest parts.2]

end

end Condition

/-! ## Leaves -/

/-- A condition that is no group. -/
inductive Leaf where
  | value (comparison : Comparison) (metric : String) (operand : Int64) (mustExist : Bool)
  | name (comparison : Comparison) (start : String)

/-- The truth of a leaf under judgements. -/
def Leaf.truth (onValue : ValueJudgement) (onName : NameJudgement) : Leaf → Bool
  | .value comparison metric operand mustExist => onValue comparison metric operand mustExist
  | .name comparison start => onName comparison start

/-- A connective turns none of its truths into a falsehood if they stay true. -/
theorem Connective.combine_map_mono {α : Type} {conditions : List α} {holds holds' : α → Bool}
    (kept : ∀ condition ∈ conditions, holds condition → holds' condition) :
    ∀ connective : Connective, connective.combine (conditions.map holds) →
      connective.combine (conditions.map holds')
  | .and, combined => by
      rw [combine, List.all_map, List.all_eq_true] at combined ⊢
      intro condition member
      exact kept condition member (combined condition member)
  | .or, combined => by
      rw [combine, List.isEmpty_map, List.any_map, Bool.or_eq_true, List.any_eq_true]
        at combined ⊢
      rcases combined with empty | ⟨condition, member, holds⟩
      · exact .inl empty
      · exact .inr ⟨condition, member, kept condition member holds⟩

namespace Condition

mutual

/-- The leaves of a condition from left to right. -/
def leaves : Condition → List Leaf
  | .compare comparison metric operand mustExist => [.value comparison metric operand mustExist]
  | .named comparison start => [.name comparison start]
  | .group _ conditions => allLeaves conditions

/-- The leaves of some conditions from left to right. -/
def allLeaves : List Condition → List Leaf
  | [] => []
  | condition :: rest => leaves condition ++ allLeaves rest

end

theorem truths_eq_map (onValue : ValueJudgement) (onName : NameJudgement)
    (conditions : List Condition) :
    truths onValue onName conditions = conditions.map (truth onValue onName) := by
  induction conditions with
  | nil => rfl
  | cons condition rest inductionHypothesis =>
      rw [truths, inductionHypothesis, List.map_cons]

section Judgements

variable {onValue onValue' : ValueJudgement} {onName onName' : NameJudgement}

mutual

/-- A condition stays true under other judgements if its true leaves do. -/
theorem truth_of_leaves : ∀ condition : Condition,
    (∀ leaf ∈ leaves condition, leaf.truth onValue onName → leaf.truth onValue' onName') →
      truth onValue onName condition → truth onValue' onName' condition
  | .compare _ _ _ _, kept, holds => kept _ (List.mem_singleton_self _) holds
  | .named _ _, kept, holds => kept _ (List.mem_singleton_self _) holds
  | .group connective conditions, kept, holds => by
      rw [truth, truths_eq_map] at holds ⊢
      exact connective.combine_map_mono (each_truth_of_leaves conditions kept) holds

theorem each_truth_of_leaves : ∀ conditions : List Condition,
    (∀ leaf ∈ allLeaves conditions, leaf.truth onValue onName → leaf.truth onValue' onName') →
      ∀ condition ∈ conditions, truth onValue onName condition → truth onValue' onName' condition
  | first :: rest, kept, condition, member, holds => by
      rcases List.mem_cons.mp member with same | later
      · rw [same] at holds ⊢
        exact truth_of_leaves first (fun leaf own => kept leaf (List.mem_append_left _ own)) holds
      · exact each_truth_of_leaves rest (fun leaf own => kept leaf (List.mem_append_right _ own))
          condition later holds

end

/-- The truth of a condition depends on nothing but the truth of its leaves. -/
theorem truth_eq_of_leaves {condition : Condition}
    (same : ∀ leaf ∈ condition.leaves, leaf.truth onValue onName = leaf.truth onValue' onName') :
    truth onValue onName condition = truth onValue' onName' condition := by
  rw [Bool.eq_iff_iff]
  constructor
  · apply truth_of_leaves
    intro leaf own holds
    rwa [← same leaf own]
  · apply truth_of_leaves
    intro leaf own holds
    rwa [same leaf own]

end Judgements

end Condition

namespace ConditionGroup

/-- The group as a condition of its own. -/
def asCondition (group : ConditionGroup) : Condition :=
  .group group.connective group.conditions

/-- Whether the conditions of a group hold of the metrics that a run reports.
For leaves on names, which say nothing of a run as a whole, the answer is no. -/
def holdsOf (group : ConditionGroup) (metrics : SortedMap String Metric) : Bool :=
  group.asCondition.truth (.ofMetrics metrics) fun _ _ => false

end ConditionGroup

/-! ## Conditions as predicates -/

namespace Condition

theorem admits_group (connective : Connective) (row : Row) (cell : Cell)
    (children : List Predicate) :
    (connective.group children).admits row cell =
      connective.combine (children.map (Predicate.admits row cell)) := by
  cases connective with
  | and => rw [Connective.group, Predicate.admits_all, Connective.combine, List.all_map]; rfl
  | or =>
      rw [Connective.group, Predicate.admits_any, Connective.combine, List.any_map,
        List.isEmpty_map]
      rfl

mutual

/-- The predicate of a condition admits a cell if the condition holds as the
store judges its leaves. -/
theorem admits_predicate (schema : Schema) (row : Row) (cell : Cell) : ∀ condition : Condition,
    (predicate schema condition).admits row cell =
      truth (.ofRow schema row) (.ofCell schema cell) condition
  | .compare comparison metric operand mustExist => by
      rw [predicate, Predicate.admits, truth, ValueJudgement.ofRow]
  | .named comparison start => by
      rw [predicate, Predicate.admits, truth, NameJudgement.ofCell]
  | .group connective conditions => by
      rw [predicate, admits_group, truth, admits_predicates schema row cell conditions]

theorem admits_predicates (schema : Schema) (row : Row) (cell : Cell) :
    ∀ conditions : List Condition,
      (predicates schema conditions).map (Predicate.admits row cell) =
        truths (.ofRow schema row) (.ofCell schema cell) conditions
  | [] => rfl
  | condition :: rest => by
      rw [predicates, truths, List.map_cons, admits_predicate schema row cell condition,
        admits_predicates schema row cell rest]

end

mutual

/-- Conditions bound no page. -/
theorem pageBound_predicate (schema : Schema) : ∀ condition : Condition,
    (predicate schema condition).pageBound = none
  | .compare _ _ _ _ => rfl
  | .named _ _ => rfl
  | .group .and conditions => leastPageBound_predicates schema conditions
  | .group .or _ => rfl

theorem leastPageBound_predicates (schema : Schema) : ∀ conditions : List Condition,
    Predicate.leastPageBound (predicates schema conditions) = none
  | [] => rfl
  | condition :: rest => by
      rw [predicates, Predicate.leastPageBound, pageBound_predicate schema condition,
        leastPageBound_predicates schema rest]
      rfl

end

end Condition

theorem ConditionGroup.predicate_asCondition (schema : Schema) (group : ConditionGroup) :
    group.predicate schema = Condition.predicate schema group.asCondition := by
  rw [ConditionGroup.predicate, asCondition, Condition.predicate]

end FlowRuns
