import FlowRuns.Proofs.Table.Predicate

namespace FlowRuns

/-!
# Predicates built by pushing

The start of a predicate decides what pushing does to it.  Whatever is pushed
onto a group of alternatives becomes one more alternative.  Anything else is a
group of conditions, or becomes one with the first push, and whatever is pushed
onto it becomes one more condition.

Page limits are read through conditions alone.  So what is pushed onto alternatives
bounds nothing, while conditions keep the least limit among those that come with
the start and with what is pushed.
-/

namespace Predicate

/-- A predicate with more children, pushed one after the other. -/
def pushAll (start : Predicate) (pushed : List Predicate) : Predicate :=
  pushed.foldl push start

/-! ## The least page limit -/

theorem tighter_eq_merge : tighter = Option.merge min := by
  funext first second
  cases first with
  | none => cases second <;> rfl
  | some first =>
      cases second with
      | none => rfl
      | some second =>
          rw [tighter, Option.merge_some_some, Std.min_eq_if]
          simp only [← UInt64.not_lt, ite_not]

theorem tighter_assoc (first second third : Option UInt64) :
    tighter (tighter first second) third = tighter first (tighter second third) := by
  rw [tighter_eq_merge]
  exact Std.Associative.assoc first second third

theorem tighter_none_right (bound : Option UInt64) : tighter bound none = bound := by
  cases bound <;> rfl

theorem leastPageBound_append (children more : List Predicate) :
    leastPageBound (children ++ more) =
      tighter (leastPageBound children) (leastPageBound more) := by
  induction children with
  | nil => rw [List.nil_append, leastPageBound, tighter]
  | cons child rest inductionHypothesis =>
      rw [List.cons_append, leastPageBound, leastPageBound, inductionHypothesis, tighter_assoc]

/-- Conditions are bounded by the least of the limits that they have. -/
theorem leastPageBound_eq_min? (children : List Predicate) :
    leastPageBound children = (children.filterMap pageBound).min? := by
  induction children with
  | nil => rfl
  | cons child rest inductionHypothesis =>
      rw [leastPageBound, inductionHypothesis, tighter_eq_merge]
      cases bound : pageBound child with
      | none =>
          rw [List.filterMap_cons_none bound]
          cases (rest.filterMap pageBound).min? <;> rfl
      | some rows =>
          rw [List.filterMap_cons_some bound, List.min?_cons]
          cases (rest.filterMap pageBound).min? <;> rfl

/-! ## What pushing makes -/

/-- The conditions that must all hold for a predicate to hold: the children of a
group of conditions, and else the predicate itself. -/
def conditions : Predicate → List Predicate
  | .all children => children
  | test => [test]

theorem all_admit_conditions (row : Row) (cell : Cell) (predicate : Predicate) :
    predicate.conditions.all (admits row cell) = predicate.admits row cell := by
  cases predicate with
  | all children => rw [conditions, admits_all]
  | family | qualifier | value | pageLimit | any => exact Bool.and_true _

theorem leastPageBound_conditions (predicate : Predicate) :
    leastPageBound predicate.conditions = predicate.pageBound := by
  cases predicate with
  | all children => rw [conditions, pageBound]
  | family | qualifier | value | pageLimit | any => exact tighter_none_right _

/-- Whether the predicate is a group of alternatives. -/
def isAlternatives : Predicate → Bool
  | .any _ => true
  | _ => false

theorem push_of_not_isAlternatives {start : Predicate} (joined : ¬ start.isAlternatives)
    (child : Predicate) : start.push child = .all (start.conditions ++ [child]) := by
  cases start with
  | any children => exact absurd rfl joined
  | all | family | qualifier | value | pageLimit => rfl

/-- Children pushed onto a group that grows at its end stand behind those that it has. -/
theorem pushAll_group {group : List Predicate → Predicate}
    (grows : ∀ children child, (group children).push child = group (children ++ [child]))
    (children pushed : List Predicate) :
    (group children).pushAll pushed = group (children ++ pushed) := by
  rw [pushAll]
  induction pushed generalizing children with
  | nil => rw [List.foldl_nil, List.append_nil]
  | cons child rest inductionHypothesis =>
      rw [List.foldl_cons, grows, inductionHypothesis, List.append_assoc, List.singleton_append]

theorem pushAll_any (children pushed : List Predicate) :
    (Predicate.any children).pushAll pushed = .any (children ++ pushed) :=
  pushAll_group (fun _ _ => rfl) children pushed

/-- With the first push a start that is no group of alternatives is a group of
conditions. -/
theorem pushAll_of_not_isAlternatives {start : Predicate} (joined : ¬ start.isAlternatives)
    {pushed : List Predicate} (present : pushed ≠ []) :
    start.pushAll pushed = .all (start.conditions ++ pushed) := by
  cases pushed with
  | nil => exact absurd rfl present
  | cons child rest =>
      calc
        start.pushAll (child :: rest)
        _ = (Predicate.all (start.conditions ++ [child])).pushAll rest := by
          rw [← push_of_not_isAlternatives joined child]
          rfl
        _ = .all (start.conditions ++ [child] ++ rest) := pushAll_group (fun _ _ => rfl) _ rest
        _ = .all (start.conditions ++ child :: rest) := by
          rw [List.append_assoc, List.singleton_append]

/-- What is pushed onto a group of alternatives joins them, and the group is never
bounded.  What is pushed onto anything else joins it as a condition, and the result
is bounded by the least of all limits.  The first push onto a group of alternatives
without children replaces what it admits, which is everything. -/
theorem pushAll_joins (pushed : List Predicate) (present : pushed ≠ []) (row : Row)
    (cell : Cell) :
    (∀ start : Predicate, ¬ start.isAlternatives →
      ((start.pushAll pushed).admits row cell ↔
        start.admits row cell ∧ ∀ child ∈ pushed, child.admits row cell) ∧
      (start.pushAll pushed).pageBound = ((start :: pushed).filterMap pageBound).min?) ∧
    (∀ children : List Predicate,
      (((Predicate.any children).pushAll pushed).admits row cell ↔
        (∃ child ∈ children, child.admits row cell) ∨ ∃ child ∈ pushed, child.admits row cell) ∧
      ((Predicate.any children).pushAll pushed).pageBound = none) ∧
    (Predicate.any []).admits row cell ∧
    ∀ child : Predicate, ((Predicate.any []).push child).admits row cell = child.admits row cell := by
  refine ⟨?_, ?_, ?_, ?_⟩
  · intro start joined
    rw [pushAll_of_not_isAlternatives joined present]
    constructor
    · rw [admits_all, List.all_append, all_admit_conditions, Bool.and_eq_true, List.all_eq_true]
    · rw [pageBound, leastPageBound_append, leastPageBound_conditions, ← leastPageBound,
        leastPageBound_eq_min?]
  · intro children
    rw [pushAll_any]
    refine ⟨?_, rfl⟩
    have filled : (children ++ pushed).isEmpty = false := by
      rw [List.isEmpty_eq_false_iff]
      exact fun empty => present (List.append_eq_nil_iff.mp empty).2
    rw [admits_any, filled, Bool.false_or, List.any_append, Bool.or_eq_true, List.any_eq_true,
      List.any_eq_true]
  · rw [admits_any]
    rfl
  · intro child
    exact admits_any_singleton row cell child

/-- Of the limits that are pushed onto a test, the one among alternatives does not
count.  A cell of the tested family passes all that is pushed, and a cell of another
family passes one of the alternatives. -/
theorem pushAll_joins_of_nested_limits :
    ([.pageLimit 5, .all [.pageLimit 3, .any [.pageLimit 1]]] : List Predicate) ≠ [] ∧
    ¬ (Predicate.family .equal [0x69]).isAlternatives ∧
    ((Predicate.family .equal [0x69]).pushAll
      [.pageLimit 5, .all [.pageLimit 3, .any [.pageLimit 1]]]).pageBound = some 3 ∧
    ((Predicate.family .equal [0x69]).pushAll
      [.pageLimit 5, .all [.pageLimit 3, .any [.pageLimit 1]]]).admits ⟨[], []⟩
        ⟨⟨[0x69], []⟩, 1, []⟩ ∧
    ((Predicate.any [.family .equal [0x69]]).pushAll
      [.pageLimit 5, .all [.pageLimit 3, .any [.pageLimit 1]]]).pageBound = none ∧
    ((Predicate.any [.family .equal [0x69]]).pushAll
      [.pageLimit 5, .all [.pageLimit 3, .any [.pageLimit 1]]]).admits ⟨[], []⟩
        ⟨⟨[0x6f], []⟩, 1, []⟩ := by
  have present :
      ([.pageLimit 5, .all [.pageLimit 3, .any [.pageLimit 1]]] : List Predicate) ≠ [] :=
    List.cons_ne_nil _ _
  have joined : ¬ (Predicate.family .equal [0x69]).isAlternatives := by decide
  have conditions := (pushAll_joins _ present ⟨[], []⟩ ⟨⟨[0x69], []⟩, 1, []⟩).1 _ joined
  have alternatives := (pushAll_joins _ present ⟨[], []⟩ ⟨⟨[0x6f], []⟩, 1, []⟩).2.1
    [.family .equal [0x69]]
  refine ⟨present, joined, ?_, ?_, alternatives.2, ?_⟩
  · rw [conditions.2]
    decide
  · exact conditions.1.mpr ⟨by decide, by simp [admits, allAdmit, anyAdmits]⟩
  · exact alternatives.1.mpr (.inr ⟨.pageLimit 5, List.mem_cons_self, by decide⟩)

end Predicate
end FlowRuns
