import FlowRuns.Table.Request

namespace FlowRuns

/-!
# What predicates admit

A test admits what stands in its relation to the operand.  A group admits what
all or some of its children admit, and a group without children admits
everything.  Leaving such a group out of a request therefore changes nothing.
A verdict on a cell depends on its column and on the versions in the row.
-/

namespace Comparison

theorem holds_greaterOrEqual (value bound : Int64) :
    holds .greaterOrEqual (compare value bound) = decide (bound ≤ value) := by
  rw [Bool.eq_iff_iff, decide_eq_true_iff, ← Std.isGE_compare]
  cases compare value bound <;> decide

theorem holds_lessOrEqual (value bound : Int64) :
    holds .lessOrEqual (compare value bound) = decide (value ≤ bound) := by
  rw [Bool.eq_iff_iff, decide_eq_true_iff, ← Std.isLE_compare]
  cases compare value bound <;> decide

theorem holds_equal (first second : Bytes) :
    holds .equal (compare first second) = decide (first = second) := by
  have same : compare first second = .eq ↔ first = second := Std.LawfulEqCmp.compare_eq_iff_eq
  rw [Bool.eq_iff_iff, decide_eq_true_iff, ← same]
  cases compare first second <;> decide

/-- A name that begins with an operand is equal to it as far as it counts. -/
theorem order_front_eq_iff (start name : Bytes) :
    (NameOperand.front start).order name = .eq ↔ start.isPrefixOf name := by
  rw [NameOperand.order, Std.LawfulEqCmp.compare_eq_iff_eq, List.isPrefixOf_iff_prefix,
    List.prefix_iff_eq_take, eq_comm]

theorem holds_equal_front (start name : Bytes) :
    holds .equal ((NameOperand.front start).order name) = start.isPrefixOf name := by
  rw [Bool.eq_iff_iff, ← order_front_eq_iff]
  cases (NameOperand.front start).order name <;> decide

theorem holds_notEqual_front (start name : Bytes) :
    holds .notEqual ((NameOperand.front start).order name) = !start.isPrefixOf name := by
  rw [← holds_equal_front]
  cases (NameOperand.front start).order name <;> rfl

end Comparison

namespace Predicate

theorem admits_all (row : Row) (cell : Cell) (children : List Predicate) :
    admits row cell (.all children) = children.all (admits row cell) := by
  rw [admits, allAdmit_eq]

theorem admits_any (row : Row) (cell : Cell) (children : List Predicate) :
    admits row cell (.any children) = (children.isEmpty || children.any (admits row cell)) := by
  rw [admits, anyAdmits_eq]

theorem admits_any_singleton (row : Row) (cell : Cell) (predicate : Predicate) :
    admits row cell (.any [predicate]) = predicate.admits row cell := by
  rw [admits_any, List.isEmpty_cons, Bool.false_or, List.any_cons, List.any_nil, Bool.or_false]

theorem admits_of_isEmpty {predicate : Predicate} (silent : predicate.isEmpty) (row : Row)
    (cell : Cell) : predicate.admits row cell = true := by
  cases predicate with
  | all children =>
      rw [admits_all, List.isEmpty_iff.mp silent]
      rfl
  | any children =>
      rw [admits_any, List.isEmpty_iff.mp silent]
      rfl
  | family => cases silent
  | qualifier => cases silent
  | value => cases silent
  | pageLimit => cases silent

/-- What a predicate admits that need not be there. -/
def allows (predicate : Option Predicate) (row : Row) (cell : Cell) : Bool :=
  predicate.all fun predicate => predicate.admits row cell

theorem allows_nonempty? (predicate : Predicate) (row : Row) (cell : Cell) :
    allows predicate.nonempty? row cell = predicate.admits row cell := by
  rw [allows, nonempty?]
  by_cases silent : predicate.isEmpty
  · rw [if_pos silent, admits_of_isEmpty silent]
    rfl
  · rw [if_neg silent]
    rfl

/-! ## What a verdict depends on -/

section Verdict

variable {row row' : Row} {cell cell' : Cell}

mutual

/-- A predicate sees of a cell its column, and of a row the versions of the
columns. -/
theorem admits_congr (versions : ∀ column, row.versions column = row'.versions column)
    (same : cell.column = cell'.column) :
    ∀ predicate : Predicate, predicate.admits row cell = predicate.admits row' cell'
  | .family _ _ => by rw [admits, admits, same]
  | .qualifier _ _ => by rw [admits, admits, same]
  | .value test => by rw [admits, admits, ColumnTest.passes, ColumnTest.passes, versions]
  | .pageLimit _ => by rw [admits, admits]
  | .all children => by rw [admits, admits, allAdmit_congr versions same children]
  | .any children => by rw [admits, admits, anyAdmits_congr versions same children]

theorem allAdmit_congr (versions : ∀ column, row.versions column = row'.versions column)
    (same : cell.column = cell'.column) :
    ∀ children : List Predicate, allAdmit row cell children = allAdmit row' cell' children
  | [] => rfl
  | child :: rest => by
      rw [allAdmit, allAdmit, admits_congr versions same child, allAdmit_congr versions same rest]

theorem anyAdmits_congr (versions : ∀ column, row.versions column = row'.versions column)
    (same : cell.column = cell'.column) :
    ∀ children : List Predicate, anyAdmits row cell children = anyAdmits row' cell' children
  | [] => rfl
  | child :: rest => by
      rw [anyAdmits, anyAdmits, admits_congr versions same child,
        anyAdmits_congr versions same rest]

end

end Verdict

end Predicate
end FlowRuns
