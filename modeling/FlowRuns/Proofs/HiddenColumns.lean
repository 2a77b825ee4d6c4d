import FlowRuns.Proofs.RunRow
import FlowRuns.Proofs.Table.Predicate

namespace FlowRuns

/-!
# What a predicate can hide

A predicate is asked cell by cell, but its verdict is one on columns.  The
tests on the family and the qualifier see the column of the cell, and the tests
on values see the whole row, so no test tells two versions of one column apart.
A row under a predicate therefore has each of its columns whole or not at all.
Whatever is made of the versions of a column comes out as it did before, or it
is missing.  It cannot come out as another value, which would be the case if
only some of the versions were dropped.
-/

namespace Predicate

/-- Whether a predicate shows the cells of a column in a row. -/
def shows (predicate : Predicate) (row : Row) (column : Column) : Bool :=
  predicate.admits row ⟨column, 0, []⟩

/-- The timestamp and the value of a cell have no say in the verdict. -/
theorem admits_eq_shows (predicate : Predicate) (row : Row) (cell : Cell) :
    predicate.admits row cell = predicate.shows row cell.column := by
  have same : cell.column = Cell.column ⟨cell.column, 0, []⟩ := rfl
  exact admits_congr (fun _ => rfl) same predicate

/-! ## Columns -/

/-- Of a column that is shown every stored version is left, and of another one
there is none. -/
theorem stored_apply (predicate : Predicate) (row : Row) (column : Column) :
    (predicate.apply row).stored column =
      if predicate.shows row column then row.stored column else [] := by
  have verdict : ∀ cell ∈ row.cells, cell.column = column →
      predicate.admits row cell = predicate.shows row column := by
    intro cell _ own
    rw [admits_eq_shows, own]
  split
  · next shown =>
      exact Row.stored_filter_of_kept fun cell member own => (verdict cell member own).trans shown
  · next hidden =>
      exact Row.stored_filter_of_dropped fun cell member own =>
        (verdict cell member own).trans (Bool.eq_false_iff.mpr hidden)

theorem versions_apply (predicate : Predicate) (row : Row) (column : Column) :
    (predicate.apply row).versions column =
      if predicate.shows row column then row.versions column else [] := by
  rw [Row.versions, stored_apply]
  split
  · rfl
  · rw [Cell.newestFirst, List.mergeSort_nil]

/-! ## Runs -/

variable {schema : Schema}

/-- A fixed column that is shown comes to its old number, and another one to none. -/
theorem fixedNumber_apply (predicate : Predicate) (row : Row) (column : FixedColumn) :
    Run.fixedNumber schema (predicate.apply row) column =
      if predicate.shows row (schema.fixed column) then Run.fixedNumber schema row column
      else none := by
  have versions := predicate.versions_apply row (schema.fixed column)
  by_cases shown : predicate.shows row (schema.fixed column)
  · rw [if_pos shown] at versions ⊢
    rw [Run.fixedNumber, Run.fixedNumber, versions]
  · rw [if_neg shown] at versions ⊢
    rw [Run.fixedNumber, versions]
    cases column with
    | started => exact Aggregator.min.foldCells_eq_none_iff.mpr rfl
    | ended => exact Aggregator.max.foldCells_eq_none_iff.mpr rfl
    | version => rfl

theorem fixedText_apply (predicate : Predicate) (row : Row) (column : FixedColumn) :
    Run.fixedText schema (predicate.apply row) column =
      if predicate.shows row (schema.fixed column) then Run.fixedText schema row column
      else none := by
  rw [Run.fixedText, Row.latest?, stored_apply]
  split
  · rfl
  · rfl

/-- A predicate shows or hides the columns of a row as a whole, and it keeps the
order of the cells that it shows.  So of the versions of a column all are left,
or none.  The row that is left gives a run exactly if the whole row does, and
each of the two times and the version of that run is the one of the whole row,
or it is missing because its column is hidden. -/
theorem apply_hides_columns (predicate : Predicate) (row : Row) :
    (∀ cell, predicate.admits row cell = predicate.shows row cell.column) ∧
    (predicate.apply row).cells.Sublist row.cells ∧
    (∀ column, (predicate.apply row).versions column =
      if predicate.shows row column then row.versions column else []) ∧
    ∀ (schema : Schema) (scope : Scope) (mode : ReadMode) (selection : FieldSelection),
      Run.ofRow schema scope mode selection (predicate.apply row) =
        (Run.ofRow schema scope mode selection row).map fun full =>
          { full with
            started := if predicate.shows row (schema.fixed .started) then full.started else none
            ended := if predicate.shows row (schema.fixed .ended) then full.ended else none
            version := if predicate.shows row (schema.fixed .version) then full.version else none
            metrics := Run.carried schema mode selection (predicate.apply row) } := by
  refine ⟨predicate.admits_eq_shows row, List.filter_sublist, predicate.versions_apply row, ?_⟩
  intro schema scope mode selection
  have number : Run.numberOf scope mode (predicate.apply row) = Run.numberOf scope mode row := rfl
  rw [Run.ofRow, Run.ofRow, number, fixedNumber_apply, fixedNumber_apply, fixedText_apply]
  cases Run.numberOf scope mode row with
  | error error => rfl
  | ok number => rfl

end Predicate
end FlowRuns
