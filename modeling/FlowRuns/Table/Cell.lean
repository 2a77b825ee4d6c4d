import FlowRuns.Bytes.Long

namespace FlowRuns

/-!
# Cells and rows

A row of the table holds cells.  A cell is one version of one column, and a
column is named by its family and its qualifier.  The cells of a row are kept
in the order they were stored or returned, which decides between versions
that carry the same timestamp.
-/

/-- The name of a column. -/
@[ext]
structure Column where
  family : Bytes
  qualifier : Bytes
  deriving DecidableEq

namespace Column

/-- Columns are ordered by family, then by qualifier. -/
instance : Ord Column :=
  ⟨compareLex (compareOn Column.family) (compareOn Column.qualifier)⟩

instance : Std.TransOrd Column :=
  inferInstanceAs (Std.TransCmp (compareLex (compareOn family) (compareOn qualifier)))

instance : Std.LawfulEqOrd Column where
  eq_of_compare same := by
    have parts := compareLex_eq_eq.mp same
    exact Column.ext (Std.LawfulEqOrd.eq_of_compare parts.1) (Std.LawfulEqOrd.eq_of_compare parts.2)

end Column

/-- One stored version of one column. -/
structure Cell where
  column : Column
  timestamp : Int64
  value : Bytes
  deriving DecidableEq

namespace Cell

/-- A cell moves ahead of those before it only if it is strictly newer. -/
def newestFirst (cells : List Cell) : List Cell :=
  cells.mergeSort fun first second => second.timestamp ≤ first.timestamp

/-- The newest of some cells, the last of them where timestamps are equal. -/
def newest? : List Cell → Option Cell
  | [] => none
  | cell :: rest =>
      match newest? rest with
      | none => some cell
      | some other => if cell.timestamp ≤ other.timestamp then some other else some cell

end Cell

/-- A row as a read returns it. -/
structure Row where
  key : Bytes
  cells : List Cell
  deriving DecidableEq

namespace Row

/-- Whether the row has no cell. -/
def isEmpty (row : Row) : Bool :=
  row.cells.isEmpty

/-- The versions of one column in stored order. -/
def stored (row : Row) (column : Column) : List Cell :=
  row.cells.filter fun cell => cell.column = column

/-- The versions of one column, newest first. -/
def versions (row : Row) (column : Column) : List Cell :=
  Cell.newestFirst (row.stored column)

/-- The newest version of one column, the last stored of them where
timestamps are equal. -/
def latest? (row : Row) (column : Column) : Option Cell :=
  Cell.newest? (row.stored column)

/-- The cells of a family whose qualifier begins with `start`, in stored order. -/
def cellsUnder (row : Row) (family start : Bytes) : List Cell :=
  row.cells.filter fun cell =>
    cell.column.family = family && start.isPrefixOf cell.column.qualifier

end Row

/-- How many versions of each column a read returns. -/
inductive VersionDepth where
  | latest
  | all
  deriving DecidableEq

/-- The number of versions kept of a column, if it is bounded. -/
def VersionDepth.limit : VersionDepth → Option Nat
  | .latest => some 1
  | .all => none

end FlowRuns
