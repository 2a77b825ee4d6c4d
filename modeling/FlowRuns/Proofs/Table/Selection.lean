import FlowRuns.Proofs.SortedMap
import FlowRuns.Proofs.Table.Versions
import FlowRuns.Table.Store

namespace FlowRuns

/-!
# Selecting versions

A read to all versions returns the cells of a row column by column.  Columns
and times separate the cells in it exactly as they did in the stored row, so
whoever reads columns newest first, or folds them, cannot tell the two apart.
-/

namespace Row

/-- The same cells in each column at each time, in the same order there. -/
def Alike (first second : Row) : Prop :=
  ∀ column, FlowRuns.Alike Cell.timestamp (first.stored column) (second.stored column)

theorem versions_eq {first second : Row} (alike : first.Alike second) (column : Column) :
    first.versions column = second.versions column :=
  Cell.newestFirst_eq (alike column)

theorem latest?_eq {first second : Row} (alike : first.Alike second) (column : Column) :
    first.latest? column = second.latest? column :=
  Cell.newest?_eq (alike column)

theorem mem_stored {row : Row} {column : Column} {cell : Cell} :
    cell ∈ row.stored column ↔ cell ∈ row.cells ∧ cell.column = column := by
  rw [stored, List.mem_filter, decide_eq_true_eq]

/-- A selection of cells that keeps the cells of a column leaves the column as
it is. -/
theorem stored_filter_of_kept {row : Row} {column : Column} {keeps : Cell → Bool}
    (kept : ∀ cell ∈ row.cells, cell.column = column → keeps cell) :
    stored ⟨row.key, row.cells.filter keeps⟩ column = row.stored column := by
  rw [stored, stored, List.filter_filter]
  apply List.filter_congr
  intro cell member
  by_cases own : cell.column = column
  · rw [kept cell member own, Bool.and_true]
  · rw [decide_eq_false own, Bool.false_and]

/-- A selection of cells that drops the cells of a column leaves nothing of it. -/
theorem stored_filter_of_dropped {row : Row} {column : Column} {keeps : Cell → Bool}
    (dropped : ∀ cell ∈ row.cells, cell.column = column → keeps cell = false) :
    stored ⟨row.key, row.cells.filter keeps⟩ column = [] := by
  rw [stored, List.filter_filter, List.filter_eq_nil_iff]
  intro cell member
  by_cases own : cell.column = column
  · rw [dropped cell member own, Bool.and_false]
    exact Bool.false_ne_true
  · rw [decide_eq_false own, Bool.false_and]
    exact Bool.false_ne_true

theorem Alike.symm {first second : Row} (alike : first.Alike second) : second.Alike first :=
  fun column => (alike column).symm

theorem Alike.mem_of_mem {first second : Row} (alike : first.Alike second) {cell : Cell}
    (member : cell ∈ first.cells) : cell ∈ second.cells :=
  (mem_stored.mp ((alike cell.column).mem_of_mem (mem_stored.mpr ⟨member, rfl⟩))).1

end Row

namespace Table

theorem find?_columns (cells : List Cell) (column : Column) :
    (columns cells).find? column =
      if (cells.filter fun cell => cell.column = column) = [] then none
      else some (cells.filter fun cell => cell.column = column) := by
  have own : SortedMap.under column (cells.map fun cell => (cell.column, cell)) =
      cells.filter fun cell => cell.column = column := by
    rw [SortedMap.under, List.filter_map, List.map_map]
    exact List.map_id _
  rw [columns, SortedMap.find?_gather, own]

/-- What is gathered for a column are its versions, in stored order. -/
theorem gathered_eq {cells : List Cell} {entry : Column × List Cell}
    (listed : entry ∈ (columns cells).entries) :
    entry.2 = cells.filter fun cell => cell.column = entry.1 := by
  have found := SortedMap.find?_eq_some_iff.mpr listed
  rw [find?_columns] at found
  split at found
  · cases found
  · exact (Option.some.inj found).symm

end Table

namespace Row

/-- The columns of which a row has a version, in ascending order. -/
def columns (row : Row) : List Column :=
  (Table.columns row.cells).keys

theorem ascending_columns (row : Row) :
    row.columns.Pairwise fun first second => compare first second = .lt :=
  (Table.columns row.cells).ascending_keys

theorem mem_columns_iff {row : Row} {column : Column} :
    column ∈ row.columns ↔ row.stored column ≠ [] := by
  rw [columns, SortedMap.mem_keys, Table.find?_columns, stored]
  split
  · next absent => simp [absent]
  · next present => simp [present]

/-- Rows that have some version of the same columns have the same columns. -/
theorem columns_eq {first second : Row}
    (same : ∀ column, first.stored column = [] ↔ second.stored column = []) :
    first.columns = second.columns := by
  refine SortedMap.eq_of_ascending id first.ascending_columns second.ascending_columns ?_
  intro column
  rw [mem_columns_iff, mem_columns_iff, Ne, same]

end Row

namespace Table

theorem mem_of_mem_cut {versions : VersionDepth} {cells : List Cell} {cell : Cell}
    (member : cell ∈ cut versions cells) : cell ∈ cells := by
  apply (Cell.newestFirst_alike cells).mem_of_mem
  cases versions with
  | latest => exact List.mem_of_mem_take member
  | all => exact member

/-- A selected column is the stored one, newest first and cut to the depth. -/
theorem stored_select (versions : VersionDepth) (key : Bytes) (cells : List Cell)
    (column : Column) :
    Row.stored ⟨key, select versions cells⟩ column =
      cut versions (Row.stored ⟨key, cells⟩ column) := by
  have elsewhere : ∀ entry ∈ (columns cells).entries, entry.1 ≠ column →
      ((cut versions entry.2).filter fun cell => cell.column = column) = [] := by
    intro entry listed different
    rw [gathered_eq listed]
    apply List.filter_eq_nil_iff.mpr
    intro cell member same
    apply different
    have own := (List.mem_filter.mp (mem_of_mem_cut member)).2
    exact (of_decide_eq_true own).symm.trans (of_decide_eq_true same)
  rw [Row.stored, Row.stored, select, List.filter_flatMap,
    SortedMap.flatMap_entries (columns cells) column _ elsewhere, find?_columns]
  split
  · next absent =>
      rw [absent]
      cases versions <;> simp [cut, VersionDepth.limit, Cell.newestFirst]
  · apply List.filter_eq_self.mpr
    intro cell member
    exact (List.mem_filter.mp (mem_of_mem_cut member)).2

theorem select_alike (key : Bytes) (cells : List Cell) :
    Row.Alike ⟨key, select .all cells⟩ ⟨key, cells⟩ := by
  intro column
  rw [stored_select]
  exact Cell.newestFirst_alike _

theorem cut_eq (versions : VersionDepth) {first second : List Cell}
    (alike : FlowRuns.Alike Cell.timestamp first second) :
    cut versions first = cut versions second := by
  rw [cut, cut, Cell.newestFirst_eq alike]

/-- The selected cells are those of each column, one column after the other. -/
theorem select_eq_flatMap (versions : VersionDepth) (row : Row) :
    select versions row.cells =
      row.columns.flatMap fun column => cut versions (row.stored column) := by
  rw [select, Row.columns, SortedMap.keys, List.flatMap_map]
  refine congrArg List.flatten (List.map_congr_left fun entry listed => ?_)
  rw [gathered_eq listed, Row.stored]

/-- Alike rows have the same selected versions.  Selecting forgets everything
about the order of cells that columns and times do not give. -/
theorem select_eq (versions : VersionDepth) {first second : Row} (alike : first.Alike second) :
    select versions first.cells = select versions second.cells := by
  rw [select_eq_flatMap, select_eq_flatMap, Row.columns_eq fun column => (alike column).nil_iff]
  exact congrArg List.flatten (List.map_congr_left fun column _ => cut_eq versions (alike column))

theorem mem_select {cells : List Cell} {cell : Cell} : cell ∈ select .all cells ↔ cell ∈ cells :=
  ⟨(select_alike [] cells).mem_of_mem, (select_alike [] cells).symm.mem_of_mem⟩

end Table
end FlowRuns
