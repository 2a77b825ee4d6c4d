import FlowRuns.Proofs.Table.Selection

namespace FlowRuns

/-!
# The order of selected versions

A read returns the selected cells of a row column by column.  Columns come in
ascending order, by family first and then by qualifier, and each of them is one
block of versions, newest first.  A read to all versions loses no cell and repeats
none, and a read of the latest versions keeps one cell of each column.

The selected cells are thereby known from the columns of the row and the versions
of each.  Selecting keeps both as they are, up to the depth of the read, so selecting
all versions once more changes nothing.
-/

namespace Column

/-- A column of a lesser family, or of the same family and with a lesser qualifier. -/
def Before (first second : Column) : Prop :=
  compare first.family second.family = .lt ∨
    first.family = second.family ∧ compare first.qualifier second.qualifier = .lt

theorem compare_eq_lt_iff {first second : Column} :
    compare first second = .lt ↔ first.Before second := by
  change (compare first.family second.family).then
    (compare first.qualifier second.qualifier) = .lt ↔ _
  rw [Ordering.then_eq_lt, Std.LawfulEqCmp.compare_eq_iff_eq, Before]

end Column

namespace VersionDepth

/-- As many of some versions as a read to some depth returns. -/
def keep (depth : VersionDepth) (versions : List Cell) : List Cell :=
  match depth.limit with
  | none => versions
  | some limit => versions.take limit

theorem keep_sublist (depth : VersionDepth) (versions : List Cell) :
    (depth.keep versions).Sublist versions := by
  cases depth with
  | latest => exact List.take_sublist 1 versions
  | all => exact List.Sublist.refl versions

/-- Some version of each column is kept. -/
theorem keep_eq_nil_iff (depth : VersionDepth) {versions : List Cell} :
    depth.keep versions = [] ↔ versions = [] := by
  cases depth with
  | latest => cases versions <;> simp [keep, limit]
  | all => exact Iff.rfl

end VersionDepth

namespace Row

variable {row : Row} {column : Column}

theorem versions_eq_nil_iff : row.versions column = [] ↔ row.stored column = [] :=
  (Cell.newestFirst_alike _).nil_iff

theorem stored_ne_nil_iff : row.stored column ≠ [] ↔ column ∈ row.cells.map Cell.column := by
  constructor
  · intro present
    rcases List.exists_mem_of_ne_nil _ present with ⟨cell, member⟩
    exact List.mem_map.mpr ⟨cell, mem_stored.mp member⟩
  · intro listed
    rcases List.mem_map.mp listed with ⟨cell, own⟩
    exact List.ne_nil_of_mem (mem_stored.mpr own)

/-- Rows that are alike have the same cells. -/
theorem Alike.perm {first second : Row} (alike : first.Alike second) :
    first.cells.Perm second.cells := by
  rw [List.perm_iff_count]
  intro cell
  have counted : ∀ row : Row, row.cells.count cell = ((row.stored cell.column).filter
      fun other => other.timestamp = cell.timestamp).count cell := by
    intro row
    rw [List.count_filter (by simp), stored, List.count_filter (by simp)]
  rw [counted, counted, alike]

/-- What a read to some depth returns of a row of which nothing is filtered. -/
def selected (row : Row) (depth : VersionDepth) : Row :=
  ⟨row.key, Table.select depth row.cells⟩

theorem cut_stored (depth : VersionDepth) (row : Row) (column : Column) :
    Table.cut depth (row.stored column) = depth.keep (row.versions column) := by
  cases depth <;> rfl

theorem stored_selected (row : Row) (depth : VersionDepth) (column : Column) :
    (row.selected depth).stored column = depth.keep (row.versions column) := by
  rw [selected, Table.stored_select, ← cut_stored]

theorem cells_selected (row : Row) (depth : VersionDepth) :
    (row.selected depth).cells =
      row.columns.flatMap fun column => depth.keep (row.versions column) := by
  rw [selected, Table.select_eq_flatMap]
  exact congrArg List.flatten (List.map_congr_left fun column _ => cut_stored depth row column)

/-- Selected versions are still newest first. -/
theorem versions_selected (row : Row) (depth : VersionDepth) (column : Column) :
    (row.selected depth).versions column = depth.keep (row.versions column) := by
  rw [versions, stored_selected, Cell.newestFirst]
  apply List.mergeSort_of_pairwise
  have sorted := (Cell.newestFirst_sorted (row.stored column)).sublist (depth.keep_sublist _)
  exact sorted.imp decide_eq_true

/-- Some version of every column is selected. -/
theorem columns_selected (row : Row) (depth : VersionDepth) :
    (row.selected depth).columns = row.columns := by
  apply columns_eq
  intro column
  rw [stored_selected, depth.keep_eq_nil_iff, versions_eq_nil_iff]

/-- A selection from selected cells finds each column as the first one has left it. -/
theorem selected_selected (row : Row) (depth : VersionDepth) :
    (row.selected depth).selected .all = row.selected depth := by
  have cells : ((row.selected depth).selected .all).cells = (row.selected depth).cells := by
    rw [cells_selected (row.selected depth), columns_selected, cells_selected row]
    exact congrArg List.flatten (List.map_congr_left fun column _ => row.versions_selected depth column)
  exact congrArg (Row.mk row.key) cells

/-- Of each column that the row has, a read of the latest versions returns one cell. -/
theorem length_stored_latest (row : Row) (column : Column) :
    ((row.selected .latest).stored column).length =
      if column ∈ row.cells.map Cell.column then 1 else 0 := by
  rw [stored_selected]
  cases versions : row.versions column with
  | nil =>
      have absent : column ∉ row.cells.map Cell.column := fun listed =>
        stored_ne_nil_iff.mpr listed (versions_eq_nil_iff.mp versions)
      rw [if_neg absent]
      rfl
  | cons newest older =>
      have present : column ∈ row.cells.map Cell.column := by
        rw [← stored_ne_nil_iff, Ne, ← versions_eq_nil_iff, versions]
        exact List.cons_ne_nil newest older
      rw [if_pos present]
      rfl

/-- The selected cells of a row are those of its columns, one column after the other in
the order of families and then of qualifiers, and of each column the versions, newest
first, up to the depth of the read.  All versions of a row are its cells in another
order, and the latest are one for each column.  To select all versions again changes
nothing. -/
theorem selected_in_column_order (row : Row) :
    (row.selected .all).cells.Perm row.cells ∧
    (∀ column : Column, ((row.selected .latest).stored column).length =
      if column ∈ row.cells.map Cell.column then 1 else 0) ∧
    ∀ depth : VersionDepth,
      (∃ columns : List Column, columns.Pairwise Column.Before ∧
        (∀ column, column ∈ columns ↔ column ∈ row.cells.map Cell.column) ∧
        (row.selected depth).cells =
          columns.flatMap fun column => depth.keep (row.versions column)) ∧
      (∀ column, (row.selected depth).stored column = depth.keep (row.versions column)) ∧
      (row.selected depth).selected .all = row.selected depth := by
  refine ⟨(Table.select_alike row.key row.cells).perm, row.length_stored_latest, ?_⟩
  intro depth
  refine ⟨⟨row.columns, ?_, ?_, row.cells_selected depth⟩, row.stored_selected depth,
    row.selected_selected depth⟩
  · exact row.ascending_columns.imp Column.compare_eq_lt_iff.mp
  · intro column
    rw [mem_columns_iff, stored_ne_nil_iff]

/-- A family that is a beginning of another comes first, although both columns are
spelled `abc`. -/
example :
    (Row.selected ⟨[], [⟨⟨[0x61, 0x62], [0x63]⟩, 1, [0x31]⟩, ⟨⟨[0x61], [0x62, 0x63]⟩, 1, [0x32]⟩,
      ⟨⟨[0x61, 0x62], [0x63]⟩, 2, [0x33]⟩]⟩ .all).cells =
      [⟨⟨[0x61], [0x62, 0x63]⟩, 1, [0x32]⟩, ⟨⟨[0x61, 0x62], [0x63]⟩, 2, [0x33]⟩,
        ⟨⟨[0x61, 0x62], [0x63]⟩, 1, [0x31]⟩] := by
  cbv

end Row
end FlowRuns
