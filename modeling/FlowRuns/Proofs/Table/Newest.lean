import FlowRuns.Proofs.Table.Answers
import FlowRuns.Proofs.Table.ColumnOrder

namespace FlowRuns

/-!
# The newest version of a column

The versions of a column that carry its greatest timestamp are candidates for
the newest one.  If there is a single candidate, every way to ask for the
newest version gives it.  If several were stored, their order decides, and it
is used in two ways.  Listing versions newest first begins with the candidate
stored first, and a read of the latest versions returns the same one.  The
look-up of the newest version answers with the candidate stored last.
-/

namespace Cell

/-- The cells of the greatest timestamp, in their order. -/
def newestOf (cells : List Cell) : List Cell :=
  newestBy timestamp cells

/-- Sorting by time puts the newest cell that was stored first in front. -/
theorem head?_newestFirst (cells : List Cell) :
    (newestFirst cells).head? = (newestOf cells).head? := by
  have alike := newestFirst_alike cells
  cases sorted : newestFirst cells with
  | nil =>
      rw [sorted] at alike
      rw [alike.nil_iff.mp rfl]
      rfl
  | cons newest older =>
      rw [sorted] at alike
      have order := newestFirst_sorted cells
      rw [sorted] at order
      have greatest : ∀ cell ∈ cells, cell.timestamp ≤ newest.timestamp := by
        intro cell stored
        rcases List.mem_cons.mp (alike.symm.mem_of_mem stored) with same | later
        · rw [same]
          exact Int64.le_refl _
        · exact (List.pairwise_cons.mp order).1 cell later
      rw [newestOf, newestBy_eq (alike.mem_of_mem List.mem_cons_self) greatest,
        ← alike newest.timestamp, List.filter_cons_of_pos (by simp)]
      rfl

/-- The newest cell is the last one stored of the greatest timestamp. -/
theorem newest?_eq_getLast? (cells : List Cell) : newest? cells = (newestOf cells).getLast? := by
  cases found : newest? cells with
  | none =>
      rw [newest?_eq_none_iff.mp found]
      rfl
  | some newest =>
      have spec := newest?_spec found
      have member := (List.mem_filter.mp (List.mem_of_getLast? spec.2)).1
      rw [newestOf, newestBy_eq member spec.1]
      exact spec.2.symm

/-- Where timestamps do not repeat there is at most one newest cell. -/
theorem getLast?_newestOf {cells : List Cell} (distinct : (cells.map timestamp).Nodup) :
    (newestOf cells).getLast? = (newestOf cells).head? := by
  have apart : ((newestOf cells).map timestamp).Nodup :=
    distinct.sublist (List.filter_sublist.map timestamp)
  have level : ∀ cell ∈ newestOf cells, ∀ other ∈ newestOf cells,
      cell.timestamp ≤ other.timestamp := by
    intro cell member other member'
    have above := List.all_eq_true.mp (List.mem_filter.mp member').2
    exact of_decide_eq_true (above cell (List.mem_filter.mp member).1)
  cases candidates : newestOf cells with
  | nil => rfl
  | cons first rest =>
      cases rest with
      | nil => rfl
      | cons second others =>
          rw [candidates] at apart level
          have same : first.timestamp = second.timestamp :=
            Int64.le_antisymm (level first (by simp) second (by simp))
              (level second (by simp) first (by simp))
          exact absurd (by simp [same]) (List.nodup_cons.mp apart).1

end Cell

/-- The puts that store the cells of a row in a table, in the order of the row. -/
def Row.puts (row : Row) (table : String) : List Put :=
  row.cells.map fun cell => ⟨table, row.key, cell⟩

theorem Row.cellsAt_puts (row : Row) (table : String) :
    Put.cellsAt (row.puts table) table row.key = row.cells := by
  rw [Put.cellsAt, puts, List.filter_eq_self.mpr, List.map_map]
  · exact List.map_id _
  · intro put member
    rcases List.mem_map.mp member with ⟨cell, _, rfl⟩
    simp

namespace Table

/-- A row that has a cell has one left at any depth of versions. -/
theorem select_ne_nil (versions : VersionDepth) {cells : List Cell} (filled : cells ≠ []) :
    select versions cells ≠ [] := by
  rcases List.exists_mem_of_ne_nil _ filled with ⟨cell, stored⟩
  have own : Row.stored ⟨[], cells⟩ cell.column ≠ [] :=
    List.ne_nil_of_mem (Row.mem_stored.mpr ⟨stored, rfl⟩)
  have column := Row.stored_selected ⟨[], cells⟩ versions cell.column
  intro empty
  rw [Row.selected, empty] at column
  exact own (Row.versions_eq_nil_iff.mp (versions.keep_eq_nil_iff.mp column.symm))

end Table

namespace Store

/-- A get without a predicate returns the selected versions of the row that
was put. -/
theorem get_afterPuts (row : Row) (table : String) (versions : VersionDepth)
    (filled : row.cells ≠ []) :
    ((afterPuts (row.puts table)).get { table := table, key := row.key, versions := versions }).1 =
      .ok (some ⟨row.key, Table.select versions row.cells⟩) := by
  rcases List.exists_mem_of_ne_nil _ filled with ⟨cell, stored⟩
  have present : ∃ put ∈ row.puts table, put.table = table :=
    ⟨_, List.mem_map_of_mem stored, rfl⟩
  rw [get_afterPuts_of_present present, row.cellsAt_puts, Table.readRow_eq, Table.kept_none,
    if_neg (Table.select_ne_nil versions filled)]

end Store

namespace Row

/-- The versions of a column that carry its greatest timestamp, in stored
order. -/
def newest (row : Row) (column : Column) : List Cell :=
  Cell.newestOf (row.stored column)

/-- The versions of a column begin with the first stored of the newest, which
is also what a read of the latest versions returns, while the look-up of the
newest version gives the last stored of them.  So the two agree exactly if the
first and the last stored are one cell, as they are where timestamps do not
repeat. -/
theorem latest?_eq_head?_versions_iff (row : Row) (column : Column) (table : String) :
    (row.versions column).head? = (row.newest column).head? ∧
    row.latest? column = (row.newest column).getLast? ∧
    (row.latest? column = (row.versions column).head? ↔
      (row.newest column).getLast? = (row.newest column).head?) ∧
    (((row.stored column).map Cell.timestamp).Nodup →
      row.latest? column = (row.versions column).head?) ∧
    (row.cells ≠ [] → ∃ returned,
      ((Store.afterPuts (row.puts table)).get
          { table := table, key := row.key, versions := .latest }).1 = .ok (some returned) ∧
        returned.stored column = (row.versions column).head?.toList) := by
  have first : (row.versions column).head? = (row.newest column).head? :=
    Cell.head?_newestFirst _
  have last : row.latest? column = (row.newest column).getLast? :=
    Cell.newest?_eq_getLast? _
  refine ⟨first, last, by rw [first, last], ?_, ?_⟩
  · intro distinct
    rw [first, last]
    exact Cell.getLast?_newestOf distinct
  · intro filled
    refine ⟨_, Store.get_afterPuts row table .latest filled, ?_⟩
    rw [Table.stored_select]
    exact List.take_one

/-- Of two versions of one time the look-up of the newest version gives the one
stored last.  The list of versions begins with the other, and a read of the
latest versions returns that one. -/
theorem latest?_ne_head?_versions :
    Row.latest?
        ⟨[0x6b], [⟨⟨[0x69], [0x76]⟩, 5, [0x31]⟩, ⟨⟨[0x69], [0x76]⟩, 5, [0x32]⟩]⟩
        ⟨[0x69], [0x76]⟩ = some ⟨⟨[0x69], [0x76]⟩, 5, [0x32]⟩ ∧
    (Row.versions
        ⟨[0x6b], [⟨⟨[0x69], [0x76]⟩, 5, [0x31]⟩, ⟨⟨[0x69], [0x76]⟩, 5, [0x32]⟩]⟩
        ⟨[0x69], [0x76]⟩).head? = some ⟨⟨[0x69], [0x76]⟩, 5, [0x31]⟩ ∧
    ((Store.afterPuts
          [⟨"t", [0x6b], ⟨⟨[0x69], [0x76]⟩, 5, [0x31]⟩⟩,
            ⟨"t", [0x6b], ⟨⟨[0x69], [0x76]⟩, 5, [0x32]⟩⟩]).get
        { table := "t", key := [0x6b], versions := .latest }).1 =
      .ok (some ⟨[0x6b], [⟨⟨[0x69], [0x76]⟩, 5, [0x31]⟩]⟩) := by
  refine ⟨?_, ?_, ?_⟩
  · decide
  · cbv
  · cbv

end Row
end FlowRuns
