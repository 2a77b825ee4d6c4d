import FlowRuns.Proofs.Bytes.Order
import FlowRuns.Proofs.SortedMap
import FlowRuns.Proofs.Table.Predicate
import FlowRuns.Table.Store

namespace FlowRuns

/-!
# What reads of a table return

The keys that begin alike stand together in a table, so the walk of a scan
from the first of them to the first other key meets them all.  Of each row a
read keeps the selected cells that its predicate allows, and it returns the
row if there are any.  The cap of a scan counts what it returns, so it cuts
the rows that the scan would return without it.
-/

namespace Table

variable {entries : List (Bytes × List Cell)}

/-- In the order of keys nothing that begins with `start` follows a later key
that does not. -/
private theorem takeWhile_eq_filter {start : Bytes}
    (ascending : entries.Pairwise fun first second => compare first.1 second.1 = .lt)
    (after : ∀ entry ∈ entries, compare entry.1 start ≠ .lt) :
    (entries.takeWhile fun entry => start.isPrefixOf entry.1) =
      entries.filter fun entry => start.isPrefixOf entry.1 := by
  induction entries with
  | nil => rfl
  | cons head rest inductionHypothesis =>
      have parts := List.pairwise_cons.mp ascending
      by_cases begins : start.isPrefixOf head.1
      · rw [List.takeWhile_cons, if_pos begins, List.filter_cons, if_pos begins,
          inductionHypothesis parts.2 fun entry later => after entry (List.mem_cons_of_mem _ later)]
      · have none : (rest.filter fun entry => start.isPrefixOf entry.1) = [] := by
          apply List.filter_eq_nil_iff.mpr
          intro entry later begins'
          apply begins
          exact List.isPrefixOf_iff_prefix.mpr (Bytes.prefix_of_between
            (after head List.mem_cons_self) (parts.1 entry later)
            (List.isPrefixOf_iff_prefix.mp begins'))
        rw [List.takeWhile_cons, if_neg begins, List.filter_cons, if_neg begins, none]

private theorem walk_eq_filter {start : Bytes}
    (ascending : entries.Pairwise fun first second => compare first.1 second.1 = .lt) :
    ((entries.dropWhile fun entry => compare entry.1 start == .lt).takeWhile
        fun entry => start.isPrefixOf entry.1) =
      entries.filter fun entry => start.isPrefixOf entry.1 := by
  induction entries with
  | nil => rfl
  | cons head rest inductionHypothesis =>
      have parts := List.pairwise_cons.mp ascending
      by_cases before : compare head.1 start = .lt
      · have foreign : ¬ start.isPrefixOf head.1 := fun begins =>
          Bytes.compare_ne_lt_of_prefix (List.isPrefixOf_iff_prefix.mp begins) before
        rw [List.dropWhile_cons, if_pos (by rw [before]; rfl), List.filter_cons, if_neg foreign,
          inductionHypothesis parts.2]
      · rw [List.dropWhile_cons, if_neg (by simpa using before)]
        apply takeWhile_eq_filter ascending
        intro entry member
        rcases List.mem_cons.mp member with same | later
        · rw [same]
          exact before
        · intro earlier
          exact before (Std.TransCmp.lt_trans (parts.1 entry later) earlier)

/-- The entries whose key begins with `start`.  They follow one another. -/
def entriesUnder (table : Table) (start : Bytes) : List (Bytes × List Cell) :=
  (table.entriesFrom start).takeWhile fun entry => start.isPrefixOf entry.1

theorem entriesUnder_eq (table : Table) (start : Bytes) :
    table.entriesUnder start = table.entries.filter fun entry => start.isPrefixOf entry.1 :=
  walk_eq_filter table.ascending

theorem mem_entriesUnder {table : Table} {start : Bytes} {entry : Bytes × List Cell} :
    entry ∈ table.entriesUnder start ↔ entry ∈ table.entries ∧ start <+: entry.1 := by
  rw [entriesUnder_eq, List.mem_filter, List.isPrefixOf_iff_prefix]

theorem ascending_entriesUnder (table : Table) (start : Bytes) :
    (table.entriesUnder start).Pairwise fun first second => compare first.1 second.1 = .lt := by
  rw [entriesUnder_eq]
  exact table.ascending.filter _

/-- Tables that find the same behind a beginning have the same entries there. -/
theorem entriesUnder_congr {table table' : Table} {start : Bytes}
    (same : ∀ key, start <+: key → table.find? key = table'.find? key) :
    table.entriesUnder start = table'.entriesUnder start := by
  have restricted : table.restrict start.isPrefixOf = table'.restrict start.isPrefixOf := by
    apply SortedMap.ext_find?
    intro key
    rw [SortedMap.find?_restrict, SortedMap.find?_restrict]
    split
    · next begins => exact same key (List.isPrefixOf_iff_prefix.mp begins)
    · rfl
  rw [entriesUnder_eq, entriesUnder_eq]
  exact congrArg SortedMap.entries restricted

/-! ## Rows -/

/-- The selected cells that a read keeps of a row. -/
def kept (versions : VersionDepth) (predicate : Option Predicate) (key : Bytes)
    (cells : List Cell) : List Cell :=
  (select versions cells).filter (Predicate.allows predicate ⟨key, select versions cells⟩)

theorem kept_none (versions : VersionDepth) (key : Bytes) (cells : List Cell) :
    kept versions none key cells = select versions cells :=
  List.filter_eq_self.mpr fun _ _ => rfl

theorem readRow_eq (versions : VersionDepth) (predicate : Option Predicate) (key : Bytes)
    (cells : List Cell) :
    readRow versions predicate key cells =
      if kept versions predicate key cells = [] then none
      else some ⟨key, kept versions predicate key cells⟩ := by
  cases predicate with
  | none => simp only [readRow, Row.isEmpty, kept_none, List.isEmpty_iff]
  | some predicate =>
      have applied : kept versions (some predicate) key cells =
          (predicate.apply ⟨key, select versions cells⟩).cells := rfl
      simp only [readRow, Row.isEmpty, applied, List.isEmpty_iff]
      rfl

theorem readRow_eq_some_iff {versions : VersionDepth} {predicate : Option Predicate} {key : Bytes}
    {cells : List Cell} {row : Row} :
    readRow versions predicate key cells = some row ↔
      kept versions predicate key cells ≠ [] ∧ row = ⟨key, kept versions predicate key cells⟩ := by
  rw [readRow_eq]
  split
  · next empty => simp [empty]
  · next left => simp [left, eq_comm]

/-- A read sees of the cells of a row what is selected. -/
theorem readRow_eq_of_select {versions : VersionDepth} {first second : List Cell}
    (same : select versions first = select versions second) (predicate : Option Predicate)
    (key : Bytes) :
    readRow versions predicate key first = readRow versions predicate key second := by
  rw [readRow_eq, readRow_eq, kept, kept, same]

/-- A read without a predicate shows all of what is selected. -/
theorem select_eq_of_readRow {versions : VersionDepth} {key : Bytes} {first second : List Cell}
    (same : readRow versions none key first = readRow versions none key second) :
    select versions first = select versions second := by
  rw [readRow_eq, readRow_eq, kept_none, kept_none] at same
  split at same
  · next empty =>
      split at same
      · next empty' => rw [empty, empty']
      · cases same
  · split at same
    · cases same
    · exact congrArg Row.cells (Option.some.inj same)

theorem not_isEmpty_of_readRow {versions : VersionDepth} {predicate : Option Predicate}
    {key : Bytes} {cells : List Cell} {row : Row}
    (returned : readRow versions predicate key cells = some row) : row.isEmpty = false := by
  have spec := readRow_eq_some_iff.mp returned
  rw [spec.2, Row.isEmpty]
  exact List.isEmpty_eq_false_iff.mpr spec.1

/-- Predicates that allow the same cells return the same rows. -/
theorem readRow_congr {predicate predicate' : Option Predicate}
    (same : ∀ row cell, Predicate.allows predicate row cell = Predicate.allows predicate' row cell)
    (versions : VersionDepth) (key : Bytes) (cells : List Cell) :
    readRow versions predicate key cells = readRow versions predicate' key cells := by
  have cellwise : kept versions predicate key cells = kept versions predicate' key cells :=
    List.filter_congr fun cell _ => same _ cell
  rw [readRow_eq, readRow_eq, cellwise]

/-- The rows of a scan before its cap. -/
def scanned (table : Table) (scan : Scan) : List Row :=
  (table.entriesUnder scan.start).filterMap fun entry =>
    readRow scan.versions scan.predicate entry.1 entry.2

theorem mem_scanned {table : Table} {scan : Scan} {row : Row} :
    row ∈ table.scanned scan ↔ ∃ cells, (row.key, cells) ∈ table.entries ∧
      scan.start <+: row.key ∧ readRow scan.versions scan.predicate row.key cells = some row := by
  rw [scanned, List.mem_filterMap]
  constructor
  · rintro ⟨⟨key, cells⟩, listed, returned⟩
    have own : key = row.key := by rw [(readRow_eq_some_iff.mp returned).2]
    subst own
    exact ⟨cells, (mem_entriesUnder.mp listed).1, (mem_entriesUnder.mp listed).2, returned⟩
  · rintro ⟨cells, listed, begins, returned⟩
    exact ⟨(row.key, cells), mem_entriesUnder.mpr ⟨listed, begins⟩, returned⟩

/-- A scan finds rows behind its beginning. -/
theorem start_prefix_of_mem_scanned {table : Table} {scan : Scan} {row : Row}
    (returned : row ∈ table.scanned scan) : scan.start <+: row.key := by
  rcases mem_scanned.mp returned with ⟨_, _, begins, _⟩
  exact begins

/-- The rows of a scan come in the order of their keys. -/
theorem ascending_scanned (table : Table) (scan : Scan) :
    (table.scanned scan).Pairwise fun first second => compare first.key second.key = .lt := by
  rw [scanned, List.pairwise_filterMap]
  apply (table.ascending_entriesUnder scan.start).imp
  intro first second below row returned row' returned'
  rw [(readRow_eq_some_iff.mp returned).2, (readRow_eq_some_iff.mp returned').2]
  exact below

theorem not_isEmpty_of_mem_scanned {table : Table} {scan : Scan} {row : Row}
    (returned : row ∈ table.scanned scan) : row.isEmpty = false := by
  rcases mem_scanned.mp returned with ⟨cells, _, _, read⟩
  exact not_isEmpty_of_readRow read

end Table

/-! ## The cap -/

namespace Scan

/-- The first of some rows, as many as a scan returns at most. -/
def capped (scan : Scan) (rows : List Row) : List Row :=
  match scan.rowCap with
  | none => rows
  | some cap => rows.take cap.toNat

/-- The first of some rows, as many as a scan returns that has found some
others before. -/
def cappedAfter (scan : Scan) (found : Nat) (rows : List Row) : List Row :=
  match scan.rowCap with
  | none => rows
  | some cap => rows.take (cap.toNat - found)

variable {scan : Scan}

theorem cappedAfter_zero (rows : List Row) : scan.cappedAfter 0 rows = scan.capped rows := rfl

theorem cappedAfter_nil (scan : Scan) (found : Nat) : scan.cappedAfter found [] = [] := by
  unfold cappedAfter
  split
  · rfl
  · exact List.take_nil

theorem cappedAfter_of_full {found : Nat} (full : scan.isFull found) (rows : List Row) :
    scan.cappedAfter found rows = [] := by
  unfold isFull at full
  unfold cappedAfter
  split
  · next unbounded =>
      rw [unbounded] at full
      cases full
  · next cap bounded =>
      rw [bounded] at full
      rw [Nat.sub_eq_zero_of_le (of_decide_eq_true full), List.take_zero]

theorem cappedAfter_cons {found : Nat} (room : scan.isFull found = false) (row : Row)
    (rows : List Row) :
    scan.cappedAfter found (row :: rows) = row :: scan.cappedAfter (found + 1) rows := by
  unfold isFull at room
  unfold cappedAfter
  split
  · rfl
  · next cap bounded =>
      rw [bounded] at room
      have below : ¬ cap.toNat ≤ found := of_decide_eq_false room
      have missing : cap.toNat - found = cap.toNat - (found + 1) + 1 := by omega
      rw [missing, List.take_succ_cons]

theorem mem_of_mem_capped {rows : List Row} {row : Row} (member : row ∈ scan.capped rows) :
    row ∈ rows := by
  unfold capped at member
  split at member
  · exact member
  · exact List.mem_of_mem_take member

end Scan

namespace Table

/-- The walk counts the rows that it returns.  Those that it passes over,
because no cell of them is left, cost nothing. -/
theorem walk_eq (scan : Scan) (found : Nat) (entries : List (Bytes × List Cell)) :
    walk scan found entries = scan.cappedAfter found
      ((entries.takeWhile fun entry => scan.start.isPrefixOf entry.1).filterMap fun entry =>
        readRow scan.versions scan.predicate entry.1 entry.2) := by
  induction entries generalizing found with
  | nil => exact (scan.cappedAfter_nil found).symm
  | cons head rest inductionHypothesis =>
      rcases head with ⟨key, cells⟩
      rw [walk, List.takeWhile_cons]
      by_cases begins : scan.start.isPrefixOf key
      · cases full : scan.isFull found with
        | true => simp only [begins, Bool.or_true, if_true, Scan.cappedAfter_of_full full]
        | false =>
            simp only [begins, Bool.not_true, Bool.or_self, Bool.false_eq_true, if_false, if_true,
              List.filterMap_cons]
            cases readRow scan.versions scan.predicate key cells with
            | none => exact inductionHypothesis found
            | some row => simp only [inductionHypothesis, Scan.cappedAfter_cons full]
      · simp only [begins, Bool.not_false, Bool.true_or, if_true, Bool.false_eq_true, if_false,
          List.filterMap_nil, Scan.cappedAfter_nil]

theorem scan_eq (table : Table) (scan : Scan) :
    table.scan scan = scan.capped (table.scanned scan) := by
  rw [Table.scan, walk_eq, Scan.cappedAfter_zero]
  rfl

/-- A scan sees of a table what stands behind its beginning. -/
theorem scan_congr {table table' : Table} {scan : Scan}
    (same : ∀ key, scan.start <+: key → table.find? key = table'.find? key) :
    table.scan scan = table'.scan scan := by
  rw [scan_eq, scan_eq, scanned, scanned, entriesUnder_congr same]

theorem mem_scanned_of_mem_scan {table : Table} {scan : Scan} {row : Row}
    (returned : row ∈ table.scan scan) : row ∈ table.scanned scan := by
  rw [scan_eq] at returned
  exact Scan.mem_of_mem_capped returned

end Table
end FlowRuns
