import FlowRuns.Proofs.Table.History
import FlowRuns.Proofs.Table.Scan
import Mathlib.Data.List.Permutation

namespace FlowRuns

/-!
# What a store answers after puts

A store answers a read with its pending fault, if there is one, and otherwise
from a table, which has to exist.  After puts alone it answers from the cells
that were put at the keys which the read is about.  A get makes a row of the
cells at its key.  A scan makes rows of the cells behind its beginning, in the
order of their keys, and returns the first of them up to its cap.

The rows of a scan are described here by the puts alone, without the walk that
finds them.  The description fixes their list, since it fixes which rows there
are and in which order they come.  So whatever the walk skips, counts and stops
at, it returns a front of that list.
-/

/-- A row under a predicate that need not be there. -/
def Predicate.applied : Option Predicate → Row → Row
  | none, row => row
  | some predicate, row => predicate.apply row

namespace Table

theorem kept_eq (versions : VersionDepth) (predicate : Option Predicate) (key : Bytes)
    (cells : List Cell) :
    Predicate.applied predicate ⟨key, select versions cells⟩ =
      ⟨key, kept versions predicate key cells⟩ := by
  cases predicate with
  | none => exact congrArg (Row.mk key) (kept_none versions key cells).symm
  | some predicate => rfl

/-- There is no row without cells. -/
theorem readRow_nil (versions : VersionDepth) (predicate : Option Predicate) (key : Bytes) :
    readRow versions predicate key [] = none :=
  (readRow_eq versions predicate key []).trans (if_pos rfl)

end Table

namespace Scan

/-- The row that a scan makes of the cells that were put at a key.  Its
predicate sees them after the versions are selected. -/
def rowAt (scan : Scan) (puts : List Put) (key : Bytes) : Row :=
  Predicate.applied scan.predicate
    ⟨key, Table.select scan.versions (Put.cellsAt puts scan.table key)⟩

/-- The rows that a scan without a cap returns after some puts.  They are the
rows behind its beginning that have a cell left, in ascending order of their
keys. -/
structure Finds (scan : Scan) (puts : List Put) (rows : List Row) : Prop where
  ascending : rows.Pairwise fun first second => compare first.key second.key = .lt
  mem_iff : ∀ row, row ∈ rows ↔
    scan.start <+: row.key ∧ row = scan.rowAt puts row.key ∧ row.cells ≠ []

variable {scan : Scan} {puts : List Put}

/-- Rows in ascending order are determined by their membership. -/
theorem Finds.unique {first second : List Row} (finds : scan.Finds puts first)
    (finds' : scan.Finds puts second) : first = second := by
  exact SortedMap.eq_of_ascending Row.key finds.ascending finds'.ascending fun row =>
    (finds.mem_iff row).trans (finds'.mem_iff row).symm

end Scan

namespace Table.Holds

variable {table : Table} {puts : List Put} {name : String}

/-- A read of one key makes a row of what was put there. -/
theorem bind_readRow (holds : table.Holds puts name) (versions : VersionDepth)
    (predicate : Option Predicate) (key : Bytes) :
    (table.find? key).bind (readRow versions predicate key) =
      readRow versions predicate key (Put.cellsAt puts name key) := by
  rw [holds key]
  split
  · next absent => rw [absent, readRow_nil, Option.bind_none]
  · rw [Option.bind_some]

/-- The walk of a scan, before its cap, meets all rows and nothing else. -/
theorem finds_scanned {scan : Scan} (holds : table.Holds puts scan.table) :
    scan.Finds puts (table.scanned scan) where
  ascending := ascending_scanned table scan
  mem_iff row := by
    have read := holds.bind_readRow scan.versions scan.predicate row.key
    have described : readRow scan.versions scan.predicate row.key
          (Put.cellsAt puts scan.table row.key) = some row ↔
        row = scan.rowAt puts row.key ∧ row.cells ≠ [] := by
      rw [readRow_eq_some_iff, Scan.rowAt, kept_eq, and_comm]
      exact and_congr_right fun same => by rw [same]
    rw [mem_scanned, ← described, ← read, Option.bind_eq_some_iff]
    constructor
    · rintro ⟨cells, listed, begins, returned⟩
      exact ⟨begins, cells, SortedMap.find?_eq_some_iff.mpr listed, returned⟩
    · rintro ⟨begins, cells, found, returned⟩
      exact ⟨cells, SortedMap.find?_eq_some_iff.mp found, begins, returned⟩

end Table.Holds

namespace Store

/-! ## Pending faults -/

/-- The store without a pending fault. -/
def calm (store : Store) : Store :=
  { store with pending := none }

theorem calm_eq {store : Store} (calm : store.pending = none) : store.calm = store := by
  rcases store with ⟨tables, pending⟩
  rw [Store.calm, ← calm]

/-- Whatever a store answers, no fault is pending afterwards. -/
theorem read_state {α : Type} (store : Store) (answer : Tables → Except StoreFault α) :
    (store.read answer).2 = store.calm := by
  cases pending : store.pending with
  | none => rw [read, pending, calm_eq pending]
  | some fault => rw [read, pending, calm]

theorem read_of_pending {α : Type} {store : Store} {fault : StoreFault}
    (pending : store.pending = some fault) (answer : Tables → Except StoreFault α) :
    (store.read answer).1 = .error fault := by
  rw [read, pending]

/-! ## Tables that are there or not -/

section Calm

variable {store : Store} (calm : store.pending = none) {get : Get} {scan : Scan} {table : Table}

include calm

theorem get_of_present (present : store.tables.find? get.table = some table) :
    store.get get = (.ok (table.get get), store) := by
  rw [Store.get, read, calm]
  simp only [Tables.get, Tables.table, present, Except.map]

theorem get_of_absent (absent : store.tables.find? get.table = none) :
    store.get get = (.error (.tableNotFound get.table), store) := by
  rw [Store.get, read, calm]
  simp only [Tables.get, Tables.table, absent, Except.map]

theorem scan_of_present (present : store.tables.find? scan.table = some table) :
    store.scan scan = (.ok (table.scan scan), store) := by
  rw [Store.scan, read, calm]
  simp only [Tables.scan, Tables.table, present, Except.map]

theorem scan_of_absent (absent : store.tables.find? scan.table = none) :
    store.scan scan = (.error (.tableNotFound scan.table), store) := by
  rw [Store.scan, read, calm]
  simp only [Tables.scan, Tables.table, absent, Except.map]

end Calm

/-! ## Stores that took puts -/

variable {puts : List Put}

theorem get_afterPuts_of_present {get : Get} (present : ∃ put ∈ puts, put.table = get.table) :
    (afterPuts puts).get get =
      (.ok (Table.readRow get.versions get.predicate get.key
        (Put.cellsAt puts get.table get.key)), afterPuts puts) := by
  rcases find?_afterPuts present with ⟨table, found, holds⟩
  rw [get_of_present (pending_afterPuts puts) found, Table.get, holds.bind_readRow]

theorem get_afterPuts_of_absent {get : Get} (absent : ¬ ∃ put ∈ puts, put.table = get.table) :
    (afterPuts puts).get get = (.error (.tableNotFound get.table), afterPuts puts) :=
  get_of_absent (pending_afterPuts puts) (find?_afterPuts_of_absent absent)

theorem scan_afterPuts_of_absent {scan : Scan} (absent : ¬ ∃ put ∈ puts, put.table = scan.table) :
    (afterPuts puts).scan scan = (.error (.tableNotFound scan.table), afterPuts puts) :=
  scan_of_absent (pending_afterPuts puts) (find?_afterPuts_of_absent absent)

theorem scan_afterPuts_of_finds {scan : Scan} (present : ∃ put ∈ puts, put.table = scan.table)
    {rows : List Row} (finds : scan.Finds puts rows) :
    (afterPuts puts).scan scan = (.ok (scan.capped rows), afterPuts puts) := by
  rcases find?_afterPuts present with ⟨table, found, holds⟩
  rw [scan_of_present (pending_afterPuts puts) found, Table.scan_eq,
    holds.finds_scanned.unique finds]

/-- There are rows for a scan of such a table to find. -/
theorem exists_finds {scan : Scan} (present : ∃ put ∈ puts, put.table = scan.table) :
    ∃ rows, scan.Finds puts rows := by
  rcases find?_afterPuts present with ⟨table, _, holds⟩
  exact ⟨table.scanned scan, holds.finds_scanned⟩

/-- A scan of a table that was put to returns the first of the rows that it is
to find, as many as its cap allows, and leaves the store as it is. -/
theorem scan_afterPuts {scan : Scan} (present : ∃ put ∈ puts, put.table = scan.table) :
    ∃ rows, scan.Finds puts rows ∧ (∀ other, scan.Finds puts other → other = rows) ∧
      (afterPuts puts).scan scan = (.ok (scan.capped rows), afterPuts puts) := by
  rcases exists_finds present with ⟨rows, finds⟩
  exact ⟨rows, finds, fun _ finds' => finds'.unique finds, scan_afterPuts_of_finds present finds⟩

end Store

/-- Puts of one cell each, before a beginning, at it, behind it and after it.
The cell at the beginning is in another family. -/
def Put.aroundBeginning : List Put :=
  [⟨"t", [0x61, 0xff], ⟨⟨[0x69], [0x71]⟩, 1, [0x31]⟩⟩,
    ⟨"t", [0x62], ⟨⟨[0x69], [0x71]⟩, 1, [0x32]⟩⟩,
    ⟨"t", [0x61], ⟨⟨[0x6f], [0x71]⟩, 1, [0x33]⟩⟩,
    ⟨"t", [0x61, 0xff, 0x00], ⟨⟨[0x69], [0x71]⟩, 1, [0x34]⟩⟩,
    ⟨"t", [0x60, 0xff], ⟨⟨[0x69], [0x71]⟩, 1, [0x35]⟩⟩,
    ⟨"t", [0x61, 0x00], ⟨⟨[0x69], [0x71]⟩, 1, [0x36]⟩⟩]

/-- A scan of one family for two rows. -/
def Scan.twoOfFamily : Scan where
  table := "t"
  start := [0x61]
  predicate := some (.all [.pageLimit 2, .family .equal [0x69]])

namespace Store

/-- The row at the beginning is filtered out, so two later ones are returned. -/
theorem scan_afterPuts_of_filtered_row :
    ∃ rows, Scan.twoOfFamily.Finds Put.aroundBeginning rows ∧
      (∀ other, Scan.twoOfFamily.Finds Put.aroundBeginning other → other = rows) ∧
      (afterPuts Put.aroundBeginning).scan Scan.twoOfFamily =
        (.ok (Scan.twoOfFamily.capped rows), afterPuts Put.aroundBeginning) ∧
      Scan.twoOfFamily.capped rows =
        [⟨[0x61, 0x00], [⟨⟨[0x69], [0x71]⟩, 1, [0x36]⟩]⟩,
          ⟨[0x61, 0xff], [⟨⟨[0x69], [0x71]⟩, 1, [0x31]⟩]⟩] := by
  have returned : ((afterPuts Put.aroundBeginning).scan Scan.twoOfFamily).1 =
      .ok [⟨[0x61, 0x00], [⟨⟨[0x69], [0x71]⟩, 1, [0x36]⟩]⟩,
        ⟨[0x61, 0xff], [⟨⟨[0x69], [0x71]⟩, 1, [0x31]⟩]⟩] := by
    cbv
  rcases @scan_afterPuts Put.aroundBeginning Scan.twoOfFamily ⟨_, List.mem_cons_self, rfl⟩ with
    ⟨rows, finds, unique, answer⟩
  refine ⟨rows, finds, unique, answer, ?_⟩
  rw [answer] at returned
  exact Except.ok.inj returned

end Store
end FlowRuns
