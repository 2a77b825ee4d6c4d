import FlowRuns.SortedMap
import FlowRuns.Table.Fault
import FlowRuns.Table.Request

namespace FlowRuns

/-!
# A store in memory

Tables hold rows in ascending order of their keys, and a row holds its cells
in the order they were put.  A read selects versions first, then lets the
predicate decide cell by cell on the row of the selected cells, and returns
the row unless no cell is left.  A scan counts returned rows against its cap,
so a row without a cell left costs nothing.

The store may be told to fail.  The fault then answers the next read,
whatever it asks for, and is spent.
-/

/-- The rows of one table, each with its cells in the order they were put. -/
abbrev Table := SortedMap Bytes (List Cell)

namespace Table

/-- The cells gathered by column. -/
def columns (cells : List Cell) : SortedMap Column (List Cell) :=
  SortedMap.gather (cells.map fun cell => (cell.column, cell))

/-- The versions of one column that a read to some depth returns. -/
def cut (versions : VersionDepth) (cells : List Cell) : List Cell :=
  match versions.limit with
  | none => Cell.newestFirst cells
  | some limit => (Cell.newestFirst cells).take limit

/-- The cells that a read to some depth returns: column by column in ascending
order, and newest first within a column. -/
def select (versions : VersionDepth) (cells : List Cell) : List Cell :=
  (columns cells).entries.flatMap fun column => cut versions column.2

/-- What a read makes of the cells stored at a key. -/
def readRow (versions : VersionDepth) (predicate : Option Predicate) (key : Bytes)
    (cells : List Cell) : Option Row :=
  let selected : Row := ⟨key, select versions cells⟩
  let admitted := match predicate with
    | none => selected
    | some predicate => predicate.apply selected
  if admitted.isEmpty then none else some admitted

/-- Add a cell to a row, which need not exist before. -/
def put (table : Table) (key : Bytes) (cell : Cell) : Table :=
  table.alter key fun cells => cells.getD [] ++ [cell]

/-- The answer to a read of one row. -/
def get (table : Table) (get : Get) : Option Row :=
  (table.find? get.key).bind (readRow get.versions get.predicate get.key)

/-- The entries whose keys do not come before `start`. -/
def entriesFrom (table : Table) (start : Bytes) : List (Bytes × List Cell) :=
  table.entries.dropWhile fun entry => compare entry.1 start == .lt

/-- The rows that a scan returns of entries in the order of their keys, after
those it `found` before.  It stops at the first key that does not begin as
asked, and as soon as it is full. -/
def walk (scan : Scan) : (found : Nat) → List (Bytes × List Cell) → List Row
  | _, [] => []
  | found, (key, cells) :: rest =>
      if !scan.start.isPrefixOf key || scan.isFull found then []
      else
        match readRow scan.versions scan.predicate key cells with
        | none => walk scan found rest
        | some row => row :: walk scan (found + 1) rest

/-- The answer to a scan. -/
def scan (table : Table) (scan : Scan) : List Row :=
  walk scan 0 (table.entriesFrom scan.start)

end Table

/-- Tables by name. -/
abbrev Tables := SortedMap String Table

namespace Tables

/-- Add a cell to a row of a table, neither of which need exist before. -/
def put (tables : Tables) (table : String) (key : Bytes) (cell : Cell) : Tables :=
  tables.alter table fun rows => (rows.getD SortedMap.empty : Table).put key cell

/-- A table that must exist. -/
def table (tables : Tables) (name : String) : Except StoreFault Table :=
  match tables.find? name with
  | none => .error (.tableNotFound name)
  | some rows => .ok rows

/-- The answer to a read of one row. -/
def get (tables : Tables) (get : Get) : Except StoreFault (Option Row) :=
  (tables.table get.table).map fun rows => Table.get rows get

/-- The answer to a scan. -/
def scan (tables : Tables) (scan : Scan) : Except StoreFault (List Row) :=
  (tables.table scan.table).map fun rows => Table.scan rows scan

end Tables

/-- Tables, and the fault that answers the next read. -/
structure Store where
  tables : Tables := SortedMap.empty
  pending : Option StoreFault := none

namespace Store

/-- A store without tables. -/
def empty : Store := {}

/-- Add a cell.  Writes do not fail and leave a pending fault as it is. -/
def put (store : Store) (table : String) (key : Bytes) (cell : Cell) : Store :=
  { store with tables := store.tables.put table key cell }

/-- Let a fault answer the next read.  It takes the place of a pending one. -/
def failNext (store : Store) (fault : StoreFault) : Store :=
  { store with pending := some fault }

/-- Answer a read with the pending fault and spend it, or else as the tables do. -/
def read {α : Type} (store : Store) (answer : Tables → Except StoreFault α) :
    Except StoreFault α × Store :=
  match store.pending with
  | some fault => (.error fault, { store with pending := none })
  | none => (answer store.tables, store)

/-- Read one row. -/
def get (store : Store) (get : Get) : Except StoreFault (Option Row) × Store :=
  store.read fun tables => tables.get get

/-- Scan rows. -/
def scan (store : Store) (scan : Scan) : Except StoreFault (List Row) × Store :=
  store.read fun tables => tables.scan scan

end Store
end FlowRuns
