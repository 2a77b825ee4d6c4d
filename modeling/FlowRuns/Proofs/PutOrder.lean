import FlowRuns.Proofs.StoreAccess
import FlowRuns.Proofs.Table.Answers
import FlowRuns.Proofs.Table.Selection

namespace FlowRuns

/-!
# The order of puts

A put goes to a place, which is a column of a row of a table at a time.  Reads
select versions before anything else, and the selected cells of a row depend on
what was put at each place and on the order there.  So histories that put the
same values at each place in the same order cannot be told apart by reads,
although their tables may come into being in another order and may hold the
cells of a row in another order.

Nothing is asked of the aggregators here.  They merge the selected cells, which
are the same list in the same order.
-/

/-- Where a put goes, and the time of the version that it makes there. -/
structure Put.Place where
  table : String
  key : Bytes
  column : Column
  timestamp : Int64
  deriving DecidableEq

namespace Put

def place (put : Put) : Place :=
  ⟨put.table, put.key, put.cell.column, put.cell.timestamp⟩

/-- The put of a value at a place. -/
def Place.put (place : Place) (value : Bytes) : Put :=
  ⟨place.table, place.key, ⟨place.column, place.timestamp, value⟩⟩

/-- The values put at a place, in their order. -/
def valuesAt (puts : List Put) (place : Place) : List Bytes :=
  (puts.filter fun put => put.place = place).map fun put => put.cell.value

/-- Histories that put the same values at each place, in the same order there. -/
def SameValues (first second : List Put) : Prop :=
  ∀ place, valuesAt first place = valuesAt second place

/-- The puts at a place are known by their values. -/
theorem filter_place (puts : List Put) (place : Place) :
    (puts.filter fun put => put.place = place) = (valuesAt puts place).map place.put := by
  rw [valuesAt, List.map_map]
  refine (List.map_id _).symm.trans (List.map_congr_left fun put member => ?_)
  rw [← of_decide_eq_true (List.mem_filter.mp member).2]
  rfl

/-- The versions of a column at one time are what was put at a place. -/
theorem stored_cellsAt (puts : List Put) (table : String) (key : Bytes) (column : Column)
    (moment : Int64) :
    ((Row.stored ⟨key, cellsAt puts table key⟩ column).filter fun cell =>
        cell.timestamp = moment) =
      (puts.filter fun put => put.place = ⟨table, key, column, moment⟩).map Put.cell := by
  rw [Row.stored, cellsAt, List.filter_map, List.filter_map, List.filter_filter, List.filter_filter]
  apply congrArg (List.map Put.cell)
  apply List.filter_congr
  intro put _
  simp only [place, Place.mk.injEq, Function.comp_apply, Bool.decide_and, Bool.and_assoc]
  grind

/-- Puts that go to different places may come in any order. -/
theorem sameValues_of_perm {first second : List Put} (permuted : first.Perm second)
    (apart : (first.map place).Nodup) : SameValues first second := by
  intro place
  rw [valuesAt, valuesAt, filter_eq_of_perm Put.place permuted apart]

namespace SameValues

variable {first second : List Put}

theorem symm (same : SameValues first second) : SameValues second first :=
  fun place => (same place).symm

theorem alike (same : SameValues first second) (table : String) (key : Bytes) :
    Row.Alike ⟨key, cellsAt first table key⟩ ⟨key, cellsAt second table key⟩ := by
  intro column moment
  rw [stored_cellsAt, stored_cellsAt, filter_place, filter_place, same]

theorem present (same : SameValues first second) {name : String}
    (present : ∃ put ∈ first, put.table = name) : ∃ put ∈ second, put.table = name := by
  rcases present with ⟨put, member, named⟩
  have own : put ∈ second.filter fun other => other.place = put.place := by
    rw [filter_place, ← same, ← filter_place]
    exact List.mem_filter.mpr ⟨member, by simp⟩
  exact ⟨put, (List.mem_filter.mp own).1, named⟩

/-- The rows of a scan are the same. -/
theorem finds (same : SameValues first second) {scan : Scan} {rows : List Row}
    (finds : scan.Finds first rows) : scan.Finds second rows where
  ascending := finds.ascending
  mem_iff row := by
    have selected := Table.select_eq scan.versions (same.alike scan.table row.key)
    rw [finds.mem_iff, Scan.rowAt, Scan.rowAt, selected]

end SameValues

/-- What was put at each place shows in the selected versions of all rows. -/
theorem sameValues_of_select {first second : List Put}
    (shown : ∀ table key, Table.select .all (cellsAt first table key) =
      Table.select .all (cellsAt second table key)) : SameValues first second := by
  rintro ⟨table, key, column, moment⟩
  have alike : Row.Alike ⟨key, cellsAt first table key⟩ ⟨key, cellsAt second table key⟩ := by
    have left := (Table.select_alike key (cellsAt first table key)).symm
    have right := Table.select_alike key (cellsAt second table key)
    rw [shown] at left
    exact fun column => (left column).trans (right column)
  have cells := alike column moment
  rw [stored_cellsAt, stored_cellsAt] at cells
  have values := congrArg (List.map Cell.value) cells
  rw [List.map_map, List.map_map] at values
  exact values

end Put

namespace Store

/-- Stores that no read can tell apart. -/
structure Indistinguishable (store other : Store) : Prop where
  get : ∀ get, (store.get get).1 = (other.get get).1
  scan : ∀ scan, (store.scan scan).1 = (other.scan scan).1
  readRun : ∀ (reader : Reader) scope selection,
    (reader.readRun Store.client store scope selection).result =
      (reader.readRun Store.client other scope selection).result
  readRuns : ∀ (reader : Reader) scope filter selection,
    (reader.readRuns Store.client store scope filter selection).result =
      (reader.readRuns Store.client other scope filter selection).result

/-- What a reader learns of a store it learns by gets and scans. -/
theorem Indistinguishable.of_requests {store other : Store}
    (gets : ∀ get, (store.get get).1 = (other.get get).1)
    (scans : ∀ scan, (store.scan scan).1 = (other.scan scan).1) :
    store.Indistinguishable other := by
  have alike : ∀ name start, Store.client.AnswersAlike name start store other := by
    intro name start
    refine ⟨fun get _ _ => gets get, fun scan _ _ => ?_⟩
    rw [client_scan, client_scan, scans]
  exact ⟨gets, scans, fun reader _ selection => reader.readRun_result_eq (alike _ _) selection,
    fun reader _ filter selection => reader.readRuns_result_eq (alike _ _) filter selection⟩

theorem Indistinguishable.of_sameValues {first second : List Put}
    (same : Put.SameValues first second) :
    (afterPuts first).Indistinguishable (afterPuts second) := by
  apply Indistinguishable.of_requests
  · intro get
    by_cases present : ∃ put ∈ first, put.table = get.table
    · rw [get_afterPuts_of_present present, get_afterPuts_of_present (same.present present),
        Table.readRow_eq_of_select (Table.select_eq get.versions (same.alike get.table get.key))]
    · rw [get_afterPuts_of_absent present,
        get_afterPuts_of_absent fun present' => present (same.symm.present present')]
  · intro scan
    by_cases present : ∃ put ∈ first, put.table = scan.table
    · rcases exists_finds present with ⟨rows, finds⟩
      rw [scan_afterPuts_of_finds present finds,
        scan_afterPuts_of_finds (same.present present) (same.finds finds)]
    · rw [scan_afterPuts_of_absent present,
        scan_afterPuts_of_absent fun present' => present (same.symm.present present')]

/-- A get of all versions of a row shows the cells that were put there. -/
theorem select_eq_of_gets {first second : List Put}
    (gets : ∀ get, ((afterPuts first).get get).1 = ((afterPuts second).get get).1)
    (table : String) (key : Bytes) :
    Table.select .all (Put.cellsAt first table key) =
      Table.select .all (Put.cellsAt second table key) := by
  have read := gets { table := table, key := key, versions := .all }
  -- A get tells a missing table from a missing row, so both histories made the table
  -- or neither did.
  by_cases present : ∃ put ∈ first, put.table = table
  · by_cases present' : ∃ put ∈ second, put.table = table
    · rw [get_afterPuts_of_present present, get_afterPuts_of_present present'] at read
      exact Table.select_eq_of_readRow (Except.ok.inj read)
    · rw [get_afterPuts_of_present present, get_afterPuts_of_absent present'] at read
      cases read
  · by_cases present' : ∃ put ∈ second, put.table = table
    · rw [get_afterPuts_of_absent present, get_afterPuts_of_present present'] at read
      cases read
    · rw [Put.cellsAt_of_absent present, Put.cellsAt_of_absent present']

/-- Stores that took only puts are told apart exactly by the values at some place
or by their order there.  So puts to places that are all different may come in
any order. -/
theorem indistinguishable_iff_sameValues (first second : List Put) :
    ((afterPuts first).Indistinguishable (afterPuts second) ↔ Put.SameValues first second) ∧
    (first.Perm second → (first.map Put.place).Nodup →
      (afterPuts first).Indistinguishable (afterPuts second)) := by
  refine ⟨⟨fun alike => ?_, Indistinguishable.of_sameValues⟩, fun permuted apart => ?_⟩
  · exact Put.sameValues_of_select (select_eq_of_gets alike.get)
  · exact Indistinguishable.of_sameValues (Put.sameValues_of_perm permuted apart)

end Store

/-- Two versions of a column, and a cell that makes another table. -/
def Put.inTwoTables : List Put :=
  [⟨"t", [0x61], ⟨⟨[0x69], [0x71]⟩, 1, [0x31]⟩⟩,
    ⟨"u", [0x61], ⟨⟨[0x69], [0x71]⟩, 1, [0x31]⟩⟩,
    ⟨"t", [0x61], ⟨⟨[0x69], [0x71]⟩, 2, [0x32]⟩⟩]

/-- Two versions of a column with one timestamp. -/
def Put.atOneTime : List Put :=
  [⟨"t", [0x61], ⟨⟨[0x69], [0x71]⟩, 1, [0x31]⟩⟩,
    ⟨"t", [0x61], ⟨⟨[0x69], [0x71]⟩, 1, [0x32]⟩⟩]

namespace Store

/-- Turning a history round shows only if two versions of it have one timestamp. -/
theorem indistinguishable_iff_sameValues_of_reverse :
    (afterPuts Put.inTwoTables).Indistinguishable (afterPuts Put.inTwoTables.reverse) ∧
    ¬ (afterPuts Put.atOneTime).Indistinguishable (afterPuts Put.atOneTime.reverse) := by
  constructor
  · exact (indistinguishable_iff_sameValues Put.inTwoTables Put.inTwoTables.reverse).2
      (List.reverse_perm _).symm (by decide)
  · intro alike
    have same := (indistinguishable_iff_sameValues _ _).1.mp alike
      ⟨"t", [0x61], ⟨[0x69], [0x71]⟩, 1⟩
    exact absurd same (by decide)

end Store
end FlowRuns
