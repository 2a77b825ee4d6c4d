import FlowRuns.Proofs.Key.RunKey
import FlowRuns.Proofs.RunRow
import FlowRuns.Proofs.StoreAccess
import FlowRuns.Proofs.Table.Answers

namespace FlowRuns

/-!
# Reads of a store in memory

A store in memory that has its table and no fault to give answers every
request.  A single read makes a run of the row at one key.  A range read makes
runs of the rows that its scan finds, in their order and up to the limit.  The
cap of the scan and the limit of the reader are the same number, so the reader
never stops before the scan does.
-/

/-- A store that answers reads of a table, and the table. -/
structure Store.Serves (store : Store) (name : String) (table : Table) : Prop where
  calm : store.pending = none
  present : store.tables.find? name = some table

namespace Store.Serves

variable {store : Store} {name : String} {table : Table}

theorem get_eq (serves : store.Serves name table) (get : Get) (own : get.table = name) :
    store.get get = (.ok (table.get get), store) :=
  Store.get_of_present serves.calm (own ▸ serves.present)

theorem scan_eq (serves : store.Serves name table) (scan : Scan) (own : scan.table = name) :
    store.scan scan = (.ok (table.scan scan), store) :=
  Store.scan_of_present serves.calm (own ▸ serves.present)

end Store.Serves

/-- Every key of a table that begins like the keys of a flow is a key. -/
def Table.ReadableUnder (table : Table) (start : Bytes) : Prop :=
  ∀ entry ∈ table.entries, start <+: entry.1 → ∃ key, RunKey.decode entry.1 = .ok key

/-! ## Sequences that succeed -/

section Success

variable {ε α β : Type} {action : α → Except ε β}

/-- If every item succeeds, so does the sequence, and any front of it. -/
theorem mapM_take_eq_ok {items : List α} {results : List β}
    (made : items.map action = results.map .ok) (count : Nat) :
    (items.take count).mapM action = .ok (results.take count) := by
  induction items generalizing results count with
  | nil =>
      cases results with
      | nil => rw [List.take_nil, List.take_nil]; rfl
      | cons => cases made
  | cons item rest inductionHypothesis =>
      cases results with
      | nil => cases made
      | cons result others =>
          have parts := List.cons.inj made
          cases count with
          | zero => rfl
          | succ count =>
              rw [List.take_succ_cons, List.take_succ_cons, List.mapM_cons, parts.1,
                inductionHypothesis parts.2 count]
              rfl

/-- Only a sequence whose items all succeed does. -/
theorem map_eq_of_mapM {items : List α} {results : List β}
    (made : items.mapM action = .ok results) : items.map action = results.map .ok := by
  induction items generalizing results with
  | nil =>
      cases made
      rfl
  | cons item rest inductionHypothesis =>
      rw [List.mapM_cons] at made
      cases first : action item with
      | error error =>
          rw [first] at made
          cases made
      | ok result =>
          rw [first] at made
          cases others : rest.mapM action with
          | error error =>
              rw [others] at made
              cases made
          | ok results =>
              rw [others] at made
              cases made
              rw [List.map_cons, List.map_cons, first, inductionHypothesis others]

/-- A sequence fails if a front of it does. -/
theorem mapM_eq_error_of_take {items : List α} {count : Nat} {error : ε}
    (failed : (items.take count).mapM action = .error error) :
    items.mapM action = .error error := by
  rw [← List.take_append_drop count items, List.mapM_append, failed]
  rfl

theorem exists_results {items : List α}
    (succeed : ∀ item ∈ items, ∃ result, action item = .ok result) :
    ∃ results : List β, items.map action = results.map .ok := by
  induction items with
  | nil => exact ⟨[], rfl⟩
  | cons item rest inductionHypothesis =>
      rcases succeed item List.mem_cons_self with ⟨result, made⟩
      rcases inductionHypothesis fun other later => succeed other (List.mem_cons_of_mem _ later)
        with ⟨results, others⟩
      exact ⟨result :: results, by rw [List.map_cons, List.map_cons, made, others]⟩

theorem mem_results {items : List α} {results : List β} (made : items.map action = results.map .ok)
    {result : β} : result ∈ results ↔ ∃ item ∈ items, action item = .ok result := by
  constructor
  · intro member
    have outcome : .ok result ∈ items.map action := by
      rw [made]
      exact List.mem_map_of_mem member
    exact List.mem_map.mp outcome
  · rintro ⟨item, listed, done⟩
    have outcome : action item ∈ items.map action := List.mem_map_of_mem listed
    rw [made, done] at outcome
    rcases List.mem_map.mp outcome with ⟨other, member, same⟩
    cases same
    exact member

/-- If results are labelled as their items are, both sequences have the same
labels. -/
theorem labels_results {items : List α} {results : List β}
    (made : items.map action = results.map .ok) {κ : Type} {label : α → κ} {label' : β → κ}
    (agree : ∀ item ∈ items, ∀ result, action item = .ok result → label item = label' result) :
    items.map label = results.map label' := by
  induction items generalizing results with
  | nil =>
      cases results with
      | nil => rfl
      | cons => cases made
  | cons item rest inductionHypothesis =>
      cases results with
      | nil => cases made
      | cons result others =>
          have parts := List.cons.inj made
          have tail := inductionHypothesis parts.2 fun other later =>
            agree other (List.mem_cons_of_mem _ later)
          rw [List.map_cons, List.map_cons, agree item List.mem_cons_self result parts.1, tail]

end Success

/-- The scan of a range read returns as many rows as the limit allows. -/
theorem Query.table_scan_eq (schema : Schema) (settings : Settings) (table : Table)
    (query : Query) :
    table.scan (query.scan schema settings) =
      (table.scanned (query.scan schema settings)).take (query.limit settings).toNat := by
  rw [Table.scan_eq, Scan.capped, query.rowCap_scan]

/-- In a range the run of a row of its flow has the number in the key. -/
theorem Run.key_of_ofRow {schema : Schema} {scope : Scope} {selection : FieldSelection} {row : Row}
    {run : Run} (begins : scope.start <+: row.key)
    (made : ofRow schema scope .range selection row = .ok run) :
    row.key = scope.key run.number := by
  rcases of_ofRow_range made with ⟨key, read, _, _, numbered⟩
  rw [numbered, Scope.key_of_decode begins read]

namespace Reader

/-- Rows that are all filled are parsed in their order, up to the limit. -/
theorem collect_rows (parse : Row → Except ReadError Run) {rows : List Row}
    (filled : ∀ row ∈ rows, row.isEmpty = false) (limit : Nat) :
    (collect parse limit (rows.map .ok)).1 = (rows.take limit).mapM parse := by
  induction rows generalizing limit with
  | nil => cases limit <;> rfl
  | cons row rest inductionHypothesis =>
      cases limit with
      | zero => rfl
      | succ limit =>
          have later := inductionHypothesis
            (fun other member => filled other (List.mem_cons_of_mem _ member)) limit
          rw [List.map_cons, collect, filled row List.mem_cons_self, List.take_succ_cons,
            List.mapM_cons, ← later]
          cases parse row with
          | error error => rfl
          | ok run =>
              rcases collect parse limit (rest.map .ok) with ⟨runs, pulled⟩
              cases runs <;> rfl

/-- A query reports the fault of the store as it is. -/
theorem execute_of_pending (reader : Reader) {store : Store} {fault : StoreFault}
    (pending : store.pending = some fault) (query : Query) :
    (reader.execute Store.client store query).result = .error (.store fault) := by
  rcases query.request_cases reader.schema reader.settings with ⟨get, asked, -⟩ | asked
  · rw [(reader.execute_get Store.client store asked).1, Store.client_get, Store.get,
      Store.read_of_pending pending, ofAnswer]
  · rw [(reader.execute_scan Store.client store asked).1, Store.client_scan, Store.scan,
      Store.read_of_pending pending]
    rfl

variable {reader : Reader} {store : Store} {table : Table}

/-! ## Range reads -/

/-- A range read parses the rows that its scan finds before any cap. -/
theorem execute_range (serves : store.Serves reader.settings.table table) {query : Query}
    (ranged : query.mode = .range) :
    (reader.execute Store.client store query).result =
      ((table.scanned (query.scan reader.schema reader.settings)).take
        (query.limit reader.settings).toNat).mapM (reader.parse query) := by
  have capped := query.table_scan_eq reader.schema reader.settings table
  have filled : ∀ row ∈ (table.scanned (query.scan reader.schema reader.settings)).take
      (query.limit reader.settings).toNat, row.isEmpty = false :=
    fun row member => Table.not_isEmpty_of_mem_scanned (List.mem_of_mem_take member)
  have collected := collect_rows (reader.parse query) filled (query.limit reader.settings).toNat
  rw [List.take_take, Nat.min_self, ← capped] at collected
  rw [← capped, ← collected, (reader.execute_scan _ store (query.request_range _ _ ranged)).1,
    Store.client_scan, serves.scan_eq _ rfl]
  rfl

/-- A range read of a table that does not exist fails. -/
theorem execute_range_absent (calm : store.pending = none)
    (absent : store.tables.find? reader.settings.table = none) {query : Query}
    (ranged : query.mode = .range) :
    (reader.execute Store.client store query).result =
      .error (.store (.tableNotFound reader.settings.table)) := by
  rw [(reader.execute_scan _ store (query.request_range _ _ ranged)).1, Store.client_scan,
    Store.scan_of_absent calm absent]
  rfl

/-- Rows of a flow have the keys of the runs that are made of them. -/
theorem keys_of_rows {schema : Schema} {scope : Scope} {selection : FieldSelection}
    {rows : List Row} {runs : List Run} (begins : ∀ row ∈ rows, scope.start <+: row.key)
    (made : rows.map (Run.ofRow schema scope .range selection) = runs.map .ok) :
    rows.map Row.key = runs.map fun run => scope.key run.number :=
  labels_results made fun row member _ => Run.key_of_ofRow (begins row member)

/-- Runs of rows in the order of their keys come from the newest to the oldest. -/
theorem descending_of_keys {scope : Scope} {rows : List Row} {runs : List Run}
    (keys : rows.map Row.key = runs.map fun run => scope.key run.number)
    (ascending : rows.Pairwise fun first second => compare first.key second.key = .lt) :
    runs.Pairwise fun newer older => older.number < newer.number := by
  have ordered : (rows.map Row.key).Pairwise fun first second => compare first second = .lt :=
    List.pairwise_map.mpr ascending
  rw [keys, List.pairwise_map] at ordered
  exact ordered.imp (RunKey.compare_encode_eq_lt_iff _ _ _ _ _).mp

/-- If the keys of a flow can be read, a range read succeeds, and the rows of
its scan are all parsed. -/
theorem execute_range_ok (reader : Reader) (serves : store.Serves reader.settings.table table)
    (query : Query) (ranged : query.mode = .range)
    (readable : table.ReadableUnder query.scope.start) :
    ∃ runs : List Run,
      (runs.Pairwise fun newer older => older.number < newer.number) ∧
      (∀ run, run ∈ runs ↔ ∃ number cells row,
        table.find? (query.scope.key number) = some cells ∧
          Table.readRow .all (some (query.plan reader.schema reader.settings))
            (query.scope.key number) cells = some row ∧
          reader.parse query row = .ok run) ∧
      runs.length ≤ (table.entriesUnder query.scope.start).length ∧
      (reader.execute Store.client store query).result =
        .ok (runs.take (query.limit reader.settings).toNat) := by
  have begins : ∀ row ∈ table.scanned (query.scan reader.schema reader.settings),
      query.scope.start <+: row.key := fun row => Table.start_prefix_of_mem_scanned
  have parses : reader.parse query =
      Run.ofRow reader.schema query.scope .range query.selection := by
    rw [parse, ranged]
  have succeed : ∀ row ∈ table.scanned (query.scan reader.schema reader.settings),
      ∃ run, reader.parse query row = .ok run := by
    intro row member
    rcases Table.mem_scanned.mp member with ⟨cells, listed, behind, _⟩
    rcases readable _ listed behind with ⟨key, read⟩
    rcases Run.ofRow_range reader.schema query.scope query.selection read with ⟨run, made, _⟩
    exact ⟨run, parses ▸ made⟩
  rcases exists_results succeed with ⟨runs, made⟩
  have keys := keys_of_rows begins (parses ▸ made)
  refine ⟨runs, descending_of_keys keys (table.ascending_scanned _), ?_, ?_, ?_⟩
  · intro run
    rw [mem_results made]
    constructor
    · rintro ⟨row, member, parsed⟩
      have own := Run.key_of_ofRow (begins row member) (parses ▸ parsed)
      rcases Table.mem_scanned.mp member with ⟨cells, listed, _, returned⟩
      rw [own] at listed returned
      exact ⟨run.number, cells, row, SortedMap.find?_eq_some_iff.mpr listed, returned, parsed⟩
    · rintro ⟨number, cells, row, found, returned, parsed⟩
      have own : row.key = query.scope.key number := by
        rw [(Table.readRow_eq_some_iff.mp returned).2]
      refine ⟨row, Table.mem_scanned.mpr ⟨cells, ?_, ?_, ?_⟩, parsed⟩
      · rw [own]
        exact SortedMap.find?_eq_some_iff.mp found
      · rw [own]
        exact query.scope.start_prefix_key number
      · rw [own]
        exact returned
  · have counted := congrArg List.length made
    rw [List.length_map, List.length_map] at counted
    rw [← counted]
    exact List.length_filterMap_le _ _
  · rw [execute_range serves ranged]
    exact mapM_take_eq_ok made _

/-! ## Single reads -/

/-- What a single read gets of a table. -/
def single? (reader : Reader) (table : Table) (scope : Scope) (selection : FieldSelection)
    (number : Int64) : Option Row :=
  (table.find? (scope.key number)).bind (Table.readRow .all
    (selection.predicate reader.schema .single).nonempty? (scope.key number))

theorem execute_single (serves : store.Serves reader.settings.table table) {query : Query}
    (alone : query.mode = .single) {number : Int64} (chosen : query.scope.run = some number) :
    (reader.execute Store.client store query).result =
      ofAnswer (reader.parse query)
        (.ok (reader.single? table query.scope query.selection number)) := by
  rw [(reader.execute_get _ store (query.request_single _ _ alone chosen)).1, Store.client_get,
    serves.get_eq _ rfl]
  rfl

/-- A single read parses the row at its key, if it gets one. -/
theorem readRun_result (serves : store.Serves reader.settings.table table) {scope : Scope}
    (valid : scope.fault? .range = none) (selection : FieldSelection) (number : Int64) :
    (reader.readRun Store.client store (scope.withRun number) selection).result =
      match reader.single? table scope selection.augmented number with
      | none => .ok none
      | some row =>
          (Run.ofRow reader.schema (scope.withRun number) .single selection.augmented row).map
            some := by
  have valid' := Scope.fault?_withRun valid number
  rw [readRun_eq _ _ _ valid', Reading.map, execute_single serves rfl rfl]
  change Except.map List.head? (ofAnswer _ (.ok (reader.single? table scope selection.augmented
    number))) = _
  cases got : reader.single? table scope selection.augmented number with
  | none => rfl
  | some row =>
      rcases Option.bind_eq_some_iff.mp got with ⟨cells, _, returned⟩
      simp only [ofAnswer, Table.not_isEmpty_of_readRow returned]
      change Except.map List.head? (Except.map (fun run => [run]) (Run.ofRow reader.schema
        (scope.withRun number) .single selection.augmented row)) = _
      cases Run.ofRow reader.schema (scope.withRun number) .single selection.augmented row <;> rfl

end Reader
end FlowRuns
