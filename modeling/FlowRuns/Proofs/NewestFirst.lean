import FlowRuns.Proofs.Reader

namespace FlowRuns

/-!
# The newest runs, up to a limit

A range read makes runs of the rows of its scan, one of each and in the order
of their keys.  A key holds the distance of its run from the greatest number,
modulo the number of all numbers, and it is compared byte by byte as unsigned.
Distances of signed numbers cover the unsigned ones exactly once and in reverse,
so the keys of a flow ascend as the numbers of their runs descend, across zero
as elsewhere.

The limit of a read acts twice.  As the page limit it caps the scan, and as a
number of runs it stops the reader.  Both count rows that have a cell left, so
they cut at the same place, and what they cut does not depend on the limit.  A
read with a lesser limit sees a front of the rows that a read with a greater one
sees.  Its runs are a front of the runs of the other, and a row at fault behind
that front is none of its concern.
-/

/-- The same restrictions with another limit. -/
def RunFilter.withLimit (filter : RunFilter) (limit : UInt64) : RunFilter :=
  { filter with limit := some limit }

/-- A limit that is not zero holds as it is. -/
theorem Settings.effectiveLimit_of_positive (settings : Settings) {limit : UInt64}
    (positive : 1 ≤ limit) : settings.effectiveLimit (some limit) = limit := by
  have nonzero : limit ≠ 0 := by
    rintro rfl
    exact absurd positive (by decide)
  rw [effectiveLimit, if_neg nonzero]

/-- The limit of a read is not among the things that decide about a row. -/
theorem Query.scanned_withLimit (schema : Schema) (settings : Settings) (table : Table)
    (query : Query) (limit : UInt64) :
    table.scanned (scan schema settings { query with filter := query.filter.withLimit limit }) =
      table.scanned (query.scan schema settings) := by
  have same : ∀ row cell,
      Predicate.allows
          (some (plan schema settings { query with filter := query.filter.withLimit limit }))
          row cell =
        Predicate.allows (some (query.plan schema settings)) row cell := by
    intro row cell
    rw [allows_plan, allows_plan]
    rfl
  exact List.filterMap_congr fun entry _ => Table.readRow_congr same _ _ _

/-- Under a limit that is not zero a scan returns a front of what it finds. -/
theorem Query.scan_withLimit (schema : Schema) (settings : Settings) (table : Table)
    (query : Query) {limit : UInt64} (positive : 1 ≤ limit) :
    table.scan (scan schema settings { query with filter := query.filter.withLimit limit }) =
      (table.scanned (query.scan schema settings)).take limit.toNat := by
  have bound : Query.limit { query with filter := query.filter.withLimit limit } settings =
      limit := settings.effectiveLimit_of_positive positive
  rw [table_scan_eq, scanned_withLimit, bound]

/-- Start times of two runs of a flow, and in a row behind theirs whose key is
damaged. -/
def Put.beforeDamage : List Put :=
  [⟨"runs", RunKey.encode ⟨"c", "u", "f", -5⟩,
      ⟨Schema.standard.fixed .started, 1, Long.encode 100⟩⟩,
    ⟨"runs", RunKey.encode ⟨"c", "u", "f", 7⟩,
      ⟨Schema.standard.fixed .started, 1, Long.encode 200⟩⟩,
    ⟨"runs", RunKey.flowStart "c" "u" "f" ++ [0xff],
      ⟨Schema.standard.fixed .started, 1, Long.encode 300⟩⟩]

namespace Reader

/-- Either a range read fails under every filter, or it parses the rows of its
scan. -/
theorem readRuns_cases (reader : Reader) (store : Store) (scope : Scope)
    (selection : FieldSelection) :
    (∃ error, ∀ filter,
      (reader.readRuns Store.client store scope filter selection).result = .error error) ∨
    ∃ (valid : scope.fault? .range = none) (table : Table),
      store.Serves reader.settings.table table ∧ ∀ filter,
        (reader.readRuns Store.client store scope filter selection).result =
          (table.scan (Query.scan reader.schema reader.settings
            ⟨scope, .range, filter, selection.augmented, valid⟩)).mapM
              (Run.ofRow reader.schema scope .range selection.augmented) := by
  by_cases valid : scope.fault? .range = none
  · cases pending : store.pending with
    | some fault =>
        refine .inl ⟨.store fault, fun filter => ?_⟩
        rw [readRuns_eq _ _ _ valid, reader.execute_of_pending pending]
    | none =>
        cases present : store.tables.find? reader.settings.table with
        | none =>
            refine .inl ⟨.store (.tableNotFound reader.settings.table), fun filter => ?_⟩
            rw [readRuns_eq _ _ _ valid, execute_range_absent pending present rfl]
        | some table =>
            refine .inr ⟨valid, table, ⟨pending, present⟩, fun filter => ?_⟩
            rw [readRuns_eq _ _ _ valid, execute_range ⟨pending, present⟩ rfl, Query.table_scan_eq]
            rfl
  · rcases Option.ne_none_iff_exists'.mp valid with ⟨fault, invalid⟩
    exact .inl ⟨.ofScope fault, fun filter => by rw [readRuns_of_fault _ _ _ invalid]⟩

/-! ## Order -/

/-- A number is less than another exactly if its key comes after the key of the
other.  A range read that succeeds returns one run for each row that the store
returned for its scan, with the number in the key of the row, and the numbers of
the runs strictly descend. -/
theorem readRuns_newest_first :
    (∀ (cluster user flow : String) (first second : Int64),
      first < second ↔
        compare (RunKey.encode ⟨cluster, user, flow, second⟩)
          (RunKey.encode ⟨cluster, user, flow, first⟩) = .lt) ∧
    ∀ (reader : Reader) (store : Store) (scope : Scope) (filter : RunFilter)
      (selection : FieldSelection) (runs : List Run),
      (reader.readRuns Store.client store scope filter selection).result = .ok runs →
        (runs.Pairwise fun newer older => older.number < newer.number) ∧
        ∃ query scan rows,
          Query.range scope filter selection = .ok query ∧
          query.request reader.schema reader.settings = .ok (.scan scan) ∧
          (store.scan scan).1 = .ok rows ∧
          rows.map Row.key = runs.map fun run => scope.key run.number := by
  refine ⟨fun cluster user flow first second =>
    (RunKey.compare_encode_eq_lt_iff cluster user flow second first).symm, ?_⟩
  intro reader store scope filter selection runs returned
  rcases reader.readRuns_cases store scope selection with
    ⟨error, failed⟩ | ⟨valid, table, serves, made⟩
  · cases (failed filter).symm.trans returned
  · let scan : Scan := Query.scan reader.schema reader.settings
      ⟨scope, .range, filter, selection.augmented, valid⟩
    have ascending : (table.scan scan).Pairwise fun first second =>
        compare first.key second.key = .lt := by
      rw [Query.table_scan_eq]
      exact (table.ascending_scanned _).sublist (List.take_sublist _ _)
    have keys : (table.scan scan).map Row.key = runs.map fun run => scope.key run.number :=
      keys_of_rows
        (fun row member => Table.start_prefix_of_mem_scanned (Table.mem_scanned_of_mem_scan member))
        (map_eq_of_mapM ((made filter).symm.trans returned))
    exact ⟨descending_of_keys keys ascending, _, scan, _, Query.create_eq valid filter selection,
      Query.request_range _ _ _ rfl, congrArg Prod.fst (serves.scan_eq scan rfl), keys⟩

/-- A run below zero comes after one above. -/
theorem readRuns_newest_first_across_zero :
    compare (RunKey.encode ⟨"c", "u", "f", 7⟩) (RunKey.encode ⟨"c", "u", "f", -5⟩) = .lt ∧
    ∃ runs : List Run,
      (readRuns ⟨⟨"runs", 2⟩, Schema.standard⟩ Store.client (Store.afterPuts Put.beforeDamage)
        ⟨"c", "u", "f", none⟩ {} {}).result = .ok runs ∧
      runs.map Run.number = [7, -5] ∧
      runs.Pairwise fun newer older => older.number < newer.number := by
  have returned : (readRuns ⟨⟨"runs", 2⟩, Schema.standard⟩ Store.client
      (Store.afterPuts Put.beforeDamage) ⟨"c", "u", "f", none⟩ {} {}).result =
      .ok [{ user := "u", flow := "f", number := 7, started := some 200 },
        { user := "u", flow := "f", number := -5, started := some 100 }] := by
    decide +kernel
  exact ⟨(readRuns_newest_first.1 "c" "u" "f" (-5) 7).mp (by decide), _, returned, rfl,
    (readRuns_newest_first.2 _ _ _ _ _ _ returned).1⟩

/-! ## Limits -/

/-- The runs under a lesser limit are the first of those under a greater one, and
all of them if they are fewer than the limit.  An error under the lesser limit is
one under the greater, and not the other way round: a row at fault behind the
lesser limit does not matter to it. -/
theorem readRuns_truncates {few many : UInt64} (positive : 1 ≤ few) (fewer : few ≤ many)
    (reader : Reader) (store : Store) (scope : Scope) (filter : RunFilter)
    (selection : FieldSelection) :
    (∀ runs,
      (reader.readRuns Store.client store scope (filter.withLimit many) selection).result =
          .ok runs →
        (reader.readRuns Store.client store scope (filter.withLimit few) selection).result =
          .ok (runs.take few.toNat)) ∧
    (∀ error,
      (reader.readRuns Store.client store scope (filter.withLimit few) selection).result =
          .error error →
        (reader.readRuns Store.client store scope (filter.withLimit many) selection).result =
          .error error) ∧
    ∀ runs,
      (reader.readRuns Store.client store scope (filter.withLimit few) selection).result =
          .ok runs → runs.length < few.toNat →
        (reader.readRuns Store.client store scope (filter.withLimit many) selection).result =
          .ok runs := by
  rcases reader.readRuns_cases store scope selection with
    ⟨error, failed⟩ | ⟨valid, table, _, made⟩
  · rw [failed, failed]
    exact ⟨nofun, fun _ same => same, nofun⟩
  · -- Both reads parse fronts of the rows that the scan finds without a cap.
    let rows := table.scanned (Query.scan reader.schema reader.settings
      ⟨scope, .range, filter, selection.augmented, valid⟩)
    have upTo : ∀ limit, 1 ≤ limit →
        (reader.readRuns Store.client store scope (filter.withLimit limit) selection).result =
          (rows.take limit.toNat).mapM
            (Run.ofRow reader.schema scope .range selection.augmented) := by
      intro limit positive
      rw [made]
      exact congrArg (List.mapM (Run.ofRow reader.schema scope .range selection.augmented))
        (Query.scan_withLimit reader.schema reader.settings table
          ⟨scope, .range, filter, selection.augmented, valid⟩ positive)
    have below : few.toNat ≤ many.toNat := UInt64.le_iff_toNat_le.mp fewer
    have front : (rows.take many.toNat).take few.toNat = rows.take few.toNat := by
      rw [List.take_take, Nat.min_eq_left below]
    rw [upTo few positive, upTo many (UInt64.le_trans positive fewer)]
    refine ⟨?_, ?_, ?_⟩
    · intro runs returned
      rw [← front]
      exact mapM_take_eq_ok (map_eq_of_mapM returned) _
    · intro error failed
      rw [← front] at failed
      exact mapM_eq_error_of_take failed
    · intro runs returned short
      have counted := congrArg List.length (map_eq_of_mapM returned)
      rw [List.length_map, List.length_map, List.length_take] at counted
      rw [List.take_of_length_le (by omega)] at returned ⊢
      exact returned

/-- Limits of one and two spare a read the damaged key, and no greater one does. -/
theorem readRuns_truncates_before_damage :
    (readRuns ⟨⟨"runs", 10⟩, Schema.standard⟩ Store.client (Store.afterPuts Put.beforeDamage)
        ⟨"c", "u", "f", none⟩ (RunFilter.withLimit {} 1) {}).result =
      .ok [{ user := "u", flow := "f", number := 7, started := some 200 }] ∧
    (readRuns ⟨⟨"runs", 10⟩, Schema.standard⟩ Store.client (Store.afterPuts Put.beforeDamage)
        ⟨"c", "u", "f", none⟩ (RunFilter.withLimit {} 4) {}).result =
      .error (.ofKey (.numberWidth 1)) := by
  have two : (readRuns ⟨⟨"runs", 10⟩, Schema.standard⟩ Store.client
      (Store.afterPuts Put.beforeDamage) ⟨"c", "u", "f", none⟩ (RunFilter.withLimit {} 2)
      {}).result =
      .ok [{ user := "u", flow := "f", number := 7, started := some 200 },
        { user := "u", flow := "f", number := -5, started := some 100 }] := by
    decide +kernel
  have three : (readRuns ⟨⟨"runs", 10⟩, Schema.standard⟩ Store.client
      (Store.afterPuts Put.beforeDamage) ⟨"c", "u", "f", none⟩ (RunFilter.withLimit {} 3)
      {}).result = .error (.ofKey (.numberWidth 1)) := by
    decide +kernel
  exact ⟨(@readRuns_truncates 1 2 (by decide) (by decide) _ _ _ _ _).1 _ two,
    (@readRuns_truncates 3 4 (by decide) (by decide) _ _ _ _ _).2.1 _ three⟩

end Reader
end FlowRuns
