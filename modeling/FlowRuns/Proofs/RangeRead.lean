import FlowRuns.Proofs.Pushdown
import FlowRuns.Proofs.Reader
import Mathlib.Data.List.Sort

namespace FlowRuns

/-!
# What a range read means

A range read is described by the stored rows alone.  A row answers it if the
run of the whole row meets the restrictions and if it has a cell that the
selection fetches, and it answers with what the selection leaves of that run.
The read returns the newest answers, as many as its limit allows.

The store finds them by a different way.  It selects versions, judges cells
one by one on the selected row, and lets the reader make runs of the cells
that are left.  Both ways merge the same versions of the same columns, so they
agree as long as the cells among the metrics are numbers in columns of
metrics.  Restrictions on the names of metrics are left out here: they judge
cells and not runs.
-/

/-- The selection of every field. -/
def FieldSelection.everything : FieldSelection where
  fields := FieldSet.ofList [.all]

/-- A row that answers a range read, with the run that it answers with. -/
structure Row.Answers (schema : Schema) (scope : Scope) (filter : RunFilter)
    (selection : FieldSelection) (row : Row) (run : Run) : Prop where
  accepted : ∃ full, Run.ofRow schema scope .range .everything row = .ok full ∧
    filter.accepts full
  fetched : ∃ cell ∈ row.cells, selection.fetches schema cell
  made : Run.ofRow schema scope .range selection row = .ok run

/-- The limit has no say in which rows answer. -/
theorem Row.answers_limited {schema : Schema} {scope : Scope} {filter : RunFilter}
    {selection : FieldSelection} {row : Row} {run : Run} (limit : Option UInt64) :
    row.Answers schema scope { filter with limit := limit } selection run ↔
      row.Answers schema scope filter selection run :=
  ⟨fun answers => ⟨answers.accepted, answers.fetched, answers.made⟩,
    fun answers => ⟨answers.accepted, answers.fetched, answers.made⟩⟩

/-- A put at the key of a run which, if it goes among the metrics, puts a
number into the column of a metric. -/
structure Put.Orderly (schema : Schema) (put : Put) : Prop where
  keyed : ∃ key, RunKey.encode key = put.key
  named : schema.Named put.cell
  number : schema.amongMetrics put.cell → put.cell.value.length = 8

/-- The row that some puts leave at a key. -/
def Put.rowAt (puts : List Put) (table : String) (key : Bytes) : Row :=
  ⟨key, cellsAt puts table key⟩

variable {schema : Schema} {settings : Settings}

namespace Table.Holds

variable {table : Table} {puts : List Put} {name : String}

theorem readableUnder (holds : table.Holds puts name) {start : Bytes}
    (keyed : ∀ {key cell}, start <+: key → cell ∈ Put.cellsAt puts name key →
      ∃ written, RunKey.encode written = key) : table.ReadableUnder start := by
  rintro ⟨key, cells⟩ listed begins
  rcases holds.find?_eq_some_iff.mp (SortedMap.find?_eq_some_iff.mpr listed) with ⟨filled, rfl⟩
  rcases List.exists_mem_of_ne_nil _ filled with ⟨cell, stored⟩
  rcases keyed begins stored with ⟨written, same⟩
  exact ⟨written, RunKey.decode_eq_ok_iff.mpr same⟩

/-- Only keys that were put to have rows for a read to return. -/
theorem exists_readRow_iff (holds : table.Holds puts name) (predicate : Option Predicate)
    (key : Bytes) {property : Row → Prop} :
    (∃ cells row, table.find? key = some cells ∧
        Table.readRow .all predicate key cells = some row ∧ property row) ↔
      ∃ row, Table.readRow .all predicate key (Put.cellsAt puts name key) = some row ∧
        property row := by
  simp only [← holds.bind_readRow, Option.bind_eq_some_iff]
  constructor
  · rintro ⟨cells, row, found, returned, fits⟩
    exact ⟨row, ⟨cells, found, returned⟩, fits⟩
  · rintro ⟨row, ⟨cells, found, returned⟩, fits⟩
    exact ⟨cells, row, found, returned, fits⟩

end Table.Holds

namespace Run

/-- What restrictions look at in the run of a whole row. -/
theorem reported_of_ofRow {scope : Scope} {row : Row} {run : Run}
    (made : ofRow schema scope .range .everything row = .ok run) :
    run.started = fixedNumber schema row .started ∧ run.metrics = metricsOf schema row := by
  rcases of_ofRow_range made with ⟨key, read, _⟩
  rw [ofRow, numberOf_range scope read] at made
  cases made
  exact ⟨rfl, rfl⟩

end Run

namespace Query

section

variable (query : Query) (row : Row) (unpicked : query.selection.metricConditions = none)
  (plain : query.filter.valuesOnly) (named : ∀ cell ∈ row.cells, schema.Named cell)
  (numbers : ∀ cell ∈ row.cells, schema.amongMetrics cell → cell.value.length = 8)

include unpicked plain named numbers

/-- Under the plan of a read a row keeps the cells that are to be fetched, or
none, according to what the run of the whole row is. -/
theorem kept_plan {full : Run}
    (made : Run.ofRow schema query.scope .range .everything row = .ok full) :
    Table.kept .all (some (query.plan schema settings)) row.key row.cells =
      (Table.select .all row.cells).filter fun cell =>
        query.filter.accepts full && query.selection.fetches schema cell := by
  -- The tests see the selected row, which gives the same run as the stored one.
  have alike := Table.select_alike row.key row.cells
  have reported := Run.reported_of_ofRow made
  have started : full.started =
      Run.fixedNumber schema ⟨row.key, Table.select .all row.cells⟩ .started := by
    rw [reported.1, Run.fixedNumber_eq alike]
  have metrics : full.metrics =
      Run.metricsOf schema ⟨row.key, Table.select .all row.cells⟩ := by
    rw [reported.2, Run.metricsOf_eq alike named]
  apply List.filter_congr
  intro cell _
  rw [allows_plan, FieldSelection.predicate_admits unpicked,
    query.filter.predicate_admits plain
      (fun cell member => named cell (Table.mem_select.mp member))
      (fun cell member => numbers cell (Table.mem_select.mp member)) started metrics]

/-- What the store returns of a row gives a run exactly if the row answers with
that run. -/
theorem answers_iff (settings : Settings)
    (apart : schema.metrics.Apart)
    {key : RunKey} (read : RunKey.decode row.key = .ok key) (run : Run) :
    row.Answers schema query.scope query.filter query.selection run ↔
      ∃ returned,
        Table.readRow .all (some (query.plan schema settings)) row.key row.cells = some returned ∧
          Run.ofRow schema query.scope .range query.selection returned = .ok run := by
  rcases Run.ofRow_range schema query.scope .everything read with ⟨full, whole, _⟩
  have kept : Table.kept .all (some (query.plan schema settings)) row.key row.cells = _ :=
    kept_plan query row unpicked plain named numbers whole
  have runs : Run.ofRow schema query.scope .range query.selection ⟨row.key,
        (Table.select .all row.cells).filter fun cell => query.selection.fetches schema cell⟩ =
      Run.ofRow schema query.scope .range query.selection row :=
    (Run.ofRow_fetched apart query.scope query.selection
      ⟨row.key, Table.select .all row.cells⟩).trans
      (Run.ofRow_eq (Table.select_alike row.key row.cells) rfl named _ _ _)
  constructor
  · rintro ⟨⟨full', whole', accepted⟩, ⟨cell, stored, fetched⟩, made⟩
    rw [whole] at whole'
    cases whole'
    simp only [accepted, Bool.true_and] at kept
    refine ⟨_, Table.readRow_eq_some_iff.mpr ⟨?_, rfl⟩, ?_⟩
    · rw [kept]
      exact List.ne_nil_of_mem (List.mem_filter.mpr ⟨Table.mem_select.mpr stored, fetched⟩)
    · rw [kept, runs]
      exact made
  · rintro ⟨returned, got, made⟩
    rcases Table.readRow_eq_some_iff.mp got with ⟨filled, rfl⟩
    rw [kept] at filled made
    rcases List.exists_mem_of_ne_nil _ filled with ⟨cell, member⟩
    have parts := List.mem_filter.mp member
    rcases Bool.and_eq_true_iff.mp parts.2 with ⟨accepted, fetched⟩
    simp only [accepted, Bool.true_and, runs] at made
    exact ⟨⟨full, whole, accepted⟩, ⟨cell, Table.mem_select.mp parts.1, fetched⟩, made⟩

end

end Query

/-- A list in descending order of numbers is determined by its members. -/
theorem eq_of_descending {α : Type} (number : α → Int64) {first second : List α}
    (ordered : first.Pairwise fun newer older => number older < number newer)
    (ordered' : second.Pairwise fun newer older => number older < number newer)
    (same : ∀ item, item ∈ first ↔ item ∈ second) : first = second := by
  have : Std.Irrefl fun newer older : α => number older < number newer :=
    ⟨fun _ => Int64.lt_irrefl⟩
  have : Std.Asymm fun newer older : α => number older < number newer :=
    ⟨fun _ _ => Int64.lt_asymm⟩
  exact ordered.eq_of_mem_iff ordered' same

namespace Reader

/-- A range read returns the newest answers of the rows of its flow, in the
order of their numbers and as many as the limit allows. -/
theorem readRuns_answers {settings : Settings} {aggregator : Aggregator} {puts : List Put}
    {scope : Scope} {filter : RunFilter} {selection : FieldSelection}
    (present : ∃ put ∈ puts, put.table = settings.table)
    (orderly : ∀ put ∈ puts, put.table = settings.table → scope.start <+: put.key →
      put.Orderly (Schema.ofAggregator aggregator))
    (valid : scope.fault? .range = none) (unpicked : selection.metricConditions = none)
    (plain : filter.valuesOnly) :
    ∃ runs : List Run,
      (runs.Pairwise fun newer older => older.number < newer.number) ∧
      (∀ run, run ∈ runs ↔ ∃ number,
        (Put.rowAt puts settings.table (scope.key number)).Answers
          (Schema.ofAggregator aggregator) scope filter selection run) ∧
      (readRuns ⟨settings, Schema.ofAggregator aggregator⟩ Store.client (Store.afterPuts puts)
          scope filter selection).result =
        .ok (runs.take (settings.effectiveLimit filter.limit).toNat) := by
  rcases Store.find?_afterPuts present with ⟨table, found, holds⟩
  have serves : (Store.afterPuts puts).Serves settings.table table :=
    ⟨Store.pending_afterPuts puts, found⟩
  have put_of_mem : ∀ {key : Bytes} {cell : Cell}, scope.start <+: key →
      cell ∈ Put.cellsAt puts settings.table key →
      Put.Orderly (Schema.ofAggregator aggregator) ⟨settings.table, key, cell⟩ :=
    fun begins stored => orderly _ (Put.mem_cellsAt.mp stored) rfl begins
  have readable : table.ReadableUnder scope.start :=
    holds.readableUnder fun begins stored => (put_of_mem begins stored).keyed
  have asked := readRuns_eq ⟨settings, Schema.ofAggregator aggregator⟩ Store.client
    (Store.afterPuts puts) valid filter selection
  rw [FieldSelection.augmented_of_unpicked unpicked] at asked
  rcases execute_range_ok ⟨settings, Schema.ofAggregator aggregator⟩ serves
    ⟨scope, .range, filter, selection, valid⟩ rfl readable with
    ⟨runs, ordered, members, _, result⟩
  refine ⟨runs, ordered, ?_, asked ▸ result⟩
  intro run
  rw [members]
  apply exists_congr
  intro number
  have begins := scope.start_prefix_key number
  have answers := Query.answers_iff ⟨scope, .range, filter, selection, valid⟩
    (Put.rowAt puts settings.table (scope.key number)) unpicked plain
    (fun cell stored => (put_of_mem begins stored).named)
    (fun cell stored => (put_of_mem begins stored).number) settings
    (Schema.not_prefix_fixed aggregator) (scope.decode_key number) run
  exact (holds.exists_readRow_iff _ _).trans answers.symm

end Reader

/-- The put of a number into a column of a run. -/
def Put.ofRun (number : Int64) (column : Column) (value : Int64) : Put :=
  ⟨"runs", Scope.key ⟨"c", "u", "f", none⟩ number, ⟨column, 1, Long.encode value⟩⟩

theorem Put.orderly_started (number time : Int64) :
    (ofRun number (Schema.standard.fixed .started) time).Orderly Schema.standard := by
  have outside : ¬ Schema.standard.amongMetrics
      (ofRun number (Schema.standard.fixed .started) time).cell := by
    rw [Schema.amongMetrics, ofRun, Schema.fixed, Schema.standard, Schema.not_prefix_fixed]
    simp
  exact ⟨⟨_, rfl⟩, fun among => absurd among outside, fun among => absurd among outside⟩

theorem Put.orderly_metric (number : Int64) (name : String) (value : Int64) :
    (ofRun number (Schema.standard.metric name) value).Orderly Schema.standard :=
  ⟨⟨_, rfl⟩, fun _ => ⟨name, rfl⟩, fun _ => Long.length_encode value⟩

/-- Puts of five runs in no order, and of a damaged value to another flow. -/
def Put.fiveRuns : List Put :=
  [ofRun 7 (Schema.standard.fixed .started) 200, ofRun 7 (Schema.standard.metric "cpu") 1,
    ofRun (-3) (Schema.standard.fixed .started) 150, ofRun (-3) (Schema.standard.metric "cpu") 4,
    ofRun 5 (Schema.standard.metric "cpu") 8,
    ⟨"runs", Scope.key ⟨"c", "u", "g", none⟩ 8, ⟨Schema.standard.metric "cpu", 1, [0x78]⟩⟩,
    ofRun 9 (Schema.standard.fixed .started) 300, ofRun 9 (Schema.standard.metric "cpu") 5,
    ofRun 2 (Schema.standard.fixed .started) 250, ofRun 2 (Schema.standard.metric "mem") 6]

/-- A run with a start time and one metric. -/
def Run.measured (number time : Int64) (metric : String) (value : Int64) : Run where
  user := "u"
  flow := "f"
  number := number
  started := some time
  metrics := SortedMap.empty.insert metric ⟨value, 1⟩

/-- A restriction to runs that were created in time and are busy. -/
def RunFilter.busy : RunFilter where
  createdFrom := 100
  createdTo := 300
  metrics := some ⟨.and, [.compare .greater "cpu" 3 false,
    .group .or [.compare .equal "mem" 6 true, .compare .greater "cpu" 3 true]]⟩

theorem Put.orderly_of_mem_fiveRuns {put : Put} (listed : put ∈ fiveRuns)
    (begins : Scope.start ⟨"c", "u", "f", none⟩ <+: put.key) : put.Orderly Schema.standard := by
  have foreign : ¬ Scope.start ⟨"c", "u", "f", none⟩ <+: Scope.key ⟨"c", "u", "g", none⟩ 8 := by
    decide
  simp only [fiveRuns, List.mem_cons, List.not_mem_nil, or_false] at listed
  rcases listed with rfl | rfl | rfl | rfl | rfl | rfl | rfl | rfl | rfl | rfl
  · exact orderly_started 7 200
  · exact orderly_metric 7 "cpu" 1
  · exact orderly_started (-3) 150
  · exact orderly_metric (-3) "cpu" 4
  · exact orderly_metric 5 "cpu" 8
  · exact absurd begins foreign
  · exact orderly_started 9 300
  · exact orderly_metric 9 "cpu" 5
  · exact orderly_started 2 250
  · exact orderly_metric 2 "mem" 6

namespace Reader

/-- Of five runs one is not busy and one has no start time.  The other three answer,
and a limit of two leaves the newest of them. -/
theorem readRuns_answers_of_five_runs :
    ([Run.measured 9 300 "cpu" 5, Run.measured 2 250 "mem" 6,
      Run.measured (-3) 150 "cpu" 4].Pairwise fun newer older => older.number < newer.number) ∧
    (∀ run,
      run ∈ [Run.measured 9 300 "cpu" 5, Run.measured 2 250 "mem" 6,
          Run.measured (-3) 150 "cpu" 4] ↔
        ∃ number, (Put.rowAt Put.fiveRuns "runs" (Scope.key ⟨"c", "u", "f", none⟩ number)).Answers
          Schema.standard ⟨"c", "u", "f", none⟩ { RunFilter.busy with limit := some 2 }
          { fields := FieldSet.ofList [.metrics] } run) ∧
    (readRuns ⟨⟨"runs", 10⟩, Schema.standard⟩ Store.client (Store.afterPuts Put.fiveRuns)
        ⟨"c", "u", "f", none⟩ { RunFilter.busy with limit := some 2 }
        { fields := FieldSet.ofList [.metrics] }).result =
      .ok [Run.measured 9 300 "cpu" 5, Run.measured 2 250 "mem" 6] := by
  have answers := fun limit => @readRuns_answers ⟨"runs", 10⟩ .sum Put.fiveRuns
    ⟨"c", "u", "f", none⟩ { RunFilter.busy with limit := some limit }
    { fields := FieldSet.ofList [.metrics] } ⟨_, List.mem_cons_self, rfl⟩
    (fun _ listed _ => Put.orderly_of_mem_fiveRuns listed) (by decide) rfl rfl
  rcases answers 2 with ⟨runs, ordered, members, result⟩
  -- A read with room for all runs tells which ones the limit cuts.
  rcases answers 10 with ⟨all, ordered', members', result'⟩
  have same : runs = all := eq_of_descending Run.number ordered ordered' fun run => by
    rw [members, members']
    exact exists_congr fun _ =>
      (Row.answers_limited (some 2)).trans (Row.answers_limited (some 10)).symm
  have read : (readRuns ⟨⟨"runs", 10⟩, Schema.standard⟩ Store.client
      (Store.afterPuts Put.fiveRuns) ⟨"c", "u", "f", none⟩
      { RunFilter.busy with limit := some 10 } { fields := FieldSet.ofList [.metrics] }).result =
      .ok [Run.measured 9 300 "cpu" 5, Run.measured 2 250 "mem" 6,
        Run.measured (-3) 150 "cpu" 4] := by
    decide +kernel
  have front : all.take 10 = _ := Except.ok.inj (result'.symm.trans read)
  have whole : all.take 10 = all := by
    have counted : (all.take 10).length = 3 := congrArg List.length front
    rw [List.length_take] at counted
    exact List.take_of_length_le (by omega)
  rw [whole] at front
  subst same front
  exact ⟨ordered, members, result⟩

end Reader
end FlowRuns
