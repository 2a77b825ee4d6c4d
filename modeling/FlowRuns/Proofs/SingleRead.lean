import FlowRuns.Proofs.RangeRead

namespace FlowRuns

/-!
# Single reads against range reads

A single read and a range read that returns metrics ask for the same cells of
a row, the one by a get of its key and the other by a scan that meets the key.
The number of the run comes from the scope in the one case and from the key in
the other, and the key was made of that number.  So a range read without
restrictions collects what single reads return.
-/

/-- With metrics wanted both kinds of read fetch the same columns. -/
theorem FieldSelection.predicate_mode (schema : Schema) {selection : FieldSelection}
    (wanted : selection.wants .metrics) :
    selection.predicate schema .single = selection.predicate schema .range := by
  have choices : ∀ picks, ColumnChoice.choose .single true picks =
      ColumnChoice.choose .range true picks := by
    intro picks
    cases picks <;> rfl
  rw [predicate, predicate, ColumnChoice.ofSelection, ColumnChoice.ofSelection, wanted, choices]

/-- A limit alone restricts no runs. -/
theorem RunFilter.admits_limit (schema : Schema) (limit : Option UInt64) (row : Row) (cell : Cell) :
    (RunFilter.predicate schema { limit := limit }).admits row cell = true :=
  Predicate.admits_all row cell []

namespace Reader

variable {reader : Reader} {store : Store} {table : Table}

theorem decode_of_single? {scope : Scope} {selection : FieldSelection} {number : Int64} {row : Row}
    (got : reader.single? table scope selection number = some row) :
    RunKey.decode row.key = .ok ⟨scope.cluster, scope.user, scope.flow, number⟩ := by
  rcases Option.bind_eq_some_iff.mp got with ⟨cells, _, returned⟩
  rw [(Table.readRow_eq_some_iff.mp returned).2]
  exact scope.decode_key number

/-- Under a limit alone the scan of a range read returns of the row at a key
what the get of a single read returns. -/
theorem single?_eq (reader : Reader) (table : Table) (query : Query) {limit : Option UInt64}
    (free : query.filter = { limit := limit })
    (wanted : query.selection.wants .metrics) (number : Int64) :
    reader.single? table query.scope query.selection number =
      (table.find? (query.scope.key number)).bind (Table.readRow .all
        (some (query.plan reader.schema reader.settings)) (query.scope.key number)) := by
  have same : ∀ row cell,
      Predicate.allows (query.selection.predicate reader.schema .single).nonempty? row cell =
        Predicate.allows (some (query.plan reader.schema reader.settings)) row cell := by
    intro row cell
    rw [Predicate.allows_nonempty?, Query.allows_plan, free, RunFilter.admits_limit,
      Bool.true_and, FieldSelection.predicate_mode _ wanted]
  rw [single?]
  cases table.find? (query.scope.key number) with
  | none => rfl
  | some cells => exact Table.readRow_congr same _ _ _

/-- If metrics are wanted, a single read returns the run that a range read
would make of what its scan returns for the key. -/
theorem readRun_eq_some_iff (serves : store.Serves reader.settings.table table) {scope : Scope}
    (valid : scope.fault? .range = none) {selection : FieldSelection}
    (wanted : selection.augmented.wants .metrics) (number : Int64) (run : Run) :
    (reader.readRun Store.client store (scope.withRun number) selection).result =
        .ok (some run) ↔
      ∃ row, reader.single? table scope selection.augmented number = some row ∧
        Run.ofRow reader.schema scope .range selection.augmented row = .ok run := by
  rw [readRun_result serves valid]
  cases got : reader.single? table scope selection.augmented number with
  | none => simp
  | some row =>
      simp only [Run.ofRow_single reader.schema scope wanted (decode_of_single? got),
        Option.some.injEq, exists_eq_left']
      cases Run.ofRow reader.schema scope .range selection.augmented row with
      | error error => simp [Except.map]
      | ok made => simp [Except.map]

/-- The runs that a range read collects, if metrics are wanted and a sufficient
limit is all that restricts it, are the runs that single reads return. -/
theorem mem_readRuns_iff {reader : Reader} {store : Store} {table : Table} {scope : Scope}
    {selection : FieldSelection} {limit : UInt64}
    (serves : store.Serves reader.settings.table table) (readable : table.ReadableUnder scope.start)
    (valid : scope.fault? .range = none) (wanted : selection.augmented.wants .metrics)
    (positive : limit ≠ 0)
    (enough : (table.entries.filter fun entry => scope.start.isPrefixOf entry.1).length ≤
      limit.toNat) :
    ∃ runs : List Run,
      (reader.readRuns Store.client store scope { limit := some limit } selection).result =
        .ok runs ∧
      (∀ run, run ∈ runs ↔ ∃ number,
        (reader.readRun Store.client store (scope.withRun number) selection).result =
          .ok (some run)) ∧
      (∀ number run,
        (reader.readRun Store.client store (scope.withRun number) selection).result =
          .ok (some run) → run.number = number) ∧
      runs.Nodup := by
  rcases execute_range_ok reader serves
    ⟨scope, .range, { limit := some limit }, selection.augmented, valid⟩ rfl readable with
    ⟨runs, ordered, members, counted, result⟩
  have whole : runs.take limit.toNat = runs := by
    rw [Table.entriesUnder_eq] at counted
    exact List.take_of_length_le (Nat.le_trans counted enough)
  have limited : Query.limit ⟨scope, .range, { limit := some limit }, selection.augmented, valid⟩
      reader.settings = limit := if_neg positive
  rw [limited, whole] at result
  refine ⟨runs, ?_, ?_, ?_, ?_⟩
  · rw [readRuns_eq reader Store.client store valid, result]
  · intro run
    rw [members]
    apply exists_congr
    intro number
    rw [readRun_eq_some_iff serves valid wanted]
    have same := single?_eq reader table
      ⟨scope, .range, { limit := some limit }, selection.augmented, valid⟩ rfl wanted number
    constructor
    · rintro ⟨cells, row, found, returned, made⟩
      exact ⟨row, same.trans (Option.bind_eq_some_iff.mpr ⟨cells, found, returned⟩), made⟩
    · rintro ⟨row, got, made⟩
      rcases Option.bind_eq_some_iff.mp (same.symm.trans got) with ⟨cells, found, returned⟩
      exact ⟨cells, row, found, returned, made⟩
  · intro number run read
    rcases (readRun_eq_some_iff serves valid wanted number run).mp read with ⟨row, got, made⟩
    rcases Run.of_ofRow_range made with ⟨key, decoded, _, _, numbered⟩
    rw [decode_of_single? got] at decoded
    cases decoded
    exact numbered
  · apply ordered.imp
    rintro newer older below rfl
    exact Int64.lt_irrefl below

end Reader

/-- Puts of three runs.  One of them has nothing but a metric that does not begin
with an `a`. -/
def Put.threeRuns : List Put :=
  [ofRun 7 (Schema.standard.fixed .started) 100, ofRun 7 (Schema.standard.metric "a") 5,
    ofRun 7 (Schema.standard.metric "b") 2, ofRun (-5) (Schema.standard.metric "b") 3,
    ofRun 9 (Schema.standard.fixed .started) 300, ofRun 9 (Schema.standard.metric "ab") 1]

theorem Put.keyed_of_mem_threeRuns {put : Put} (listed : put ∈ threeRuns) :
    ∃ written, RunKey.encode written = put.key := by
  simp only [threeRuns, List.mem_cons, List.not_mem_nil, or_false] at listed
  rcases listed with rfl | rfl | rfl | rfl | rfl | rfl <;> exact ⟨_, rfl⟩

namespace Reader

/-- Metrics are picked by the beginning of their names.  One of three runs has no
cell left, and neither read returns it. -/
theorem mem_readRuns_iff_of_three_runs :
    (readRuns ⟨⟨"runs", 10⟩, Schema.standard⟩ Store.client (Store.afterPuts Put.threeRuns)
        ⟨"c", "u", "f", none⟩ { limit := some 3 }
        { metrics := some ⟨.or, [.named .equal "a"]⟩ }).result =
      .ok [Run.measured 9 300 "ab" 1, Run.measured 7 100 "a" 5] ∧
    (∀ run,
      run ∈ [Run.measured 9 300 "ab" 1, Run.measured 7 100 "a" 5] ↔
        ∃ number, (readRun ⟨⟨"runs", 10⟩, Schema.standard⟩ Store.client
          (Store.afterPuts Put.threeRuns) (Scope.withRun ⟨"c", "u", "f", none⟩ number)
          { metrics := some ⟨.or, [.named .equal "a"]⟩ }).result = .ok (some run)) ∧
    (∀ number run,
      (readRun ⟨⟨"runs", 10⟩, Schema.standard⟩ Store.client (Store.afterPuts Put.threeRuns)
          (Scope.withRun ⟨"c", "u", "f", none⟩ number)
          { metrics := some ⟨.or, [.named .equal "a"]⟩ }).result = .ok (some run) →
        run.number = number) ∧
    [Run.measured 9 300 "ab" 1, Run.measured 7 100 "a" 5].Nodup ∧
    (readRun ⟨⟨"runs", 10⟩, Schema.standard⟩ Store.client (Store.afterPuts Put.threeRuns)
        (Scope.withRun ⟨"c", "u", "f", none⟩ (-5))
        { metrics := some ⟨.or, [.named .equal "a"]⟩ }).result = .ok none := by
  have present : ∃ put ∈ Put.threeRuns, put.table = "runs" := ⟨_, List.mem_cons_self, rfl⟩
  rcases Store.find?_afterPuts present with ⟨table, found, holds⟩
  have readable : table.ReadableUnder (Scope.start ⟨"c", "u", "f", none⟩) :=
    holds.readableUnder fun _ stored => Put.keyed_of_mem_threeRuns (Put.mem_cellsAt.mp stored)
  have counted : ((Store.afterPuts Put.threeRuns).tables.find? "runs").map (fun table : Table =>
      (table.entries.filter fun entry =>
        (Scope.start ⟨"c", "u", "f", none⟩).isPrefixOf entry.1).length) = some 3 := by
    decide +kernel
  rw [found] at counted
  rcases @mem_readRuns_iff ⟨⟨"runs", 10⟩, Schema.standard⟩ _ table ⟨"c", "u", "f", none⟩
    { metrics := some ⟨.or, [.named .equal "a"]⟩ } 3 ⟨Store.pending_afterPuts _, found⟩ readable
    (by decide) rfl (by decide) (Nat.le_of_eq (Option.some.inj counted)) with
    ⟨runs, result, members, numbers, distinct⟩
  have read : (readRuns ⟨⟨"runs", 10⟩, Schema.standard⟩ Store.client
      (Store.afterPuts Put.threeRuns) ⟨"c", "u", "f", none⟩ { limit := some 3 }
      { metrics := some ⟨.or, [.named .equal "a"]⟩ }).result =
      .ok [Run.measured 9 300 "ab" 1, Run.measured 7 100 "a" 5] := by
    decide +kernel
  have listed := Except.ok.inj (result.symm.trans read)
  subst listed
  refine ⟨read, members, numbers, distinct, ?_⟩
  decide +kernel

end Reader
end FlowRuns
