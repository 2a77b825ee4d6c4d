import FlowRuns.Proofs.Key.RunKey
import FlowRuns.Proofs.RunRow

namespace FlowRuns

/-!
# Cells that no run is made of

A row may hold cells that say nothing of its run: cells of other families and of
columns outside the layout, values that are no numbers where numbers belong, and
metrics whose names do not read.  Everything that a run takes from a row it takes
cell by cell, and such noise is passed over each time.  So a run is the same
whether the noise is there or not, and however it lies among the other cells.  In
particular noise is never a fault.  What can be at fault is the key of a row of a
range, or the scope of a single read that names no run.
-/

/-- A cell that says nothing of a run.  It lies outside the family of runs, or
outside the layout, or it has a value that is no number where a time or a metric
has one, or the name of its metric does not read. -/
def Schema.Noise (schema : Schema) (cell : Cell) : Prop :=
  cell.column.family ≠ schema.family ∨
  ((∀ column ∈ FixedColumn.list, cell.column.qualifier ≠ column.qualifier) ∧
    ¬ schema.metrics.start <+: cell.column.qualifier) ∨
  ((cell.column.qualifier = FixedColumn.qualifier .started ∨
      cell.column.qualifier = FixedColumn.qualifier .ended) ∧
    cell.value.length ≠ 8) ∨
  (schema.metrics.start <+: cell.column.qualifier ∧
    (schema.metrics.name? cell.column.qualifier = none ∨ cell.value.length ≠ 8))

instance (schema : Schema) (cell : Cell) : Decidable (schema.Noise cell) :=
  inferInstanceAs (Decidable (_ ∨ _))

/-- Whether some cells are left of others when noise is dropped here and there. -/
inductive Schema.NoiseDropped (schema : Schema) : List Cell → List Cell → Prop where
  | nil : NoiseDropped schema [] []
  | keep {cells kept : List Cell} (cell : Cell) :
      NoiseDropped schema cells kept → NoiseDropped schema (cell :: cells) (cell :: kept)
  | drop {cell : Cell} {cells kept : List Cell} :
      schema.Noise cell → NoiseDropped schema cells kept → NoiseDropped schema (cell :: cells) kept

variable {schema : Schema}

/-! ## What noise is made of -/

namespace Schema.Noise

variable {cell : Cell}

/-- Noise in a fixed column is a damaged value in the column of a time. -/
theorem damaged_of_fixed (noise : schema.Noise cell) (apart : schema.metrics.Apart)
    {column : FixedColumn} (own : cell.column = schema.fixed column) :
    column ≠ .version ∧ cell.value.length ≠ 8 := by
  have outside : ¬ schema.metrics.start <+: column.qualifier := by
    rw [← List.isPrefixOf_iff_prefix, apart column]
    exact Bool.false_ne_true
  rw [Noise, own, fixed] at noise
  rcases noise with elsewhere | ⟨unlisted, _⟩ | ⟨timed, damaged⟩ | ⟨among, _⟩
  · exact absurd rfl elsewhere
  · exact absurd rfl (unlisted column column.mem_list)
  · refine ⟨?_, damaged⟩
    rintro rfl
    have untimed : ¬ (FixedColumn.qualifier .version = FixedColumn.qualifier .started ∨
        FixedColumn.qualifier .version = FixedColumn.qualifier .ended) := by decide
    exact untimed timed
  · exact absurd among outside

/-- Noise among the metrics is no data point. -/
theorem pointOf?_eq_none (noise : schema.Noise cell) (among : schema.amongMetrics cell) :
    Run.pointOf? schema.metrics cell = none := by
  rw [amongMetrics, Bool.and_eq_true, decide_eq_true_eq, List.isPrefixOf_iff_prefix] at among
  have unreadable : schema.metrics.name? cell.column.qualifier = none ∨
      cell.value.length ≠ 8 := by
    rcases noise with elsewhere | ⟨_, outside⟩ | ⟨_, damaged⟩ | ⟨_, unreadable⟩
    · exact absurd among.1 elsewhere
    · exact absurd among.2 outside
    · exact .inr damaged
    · exact unreadable
  rw [Run.pointOf?]
  rcases unreadable with nameless | damaged
  · rw [nameless]
    rfl
  · rw [Version.ofCell?_eq_none_iff.mpr damaged]
    cases schema.metrics.name? cell.column.qualifier <;> rfl

end Schema.Noise

/-! ## Noise is passed over -/

namespace Schema.NoiseDropped

variable {key : Bytes} {cells kept : List Cell}

/-- What is made of some cells one by one is the same without noise, if nothing is
made of noise. -/
theorem filterMap_filter_eq {α : Type} (dropped : schema.NoiseDropped cells kept)
    {reads : Cell → Bool} {reading : Cell → Option α}
    (passed : ∀ cell, schema.Noise cell → reads cell → reading cell = none) :
    (kept.filter reads).filterMap reading = (cells.filter reads).filterMap reading := by
  induction dropped with
  | nil => rfl
  | keep cell _ inductionHypothesis =>
      rw [List.filter_cons, List.filter_cons]
      split
      · rw [List.filterMap_cons, List.filterMap_cons, inductionHypothesis]
      · exact inductionHypothesis
  | @drop cell cells kept noise _ inductionHypothesis =>
      rw [List.filter_cons]
      split
      · next read =>
          rw [List.filterMap_cons_none (passed cell noise read)]
          exact inductionHypothesis
      · exact inductionHypothesis

/-- A time is merged from the numbers in its column. -/
theorem fixedNumber_eq (dropped : schema.NoiseDropped cells kept) (apart : schema.metrics.Apart)
    {column : FixedColumn} {aggregator : Aggregator}
    (merged : column.aggregator = some aggregator) :
    Run.fixedNumber schema ⟨key, kept⟩ column = Run.fixedNumber schema ⟨key, cells⟩ column := by
  rw [Run.fixedNumber_of_aggregator merged, Run.fixedNumber_of_aggregator merged,
    Aggregator.foldCells, Aggregator.foldCells, Version.ofCells, Version.ofCells, Row.stored,
    Row.stored, dropped.filterMap_filter_eq]
  intro cell noise own
  exact Version.ofCell?_eq_none_iff.mpr (noise.damaged_of_fixed apart (of_decide_eq_true own)).2

/-- The column of the version has no noise. -/
theorem fixedText_version_eq (dropped : schema.NoiseDropped cells kept)
    (apart : schema.metrics.Apart) :
    Run.fixedText schema ⟨key, kept⟩ .version = Run.fixedText schema ⟨key, cells⟩ .version := by
  have same : Row.stored ⟨key, kept⟩ (schema.fixed .version) =
      Row.stored ⟨key, cells⟩ (schema.fixed .version) := by
    rw [Row.stored, Row.stored, ← List.filterMap_some (l := kept.filter _),
      ← List.filterMap_some (l := cells.filter _)]
    apply dropped.filterMap_filter_eq
    intro cell noise own
    exact absurd rfl (noise.damaged_of_fixed apart (of_decide_eq_true own)).1
  rw [Run.fixedText, Run.fixedText, Row.latest?, Row.latest?, same]

theorem metricsOf_eq (dropped : schema.NoiseDropped cells kept) :
    Run.metricsOf schema ⟨key, kept⟩ = Run.metricsOf schema ⟨key, cells⟩ := by
  rw [Run.metricsOf, Run.metricsOf, Run.points, Run.points, Row.cellsUnder, Row.cellsUnder,
    dropped.filterMap_filter_eq]
  intro cell noise among
  exact noise.pointOf?_eq_none among

theorem ofRow_eq (dropped : schema.NoiseDropped cells kept) (apart : schema.metrics.Apart)
    (scope : Scope) (mode : ReadMode) (selection : FieldSelection) :
    Run.ofRow schema scope mode selection ⟨key, kept⟩ =
      Run.ofRow schema scope mode selection ⟨key, cells⟩ := by
  have number : Run.numberOf scope mode ⟨key, kept⟩ = Run.numberOf scope mode ⟨key, cells⟩ :=
    rfl
  rw [Run.ofRow, Run.ofRow, number, dropped.fixedNumber_eq apart rfl,
    dropped.fixedNumber_eq apart rfl, dropped.fixedText_version_eq apart, dropped.metricsOf_eq]

end Schema.NoiseDropped

/-! ## Faults -/

namespace Run

/-- Only the number of a run can be missing. -/
theorem ofRow_eq_error_iff {scope : Scope} {mode : ReadMode} {selection : FieldSelection}
    {row : Row} {error : ReadError} :
    ofRow schema scope mode selection row = .error error ↔
      numberOf scope mode row = .error error := by
  rw [ofRow]
  cases numberOf scope mode row with
  | error other => rw [Except.map, Except.error.injEq, Except.error.injEq]
  | ok number =>
      constructor
      · intro failed
        cases failed
      · intro failed
        cases failed

theorem numberOf_eq_error_iff {scope : Scope} {mode : ReadMode} {row : Row} {error : ReadError} :
    numberOf scope mode row = .error error ↔
      (mode = .range ∧ ∃ fault, RunKey.decode row.key = .error fault ∧ .ofKey fault = error) ∨
      (mode = .single ∧ scope.run = none ∧ .ofScope .runMissing = error) := by
  cases mode with
  | single =>
      cases named : scope.run with
      | none => simp [numberOf, named]
      | some number => simp [numberOf, named]
  | range =>
      cases read : RunKey.decode row.key with
      | error fault => simp [numberOf, read]
      | ok key => simp [numberOf, read]

/-- A row of a range is at fault exactly if its key is the key of no run. -/
theorem ofRow_eq_malformedRow_iff {scope : Scope} {mode : ReadMode} {selection : FieldSelection}
    {row : Row} :
    (∃ detail, ofRow schema scope mode selection row = .error (.malformedRow detail)) ↔
      mode = .range ∧ ∀ key, RunKey.encode key ≠ row.key := by
  simp only [ofRow_eq_error_iff, numberOf_eq_error_iff, RunKey.foreign_iff]
  constructor
  · rintro ⟨detail, ⟨range, fault, read, _⟩ | ⟨_, _, other⟩⟩
    · exact ⟨range, fault, read⟩
    · cases other
  · rintro ⟨range, fault, read⟩
    exact ⟨fault.message, .inl ⟨range, fault, read, rfl⟩⟩

/-- The scope of a single read is at fault exactly if it names no run. -/
theorem ofRow_eq_invalid_iff {scope : Scope} {mode : ReadMode} {selection : FieldSelection}
    {row : Row} :
    (∃ detail, ofRow schema scope mode selection row = .error (.invalid detail)) ↔
      mode = .single ∧ scope.run = none := by
  simp only [ofRow_eq_error_iff, numberOf_eq_error_iff]
  constructor
  · rintro ⟨detail, ⟨_, _, _, other⟩ | ⟨single, missing, _⟩⟩
    · cases other
    · exact ⟨single, missing⟩
  · rintro ⟨single, missing⟩
    exact ⟨Scope.Fault.runMissing.message, .inr ⟨single, missing, rfl⟩⟩

theorem ofRow_fails_iff {scope : Scope} {mode : ReadMode} {selection : FieldSelection} {row : Row} :
    (∃ error, ofRow schema scope mode selection row = .error error) ↔
      (mode = .range ∧ ∀ key, RunKey.encode key ≠ row.key) ∨
      (mode = .single ∧ scope.run = none) := by
  rw [← ofRow_eq_malformedRow_iff, ← ofRow_eq_invalid_iff]
  constructor
  · rintro ⟨error, failed⟩
    have fault := failed
    rw [ofRow_eq_error_iff, numberOf_eq_error_iff] at fault
    rcases fault with ⟨_, keyFault, _, rfl⟩ | ⟨_, _, rfl⟩
    · exact .inl ⟨keyFault.message, failed⟩
    · exact .inr ⟨Scope.Fault.runMissing.message, failed⟩
  · rintro (⟨detail, failed⟩ | ⟨detail, failed⟩)
    · exact ⟨.malformedRow detail, failed⟩
    · exact ⟨.invalid detail, failed⟩

/-! ## Rows with noise -/

/-- Noise has no say in what is made of a row, whichever of it is there and wherever
it lies.  A row gives no run in two cases alone.  In a range its key is the key of
no run, and then the row is malformed.  In a single read the scope names no run,
and then the read is invalid. -/
theorem ofRow_without_noise (family : Bytes) (component : String) (aggregator : Aggregator)
    (scope : Scope) (mode : ReadMode) (selection : FieldSelection) (row : Row) :
    (∀ kept, (Schema.ofComponent family component aggregator).NoiseDropped row.cells kept →
      ofRow (.ofComponent family component aggregator) scope mode selection ⟨row.key, kept⟩ =
        ofRow (.ofComponent family component aggregator) scope mode selection row) ∧
    ((∃ error, ofRow (.ofComponent family component aggregator) scope mode selection row =
        .error error) ↔
      (mode = .range ∧ ∀ key, RunKey.encode key ≠ row.key) ∨
      (mode = .single ∧ scope.run = none)) ∧
    ((∃ detail, ofRow (.ofComponent family component aggregator) scope mode selection row =
        .error (.malformedRow detail)) ↔
      mode = .range ∧ ∀ key, RunKey.encode key ≠ row.key) ∧
    ((∃ detail, ofRow (.ofComponent family component aggregator) scope mode selection row =
        .error (.invalid detail)) ↔
      mode = .single ∧ scope.run = none) := by
  refine ⟨?_, ofRow_fails_iff, ofRow_eq_malformedRow_iff, ofRow_eq_invalid_iff⟩
  intro kept dropped
  exact dropped.ofRow_eq (ColumnGroup.apart_named component aggregator) scope mode selection

/-- A row of a range with one cell of each kind of noise between those of a run. -/
theorem ofRow_without_noise_of_each_kind :
    ofRow Schema.standard ⟨"c", "u", "f", none⟩ .range { fields := FieldSet.empty.insert .metrics }
        ⟨RunKey.encode ⟨"c", "u", "f", 7⟩,
          [⟨⟨Text.bytes "x", Text.bytes "flow_version"⟩, 9, Text.bytes "0"⟩,
            ⟨Schema.standard.fixed .version, 1, Text.bytes "2"⟩,
            ⟨⟨Text.bytes "i", Text.bytes "config"⟩, 1, []⟩,
            ⟨Schema.standard.fixed .started, 1, [0x78]⟩,
            ⟨Schema.standard.metric "a", 1, Long.encode 5⟩,
            ⟨⟨Text.bytes "i", Text.bytes "m!%zz"⟩, 1, Long.encode 5⟩,
            ⟨Schema.standard.metric "a", 2, [0x78]⟩]⟩ =
      .ok { user := "u", flow := "f", number := 7, version := some "2",
            metrics := SortedMap.empty.insert "a" ⟨5, 1⟩ } := by
  refine ((ofRow_without_noise (Text.bytes "i") "m" .sum ⟨"c", "u", "f", none⟩ .range
    { fields := FieldSet.empty.insert .metrics } ⟨RunKey.encode ⟨"c", "u", "f", 7⟩, _⟩).1
    [⟨Schema.standard.fixed .version, 1, Text.bytes "2"⟩,
      ⟨Schema.standard.metric "a", 1, Long.encode 5⟩] ?_).symm.trans ?_
  · refine .drop ?_ (.keep _ (.drop ?_ (.drop ?_ (.keep _ (.drop ?_ (.drop ?_ .nil))))))
    all_goals decide
  · decide +kernel

end Run
end FlowRuns
