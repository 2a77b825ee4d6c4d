import FlowRuns.Proofs.FieldSelection
import FlowRuns.Proofs.Query

namespace FlowRuns

/-!
# The request of a query

On the way from restrictions and a selection to a request, groups without
children drop out wherever they turn up, and so a part of a request may be
missing.  What is left asks for the same cells.  Restrictions and selections are
conditions on cells, and however deep they are nested none of them bounds a page,
so the cap of a scan is the limit of its query.  A single read is not restricted,
whatever the restrictions in its query are.
-/

/-- A scan over the keys of a flow for all versions, with a cap, that admits what
two predicates both admit. -/
structure Scan.Asks (scan : Scan) (settings : Settings) (scope : Scope) (limit : UInt64)
    (restrictions columns : Predicate) : Prop where
  table : scan.table = settings.table
  start : scan.start = scope.start
  versions : scan.versions = .all
  rowCap : scan.rowCap = some limit
  allows : ∀ row cell, Predicate.allows scan.predicate row cell =
    (restrictions.admits row cell && columns.admits row cell)

/-- A get of the row of a run for all versions that admits what a predicate
admits. -/
structure Get.Asks (get : Get) (settings : Settings) (scope : Scope) (number : Int64)
    (columns : Predicate) : Prop where
  table : get.table = settings.table
  key : get.key = scope.key number
  versions : get.versions = .all
  allows : ∀ row cell, Predicate.allows get.predicate row cell = columns.admits row cell

namespace FieldSelection

variable {schema : Schema}

/-- To want metrics because some are picked changes no column. -/
theorem predicate_augmented (selection : FieldSelection) (mode : ReadMode) :
    selection.augmented.predicate schema mode = selection.predicate schema mode := by
  cases picks : selection.metricConditions with
  | none => rw [augmented_of_unpicked picks]
  | some picked =>
      have choice : ∀ wants, ColumnChoice.choose mode wants true = .pickedMetrics := by
        intro wants
        cases mode <;> cases wants <;> rfl
      rw [predicate, predicate, ColumnChoice.ofSelection, ColumnChoice.ofSelection,
        metricConditions_augmented, picks, Option.isSome_some, choice, choice]

/-- A single read says nothing of columns exactly if no metrics are picked. -/
theorem nonempty?_predicate_single (selection : FieldSelection) :
    (selection.predicate schema .single).nonempty? = none ↔ selection.metricConditions = none := by
  cases picks : selection.metricConditions with
  | none => simp [predicate_single picks, Predicate.nonempty?, Predicate.isEmpty]
  | some picked =>
      have choice : ColumnChoice.ofSelection .single selection = .pickedMetrics := by
        rw [ColumnChoice.ofSelection, picks]
        cases selection.wants .metrics <;> rfl
      simp [predicate, choice, picks, Predicate.nonempty?, Predicate.isEmpty]

end FieldSelection

namespace Query

/-- The scan of a range read admits what the restrictions and the selection of
its caller both admit. -/
theorem asks_scan (schema : Schema) (settings : Settings) {scope : Scope}
    (valid : scope.fault? .range = none) (filter : RunFilter) (selection : FieldSelection) :
    (scan schema settings ⟨scope, .range, filter, selection.augmented, valid⟩).Asks settings scope
      (settings.effectiveLimit filter.limit) (filter.predicate schema)
      (selection.predicate schema .range) where
  table := rfl
  start := rfl
  versions := rfl
  rowCap := rowCap_scan schema settings _
  allows row cell := by
    rw [← selection.predicate_augmented]
    exact allows_plan schema settings ⟨scope, .range, filter, selection.augmented, valid⟩ row cell

/-- Every read in a scope without fault has a request.  For a range read this is
a scan of the flow, whose cap is the limit of the query and whose predicate
admits what restrictions and selection both admit.  For a single read it is a get
of the key of the run, whose predicate is missing exactly if no metrics are
picked, which admits what the selection admits, and which is the same under all
restrictions. -/
theorem request_asks (schema : Schema) (settings : Settings) (scope : Scope)
    (selection : FieldSelection) :
    (scope.fault? .range = none → ∀ filter, ∃ query scan,
      range scope filter selection = .ok query ∧
      query.request schema settings = .ok (.scan scan) ∧
      scan.Asks settings scope (query.limit settings) (filter.predicate schema)
        (selection.predicate schema .range)) ∧
    (scope.fault? .single = none → ∃ number get,
      scope.run = some number ∧
      get.Asks settings scope number (selection.predicate schema .single) ∧
      (get.predicate = none ↔ selection.metricConditions = none) ∧
      ∀ filter, ∃ query,
        create scope .single filter selection = .ok query ∧
        query.request schema settings = .ok (.get get)) := by
  constructor
  · intro valid filter
    exact ⟨_, _, create_eq valid filter selection, request_range schema settings _ rfl,
      asks_scan schema settings valid filter selection⟩
  · intro valid
    rcases Scope.exists_run valid with ⟨number, chosen⟩
    have columns : selection.augmented.predicate schema .single =
        selection.predicate schema .single := selection.predicate_augmented .single
    refine ⟨number, ⟨settings.table, scope.key number,
      (selection.predicate schema .single).nonempty?, .all⟩, chosen,
      ⟨rfl, rfl, rfl, Predicate.allows_nonempty? _⟩,
      selection.nonempty?_predicate_single, fun filter => ?_⟩
    refine ⟨_, create_eq valid filter selection, ?_⟩
    rw [request_single schema settings ⟨scope, .single, filter, selection.augmented, valid⟩ rfl
      chosen, columns]

/-- Restrictions that nest a group without children, with zero for a limit. -/
theorem request_asks_of_empty_group :
    Scope.fault? ⟨"c", "u", "f", some 7⟩ .range = none ∧
    Scope.fault? ⟨"c", "u", "f", some 7⟩ .single = none ∧
    (∃ query scan,
      range ⟨"c", "u", "f", some 7⟩
          { createdFrom := 5, metrics := some ⟨.and, [.group .or []]⟩, limit := some 0 } {} =
        .ok query ∧
      query.request Schema.standard ⟨"runs", 50⟩ = .ok (.scan scan) ∧
      scan.rowCap = some 50) ∧
    ∃ get, get.predicate = none ∧
      ∀ filter, ∃ query,
        create ⟨"c", "u", "f", some 7⟩ .single filter {} = .ok query ∧
        query.request Schema.standard ⟨"runs", 50⟩ = .ok (.get get) := by
  rcases request_asks Schema.standard ⟨"runs", 50⟩ ⟨"c", "u", "f", some 7⟩ {} with
    ⟨ranged, alone⟩
  refine ⟨rfl, rfl, ?_, ?_⟩
  · rcases ranged rfl
      { createdFrom := 5, metrics := some ⟨.and, [.group .or []]⟩, limit := some 0 } with
      ⟨query, scan, made, asked, asks⟩
    refine ⟨query, scan, made, asked, ?_⟩
    rw [asks.rowCap]
    cases made
    rfl
  · rcases alone rfl with ⟨_, get, _, _, absent, same⟩
    exact ⟨get, absent.mpr rfl, same⟩

end Query
end FlowRuns
