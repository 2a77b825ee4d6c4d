import FlowRuns.Proofs.Condition
import FlowRuns.Proofs.Key.RunKey
import FlowRuns.Proofs.Table.Groups
import FlowRuns.Query

namespace FlowRuns

/-!
# What a query asks the store for

A range read sends one scan over the keys of its flow.  Its plan admits what
restrictions and columns both admit, and bounds the scan by the limit of the
read and by nothing else.  A single read sends one get of an exact key.
-/

namespace Predicate

@[simp]
theorem isEmpty_paged (predicate : Predicate) (limit : UInt64) :
    (predicate.paged limit).isEmpty = false := by
  unfold paged
  split <;> rfl

/-- A page limit admits everything. -/
theorem admits_paged (predicate : Predicate) (limit : UInt64) (row : Row) (cell : Cell) :
    (predicate.paged limit).admits row cell = predicate.admits row cell := by
  unfold paged
  split
  · next silent =>
      rw [admits_of_isEmpty silent]
      rfl
  · rw [push, List.singleton_append, admits_all, List.all_cons, List.all_cons, List.all_nil,
      Bool.and_true, admits, Bool.true_and]

theorem pageBound_of_isEmpty {predicate : Predicate} (silent : predicate.isEmpty) :
    predicate.pageBound = none := by
  cases predicate with
  | all children =>
      rw [List.isEmpty_iff.mp silent]
      rfl
  | any children => rfl
  | family | qualifier | value | pageLimit => cases silent

/-- A plan is bounded by its page limit, and by the rest if that is tighter. -/
theorem pageBound_paged (predicate : Predicate) (limit : UInt64) :
    (predicate.paged limit).pageBound = tighter (some limit) predicate.pageBound := by
  unfold paged
  split
  · next silent =>
      rw [pageBound_of_isEmpty silent]
      rfl
  · rw [push, List.singleton_append, pageBound, leastPageBound, leastPageBound, leastPageBound,
      pageBound, tighter_none_right]

theorem admits_both (first second : Predicate) (row : Row) (cell : Cell) :
    (first.both second).admits row cell = (first.admits row cell && second.admits row cell) := by
  unfold both
  cases silent : first.isEmpty with
  | false =>
      cases silent' : second.isEmpty with
      | false =>
          simp only
          rw [admits_all, List.all_cons, List.all_cons, List.all_nil, Bool.and_true]
      | true =>
          simp only
          rw [admits_of_isEmpty silent', Bool.and_true]
  | true =>
      cases silent' : second.isEmpty with
      | false =>
          simp only
          rw [admits_of_isEmpty silent, Bool.true_and]
      | true =>
          simp only
          rw [admits_of_isEmpty silent, admits_of_isEmpty silent', admits_all]
          rfl

theorem pageBound_both {first second : Predicate} (unbounded : first.pageBound = none)
    (unbounded' : second.pageBound = none) : (first.both second).pageBound = none := by
  unfold both
  cases first.isEmpty <;> cases second.isEmpty <;> simp only
  · rw [pageBound, leastPageBound, leastPageBound, unbounded, unbounded']
    rfl
  · exact unbounded
  · exact unbounded'
  · rfl

end Predicate

/-! ## Restrictions and columns bound no page -/

theorem RunFilter.pageBound_predicate (schema : Schema) (filter : RunFilter) :
    (filter.predicate schema).pageBound = none := by
  have metrics : Predicate.leastPageBound
      (filter.metricConditions.toList.map (ConditionGroup.predicate schema)) = none := by
    cases filter.metricConditions with
    | none => rfl
    | some group =>
        rw [Option.toList_some, List.map_singleton, Predicate.leastPageBound,
          ConditionGroup.predicate_asCondition, Condition.pageBound_predicate]
        rfl
  rw [predicate, Predicate.pageBound]
  cases filter.restrictsCreation with
  | false => exact metrics
  | true =>
      rw [if_pos rfl, List.singleton_append, Predicate.leastPageBound, metrics]
      rfl

theorem FieldSelection.pageBound_predicate (schema : Schema) (selection : FieldSelection)
    (mode : ReadMode) : (selection.predicate schema mode).pageBound = none := by
  unfold predicate
  split <;> rfl

/-! ## Requests -/

namespace Scope

/-- The key of a run of the flow. -/
def key (scope : Scope) (number : Int64) : Bytes :=
  RunKey.encode ⟨scope.cluster, scope.user, scope.flow, number⟩

/-- The beginning of the keys of the flow. -/
def start (scope : Scope) : Bytes :=
  RunKey.flowStart scope.cluster scope.user scope.flow

theorem start_prefix_key (scope : Scope) (number : Int64) : scope.start <+: scope.key number :=
  RunKey.flowStart_prefix_encode ⟨scope.cluster, scope.user, scope.flow, number⟩

theorem decode_key (scope : Scope) (number : Int64) :
    RunKey.decode (scope.key number) = .ok ⟨scope.cluster, scope.user, scope.flow, number⟩ :=
  RunKey.decode_encode _

theorem key_of_decode {scope : Scope} {raw : Bytes} {key : RunKey} (begins : scope.start <+: raw)
    (read : RunKey.decode raw = .ok key) : scope.key key.run = raw :=
  RunKey.encode_of_prefix begins read

theorem fault?_withRun {scope : Scope} (valid : scope.fault? .range = none) (run : Int64) :
    (scope.withRun run).fault? .single = none := by
  unfold fault? withRun at *
  split at valid
  · cases valid
  · split at valid
    · cases valid
    · split at valid
      · cases valid
      · next cluster user flow => simp [cluster, user, flow]

/-- A single read without a fault is for some run. -/
theorem exists_run {scope : Scope} (valid : scope.fault? .single = none) :
    ∃ run, scope.run = some run := by
  apply Option.ne_none_iff_exists'.mp
  intro missing
  unfold fault? at valid
  simp only [missing, and_self, if_true] at valid
  split at valid
  · cases valid
  · split at valid
    · cases valid
    · split at valid <;> cases valid

end Scope

/-- In a valid scope every predicate has a scan of the flow, which puts it behind
the limit that holds. -/
theorem Request.resolve_range (settings : Settings) {scope : Scope}
    (valid : scope.fault? .range = none) (predicate : Predicate) (limit : Option UInt64) :
    Request.resolve settings scope .range predicate limit = .ok (.scan
      { table := settings.table
        start := scope.start
        predicate := some (predicate.paged (settings.effectiveLimit limit))
        versions := .all }) := by
  rw [resolve, valid]
  simp only
  rw [Scan.withPredicate, Predicate.nonempty?, Predicate.isEmpty_paged]
  rfl

namespace Query

variable (schema : Schema) (settings : Settings)

theorem create_eq {scope : Scope} {mode : ReadMode} (valid : scope.fault? mode = none)
    (filter : RunFilter) (selection : FieldSelection) :
    create scope mode filter selection = .ok ⟨scope, mode, filter, selection.augmented, valid⟩ := by
  unfold create
  split
  · next fault found =>
      rw [valid] at found
      cases found
  · rfl

theorem create_eq_error {scope : Scope} {mode : ReadMode} {fault : Scope.Fault}
    (invalid : scope.fault? mode = some fault) (filter : RunFilter) (selection : FieldSelection) :
    create scope mode filter selection = .error (.ofScope fault) := by
  unfold create
  split
  · next fault' found =>
      rw [invalid] at found
      cases found
      rfl
  · next valid =>
      rw [invalid] at valid
      cases valid

/-- The further predicate of a range read, with its page limit. -/
def plan (query : Query) : Predicate :=
  ((query.filter.predicate schema).both (query.selection.predicate schema .range)).paged
    (query.limit settings)

/-- The scan that a range read sends. -/
def scan (query : Query) : Scan where
  table := settings.table
  start := query.scope.start
  predicate := some (query.plan schema settings)
  versions := .all

theorem request_range (query : Query) (ranged : query.mode = .range) :
    query.request schema settings = .ok (.scan (query.scan schema settings)) := by
  have valid := query.valid
  rw [ranged] at valid
  rw [request, predicate, ranged]
  exact Request.resolve_range settings valid _ query.filter.limit

/-- Only a range read sends a scan. -/
theorem of_request_scan {schema : Schema} {settings : Settings} {query : Query} {scan : Scan}
    (asked : query.request schema settings = .ok (.scan scan)) :
    query.mode = .range ∧ scan = query.scan schema settings := by
  cases mode : query.mode with
  | single =>
      have valid := query.valid
      rw [mode] at valid
      unfold request Request.resolve at asked
      rw [mode, valid] at asked
      cases chosen : query.scope.run with
      | none =>
          rw [chosen] at asked
          cases asked
      | some run =>
          rw [chosen] at asked
          cases asked
  | range =>
      rw [query.request_range schema settings mode] at asked
      cases asked
      exact ⟨rfl, rfl⟩

theorem rowCap_scan (query : Query) :
    (query.scan schema settings).rowCap = some (query.limit settings) := by
  have unbounded := Predicate.pageBound_both (query.filter.pageBound_predicate schema)
    (query.selection.pageBound_predicate schema .range)
  refine (Predicate.pageBound_paged _ (query.limit settings)).trans ?_
  rw [unbounded, Predicate.tighter_none_right]

theorem allows_plan (query : Query) (row : Row) (cell : Cell) :
    Predicate.allows (some (query.plan schema settings)) row cell =
      ((query.filter.predicate schema).admits row cell &&
        (query.selection.predicate schema .range).admits row cell) := by
  rw [Predicate.allows, Option.all_some, plan, Predicate.admits_paged, Predicate.admits_both]

theorem request_single (query : Query) (alone : query.mode = .single) {run : Int64}
    (chosen : query.scope.run = some run) :
    query.request schema settings = .ok (.get
      { table := settings.table
        key := query.scope.key run
        predicate := (query.selection.predicate schema .single).nonempty?
        versions := .all }) := by
  have valid := query.valid
  rw [alone] at valid
  unfold request Request.resolve predicate
  rw [alone, valid, chosen]
  rfl

/-- A query asks for one row of its flow or for the rows of its flow, and for
nothing else. -/
theorem request_cases (query : Query) :
    (∃ get, query.request schema settings = .ok (.get get) ∧ get.table = settings.table ∧
      query.scope.start <+: get.key) ∨
    query.request schema settings = .ok (.scan (query.scan schema settings)) := by
  cases mode : query.mode with
  | single =>
      have valid := query.valid
      rw [mode] at valid
      rcases Scope.exists_run valid with ⟨run, chosen⟩
      exact .inl ⟨_, query.request_single schema settings mode chosen, rfl,
        query.scope.start_prefix_key run⟩
  | range => exact .inr (query.request_range schema settings mode)

end Query
end FlowRuns
