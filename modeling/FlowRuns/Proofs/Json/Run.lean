import FlowRuns.Json.Run
import FlowRuns.Proofs.Json.Condition
import FlowRuns.Proofs.SortedMap
import Mathlib.Data.Finset.Dedup

namespace FlowRuns

/-!
# Canonical forms of queries and runs

A scope, the restrictions of a range read and a selection of fields are
records, and so are metrics and runs.  Each has a canonical form: a value is
read as it was written, and whatever else is read as that value differs from
what is written only in ways that reading passes over.

Two parts of these records are no records.  A set of groups of fields is an
array, of which only the members are read, and it is written in the order of
`Field.list`.  Metrics are an object with their names as its keys.  Inserted
one after the other, the entries of a sorted map make that map again.
-/

namespace Scope

/-- The fields of a scope. -/
def slots : List Json.Slot :=
  [⟨"cluster_id", .refused⟩, ⟨"user_id", .refused⟩, ⟨"flow_name", .refused⟩,
    ⟨"flow_run_id", .null⟩]

/-- The scope that is made of its fields. -/
def build? : List (Option Json) → Option Scope
  | [cluster, user, flow, run] => do
      return ⟨← Json.required? Json.text? cluster, ← Json.required? Json.text? user,
        ← Json.required? Json.text? flow, ← Json.optional? Json.int64? run⟩
  | _ => none

theorem build?_contents : ∀ fields : List (Option Json), fields.length = slots.length →
    build? (List.zipWith Json.Slot.content slots fields) = build? fields
  | [_, _, _, _], _ => by simp [slots, build?]

theorem ofJson?_toJson (scope : Scope) : ofJson? scope.toJson = some scope := by
  change build? [some (.str scope.cluster), some (.str scope.user), some (.str scope.flow),
    some (.ofOption .ofInt64 scope.run)] = _
  rw [build?, Json.optional?_ofOption Json.int64?_ofInt64 Json.ofInt64_ne_null]
  rfl

/-- What is written is a canonical form of a scope. -/
theorem recordForm : Json.RecordForm slots toJson ofJson? := by
  refine .of_build build? (by decide) (fun _ => rfl) build?_contents ofJson?_toJson fun scope => ?_
  refine ⟨_, rfl, .refl _, ?_⟩
  cases scope.run <;>
    simp [slots, Json.member?, Json.Slot.Allows, Json.ofOption, Json.ofInt64]

end Scope

namespace RunFilter

/-- The fields of the restrictions on a range read. -/
def slots : List Json.Slot :=
  [⟨"created_time_begin", .refused⟩, ⟨"created_time_end", .refused⟩, ⟨"metric_filters", .null⟩,
    ⟨"limit", .null⟩]

/-- The restrictions that are made of their fields. -/
def build? : List (Option Json) → Option RunFilter
  | [first, last, metrics, limit] => do
      return ⟨← Json.required? Json.int64? first, ← Json.required? Json.int64? last,
        ← Json.optional? ConditionGroup.ofJson? metrics, ← Json.optional? Json.uint64? limit⟩
  | _ => none

theorem build?_contents : ∀ fields : List (Option Json), fields.length = slots.length →
    build? (List.zipWith Json.Slot.content slots fields) = build? fields
  | [_, _, _, _], _ => by simp [slots, build?]

theorem ofJson?_toJson (filter : RunFilter) : ofJson? filter.toJson = some filter := by
  change build? [some (.ofInt64 filter.createdFrom), some (.ofInt64 filter.createdTo),
    some (.ofOption ConditionGroup.toJson filter.metrics),
    some (.ofOption .ofUInt64 filter.limit)] = _
  simp only [build?, Json.required?, Option.bind_some, Json.int64?_ofInt64,
    Json.optional?_ofOption ConditionGroup.ofJson?_toJson ConditionGroup.toJson_ne_null,
    Json.optional?_ofOption Json.uint64?_ofUInt64 Json.ofUInt64_ne_null]
  rfl

/-- What is written is a canonical form of restrictions on a range read. -/
theorem recordForm : Json.RecordForm slots toJson ofJson? := by
  refine .of_build build? (by decide) (fun _ => rfl) build?_contents ofJson?_toJson fun filter => ?_
  refine ⟨_, rfl, .refl _, ?_⟩
  cases filter.metrics <;> cases filter.limit <;>
    simp [slots, Json.member?, Json.Slot.Allows, Json.ofOption, Json.ofInt64, Json.ofUInt64,
      ConditionGroup.toJson]

end RunFilter

theorem Field.canonical : Json.Canonical (Json.constantName? .plain) Field.toJson Field.ofJson? :=
  Json.canonical_constant FieldSet.mem_list (by decide) .plain

namespace FieldSet

/-- The members that an array names. -/
def members? (json : Json) : Option (Finset Field) :=
  (json.list? Field.ofJson?).map List.toFinset

theorem mapM_fields (fields : List Field) :
    (fields.map Field.toJson).mapM Field.ofJson? = some fields := by
  rw [List.mapM_map]
  have returns : Field.ofJson? ∘ Field.toJson = fun field => pure (id field) :=
    funext Field.canonical.read_write
  rw [returns, List.mapM_pure, List.map_id]
  rfl

theorem ofJson?_toJson (set : FieldSet) : ofJson? set.toJson = some set := by
  rw [ofJson?, toJson, Json.list?, mapM_fields, Option.map_some, ofList_toList]

/-- What is written is a canonical form of a set.  Neither the order in which
members are named nor how often they are is read. -/
theorem canonical : Json.Canonical members? toJson ofJson? := by
  refine .of_build (fun members => some ⟨fun field => decide (field ∈ members)⟩)
    (fun json => ?_) ofJson?_toJson
  rw [ofJson?, members?]
  cases json.list? Field.ofJson? with
  | none => rfl
  | some fields =>
      refine congrArg some (FieldSet.ext (funext fun field => ?_))
      change fields.contains field = decide (field ∈ fields.toFinset)
      rw [List.contains_eq_mem, decide_eq_decide, List.mem_toFinset]

end FieldSet

namespace FieldSelection

/-- The fields of a selection. -/
def slots : List Json.Slot :=
  [⟨"fields", .refused⟩, ⟨"metrics_to_retrieve", .null⟩]

/-- The selection that is made of its fields. -/
def build? : List (Option Json) → Option FieldSelection
  | [fields, metrics] => do
      return ⟨← Json.required? FieldSet.ofJson? fields,
        ← Json.optional? ConditionGroup.ofJson? metrics⟩
  | _ => none

theorem build?_contents : ∀ fields : List (Option Json), fields.length = slots.length →
    build? (List.zipWith Json.Slot.content slots fields) = build? fields
  | [_, _], _ => by simp [slots, build?]

theorem ofJson?_toJson (selection : FieldSelection) :
    ofJson? selection.toJson = some selection := by
  change build? [some selection.fields.toJson,
    some (.ofOption ConditionGroup.toJson selection.metrics)] = _
  simp only [build?, Json.required?, Option.bind_some, FieldSet.ofJson?_toJson,
    Json.optional?_ofOption ConditionGroup.ofJson?_toJson ConditionGroup.toJson_ne_null]
  rfl

/-- What is written is a canonical form of a selection. -/
theorem recordForm : Json.RecordForm slots toJson ofJson? := by
  refine .of_build build? (by decide) (fun _ => rfl) build?_contents ofJson?_toJson
    fun selection => ?_
  refine ⟨_, rfl, .refl _, ?_⟩
  cases selection.metrics <;>
    simp [slots, Json.member?, Json.Slot.Allows, Json.ofOption, FieldSet.toJson,
      ConditionGroup.toJson]

end FieldSelection

namespace Metric

/-- The fields of a metric. -/
def slots : List Json.Slot := [⟨"value", .refused⟩, ⟨"timestamp", .refused⟩]

/-- The metric that is made of its fields. -/
def build? : List (Option Json) → Option Metric
  | [value, timestamp] => do
      return ⟨← Json.required? Json.int64? value, ← Json.required? Json.int64? timestamp⟩
  | _ => none

theorem build?_contents : ∀ fields : List (Option Json), fields.length = slots.length →
    build? (List.zipWith Json.Slot.content slots fields) = build? fields
  | [_, _], _ => by simp [slots, build?]

theorem ofJson?_toJson (metric : Metric) : ofJson? metric.toJson = some metric := by
  change build? [some (.ofInt64 metric.value), some (.ofInt64 metric.timestamp)] = _
  simp only [build?, Json.required?, Option.bind_some, Json.int64?_ofInt64]
  rfl

/-- What is written is a canonical form of a metric. -/
theorem recordForm : Json.RecordForm slots toJson ofJson? := by
  refine .of_build build? (by decide) (fun _ => rfl) build?_contents ofJson?_toJson fun metric => ?_
  refine ⟨_, rfl, .refl _, ?_⟩
  simp [slots, Json.member?, Json.Slot.Allows, Json.ofInt64]

end Metric

namespace Run

/-- The fields of a run. -/
def slots : List Json.Slot :=
  [⟨"user", .refused⟩, ⟨"name", .refused⟩, ⟨"run_id", .refused⟩, ⟨"start_time", .leftOut⟩,
    ⟨"max_end_time", .leftOut⟩, ⟨"version", .leftOut⟩, ⟨"metrics", .refused⟩]

/-- The run that is made of its fields. -/
def build? : List (Option Json) → Option Run
  | [user, flow, number, started, ended, version, metrics] => do
      return ⟨← Json.required? Json.text? user, ← Json.required? Json.text? flow,
        ← Json.required? Json.int64? number, ← Json.optional? Json.int64? started,
        ← Json.optional? Json.int64? ended, ← Json.optional? Json.text? version,
        ← Json.required? metricsOfJson? metrics⟩
  | _ => none

theorem build?_contents : ∀ fields : List (Option Json), fields.length = slots.length →
    build? (List.zipWith Json.Slot.content slots fields) = build? fields
  | [_, _, _, _, _, _, _], _ => by simp [slots, build?]

theorem foldlM_metrics (entries : List (String × Metric)) (kept : SortedMap String Metric) :
    (entries.map fun entry => (entry.1, entry.2.toJson)).foldlM
        (fun metrics entry => (Metric.ofJson? entry.2).map (metrics.insert entry.1)) kept =
      some (entries.foldl (fun metrics entry => metrics.insert entry.1 entry.2) kept) := by
  induction entries generalizing kept with
  | nil => rfl
  | cons entry rest inductionHypothesis =>
      rw [List.map_cons, List.foldlM_cons, Metric.ofJson?_toJson, List.foldl_cons,
        ← inductionHypothesis]
      rfl

theorem metricsOfJson?_metricsToJson (metrics : SortedMap String Metric) :
    metricsOfJson? (metricsToJson metrics) = some metrics := by
  rw [metricsToJson, metricsOfJson?, foldlM_metrics, SortedMap.foldl_insert_entries]

/-- What stands in the fields of a run as it is written. -/
theorem fields?_toJson (run : Run) :
    run.toJson.fields? (slots.map Json.Slot.name) =
      some [some (.str run.user), some (.str run.flow), some (.ofInt64 run.number),
        run.started.map .ofInt64, run.ended.map .ofInt64, run.version.map .str,
        some (metricsToJson run.metrics)] := by
  rcases run with ⟨user, flow, number, started, ended, version, metrics⟩
  cases started <;> cases ended <;> cases version <;> rfl

theorem ofJson?_toJson (run : Run) : ofJson? run.toJson = some run := by
  change (run.toJson.fields? (slots.map Json.Slot.name)).bind build? = _
  rw [fields?_toJson]
  simp only [Option.bind_some, build?, Json.required?, Json.int64?_ofInt64,
    metricsOfJson?_metricsToJson, Json.optional?_map Json.int64?_ofInt64 Json.ofInt64_ne_null,
    @Json.optional?_map String .str Json.text? (fun _ => rfl) Json.str_ne_null]
  rfl

/-- A field that may be left out stands under its name or not at all. -/
theorem map_fst_fieldIfPresent {α : Type} (name : String) (write : α → Json) (value : Option α) :
    ((fieldIfPresent name write value).map Prod.fst).Sublist [name] := by
  cases value with
  | none => exact List.nil_sublist _
  | some value => exact .refl _

/-- What is written is a canonical form of a run. -/
theorem recordForm : Json.RecordForm slots toJson ofJson? := by
  refine .of_build build? (by decide) (fun _ => rfl) build?_contents ofJson?_toJson fun run => ?_
  refine ⟨_, rfl, ?_, ?_⟩
  · rw [fields, List.map_append, List.map_append, List.map_append, List.map_append]
    have named := List.Sublist.refl ["user", "name", "run_id"]
    exact (((named.append (map_fst_fieldIfPresent _ _ _)).append
      (map_fst_fieldIfPresent _ _ _)).append (map_fst_fieldIfPresent _ _ _)).append (.refl _)
  · have shown := Option.some.inj (fields?_toJson run)
    simp only [slots, List.map_cons, List.map_nil, List.cons.injEq] at shown
    simp only [slots, List.forall_mem_cons, List.not_mem_nil, shown]
    cases run.started <;> cases run.ended <;> cases run.version <;>
      simp [Json.Slot.Allows, Json.ofInt64, metricsToJson]

end Run

/-- Everything that makes up a query, and every run, has a canonical form in
JSON.  Conditions have it wherever they stand.  Sets of groups of fields are
written without repetition and in the order of `Field.list`. -/
theorem Json.canonical_forms :
    RecordForm Scope.slots Scope.toJson Scope.ofJson? ∧
    (∀ position, TaggedForm Condition.Kind.list Condition.Kind.name Condition.Kind.slots position
      Condition.toJson (Condition.ofJson? position)) ∧
    RecordForm ConditionGroup.slots ConditionGroup.toJson ConditionGroup.ofJson? ∧
    RecordForm RunFilter.slots RunFilter.toJson RunFilter.ofJson? ∧
    RecordForm FieldSelection.slots FieldSelection.toJson FieldSelection.ofJson? ∧
    Canonical FieldSet.members? FieldSet.toJson FieldSet.ofJson? ∧
    (∀ set : FieldSet, ∃ fields : List Field, set.toJson = .arr (fields.map Field.toJson) ∧
      fields.Sublist Field.list ∧ ∀ field, field ∈ fields ↔ set.holds field) ∧
    RecordForm Metric.slots Metric.toJson Metric.ofJson? ∧
    RecordForm Run.slots Run.toJson Run.ofJson? := by
  refine ⟨Scope.recordForm, Condition.taggedForm, ConditionGroup.recordForm, RunFilter.recordForm,
    FieldSelection.recordForm, FieldSet.canonical, fun set => ?_, Metric.recordForm,
    Run.recordForm⟩
  refine ⟨set.toList, rfl, List.filter_sublist, fun field => ?_⟩
  rw [FieldSet.toList, List.mem_filter]
  exact and_iff_right (FieldSet.mem_list field)

/-- An array, a constant as an object and a member that is not known. -/
example :
    (ConditionGroup.ofJson? (.arr [.obj [("or", .null)], .arr []])).map ConditionGroup.toJson =
        some (.obj [("operator", .str "or"), ("filters", .arr [])]) ∧
      (FieldSelection.ofJson? (.obj [("note", .null),
          ("fields", .arr [.str "METRICS", .str "INFO", .str "METRICS"])])).map
          FieldSelection.toJson =
        some (.obj [("fields", .arr [.str "INFO", .str "METRICS"]),
          ("metrics_to_retrieve", .null)]) :=
  ⟨rfl, rfl⟩

end FlowRuns
