import FlowRuns.FieldSelection
import FlowRuns.Json.Condition
import FlowRuns.Run
import FlowRuns.Settings
import FlowRuns.Table.Cell

namespace FlowRuns

/-!
# Queries and runs in JSON

The parts of a query, the settings of a reader, and runs are records.  Most
fields that are absent are written as `null`; those of a run are left out.
-/

def ReadMode.list : List ReadMode := [.single, .range]

def ReadMode.name : ReadMode → String
  | .single => "single"
  | .range => "range"

def ReadMode.toJson (mode : ReadMode) : Json := .str mode.name

def ReadMode.ofJson? : Json → Option ReadMode :=
  Json.constant? list name .plain

def VersionDepth.list : List VersionDepth := [.latest, .all]

def VersionDepth.name : VersionDepth → String
  | .latest => "latest"
  | .all => "all"

def VersionDepth.toJson (versions : VersionDepth) : Json := .str versions.name

def VersionDepth.ofJson? : Json → Option VersionDepth :=
  Json.constant? list name .plain

def Field.name : Field → String
  | .all => "ALL"
  | .info => "INFO"
  | .configs => "CONFIGS"
  | .events => "EVENTS"
  | .isRelatedTo => "IS_RELATED_TO"
  | .relatesTo => "RELATES_TO"
  | .metrics => "METRICS"

def Field.toJson (field : Field) : Json := .str field.name

def Field.ofJson? : Json → Option Field :=
  Json.constant? list name .plain

namespace Scope

def toJson (scope : Scope) : Json :=
  .obj [("cluster_id", .str scope.cluster), ("user_id", .str scope.user),
    ("flow_name", .str scope.flow), ("flow_run_id", .ofOption .ofInt64 scope.run)]

def ofJson? (json : Json) : Option Scope := do
  match ← json.fields? ["cluster_id", "user_id", "flow_name", "flow_run_id"] with
  | [cluster, user, flow, run] =>
      return ⟨← Json.required? Json.text? cluster, ← Json.required? Json.text? user,
        ← Json.required? Json.text? flow, ← Json.optional? Json.int64? run⟩
  | _ => none

end Scope

namespace RunFilter

def toJson (filter : RunFilter) : Json :=
  .obj [("created_time_begin", .ofInt64 filter.createdFrom),
    ("created_time_end", .ofInt64 filter.createdTo),
    ("metric_filters", .ofOption ConditionGroup.toJson filter.metrics),
    ("limit", .ofOption .ofUInt64 filter.limit)]

def ofJson? (json : Json) : Option RunFilter := do
  match ← json.fields? ["created_time_begin", "created_time_end", "metric_filters", "limit"] with
  | [first, last, metrics, limit] =>
      return ⟨← Json.required? Json.int64? first, ← Json.required? Json.int64? last,
        ← Json.optional? ConditionGroup.ofJson? metrics, ← Json.optional? Json.uint64? limit⟩
  | _ => none

end RunFilter

namespace FieldSet

def toJson (set : FieldSet) : Json := .arr (set.toList.map Field.toJson)

def ofJson? (json : Json) : Option FieldSet :=
  (json.list? Field.ofJson?).map ofList

end FieldSet

namespace FieldSelection

def toJson (selection : FieldSelection) : Json :=
  .obj [("fields", selection.fields.toJson),
    ("metrics_to_retrieve", .ofOption ConditionGroup.toJson selection.metrics)]

def ofJson? (json : Json) : Option FieldSelection := do
  match ← json.fields? ["fields", "metrics_to_retrieve"] with
  | [fields, metrics] =>
      return ⟨← Json.required? FieldSet.ofJson? fields,
        ← Json.optional? ConditionGroup.ofJson? metrics⟩
  | _ => none

end FieldSelection

namespace Settings

def toJson (settings : Settings) : Json :=
  .obj [("flow_run_table", .str settings.table), ("default_limit", .ofUInt64 settings.defaultLimit)]

def ofJson? (json : Json) : Option Settings := do
  match ← json.fields? ["flow_run_table", "default_limit"] with
  | [table, limit] =>
      return ⟨← Json.required? Json.text? table, ← Json.required? Json.uint64? limit⟩
  | _ => none

end Settings

namespace Metric

def toJson (metric : Metric) : Json :=
  .obj [("value", .ofInt64 metric.value), ("timestamp", .ofInt64 metric.timestamp)]

def ofJson? (json : Json) : Option Metric := do
  match ← json.fields? ["value", "timestamp"] with
  | [value, timestamp] =>
      return ⟨← Json.required? Json.int64? value, ← Json.required? Json.int64? timestamp⟩
  | _ => none

end Metric

namespace Run

/-- Metrics under their names. -/
def metricsToJson (metrics : SortedMap String Metric) : Json :=
  .obj (metrics.entries.map fun entry => (entry.1, entry.2.toJson))

/-- Metrics under their names.  Of two entries with one name the later counts. -/
def metricsOfJson? : Json → Option (SortedMap String Metric)
  | .obj entries =>
      entries.foldlM
        (fun metrics entry => (Metric.ofJson? entry.2).map (metrics.insert entry.1)) .empty
  | _ => none

/-- A field that is left out when it is absent. -/
def fieldIfPresent {α : Type} (name : String) (write : α → Json) (value : Option α) :
    List (String × Json) :=
  value.toList.map fun value => (name, write value)

/-- The fields of a run. -/
def fields (run : Run) : List (String × Json) :=
  [("user", .str run.user), ("name", .str run.flow), ("run_id", .ofInt64 run.number)] ++
    fieldIfPresent "start_time" .ofInt64 run.started ++
    fieldIfPresent "max_end_time" .ofInt64 run.ended ++
    fieldIfPresent "version" .str run.version ++
    [("metrics", metricsToJson run.metrics)]

def toJson (run : Run) : Json := .obj run.fields

def ofJson? (json : Json) : Option Run := do
  match ← json.fields? ["user", "name", "run_id", "start_time", "max_end_time", "version",
      "metrics"] with
  | [user, flow, number, started, ended, version, metrics] =>
      return ⟨← Json.required? Json.text? user, ← Json.required? Json.text? flow,
        ← Json.required? Json.int64? number, ← Json.optional? Json.int64? started,
        ← Json.optional? Json.int64? ended, ← Json.optional? Json.text? version,
        ← Json.required? metricsOfJson? metrics⟩
  | _ => none

end Run
end FlowRuns
