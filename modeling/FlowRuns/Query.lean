import FlowRuns.Pushdown
import FlowRuns.ReadError
import FlowRuns.Table.Request

namespace FlowRuns

/-!
# Queries

A query is a read whose scope has been checked.  It resolves to a request to
the store: a single read to a get of the exact key, a range read to a scan of
the keys of the flow.  Both ask for all versions, which are merged only after
the read.  A scan always carries a page limit.
-/

/-- The plan of a scan: its page limit, and a further predicate unless that
says nothing. -/
def Predicate.paged (predicate : Predicate) (limit : UInt64) : Predicate :=
  let page : Predicate := .all [.pageLimit limit]
  if predicate.isEmpty then page else page.push predicate

/-- Both of two predicates, where a group without children drops out. -/
def Predicate.both (first second : Predicate) : Predicate :=
  match first.isEmpty, second.isEmpty with
  | false, false => .all [first, second]
  | false, true => first
  | true, false => second
  | true, true => .all []

/-- The request to the store for a scope.  The scope is checked first. -/
def Request.resolve (settings : Settings) (scope : Scope) (mode : ReadMode)
    (predicate : Predicate) (limit : Option UInt64) : Except ReadError Request :=
  match scope.fault? mode with
  | some fault => .error (.ofScope fault)
  | none =>
      match mode, scope.run with
      | .single, none => .error (.ofScope .runMissing)
      | .single, some run =>
          let key := RunKey.encode ⟨scope.cluster, scope.user, scope.flow, run⟩
          let get : Get := { table := settings.table, key := key }
          .ok (.get ((get.withVersions .all).withPredicate predicate))
      | .range, _ =>
          let start := RunKey.flowStart scope.cluster scope.user scope.flow
          let scan : Scan := { table := settings.table, start := start }
          let plan := predicate.paged (settings.effectiveLimit limit)
          .ok (.scan ((scan.withVersions .all).withPredicate plan))

/-- A read of runs with a checked scope. -/
structure Query where
  scope : Scope
  mode : ReadMode
  filter : RunFilter
  selection : FieldSelection
  valid : scope.fault? mode = none

namespace Query

/-- Check the scope of a read.  Metrics that are picked are also wanted. -/
def create (scope : Scope) (mode : ReadMode) (filter : RunFilter) (selection : FieldSelection) :
    Except ReadError Query :=
  match valid : scope.fault? mode with
  | some fault => .error (.ofScope fault)
  | none => .ok ⟨scope, mode, filter, selection.augmented, valid⟩

/-- A read of one run.  It is not filtered. -/
def single (scope : Scope) (selection : FieldSelection) : Except ReadError Query :=
  create scope .single {} selection

/-- A read of the runs of a flow. -/
def range (scope : Scope) (filter : RunFilter) (selection : FieldSelection) :
    Except ReadError Query :=
  create scope .range filter selection

/-- The predicate of the read.  Restrictions apply to a range only. -/
def predicate (query : Query) (schema : Schema) : Predicate :=
  let columns := query.selection.predicate schema query.mode
  match query.mode with
  | .single => columns
  | .range => (query.filter.predicate schema).both columns

/-- The greatest number of runs that a range read returns. -/
def limit (query : Query) (settings : Settings) : UInt64 :=
  settings.effectiveLimit query.filter.limit

/-- The request to the store. -/
def request (query : Query) (schema : Schema) (settings : Settings) : Except ReadError Request :=
  Request.resolve settings query.scope query.mode (query.predicate schema) query.filter.limit

end Query
end FlowRuns
