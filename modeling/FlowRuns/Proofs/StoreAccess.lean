import FlowRuns.Proofs.Query
import FlowRuns.Reader

namespace FlowRuns

/-!
# What a reader learns from its store

A reader sends its store one request, or none if the scope is at fault.  The
request is about keys of the flow in the table of the settings.  So the result
of a read depends on the store as far as it answers such requests, and it is
the same in two states that answer them alike.
-/

theorem Store.client_get (store : Store) (get : Get) :
    Store.client.get store get = store.get get := rfl

/-- The scans of a store in memory yield the rows that it found. -/
theorem Store.client_scan (store : Store) (scan : Scan) :
    Store.client.scan store scan =
      ((store.scan scan).1.map fun rows => rows.map .ok, (store.scan scan).2) := rfl

/-- A client answers what is asked about the keys of a table that begin alike
in two states in the same way. -/
structure Client.AnswersAlike {σ : Type} (client : Client σ) (name : String) (start : Bytes)
    (state state' : σ) : Prop where
  get : ∀ get : Get, get.table = name → start <+: get.key →
    (client.get state get).1 = (client.get state' get).1
  scan : ∀ scan : Scan, scan.table = name → scan.start = start →
    (client.scan state scan).1 = (client.scan state' scan).1

namespace Reader

variable {σ : Type} {client : Client σ} {state state' : σ}

/-- The runs of the items that a scan answers with, if it opens. -/
def ofItems (parse : Row → Except ReadError Run) (limit : Nat) :
    Except StoreFault (List ScanItem) → Except ReadError (List Run)
  | .error fault => .error (.store fault)
  | .ok items => (collect parse limit items).1

/-! ## Queries -/

/-- The outcome of a query that asks for a row. -/
theorem execute_get (reader : Reader) (client : Client σ) (state : σ) {query : Query} {get : Get}
    (asked : query.request reader.schema reader.settings = .ok (.get get)) :
    (reader.execute client state query).result =
        ofAnswer (reader.parse query) (client.get state get).1 ∧
      (reader.execute client state query).state = (client.get state get).2 := by
  rw [execute, asked]
  exact ⟨rfl, rfl⟩

/-- The outcome of a query that asks for the rows of a scan. -/
theorem execute_scan (reader : Reader) (client : Client σ) (state : σ) {query : Query} {scan : Scan}
    (asked : query.request reader.schema reader.settings = .ok (.scan scan)) :
    (reader.execute client state query).result =
        ofItems (reader.parse query) (query.limit reader.settings).toNat
          (client.scan state scan).1 ∧
      (reader.execute client state query).state = (client.scan state scan).2 := by
  rw [execute, asked]
  rcases answered : client.scan state scan with ⟨answer, next⟩
  cases answer with
  | error fault => simp only [answered, ofItems, and_self]
  | ok items => simp only [answered, ofItems, and_self]

/-! ## Scopes -/

section Scopes

variable (reader : Reader) (client : Client σ) (state : σ) {scope : Scope} {fault : Scope.Fault}

/-- A single read in a scope without fault executes one query. -/
theorem readRun_eq (valid : scope.fault? .single = none) (selection : FieldSelection) :
    reader.readRun client state scope selection =
      (reader.execute client state ⟨scope, .single, {}, selection.augmented, valid⟩).map
        List.head? := by
  rw [readRun, Query.single, Query.create_eq valid, executeChecked]

/-- A single read in a scope at fault is refused. -/
theorem readRun_of_fault (invalid : scope.fault? .single = some fault)
    (selection : FieldSelection) :
    reader.readRun client state scope selection =
      { result := .error (.ofScope fault), state := state } := by
  rw [readRun, Query.single, Query.create_eq_error invalid, executeChecked]
  rfl

/-- A range read in a scope without fault executes one query. -/
theorem readRuns_eq (valid : scope.fault? .range = none) (filter : RunFilter)
    (selection : FieldSelection) :
    reader.readRuns client state scope filter selection =
      reader.execute client state ⟨scope, .range, filter, selection.augmented, valid⟩ := by
  rw [readRuns, Query.range, Query.create_eq valid, executeChecked]

/-- A range read in a scope at fault is refused. -/
theorem readRuns_of_fault (invalid : scope.fault? .range = some fault) (filter : RunFilter)
    (selection : FieldSelection) :
    reader.readRuns client state scope filter selection =
      { result := .error (.ofScope fault), state := state } := by
  rw [readRuns, Query.range, Query.create_eq_error invalid, executeChecked]

end Scopes

/-! ## Results in two states -/

theorem execute_result_eq (reader : Reader) {query : Query}
    (alike : client.AnswersAlike reader.settings.table query.scope.start state state') :
    (reader.execute client state query).result = (reader.execute client state' query).result := by
  rcases query.request_cases reader.schema reader.settings with ⟨get, asked, own, begins⟩ | asked
  · rw [(reader.execute_get client state asked).1, (reader.execute_get client state' asked).1,
      alike.get get own begins]
  · rw [(reader.execute_scan client state asked).1, (reader.execute_scan client state' asked).1,
      alike.scan _ rfl rfl]

theorem readRun_result_eq (reader : Reader) {scope : Scope}
    (alike : client.AnswersAlike reader.settings.table scope.start state state')
    (selection : FieldSelection) :
    (reader.readRun client state scope selection).result =
      (reader.readRun client state' scope selection).result := by
  cases checked : scope.fault? .single with
  | some fault => rw [readRun_of_fault _ _ _ checked, readRun_of_fault _ _ _ checked]
  | none =>
      rw [readRun_eq _ _ _ checked, readRun_eq _ _ _ checked]
      exact congrArg (Except.map List.head?) (reader.execute_result_eq alike)

theorem readRuns_result_eq (reader : Reader) {scope : Scope}
    (alike : client.AnswersAlike reader.settings.table scope.start state state')
    (filter : RunFilter) (selection : FieldSelection) :
    (reader.readRuns client state scope filter selection).result =
      (reader.readRuns client state' scope filter selection).result := by
  cases checked : scope.fault? .range with
  | some fault => rw [readRuns_of_fault _ _ _ checked, readRuns_of_fault _ _ _ checked]
  | none =>
      rw [readRuns_eq _ _ _ checked, readRuns_eq _ _ _ checked]
      exact reader.execute_result_eq alike

end Reader
end FlowRuns
