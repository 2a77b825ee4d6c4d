import FlowRuns.Query
import FlowRuns.RunRow
import FlowRuns.Table.Client

namespace FlowRuns

/-!
# Reading runs

A reader checks what it is asked, sends one request to the store and makes
runs of the rows that come back.  Rows without a cell are passed over.  Of the
items of a scan it pulls no more than it needs: it stops when it has as many
runs as the limit allows, when the items end, or at the first one at fault.
-/

/-- Where a reader reads, and how it makes runs of rows. -/
structure Reader where
  settings : Settings := {}
  schema : Schema := Schema.standard

/-- The outcome of a read: its result, the state of the store after it, and
the number of scan items that were pulled. -/
structure Reading (α σ : Type) where
  result : Except ReadError α
  state : σ
  pulled : Nat := 0

/-- The same reading with its result changed. -/
def Reading.map {α β σ : Type} (change : α → β) (reading : Reading α σ) : Reading β σ where
  result := reading.result.map change
  state := reading.state
  pulled := reading.pulled

namespace Reader

/-- Make runs of the items of a scan, at most `limit` of them, and count the
items pulled. -/
def collect (parse : Row → Except ReadError Run) :
    (limit : Nat) → List ScanItem → Except ReadError (List Run) × Nat
  | 0, _ => (.ok [], 0)
  | _ + 1, [] => (.ok [], 0)
  | _ + 1, .error fault :: _ => (.error (.store fault), 1)
  | limit + 1, .ok row :: rest =>
      if row.isEmpty then
        let (runs, pulled) := collect parse (limit + 1) rest
        (runs, pulled + 1)
      else
        match parse row with
        | .error error => (.error error, 1)
        | .ok run =>
            let (runs, pulled) := collect parse limit rest
            (runs.map (run :: ·), pulled + 1)

/-- The run of the row that a get answers with, if it has a cell. -/
def ofAnswer (parse : Row → Except ReadError Run) :
    Except StoreFault (Option Row) → Except ReadError (List Run)
  | .error fault => .error (.store fault)
  | .ok none => .ok []
  | .ok (some row) => if row.isEmpty then .ok [] else (parse row).map fun run => [run]

/-- The run that a row gives under a query. -/
def parse (reader : Reader) (query : Query) : Row → Except ReadError Run :=
  Run.ofRow reader.schema query.scope query.mode query.selection

/-- Send the request of a query and make runs of the answer. -/
def execute {σ : Type} (reader : Reader) (client : Client σ) (state : σ) (query : Query) :
    Reading (List Run) σ :=
  match query.request reader.schema reader.settings with
  | .error error => { result := .error error, state := state }
  | .ok (.get get) =>
      let (answer, next) := client.get state get
      { result := ofAnswer (reader.parse query) answer, state := next }
  | .ok (.scan scan) =>
      match client.scan state scan with
      | (.error fault, next) => { result := .error (.store fault), state := next }
      | (.ok items, next) =>
          let (runs, pulled) :=
            collect (reader.parse query) (query.limit reader.settings).toNat items
          { result := runs, state := next, pulled := pulled }

/-- Execute a query, unless there is none for an error. -/
def executeChecked {σ : Type} (reader : Reader) (client : Client σ) (state : σ) :
    Except ReadError Query → Reading (List Run) σ
  | .error error => { result := .error error, state := state }
  | .ok query => reader.execute client state query

/-- Read one run.  There is none if the row is absent or has no cell left. -/
def readRun {σ : Type} (reader : Reader) (client : Client σ) (state : σ) (scope : Scope)
    (selection : FieldSelection) : Reading (Option Run) σ :=
  (reader.executeChecked client state (Query.single scope selection)).map List.head?

/-- Read the newest runs of a flow. -/
def readRuns {σ : Type} (reader : Reader) (client : Client σ) (state : σ) (scope : Scope)
    (filter : RunFilter) (selection : FieldSelection) : Reading (List Run) σ :=
  reader.executeChecked client state (Query.range scope filter selection)

end Reader
end FlowRuns
