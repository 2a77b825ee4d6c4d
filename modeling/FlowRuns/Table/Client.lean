import FlowRuns.Table.Store

namespace FlowRuns

/-!
# Store clients

A reader sees a store through two operations.  A scan, once it is open, is a
finite stream, and each item of it is a row or a fault.
-/

/-- One item of an open scan. -/
abbrev ScanItem := Except StoreFault Row

/-- A way to reach a store whose state is a `σ`. -/
structure Client (σ : Type) where
  get : σ → Get → Except StoreFault (Option Row) × σ
  scan : σ → Scan → Except StoreFault (List ScanItem) × σ

/-- The store in memory.  Its scans either fail to open or yield rows only. -/
def Store.client : Client Store where
  get := Store.get
  scan := fun store scan =>
    let (answer, next) := store.scan scan
    (answer.map fun rows => rows.map .ok, next)

end FlowRuns
