import FlowRuns.Table.Predicate

namespace FlowRuns

/-!
# Read requests

A table is read one row at a time by exact key, or as a scan over all keys
that begin alike.
-/

/-- The predicate to send along, if any.  A group without children says
nothing and is left out. -/
def Predicate.nonempty? (predicate : Predicate) : Option Predicate :=
  if predicate.isEmpty then none else some predicate

/-- A read of the row with an exact key. -/
structure Get where
  table : String
  key : Bytes
  predicate : Option Predicate := none
  versions : VersionDepth := .latest

namespace Get

/-- The same read under another predicate. -/
def withPredicate (get : Get) (predicate : Predicate) : Get :=
  { get with predicate := predicate.nonempty? }

/-- The same read to another depth of versions. -/
def withVersions (get : Get) (versions : VersionDepth) : Get :=
  { get with versions := versions }

end Get

/-- A read of all rows whose key begins with `start`. -/
structure Scan where
  table : String
  start : Bytes
  predicate : Option Predicate := none
  versions : VersionDepth := .latest

namespace Scan

/-- The same scan under another predicate. -/
def withPredicate (scan : Scan) (predicate : Predicate) : Scan :=
  { scan with predicate := predicate.nonempty? }

/-- The same scan to another depth of versions. -/
def withVersions (scan : Scan) (versions : VersionDepth) : Scan :=
  { scan with versions := versions }

/-- The greatest number of rows that the scan returns, if it is bounded. -/
def rowCap (scan : Scan) : Option UInt64 :=
  scan.predicate.bind Predicate.pageBound

/-- Whether a scan that has found some rows returns no further one. -/
def isFull (scan : Scan) (found : Nat) : Bool :=
  scan.rowCap.any fun cap => cap.toNat ≤ found

end Scan

/-- A read of either kind. -/
inductive Request where
  | get (get : Get)
  | scan (scan : Scan)

end FlowRuns
