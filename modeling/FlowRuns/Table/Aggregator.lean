import FlowRuns.Table.Cell

namespace FlowRuns

/-!
# Aggregating the versions of a column

A column of numbers reports one number for all of its versions.  They are
merged two at a time, oldest first, so what a merge keeps of the older value
and of the newer one is the aggregator's own choice.
-/

/-- A named way to merge an older number with a newer one. -/
structure Aggregator where
  name : String
  merge : (existing incoming : Int64) → Int64

namespace Aggregator

/-- Addition that stops at the least and at the greatest 64-bit number. -/
def sum : Aggregator where
  name := "sum"
  merge := fun existing incoming => Int64.ofIntClamp (existing.toInt + incoming.toInt)

def min : Aggregator where
  name := "min"
  merge := fun existing incoming => if incoming < existing then incoming else existing

def max : Aggregator where
  name := "max"
  merge := fun existing incoming => if existing < incoming then incoming else existing

def lastWriteWins : Aggregator where
  name := "last_write_wins"
  merge := fun _ incoming => incoming

end Aggregator

/-- A number and the time it was written at. -/
structure Version where
  timestamp : Int64
  value : Int64
  deriving DecidableEq

namespace Version

/-- A version moves ahead of those before it only if it is strictly older. -/
def oldestFirst (versions : List Version) : List Version :=
  versions.mergeSort fun first second => first.timestamp ≤ second.timestamp

/-- The version that a cell stores, if its value is a number. -/
def ofCell? (cell : Cell) : Option Version :=
  (Long.decode? cell.value).map fun value => ⟨cell.timestamp, value⟩

/-- The versions among some cells. -/
def ofCells (cells : List Cell) : List Version :=
  cells.filterMap ofCell?

end Version

namespace Aggregator

/-- Merge one more version into what older ones came to. -/
def extend (aggregator : Aggregator) (merged next : Version) : Version :=
  ⟨next.timestamp, aggregator.merge merged.value next.value⟩

/-- What some versions come to, with the newest timestamp among them.  Where
timestamps are equal the version listed first counts as the older one. -/
def fold (aggregator : Aggregator) (versions : List Version) : Option Version :=
  match Version.oldestFirst versions with
  | [] => none
  | oldest :: newer => some (newer.foldl aggregator.extend oldest)

/-- What the numbers among some cells come to. -/
def foldCells (aggregator : Aggregator) (cells : List Cell) : Option Int64 :=
  (aggregator.fold (Version.ofCells cells)).map Version.value

end Aggregator
end FlowRuns
