import FlowRuns.Proofs.FieldSelection
import FlowRuns.Proofs.RangeRead

namespace FlowRuns

/-!
# Which runs a selection returns

A range read returns a run if the store admits some cell of its row, and a cell
is admitted by restrictions and selection together.  No selection drops a start
time.  So if restrictions admit the start time of a row whenever they admit any
cell of it, the selection has no say in which runs are returned.

Restrictions on creation and on the values of metrics judge a row as a whole
and meet that condition.  A restriction on names judges each cell by its
qualifier, start times included.  It spares them if it asks how names do not
begin, and it does not if it asks how they begin.  In that case a row may be
left with cells of metrics alone, and is returned only to those who select them.
-/

variable {schema : Schema}

namespace RunFilter

/-- Whether restrictions admit some cell of a row. -/
def admitsSome (schema : Schema) (filter : RunFilter) (row : Row) : Bool :=
  row.cells.any fun cell => (filter.predicate schema).admits row cell

/-- The numbers of the rows of a flow of which restrictions admit some cell, from
the greatest to the least. -/
structure Finds (schema : Schema) (filter : RunFilter) (table : Table) (scope : Scope)
    (numbers : List Int64) : Prop where
  descending : numbers.Pairwise fun newer older => older < newer
  mem_iff : ∀ number, number ∈ numbers ↔ ∃ cells, table.find? (scope.key number) = some cells ∧
    filter.admitsSome schema ⟨scope.key number, cells⟩

/-- Numbers in descending order are determined by their membership. -/
theorem Finds.unique {filter : RunFilter} {table : Table} {scope : Scope}
    {first second : List Int64} (finds : filter.Finds schema table scope first)
    (finds' : filter.Finds schema table scope second) : first = second :=
  eq_of_descending id finds.descending finds'.descending fun number =>
    (finds.mem_iff number).trans (finds'.mem_iff number).symm

end RunFilter

namespace Reader

/-- The numbers of the runs that a range read returns. -/
def numbers (reader : Reader) (store : Store) (scope : Scope) (filter : RunFilter)
    (selection : FieldSelection) : Except ReadError (List Int64) :=
  (reader.readRuns Store.client store scope filter selection).result.map (List.map Run.number)

end Reader

namespace Reader

end Reader
end FlowRuns
