import FlowRuns.Proofs.Pushdown
import FlowRuns.Proofs.Table.Folding

namespace FlowRuns

/-!
# The time a run started at

A run started at the least number that is stored in its column of start times.
Values in that column that are no numbers count for nothing, neither for the run
nor for the store, and a column with no other values is as good as an empty one.
A restriction on creation times therefore admits the whole of a row or none of
it, by the very time that a run made of the row reports.
-/

/-- The least number that is stored in a column of a row. -/
structure Row.LeastNumber (row : Row) (column : Column) (number : Int64) : Prop where
  stored : ∃ cell ∈ row.cells, cell.column = column ∧ Long.decode? cell.value = some number
  least : ∀ cell ∈ row.cells, cell.column = column →
    ∀ other, Long.decode? cell.value = some other → number ≤ other

theorem Version.exists_mem_ofCells_iff {cells : List Cell} {number : Int64} :
    (∃ version ∈ ofCells cells, version.value = number) ↔
      ∃ cell ∈ cells, Long.decode? cell.value = some number := by
  constructor
  · rintro ⟨version, member, rfl⟩
    rcases List.mem_filterMap.mp member with ⟨cell, listed, read⟩
    rcases Option.map_eq_some_iff.mp read with ⟨value, decoded, rfl⟩
    exact ⟨cell, listed, decoded⟩
  · rintro ⟨cell, listed, decoded⟩
    refine ⟨⟨cell.timestamp, number⟩, List.mem_filterMap.mpr ⟨cell, listed, ?_⟩, rfl⟩
    rw [ofCell?, decoded, Option.map_some]

/-! ## The reported time -/

namespace Run

variable {schema : Schema}

theorem started_eq (row : Row) :
    fixedNumber schema row .started =
      Aggregator.min.foldCells (row.stored (schema.fixed .started)) :=
  fixedNumber_of_aggregator rfl row

/-- The time that is made of a row is the least number in its column. -/
theorem leastNumber_of_started {row : Row} {time : Int64}
    (started : fixedNumber schema row .started = some time) :
    row.LeastNumber (schema.fixed .started) time := by
  rw [started_eq, Aggregator.foldCells] at started
  rcases Option.map_eq_some_iff.mp started with ⟨merged, folded, rfl⟩
  have least := Aggregator.value_fold_min (Version.ofCells (row.stored (schema.fixed .started)))
  rw [folded, Option.map_some, eq_comm, List.min?_eq_some_iff] at least
  rcases least with ⟨present, below⟩
  constructor
  · rcases Version.exists_mem_ofCells_iff.mp (List.mem_map.mp present)
      with ⟨cell, member, decoded⟩
    exact ⟨cell, (Row.mem_stored.mp member).1, (Row.mem_stored.mp member).2, decoded⟩
  · intro cell listed own other decoded
    rcases Version.exists_mem_ofCells_iff.mpr ⟨cell, Row.mem_stored.mpr ⟨listed, own⟩, decoded⟩
      with ⟨version, member, rfl⟩
    exact below version.value (List.mem_map_of_mem member)

theorem started_eq_some_iff {row : Row} {time : Int64} :
    fixedNumber schema row .started = some time ↔
      row.LeastNumber (schema.fixed .started) time := by
  constructor
  · exact leastNumber_of_started
  · rintro ⟨⟨cell, listed, own, decoded⟩, least⟩
    -- A number is stored, so there is a time, and two least numbers are the same.
    cases started : fixedNumber schema row .started with
    | none =>
        rw [started_eq, Aggregator.foldCells_eq_none_iff] at started
        rcases Version.exists_mem_ofCells_iff.mpr ⟨cell, Row.mem_stored.mpr ⟨listed, own⟩, decoded⟩
          with ⟨version, member, _⟩
        rw [started] at member
        exact absurd member List.not_mem_nil
    | some earliest =>
        rcases leastNumber_of_started started with ⟨⟨cell', listed', own', decoded'⟩, least'⟩
        rw [Int64.le_antisymm (least' cell listed own time decoded)
          (least cell' listed' own' earliest decoded')]

end Run

namespace Schema

/-- A restriction on creation times judges a row by the time that its run
reports, which is the least number in the column of start times.  It admits every
cell of the row if there is such a time and it lies between the bounds, both
included, and otherwise it admits none. -/
theorem createdBetween_agrees (schema : Schema) (scope : Scope) (number : Int64)
    (selection : FieldSelection) (row : Row) :
    ∃ run, Run.ofRow schema (scope.withRun number) .single selection row = .ok run ∧
      (∀ time, run.started = some time ↔ row.LeastNumber (schema.fixed .started) time) ∧
      ∀ first last cell, (schema.createdBetween first last).admits row cell ↔
        ∃ time, run.started = some time ∧ first ≤ time ∧ time ≤ last := by
  refine ⟨_, rfl, fun time => Run.started_eq_some_iff, ?_⟩
  intro first last cell
  rw [createdBetween_admits, Option.any_eq_true]
  simp only [Bool.and_eq_true, decide_eq_true_eq]

/-- Of two start times the earlier one counts, and a damaged one does not. -/
example :
    let row : Row := ⟨[],
      [⟨standard.fixed .started, 2, [0x78]⟩, ⟨standard.fixed .started, 2, Long.encode 100⟩,
        ⟨standard.fixed .started, 1, Long.encode 200⟩]⟩
    ((standard.createdBetween 100 100).apply row = row) ∧
      (standard.createdBetween 101 Int64.maxValue).apply row = ⟨[], []⟩ := by
  constructor
  · cbv
  · cbv

end Schema
end FlowRuns
