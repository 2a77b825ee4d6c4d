import FlowRuns.Proofs.SortedMap
import FlowRuns.Table.Store

namespace FlowRuns

/-!
# Stores by what was put into them

A store that only took puts is a function of their list.  It has a table for
each name that was put to, and a row of the table holds the cells that were
put at its key, in the order in which they came.
-/

/-- One cell put at a key of a table. -/
structure Put where
  table : String
  key : Bytes
  cell : Cell
  deriving DecidableEq

namespace Put

/-- The cells put at a key of a table, in their order. -/
def cellsAt (puts : List Put) (table : String) (key : Bytes) : List Cell :=
  (puts.filter fun put => put.table = table ∧ put.key = key).map Put.cell

theorem mem_cellsAt {puts : List Put} {table : String} {key : Bytes} {cell : Cell} :
    cell ∈ cellsAt puts table key ↔ ⟨table, key, cell⟩ ∈ puts := by
  rw [cellsAt, List.mem_map]
  constructor
  · rintro ⟨put, kept, rfl⟩
    have parts := List.mem_filter.mp kept
    rcases of_decide_eq_true parts.2 with ⟨rfl, rfl⟩
    exact parts.1
  · intro member
    exact ⟨_, List.mem_filter.mpr ⟨member, by simp⟩, rfl⟩

/-- There are no cells in a table that was not put to. -/
theorem cellsAt_of_absent {puts : List Put} {table : String}
    (absent : ¬ ∃ put ∈ puts, put.table = table) (key : Bytes) : cellsAt puts table key = [] :=
  List.eq_nil_iff_forall_not_mem.mpr fun _ member => absent ⟨_, mem_cellsAt.mp member, rfl⟩

/-- The puts of a history, and further ones of some kind anywhere among them. -/
inductive Interspersed (further : Put → Prop) : (puts more : List Put) → Prop where
  | nil : Interspersed further [] []
  | kept (put : Put) {puts more : List Put} :
      Interspersed further puts more → Interspersed further (put :: puts) (put :: more)
  | added {put : Put} (own : further put) {puts more : List Put} :
      Interspersed further puts more → Interspersed further puts (put :: more)

theorem Interspersed.imp {further further' : Put → Prop} {puts more : List Put}
    (weaker : ∀ {put}, further put → further' put)
    (interspersed : Interspersed further puts more) : Interspersed further' puts more := by
  induction interspersed with
  | nil => exact .nil
  | kept put _ inductionHypothesis => exact .kept put inductionHypothesis
  | added own _ inductionHypothesis => exact .added (weaker own) inductionHypothesis

end Put

/-- A table that finds at each key the cells that were put there. -/
def Table.Holds (table : Table) (puts : List Put) (name : String) : Prop :=
  ∀ key, table.find? key =
    if Put.cellsAt puts name key = [] then none else some (Put.cellsAt puts name key)

theorem Table.Holds.find?_eq_some_iff {table : Table} {puts : List Put} {name : String}
    (holds : table.Holds puts name) {key : Bytes} {cells : List Cell} :
    table.find? key = some cells ↔ cells ≠ [] ∧ Put.cellsAt puts name key = cells := by
  rw [holds key]
  split
  · next absent =>
      rw [absent]
      constructor
      · intro found
        cases found
      · rintro ⟨filled, rfl⟩
        exact absurd rfl filled
  · next filled =>
      rw [Option.some.injEq]
      constructor
      · rintro rfl
        exact ⟨filled, rfl⟩
      · exact And.right

namespace Store

/-- The store after some puts, one by one. -/
def putAll (store : Store) (puts : List Put) : Store :=
  puts.foldl (fun store put => store.put put.table put.key put.cell) store

/-- The store that takes some puts when it is new. -/
def afterPuts (puts : List Put) : Store :=
  puts.foldl (fun store put => store.put put.table put.key put.cell) empty

theorem afterPuts_concat (puts : List Put) (put : Put) :
    afterPuts (puts ++ [put]) = (afterPuts puts).put put.table put.key put.cell :=
  List.foldl_append

private theorem foldl_put (puts : List Put) (store : Store) :
    puts.foldl (fun store put => store.put put.table put.key put.cell) store =
      { store with tables :=
          puts.foldl (fun tables put => tables.put put.table put.key put.cell) store.tables } := by
  induction puts generalizing store with
  | nil => rfl
  | cons put rest inductionHypothesis =>
      rw [List.foldl_cons, inductionHypothesis]
      rfl

@[simp]
theorem pending_afterPuts (puts : List Put) : (afterPuts puts).pending = none := by
  rw [afterPuts, foldl_put]
  rfl

/-- The cells of a row of a table, if there are any. -/
def cells? (store : Store) (name : String) (key : Bytes) : Option (List Cell) :=
  (store.tables.find? name).bind fun table => table.find? key

/-- A table grows by the puts to it alone. -/
private theorem find?_grown (puts : List Put) (name : String) :
    (afterPuts puts).tables.find? name =
      (puts.filter fun put => put.table = name).foldl
        (fun old put => some ((old.getD SortedMap.empty : Table).put put.key put.cell)) none := by
  rw [afterPuts, foldl_put]
  exact SortedMap.find?_foldl_alter Put.table
    (fun put old => (old.getD SortedMap.empty : Table).put put.key put.cell) puts
    SortedMap.empty name

/-- There is no table that was not put to. -/
theorem find?_afterPuts_of_absent {puts : List Put} {name : String}
    (absent : ¬ ∃ put ∈ puts, put.table = name) :
    (afterPuts puts).tables.find? name = none := by
  have none : (puts.filter fun put => put.table = name) = [] := by
    apply List.filter_eq_nil_iff.mpr
    intro put member named
    exact absent ⟨put, member, of_decide_eq_true named⟩
  rw [find?_grown, none]
  rfl

/-- A table that was put to holds what was put. -/
theorem find?_afterPuts {puts : List Put} {name : String}
    (present : ∃ put ∈ puts, put.table = name) :
    ∃ table : Table, (afterPuts puts).tables.find? name = some table ∧ table.Holds puts name := by
  have started : ∀ (items : List Put) (table : Table),
      items.foldl (fun old put => some ((old.getD SortedMap.empty : Table).put put.key put.cell))
          (some table) =
        some (items.foldl (fun table put => table.put put.key put.cell) table) := by
    intro items
    induction items with
    | nil =>
        intro table
        rfl
    | cons put rest inductionHypothesis =>
        intro table
        exact inductionHypothesis _
  refine ⟨(puts.filter fun put => put.table = name).foldl
    (fun table put => table.put put.key put.cell) SortedMap.empty, ?_, fun key => ?_⟩
  · rcases present with ⟨put, member, named⟩
    have kept : put ∈ puts.filter fun put => put.table = name :=
      List.mem_filter.mpr ⟨member, by simpa using named⟩
    rw [find?_grown]
    cases own : puts.filter fun put => put.table = name with
    | nil =>
        rw [own] at kept
        exact absurd kept List.not_mem_nil
    | cons first rest => exact started rest _
  · have rows := SortedMap.find?_foldl_alter Put.key
      (fun put (cells : Option (List Cell)) => cells.getD [] ++ [put.cell])
      (puts.filter fun put => put.table = name) SortedMap.empty key
    refine rows.trans ?_
    rw [SortedMap.find?_empty, SortedMap.foldl_keep Put.cell, List.filter_filter, Put.cellsAt]
    simp only [Option.getD_none, List.nil_append, List.map_eq_nil_iff, Bool.decide_and,
      Bool.and_comm]

end Store
end FlowRuns
