import FlowRuns.Proofs.Key.RunKey
import FlowRuns.Proofs.StoreAccess
import FlowRuns.Proofs.Table.Answers

namespace FlowRuns

/-!
# Writes to other flows

Reads of a flow see the rows behind its beginning in one table.  A put
anywhere else leaves those rows alone, so it makes no difference to a read of
the flow whether and when it happens.  This holds for the cap of a scan too,
since rows of other flows are not met by the walk that counts.

Two stores are compared put by put.  They agree as long as each put is taken by
both of them, or by the second alone if it goes elsewhere.  What is compared is
the rows, and not the tables that hold them, because a put elsewhere may make
a table that the first store lacks.  A read tells a missing table from an empty
one, so the first store has to have the table when it is read.
-/

/-- A put to another table, or to the key of a run of another flow. -/
def Put.Foreign (settings : Settings) (scope : Scope) (put : Put) : Prop :=
  put.table ≠ settings.table ∨ ∃ key : RunKey, put.key = RunKey.encode key ∧
    (key.cluster, key.user, key.flow) ≠ (scope.cluster, scope.user, scope.flow)

/-- A put to another table or to a key that does not begin as asked. -/
def Put.Elsewhere (name : String) (start : Bytes) (put : Put) : Prop :=
  put.table ≠ name ∨ ¬ start <+: put.key

/-- The keys of other flows begin otherwise. -/
theorem Put.Foreign.elsewhere {settings : Settings} {scope : Scope} {put : Put}
    (foreign : put.Foreign settings scope) : put.Elsewhere settings.table scope.start := by
  rcases foreign with apart | ⟨key, written, different⟩
  · exact .inl apart
  · refine .inr fun begins => different ?_
    rw [written] at begins
    rcases RunKey.names_of_prefix begins with ⟨cluster, user, flow⟩
    rw [cluster, user, flow]

namespace Store

/-- A put shows in its own row and in no other. -/
theorem cells?_put (store : Store) (put : Put) (name : String) (key : Bytes) :
    (store.put put.table put.key put.cell).cells? name key =
      if put.table = name ∧ put.key = key then
        some ((store.cells? name key).getD [] ++ [put.cell])
      else store.cells? name key := by
  by_cases own : put.table = name
  · subst own
    rw [cells?, cells?, Store.put, Tables.put, SortedMap.find?_alter_self, Option.bind_some]
    by_cases same : put.key = key
    · subst same
      rw [if_pos ⟨rfl, rfl⟩, Table.put, SortedMap.find?_alter_self]
      cases store.tables.find? put.table <;> rfl
    · rw [if_neg fun both => same both.2, Table.put,
        SortedMap.find?_alter_of_ne _ (Ne.symm same)]
      cases store.tables.find? put.table <;> rfl
  · rw [if_neg fun both => own both.1, cells?, cells?, Store.put, Tables.put,
      SortedMap.find?_alter_of_ne _ (Ne.symm own)]

/-- A put makes its table, if need be, and keeps the others. -/
theorem isSome_find?_put {store : Store} {name : String} (put : Put) :
    ((store.put put.table put.key put.cell).tables.find? name).isSome ↔
      name = put.table ∨ (store.tables.find? name).isSome := by
  rw [Store.put, Tables.put]
  by_cases own : name = put.table
  · rw [own, SortedMap.find?_alter_self]
    exact iff_of_true rfl (.inl rfl)
  · rw [SortedMap.find?_alter_of_ne _ own, or_iff_right own]

/-- Stores with the same pending fault and the same rows behind a beginning of
keys of a table.  The second has the table if the first has it. -/
structure AgreesBehind (name : String) (start : Bytes) (store other : Store) : Prop where
  pending : other.pending = store.pending
  present : (store.tables.find? name).isSome → (other.tables.find? name).isSome
  rows : ∀ key, start <+: key → other.cells? name key = store.cells? name key

namespace AgreesBehind

variable {name : String} {start : Bytes} {store other : Store}

theorem refl (name : String) (start : Bytes) (store : Store) :
    AgreesBehind name start store store :=
  ⟨rfl, id, fun _ _ => rfl⟩

theorem put_both (agrees : AgreesBehind name start store other) (put : Put) :
    AgreesBehind name start (store.put put.table put.key put.cell)
      (other.put put.table put.key put.cell) where
  pending := agrees.pending
  present := by
    rw [isSome_find?_put, isSome_find?_put]
    exact Or.imp_right agrees.present
  rows key begins := by
    rw [cells?_put, cells?_put, agrees.rows key begins]

theorem put_elsewhere (agrees : AgreesBehind name start store other) {put : Put}
    (elsewhere : put.Elsewhere name start) :
    AgreesBehind name start store (other.put put.table put.key put.cell) where
  pending := agrees.pending
  present present := (isSome_find?_put put).mpr (.inr (agrees.present present))
  rows key begins := by
    have apart : ¬ (put.table = name ∧ put.key = key) := by
      rintro ⟨own, rfl⟩
      exact elsewhere.elim (fun different => different own) fun foreign => foreign begins
    rw [cells?_put, if_neg apart, agrees.rows key begins]

/-- Histories of puts that differ elsewhere keep stores in agreement. -/
theorem putAll (agrees : AgreesBehind name start store other) {puts more : List Put}
    (interspersed : Put.Interspersed (Put.Elsewhere name start) puts more) :
    AgreesBehind name start (store.putAll puts) (other.putAll more) := by
  induction interspersed generalizing store other with
  | nil => exact agrees
  | kept put _ inductionHypothesis => exact inductionHypothesis (agrees.put_both put)
  | added own _ inductionHypothesis => exact inductionHypothesis (agrees.put_elsewhere own)

/-- Stores in agreement answer what is asked about the keys behind the beginning
alike, if the first has the table. -/
theorem answersAlike (agrees : AgreesBehind name start store other)
    (present : (store.tables.find? name).isSome) :
    Store.client.AnswersAlike name start store other := by
  rcases Option.isSome_iff_exists.mp present with ⟨table, found⟩
  rcases Option.isSome_iff_exists.mp (agrees.present present) with ⟨table', found'⟩
  have same : ∀ key, start <+: key → table.find? key = table'.find? key := by
    intro key begins
    have rows := agrees.rows key begins
    rw [cells?, cells?, found, found'] at rows
    exact rows.symm
  constructor
  · intro get own begins
    rw [client_get, client_get]
    cases pending : store.pending with
    | some fault =>
        rw [Store.get, Store.get, read_of_pending pending,
          read_of_pending (agrees.pending.trans pending)]
    | none =>
        rw [get_of_present pending (own ▸ found),
          get_of_present (agrees.pending.trans pending) (own ▸ found'), Table.get, Table.get,
          same get.key begins]
  · intro scan own begins
    rw [client_scan, client_scan]
    cases pending : store.pending with
    | some fault =>
        rw [Store.scan, Store.scan, read_of_pending pending,
          read_of_pending (agrees.pending.trans pending)]
    | none =>
        rw [scan_of_present pending (own ▸ found),
          scan_of_present (agrees.pending.trans pending) (own ▸ found'),
          Table.scan_congr (begins ▸ same)]

end AgreesBehind
end Store

namespace Reader

/-- Puts to other tables and to runs of other flows, anywhere in a history of
puts to any store, change no read of a flow, if its table exists without them. -/
theorem reads_eq_of_interspersed {reader : Reader} {scope : Scope} {store : Store}
    {puts more : List Put}
    (interspersed : Put.Interspersed (Put.Foreign reader.settings scope) puts more)
    (present : ((store.putAll puts).tables.find? reader.settings.table).isSome) :
    (∀ run selection,
      (reader.readRun Store.client (store.putAll more) { scope with run := run } selection).result =
        (reader.readRun Store.client (store.putAll puts) { scope with run := run }
          selection).result) ∧
    (∀ run filter selection,
      (reader.readRuns Store.client (store.putAll more) { scope with run := run } filter
          selection).result =
        (reader.readRuns Store.client (store.putAll puts) { scope with run := run } filter
          selection).result) := by
  have agrees := (Store.AgreesBehind.refl reader.settings.table scope.start store).putAll
    (interspersed.imp Put.Foreign.elsewhere)
  -- The beginning of the keys of a flow is the same whichever run is asked for.
  have alike : ∀ run, Store.client.AnswersAlike reader.settings.table
      (Scope.start { scope with run := run }) (store.putAll puts) (store.putAll more) :=
    fun _ => agrees.answersAlike present
  constructor
  · intro run selection
    exact (reader.readRun_result_eq (alike run) selection).symm
  · intro run filter selection
    exact (reader.readRuns_result_eq (alike run) filter selection).symm

end Reader

/-- One run of a flow. -/
def Put.ofOneFlow : List Put :=
  [⟨"runs", Scope.key ⟨"c", "u", "f", none⟩ 7,
    ⟨Schema.standard.fixed .started, 1, Long.encode 100⟩⟩]

/-- The run among a newer one in another table and runs of two flows whose names
begin alike. -/
def Put.amongOthers : List Put :=
  [⟨"else", Scope.key ⟨"c", "u", "f", none⟩ 8,
      ⟨Schema.standard.fixed .started, 1, Long.encode 100⟩⟩,
    ⟨"runs", RunKey.encode ⟨"c", "u", "f!", 8⟩,
      ⟨Schema.standard.fixed .started, 1, Long.encode 100⟩⟩] ++
  Put.ofOneFlow ++
  [⟨"runs", RunKey.encode ⟨"c", "u", "", 8⟩,
    ⟨Schema.standard.fixed .started, 1, Long.encode 100⟩⟩]

namespace Reader

/-- The other runs neither show nor use up a limit of one. -/
theorem reads_eq_of_interspersed_names :
    (readRun ⟨⟨"runs", 10⟩, Schema.standard⟩ Store.client (Store.empty.putAll Put.amongOthers)
        ⟨"c", "u", "f", some 8⟩ {}).result = .ok none ∧
    (readRuns ⟨⟨"runs", 10⟩, Schema.standard⟩ Store.client (Store.empty.putAll Put.amongOthers)
        ⟨"c", "u", "f", none⟩ { limit := some 1 } {}).result =
      .ok [{ user := "u", flow := "f", number := 7, started := some 100 }] := by
  have interspersed : Put.Interspersed (Put.Foreign ⟨"runs", 10⟩ ⟨"c", "u", "f", none⟩)
      Put.ofOneFlow Put.amongOthers :=
    .added (.inl (by decide)) (.added (.inr ⟨_, rfl, by decide⟩)
      (.kept _ (.added (.inr ⟨_, rfl, by decide⟩) .nil)))
  rcases @reads_eq_of_interspersed ⟨⟨"runs", 10⟩, Schema.standard⟩ ⟨"c", "u", "f", none⟩ Store.empty
    _ _ interspersed rfl with ⟨single, range⟩
  constructor
  · refine (single (some 8) {}).trans ?_
    decide
  · refine (range none { limit := some 1 } {}).trans ?_
    decide +kernel

end Reader
end FlowRuns
