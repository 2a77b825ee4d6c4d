import FlowRuns.Proofs.Reader

namespace FlowRuns

/-!
# Sessions with a store

A store is used by puts, by faults that are to answer its next read, and by
reads of four kinds.  What a session of such steps leaves behind is what its
puts alone would leave in a new store, and a fault if one was set and the store
was not asked since.  So a read either gets that fault or the answer of the new
store with the puts.

Only reads that ask the store spend the fault.  A reader checks the scope of a
read first, and a read that is refused there changes nothing.
-/

namespace Reader

/-- A query asks the store once. -/
theorem execute_state (reader : Reader) (store : Store) (query : Query) :
    (reader.execute Store.client store query).state = store.calm := by
  rcases query.request_cases reader.schema reader.settings with ⟨get, asked, -⟩ | asked
  · rw [(reader.execute_get Store.client store asked).2, Store.client_get]
    exact store.read_state _
  · rw [(reader.execute_scan Store.client store asked).2, Store.client_scan]
    exact store.read_state _

end Reader

namespace Session

/-! ## Reads -/

/-- A read of a store, by itself or through a reader. -/
inductive Read where
  | row (get : Get)
  | rows (scan : Scan)
  | run (reader : Reader) (scope : Scope) (selection : FieldSelection)
  | runs (reader : Reader) (scope : Scope) (filter : RunFilter) (selection : FieldSelection)

/-- What a read is answered with. -/
inductive Answer where
  | row (found : Except StoreFault (Option Row))
  | rows (found : Except StoreFault (List Row))
  | run (found : Except ReadError (Option Run))
  | runs (found : Except ReadError (List Run))

/-- The error that an answer consists in.  A bare fault of the store counts as
the error that a reader makes of it. -/
def Answer.error? : Answer → Option ReadError
  | .row (.error fault) => some (.store fault)
  | .rows (.error fault) => some (.store fault)
  | .run (.error error) => some error
  | .runs (.error error) => some error
  | _ => none

namespace Read

/-- The answer to a read, and the store after it. -/
def perform : Read → Store → Answer × Store
  | .row get, store => (.row (store.get get).1, (store.get get).2)
  | .rows scan, store => (.rows (store.scan scan).1, (store.scan scan).2)
  | .run reader scope selection, store =>
      let reading := reader.readRun Store.client store scope selection
      (.run reading.result, reading.state)
  | .runs reader scope filter selection, store =>
      let reading := reader.readRuns Store.client store scope filter selection
      (.runs reading.result, reading.state)

/-- The fault of the scope of a read, which keeps it from the store. -/
def scopeFault? : Read → Option Scope.Fault
  | .row _ => none
  | .rows _ => none
  | .run _ scope _ => scope.fault? .single
  | .runs _ scope _ _ => scope.fault? .range

variable {read : Read}

theorem perform_of_invalid {fault : Scope.Fault} (invalid : read.scopeFault? = some fault)
    (store : Store) :
    (read.perform store).1.error? = some (.invalid fault.message) ∧
      (read.perform store).2 = store := by
  cases read with
  | row => cases invalid
  | rows => cases invalid
  | run reader scope selection =>
      rw [perform, Reader.readRun_of_fault _ _ _ invalid]
      exact ⟨rfl, rfl⟩
  | runs reader scope filter selection =>
      rw [perform, Reader.readRuns_of_fault _ _ _ invalid]
      exact ⟨rfl, rfl⟩

theorem state_of_valid (valid : read.scopeFault? = none) (store : Store) :
    (read.perform store).2 = store.calm := by
  cases read with
  | row => exact store.read_state _
  | rows => exact store.read_state _
  | run reader scope selection =>
      rw [perform, Reader.readRun_eq _ _ _ valid]
      exact reader.execute_state store _
  | runs reader scope filter selection =>
      rw [perform, Reader.readRuns_eq _ _ _ valid]
      exact reader.execute_state store _

theorem error?_of_pending (valid : read.scopeFault? = none) {store : Store} {fault : StoreFault}
    (pending : store.pending = some fault) :
    (read.perform store).1.error? = some (.store fault) := by
  cases read with
  | row => rw [perform, Store.get, Store.read_of_pending pending, Answer.error?]
  | rows => rw [perform, Store.scan, Store.read_of_pending pending, Answer.error?]
  | run reader scope selection =>
      rw [perform, Reader.readRun_eq _ _ _ valid, Reading.map, reader.execute_of_pending pending]
      rfl
  | runs reader scope filter selection =>
      rw [perform, Reader.readRuns_eq _ _ _ valid, reader.execute_of_pending pending]
      rfl

end Read

/-! ## Steps -/

/-- A step of a session. -/
inductive Step where
  | write (put : Put)
  | failNext (fault : StoreFault)
  | ask (read : Read)

namespace Step

/-- The store after a step. -/
def next : Step → Store → Store
  | .write put, store => store.put put.table put.key put.cell
  | .failNext fault, store => store.failNext fault
  | .ask read, store => (read.perform store).2

def put? : Step → Option Put
  | .write put => some put
  | _ => none

/-- Whether a step neither sets a fault nor gets through to the store as a read. -/
def Spares : Step → Prop
  | .write _ => True
  | .failNext _ => False
  | .ask read => read.scopeFault? ≠ none

theorem tables_next (step : Step) (store : Store) :
    (step.next store).tables =
      step.put?.elim store.tables fun put => store.tables.put put.table put.key put.cell := by
  cases step with
  | write put => rfl
  | failNext fault => rfl
  | ask read =>
      cases scope : read.scopeFault? with
      | none => rw [next, Read.state_of_valid scope]; rfl
      | some fault => rw [next, (Read.perform_of_invalid scope store).2]; rfl

theorem pending_next (step : Step) (store : Store) (fault : StoreFault) :
    (step.next store).pending = some fault ↔
      step = .failNext fault ∨ step.Spares ∧ store.pending = some fault := by
  cases step with
  | write put => simp [next, Spares, Store.put]
  | failNext other => simp [next, Spares, Store.failNext]
  | ask read =>
      cases scope : read.scopeFault? with
      | none => simp [next, Spares, scope, Read.state_of_valid scope, Store.calm]
      | some => simp [next, Spares, scope, (Read.perform_of_invalid scope store).2]

end Step

/-! ## Sessions -/

/-- The store after a session that began with a new one. -/
def after (steps : List Step) : Store :=
  steps.foldl (fun store step => step.next store) Store.empty

/-- The puts of a session. -/
def puts (steps : List Step) : List Put :=
  steps.filterMap Step.put?

/-- A fault was the last one set, and the store was not asked since. -/
def Armed (steps : List Step) (fault : StoreFault) : Prop :=
  ∃ earlier later, steps = earlier ++ .failNext fault :: later ∧ ∀ step ∈ later, step.Spares

theorem after_concat (steps : List Step) (step : Step) :
    after (steps ++ [step]) = step.next (after steps) :=
  List.foldl_append

theorem puts_concat (steps : List Step) (step : Step) :
    puts (steps ++ [step]) = puts steps ++ step.put?.toList := by
  rw [puts, List.filterMap_append]
  cases step <;> rfl

theorem not_armed_nil (fault : StoreFault) : ¬ Armed [] fault := by
  rintro ⟨earlier, later, parted, -⟩
  exact absurd parted.symm (List.append_ne_nil_of_right_ne_nil earlier (List.cons_ne_nil _ later))

theorem armed_concat {steps : List Step} {step : Step} {fault : StoreFault} :
    Armed (steps ++ [step]) fault ↔
      step = .failNext fault ∨ step.Spares ∧ Armed steps fault := by
  constructor
  · rintro ⟨earlier, later, parted, spared⟩
    -- The last step is the one that sets the fault, or the last of those after it.
    rcases List.eq_nil_or_concat later with rfl | ⟨later, last, rfl⟩
    · exact .inl (List.cons.inj (List.append_inj' parted rfl).2).1
    · rw [List.concat_eq_append] at parted spared
      rw [← List.cons_append, ← List.append_assoc] at parted
      have parts := List.append_inj' parted rfl
      rw [(List.cons.inj parts.2).1]
      exact .inr ⟨spared last List.mem_concat_self, earlier, later, parts.1,
        fun step member => spared step (List.mem_append_left _ member)⟩
  · rintro (rfl | ⟨spares, earlier, later, rfl, spared⟩)
    · exact ⟨steps, [], rfl, fun _ member => absurd member List.not_mem_nil⟩
    · refine ⟨earlier, later ++ [step], by simp, fun other member => ?_⟩
      rcases List.mem_append.mp member with before | last
      · exact spared other before
      · rw [List.mem_singleton.mp last]
        exact spares

/-- The tables know of the puts alone. -/
theorem tables_after (steps : List Step) :
    (after steps).tables = (Store.afterPuts (puts steps)).tables := by
  induction steps using List.reverseRecOn with
  | nil => rfl
  | append_singleton steps step inductionHypothesis =>
      rw [after_concat, Step.tables_next, inductionHypothesis, puts_concat]
      cases step.put? with
      | none => rw [Option.toList_none, List.append_nil, Option.elim_none]
      | some put => rw [Option.toList_some, Store.afterPuts_concat, Option.elim_some, Store.put]

/-- The last fault that was set is pending until the store is asked. -/
theorem pending_after (steps : List Step) (fault : StoreFault) :
    (after steps).pending = some fault ↔ Armed steps fault := by
  induction steps using List.reverseRecOn with
  | nil => exact iff_of_false (fun pending => nomatch pending) (not_armed_nil fault)
  | append_singleton steps step inductionHypothesis =>
      rw [after_concat, Step.pending_next, armed_concat, inductionHypothesis]

/-- A fault apart, a session leaves what its puts leave. -/
theorem calm_after (steps : List Step) : (after steps).calm = Store.afterPuts (puts steps) := by
  rw [Store.calm, tables_after, ← Store.calm, Store.calm_eq (Store.pending_afterPuts _)]

/-- A read after a session is refused, or it gets the pending fault and spends
it, or it is answered as by a new store that took the puts. -/
theorem perform_after (steps : List Step) (read : Read) :
    (after steps).tables = (Store.afterPuts (puts steps)).tables ∧
    (∀ fault, (after steps).pending = some fault ↔ Armed steps fault) ∧
    (∀ fault, read.scopeFault? = some fault →
      (read.perform (after steps)).1.error? = some (.invalid fault.message) ∧
        (read.perform (after steps)).2 = after steps) ∧
    (read.scopeFault? = none → ∀ fault, Armed steps fault →
      (read.perform (after steps)).1.error? = some (.store fault) ∧
        (read.perform (after steps)).2 = Store.afterPuts (puts steps)) ∧
    (read.scopeFault? = none → (∀ fault, ¬ Armed steps fault) →
      read.perform (after steps) =
        ((read.perform (Store.afterPuts (puts steps))).1, after steps)) := by
  refine ⟨tables_after steps, pending_after steps, fun fault invalid => ?_,
    fun valid fault armed => ?_, fun valid unarmed => ?_⟩
  · exact Read.perform_of_invalid invalid _
  · constructor
    · exact Read.error?_of_pending valid ((pending_after steps fault).mpr armed)
    · rw [Read.state_of_valid valid, calm_after]
  · -- Without a fault the store is the new one with the puts, to the last field.
    have calm : (after steps).pending = none :=
      Option.eq_none_iff_forall_ne_some.mpr fun fault pending =>
        unarmed fault ((pending_after steps fault).mp pending)
    have same : after steps = Store.afterPuts (puts steps) := by
      rw [← calm_after, Store.calm_eq calm]
    rw [same]
    exact Prod.ext rfl ((Read.state_of_valid valid _).trans
      (Store.calm_eq (Store.pending_afterPuts _)))

/-- A read of the runs of a flow whose user is blank. -/
def Read.ofBlankUser : Read :=
  .runs {} ⟨"c", " ", "f", none⟩ {} {}

/-- A read of a whole table. -/
def Read.ofTable : Read :=
  .rows { table := "t", start := [] }

/-- A put, two faults and a read that is refused. -/
def disturbed : List Step :=
  [.write ⟨"t", [0x61], ⟨⟨[0x69], [0x71]⟩, 1, [0x31]⟩⟩, .failNext (.io "first"),
    .failNext (.connection "second"), .ask Read.ofBlankUser]

/-- The refused read leaves the second fault to the next read, and the read after
that finds the row. -/
theorem perform_after_of_disturbed :
    (Read.ofBlankUser.perform (after disturbed)).1.error? =
      some (.invalid "user id shouldn't be empty") ∧
    (Read.ofTable.perform (after disturbed)).1.error? = some (.store (.connection "second")) ∧
    Read.ofTable.perform (after (disturbed ++ [.ask Read.ofTable])) =
      (.rows (.ok [⟨[0x61], [⟨⟨[0x69], [0x71]⟩, 1, [0x31]⟩]⟩]),
        after (disturbed ++ [.ask Read.ofTable])) := by
  have refused : Read.ofBlankUser.scopeFault? = some .blankUser := by decide
  have armed : Armed disturbed (.connection "second") := by
    refine ⟨disturbed.take 2, [.ask Read.ofBlankUser], rfl, fun step member => ?_⟩
    rw [List.mem_singleton.mp member, Step.Spares, refused]
    exact Option.some_ne_none _
  have unarmed : ∀ fault, ¬ Armed (disturbed ++ [.ask Read.ofTable]) fault := by
    intro fault armed
    rcases armed_concat.mp armed with same | ⟨spares, -⟩
    · cases same
    · exact spares rfl
  refine ⟨((perform_after disturbed Read.ofBlankUser).2.2.1 _ refused).1,
    ((perform_after disturbed Read.ofTable).2.2.2.1 rfl _ armed).1, ?_⟩
  have answer := (perform_after (disturbed ++ [.ask Read.ofTable]) Read.ofTable).2.2.2.2 rfl unarmed
  have found : ((Store.afterPuts (puts (disturbed ++ [.ask Read.ofTable]))).scan
      { table := "t", start := [] }).1 = .ok [⟨[0x61], [⟨⟨[0x69], [0x71]⟩, 1, [0x31]⟩]⟩] := by
    decide +kernel
  exact answer.trans (congrArg (fun rows => (Answer.rows rows, _)) found)

end Session
end FlowRuns
