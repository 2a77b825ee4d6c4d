import FlowRuns.Proofs.Reader
import FlowRuns.Proofs.RunRow
import FlowRuns.Proofs.StoreAccess

namespace FlowRuns

/-!
# How far a scan is read

A client may answer a scan with any items: rows with cells or without, in any
order and with any keys, and faults anywhere among them.  A range read pulls the
shortest front of the items that is sufficient, which is one that holds as many
filled rows as the limit allows, or one whose last item fails.  If no front is
sufficient it pulls all items.  The front alone decides about the read, and what
lies behind it is never seen.

An item fails if it is a fault, or a filled row with a key that does not read.
A row without a cell neither counts nor fails, whatever its key is.
-/

/-! ## Shortest fronts -/

/-- The shortest front of a list that is enough, or the whole list if no front
of it is. -/
structure IsLeastFront {α : Type} (enough : List α → Prop) (items front : List α) : Prop where
  starts : front <+: items
  ends : enough front ∨ front = items
  least : ∀ shorter, shorter <+: front → enough shorter → shorter = front

namespace IsLeastFront

variable {α : Type} {enough : List α → Prop} {items front other : List α} {item : α}

theorem eq_of_prefix (least : IsLeastFront enough items front)
    (least' : IsLeastFront enough items other) (shorter : front <+: other) : front = other := by
  rcases least.ends with sufficient | whole
  · exact least'.least front shorter sufficient
  · exact shorter.eq_of_length_le (whole ▸ least'.starts.length_le)

/-- A list has one shortest front. -/
theorem unique (least : IsLeastFront enough items front)
    (least' : IsLeastFront enough items other) : front = other := by
  rcases List.prefix_or_prefix_of_prefix least.starts least'.starts with shorter | longer
  · exact least.eq_of_prefix least' shorter
  · exact (least'.eq_of_prefix least longer).symm

theorem of_nil (sufficient : enough []) : IsLeastFront enough items [] where
  starts := List.nil_prefix
  ends := .inl sufficient
  least _ shorter _ := List.prefix_nil.mp shorter

theorem nil_nil : IsLeastFront enough [] [] where
  starts := List.nil_prefix
  ends := .inr rfl
  least _ shorter _ := List.prefix_nil.mp shorter

/-- If nothing is not enough, the shortest front begins with the first item. -/
theorem cons (insufficient : ¬enough [])
    (least : IsLeastFront (fun rest => enough (item :: rest)) items front) :
    IsLeastFront enough (item :: items) (item :: front) where
  starts := (List.cons_prefix_cons).mpr ⟨rfl, least.starts⟩
  ends := least.ends.imp_right (congrArg (item :: ·))
  least shorter begins sufficient := by
    cases shorter with
    | nil => exact absurd sufficient insufficient
    | cons first rest =>
        rcases List.cons_prefix_cons.mp begins with ⟨rfl, behind⟩
        rw [least.least rest behind sufficient]

/-- A list has a shortest front. -/
theorem exists_leastFront (enough : List α → Prop) (items : List α) :
    ∃ front, IsLeastFront enough items front := by
  induction items generalizing enough with
  | nil => exact ⟨[], nil_nil⟩
  | cons item rest inductionHypothesis =>
      by_cases sufficient : enough []
      · exact ⟨[], of_nil sufficient⟩
      · rcases inductionHypothesis fun others => enough (item :: others) with ⟨front, least⟩
        exact ⟨item :: front, least.cons sufficient⟩

/-- A front that is enough does not depend on what follows it. -/
theorem append (least : IsLeastFront enough items front) (sufficient : enough front)
    (later : List α) : IsLeastFront enough (front ++ later) front where
  starts := List.prefix_append front later
  ends := .inl sufficient
  least := least.least

end IsLeastFront

/-! ## Items -/

namespace ScanItem

/-- The row of an item, if it has a cell. -/
def row? : ScanItem → Option Row
  | .error _ => none
  | .ok row => if row.isEmpty then none else some row

/-- The error of an item that fails. -/
def error? : ScanItem → Option ReadError
  | .error fault => some (.store fault)
  | .ok row =>
      if row.isEmpty then none
      else
        match RunKey.decode row.key with
        | .error fault => some (.ofKey fault)
        | .ok _ => none

/-- The rows with cells among some items. -/
def rows (items : List ScanItem) : List Row :=
  items.filterMap row?

/-- The error of the last of some items, if it fails. -/
def lastError? (items : List ScanItem) : Option ReadError :=
  items.getLast?.bind error?

/-- Whether a read needs no further items: there are as many rows as the limit
allows, or the last item fails. -/
def Sufficient (limit : Nat) (items : List ScanItem) : Prop :=
  limit ≤ (rows items).length ∨ ∃ error, lastError? items = some error

theorem lastError?_cons {item : ScanItem} (sound : item.error? = none) (rest : List ScanItem) :
    lastError? (item :: rest) = lastError? rest := by
  cases rest with
  | nil => exact sound
  | cons next later => rw [lastError?, lastError?, List.getLast?_cons_cons]

theorem not_sufficient_nil (limit : Nat) : ¬Sufficient (limit + 1) [] := by
  rintro (counted | ⟨_, failed⟩)
  · exact Nat.not_succ_le_zero limit counted
  · cases failed

/-- A row without a cell brings a read no nearer to its end. -/
theorem sufficient_cons_of_empty {item : ScanItem} (sound : item.error? = none)
    (silent : item.row? = none) (limit : Nat) (rest : List ScanItem) :
    Sufficient limit (item :: rest) ↔ Sufficient limit rest := by
  rw [Sufficient, Sufficient, lastError?_cons sound, rows, List.filterMap_cons_none silent, rows]

/-- A row that reads counts once. -/
theorem sufficient_cons_of_filled {item : ScanItem} {row : Row} (sound : item.error? = none)
    (filled : item.row? = some row) (limit : Nat) (rest : List ScanItem) :
    Sufficient (limit + 1) (item :: rest) ↔ Sufficient limit rest := by
  rw [Sufficient, Sufficient, lastError?_cons sound, rows, List.filterMap_cons_some filled, rows,
    List.length_cons, Nat.add_le_add_iff_right]

/-- Items before the last one do not fail, since a read would have ended there. -/
theorem error?_eq_none_of_mem {limit : Nat} {items front : List ScanItem}
    (least : IsLeastFront (Sufficient limit) items front) (sound : lastError? front = none)
    {item : ScanItem} (member : item ∈ front) : item.error? = none := by
  rcases List.append_of_mem member with ⟨before, after, whole⟩
  have last : lastError? (before ++ [item]) = item.error? := by
    rw [lastError?, List.getLast?_concat, Option.bind_some]
  cases failed : item.error? with
  | none => rfl
  | some error =>
      have begins : before ++ [item] <+: front := ⟨after, by rw [whole, List.append_assoc]; rfl⟩
      have same := least.least _ begins (.inr ⟨error, last.trans failed⟩)
      rw [same, sound, failed] at last
      cases last

/-- The key of a row that counts and does not fail can be read. -/
theorem exists_key {item : ScanItem} {row : Row} (filled : item.row? = some row)
    (sound : item.error? = none) : ∃ key, RunKey.decode row.key = .ok key := by
  cases item with
  | error fault => cases filled
  | ok stored =>
      cases empty : stored.isEmpty with
      | true =>
          rw [row?, if_pos empty] at filled
          cases filled
      | false =>
          rw [row?, empty] at filled
          cases filled
          rw [error?, empty] at sound
          cases read : RunKey.decode row.key with
          | ok key => exact ⟨key, rfl⟩
          | error fault =>
              rw [read] at sound
              cases sound

end ScanItem

/-! ## Reads -/

/-- In a range a row with a key that does not read gives no run. -/
theorem Run.ofRow_range_error (schema : Schema) (scope : Scope) (selection : FieldSelection)
    {row : Row} {fault : RunKey.Fault} (read : RunKey.decode row.key = .error fault) :
    ofRow schema scope .range selection row = .error (.ofKey fault) := by
  rw [ofRow, numberOf, read]
  rfl

namespace Reader

open ScanItem

/-- The result of a read that pulled a front of the items of its scan. -/
def ofFront (parse : Row → Except ReadError Run) (front : List ScanItem) :
    Except ReadError (List Run) :=
  match lastError? front with
  | some error => .error error
  | none => (rows front).mapM parse

theorem ofFront_cons_of_empty {item : ScanItem} (sound : item.error? = none)
    (silent : item.row? = none) (parse : Row → Except ReadError Run) (rest : List ScanItem) :
    ofFront parse (item :: rest) = ofFront parse rest := by
  rw [ofFront, ofFront, lastError?_cons sound, rows, List.filterMap_cons_none silent, rows]

theorem ofFront_cons_of_filled {item : ScanItem} {row : Row} (sound : item.error? = none)
    (filled : item.row? = some row) {parse : Row → Except ReadError Run} {run : Run}
    (made : parse row = .ok run) (rest : List ScanItem) :
    ofFront parse (item :: rest) = (ofFront parse rest).map (run :: ·) := by
  rw [ofFront, ofFront, lastError?_cons sound, rows, List.filterMap_cons_some filled, rows]
  cases lastError? rest with
  | some error => rfl
  | none =>
      rw [List.mapM_cons, made]
      cases (rest.filterMap row?).mapM parse <;> rfl

variable (schema : Schema) (scope : Scope) (selection : FieldSelection)

/-- A range read pulls the shortest front that is sufficient, and its result is
that of the front. -/
theorem collect_eq {limit : Nat} {items front : List ScanItem}
    (least : IsLeastFront (Sufficient limit) items front) :
    collect (Run.ofRow schema scope .range selection) limit items =
      (ofFront (Run.ofRow schema scope .range selection) front, front.length) := by
  induction items generalizing limit front with
  | nil =>
      rw [least.unique .nil_nil]
      cases limit <;> rfl
  | cons item rest inductionHypothesis =>
      cases limit with
      | zero =>
          rw [least.unique (.of_nil (.inl (Nat.zero_le _)))]
          rfl
      | succ limit =>
          -- A first item is pulled, and it decides what is sufficient behind it.
          rcases IsLeastFront.exists_leastFront
            (fun others => Sufficient (limit + 1) (item :: others)) rest with ⟨behind, later⟩
          rw [least.unique (later.cons (not_sufficient_nil limit))]
          have stops : ∀ error, item.error? = some error → behind = [] := by
            intro error failed
            exact later.unique (.of_nil (.inr ⟨error, failed⟩))
          cases item with
          | error fault =>
              rw [stops (.store fault) rfl]
              rfl
          | ok row =>
              cases empty : row.isEmpty with
              | true =>
                  have sound : error? (.ok row) = none := by rw [error?, if_pos empty]
                  have silent : row? (.ok row) = none := by rw [row?, if_pos empty]
                  simp only [sufficient_cons_of_empty sound silent] at later
                  rw [collect, if_pos empty, inductionHypothesis later,
                    ofFront_cons_of_empty sound silent, List.length_cons]
              | false =>
                  have filled : row? (.ok row) = some row := by rw [row?, empty]; rfl
                  cases read : RunKey.decode row.key with
                  | error fault =>
                      have failed : error? (.ok row) = some (.ofKey fault) := by
                        rw [error?, empty, read]
                        rfl
                      have refused := Run.ofRow_range_error schema scope selection read
                      rw [stops _ failed, collect, empty, refused, ofFront, lastError?]
                      simp [failed]
                  | ok key =>
                      have sound : error? (.ok row) = none := by
                        rw [error?, empty, read]
                        rfl
                      rcases Run.ofRow_range schema scope selection read with ⟨run, made, _⟩
                      simp only [sufficient_cons_of_filled sound filled] at later
                      rw [collect, empty, made, inductionHypothesis later,
                        ofFront_cons_of_filled sound filled made, List.length_cons]
                      rfl

/-- If the last item of the pulled front does not fail, the rows of the front give
a run each. -/
theorem exists_runs {limit : Nat} {items front : List ScanItem}
    (least : IsLeastFront (Sufficient limit) items front) (sound : lastError? front = none) :
    ∃ runs, (rows front).map (Run.ofRow schema scope .range selection) = runs.map .ok ∧
      ofFront (Run.ofRow schema scope .range selection) front = .ok runs := by
  have succeed : ∀ row ∈ rows front, ∃ run,
      Run.ofRow schema scope .range selection row = .ok run := by
    intro row member
    rcases List.mem_filterMap.mp member with ⟨item, listed, filled⟩
    rcases exists_key filled (error?_eq_none_of_mem least sound listed) with ⟨key, read⟩
    rcases Run.ofRow_range schema scope selection read with ⟨run, made, _⟩
    exact ⟨run, made⟩
  rcases exists_results succeed with ⟨runs, made⟩
  refine ⟨runs, made, ?_⟩
  have counted := congrArg List.length made
  rw [List.length_map, List.length_map] at counted
  have whole := mapM_take_eq_ok made (rows front).length
  rw [List.take_length, counted, List.take_length] at whole
  rw [ofFront, sound]
  exact whole

/-- The outcome of a range read whose scan opens. -/
theorem readRuns_of_opened {σ : Type} (reader : Reader) (client : Client σ) {state next : σ}
    {scope : Scope} (valid : scope.fault? .range = none) (filter : RunFilter)
    (selection : FieldSelection) {items : List ScanItem}
    (opened : client.scan state (Query.scan reader.schema reader.settings
      ⟨scope, .range, filter, selection.augmented, valid⟩) = (.ok items, next)) :
    reader.readRuns client state scope filter selection =
      { result := (collect (Run.ofRow reader.schema scope .range selection.augmented)
          (reader.settings.effectiveLimit filter.limit).toNat items).1
        state := next
        pulled := (collect (Run.ofRow reader.schema scope .range selection.augmented)
          (reader.settings.effectiveLimit filter.limit).toNat items).2 } := by
  rw [readRuns_eq _ _ _ valid, execute, Query.request_range _ _ _ rfl]
  simp only [opened]
  rfl

end Reader

/-- What a reading is if a front of the items of a scan decides about it: it
pulled the front, and it has the error of the last item, or else one run for each
filled row in the order of the rows. -/
structure Reading.DecidedBy {σ : Type} (reading : Reading (List Run) σ)
    (parse : Row → Except ReadError Run) (front : List ScanItem) : Prop where
  pulled : reading.pulled = front.length
  failed : ∀ error, ScanItem.lastError? front = some error → reading.result = .error error
  succeeded : ScanItem.lastError? front = none →
    ∃ runs, reading.result = .ok runs ∧ (ScanItem.rows front).map parse = runs.map .ok

namespace Reader

open ScanItem

/-- Whatever items a client answers the scan of a range read with, the read pulls
the shortest front of them that is sufficient for its limit, and all of them if
there is none.  That front decides about the read.  If it is sufficient, then other
items behind it, be they rows or faults, would make no difference. -/
theorem readRuns_pulls_leastFront {σ : Type} (reader : Reader) (client : Client σ) {scope : Scope}
    (valid : scope.fault? .range = none) (filter : RunFilter) (selection : FieldSelection)
    {state next : σ} {items : List ScanItem}
    (opened : client.scan state (Query.scan reader.schema reader.settings
      ⟨scope, .range, filter, selection.augmented, valid⟩) = (.ok items, next)) :
    ∃ front,
      IsLeastFront (Sufficient (reader.settings.effectiveLimit filter.limit).toNat) items front ∧
      (∀ other,
        IsLeastFront (Sufficient (reader.settings.effectiveLimit filter.limit).toNat) items other →
          other = front) ∧
      (reader.readRuns client state scope filter selection).state = next ∧
      (reader.readRuns client state scope filter selection).DecidedBy
        (Run.ofRow reader.schema scope .range selection.augmented) front ∧
      ∀ later state' next',
        Sufficient (reader.settings.effectiveLimit filter.limit).toNat front →
        client.scan state' (Query.scan reader.schema reader.settings
          ⟨scope, .range, filter, selection.augmented, valid⟩) = (.ok (front ++ later), next') →
        (reader.readRuns client state' scope filter selection).result =
            (reader.readRuns client state scope filter selection).result ∧
          (reader.readRuns client state' scope filter selection).pulled =
            (reader.readRuns client state scope filter selection).pulled := by
  rcases IsLeastFront.exists_leastFront
    (Sufficient (reader.settings.effectiveLimit filter.limit).toNat) items with ⟨front, least⟩
  have collected := collect_eq reader.schema scope selection.augmented least
  have reading := readRuns_of_opened reader client valid filter selection opened
  rw [collected] at reading
  refine ⟨front, least, fun other least' => least'.unique least, ?_, ?_, ?_⟩
  · rw [reading]
  · rw [reading]
    refine ⟨rfl, ?_, ?_⟩
    · intro error failed
      rw [ofFront, failed]
    · intro sound
      rcases exists_runs reader.schema scope selection.augmented least sound with
        ⟨runs, made, result⟩
      exact ⟨runs, result, made⟩
  · intro later state' next' sufficient opened'
    have reading' := readRuns_of_opened reader client valid filter selection opened'
    rw [collect_eq reader.schema scope selection.augmented (least.append sufficient later)]
      at reading'
    rw [reading, reading']
    exact ⟨rfl, rfl⟩

/-- A row without a cell and with a damaged key, two runs, and a fault. -/
def itemsBeforeFault : List ScanItem :=
  [.ok ⟨[0xff], []⟩,
    .ok ⟨RunKey.encode ⟨"c", "u", "f", 7⟩,
      [⟨Schema.standard.fixed .started, 1, Long.encode 200⟩]⟩,
    .ok ⟨RunKey.encode ⟨"c", "u", "f", -5⟩,
      [⟨Schema.standard.fixed .started, 1, Long.encode 100⟩]⟩,
    .error (.io "lost")]

/-- A client that answers every scan with these items. -/
def clientBeforeFault : Client Unit where
  get := fun _ _ => (.ok none, ())
  scan := fun _ _ => (.ok itemsBeforeFault, ())

/-- A limit of two ends a read before the fault, and a limit of three does not. -/
theorem readRuns_pulls_leastFront_before_fault :
    (∃ front, IsLeastFront (Sufficient 2) itemsBeforeFault front ∧ front.length = 3 ∧
      (readRuns ⟨⟨"runs", 2⟩, Schema.standard⟩ clientBeforeFault () ⟨"c", "u", "f", none⟩ {}
        {}).result =
        .ok [{ user := "u", flow := "f", number := 7, started := some 200 },
          { user := "u", flow := "f", number := -5, started := some 100 }]) ∧
    ∃ front, IsLeastFront (Sufficient 3) itemsBeforeFault front ∧ front.length = 4 ∧
      (readRuns ⟨⟨"runs", 3⟩, Schema.standard⟩ clientBeforeFault () ⟨"c", "u", "f", none⟩ {}
        {}).result = .error (.store (.io "lost")) := by
  constructor
  · rcases @readRuns_pulls_leastFront Unit ⟨⟨"runs", 2⟩, Schema.standard⟩ clientBeforeFault
      ⟨"c", "u", "f", none⟩ rfl {} {} () () itemsBeforeFault rfl with
      ⟨front, least, _, _, decided, _⟩
    refine ⟨front, least, decided.pulled.symm.trans ?_, ?_⟩
    · decide
    · decide +kernel
  · rcases @readRuns_pulls_leastFront Unit ⟨⟨"runs", 3⟩, Schema.standard⟩ clientBeforeFault
      ⟨"c", "u", "f", none⟩ rfl {} {} () () itemsBeforeFault rfl with
      ⟨front, least, _, _, decided, _⟩
    refine ⟨front, least, decided.pulled.symm.trans ?_, ?_⟩
    · decide
    · decide

end Reader
end FlowRuns
