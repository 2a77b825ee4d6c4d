import FlowRuns.Table.Aggregator

namespace FlowRuns

/-!
# Versions up to the order of time

Everything that is made of the versions of a column sorts them by time first,
and the sorts are stable.  So the order in which versions are listed matters
only among those with one timestamp.  Lists that agree at each time on the
versions and on their order are `Alike`, and they have the same sorted forms,
the same newest version and the same folds.
-/

/-- Where keys do not repeat, a key picks the same items from a list in
whatever order it comes. -/
theorem filter_eq_of_perm {α κ : Type} [DecidableEq κ] (keyOf : α → κ) {first second : List α}
    (permuted : first.Perm second) (distinct : (first.map keyOf).Nodup) (key : κ) :
    (first.filter fun item => keyOf item = key) = second.filter fun item => keyOf item = key := by
  have kept := permuted.filter fun item => keyOf item = key
  have apart : ((first.filter fun item => keyOf item = key).map keyOf).Nodup :=
    distinct.sublist (List.filter_sublist.map keyOf)
  have level : ∀ item ∈ first.filter fun item => keyOf item = key, keyOf item = key :=
    fun item member => of_decide_eq_true (List.mem_filter.mp member).2
  cases here : first.filter fun item => keyOf item = key with
  | nil =>
      rw [here] at kept
      exact kept.nil_eq
  | cons item rest =>
      rw [here] at kept apart level
      cases rest with
      | nil => exact List.singleton_perm.mp kept
      | cons other rest =>
          have same : keyOf item = keyOf other :=
            (level item (by simp)).trans (level other (by simp)).symm
          exact absurd (by simp [same]) (List.nodup_cons.mp apart).1

/-- The same items at each time, in the same order there. -/
def Alike {α : Type} (time : α → Int64) (first second : List α) : Prop :=
  ∀ moment, (first.filter fun item => time item = moment) =
    second.filter fun item => time item = moment

namespace Alike

variable {α : Type} {time : α → Int64} {first second third : List α}

theorem symm (alike : Alike time first second) : Alike time second first :=
  fun moment => (alike moment).symm

theorem trans (alike : Alike time first second) (alike' : Alike time second third) :
    Alike time first third :=
  fun moment => (alike moment).trans (alike' moment)

/-- Items of different times are alike in whatever order they come. -/
theorem of_perm (permuted : first.Perm second) (distinct : (first.map time).Nodup) :
    Alike time first second :=
  fun moment => filter_eq_of_perm time permuted distinct moment

theorem mem_of_mem (alike : Alike time first second) {item : α} (member : item ∈ first) :
    item ∈ second := by
  have kept : item ∈ first.filter fun other => time other = time item :=
    List.mem_filter.mpr ⟨member, by simp⟩
  rw [alike (time item)] at kept
  exact (List.mem_filter.mp kept).1

theorem nil_iff (alike : Alike time first second) : first = [] ↔ second = [] := by
  constructor
  · rintro rfl
    exact List.eq_nil_iff_forall_not_mem.mpr fun item member =>
      List.not_mem_nil (alike.symm.mem_of_mem member)
  · rintro rfl
    exact List.eq_nil_iff_forall_not_mem.mpr fun item member =>
      List.not_mem_nil (alike.mem_of_mem member)

/-- Alike lists that are both in the order of time are the same list. -/
theorem eq_of_sorted (alike : Alike time first second) (before : Int64 → Int64 → Prop)
    (antisymm : ∀ {earlier later}, before earlier later → before later earlier → earlier = later)
    (sorted : first.Pairwise fun item other => before (time item) (time other))
    (sorted' : second.Pairwise fun item other => before (time item) (time other)) :
    first = second := by
  induction first generalizing second with
  | nil => exact (alike.nil_iff.mp rfl).symm
  | cons item rest inductionHypothesis =>
      cases second with
      | nil => exact alike.nil_iff.mpr rfl
      | cons item' rest' =>
          have parts := List.pairwise_cons.mp sorted
          have parts' := List.pairwise_cons.mp sorted'
          -- Each head is among the items of the other list, so neither is later.
          have simultaneous : time item = time item' := by
            rcases List.mem_cons.mp (alike.mem_of_mem List.mem_cons_self) with same | later'
            · rw [same]
            · rcases List.mem_cons.mp (alike.symm.mem_of_mem List.mem_cons_self) with same | later
              · rw [same]
              · exact antisymm (parts.1 _ later) (parts'.1 _ later')
          have heads := alike (time item)
          rw [List.filter_cons_of_pos (by simp), List.filter_cons_of_pos (by simp [simultaneous])]
            at heads
          have same : item = item' := (List.cons.inj heads).1
          subst same
          have tails : Alike time rest rest' := by
            intro moment
            have whole := alike moment
            by_cases now : time item = moment
            · rw [List.filter_cons_of_pos (by simpa using now),
                List.filter_cons_of_pos (by simpa using now)] at whole
              exact (List.cons.inj whole).2
            · rw [List.filter_cons_of_neg (by simpa using now),
                List.filter_cons_of_neg (by simpa using now)] at whole
              exact whole
          rw [inductionHypothesis tails parts.2 parts'.2]

/-- A stable sort by time leaves the items of each time as they stand. -/
theorem mergeSort {ordered : α → α → Bool}
    (transitive : ∀ a b c, ordered a b → ordered b c → ordered a c)
    (total : ∀ a b, ordered a b || ordered b a)
    (simultaneous : ∀ a b, time a = time b → ordered a b) (items : List α) :
    Alike time (items.mergeSort ordered) items := by
  intro moment
  have level : (items.filter fun item => time item = moment).Pairwise fun a b => ordered a b := by
    apply List.pairwise_filter.mpr
    apply List.pairwise_of_forall
    intro item other now now'
    exact simultaneous item other ((of_decide_eq_true now).trans (of_decide_eq_true now').symm)
  have kept : (items.filter fun item => time item = moment).Sublist (items.mergeSort ordered) :=
    List.sublist_mergeSort transitive total level List.filter_sublist
  have inside := kept.filter fun item => time item = moment
  rw [List.filter_filter] at inside
  simp only [Bool.and_self] at inside
  refine (inside.eq_of_length ?_).symm
  exact (((List.mergeSort_perm items ordered).filter _).length_eq).symm

end Alike

/-- The items of the greatest time, in their order. -/
def newestBy {α : Type} (time : α → Int64) (items : List α) : List α :=
  items.filter fun item => items.all fun other => time other ≤ time item

/-- One item that is at least as new as all others has the time of every
newest item. -/
theorem newestBy_eq {α : Type} {time : α → Int64} {items : List α} {newest : α}
    (member : newest ∈ items) (greatest : ∀ item ∈ items, time item ≤ time newest) :
    newestBy time items = items.filter fun item => time item = time newest := by
  apply List.filter_congr
  intro item listed
  rw [Bool.eq_iff_iff, List.all_eq_true, decide_eq_true_iff]
  constructor
  · intro above
    exact Int64.le_antisymm (greatest item listed) (of_decide_eq_true (above newest member))
  · intro same other listed'
    rw [same]
    exact decide_eq_true (greatest other listed')

/-! ## Cells -/

namespace Cell

private theorem newer_trans (a b c : Cell) (newer : decide (b.timestamp ≤ a.timestamp))
    (newer' : decide (c.timestamp ≤ b.timestamp)) : decide (c.timestamp ≤ a.timestamp) :=
  decide_eq_true (Int64.le_trans (of_decide_eq_true newer') (of_decide_eq_true newer))

private theorem newer_total (a b : Cell) :
    decide (b.timestamp ≤ a.timestamp) || decide (a.timestamp ≤ b.timestamp) := by
  simpa using Int64.le_total b.timestamp a.timestamp

theorem newestFirst_alike (cells : List Cell) : Alike timestamp (newestFirst cells) cells :=
  Alike.mergeSort newer_trans newer_total (fun a b same => by simp [same]) cells

theorem newestFirst_sorted (cells : List Cell) :
    (newestFirst cells).Pairwise fun cell other => other.timestamp ≤ cell.timestamp :=
  (List.pairwise_mergeSort newer_trans newer_total cells).imp of_decide_eq_true

theorem newestFirst_eq {first second : List Cell} (alike : Alike timestamp first second) :
    newestFirst first = newestFirst second := by
  have sorted : Alike timestamp (newestFirst first) (newestFirst second) :=
    (newestFirst_alike first).trans (alike.trans (newestFirst_alike second).symm)
  exact sorted.eq_of_sorted (fun earlier later => later ≤ earlier)
    (fun newer newer' => Int64.le_antisymm newer' newer) (newestFirst_sorted first)
    (newestFirst_sorted second)

theorem newest?_eq_none_iff {cells : List Cell} : newest? cells = none ↔ cells = [] := by
  constructor
  · intro absent
    cases cells with
    | nil => rfl
    | cons cell rest =>
        rw [newest?] at absent
        split at absent
        · cases absent
        · split at absent <;> cases absent
  · rintro rfl
    rfl

/-- The newest cell is the last one of the greatest timestamp. -/
theorem newest?_spec {cells : List Cell} {newest : Cell} (found : newest? cells = some newest) :
    (∀ cell ∈ cells, cell.timestamp ≤ newest.timestamp) ∧
      (cells.filter fun cell => cell.timestamp = newest.timestamp).getLast? = some newest := by
  induction cells generalizing newest with
  | nil => cases found
  | cons cell rest inductionHypothesis =>
      rw [newest?] at found
      cases later : newest? rest with
      | none =>
          rw [later] at found
          cases found
          rw [newest?_eq_none_iff.mp later]
          exact ⟨by simp, by simp⟩
      | some other =>
          have spec := inductionHypothesis later
          rw [later] at found
          by_cases older : cell.timestamp ≤ other.timestamp
          · simp only [if_pos older] at found
            cases found
            refine ⟨?_, ?_⟩
            · intro candidate member
              rcases List.mem_cons.mp member with same | listed
              · rw [same]
                exact older
              · exact spec.1 candidate listed
            · rw [List.filter_cons]
              split
              · rw [List.getLast?_cons, spec.2]
                rfl
              · exact spec.2
          · simp only [if_neg older] at found
            cases found
            have above : ∀ candidate ∈ rest, candidate.timestamp < cell.timestamp := by
              intro candidate listed
              exact Int64.lt_of_le_of_lt (spec.1 candidate listed) (Int64.not_le.mp older)
            refine ⟨?_, ?_⟩
            · intro candidate member
              rcases List.mem_cons.mp member with same | listed
              · rw [same]
                exact Int64.le_refl _
              · exact Int64.le_of_lt (above candidate listed)
            · have alone : (rest.filter fun candidate =>
                  candidate.timestamp = cell.timestamp) = [] := by
                apply List.filter_eq_nil_iff.mpr
                intro candidate listed same
                have below := above candidate listed
                rw [of_decide_eq_true same] at below
                exact Int64.lt_irrefl below
              rw [List.filter_cons_of_pos (by simp), alone]
              rfl

theorem newest?_eq {first second : List Cell} (alike : Alike timestamp first second) :
    newest? first = newest? second := by
  cases found : newest? first with
  | none =>
      rw [newest?_eq_none_iff] at found
      exact (newest?_eq_none_iff.mpr (alike.nil_iff.mp found)).symm
  | some newest =>
      cases found' : newest? second with
      | none =>
          rw [newest?_eq_none_iff] at found'
          rw [alike.nil_iff.mpr found'] at found
          cases found
      | some newest' =>
          have spec := newest?_spec found
          have spec' := newest?_spec found'
          have member := (List.mem_filter.mp (List.mem_of_getLast? spec.2)).1
          have member' := (List.mem_filter.mp (List.mem_of_getLast? spec'.2)).1
          have simultaneous : newest.timestamp = newest'.timestamp :=
            Int64.le_antisymm (spec'.1 _ (alike.mem_of_mem member))
              (spec.1 _ (alike.symm.mem_of_mem member'))
          have last := spec.2
          rw [simultaneous, alike newest'.timestamp, spec'.2] at last
          exact last.symm

end Cell

/-! ## Numbers -/

namespace Version

private theorem older_trans (a b c : Version) (older : decide (a.timestamp ≤ b.timestamp))
    (older' : decide (b.timestamp ≤ c.timestamp)) : decide (a.timestamp ≤ c.timestamp) :=
  decide_eq_true (Int64.le_trans (of_decide_eq_true older) (of_decide_eq_true older'))

private theorem older_total (a b : Version) :
    decide (a.timestamp ≤ b.timestamp) || decide (b.timestamp ≤ a.timestamp) := by
  simpa using Int64.le_total a.timestamp b.timestamp

theorem oldestFirst_alike (versions : List Version) :
    Alike timestamp (oldestFirst versions) versions :=
  Alike.mergeSort older_trans older_total (fun a b same => by simp [same]) versions

theorem oldestFirst_sorted (versions : List Version) :
    (oldestFirst versions).Pairwise fun version other => version.timestamp ≤ other.timestamp :=
  (List.pairwise_mergeSort older_trans older_total versions).imp of_decide_eq_true

theorem oldestFirst_eq {first second : List Version} (alike : Alike timestamp first second) :
    oldestFirst first = oldestFirst second := by
  have sorted : Alike timestamp (oldestFirst first) (oldestFirst second) :=
    (oldestFirst_alike first).trans (alike.trans (oldestFirst_alike second).symm)
  exact sorted.eq_of_sorted (fun earlier later => earlier ≤ later)
    (fun older older' => Int64.le_antisymm older older') (oldestFirst_sorted first)
    (oldestFirst_sorted second)

theorem timestamp_of_ofCell? {cell : Cell} {version : Version}
    (read : ofCell? cell = some version) : version.timestamp = cell.timestamp := by
  rcases Option.map_eq_some_iff.mp read with ⟨value, _, rfl⟩
  rfl

theorem ofCell?_eq_none_iff {cell : Cell} : ofCell? cell = none ↔ cell.value.length ≠ 8 := by
  rw [ofCell?, Option.map_eq_none_iff, Long.decode?_eq_none_iff]

/-- Reading the numbers of cells keeps them apart by time as they were. -/
theorem ofCells_alike {first second : List Cell} (alike : Alike Cell.timestamp first second) :
    Alike timestamp (ofCells first) (ofCells second) := by
  have moved : ∀ (cells : List Cell) (moment : Int64),
      ((ofCells cells).filter fun version => version.timestamp = moment) =
        ofCells (cells.filter fun cell => cell.timestamp = moment) := by
    intro cells moment
    rw [ofCells, ofCells, List.filter_filterMap, List.filterMap_filter]
    congr 1
    funext cell
    cases read : ofCell? cell with
    | none => simp
    | some version => simp [Option.filter, timestamp_of_ofCell? read]
  intro moment
  rw [moved, moved, alike moment]

end Version

namespace Aggregator

theorem fold_eq (aggregator : Aggregator) {first second : List Version}
    (alike : Alike Version.timestamp first second) :
    aggregator.fold first = aggregator.fold second := by
  rw [fold, fold, Version.oldestFirst_eq alike]

theorem foldCells_eq (aggregator : Aggregator) {first second : List Cell}
    (alike : Alike Cell.timestamp first second) :
    aggregator.foldCells first = aggregator.foldCells second := by
  rw [foldCells, foldCells, aggregator.fold_eq (Version.ofCells_alike alike)]

theorem fold_eq_none_iff (aggregator : Aggregator) {versions : List Version} :
    aggregator.fold versions = none ↔ versions = [] := by
  have same := (Version.oldestFirst_alike versions).nil_iff
  rw [fold, ← same]
  cases Version.oldestFirst versions with
  | nil => simp
  | cons oldest newer => simp

theorem foldCells_eq_none_iff (aggregator : Aggregator) {cells : List Cell} :
    aggregator.foldCells cells = none ↔ Version.ofCells cells = [] := by
  rw [foldCells, Option.map_eq_none_iff, fold_eq_none_iff]

end Aggregator
end FlowRuns
