import FlowRuns.Proofs.Table.Versions
import Mathlib.Data.List.Pairwise
import Mathlib.Data.List.Permutation

namespace FlowRuns

/-!
# What versions come to

Versions are put in the order of their times before they are merged, and the
sort that does so is stable.  What they come to therefore depends on the order
in which they are listed only where timestamps repeat, whatever the merge is.
It always carries the greatest timestamp.  A merge that picks the lesser or the
greater value arrives at an extreme of all values, and for these two the order
does not matter at all.  A merge that keeps the newer value arrives at the
version that is listed last among those of the greatest timestamp.
-/

/-- The greater of two 64-bit numbers is one of them and no less than the other. -/
instance int64LeftLeaningMax : Std.LawfulOrderLeftLeaningMax Int64 where
  max_eq_left first second above := by
    change (if first ≤ second then second else first) = first
    split
    · next below => exact Int64.le_antisymm above below
    · rfl
  max_eq_right first second above := by
    have below : first ≤ second := Int64.le_of_lt (Int64.not_le.mp above)
    exact if_pos below

theorem min?_eq_of_perm {numbers numbers' : List Int64} (permuted : numbers.Perm numbers') :
    numbers.min? = numbers'.min? := by
  apply Option.ext
  intro least
  simp only [List.min?_eq_some_iff, permuted.mem_iff]

theorem max?_eq_of_perm {numbers numbers' : List Int64} (permuted : numbers.Perm numbers') :
    numbers.max? = numbers'.max? := by
  apply Option.ext
  intro greatest
  simp only [List.max?_eq_some_iff, permuted.mem_iff]

namespace Version

/-- The versions of the greatest timestamp, in the order in which they are listed. -/
def newestOf (versions : List Version) : List Version :=
  newestBy timestamp versions

/-- No version is newer than the last one in the order of time. -/
theorem le_of_getLast?_oldestFirst {versions : List Version} {newest : Version}
    (last : (oldestFirst versions).getLast? = some newest) :
    newest ∈ versions ∧ ∀ version ∈ versions, version.timestamp ≤ newest.timestamp := by
  have members : ∀ version, version ∈ oldestFirst versions ↔ version ∈ versions :=
    fun _ => List.mem_mergeSort
  rcases List.getLast?_eq_some_iff.mp last with ⟨older, whole⟩
  have sorted := oldestFirst_sorted versions
  rw [whole] at sorted members
  refine ⟨(members newest).mp (by simp), ?_⟩
  intro version listed
  rcases List.mem_append.mp ((members version).mpr listed) with before | same
  · exact (List.pairwise_append.mp sorted).2.2 version before newest (by simp)
  · rw [List.mem_singleton.mp same]
    exact Int64.le_refl _

/-- Sorting by time puts the newest version that is listed last at the end. -/
theorem getLast?_oldestFirst (versions : List Version) :
    (oldestFirst versions).getLast? = (newestOf versions).getLast? := by
  have alike := oldestFirst_alike versions
  cases last : (oldestFirst versions).getLast? with
  | none =>
      rw [List.getLast?_eq_none_iff] at last
      rw [alike.nil_iff.mp last]
      rfl
  | some newest =>
      rcases le_of_getLast?_oldestFirst last with ⟨member, greatest⟩
      rcases List.getLast?_eq_some_iff.mp last with ⟨older, whole⟩
      rw [newestOf, newestBy_eq member greatest, ← alike newest.timestamp, whole]
      simp

end Version

namespace Aggregator

/-! ## Merging one by one -/

/-- Whatever an aggregator takes over from the newer version is that of the last
version merged. -/
theorem view_foldl_extend {β : Type} (aggregator : Aggregator) (view : Version → β)
    (takes : ∀ merged next, view (aggregator.extend merged next) = view next)
    (newer : List Version) (oldest : Version) :
    some (view (newer.foldl aggregator.extend oldest)) =
      (oldest :: newer).getLast?.map view := by
  induction newer generalizing oldest with
  | nil => rfl
  | cons next rest inductionHypothesis =>
      rw [List.foldl_cons, inductionHypothesis, List.getLast?_cons_cons]
      cases rest with
      | nil => exact congrArg some (takes oldest next)
      | cons later rest => rw [List.getLast?_cons_cons, List.getLast?_cons_cons]

theorem view_fold {β : Type} (aggregator : Aggregator) (view : Version → β)
    (takes : ∀ merged next, view (aggregator.extend merged next) = view next)
    (versions : List Version) :
    (aggregator.fold versions).map view = (Version.newestOf versions).getLast?.map view := by
  rw [← Version.getLast?_oldestFirst, fold]
  cases Version.oldestFirst versions with
  | nil => rfl
  | cons oldest newer => exact aggregator.view_foldl_extend view takes newer oldest

theorem value_foldl_extend (aggregator : Aggregator) (newer : List Version) (oldest : Version) :
    (newer.foldl aggregator.extend oldest).value =
      (newer.map Version.value).foldl aggregator.merge oldest.value := by
  induction newer generalizing oldest with
  | nil => rfl
  | cons next rest inductionHypothesis =>
      rw [List.foldl_cons, inductionHypothesis]
      rfl

/-! ## What each aggregator arrives at -/

/-- What versions come to carries the greatest timestamp. -/
theorem timestamp_fold (aggregator : Aggregator) (versions : List Version) :
    (aggregator.fold versions).map Version.timestamp =
      (versions.map Version.timestamp).max? := by
  rw [aggregator.view_fold Version.timestamp (fun _ _ => rfl), ← Version.getLast?_oldestFirst]
  cases last : (Version.oldestFirst versions).getLast? with
  | none =>
      rw [List.getLast?_eq_none_iff] at last
      rw [(Version.oldestFirst_alike versions).nil_iff.mp last]
      rfl
  | some newest =>
      rcases Version.le_of_getLast?_oldestFirst last with ⟨member, greatest⟩
      refine (List.max?_eq_some_iff.mpr ⟨List.mem_map_of_mem member, ?_⟩).symm
      intro time listed
      rcases List.mem_map.mp listed with ⟨version, present, rfl⟩
      exact greatest version present

/-- An aggregator that merges values as some summary of a list does comes to the
summary of all values, provided that the summary does not look at their order. -/
theorem value_fold {aggregator : Aggregator} {summary : List Int64 → Option Int64}
    (empty : summary [] = none)
    (merges : ∀ first rest, summary (first :: rest) = some (rest.foldl aggregator.merge first))
    (unordered : ∀ {values values' : List Int64}, values.Perm values' →
      summary values = summary values')
    (versions : List Version) :
    (aggregator.fold versions).map Version.value = summary (versions.map Version.value) := by
  have permuted : ((Version.oldestFirst versions).map Version.value).Perm
      (versions.map Version.value) :=
    (List.mergeSort_perm versions _).map Version.value
  rw [← unordered permuted, fold]
  cases Version.oldestFirst versions with
  | nil => exact empty.symm
  | cons oldest newer => rw [Option.map_some, value_foldl_extend, List.map_cons, merges]

theorem value_fold_min (versions : List Version) :
    (min.fold versions).map Version.value = (versions.map Version.value).min? := by
  have lesser : Min.min = min.merge := by
    funext existing incoming
    change (if existing ≤ incoming then existing else incoming) =
      if incoming < existing then incoming else existing
    simp only [← Int64.not_le, ite_not]
  refine value_fold rfl ?_ ?_ versions
  · intro first rest
    rw [List.min?_cons', lesser]
  · exact min?_eq_of_perm

theorem value_fold_max (versions : List Version) :
    (max.fold versions).map Version.value = (versions.map Version.value).max? := by
  have greater : Max.max = max.merge := by
    funext existing incoming
    change Max.max existing incoming = if existing < incoming then incoming else existing
    split
    · next less => exact Std.LawfulOrderLeftLeaningMax.max_eq_right _ _ (Int64.not_le.mpr less)
    · next above => exact Std.LawfulOrderLeftLeaningMax.max_eq_left _ _ (Int64.not_lt.mp above)
  refine value_fold rfl ?_ ?_ versions
  · intro first rest
    rw [List.max?_cons', greater]
  · exact max?_eq_of_perm

/-- What versions come to depends on their times and not on the order in which
they are listed.  It is absent for no versions only and carries the greatest
timestamp.  If timestamps do not repeat, every order gives the same, whatever
the merge is.  Even if they repeat, the least and the greatest value are arrived
at in every order, and the last write is the version that is listed last among
those of the greatest timestamp. -/
theorem fold_by_time :
    (∀ (aggregator : Aggregator) (versions : List Version),
      (aggregator.fold versions = none ↔ versions = []) ∧
      (aggregator.fold versions).map Version.timestamp =
        (versions.map Version.timestamp).max?) ∧
    (∀ (aggregator : Aggregator) (first second : List Version), first.Perm second →
      (first.map Version.timestamp).Nodup → aggregator.fold first = aggregator.fold second) ∧
    (∀ first second : List Version, first.Perm second →
      (min.fold first).map Version.value = (second.map Version.value).min? ∧
      (max.fold first).map Version.value = (second.map Version.value).max?) ∧
    ∀ versions : List Version,
      lastWriteWins.fold versions = (Version.newestOf versions).getLast? := by
  refine ⟨?_, ?_, ?_, ?_⟩
  · intro aggregator versions
    exact ⟨aggregator.fold_eq_none_iff, aggregator.timestamp_fold versions⟩
  · intro aggregator first second permuted distinct
    exact aggregator.fold_eq (Alike.of_perm permuted distinct)
  · intro first second permuted
    rw [value_fold_min, value_fold_max]
    exact ⟨min?_eq_of_perm (permuted.map Version.value),
      max?_eq_of_perm (permuted.map Version.value)⟩
  · intro versions
    have whole := lastWriteWins.view_fold id (fun _ _ => rfl) versions
    rwa [Option.map_id, id_eq, id_eq] at whole

/-- Differences are merged in the order of time, and the least value of versions
is found although two of them have the same time. -/
theorem fold_by_time_of_differences :
    [(⟨3, 1⟩ : Version), ⟨1, 5⟩, ⟨2, 9⟩].Perm [⟨1, 5⟩, ⟨2, 9⟩, ⟨3, 1⟩] ∧
    ([(⟨3, 1⟩ : Version), ⟨1, 5⟩, ⟨2, 9⟩].map Version.timestamp).Nodup ∧
    fold ⟨"difference", fun existing incoming => existing - incoming⟩
      [⟨3, 1⟩, ⟨1, 5⟩, ⟨2, 9⟩] = some ⟨3, -5⟩ ∧
    [(⟨4, 7⟩ : Version), ⟨4, -2⟩, ⟨1, 3⟩].Perm [⟨1, 3⟩, ⟨4, -2⟩, ⟨4, 7⟩] ∧
    (min.fold [⟨4, 7⟩, ⟨4, -2⟩, ⟨1, 3⟩]).map Version.value = some (-2) := by
  have permuted : [(⟨3, 1⟩ : Version), ⟨1, 5⟩, ⟨2, 9⟩].Perm [⟨1, 5⟩, ⟨2, 9⟩, ⟨3, 1⟩] := by decide
  have distinct : ([(⟨3, 1⟩ : Version), ⟨1, 5⟩, ⟨2, 9⟩].map Version.timestamp).Nodup := by decide
  have tied : [(⟨4, 7⟩ : Version), ⟨4, -2⟩, ⟨1, 3⟩].Perm [⟨1, 3⟩, ⟨4, -2⟩, ⟨4, 7⟩] := by decide
  refine ⟨permuted, distinct, ?_, tied, ?_⟩
  · rw [fold_by_time.2.1 _ _ _ permuted distinct]
    cbv
  · rw [(fold_by_time.2.2.1 _ _ tied).1]
    decide

/-- Of two writes at one time the one that is listed last counts, so here the
order matters. -/
example :
    lastWriteWins.fold [⟨1, 2⟩, ⟨1, 3⟩] = some ⟨1, 3⟩ ∧
      lastWriteWins.fold [⟨1, 3⟩, ⟨1, 2⟩] = some ⟨1, 2⟩ := by
  constructor
  · cbv
  · cbv

end Aggregator
end FlowRuns
