import FlowRuns.Proofs.Table.Folding
import Mathlib.Algebra.BigOperators.Group.List.Basic
import Mathlib.Algebra.Ring.Int.Defs
import Mathlib.Data.List.Infix

namespace FlowRuns

/-!
# Sums of versions

A sum of versions is moved back into the range of 64-bit numbers after each
addition.  So what it comes to may depend on the order of the additions, which is
that of time.  It is the exact sum as long as that stays in the range.  More than
that, it is the number of the range nearest to the exact sum if the additions never
turn back once the exact sum has left the range.  Values of one sign cannot turn
back.  What they add up to is a function of the exact sum alone, and neither their
order nor their times matter.
-/

namespace Version

/-! ## Exact sums -/

/-- The value of a version as an integer of any size. -/
def number (version : Version) : Int :=
  version.value.toInt

/-- The sum of the values of some versions as an integer of any size. -/
def total (versions : List Version) : Int :=
  (versions.map number).sum

theorem total_concat (versions : List Version) (next : Version) :
    total (versions ++ [next]) = total versions + next.number := by
  simp [total]

theorem total_eq_of_perm {versions versions' : List Version}
    (permuted : versions.Perm versions') : total versions = total versions' :=
  (permuted.map number).sum_eq

theorem total_oldestFirst (versions : List Version) :
    total (oldestFirst versions) = total versions :=
  total_eq_of_perm (List.mergeSort_perm versions _)

theorem total_nonneg {versions : List Version}
    (positive : ∀ version ∈ versions, 0 ≤ version.number) : 0 ≤ total versions :=
  List.sum_induction (fun sum : Int => 0 ≤ sum) (fun _ _ => Int.add_nonneg) (Int.le_refl 0)
    (List.forall_mem_map.mpr positive)

theorem total_nonpos {versions : List Version}
    (negative : ∀ version ∈ versions, version.number ≤ 0) : total versions ≤ 0 :=
  List.sum_induction (fun sum : Int => sum ≤ 0) (fun _ _ => Int.add_nonpos) (Int.le_refl 0)
    (List.forall_mem_map.mpr negative)

/-! ## The range of 64-bit numbers -/

/-- The integers that are 64-bit numbers. -/
def Fits (sum : Int) : Prop :=
  Int64.minValue.toInt ≤ sum ∧ sum ≤ Int64.maxValue.toInt

instance : DecidablePred Fits := fun sum =>
  inferInstanceAs (Decidable (Int64.minValue.toInt ≤ sum ∧ sum ≤ Int64.maxValue.toInt))

/-- The 64-bit number nearest to an integer, as an integer. -/
def nearest (sum : Int) : Int :=
  max Int64.minValue.toInt (min sum Int64.maxValue.toInt)

private theorem range_around_zero : Int64.minValue.toInt < 0 ∧ 0 < Int64.maxValue.toInt := by
  decide

theorem fits_number (version : Version) : Fits version.number :=
  ⟨version.value.le_toInt, version.value.toInt_le⟩

theorem nearest_of_fits {sum : Int} (fits : Fits sum) : nearest sum = sum := by
  rw [Fits] at fits
  rw [nearest]
  omega

theorem nearest_of_nonneg {sum : Int} (positive : 0 ≤ sum) :
    nearest sum = min sum Int64.maxValue.toInt := by
  have range := range_around_zero
  rw [nearest]
  omega

theorem nearest_of_nonpos {sum : Int} (negative : sum ≤ 0) :
    nearest sum = max sum Int64.minValue.toInt := by
  have range := range_around_zero
  rw [nearest]
  omega

/-- That a sum was moved into the range does not show after another addition, unless
this one turns back from beyond the range. -/
theorem nearest_nearest_add {sum next : Int} (above : Int64.maxValue.toInt < sum → 0 ≤ next)
    (below : sum < Int64.minValue.toInt → next ≤ 0) :
    nearest (nearest sum + next) = nearest (sum + next) := by
  have range := range_around_zero
  simp only [nearest]
  omega

theorem toInt_ofIntClamp (sum : Int) : (Int64.ofIntClamp sum).toInt = nearest sum := by
  have range := range_around_zero
  rw [Int64.ofIntClamp, nearest]
  split
  · split
    · rw [Int64.toInt_ofIntLE]
      omega
    · omega
  · omega

/-! ## Additions that do not turn back -/

/-- Whenever the exact sum of the first versions is beyond the range, the next
version does not lead back. -/
def NeverTurnsBack (versions : List Version) : Prop :=
  ∀ front next, front ++ [next] <+: versions →
    (Int64.maxValue.toInt < total front → 0 ≤ next.number) ∧
      (total front < Int64.minValue.toInt → next.number ≤ 0)

theorem NeverTurnsBack.of_front {front versions : List Version}
    (straight : NeverTurnsBack versions) (begins : front <+: versions) : NeverTurnsBack front :=
  fun front' next begins' => straight front' next (begins'.trans begins)

theorem neverTurnsBack_of_fits {versions : List Version}
    (fits : ∀ front, front <+: versions → Fits (total front)) : NeverTurnsBack versions := by
  intro front next begins
  have inside := fits front ((List.prefix_append front [next]).trans begins)
  rw [Fits] at inside
  constructor
  · intro above
    omega
  · intro below
    omega

theorem neverTurnsBack_of_nonneg {versions : List Version}
    (positive : ∀ version ∈ versions, 0 ≤ version.number) : NeverTurnsBack versions := by
  intro front next begins
  have range := range_around_zero
  have sum := total_nonneg fun version listed =>
    positive version (begins.subset (List.mem_append_left [next] listed))
  refine ⟨fun _ => positive next (begins.subset (by simp)), fun below => ?_⟩
  omega

theorem neverTurnsBack_of_nonpos {versions : List Version}
    (negative : ∀ version ∈ versions, version.number ≤ 0) : NeverTurnsBack versions := by
  intro front next begins
  have range := range_around_zero
  have sum := total_nonpos fun version listed =>
    negative version (begins.subset (List.mem_append_left [next] listed))
  refine ⟨fun above => ?_, fun _ => negative next (begins.subset (by simp))⟩
  omega

/-! ## What the additions come to -/

theorem number_extend_sum (merged next : Version) :
    (Aggregator.sum.extend merged next).number = nearest (merged.number + next.number) :=
  toInt_ofIntClamp _

/-- While the additions do not turn back, what they have come to is the number
nearest to the exact sum. -/
theorem number_foldl_sum {oldest : Version} {newer : List Version}
    (straight : NeverTurnsBack (oldest :: newer)) :
    (newer.foldl Aggregator.sum.extend oldest).number = nearest (total (oldest :: newer)) := by
  induction newer using List.reverseRecOn with
  | nil =>
      rw [List.foldl_nil, total, List.map_singleton, List.sum_singleton,
        nearest_of_fits oldest.fits_number]
  | append_singleton older next inductionHypothesis =>
      have before := inductionHypothesis
        (straight.of_front (List.prefix_append (oldest :: older) [next]))
      have turn := straight (oldest :: older) next (List.prefix_refl _)
      calc
        ((older ++ [next]).foldl Aggregator.sum.extend oldest).number
        _ = nearest ((older.foldl Aggregator.sum.extend oldest).number + next.number) := by
          rw [List.foldl_concat, number_extend_sum]
        _ = nearest (total (oldest :: older) + next.number) := by
          rw [before, nearest_nearest_add turn.1 turn.2]
        _ = nearest (total (oldest :: (older ++ [next]))) := by
          rw [← total_concat, List.cons_append]

theorem number_fold_sum {versions : List Version} (present : versions ≠ [])
    (straight : NeverTurnsBack (oldestFirst versions)) :
    (Aggregator.sum.fold versions).map number = some (nearest (total versions)) := by
  rw [← total_oldestFirst, Aggregator.fold]
  cases sorted : oldestFirst versions with
  | nil => exact absurd ((oldestFirst_alike versions).nil_iff.mp sorted) present
  | cons oldest newer =>
      rw [sorted] at straight
      rw [Option.map_some, number_foldl_sum straight]

theorem number_fold_sum_of_nonneg {versions : List Version} (present : versions ≠ [])
    (positive : ∀ version ∈ versions, 0 ≤ version.number) :
    (Aggregator.sum.fold versions).map number = some (min (total versions) Int64.maxValue.toInt) := by
  have straight : NeverTurnsBack (oldestFirst versions) :=
    neverTurnsBack_of_nonneg fun version listed => positive version (List.mem_mergeSort.mp listed)
  rw [number_fold_sum present straight, nearest_of_nonneg (total_nonneg positive)]

theorem number_fold_sum_of_nonpos {versions : List Version} (present : versions ≠ [])
    (negative : ∀ version ∈ versions, version.number ≤ 0) :
    (Aggregator.sum.fold versions).map number = some (max (total versions) Int64.minValue.toInt) := by
  have straight : NeverTurnsBack (oldestFirst versions) :=
    neverTurnsBack_of_nonpos fun version listed => negative version (List.mem_mergeSort.mp listed)
  rw [number_fold_sum present straight, nearest_of_nonpos (total_nonpos negative)]

/-- What versions add up to is always there and a 64-bit number.  It is the exact sum
if each sum on the way, in the order of time, is a 64-bit number.  Values that are not
negative give the exact sum or else the greatest number, and values that are not
positive give the exact sum or else the least, in whatever order they are listed and
even if timestamps repeat. -/
theorem fold_sum_saturates (versions : List Version) (present : versions ≠ []) :
    (∃ merged, Aggregator.sum.fold versions = some merged ∧ Fits merged.number) ∧
    ((∀ front, front <+: oldestFirst versions → Fits (total front)) →
      (Aggregator.sum.fold versions).map number = some (total versions)) ∧
    ∀ listed : List Version, listed.Perm versions →
      ((∀ version ∈ versions, 0 ≤ version.number) →
        (Aggregator.sum.fold listed).map number = some (min (total versions) Int64.maxValue.toInt)) ∧
      ((∀ version ∈ versions, version.number ≤ 0) →
        (Aggregator.sum.fold listed).map number = some (max (total versions) Int64.minValue.toInt)) := by
  refine ⟨?_, ?_, ?_⟩
  · cases folded : Aggregator.sum.fold versions with
    | none => exact absurd (Aggregator.sum.fold_eq_none_iff.mp folded) present
    | some merged => exact ⟨merged, rfl, merged.fits_number⟩
  · intro fits
    have whole := fits _ (List.prefix_refl _)
    rw [total_oldestFirst] at whole
    rw [number_fold_sum present (neverTurnsBack_of_fits fits), nearest_of_fits whole]
  · intro listed permuted
    have present' : listed ≠ [] := by
      rintro rfl
      exact present permuted.nil_eq.symm
    rw [← total_eq_of_perm permuted]
    constructor
    · intro positive
      exact number_fold_sum_of_nonneg present' fun version member =>
        positive version (permuted.mem_iff.mp member)
    · intro negative
      exact number_fold_sum_of_nonpos present' fun version member =>
        negative version (permuted.mem_iff.mp member)

/-- In the order of time the greatest number is added to a debt, which leaves room for
one more.  At one time it leaves none, in whichever order the two are listed, and
neither is anything less than the least number. -/
theorem fold_sum_saturates_near_bounds :
    ([⟨2, Int64.maxValue⟩, ⟨3, 1⟩, ⟨1, -5⟩] : List Version) ≠ [] ∧
    (∀ front, front <+: oldestFirst [⟨2, Int64.maxValue⟩, ⟨3, 1⟩, ⟨1, -5⟩] →
      Fits (total front)) ∧
    (Aggregator.sum.fold [⟨2, Int64.maxValue⟩, ⟨3, 1⟩, ⟨1, -5⟩]).map number =
      some (Int64.maxValue.toInt - 4) ∧
    ([⟨4, 1⟩, ⟨4, Int64.maxValue⟩] : List Version).Perm [⟨4, Int64.maxValue⟩, ⟨4, 1⟩] ∧
    (∀ version ∈ ([⟨4, Int64.maxValue⟩, ⟨4, 1⟩] : List Version), 0 ≤ version.number) ∧
    (Aggregator.sum.fold [⟨4, 1⟩, ⟨4, Int64.maxValue⟩]).map number =
      some Int64.maxValue.toInt ∧
    (∀ version ∈ ([⟨9, Int64.minValue⟩, ⟨2, -1⟩] : List Version), version.number ≤ 0) ∧
    (Aggregator.sum.fold [⟨9, Int64.minValue⟩, ⟨2, -1⟩]).map number =
      some Int64.minValue.toInt := by
  have present : ([⟨2, Int64.maxValue⟩, ⟨3, 1⟩, ⟨1, -5⟩] : List Version) ≠ [] :=
    List.cons_ne_nil _ _
  have sorted : oldestFirst [⟨2, Int64.maxValue⟩, ⟨3, 1⟩, ⟨1, -5⟩] =
      [⟨1, -5⟩, ⟨2, Int64.maxValue⟩, ⟨3, 1⟩] := by cbv
  have fits : ∀ front, front <+: oldestFirst [⟨2, Int64.maxValue⟩, ⟨3, 1⟩, ⟨1, -5⟩] →
      Fits (total front) := by
    have inside : ∀ front ∈ ([⟨1, -5⟩, ⟨2, Int64.maxValue⟩, ⟨3, 1⟩] : List Version).inits,
        Fits (total front) := by decide
    intro front begins
    rw [sorted] at begins
    exact inside front ((List.mem_inits _ _).mpr begins)
  have permuted :
      ([⟨4, 1⟩, ⟨4, Int64.maxValue⟩] : List Version).Perm [⟨4, Int64.maxValue⟩, ⟨4, 1⟩] :=
    List.Perm.swap _ _ _
  have positive : ∀ version ∈ ([⟨4, Int64.maxValue⟩, ⟨4, 1⟩] : List Version),
      0 ≤ version.number := by decide
  have negative : ∀ version ∈ ([⟨9, Int64.minValue⟩, ⟨2, -1⟩] : List Version),
      version.number ≤ 0 := by decide
  refine ⟨present, fits, ?_, permuted, positive, ?_, negative, ?_⟩
  · rw [(fold_sum_saturates _ present).2.1 fits]
    decide
  · rw [((fold_sum_saturates _ (List.cons_ne_nil _ _)).2.2 _ permuted).1 positive]
    decide
  · rw [((fold_sum_saturates _ (List.cons_ne_nil _ _)).2.2 _ (List.Perm.refl _)).2 negative]
    decide

/-- Once the sum has left the range, turning back shows: the exact sum here is the
greatest number. -/
example :
    Aggregator.sum.fold [⟨1, Int64.maxValue⟩, ⟨2, 1⟩, ⟨3, -1⟩] = some ⟨3, Int64.maxValue - 1⟩ := by
  cbv

end Version
end FlowRuns
