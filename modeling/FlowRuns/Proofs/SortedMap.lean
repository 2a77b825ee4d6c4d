import FlowRuns.SortedMap

namespace FlowRuns

/-!
# Sorted maps by what they find

The entries of a sorted map are its look-ups and nothing more, so maps that
find the same are equal.  A map that grew by alterations, one for each item of
a list, finds at a key what the items for that key made of it, in their order
(`find?_foldl_alter`).  Gathering is the case in which every item is kept.
-/

namespace SortedMap

variable {κ ν : Type} [Ord κ]

theorem ne_of_ascending [Std.TransOrd κ] {key other : κ} (below : compare key other = .lt) :
    key ≠ other := by
  rintro rfl
  rw [Std.compare_self] at below
  cases below

theorem mem_of_lookup_eq_some [Std.LawfulEqOrd κ] {key : κ} {value : ν} {entries : List (κ × ν)}
    (found : lookup key entries = some value) : (key, value) ∈ entries := by
  induction entries with
  | nil => cases found
  | cons head rest inductionHypothesis =>
      rcases head with ⟨other, first⟩
      rw [lookup] at found
      by_cases same : compare key other = .eq
      · rw [if_pos same] at found
        cases found
        rw [Std.LawfulEqOrd.eq_of_compare same]
        exact List.mem_cons_self
      · rw [if_neg same] at found
        exact List.mem_cons_of_mem _ (inductionHypothesis found)

theorem lookup_eq_some_of_mem [Std.TransOrd κ] {key : κ} {value : ν} {entries : List (κ × ν)}
    (ascending : entries.Pairwise fun first second => compare first.1 second.1 = .lt)
    (member : (key, value) ∈ entries) : lookup key entries = some value := by
  induction entries with
  | nil => exact absurd member List.not_mem_nil
  | cons head rest inductionHypothesis =>
      rcases head with ⟨other, first⟩
      have parts := List.pairwise_cons.mp ascending
      rw [lookup]
      rcases List.mem_cons.mp member with same | later
      · cases same
        rw [if_pos Std.compare_self]
      · have above : compare key other = .gt := Std.OrientedCmp.gt_iff_lt.mpr (parts.1 _ later)
        rw [if_neg (by rw [above]; decide)]
        exact inductionHypothesis parts.2 later

theorem find?_eq_some_iff [Std.TransOrd κ] [Std.LawfulEqOrd κ] {map : SortedMap κ ν} {key : κ}
    {value : ν} : map.find? key = some value ↔ (key, value) ∈ map.entries :=
  ⟨mem_of_lookup_eq_some, lookup_eq_some_of_mem map.ascending⟩

/-- Items in ascending order of some keys are determined by their membership. -/
theorem eq_of_ascending [Std.TransOrd κ] {α : Type} (keyOf : α → κ) {items items' : List α}
    (ascending : items.Pairwise fun first second => compare (keyOf first) (keyOf second) = .lt)
    (ascending' : items'.Pairwise fun first second => compare (keyOf first) (keyOf second) = .lt)
    (same : ∀ item, item ∈ items ↔ item ∈ items') : items = items' := by
  have apart : ∀ {first second : α}, compare (keyOf first) (keyOf second) = .lt →
      first ≠ second := fun below equal => ne_of_ascending below (congrArg keyOf equal)
  have permuted : items.Perm items' :=
    (List.perm_ext_iff_of_nodup (ascending.imp apart) (ascending'.imp apart)).mpr same
  refine permuted.eq_of_pairwise ?_ ascending ascending'
  intro item other _ _ below above
  exact absurd rfl (apart (Std.TransCmp.lt_trans below above))

/-- A map is determined by what it finds. -/
theorem ext_find? [Std.TransOrd κ] [Std.LawfulEqOrd κ] {first second : SortedMap κ ν}
    (same : ∀ key, first.find? key = second.find? key) : first = second := by
  apply SortedMap.ext
  refine eq_of_ascending Prod.fst first.ascending second.ascending ?_
  rintro ⟨key, value⟩
  rw [← find?_eq_some_iff, ← find?_eq_some_iff, same key]

/-! ## Keys -/

/-- The keys of a map, in ascending order. -/
def keys (map : SortedMap κ ν) : List κ :=
  map.entries.map Prod.fst

theorem ascending_keys (map : SortedMap κ ν) :
    map.keys.Pairwise fun first second => compare first second = .lt :=
  List.pairwise_map.mpr map.ascending

/-- The keys of a map are distinct. -/
theorem nodup_keys [Std.TransOrd κ] (map : SortedMap κ ν) : map.keys.Nodup :=
  map.ascending_keys.imp ne_of_ascending

theorem mem_keys [Std.TransOrd κ] [Std.LawfulEqOrd κ] {map : SortedMap κ ν} {key : κ} :
    key ∈ map.keys ↔ ∃ value, map.find? key = some value := by
  rw [keys, List.mem_map]
  constructor
  · rintro ⟨⟨_, value⟩, listed, rfl⟩
    exact ⟨value, find?_eq_some_iff.mpr listed⟩
  · rintro ⟨value, found⟩
    exact ⟨(key, value), find?_eq_some_iff.mp found, rfl⟩

/-! ## Parts of a map -/

theorem find?_filterMap [Std.TransOrd κ] [Std.LawfulEqOrd κ] {μ : Type} (map : SortedMap κ ν)
    (change : ν → Option μ) (key : κ) :
    (map.filterMap change).find? key = (map.find? key).bind change := by
  apply Option.ext
  intro value
  rw [find?_eq_some_iff, filterMap, List.mem_filterMap, Option.bind_eq_some_iff]
  constructor
  · rintro ⟨⟨other, old⟩, listed, kept⟩
    rcases Option.map_eq_some_iff.mp kept with ⟨new, changed, pair⟩
    cases pair
    exact ⟨old, find?_eq_some_iff.mpr listed, changed⟩
  · rintro ⟨old, found, changed⟩
    exact ⟨(key, old), find?_eq_some_iff.mp found, by rw [changed, Option.map_some]⟩

/-- The entries whose keys are kept. -/
def restrict (map : SortedMap κ ν) (keeps : κ → Bool) : SortedMap κ ν where
  entries := map.entries.filter fun entry => keeps entry.1
  ascending := map.ascending.filter _

theorem find?_restrict [Std.TransOrd κ] [Std.LawfulEqOrd κ] (map : SortedMap κ ν)
    (keeps : κ → Bool) (key : κ) :
    (map.restrict keeps).find? key = if keeps key then map.find? key else none := by
  apply Option.ext
  intro value
  rw [find?_eq_some_iff, restrict, List.mem_filter, ← find?_eq_some_iff]
  by_cases kept : keeps key <;> simp [kept]

/-- Only the entry at one key counts for a function that gives nothing at
every other key. -/
theorem flatMap_entries [Std.TransOrd κ] [Std.LawfulEqOrd κ] {α : Type} (map : SortedMap κ ν)
    (key : κ) (give : κ × ν → List α)
    (elsewhere : ∀ entry ∈ map.entries, entry.1 ≠ key → give entry = []) :
    map.entries.flatMap give = ((map.find? key).map fun value => give (key, value)).getD [] := by
  cases found : map.find? key with
  | none =>
      apply List.flatMap_eq_nil_iff.mpr
      intro entry listed
      apply elsewhere entry listed
      rintro rfl
      have present : map.find? entry.1 = some entry.2 := find?_eq_some_iff.mpr listed
      rw [present] at found
      cases found
  | some value =>
      rcases List.append_of_mem (find?_eq_some_iff.mp found) with ⟨before, after, whole⟩
      have distinct := map.nodup_keys
      rw [keys, whole, List.map_append, List.map_cons] at distinct
      have apart := List.nodup_append.mp distinct
      have silentBefore : before.flatMap give = [] := by
        apply List.flatMap_eq_nil_iff.mpr
        intro entry listed
        apply elsewhere entry
        · rw [whole]
          exact List.mem_append_left _ listed
        · exact apart.2.2 _ (List.mem_map_of_mem listed) _ List.mem_cons_self
      have silentAfter : after.flatMap give = [] := by
        apply List.flatMap_eq_nil_iff.mpr
        intro entry listed
        apply elsewhere entry
        · rw [whole]
          exact List.mem_append_right _ (List.mem_cons_of_mem _ listed)
        · intro same
          have repeated : entry.1 ∈ after.map Prod.fst := List.mem_map_of_mem listed
          rw [same] at repeated
          exact (List.nodup_cons.mp apart.2.1).1 repeated
      rw [whole, List.flatMap_append, List.flatMap_cons, silentBefore, silentAfter,
        List.nil_append, List.append_nil]
      rfl

/-! ## Maps that grow item by item -/

variable {α : Type} [Std.TransOrd κ] [Std.LawfulEqOrd κ] [DecidableEq κ]

/-- What the items for one key, in their order, make of the value there. -/
theorem find?_foldl_alter (keyOf : α → κ) (update : α → Option ν → ν) (items : List α)
    (map : SortedMap κ ν) (key : κ) :
    (items.foldl (fun grown item => grown.alter (keyOf item) (update item)) map).find? key =
      (items.filter fun item => keyOf item = key).foldl (fun old item => some (update item old))
        (map.find? key) := by
  induction items generalizing map with
  | nil => rfl
  | cons item rest inductionHypothesis =>
      rw [List.foldl_cons, inductionHypothesis, List.filter_cons]
      by_cases same : keyOf item = key
      · subst same
        rw [find?_alter_self, if_pos (by simp), List.foldl_cons]
      · rw [find?_alter_of_ne _ (Ne.symm same), if_neg (by simpa using same)]

/-- At most one entry has a key. -/
theorem filter_entries (map : SortedMap κ ν) (key : κ) :
    (map.entries.filter fun entry => entry.1 = key) =
      ((map.find? key).map fun value => (key, value)).toList := by
  have joined : ∀ entries : List (κ × ν), (entries.filter fun entry => entry.1 = key) =
      entries.flatMap fun entry => if entry.1 = key then [entry] else [] := by
    intro entries
    induction entries with
    | nil => rfl
    | cons entry rest inductionHypothesis =>
        rw [List.filter_cons, List.flatMap_cons, inductionHypothesis]
        by_cases same : entry.1 = key <;> simp [same]
  rw [joined, map.flatMap_entries key _ fun entry _ different => if_neg different]
  cases map.find? key with
  | none => rfl
  | some value => simp

/-- A map is made again by inserting its entries. -/
theorem foldl_insert_entries (map : SortedMap κ ν) :
    map.entries.foldl (fun grown entry => grown.insert entry.1 entry.2) .empty = map := by
  apply ext_find?
  intro key
  have grown := find?_foldl_alter Prod.fst (fun entry (_ : Option ν) => entry.2) map.entries
    .empty key
  refine grown.trans ?_
  rw [filter_entries, find?_empty]
  cases map.find? key <;> rfl

/-- Items that are all kept stand in the list in their order. -/
theorem foldl_keep (value : α → ν) (items : List α) (old : Option (List ν)) :
    items.foldl (fun kept item => some (kept.getD [] ++ [value item])) old =
      if items = [] then old else some (old.getD [] ++ items.map value) := by
  induction items generalizing old with
  | nil => rfl
  | cons item rest inductionHypothesis =>
      rw [List.foldl_cons, inductionHypothesis, if_neg (List.cons_ne_nil item rest)]
      by_cases last : rest = []
      · subst last
        rfl
      · rw [if_neg last, Option.getD_some, List.map_cons, List.append_assoc, List.singleton_append]

/-- The values of some entries that stand under a key, in their order. -/
def under (key : κ) (values : List (κ × ν)) : List ν :=
  (values.filter fun entry => entry.1 = key).map Prod.snd

theorem find?_gather (values : List (κ × ν)) (key : κ) :
    (gather values).find? key =
      if under key values = [] then none else some (under key values) := by
  rw [gather, find?_foldl_alter Prod.fst fun entry old => old.getD [] ++ [entry.2], find?_empty,
    foldl_keep Prod.snd, under, Option.getD_none, List.nil_append]
  simp only [List.map_eq_nil_iff]

end SortedMap
end FlowRuns
