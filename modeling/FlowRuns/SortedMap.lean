namespace FlowRuns

/-!
# Sorted maps

A finite map is kept as its entries in strictly ascending order of their
keys, so two maps with the same entries are equal.  The one operation that
changes a map, `alter`, replaces the value at a key or adds an entry where
the order wants it.  What it changes shows at that key (`find?_alter_self`)
and at no other (`find?_alter_of_ne`).
-/

/-- A finite map as its entries in strictly ascending key order. -/
@[ext]
structure SortedMap (κ : Type) (ν : Type) [Ord κ] where
  entries : List (κ × ν)
  ascending : entries.Pairwise fun first second => compare first.1 second.1 = .lt

namespace SortedMap

variable {κ ν : Type} [Ord κ]

/-- The map without entries. -/
def empty : SortedMap κ ν := ⟨[], .nil⟩

instance [DecidableEq κ] [DecidableEq ν] : DecidableEq (SortedMap κ ν) := fun first second =>
  decidable_of_iff (first.entries = second.entries) SortedMap.ext_iff.symm

/-- The value at the first entry with a key. -/
def lookup (key : κ) : List (κ × ν) → Option ν
  | [] => none
  | (other, value) :: rest => if compare key other = .eq then some value else lookup key rest

/-- The value at a key. -/
def find? (map : SortedMap κ ν) (key : κ) : Option ν :=
  lookup key map.entries

@[simp]
theorem find?_empty (key : κ) : (empty : SortedMap κ ν).find? key = none := rfl

/-- Apply `update` to what a list of entries has at a key, and keep the order. -/
def alterEntries (key : κ) (update : Option ν → ν) : List (κ × ν) → List (κ × ν)
  | [] => [(key, update none)]
  | (other, value) :: rest =>
      match compare key other with
      | .lt => (key, update none) :: (other, value) :: rest
      | .eq => (other, update (some value)) :: rest
      | .gt => (other, value) :: alterEntries key update rest

/-- Every entry after an alteration has the altered key or is an old one. -/
theorem fst_of_mem_alterEntries {key : κ} {update : Option ν → ν} {entries : List (κ × ν)}
    {entry : κ × ν} (member : entry ∈ alterEntries key update entries) :
    entry.1 = key ∨ ∃ old ∈ entries, entry.1 = old.1 := by
  induction entries with
  | nil =>
      simp only [alterEntries, List.mem_singleton] at member
      exact .inl (by rw [member])
  | cons head rest inductionHypothesis =>
      rcases head with ⟨other, value⟩
      simp only [alterEntries] at member
      split at member
      · rcases List.mem_cons.mp member with same | old
        · exact .inl (by rw [same])
        · exact .inr ⟨entry, old, rfl⟩
      · rcases List.mem_cons.mp member with same | old
        · exact .inr ⟨(other, value), List.mem_cons_self, by rw [same]⟩
        · exact .inr ⟨entry, List.mem_cons_of_mem _ old, rfl⟩
      · rcases List.mem_cons.mp member with same | later
        · exact .inr ⟨entry, by rw [same]; exact List.mem_cons_self, rfl⟩
        · rcases inductionHypothesis later with same | ⟨old, listed, same⟩
          · exact .inl same
          · exact .inr ⟨old, List.mem_cons_of_mem _ listed, same⟩

theorem ascending_alterEntries [Std.TransOrd κ] (key : κ) (update : Option ν → ν)
    {entries : List (κ × ν)}
    (ascending : entries.Pairwise fun first second => compare first.1 second.1 = .lt) :
    (alterEntries key update entries).Pairwise
      fun first second => compare first.1 second.1 = .lt := by
  induction entries with
  | nil => exact List.pairwise_singleton _ _
  | cons head rest inductionHypothesis =>
      rcases head with ⟨other, value⟩
      have parts := List.pairwise_cons.mp ascending
      simp only [alterEntries]
      split
      · next below =>
          refine List.pairwise_cons.mpr ⟨?_, ascending⟩
          intro entry member
          rcases List.mem_cons.mp member with same | later
          · rw [same]
            exact below
          · exact Std.TransCmp.lt_trans below (parts.1 entry later)
      · exact List.pairwise_cons.mpr ⟨fun entry later => parts.1 entry later, parts.2⟩
      · next above =>
          refine List.pairwise_cons.mpr ⟨?_, inductionHypothesis parts.2⟩
          intro entry member
          rcases fst_of_mem_alterEntries member with same | ⟨old, listed, same⟩
          · rw [same]
            exact Std.OrientedCmp.gt_iff_lt.mp above
          · rw [same]
            exact parts.1 old listed

/-- Put `update` of the value at a key, if there is one, in its place. -/
def alter [Std.TransOrd κ] (map : SortedMap κ ν) (key : κ) (update : Option ν → ν) :
    SortedMap κ ν :=
  ⟨alterEntries key update map.entries, ascending_alterEntries key update map.ascending⟩

/-- A key that comes before all keys of some entries is not among them. -/
theorem lookup_eq_none_of_lt {key : κ} {entries : List (κ × ν)}
    (below : ∀ entry ∈ entries, compare key entry.1 = .lt) : lookup key entries = none := by
  induction entries with
  | nil => rfl
  | cons head rest inductionHypothesis =>
      have first := below head List.mem_cons_self
      rw [lookup, if_neg (by rw [first]; decide)]
      exact inductionHypothesis fun entry listed => below entry (List.mem_cons_of_mem head listed)

/-- An alteration shows at its own key. -/
theorem lookup_alterEntries_self [Std.TransOrd κ] (key : κ) (update : Option ν → ν)
    {entries : List (κ × ν)}
    (ascending : entries.Pairwise fun first second => compare first.1 second.1 = .lt) :
    lookup key (alterEntries key update entries) = some (update (lookup key entries)) := by
  induction entries with
  | nil => simp [alterEntries, lookup, Std.ReflCmp.compare_self]
  | cons head rest inductionHypothesis =>
      rcases head with ⟨other, value⟩
      have parts := List.pairwise_cons.mp ascending
      cases order : compare key other with
      | lt =>
          have absent : lookup key rest = none :=
            lookup_eq_none_of_lt fun entry listed =>
              Std.TransCmp.lt_trans order (parts.1 entry listed)
          simp [alterEntries, lookup, order, absent, Std.ReflCmp.compare_self]
      | eq => simp [alterEntries, lookup, order]
      | gt => simp [alterEntries, lookup, order, inductionHypothesis parts.2]

/-- An alteration shows at no other key. -/
theorem lookup_alterEntries_of_ne [Std.TransOrd κ] [Std.LawfulEqOrd κ] {key other : κ}
    (different : other ≠ key) (update : Option ν → ν) (entries : List (κ × ν)) :
    lookup other (alterEntries key update entries) = lookup other entries := by
  have unequal : compare other key ≠ .eq := fun same =>
    different (Std.LawfulEqOrd.eq_of_compare same)
  induction entries with
  | nil => simp [alterEntries, lookup, unequal]
  | cons head rest inductionHypothesis =>
      rcases head with ⟨place, value⟩
      cases order : compare key place with
      | lt => simp [alterEntries, lookup, order, unequal]
      | eq =>
          have same : key = place := Std.LawfulEqOrd.eq_of_compare order
          subst same
          simp [alterEntries, lookup, unequal]
      | gt => simp [alterEntries, lookup, order, inductionHypothesis]

@[simp]
theorem find?_alter_self [Std.TransOrd κ] (map : SortedMap κ ν) (key : κ)
    (update : Option ν → ν) :
    (map.alter key update).find? key = some (update (map.find? key)) :=
  lookup_alterEntries_self key update map.ascending

theorem find?_alter_of_ne [Std.TransOrd κ] [Std.LawfulEqOrd κ] (map : SortedMap κ ν)
    {key other : κ} (different : other ≠ key) (update : Option ν → ν) :
    (map.alter key update).find? other = map.find? other :=
  lookup_alterEntries_of_ne different update map.entries

/-- Put a value at a key. -/
def insert [Std.TransOrd κ] (map : SortedMap κ ν) (key : κ) (value : ν) : SortedMap κ ν :=
  map.alter key fun _ => value

/-- The map of the values that `change` keeps, under their old keys. -/
def filterMap {μ : Type} (map : SortedMap κ ν) (change : ν → Option μ) : SortedMap κ μ where
  entries := map.entries.filterMap fun entry => (change entry.2).map fun value => (entry.1, value)
  ascending := by
    refine List.Pairwise.filterMap _ ?_ map.ascending
    intro first second below firstNew firstKept secondNew secondKept
    rcases Option.map_eq_some_iff.mp firstKept with ⟨_, _, rfl⟩
    rcases Option.map_eq_some_iff.mp secondKept with ⟨_, _, rfl⟩
    exact below

/-- Lists of values gathered under their keys.  A value joins the end of the
list at its key. -/
def gather [Std.TransOrd κ] (values : List (κ × ν)) : SortedMap κ (List ν) :=
  values.foldl (fun map entry => map.alter entry.1 fun old => old.getD [] ++ [entry.2]) empty

end SortedMap
end FlowRuns
