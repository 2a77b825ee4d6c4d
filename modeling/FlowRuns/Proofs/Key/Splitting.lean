import FlowRuns.Proofs.Key.Component

namespace FlowRuns

/-!
# Splitting components off

The end of a component is the first separator after its beginning, whatever
bytes follow.  Splitting takes as many components as are asked for, or as there
are separators, and loses nothing: the components, each with its end, and what is
left make up the bytes again.  Since no component has a separator in it, there is
one way only to cut a byte string like that.
-/

namespace Component

/-- Byte strings, each with the byte that ends a component. -/
def terminated (components : List Bytes) : Bytes :=
  components.flatMap fun component => component ++ [separator]

theorem joinTerminated_eq (names : List String) :
    joinTerminated names = terminated (names.map encode) := by
  rw [joinTerminated, terminated, List.flatMap_map]

/-- The bytes after the first separator do not matter for where it is found. -/
theorem splitFirst_append {component : Bytes} (free : separator ∉ component) (rest : Bytes) :
    splitFirst (component ++ separator :: rest) = some (component, rest) := by
  induction component with
  | nil => rw [List.nil_append, splitFirst, if_pos rfl]
  | cons byte tail inductionHypothesis =>
      have plain : byte ≠ separator := fun same => free (by rw [same]; exact List.mem_cons_self)
      have tailFree : separator ∉ tail := fun member => free (List.mem_cons_of_mem _ member)
      rw [List.cons_append, splitFirst, if_neg plain, inductionHypothesis tailFree, Option.map_some]

theorem eq_of_splitFirst {raw component rest : Bytes}
    (split : splitFirst raw = some (component, rest)) :
    separator ∉ component ∧ raw = component ++ separator :: rest := by
  induction raw generalizing component with
  | nil => cases split
  | cons byte tail inductionHypothesis =>
      rw [splitFirst] at split
      by_cases same : byte = separator
      · rw [if_pos same] at split
        cases split
        exact ⟨List.not_mem_nil, by rw [same, List.nil_append]⟩
      · rw [if_neg same] at split
        rcases Option.map_eq_some_iff.mp split with ⟨⟨front, later⟩, tailSplit, pair⟩
        cases pair
        rcases inductionHypothesis tailSplit with ⟨free, whole⟩
        refine ⟨?_, by rw [whole, List.cons_append]⟩
        intro member
        rcases List.mem_cons.mp member with first | inFront
        · exact same first.symm
        · exact free inFront

/-- What is split off lies terminated before the rest, and no component that
is split off has a separator. -/
theorem eq_of_splitTerminated {raw rest : Bytes} {count : Nat} {components : List Bytes}
    (split : splitTerminated raw count = (components, rest)) :
    (∀ component ∈ components, separator ∉ component) ∧ raw = terminated components ++ rest := by
  induction count generalizing raw components with
  | zero =>
      rw [splitTerminated] at split
      cases split
      exact ⟨fun component member => absurd member List.not_mem_nil, rfl⟩
  | succ count inductionHypothesis =>
      rw [splitTerminated] at split
      cases first : splitFirst raw with
      | none =>
          rw [first] at split
          cases split
          exact ⟨fun component member => absurd member List.not_mem_nil, rfl⟩
      | some pair =>
          rcases pair with ⟨component, later⟩
          rw [first] at split
          rcases eq_of_splitFirst first with ⟨componentFree, whole⟩
          cases tail : splitTerminated later count with
          | mk others last =>
              simp only [tail] at split
              cases split
              rcases inductionHypothesis tail with ⟨othersFree, laterWhole⟩
              constructor
              · intro other member
                rcases List.mem_cons.mp member with same | listed
                · exact same ▸ componentFree
                · exact othersFree other listed
              · rw [whole, laterWhole]
                simp [terminated]

/-- Components without a separator are found again before every tail. -/
theorem splitTerminated_terminated {components : List Bytes}
    (free : ∀ component ∈ components, separator ∉ component) (tail : Bytes) :
    splitTerminated (terminated components ++ tail) components.length = (components, tail) := by
  induction components with
  | nil => rfl
  | cons component rest inductionHypothesis =>
      have restFree : ∀ other ∈ rest, separator ∉ other := fun other member =>
        free other (List.mem_cons_of_mem _ member)
      have shape : terminated (component :: rest) ++ tail =
          component ++ separator :: (terminated rest ++ tail) := by
        simp [terminated]
      rw [shape, List.length_cons, splitTerminated,
        splitFirst_append (free component List.mem_cons_self)]
      simp only [inductionHypothesis restFree]

/-- Equally many components before two tails are the same if the bytes are. -/
theorem terminated_append_inj {first second : List Bytes} {tail tail' : Bytes}
    (firstFree : ∀ component ∈ first, separator ∉ component)
    (secondFree : ∀ component ∈ second, separator ∉ component)
    (size : first.length = second.length)
    (same : terminated first ++ tail = terminated second ++ tail') :
    first = second ∧ tail = tail' := by
  have split := splitTerminated_terminated firstFree tail
  rw [same, size, splitTerminated_terminated secondFree tail'] at split
  exact ⟨(congrArg Prod.fst split).symm, (congrArg Prod.snd split).symm⟩

/-! ## How much is split off -/

theorem splitFirst_eq_none_iff {raw : Bytes} : splitFirst raw = none ↔ separator ∉ raw := by
  induction raw with
  | nil => exact iff_of_true rfl List.not_mem_nil
  | cons byte tail inductionHypothesis =>
      rw [splitFirst]
      by_cases same : byte = separator
      · rw [if_pos same, same]
        exact iff_of_false (Option.some_ne_none _) fun free => free List.mem_cons_self
      · rw [if_neg same, Option.map_eq_none_iff, inductionHypothesis, List.mem_cons, not_or]
        exact (and_iff_right fun first => same first.symm).symm

/-- A component is split off for every separator, up to the number asked for. -/
theorem length_splitTerminated (raw : Bytes) (count : Nat) :
    (splitTerminated raw count).1.length = min count (raw.count separator) := by
  induction count generalizing raw with
  | zero => rw [splitTerminated, List.length_nil, Nat.zero_min]
  | succ count inductionHypothesis =>
      rw [splitTerminated]
      cases first : splitFirst raw with
      | none =>
          rw [List.count_eq_zero.mpr (splitFirst_eq_none_iff.mp first)]
          rfl
      | some pair =>
          rcases pair with ⟨component, later⟩
          rcases eq_of_splitFirst first with ⟨free, whole⟩
          have separators : raw.count separator = later.count separator + 1 := by
            rw [whole, List.count_append, List.count_eq_zero.mpr free, List.count_cons_self,
              Nat.zero_add]
          simp only [List.length_cons]
          rw [inductionHypothesis later, separators, Nat.add_min_add_right]

/-- A byte string cut behind as many components as are asked for, or as it has. -/
structure Cut (raw : Bytes) (count : Nat) (components : List Bytes) (rest : Bytes) : Prop where
  whole : terminated components ++ rest = raw
  free : ∀ component ∈ components, separator ∉ component
  size : components.length = min count (raw.count separator)

theorem cut_splitTerminated (raw : Bytes) (count : Nat) :
    Cut raw count (splitTerminated raw count).1 (splitTerminated raw count).2 := by
  rcases eq_of_splitTerminated (Prod.eta (splitTerminated raw count)).symm with ⟨free, whole⟩
  exact ⟨whole.symm, free, length_splitTerminated raw count⟩

/-- There is only one such cut. -/
theorem Cut.unique {raw rest rest' : Bytes} {count : Nat} {components components' : List Bytes}
    (first : Cut raw count components rest) (second : Cut raw count components' rest') :
    components = components' ∧ rest = rest' :=
  terminated_append_inj first.free second.free (first.size.trans second.size.symm)
    (first.whole.trans second.whole.symm)

/-- Splitting cuts a byte string behind its first components, of which there is one
for each separator up to the number asked for.  It is the inverse of joining: the
components of some names are found again before every tail. -/
theorem splitTerminated_cuts :
    (∀ raw count components rest,
      splitTerminated raw count = (components, rest) ↔ Cut raw count components rest) ∧
    ∀ (names : List String) (tail : Bytes),
      splitTerminated (joinTerminated names ++ tail) names.length = (names.map encode, tail) := by
  constructor
  · intro raw count components rest
    constructor
    · intro split
      have cut := cut_splitTerminated raw count
      rw [split] at cut
      exact cut
    · intro cut
      have same := (cut_splitTerminated raw count).unique cut
      exact Prod.ext same.1 same.2
  · intro names tail
    have split := splitTerminated_terminated (separator_not_mem_encodes names) tail
    rw [List.length_map, ← joinTerminated_eq] at split
    exact split

/-- The tail is not split, whatever it is made of. -/
example :
    splitTerminated (joinTerminated ["a!", ""] ++ [separator, separator]) 2 =
      ([[0x61, 0x25, 0x32, 0x31], []], [separator, separator]) := by
  decide

end Component
end FlowRuns
