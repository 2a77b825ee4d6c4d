import FlowRuns.Json.Condition
import FlowRuns.Proofs.Json.Shape

namespace FlowRuns

/-!
# Canonical forms of conditions

A condition is a tagged value whose fields depend on its kind, and all of them
must be there.  What lies in a condition is inside a tagged value, and the
outermost condition need not be.  The form is canonical wherever a condition
stands, so the induction over nested conditions goes through both positions
at once.
-/

open Json (Position)

theorem Comparison.mem_list (comparison : Comparison) : comparison ∈ list := by
  cases comparison <;> decide

theorem Comparison.canonical (position : Position) :
    Json.Canonical (Json.constantName? position) toJson (ofJson? position) :=
  Json.canonical_constant mem_list (by decide) position

theorem Connective.mem_list (connective : Connective) : connective ∈ list := by
  cases connective <;> decide

theorem Connective.canonical (position : Position) :
    Json.Canonical (Json.constantName? position) toJson (ofJson? position) :=
  Json.canonical_constant mem_list (by decide) position

namespace Condition

/-- The fields of a condition beside its tag. -/
def Kind.slots : Kind → List Json.Slot
  | .compare => [⟨"op", .refused⟩, ⟨"key", .refused⟩, ⟨"value", .refused⟩,
      ⟨"key_must_exist", .refused⟩]
  | .named => [⟨"op", .refused⟩, ⟨"prefix", .refused⟩]
  | .group => [⟨"operator", .refused⟩, ⟨"filters", .refused⟩]

theorem Kind.needed (kind : Kind) : ∀ slot ∈ kind.slots, slot.absence = .refused := by
  cases kind <;> decide

/-- The kind of a condition and what stands in its fields. -/
abbrev contents? : Position → Json → Option (Kind × List (Option Json)) :=
  Json.taggedContents? Kind.list Kind.name Kind.slots

/-! ## Reading by kinds -/

/-- The comparison of a value that is made of what stands in its fields. -/
def buildCompare? : List (Option Json) → Option Condition
  | [comparison, metric, operand, mustExist] => do
      return .compare (← Json.required? (Comparison.ofJson? .insideTagged) comparison)
        (← Json.required? Json.text? metric) (← Json.required? Json.int64? operand)
        (← Json.required? Json.flag? mustExist)
  | _ => none

/-- The test of a name that is made of what stands in its fields. -/
def buildNamed? : List (Option Json) → Option Condition
  | [comparison, start] => do
      return .named (← Json.required? (Comparison.ofJson? .insideTagged) comparison)
        (← Json.required? Json.text? start)
  | _ => none

/-- The connective and the conditions among the fields of a group. -/
def groupPartsOf? : List (Option Json) → Option (Json × List Json)
  | [some connective, some (.arr conditions)] => some (connective, conditions)
  | _ => none

/-- The group of conditions that is made of a connective and of conditions. -/
def buildGroup? (position : Position) (parts : Json × List Json) : Option ConditionGroup := do
  return ⟨← Connective.ofJson? position parts.1, ← parts.2.mapM (ofJson? position)⟩

/-- A group of conditions as a condition. -/
def ofGroup (group : ConditionGroup) : Condition :=
  .group group.connective group.conditions

/-- The condition that is made of its kind and what stands in its fields. -/
def build? : Kind × List (Option Json) → Option Condition
  | (.compare, fields) => buildCompare? fields
  | (.named, fields) => buildNamed? fields
  | (.group, fields) => ((groupPartsOf? fields).bind (buildGroup? .insideTagged)).map ofGroup

theorem groupParts?_eq (json : Json) :
    groupParts? json =
      (json.fields? (Kind.group.slots.map Json.Slot.name)).bind groupPartsOf? := by
  change _ = (json.fields? ["operator", "filters"]).bind groupPartsOf?
  rw [groupParts?]
  cases json.fields? ["operator", "filters"] with
  | none => rfl
  | some fields =>
      rw [Option.bind_some]
      unfold groupPartsOf?
      split
      · next same => cases same; rfl
      · next others =>
          split
          · exact absurd rfl (others _ _)
          · rfl

/-- Read the fields of a condition of a kind. -/
def readKind? : Kind → Json → Option Condition
  | .compare, json => compareOfJson? json
  | .named, json => namedOfJson? json
  | .group, json => ((groupParts? json).bind (buildGroup? .insideTagged)).map ofGroup

theorem readKind?_eq_build? (kind : Kind) (json : Json) :
    readKind? kind json =
      (json.fields? (kind.slots.map Json.Slot.name)).bind fun fields => build? (kind, fields) := by
  cases kind with
  | compare => rfl
  | named => rfl
  | group =>
      rw [readKind?, groupParts?_eq, Option.bind_assoc, Option.map_bind]
      rfl

theorem ofJson?_eq_readKind? (position : Position) (json : Json) :
    ofJson? position json = json.tagged?.bind fun tagged =>
      (Json.variant? Kind.list Kind.name position tagged.1).bind fun kind =>
        readKind? kind tagged.2 := by
  rw [ofJson?]
  split
  · next untagged => rw [untagged]; rfl
  · next tag content tagged =>
      simp only [tagged, Option.bind_some]
      split
      · next unknown => rw [unknown]; rfl
      · next known => rw [known]; rfl
      · next known => rw [known]; rfl
      · next known =>
          rw [known, Option.bind_some, readKind?]
          split
          · next absent => rw [absent]; rfl
          · next connective conditions present =>
              simp only [present, Option.bind_some, buildGroup?]
              rw [List.mapM_subtype fun _ _ => rfl, List.unattach_attach]
              cases Connective.ofJson? .insideTagged connective with
              | none => rfl
              | some connective => cases conditions.mapM (ofJson? .insideTagged) <;> rfl

/-- Reading a condition begins with its kind and what stands in its fields. -/
theorem ofJson?_eq_build? (position : Position) (json : Json) :
    ofJson? position json = (contents? position json).bind build? := by
  rw [ofJson?_eq_readKind?, contents?, Json.taggedContents?]
  simp only [readKind?_eq_build?, Json.contents?_eq_fields? (Kind.needed _), Option.bind_assoc,
    Option.bind_map, Function.comp_def]

/-! ## Writing -/

theorem isRecord_toJson (condition : Condition) :
    ∃ (kind : Kind) (entries : List (String × Json)),
      condition.toJson = .obj (("type", .str kind.name) :: entries) ∧
        Json.IsRecord kind.slots (.obj entries) := by
  cases condition with
  | compare comparison metric operand mustExist =>
      refine ⟨.compare, _, rfl, _, rfl, .refl _, ?_⟩
      simp [Kind.slots, Json.member?, Json.Slot.Allows, Comparison.toJson, Json.ofInt64]
  | named comparison start =>
      refine ⟨.named, _, rfl, _, rfl, .refl _, ?_⟩
      simp [Kind.slots, Json.member?, Json.Slot.Allows, Comparison.toJson]
  | group connective conditions =>
      refine ⟨.group, _, rfl, _, rfl, .refl _, ?_⟩
      simp [Kind.slots, Json.member?, Json.Slot.Allows, Connective.toJson]

mutual

/-- A condition is read as it was written, wherever it stands. -/
theorem ofJson?_toJson (position : Position) : ∀ condition : Condition,
    ofJson? position condition.toJson = some condition
  | .compare comparison metric operand mustExist => by
      rw [ofJson?_eq_build?]
      change buildCompare? [some comparison.toJson, some (.str metric), some (.ofInt64 operand),
        some (.bool mustExist)] = _
      simp only [buildCompare?, Json.required?, Option.bind_some, Json.int64?_ofInt64,
        (Comparison.canonical .insideTagged).read_write]
      rfl
  | .named comparison start => by
      rw [ofJson?_eq_build?]
      change buildNamed? [some comparison.toJson, some (.str start)] = _
      simp only [buildNamed?, Json.required?, Option.bind_some,
        (Comparison.canonical .insideTagged).read_write]
      rfl
  | .group connective conditions => by
      rw [ofJson?_eq_build?]
      change (buildGroup? .insideTagged (connective.toJson, toJsons conditions)).map ofGroup = _
      rw [buildGroup?, (Connective.canonical .insideTagged).read_write,
        mapM_toJsons .insideTagged conditions]
      rfl

/-- Conditions are read as they were written. -/
theorem mapM_toJsons (position : Position) : ∀ conditions : List Condition,
    (toJsons conditions).mapM (ofJson? position) = some conditions
  | [] => by rw [toJsons, List.mapM_nil]; rfl
  | condition :: rest => by
      rw [toJsons, List.mapM_cons, ofJson?_toJson position condition, mapM_toJsons position rest]
      rfl

end

/-- What is written is a canonical form of a condition, wherever it stands. -/
theorem taggedForm (position : Position) :
    Json.TaggedForm Kind.list Kind.name Kind.slots position toJson (ofJson? position) where
  toCanonical := .of_build build? (ofJson?_eq_build? position) (ofJson?_toJson position)
  isRecord := isRecord_toJson

end Condition

namespace ConditionGroup

/-- The fields of a group of conditions. -/
abbrev slots : List Json.Slot := Condition.Kind.group.slots

/-- The group that is made of its fields. -/
def build? (fields : List (Option Json)) : Option ConditionGroup :=
  (Condition.groupPartsOf? fields).bind (Condition.buildGroup? .plain)

theorem ofJson?_eq_build? (json : Json) :
    ofJson? json = (json.fields? (slots.map Json.Slot.name)).bind build? := by
  unfold build?
  rw [← Option.bind_assoc, ← Condition.groupParts?_eq]
  rfl

theorem ofJson?_toJson (group : ConditionGroup) : ofJson? group.toJson = some group := by
  rw [ofJson?_eq_build?]
  change Condition.buildGroup? .plain
    (group.connective.toJson, Condition.toJsons group.conditions) = _
  rw [Condition.buildGroup?, (Connective.canonical .plain).read_write,
    Condition.mapM_toJsons .plain group.conditions]
  rfl

theorem toJson_ne_null (group : ConditionGroup) : group.toJson ≠ .null :=
  fun same => Json.noConfusion same

/-- What is written is a canonical form of a group of conditions. -/
theorem recordForm : Json.RecordForm slots toJson ofJson? := by
  refine .of_build build? (by decide) ofJson?_eq_build? (fun fields full => ?_) ofJson?_toJson
    fun group => ?_
  · rw [Json.zipWith_content (Condition.Kind.needed .group) full]
  · refine ⟨_, rfl, .refl _, ?_⟩
    simp [slots, Condition.Kind.slots, Json.member?, Json.Slot.Allows, Connective.toJson]

end ConditionGroup
end FlowRuns
