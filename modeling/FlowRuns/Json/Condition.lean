import FlowRuns.Condition
import FlowRuns.Json.Shape

namespace FlowRuns

/-!
# Conditions in JSON

A condition is a tagged value, and a group of conditions a record of its
connective and its conditions.  A condition that is a group has the fields of
the group beside its tag.
-/

namespace Comparison

def list : List Comparison :=
  [.less, .lessOrEqual, .equal, .notEqual, .greaterOrEqual, .greater]

def name : Comparison → String
  | .less => "less"
  | .lessOrEqual => "less_or_equal"
  | .equal => "equal"
  | .notEqual => "not_equal"
  | .greaterOrEqual => "greater_or_equal"
  | .greater => "greater"

def toJson (comparison : Comparison) : Json := .str comparison.name

def ofJson? (position : Json.Position) : Json → Option Comparison :=
  Json.constant? list name position

end Comparison

namespace Connective

def list : List Connective := [.and, .or]

def name : Connective → String
  | .and => "and"
  | .or => "or"

def toJson (connective : Connective) : Json := .str connective.name

def ofJson? (position : Json.Position) : Json → Option Connective :=
  Json.constant? list name position

end Connective

namespace Condition

/-- The kinds of conditions. -/
inductive Kind where
  | compare
  | named
  | group
  deriving DecidableEq

def Kind.list : List Kind := [.compare, .named, .group]

def Kind.name : Kind → String
  | .compare => "compare"
  | .named => "prefix"
  | .group => "list"

/-- The entry that tells the kind of a condition. -/
def Kind.tag (kind : Kind) : String × Json := ("type", .str kind.name)

/-! ## Writing -/

mutual

def toJson : Condition → Json
  | .compare comparison metric operand mustExist =>
      .obj [Kind.compare.tag, ("op", comparison.toJson), ("key", .str metric),
        ("value", .ofInt64 operand), ("key_must_exist", .bool mustExist)]
  | .named comparison start =>
      .obj [Kind.named.tag, ("op", comparison.toJson), ("prefix", .str start)]
  | .group connective conditions =>
      .obj [Kind.group.tag, ("operator", connective.toJson), ("filters", .arr (toJsons conditions))]

/-- Conditions in JSON, one each. -/
def toJsons : List Condition → List Json
  | [] => []
  | condition :: rest => toJson condition :: toJsons rest

end

/-! ## Reading -/

/-- The fields of a comparison of a value. -/
def compareOfJson? (json : Json) : Option Condition := do
  match ← json.fields? ["op", "key", "value", "key_must_exist"] with
  | [comparison, metric, operand, mustExist] =>
      return .compare (← Json.required? (Comparison.ofJson? .insideTagged) comparison)
        (← Json.required? Json.text? metric) (← Json.required? Json.int64? operand)
        (← Json.required? Json.flag? mustExist)
  | _ => none

/-- The fields of a test of a name. -/
def namedOfJson? (json : Json) : Option Condition := do
  match ← json.fields? ["op", "prefix"] with
  | [comparison, start] =>
      return .named (← Json.required? (Comparison.ofJson? .insideTagged) comparison)
        (← Json.required? Json.text? start)
  | _ => none

/-- The connective of a group and its conditions, which are still to be read. -/
def groupParts? (json : Json) : Option (Json × List Json) :=
  match json.fields? ["operator", "filters"] with
  | some [some connective, some (.arr conditions)] => some (connective, conditions)
  | _ => none

theorem sizeOf_groupParts? {json connective : Json} {conditions : List Json}
    (parts : groupParts? json = some (connective, conditions)) :
    sizeOf conditions < sizeOf json := by
  unfold groupParts? at parts
  split at parts
  · next fields =>
      cases parts
      unfold Json.fields? at fields
      split at fields
      · simp only [List.map_cons, List.map_nil, Option.some.injEq, List.cons.injEq,
          and_true] at fields
        have inside := Json.sizeOf_member? fields.2
        simp only [Json.arr.sizeOf_spec] at inside
        simp only [Json.obj.sizeOf_spec]
        omega
      · split at fields
        · simp only [Option.some.injEq] at fields
          rename_i items _
          match items, fields with
          | [_, .arr _], same =>
              cases same
              simp only [Json.arr.sizeOf_spec, List.cons.sizeOf_spec, List.nil.sizeOf_spec]
              omega
        · cases fields
      · cases fields
  · cases parts

/-- Read a condition.  All that lies in it is inside a tagged value. -/
def ofJson? (position : Json.Position) (json : Json) : Option Condition :=
  match tagged : json.tagged? with
  | none => none
  | some (tag, content) =>
      have := Json.sizeOf_tagged? tagged
      match Json.variant? Kind.list Kind.name position tag with
      | none => none
      | some .compare => compareOfJson? content
      | some .named => namedOfJson? content
      | some .group =>
          match parts : groupParts? content with
          | none => none
          | some (connective, conditions) =>
              have := sizeOf_groupParts? parts
              do
                let connective ← Connective.ofJson? .insideTagged connective
                let conditions ← conditions.attach.mapM fun condition =>
                  have := List.sizeOf_lt_of_mem condition.property
                  ofJson? .insideTagged condition.val
                return .group connective conditions
termination_by sizeOf json
decreasing_by omega

end Condition

namespace ConditionGroup

def toJson (group : ConditionGroup) : Json :=
  .obj [("operator", group.connective.toJson),
    ("filters", .arr (Condition.toJsons group.conditions))]

def ofJson? (json : Json) : Option ConditionGroup := do
  let (connective, conditions) ← Condition.groupParts? json
  let connective ← Connective.ofJson? .plain connective
  let conditions ← conditions.mapM (Condition.ofJson? .plain)
  return ⟨connective, conditions⟩

end ConditionGroup
end FlowRuns
