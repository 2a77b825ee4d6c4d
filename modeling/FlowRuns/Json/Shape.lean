import FlowRuns.Json

namespace FlowRuns

/-!
# Shapes of JSON values

A record is written as an object, and read from an object or from an array of
its fields in order.  Unknown members of an object are passed over, and a
field that may be absent may also be `null`.  A constant is written as its
name, and read from its name or from an object whose one entry has that name
and carries nothing.

What lies inside a tagged value is read with two more liberties: a constant
may carry an empty object, and a tag may be the position of its variant.
-/

namespace Json

/-! ## Records -/

/-- The fields of a record by their names.  An array must have all of them. -/
def fields? (names : List String) : Json → Option (List (Option Json))
  | .obj entries => some (names.map fun name => member? name entries)
  | .arr items => if items.length = names.length then some (items.map some) else none
  | _ => none

/-- A field that must be there. -/
def required? {α : Type} (read : Json → Option α) (field : Option Json) : Option α :=
  field.bind read

/-- A field that may be absent. -/
def optional? {α : Type} (read : Json → Option α) : Option Json → Option (Option α)
  | none => some none
  | some .null => some none
  | some value => (read value).map some

/-! ## Constants -/

/-- Where a value stands. -/
inductive Position where
  | plain
  | insideTagged
  deriving DecidableEq

/-- Whether a value carries nothing. -/
def isUnit : Position → Json → Bool
  | _, .null => true
  | .insideTagged, .obj [] => true
  | _, _ => false

/-- The name of a constant. -/
def constantName? (position : Position) : Json → Option String
  | .str name => some name
  | .obj [(name, payload)] => if isUnit position payload then some name else none
  | _ => none

/-- The constant of a list that a value names. -/
def constant? {α : Type} (values : List α) (name : α → String) (position : Position)
    (json : Json) : Option α :=
  (constantName? position json).bind fun written => values.find? fun value => name value == written

/-! ## Tagged values -/

/-- The tag of a value, and the value that holds the fields beside it.  An
array begins with its tag. -/
def tagged? : Json → Option (Json × Json)
  | .obj entries => (member? "type" entries).map fun tag => (tag, .obj entries)
  | .arr (tag :: rest) => some (tag, .arr rest)
  | _ => none

/-- The variant of a list that a tag stands for. -/
def variant? {α : Type} (values : List α) (name : α → String) : Position → Json → Option α
  | _, .str written => values.find? fun value => name value == written
  | .insideTagged, .int (.ofNat index) => values[index]?
  | _, _ => none

theorem sizeOf_tagged? {json tag content : Json} (tagged : tagged? json = some (tag, content)) :
    sizeOf content ≤ sizeOf json := by
  unfold tagged? at tagged
  split at tagged
  · rcases Option.map_eq_some_iff.mp tagged with ⟨_, _, same⟩
    cases same
    exact Nat.le_refl _
  · cases tagged
    simp only [arr.sizeOf_spec, List.cons.sizeOf_spec]
    omega
  · cases tagged

end Json
end FlowRuns
