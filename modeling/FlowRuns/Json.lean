namespace FlowRuns

/-!
# JSON values

Values have a JSON form.  Integers are exact.  Any other number, which is one
written with a fraction or an exponent, keeps the text it was written as.
-/

/-- A JSON value. -/
inductive Json where
  | null
  | bool (value : Bool)
  | int (value : Int)
  | decimal (written : String)
  | str (text : String)
  | arr (items : List Json)
  | obj (entries : List (String × Json))
  deriving Inhabited

namespace Json

/-- The value at the first entry with a name. -/
def member? (name : String) : List (String × Json) → Option Json
  | [] => none
  | (other, value) :: rest => if other = name then some value else member? name rest

theorem sizeOf_member? {name : String} {entries : List (String × Json)} {value : Json}
    (found : member? name entries = some value) : sizeOf value < sizeOf entries := by
  induction entries with
  | nil => cases found
  | cons entry rest inductionHypothesis =>
      rcases entry with ⟨other, head⟩
      simp only [member?] at found
      split at found
      · cases found
        simp only [List.cons.sizeOf_spec, Prod.mk.sizeOf_spec]
        omega
      · have later := inductionHypothesis found
        simp only [List.cons.sizeOf_spec]
        omega

/-- The text of a string. -/
def text? : Json → Option String
  | .str text => some text
  | _ => none

def flag? : Json → Option Bool
  | .bool value => some value
  | _ => none

/-- A number that a signed 64-bit word holds. -/
def int64? : Json → Option Int64
  | .int value =>
      if Int64.minValue.toInt ≤ value ∧ value ≤ Int64.maxValue.toInt then
        some (Int64.ofInt value)
      else none
  | _ => none

/-- A number that an unsigned 64-bit word holds. -/
def uint64? : Json → Option UInt64
  | .int (.ofNat value) => if value < UInt64.size then some (UInt64.ofNat value) else none
  | _ => none

/-- The items of an array, each read by the same rule. -/
def list? {α : Type} (read : Json → Option α) : Json → Option (List α)
  | .arr items => items.mapM read
  | _ => none

def ofInt64 (value : Int64) : Json := .int value.toInt

def ofUInt64 (value : UInt64) : Json := .int value.toNat

/-- A value that may be absent, which is then written as `null`. -/
def ofOption {α : Type} (write : α → Json) : Option α → Json
  | none => .null
  | some value => write value

end Json
end FlowRuns
