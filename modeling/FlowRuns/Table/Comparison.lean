import FlowRuns.Bytes.Long

namespace FlowRuns

/-!
# Comparisons

A comparison puts something stored on its left and an operand on its right.
Byte strings are compared in lexicographic order of unsigned bytes.
-/

/-- The relations that a test may ask for. -/
inductive Comparison where
  | less
  | lessOrEqual
  | equal
  | notEqual
  | greaterOrEqual
  | greater
  deriving DecidableEq

namespace Comparison

/-- Whether a stored value so ordered against the operand passes. -/
def holds : Comparison → Ordering → Bool
  | .less, order => order == .lt
  | .lessOrEqual, order => order != .gt
  | .equal, order => order == .eq
  | .notEqual, order => order != .eq
  | .greaterOrEqual, order => order != .lt
  | .greater, order => order == .gt

def symbol : Comparison → String
  | .less => "<"
  | .lessOrEqual => "<="
  | .equal => "="
  | .notEqual => "!="
  | .greaterOrEqual => ">="
  | .greater => ">"

end Comparison

/-- What the bytes of a name are compared with. -/
inductive NameOperand where
  /-- The whole name. -/
  | whole (expected : Bytes)
  /-- As much of the front of the name as `expected` is long. -/
  | front (expected : Bytes)
  deriving DecidableEq

/-- How a name is ordered against an operand. -/
def NameOperand.order : NameOperand → Bytes → Ordering
  | .whole expected, actual => compare actual expected
  | .front expected, actual => compare (actual.take expected.length) expected

/-- What a stored value is compared with. -/
inductive ValueOperand where
  /-- The number that the value stores. -/
  | number (expected : Int64)
  /-- The value byte by byte. -/
  | bytes (expected : Bytes)
  deriving DecidableEq

/-- How a stored value is ordered against an operand.  A value that stores no
number has no order against one. -/
def ValueOperand.order? : ValueOperand → Bytes → Option Ordering
  | .number expected, actual => (Long.decode? actual).map fun value => compare value expected
  | .bytes expected, actual => some (compare actual expected)

end FlowRuns
