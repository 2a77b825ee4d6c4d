import FlowRuns.Table.Aggregator
import FlowRuns.Table.Comparison
import FlowRuns.Text.Quoted
import FlowRuns.Text.Utf8

namespace FlowRuns

/-!
# Predicates

A predicate decides for each cell of a row whether a read returns it.  Tests
on the family and the qualifier look at the cell itself, a test on a column
looks at the row that the cell is part of, and groups combine tests.  A group
without children admits every cell.  A page limit admits every cell too: it
bounds the number of rows of a scan.
-/

/-- A test on the value of one column of the row. -/
structure ColumnTest where
  column : Column
  comparison : Comparison
  operand : ValueOperand
  /-- What becomes of rows that lack the column. -/
  rejectMissing : Bool
  /-- How the versions of the column come to one number.  Without a fold, and
  for an operand of bytes, the newest version is the value. -/
  fold : Option Aggregator

namespace ColumnTest

/-- How the value of the column, of which some version is stored, is ordered
against the operand. -/
def order? (test : ColumnTest) (newest : Cell) (older : List Cell) : Option Ordering :=
  match test.fold, test.operand with
  | some aggregator, .number expected =>
      (aggregator.foldCells (newest :: older)).map fun value => compare value expected
  | _, operand => operand.order? newest.value

/-- Whether a row passes.  A value without an order against the operand does not. -/
def passes (test : ColumnTest) (row : Row) : Bool :=
  match row.versions test.column with
  | [] => !test.rejectMissing
  | newest :: older =>
      match test.order? newest older with
      | none => false
      | some order => test.comparison.holds order

/-- Whether two tests are written alike.  Folds are told apart by name. -/
def same (first second : ColumnTest) : Bool :=
  first.column == second.column && first.comparison == second.comparison &&
    first.operand == second.operand && first.rejectMissing == second.rejectMissing &&
    first.fold.map Aggregator.name == second.fold.map Aggregator.name

end ColumnTest

/-- A tree of tests on the cells of a row. -/
inductive Predicate where
  | family (comparison : Comparison) (expected : Bytes)
  | qualifier (comparison : Comparison) (operand : NameOperand)
  | value (test : ColumnTest)
  | pageLimit (rows : UInt64)
  | all (children : List Predicate)
  | any (children : List Predicate)

namespace Predicate

/-! ## Groups -/

/-- The predicate together with one more child.  A predicate that is no group
becomes the first child of a new group whose children must all admit. -/
def push : Predicate → Predicate → Predicate
  | .all children, child => .all (children ++ [child])
  | .any children, child => .any (children ++ [child])
  | test, child => .all [test, child]

/-- Whether the predicate is a group without children. -/
def isEmpty : Predicate → Bool
  | .all children => children.isEmpty
  | .any children => children.isEmpty
  | _ => false

/-- The lesser of two bounds, of which either may be absent. -/
def tighter : Option UInt64 → Option UInt64 → Option UInt64
  | none, bound => bound
  | bound, none => bound
  | some first, some second => some (if second < first then second else first)

mutual

/-- The least page limit that must hold for the predicate to hold. -/
def pageBound : Predicate → Option UInt64
  | .pageLimit rows => some rows
  | .all children => leastPageBound children
  | _ => none

/-- The least page limit of some predicates. -/
def leastPageBound : List Predicate → Option UInt64
  | [] => none
  | child :: rest => tighter (pageBound child) (leastPageBound rest)

end

/-! ## Evaluation -/

mutual

/-- Whether the predicate admits a cell as part of a row. -/
def admits (row : Row) (cell : Cell) : Predicate → Bool
  | .family comparison expected => comparison.holds (compare cell.column.family expected)
  | .qualifier comparison operand => comparison.holds (operand.order cell.column.qualifier)
  | .value test => test.passes row
  | .pageLimit _ => true
  | .all children => allAdmit row cell children
  | .any children => children.isEmpty || anyAdmits row cell children

/-- Whether every one of some predicates admits a cell. -/
def allAdmit (row : Row) (cell : Cell) : List Predicate → Bool
  | [] => true
  | child :: rest => admits row cell child && allAdmit row cell rest

/-- Whether one of some predicates admits a cell. -/
def anyAdmits (row : Row) (cell : Cell) : List Predicate → Bool
  | [] => false
  | child :: rest => admits row cell child || anyAdmits row cell rest

end

theorem allAdmit_eq (row : Row) (cell : Cell) (children : List Predicate) :
    allAdmit row cell children = children.all (admits row cell) := by
  induction children with
  | nil => rfl
  | cons child rest inductionHypothesis =>
      rw [allAdmit, inductionHypothesis, List.all_cons]

theorem anyAdmits_eq (row : Row) (cell : Cell) (children : List Predicate) :
    anyAdmits row cell children = children.any (admits row cell) := by
  induction children with
  | nil => rfl
  | cons child rest inductionHypothesis =>
      rw [anyAdmits, inductionHypothesis, List.any_cons]

/-- The row with the admitted cells, in their order.  Each cell is judged as
part of the whole row. -/
def apply (predicate : Predicate) (row : Row) : Row :=
  { row with cells := row.cells.filter fun cell => predicate.admits row cell }

/-! ## Comparison and text -/

mutual

/-- Whether two predicates are written alike. -/
def same : Predicate → Predicate → Bool
  | .family comparison expected, .family comparison' expected' =>
      comparison == comparison' && expected == expected'
  | .qualifier comparison operand, .qualifier comparison' operand' =>
      comparison == comparison' && operand == operand'
  | .value test, .value test' => test.same test'
  | .pageLimit rows, .pageLimit rows' => rows == rows'
  | .all children, .all children' => sameEach children children'
  | .any children, .any children' => sameEach children children'
  | _, _ => false

/-- Whether predicates in two lists are written alike one by one. -/
def sameEach : List Predicate → List Predicate → Bool
  | [], [] => true
  | child :: rest, child' :: rest' => same child child' && sameEach rest rest'
  | _, _ => false

end

/-- The text of a test on a column: the fold that it names, or `value`. -/
def columnText (test : ColumnTest) : String :=
  let function := (test.fold.map Aggregator.name).getD "value"
  let operand := match test.operand with
    | .number expected => toString expected.toInt
    | .bytes expected => Text.quoted (Text.lossy expected)
  function ++ "(" ++ Text.lossy test.column.qualifier ++ ") " ++ test.comparison.symbol ++ " " ++
    operand

mutual

/-- The predicate as text. -/
def text : Predicate → String
  | .family comparison expected =>
      "family " ++ comparison.symbol ++ " " ++ Text.quoted (Text.lossy expected)
  | .qualifier comparison (.whole expected) =>
      "qualifier " ++ comparison.symbol ++ " " ++ Text.quoted (Text.lossy expected)
  | .qualifier comparison (.front expected) =>
      "qualifier prefix " ++ comparison.symbol ++ " " ++ Text.quoted (Text.lossy expected)
  | .value test => columnText test
  | .pageLimit rows => "page(" ++ toString rows.toNat ++ ")"
  | .all children => "AND(" ++ String.intercalate ", " (texts children) ++ ")"
  | .any children => "OR(" ++ String.intercalate ", " (texts children) ++ ")"

/-- Predicates as texts, one each. -/
def texts : List Predicate → List String
  | [] => []
  | child :: rest => text child :: texts rest

end

end Predicate
end FlowRuns
