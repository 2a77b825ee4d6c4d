namespace FlowRuns

/-!
# Decimal counts

A count is written as ASCII digits, at least one of them, after an optional
plus sign, and lies below 2^64.  Digits are taken from the left, and the first
fault met is the one reported: a text may be at fault twice.
-/

namespace Text

/-- Why a text is no count. -/
inductive CountFault where
  | empty
  | notADigit
  | tooLarge
  deriving DecidableEq, Repr

/-- The wording of a fault. -/
def CountFault.message : CountFault → String
  | .empty => "cannot parse integer from empty string"
  | .notADigit => "invalid digit found in string"
  | .tooLarge => "number too large to fit in target type"

/-- Take the remaining digits on to the count read so far. -/
def countFrom (count : Nat) : List Char → Except CountFault Nat
  | [] => .ok count
  | character :: rest =>
      if character.isDigit then
        let next := count * 10 + (character.toNat - 48)
        if next < UInt64.size then countFrom next rest else .error .tooLarge
      else .error .notADigit

/-- The digits of a count without its optional sign.  A sign alone is kept,
and so counts as a digit that is none. -/
def unsigned : List Char → List Char
  | ['+'] => ['+']
  | '+' :: digits => digits
  | digits => digits

/-- Read a decimal count. -/
def count (text : String) : Except CountFault UInt64 :=
  match text.toList with
  | [] => .error .empty
  | characters => (countFrom 0 (unsigned characters)).map UInt64.ofNat

end Text
end FlowRuns
