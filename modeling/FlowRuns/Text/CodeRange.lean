namespace FlowRuns

/-!
# Sets of characters

A set of characters is listed as inclusive ranges of code points, the lowest
first.
-/

namespace Text

/-- Inclusive ranges of code points. -/
abbrev CodeRanges := List (Nat × Nat)

/-- Whether a character lies in one of the ranges. -/
def CodeRanges.holds (ranges : CodeRanges) (character : Char) : Bool :=
  ranges.any fun range => range.1 ≤ character.toNat && character.toNat ≤ range.2

/-- Whether each range ends before the next begins, with a code point between
them. -/
def CodeRanges.ascending : CodeRanges → Bool
  | [] => true
  | [range] => range.1 ≤ range.2
  | range :: following :: others =>
    range.1 ≤ range.2 && range.2 + 1 < following.1 && ascending (following :: others)

end Text
end FlowRuns
