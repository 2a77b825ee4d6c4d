namespace FlowRuns

/-!
# Byte strings

Keys, qualifiers and values of a table are finite byte strings, compared
byte by byte as unsigned numbers.  A natural number has a big-endian form of
every fixed width.  At one width the form determines the number as long as
the number fits, and every byte string is the form of the number it spells.
-/

/-- A byte string. -/
abbrev Bytes := List UInt8

namespace Bytes

/-- The number of byte strings of a width. -/
def capacity : (width : Nat) → Nat
  | 0 => 1
  | width + 1 => 256 * capacity width

/-- The lowest `width` base-256 digits of a number, the highest of them first. -/
def ofNat : (width : Nat) → Nat → Bytes
  | 0, _ => []
  | width + 1, number => ofNat width (number / 256) ++ [UInt8.ofNat number]

/-- The number that a byte string spells in base 256. -/
def toNat (raw : Bytes) : Nat :=
  raw.foldl (fun number digit => number * 256 + digit.toNat) 0

@[simp]
theorem toNat_nil : toNat [] = 0 := rfl

@[simp]
theorem toNat_concat (raw : Bytes) (digit : UInt8) :
    toNat (raw ++ [digit]) = toNat raw * 256 + digit.toNat := by
  simp [toNat]

@[simp]
theorem length_ofNat (width number : Nat) : (ofNat width number).length = width := by
  induction width generalizing number with
  | zero => rfl
  | succ width inductionHypothesis => simp [ofNat, inductionHypothesis]

/-- Digits beyond the width are lost, and nothing else is. -/
theorem toNat_ofNat (width number : Nat) :
    toNat (ofNat width number) = number % capacity width := by
  induction width generalizing number with
  | zero => simp [ofNat, capacity, Nat.mod_one]
  | succ width inductionHypothesis =>
      rw [ofNat, toNat_concat, inductionHypothesis, UInt8.toNat_ofNat', capacity, Nat.mod_mul]
      omega

private theorem exists_concat (raw : Bytes) (width : Nat) (length : raw.length = width + 1) :
    ∃ front digit, raw = front ++ [digit] ∧ front.length = width := by
  have nonempty : raw ≠ [] := by
    intro empty
    simp [empty] at length
  refine ⟨raw.dropLast, raw.getLast nonempty, (List.dropLast_concat_getLast nonempty).symm, ?_⟩
  simp [length]

/-- A byte string is the form, at its own length, of the number it spells. -/
theorem ofNat_toNat (raw : Bytes) : ofNat raw.length raw.toNat = raw := by
  generalize size : raw.length = width
  induction width generalizing raw with
  | zero => simp [List.length_eq_zero_iff.mp size, ofNat]
  | succ width inductionHypothesis =>
      rcases exists_concat raw width size with ⟨front, digit, rfl, frontSize⟩
      have low : digit.toNat < 256 := digit.toNat_lt
      have high : (toNat front * 256 + digit.toNat) / 256 = toNat front := by omega
      have last : UInt8.ofNat (toNat front * 256 + digit.toNat) = digit := by
        apply UInt8.toNat_inj.mp
        rw [UInt8.toNat_ofNat']
        omega
      rw [ofNat, toNat_concat, high, last, inductionHypothesis front frontSize]

theorem toNat_lt (raw : Bytes) : raw.toNat < capacity raw.length := by
  have positive (width : Nat) : 0 < capacity width := by
    induction width with
    | zero => decide
    | succ width inductionHypothesis => exact Nat.mul_pos (by decide) inductionHypothesis
  have cut := toNat_ofNat raw.length raw.toNat
  rw [ofNat_toNat] at cut
  rw [cut]
  exact Nat.mod_lt _ (positive _)

end Bytes
end FlowRuns
