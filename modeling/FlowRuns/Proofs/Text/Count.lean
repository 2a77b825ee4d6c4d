import FlowRuns.Text.Count
import Mathlib.Data.Nat.Digits.Defs

namespace FlowRuns

/-!
# What a count is written as

Digits are read from the left, and reading stops as soon as the number read so
far does not fit.  A further digit never makes the number less.  So reading
succeeds exactly if the whole number fits, however many zeros stand in front of
it, and then the count is the number that all digits denote.
-/

namespace Text

/-- The number that decimal digits denote, the first of them the highest. -/
def denoted (digits : List Char) : Nat :=
  Nat.ofDigits 10 (digits.map fun digit => digit.toNat - '0'.toNat).reverse

/-- The text is at least one ASCII digit, behind a plus sign or without one, and
the digits denote the number. -/
def Writes (text : String) (number : Nat) : Prop :=
  ∃ digits : List Char, digits ≠ [] ∧ (∀ digit ∈ digits, digit.isDigit) ∧
    denoted digits = number ∧ (text.toList = digits ∨ text.toList = '+' :: digits)

/-! ## Digits -/

@[simp]
theorem denoted_nil : denoted [] = 0 := rfl

theorem denoted_cons (digit : Char) (rest : List Char) :
    denoted (digit :: rest) = (digit.toNat - 48) * 10 ^ rest.length + denoted rest := by
  rw [denoted, List.map_cons, Nat.ofDigits_reverse_cons, List.length_map, ← denoted, Nat.add_comm,
    Nat.mul_comm]
  rfl

/-- Digits go on from the number read so far, and are read as long as the whole
number fits. -/
theorem countFrom_eq_ok_iff {digits : List Char} {count number : Nat}
    (small : count < UInt64.size) :
    countFrom count digits = .ok number ↔
      (∀ digit ∈ digits, digit.isDigit) ∧
        count * 10 ^ digits.length + denoted digits = number ∧ number < UInt64.size := by
  induction digits generalizing count with
  | nil =>
      rw [countFrom, Except.ok.injEq, List.length_nil, Nat.pow_zero, Nat.mul_one, denoted_nil,
        Nat.add_zero]
      constructor
      · rintro rfl
        exact ⟨fun _ member => absurd member List.not_mem_nil, rfl, small⟩
      · exact fun written => written.2.1
  | cons digit rest inductionHypothesis =>
      rw [countFrom, List.forall_mem_cons, denoted_cons, List.length_cons]
      by_cases decimal : digit.isDigit
      · -- What has been read is a lower bound of the whole number.
        have taken : count * 10 ^ (rest.length + 1) +
            ((digit.toNat - 48) * 10 ^ rest.length + denoted rest) =
              (count * 10 + (digit.toNat - 48)) * 10 ^ rest.length + denoted rest := by
          rw [Nat.pow_succ, Nat.add_mul, Nat.mul_assoc, Nat.mul_comm 10, Nat.add_assoc]
        rw [if_pos decimal, taken]
        by_cases fits : count * 10 + (digit.toNat - 48) < UInt64.size
        · simp only [if_pos fits]
          rw [inductionHypothesis fits]
          simp only [decimal, true_and]
        · have beyond : count * 10 + (digit.toNat - 48) ≤
              (count * 10 + (digit.toNat - 48)) * 10 ^ rest.length + denoted rest :=
            Nat.le_add_right_of_le (Nat.le_mul_of_pos_right _ (Nat.pow_pos (by decide)))
          simp only [if_neg fits]
          constructor
          · intro read
            cases read
          · rintro ⟨_, rfl, whole⟩
            exact absurd (Nat.lt_of_le_of_lt beyond whole) fits
      · rw [if_neg decimal]
        constructor
        · intro read
          cases read
        · exact fun written => absurd written.1.1 decimal

/-! ## Signs -/

/-- A plus sign with something behind it is passed over, and nothing else is. -/
theorem unsigned_cases (characters : List Char) :
    unsigned characters = characters ∨
      characters = '+' :: unsigned characters ∧ unsigned characters ≠ [] := by
  unfold unsigned
  split
  · exact .inl rfl
  · next signed => exact .inr ⟨rfl, fun empty => signed (by rw [empty])⟩
  · exact .inl rfl

theorem unsigned_plus {digits : List Char} (present : digits ≠ []) :
    unsigned ('+' :: digits) = digits := by
  cases digits with
  | nil => exact absurd rfl present
  | cons first rest => rfl

theorem unsigned_of_digits {digits : List Char} (decimal : ∀ digit ∈ digits, digit.isDigit) :
    unsigned digits = digits := by
  rcases unsigned_cases digits with same | ⟨signed, _⟩
  · exact same
  · have sign : '+' ∈ digits := by
      rw [signed]
      exact List.mem_cons_self
    exact absurd (decimal '+' sign) (by decide)

theorem writes_iff {text : String} {number : Nat} :
    Writes text number ↔
      text.toList ≠ [] ∧ (∀ digit ∈ unsigned text.toList, digit.isDigit) ∧
        denoted (unsigned text.toList) = number := by
  constructor
  · rintro ⟨digits, present, decimal, value, written⟩
    have stripped : unsigned text.toList = digits := by
      rcases written with written | written <;> rw [written]
      · exact unsigned_of_digits decimal
      · exact unsigned_plus present
    rw [stripped]
    refine ⟨?_, decimal, value⟩
    rcases written with written | written <;> rw [written]
    · exact present
    · exact List.cons_ne_nil _ _
  · rintro ⟨present, decimal, value⟩
    rcases unsigned_cases text.toList with same | ⟨signed, behind⟩
    · rw [same] at decimal value
      exact ⟨text.toList, present, decimal, value, .inl rfl⟩
    · exact ⟨unsigned text.toList, behind, decimal, value, .inr signed⟩

/-- A text reads as a count exactly if it writes it, which takes a number below
2^64. -/
theorem count_eq_ok_iff {text : String} {limit : UInt64} :
    count text = .ok limit ↔ Writes text limit.toNat := by
  rw [writes_iff, count]
  cases text.toList with
  | nil => simp
  | cons first rest =>
      have read (number : Nat) : countFrom 0 (unsigned (first :: rest)) = .ok number ↔
          (∀ digit ∈ unsigned (first :: rest), digit.isDigit) ∧
            denoted (unsigned (first :: rest)) = number ∧ number < UInt64.size := by
        rw [countFrom_eq_ok_iff (by decide), Nat.zero_mul, Nat.zero_add]
      simp only
      constructor
      · intro counted
        cases digits : countFrom 0 (unsigned (first :: rest)) with
        | error fault =>
            rw [digits] at counted
            cases counted
        | ok number =>
            rcases (read number).mp digits with ⟨decimal, value, small⟩
            rw [digits] at counted
            cases counted
            rw [UInt64.toNat_ofNat', Nat.mod_eq_of_lt small]
            exact ⟨List.cons_ne_nil _ _, decimal, value⟩
      · rintro ⟨_, decimal, value⟩
        rw [(read limit.toNat).mpr ⟨decimal, value, limit.toNat_lt⟩, Except.map,
          UInt64.ofNat_toNat]

end Text
end FlowRuns
