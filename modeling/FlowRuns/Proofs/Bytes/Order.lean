import FlowRuns.Bytes

namespace FlowRuns

/-!
# The order of byte strings

Byte strings are compared at their first difference.  Big-endian forms of one
width are therefore ordered like their numbers, and the byte strings that
begin alike follow one another without a gap.
-/

namespace Bytes

/-- A common beginning does not count. -/
theorem compare_append_left (front first second : Bytes) :
    compare (front ++ first) (front ++ second) = compare first second := by
  induction front with
  | nil => rfl
  | cons byte rest inductionHypothesis =>
      rw [List.cons_append, List.cons_append, List.compare_cons_cons, Std.compare_self,
        inductionHypothesis]
      rfl

/-- After beginnings of equal length the tails decide only between equals. -/
theorem compare_append {first second : Bytes} (size : first.length = second.length)
    (tail tail' : Bytes) :
    compare (first ++ tail) (second ++ tail') =
      (compare first second).then (compare tail tail') := by
  induction first generalizing second with
  | nil =>
      rw [List.length_eq_zero_iff.mp size.symm]
      rfl
  | cons byte rest inductionHypothesis =>
      cases second with
      | nil => cases size
      | cons other rest' =>
          rw [List.cons_append, List.cons_append, List.compare_cons_cons, List.compare_cons_cons,
            inductionHypothesis (Nat.succ.inj size), Ordering.then_assoc]

/-! ## Big-endian forms -/

private theorem compare_byte (first second : UInt8) :
    compare first second = compare first.toNat second.toNat := by
  simp [compare, compareOfLessAndEq, UInt8.lt_iff_toNat_lt, ← UInt8.toNat_inj]

private theorem compare_digits (high high' : Nat) {low low' : Nat} (small : low < 256)
    (small' : low' < 256) :
    compare (high * 256 + low) (high' * 256 + low') =
      (compare high high').then (compare low low') := by
  rcases Nat.lt_trichotomy high high' with below | same | above
  · have whole : high * 256 + low < high' * 256 + low' := by omega
    rw [Nat.compare_eq_lt.mpr whole, Nat.compare_eq_lt.mpr below]
    rfl
  · subst same
    rw [Std.compare_self (a := high)]
    rcases Nat.lt_trichotomy low low' with below | same | above
    · rw [Nat.compare_eq_lt.mpr below, Nat.compare_eq_lt.mpr (by omega)]
      rfl
    · rw [same, Std.compare_self, Std.compare_self]
      rfl
    · rw [Nat.compare_eq_gt.mpr above, Nat.compare_eq_gt.mpr (by omega)]
      rfl
  · have whole : high' * 256 + low' < high * 256 + low := by omega
    rw [Nat.compare_eq_gt.mpr whole, Nat.compare_eq_gt.mpr above]
    rfl

/-- Numbers that fit are ordered as their big-endian forms are. -/
theorem compare_ofNat {width first second : Nat} (fits : first < capacity width)
    (fits' : second < capacity width) :
    compare (ofNat width first) (ofNat width second) = compare first second := by
  induction width generalizing first second with
  | zero =>
      rw [capacity] at fits fits'
      have zero : first = 0 := by omega
      have zero' : second = 0 := by omega
      rw [zero, zero']
      rfl
  | succ width inductionHypothesis =>
      rw [capacity] at fits fits'
      have high : first / 256 < capacity width := by omega
      have high' : second / 256 < capacity width := by omega
      have lowest : compare [UInt8.ofNat first] [UInt8.ofNat second] =
          compare (first % 256) (second % 256) := by
        rw [List.compare_cons_cons, List.compare_nil_nil, Ordering.then_eq, compare_byte,
          UInt8.toNat_ofNat', UInt8.toNat_ofNat']
      calc
        compare (ofNat (width + 1) first) (ofNat (width + 1) second)
        _ = (compare (first / 256) (second / 256)).then (compare (first % 256) (second % 256)) := by
          rw [ofNat, ofNat, compare_append (by rw [length_ofNat, length_ofNat]),
            inductionHypothesis high high', lowest]
        _ = compare first second := by
          rw [← compare_digits _ _ (Nat.mod_lt _ (by decide)) (Nat.mod_lt _ (by decide)),
            Nat.div_add_mod', Nat.div_add_mod']

/-! ## Beginnings -/

/-- A byte string does not come before its own beginning. -/
theorem compare_ne_lt_of_prefix {start raw : Bytes} (begins : start <+: raw) :
    compare raw start ≠ .lt := by
  rcases begins with ⟨tail, rfl⟩
  have same := compare_append_left start tail []
  rw [List.append_nil] at same
  rw [same]
  cases tail with
  | nil => decide
  | cons byte rest =>
      rw [List.compare_cons_nil]
      decide

/-- Whatever lies between a beginning and a byte string that begins with it
begins with it too. -/
theorem prefix_of_between {start raw later : Bytes} (after : compare raw start ≠ .lt)
    (before : compare raw later = .lt) (begins : start <+: later) : start <+: raw := by
  induction start generalizing raw later with
  | nil => exact List.nil_prefix
  | cons byte rest inductionHypothesis =>
      rcases begins with ⟨tail, rfl⟩
      cases raw with
      | nil => exact absurd rfl after
      | cons first others =>
          rw [List.cons_append] at before
          rw [List.compare_cons_cons] at after before
          cases order : compare first byte with
          | lt => simp [order] at after
          | gt => simp [order] at before
          | eq =>
              have same : first = byte := Std.LawfulEqOrd.eq_of_compare order
              simp only [order, Ordering.eq_then] at after before
              rw [same]
              exact List.cons_prefix_cons.mpr
                ⟨rfl, inductionHypothesis after before (List.prefix_append rest tail)⟩

theorem prefix_of_isLE {start raw later : Bytes} (after : compare raw start ≠ .lt)
    (upward : (compare raw later).isLE) (begins : start <+: later) : start <+: raw := by
  rcases Ordering.isLE_iff_eq_lt_or_eq_eq.mp upward with before | same
  · exact prefix_of_between after before begins
  · rw [Std.LawfulEqCmp.eq_of_compare same]
    exact begins

end Bytes
end FlowRuns
