import FlowRuns.Proofs.Bytes.Order
import FlowRuns.Proofs.Table.Predicate

namespace FlowRuns

/-!
# Names compared at their front

A test may compare a name with an operand as far as the operand is long.  Names
that begin with the operand are then equal to it, and every other name is ordered
against it as it is in the order of bytes.  In particular a name that ends before
the operand does comes before it, even if the operand begins with that name.

So names are ordered against a front as they are ordered among themselves, and the
names that a test admits follow one another without a gap.  The one exception is
the test for a difference.  It leaves out the names that begin with the operand and
admits those on both sides of them.
-/

/-- Byte strings that follow one another in the order of bytes: whatever lies
between two of them is one of them. -/
def Bytes.Contiguous (picks : Bytes → Prop) : Prop :=
  ∀ first middle last, (compare first middle).isLE → (compare middle last).isLE →
    picks first → picks last → picks middle

/-- A comparison other than the one for a difference that holds on both sides of
an ordering holds of it. -/
theorem Comparison.holds_of_between {comparison : Comparison} (sided : comparison ≠ .notEqual)
    {first middle last : Ordering} (upward : (compare first middle).isLE)
    (upward' : (compare middle last).isLE) (holds : comparison.holds first)
    (holds' : comparison.holds last) : comparison.holds middle := by
  cases middle with
  | lt =>
      cases first with
      | lt => exact holds
      | eq => cases upward
      | gt => cases upward
  | gt =>
      cases last with
      | lt => cases upward'
      | eq => cases upward'
      | gt => exact holds'
  | eq =>
      cases first with
      | eq => exact holds
      | gt => cases upward
      | lt =>
          cases last with
          | lt => cases upward'
          | eq => exact holds'
          | gt =>
              -- Only a difference is to be found both below and above.
              cases comparison with
              | notEqual => exact absurd rfl sided
              | less => cases holds'
              | equal => cases holds
              | greater => cases holds
              | lessOrEqual => cases holds'
              | greaterOrEqual => cases holds

namespace NameOperand

variable (start : Bytes) {name later : Bytes}

theorem order_front_eq_iff_begins : (front start).order name = .eq ↔ start <+: name := by
  rw [Comparison.order_front_eq_iff, List.isPrefixOf_iff_prefix]

/-- Where a name does not begin with the operand, the order of bytes decides. -/
theorem order_front_of_not_begins {start name : Bytes} (apart : ¬ start <+: name) :
    (front start).order name = compare name start := by
  rw [order]
  induction start generalizing name with
  | nil => exact absurd List.nil_prefix apart
  | cons byte rest inductionHypothesis =>
      cases name with
      | nil => rfl
      | cons first others =>
          rw [List.length_cons, List.take_succ_cons, List.compare_cons_cons,
            List.compare_cons_cons]
          cases order : compare first byte with
          | lt => rfl
          | gt => rfl
          | eq =>
              have same : first = byte := Std.LawfulEqCmp.eq_of_compare order
              have apart' : ¬ rest <+: others := fun begins =>
                apart (List.cons_prefix_cons.mpr ⟨same.symm, begins⟩)
              rw [inductionHypothesis apart']

theorem order_front_lt_iff : (front start).order name = .lt ↔ compare name start = .lt := by
  by_cases begins : start <+: name
  · rw [(order_front_eq_iff_begins start).mpr begins]
    constructor
    · intro impossible
      cases impossible
    · intro below
      exact absurd below (Bytes.compare_ne_lt_of_prefix begins)
  · rw [order_front_of_not_begins begins]

/-- A name that does not begin with the operand and is not before it comes after it. -/
theorem order_front_gt_iff :
    (front start).order name = .gt ↔ ¬ start <+: name ∧ compare name start ≠ .lt := by
  rw [← order_front_eq_iff_begins, Ne, ← order_front_lt_iff]
  cases (front start).order name <;> decide

/-! ## Later names -/

/-- Names before one that is before the operand are before it too. -/
theorem order_front_lt_of_isLE (upward : (compare name later).isLE)
    (below : (front start).order later = .lt) : (front start).order name = .lt := by
  rw [order_front_lt_iff] at below ⊢
  exact Std.TransCmp.lt_of_isLE_of_lt upward below

/-- Names after one that is after the operand are after it too.  They cannot begin
with it, since nothing else lies between the operand and a name that does. -/
theorem order_front_gt_of_isLE (upward : (compare name later).isLE)
    (above : (front start).order name = .gt) : (front start).order later = .gt := by
  rcases (order_front_gt_iff start).mp above with ⟨apart, after⟩
  refine (order_front_gt_iff start).mpr ⟨?_, ?_⟩
  · intro begins
    exact apart (Bytes.prefix_of_isLE after upward begins)
  · intro below
    exact after (Std.TransCmp.lt_of_isLE_of_lt upward below)

theorem order_front_mono (upward : (compare name later).isLE) :
    (compare ((front start).order name) ((front start).order later)).isLE := by
  cases here : (front start).order name with
  | lt => cases (front start).order later <;> rfl
  | gt => rw [order_front_gt_of_isLE start upward here]; rfl
  | eq =>
      cases there : (front start).order later with
      | lt =>
          rw [order_front_lt_of_isLE start upward there] at here
          cases here
      | eq => rfl
      | gt => rfl

/-- A name is equal to a front if it begins with it, before the front if the order
of bytes has it so, and after it else.  Hence no name that ends early is equal to
the front, later names are never ordered before earlier ones, and the qualifiers
that a test admits are contiguous unless it is the test for a difference, which
admits what the test for equality does not. -/
theorem order_front_consistent :
    (∀ name : Bytes,
      ((front start).order name = .eq ↔ start <+: name) ∧
      ((front start).order name = .lt ↔ compare name start = .lt) ∧
      ((front start).order name = .gt ↔ ¬ start <+: name ∧ compare name start ≠ .lt) ∧
      (name.length < start.length → (front start).order name ≠ .eq)) ∧
    (∀ name later : Bytes, (compare name later).isLE →
      (compare ((front start).order name) ((front start).order later)).isLE) ∧
    ∀ (row : Row) (family : Bytes) (timestamp : Int64) (value : Bytes),
      (∀ comparison : Comparison, comparison ≠ .notEqual → Bytes.Contiguous fun name =>
        Predicate.admits row ⟨⟨family, name⟩, timestamp, value⟩
          (.qualifier comparison (.front start))) ∧
      ∀ name : Bytes,
        Predicate.admits row ⟨⟨family, name⟩, timestamp, value⟩
            (.qualifier .notEqual (.front start)) =
          !Predicate.admits row ⟨⟨family, name⟩, timestamp, value⟩
            (.qualifier .equal (.front start)) := by
  refine ⟨?_, ?_, ?_⟩
  · intro name
    refine ⟨order_front_eq_iff_begins start, order_front_lt_iff start, order_front_gt_iff start, ?_⟩
    intro short same
    have begins := (order_front_eq_iff_begins start).mp same
    exact absurd begins.length_le (Nat.not_le_of_lt short)
  · intro name later upward
    exact order_front_mono start upward
  · intro row family timestamp value
    constructor
    · intro comparison sided first middle last upward upward' admitted admitted'
      rw [Predicate.admits] at admitted admitted' ⊢
      exact Comparison.holds_of_between sided (order_front_mono start upward)
        (order_front_mono start upward') admitted admitted'
    · intro name
      rw [Predicate.admits, Predicate.admits]
      cases (front start).order name <;> rfl

/-- The operand `m!` is after the name `m` that it begins with.  A test for the names
up to it admits `m`, which lies between `a` and the admitted `m!z`. -/
theorem order_front_consistent_of_short_name :
    (([0x6d] : Bytes).length < ([0x6d, 0x21] : Bytes).length ∧
      (front [0x6d, 0x21]).order [0x6d] ≠ .eq) ∧
    ((compare ([0x6d] : Bytes) [0x6d, 0x21, 0x7a]).isLE ∧
      (compare ((front [0x6d, 0x21]).order [0x6d])
        ((front [0x6d, 0x21]).order [0x6d, 0x21, 0x7a])).isLE) ∧
    Comparison.lessOrEqual ≠ .notEqual ∧
    (compare ([0x61] : Bytes) [0x6d]).isLE ∧
    Predicate.admits ⟨[], []⟩ ⟨⟨[0x69], [0x61]⟩, 1, []⟩
      (.qualifier .lessOrEqual (.front [0x6d, 0x21])) ∧
    Predicate.admits ⟨[], []⟩ ⟨⟨[0x69], [0x6d, 0x21, 0x7a]⟩, 1, []⟩
      (.qualifier .lessOrEqual (.front [0x6d, 0x21])) ∧
    Predicate.admits ⟨[], []⟩ ⟨⟨[0x69], [0x6d]⟩, 1, []⟩
      (.qualifier .lessOrEqual (.front [0x6d, 0x21])) := by
  have whole := order_front_consistent [0x6d, 0x21]
  have short : ([0x6d] : Bytes).length < ([0x6d, 0x21] : Bytes).length := by decide
  have upward : (compare ([0x6d] : Bytes) [0x6d, 0x21, 0x7a]).isLE := by decide
  have upward' : (compare ([0x61] : Bytes) [0x6d]).isLE := by decide
  have sided : Comparison.lessOrEqual ≠ .notEqual := by decide
  have first : Predicate.admits ⟨[], []⟩ ⟨⟨[0x69], [0x61]⟩, 1, []⟩
      (.qualifier .lessOrEqual (.front [0x6d, 0x21])) := by decide
  have last : Predicate.admits ⟨[], []⟩ ⟨⟨[0x69], [0x6d, 0x21, 0x7a]⟩, 1, []⟩
      (.qualifier .lessOrEqual (.front [0x6d, 0x21])) := by decide
  refine ⟨⟨short, (whole.1 [0x6d]).2.2.2 short⟩, ⟨upward, whole.2.1 _ _ upward⟩, sided,
    upward', first, last, ?_⟩
  exact (whole.2.2 ⟨[], []⟩ [0x69] 1 []).1 .lessOrEqual sided _ _ _ upward' upward first last

/-- The names that do not begin with `m!` have a gap where those that do are. -/
example : ¬ Bytes.Contiguous fun name =>
    Comparison.holds .notEqual ((front [0x6d, 0x21]).order name) := by
  intro contiguous
  have between := contiguous [0x6d] [0x6d, 0x21] [0x6e] (by decide) (by decide) (by decide)
    (by decide)
  exact absurd between (by decide)

end NameOperand
end FlowRuns
