import FlowRuns.Proofs.RunRow
import FlowRuns.Table.Predicate
import Mathlib.Data.List.Induction

namespace FlowRuns

/-!
# Stored numbers

Eight bytes store one number, the one that they spell in two's complement with
the highest byte first, and no other byte string stores a number.  Stored values
are read in several places: a test compares one with an operand, an aggregator
merges the versions of a column, and a run reports what its fixed columns and its
metrics come to.  All of them take the same values for numbers, and for the same
ones.
-/

namespace Bytes

/-- The number that a byte string spells in two's complement: the first byte counts
from -128 to 127, and the bytes behind it are digits. -/
def signed : Bytes → Int
  | [] => 0
  | first :: rest => first.toInt8.toInt * capacity rest.length + toNat rest

theorem toNat_append (front rest : Bytes) :
    toNat (front ++ rest) = toNat front * capacity rest.length + toNat rest := by
  induction rest using List.reverseRecOn with
  | nil => simp [capacity]
  | append_singleton rest digit inductionHypothesis =>
      rw [← List.append_assoc, toNat_concat, inductionHypothesis, toNat_concat, List.length_append,
        List.length_singleton, capacity, Nat.add_mul, Nat.mul_assoc, Nat.add_assoc,
        Nat.mul_comm 256]

theorem toNat_cons (first : UInt8) (rest : Bytes) :
    toNat (first :: rest) = first.toNat * capacity rest.length + toNat rest := by
  have spelled := toNat_append [first] rest
  have digit : toNat [first] = first.toNat := Nat.zero_add _
  rw [digit] at spelled
  exact spelled

end Bytes

namespace Long

/-! ## The number that bytes store -/

/-- The sign of the number is the sign of its first byte. -/
theorem toInt_of_length {raw : Bytes} (size : raw.length = 8) :
    (UInt64.ofNat raw.toNat).toInt64.toInt = raw.signed := by
  cases raw with
  | nil => cases size
  | cons first rest =>
      have tail : rest.length = 7 := Nat.succ.inj size
      have low := Bytes.toNat_lt rest
      have high := first.toNat_lt
      have seven : Bytes.capacity 7 = 72057594037927936 := rfl
      have sign : first.toInt8.toInt = if 2 * first.toNat < UInt8.size then (first.toNat : Int)
          else (first.toNat : Int) - UInt8.size :=
        BitVec.toInt_eq_toNat_cond first.toBitVec
      rw [tail, seven] at low
      rw [Bytes.signed, sign, toInt_eq, UInt64.toUInt64_toInt64, UInt64.toNat_ofNat',
        Bytes.toNat_cons, tail, seven, UInt64.size, UInt8.size]
      split <;> split <;> omega

/-- Bytes store a number exactly if there are eight of them, and they spell it. -/
theorem decode?_eq_some_iff_signed {raw : Bytes} {value : Int64} :
    decode? raw = some value ↔ raw.length = 8 ∧ value.toInt = raw.signed := by
  rw [decode?]
  by_cases size : raw.length = 8
  · rw [if_pos size, Option.some.injEq, ← toInt_of_length size, Int64.toInt_inj, eq_comm,
      and_iff_right size]
  · rw [if_neg size]
    exact iff_of_false (by simp) fun both => size both.1

theorem compare_toInt (first second : Int64) :
    compare first second = compare first.toInt second.toInt := by
  simp [compare, compareOfLessAndEq, Int64.lt_iff_toInt_lt, ← Int64.toInt_inj]

end Long

/-! ## What reads stored values -/

theorem Version.ofCells_singleton (cell : Cell) : ofCells [cell] = (ofCell? cell).toList := by
  rw [ofCells]
  cases read : ofCell? cell with
  | none => rw [List.filterMap_cons_none read, List.filterMap_nil, Option.toList_none]
  | some version => rw [List.filterMap_cons_some read, List.filterMap_nil, Option.toList_some]

/-- One version comes to itself. -/
theorem Aggregator.fold_ofCells_singleton (aggregator : Aggregator) (cell : Cell) :
    aggregator.fold (Version.ofCells [cell]) = Version.ofCell? cell := by
  rw [Version.ofCells_singleton, fold, Version.oldestFirst]
  cases Version.ofCell? cell with
  | none => rw [Option.toList_none, List.mergeSort_nil]
  | some version =>
      rw [Option.toList_some, List.mergeSort_singleton]
      rfl

theorem Version.map_value_ofCell? (cell : Cell) :
    (ofCell? cell).map value = Long.decode? cell.value := by
  rw [ofCell?, Option.map_map]
  exact Option.map_id'

/-- A stored value counts as some number, or as none, wherever values are read. -/
structure CountsAs (raw : Bytes) (number : Option Int64) : Prop where
  /-- A number as the operand has the order of the numbers, and else there is none. -/
  ordered : ∀ expected, (ValueOperand.number expected).order? raw =
    number.map fun value => compare value.toInt expected.toInt
  /-- A test without a fold compares the newest version. -/
  tested : ∀ (row : Row) (column : Column) (newest : Cell) (older : List Cell),
    row.versions column = newest :: older → newest.value = raw →
    ∀ comparison expected rejectMissing,
      ColumnTest.passes ⟨column, comparison, .number expected, rejectMissing, none⟩ row =
        number.any fun value => comparison.holds (compare value expected)
  /-- A test with a fold compares what the only version comes to. -/
  folded : ∀ (row : Row) (column : Column) (only : Cell),
    row.versions column = [only] → only.value = raw →
    ∀ comparison expected rejectMissing aggregator,
      ColumnTest.passes ⟨column, comparison, .number expected, rejectMissing, some aggregator⟩ row =
        number.any fun value => comparison.holds (compare value expected)
  /-- A run reports the only version of a fixed column. -/
  fixed : ∀ (schema : Schema) (row : Row) (column : FixedColumn) (only : Cell),
    row.versions (schema.fixed column) = [only] → only.value = raw →
    Run.fixedNumber schema row column = number
  /-- A run reports the only data point of a metric. -/
  metric : ∀ (schema : Schema) (row : Row) (name : String) (only : Cell),
    row.cellsNamed schema name = [only] → only.value = raw →
    (Run.metricsOf schema row).find? name = number.map fun value => ⟨value, only.timestamp⟩

theorem countsAs_decode? (raw : Bytes) : CountsAs raw (Long.decode? raw) where
  ordered expected := by
    simp only [ValueOperand.order?, Long.compare_toInt]
  tested row column newest older listed stored comparison expected rejectMissing := by
    rw [ColumnTest.passes, listed]
    simp only [ColumnTest.order?, ValueOperand.order?, stored]
    cases Long.decode? raw <;> rfl
  folded row column only listed stored comparison expected rejectMissing aggregator := by
    rw [ColumnTest.passes, listed]
    simp only [ColumnTest.order?, Aggregator.foldCells, Aggregator.fold_ofCells_singleton,
      Version.map_value_ofCell?, stored]
    cases Long.decode? raw <;> rfl
  fixed schema row column only listed stored := by
    rw [Run.fixedNumber, listed, ← stored, ← Version.map_value_ofCell?]
    cases column.aggregator with
    | none =>
        simp only [Version.ofCells_singleton]
        cases Version.ofCell? only <;> rfl
    | some aggregator => simp only [Aggregator.foldCells, Aggregator.fold_ofCells_singleton]
  metric schema row name only listed stored := by
    rw [Run.find?_metricsOf_cellsNamed, listed, Run.metricOf?, Aggregator.fold_ofCells_singleton,
      Version.ofCell?, stored, Option.map_map]
    rfl

/-- Numbers and their stored forms determine each other.  What has another length
than eight stores no number, and eight bytes store the number that they spell in
two's complement.  Tests and runs count a stored value as the number that it
stores, and as none if it stores none. -/
theorem Long.counts_as_stored :
    (∀ value, decode? (encode value) = some value) ∧
    (∀ raw value, decode? raw = some value ↔ encode value = raw) ∧
    (∀ raw, decode? raw = none ↔ raw.length ≠ 8) ∧
    (∀ raw value, decode? raw = some value ↔ raw.length = 8 ∧ value.toInt = raw.signed) ∧
    ∀ raw, CountsAs raw (decode? raw) :=
  ⟨decode?_encode, fun _ _ => decode?_eq_some_iff, decode?_eq_none_iff,
    fun _ _ => decode?_eq_some_iff_signed, countsAs_decode?⟩

/-- The least number, the greatest one compared with it, and zero in nine bytes. -/
example :
    Long.decode? [0x80, 0, 0, 0, 0, 0, 0, 0] = some Int64.minValue ∧
    (ValueOperand.number Int64.minValue).order? (Long.encode Int64.maxValue) = some .gt ∧
    (ValueOperand.number 0).order? (0 :: Long.encode 0) = none := by
  decide

end FlowRuns
