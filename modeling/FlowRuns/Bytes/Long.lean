import FlowRuns.Bytes

namespace FlowRuns

/-!
# Stored 64-bit numbers

A number is stored as the eight big-endian bytes of its two's complement.
Reading accepts exactly the byte strings of length eight, and a number and
its stored form determine each other.
-/

namespace Long

/-- The stored form of a number. -/
def encode (value : Int64) : Bytes :=
  Bytes.ofNat 8 value.toUInt64.toNat

/-- The number that eight bytes store.  A byte string of another length
stores none. -/
def decode? (raw : Bytes) : Option Int64 :=
  if raw.length = 8 then some (UInt64.ofNat raw.toNat).toInt64 else none

@[simp]
theorem length_encode (value : Int64) : (encode value).length = 8 :=
  Bytes.length_ofNat 8 _

@[simp]
theorem decode?_encode (value : Int64) : decode? (encode value) = some value := by
  have small : value.toUInt64.toNat < Bytes.capacity 8 := value.toUInt64.toNat_lt
  rw [decode?, if_pos (length_encode value), encode, Bytes.toNat_ofNat, Nat.mod_eq_of_lt small]
  simp

/-- Only the stored form of a number reads as that number. -/
theorem encode_of_decode? {raw : Bytes} {value : Int64} (read : decode? raw = some value) :
    encode value = raw := by
  by_cases size : raw.length = 8
  · rw [decode?, if_pos size] at read
    have bound : raw.toNat < UInt64.size := by
      have small := raw.toNat_lt
      rw [size] at small
      exact small
    have digits : value.toUInt64.toNat = raw.toNat := by
      rw [← Option.some.inj read, UInt64.toUInt64_toInt64, UInt64.toNat_ofNat',
        Nat.mod_eq_of_lt bound]
    rw [encode, digits, ← size, Bytes.ofNat_toNat]
  · rw [decode?, if_neg size] at read
    cases read

theorem decode?_eq_some_iff {raw : Bytes} {value : Int64} :
    decode? raw = some value ↔ encode value = raw :=
  ⟨encode_of_decode?, fun stored => stored ▸ decode?_encode value⟩

theorem decode?_eq_none_iff (raw : Bytes) : decode? raw = none ↔ raw.length ≠ 8 := by
  simp [decode?]

/-- The upper half of the unsigned numbers stands for the negative ones. -/
theorem toInt_eq (value : Int64) :
    value.toInt = if 2 * value.toUInt64.toNat < UInt64.size then (value.toUInt64.toNat : Int)
      else (value.toUInt64.toNat : Int) - UInt64.size :=
  BitVec.toInt_eq_toNat_cond value.toBitVec

end Long
end FlowRuns
