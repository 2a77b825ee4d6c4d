import FlowRuns.Bytes

namespace FlowRuns

/-!
# Hexadecimal text

Byte strings are written with two lower-case digits a byte.
-/

namespace Hex

/-- The digit for a number below sixteen. -/
def digit (value : Nat) : Char :=
  if value < 10 then Char.ofNat (48 + value) else Char.ofNat (87 + value)

/-- The number that a digit of either case stands for. -/
def value? (digit : Char) : Option Nat :=
  let code := digit.toNat
  if 48 ≤ code ∧ code ≤ 57 then some (code - 48)
  else if 97 ≤ code ∧ code ≤ 102 then some (code - 87)
  else if 65 ≤ code ∧ code ≤ 70 then some (code - 55)
  else none

/-- Two lower-case digits for each byte, the high one first. -/
def encode (raw : Bytes) : String :=
  String.ofList (raw.flatMap fun byte => [digit (byte.toNat / 16), digit (byte.toNat % 16)])

private def pairs : List Char → Option Bytes
  | [] => some []
  | [_] => none
  | high :: low :: rest => do
      let upper ← value? high
      let lower ← value? low
      let bytes ← pairs rest
      return UInt8.ofNat (16 * upper + lower) :: bytes

/-- The bytes that an even number of digits spell. -/
def decode? (text : String) : Option Bytes :=
  pairs text.toList

end Hex
end FlowRuns
