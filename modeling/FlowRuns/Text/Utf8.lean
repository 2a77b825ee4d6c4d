import FlowRuns.Bytes

namespace FlowRuns

/-!
# UTF-8

Text is stored as the UTF-8 form of its characters.  Reading comes in two
strengths.  `Text.ofBytes?` accepts exactly the byte strings that some text
is stored as.  `Text.lossy` reads every byte string, and shows each maximal
piece that begins no character or breaks one off as a single U+FFFD.
-/

namespace Text

/-- The stored form of a text. -/
def bytes (text : String) : Bytes :=
  text.toUTF8.data.toList

/-- The text stored as a byte string, if there is one. -/
def ofBytes? (raw : Bytes) : Option String :=
  String.fromUTF8? ⟨raw.toArray⟩

/-- A byte string reads as a text exactly if it is the stored form of it. -/
theorem ofBytes?_eq_some_iff {raw : Bytes} {text : String} :
    ofBytes? raw = some text ↔ bytes text = raw := by
  constructor
  · intro read
    simp only [ofBytes?, String.fromUTF8?] at read
    split at read
    · cases read
      simp [bytes, String.fromUTF8]
    · cases read
  · rintro rfl
    simp [ofBytes?, bytes, String.fromUTF8?, String.fromUTF8, text.isValidUTF8]

@[simp]
theorem ofBytes?_bytes (text : String) : ofBytes? (bytes text) = some text :=
  ofBytes?_eq_some_iff.mpr rfl

/-! ## Reading every byte string -/

/-- The character shown for a piece that is no character. -/
def replacement : Char := Char.ofNat 0xFFFD

/-- A character of which some bytes are still owed.  The next of them lies
between `low` and `high`. -/
structure Unfinished where
  bits : Nat
  owed : Nat
  low : Nat
  high : Nat

/-- The effect of a byte that no unfinished character claims.  Bounds tighter
than 80 to BF shut out overlong forms, surrogates, and numbers above 10FFFF. -/
def begin (byte : UInt8) : List Char × Option Unfinished :=
  let code := byte.toNat
  if code < 0x80 then ([Char.ofNat code], none)
  else if 0xC2 ≤ code ∧ code ≤ 0xDF then ([], some ⟨code % 0x20, 1, 0x80, 0xBF⟩)
  else if code = 0xE0 then ([], some ⟨0, 2, 0xA0, 0xBF⟩)
  else if code = 0xED then ([], some ⟨0xD, 2, 0x80, 0x9F⟩)
  else if 0xE1 ≤ code ∧ code ≤ 0xEF then ([], some ⟨code % 0x10, 2, 0x80, 0xBF⟩)
  else if code = 0xF0 then ([], some ⟨0, 3, 0x90, 0xBF⟩)
  else if 0xF1 ≤ code ∧ code ≤ 0xF3 then ([], some ⟨code % 0x08, 3, 0x80, 0xBF⟩)
  else if code = 0xF4 then ([], some ⟨4, 3, 0x80, 0x8F⟩)
  else ([replacement], none)

/-- The effect of one more byte.  A byte out of bounds breaks the unfinished
character off and is then read afresh. -/
def advance : Option Unfinished → UInt8 → List Char × Option Unfinished
  | none, byte => begin byte
  | some pending, byte =>
      let code := byte.toNat
      if pending.low ≤ code ∧ code ≤ pending.high then
        let bits := pending.bits * 0x40 + code % 0x40
        if pending.owed = 1 then ([Char.ofNat bits], none)
        else ([], some ⟨bits, pending.owed - 1, 0x80, 0xBF⟩)
      else
        let (shown, next) := begin byte
        (replacement :: shown, next)

/-- The characters shown for a byte string that follows an unfinished character. -/
def shownAfter : Option Unfinished → Bytes → List Char
  | none, [] => []
  | some _, [] => [replacement]
  | pending, byte :: rest =>
      let (shown, next) := advance pending byte
      shown ++ shownAfter next rest

/-- The text shown for any byte string. -/
def lossy (raw : Bytes) : String :=
  String.ofList (shownAfter none raw)

end Text
end FlowRuns
