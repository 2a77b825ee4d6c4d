namespace FlowRuns

/-!
# Blank text

White space is the Unicode property `White_Space`, twenty-five characters.
Zero-width space U+200B and the byte order mark U+FEFF do not have it.
-/

namespace Text

/-- Whether a character has the Unicode property `White_Space`. -/
def isSpace (character : Char) : Bool :=
  let code := character.toNat
  (9 ≤ code && code ≤ 13) || code == 0x20 || code == 0x85 || code == 0xA0 || code == 0x1680 ||
    (0x2000 ≤ code && code ≤ 0x200A) || code == 0x2028 || code == 0x2029 || code == 0x202F ||
    code == 0x205F || code == 0x3000

/-- Whether a text has no character but white space. -/
def isBlank (text : String) : Bool :=
  text.toList.all isSpace

end Text
end FlowRuns
