import FlowRuns.Text.Extending
import FlowRuns.Text.Printable

namespace FlowRuns

/-!
# Quoted text

A quoted text stands between double quotes.  Quotes, backslashes and the four
named control characters take a backslash.  Every other character that a
reader would not see by itself, because it is unprintable or merges with the
one before, is written as its code point in hexadecimal.
-/

namespace Text

/-- Lower-case hexadecimal digits without leading zeros. -/
def hexDigits (number : Nat) : String :=
  String.ofList (Nat.toDigits 16 number)

/-- The written form of one character within quotes. -/
def quotedCharacter (character : Char) : String :=
  if character = '\"' then "\\\""
  else if character = '\\' then "\\\\"
  else if character = '\n' then "\\n"
  else if character = '\r' then "\\r"
  else if character = '\t' then "\\t"
  else if character.toNat = 0 then "\\0"
  else if isExtending character || !isPrintable character then
    "\\u\x7b" ++ hexDigits character.toNat ++ "\x7d"
  else character.toString

/-- The written form of a text, quotes included. -/
def quoted (text : String) : String :=
  "\"" ++ String.join (text.toList.map quotedCharacter) ++ "\""

end Text
end FlowRuns
