import FlowRuns.Text.Utf8

namespace FlowRuns

/-!
# Escaped components

Names that stand in a key are written as components.  A component ends with
an exclamation mark, so that byte and the percent sign, which marks an escape,
are written as `%21` and `%25` inside a component.  Reading is generous in one
point: it lets an exclamation mark stand for itself.
-/

namespace Component

/-- The byte that ends a component, an exclamation mark. -/
def separator : UInt8 := 0x21

/-- The byte that begins an escape, a percent sign. -/
def escapeMark : UInt8 := 0x25

/-- The written form of one byte of a name. -/
def escapeByte (byte : UInt8) : Bytes :=
  if byte = separator then [escapeMark, 0x32, 0x31]
  else if byte = escapeMark then [escapeMark, 0x32, 0x35]
  else [byte]

/-- The written form of a name. -/
def encode (name : String) : Bytes :=
  (Text.bytes name).flatMap escapeByte

/-- The bytes that stand behind a written form.  A percent sign must begin one
of the two escapes. -/
def unescape : Bytes → Option Bytes
  | [] => some []
  | byte :: rest =>
      if byte = escapeMark then
        match rest with
        | 0x32 :: 0x31 :: later => (unescape later).map (separator :: ·)
        | 0x32 :: 0x35 :: later => (unescape later).map (escapeMark :: ·)
        | _ => none
      else (unescape rest).map (byte :: ·)

/-- The name that a byte string writes. -/
def decode? (raw : Bytes) : Option String :=
  (unescape raw).bind Text.ofBytes?

/-- Names as components, each of them with its end. -/
def joinTerminated (names : List String) : Bytes :=
  names.flatMap fun name => encode name ++ [separator]

/-- The bytes before the first component end, and those after it. -/
def splitFirst : Bytes → Option (Bytes × Bytes)
  | [] => none
  | byte :: rest =>
      if byte = separator then some ([], rest)
      else (splitFirst rest).map fun (component, later) => (byte :: component, later)

/-- The first `count` components, or as many as there are, and what follows them. -/
def splitTerminated (raw : Bytes) : (count : Nat) → List Bytes × Bytes
  | 0 => ([], raw)
  | count + 1 =>
      match splitFirst raw with
      | none => ([], raw)
      | some (component, later) =>
          let (components, rest) := splitTerminated later count
          (component :: components, rest)

end Component
end FlowRuns
