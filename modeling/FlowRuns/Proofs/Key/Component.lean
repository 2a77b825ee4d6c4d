import FlowRuns.Key.Component
import FlowRuns.Proofs.Text.Utf8

namespace FlowRuns

/-!
# Components determine what they write

The written forms of a name are a grammar of bytes: an escape for every escape
mark, an escape or the bare byte for every separator, and every other byte as it
is.  Reading accepts exactly these forms.  Writing chooses the one form that has
no separator in it, so reading undoes writing, and writing undoes reading as long
as the bytes that were read have no separator of their own.
-/

namespace Component

/-! ## Escapes -/

private theorem escapeByte_of_ne {byte : UInt8} (plain : byte ≠ separator)
    (unmarked : byte ≠ escapeMark) : escapeByte byte = [byte] := by
  rw [escapeByte, if_neg plain, if_neg unmarked]

theorem separator_not_mem_escapeByte (byte : UInt8) : separator ∉ escapeByte byte := by
  by_cases plain : byte = separator
  · subst plain
    decide
  · by_cases unmarked : byte = escapeMark
    · subst unmarked
      decide
    · rw [escapeByte_of_ne plain unmarked, List.mem_singleton]
      intro same
      exact plain same.symm

theorem separator_not_mem_encode (name : String) : separator ∉ encode name := by
  intro member
  rcases List.mem_flatMap.mp member with ⟨byte, _, escaped⟩
  exact separator_not_mem_escapeByte byte escaped

theorem separator_not_mem_encodes (names : List String) :
    ∀ component ∈ names.map encode, separator ∉ component := by
  intro component member
  rcases List.mem_map.mp member with ⟨name, _, rfl⟩
  exact separator_not_mem_encode name

theorem unescape_cons_of_ne {byte : UInt8} (unmarked : byte ≠ escapeMark) (rest : Bytes) :
    unescape (byte :: rest) = (unescape rest).map (byte :: ·) := by
  rw [unescape.eq_def]
  exact if_neg unmarked

/-! ## Written forms -/

/-- The written forms of one byte.  The separator has two of them. -/
inductive WrittenByte : UInt8 → Bytes → Prop
  | mark : WrittenByte escapeMark [escapeMark, 0x32, 0x35]
  | bare : WrittenByte separator [separator]
  | escaped : WrittenByte separator [escapeMark, 0x32, 0x31]
  | other {byte : UInt8} (plain : byte ≠ separator) (unmarked : byte ≠ escapeMark) :
      WrittenByte byte [byte]

/-- The written forms of a byte string: a form of each byte, one after the other. -/
inductive Written : Bytes → Bytes → Prop
  | nil : Written [] []
  | cons {byte : UInt8} {form plain raw : Bytes} (first : WrittenByte byte form)
      (rest : Written plain raw) : Written (byte :: plain) (form ++ raw)

theorem writtenByte_escapeByte (byte : UInt8) : WrittenByte byte (escapeByte byte) := by
  by_cases plain : byte = separator
  · subst plain
    exact .escaped
  · by_cases unmarked : byte = escapeMark
    · subst unmarked
      exact .mark
    · rw [escapeByte_of_ne plain unmarked]
      exact .other plain unmarked

/-- A written byte is read back whatever follows it. -/
theorem unescape_append_of_writtenByte {byte : UInt8} {form : Bytes}
    (written : WrittenByte byte form) (rest : Bytes) :
    unescape (form ++ rest) = (unescape rest).map (byte :: ·) := by
  cases written with
  | mark =>
      change unescape (0x25 :: 0x32 :: 0x35 :: rest) = _
      rw [unescape, if_pos (by decide)]
  | bare => exact unescape_cons_of_ne (by decide) rest
  | escaped =>
      change unescape (0x25 :: 0x32 :: 0x31 :: rest) = _
      rw [unescape, if_pos (by decide)]
  | other _ unmarked => exact unescape_cons_of_ne unmarked rest

theorem unescape_of_written {plain raw : Bytes} (written : Written plain raw) :
    unescape raw = some plain := by
  induction written with
  | nil => rfl
  | cons first _ inductionHypothesis =>
      rw [unescape_append_of_writtenByte first, inductionHypothesis, Option.map_some]

/-- Only written forms are read. -/
theorem written_of_unescape {raw plain : Bytes} (read : unescape raw = some plain) :
    Written plain raw := by
  -- The cases are those of the reader; the two escapes each consume three bytes.
  induction raw using unescape.induct generalizing plain with
  | case1 =>
      rw [unescape] at read
      cases read
      exact .nil
  | case2 later inductionHypothesis =>
      rw [unescape, if_pos (by rfl)] at read
      rcases Option.map_eq_some_iff.mp read with ⟨tail, tailRead, rfl⟩
      exact .cons .escaped (inductionHypothesis tailRead)
  | case3 later inductionHypothesis =>
      rw [unescape, if_pos (by rfl)] at read
      rcases Option.map_eq_some_iff.mp read with ⟨tail, tailRead, rfl⟩
      exact .cons .mark (inductionHypothesis tailRead)
  | case4 rest noSeparator noMark =>
      rw [unescape, if_pos rfl] at read
      · cases read
      · exact noSeparator
      · exact noMark
  | case5 byte rest unmarked inductionHypothesis =>
      rw [unescape_cons_of_ne unmarked] at read
      rcases Option.map_eq_some_iff.mp read with ⟨tail, tailRead, rfl⟩
      by_cases bare : byte = separator
      · rw [bare]
        exact .cons .bare (inductionHypothesis tailRead)
      · exact .cons (.other bare unmarked) (inductionHypothesis tailRead)

theorem unescape_eq_some_iff {raw plain : Bytes} :
    unescape raw = some plain ↔ Written plain raw :=
  ⟨written_of_unescape, unescape_of_written⟩

theorem unescape_escapeByte_append (byte : UInt8) (rest : Bytes) :
    unescape (escapeByte byte ++ rest) = (unescape rest).map (byte :: ·) :=
  unescape_append_of_writtenByte (writtenByte_escapeByte byte) rest

theorem unescape_flatMap_escapeByte_append (raw rest : Bytes) :
    unescape (raw.flatMap escapeByte ++ rest) = (unescape rest).map (raw ++ ·) := by
  induction raw with
  | nil => simp
  | cons byte tail inductionHypothesis =>
      rw [List.flatMap_cons, List.append_assoc, unescape_escapeByte_append, inductionHypothesis,
        Option.map_map]
      rfl

theorem unescape_flatMap_escapeByte (raw : Bytes) :
    unescape (raw.flatMap escapeByte) = some raw := by
  have read := unescape_flatMap_escapeByte_append raw []
  rw [List.append_nil, unescape, Option.map_some, List.append_nil] at read
  exact read

/-! ## Spellings -/

/-- The same bytes with every bare separator escaped. -/
def respell (raw : Bytes) : Bytes :=
  raw.flatMap fun byte => if byte = separator then escapeByte byte else [byte]

theorem respell_separator_cons (rest : Bytes) :
    respell (separator :: rest) = escapeByte separator ++ respell rest := by
  rw [respell, List.flatMap_cons, if_pos rfl]
  rfl

theorem respell_cons_of_ne {byte : UInt8} (plain : byte ≠ separator) (rest : Bytes) :
    respell (byte :: rest) = byte :: respell rest := by
  rw [respell, List.flatMap_cons, if_neg plain]
  rfl

theorem separator_not_mem_respell (raw : Bytes) : separator ∉ respell raw := by
  intro member
  rcases List.mem_flatMap.mp member with ⟨byte, _, written⟩
  split at written
  · exact separator_not_mem_escapeByte byte written
  · next plain => exact plain (List.mem_singleton.mp written).symm

/-- Only bytes with a bare separator are changed. -/
theorem respell_eq_self_iff {raw : Bytes} : respell raw = raw ↔ separator ∉ raw := by
  constructor
  · intro same
    rw [← same]
    exact separator_not_mem_respell raw
  · intro free
    induction raw with
    | nil => rfl
    | cons byte rest inductionHypothesis =>
        have plain : byte ≠ separator := fun same => free (by rw [same]; exact List.mem_cons_self)
        rw [respell_cons_of_ne plain,
          inductionHypothesis fun member => free (List.mem_cons_of_mem _ member)]

/-- A byte in front that begins no escape was there before. -/
theorem cons_of_respell {raw later : Bytes} {byte : UInt8} (unmarked : byte ≠ escapeMark)
    (written : respell raw = byte :: later) : ∃ rest, raw = byte :: rest ∧ respell rest = later := by
  cases raw with
  | nil => cases written
  | cons first rest =>
      by_cases bare : first = separator
      · rw [bare, respell_separator_cons] at written
        exact absurd (List.cons.inj written).1.symm unmarked
      · rw [respell_cons_of_ne bare] at written
        cases written
        exact ⟨rest, rfl, rfl⟩

theorem respell_of_writtenByte {byte : UInt8} {form : Bytes} (written : WrittenByte byte form) :
    respell form = escapeByte byte := by
  cases written with
  | mark | bare | escaped => decide
  | other plain unmarked =>
      rw [respell_cons_of_ne plain, escapeByte_of_ne plain unmarked]
      rfl

/-- All written forms are the escaped form but for bare separators. -/
theorem respell_of_written {plain raw : Bytes} (written : Written plain raw) :
    respell raw = plain.flatMap escapeByte := by
  induction written with
  | nil => rfl
  | cons first _ inductionHypothesis =>
      rw [List.flatMap_cons, ← respell_of_writtenByte first, ← inductionHypothesis]
      exact List.flatMap_append

/-- Escaping bare separators does not change what is read. -/
theorem unescape_respell (raw : Bytes) : unescape (respell raw) = unescape raw := by
  induction raw using unescape.induct with
  | case1 => rfl
  | case2 later inductionHypothesis =>
      change unescape (0x25 :: 0x32 :: 0x31 :: respell later) = _
      rw [unescape, unescape, if_pos (by rfl), if_pos (by rfl), inductionHypothesis]
  | case3 later inductionHypothesis =>
      change unescape (0x25 :: 0x32 :: 0x35 :: respell later) = _
      rw [unescape, unescape, if_pos (by rfl), if_pos (by rfl), inductionHypothesis]
  | case4 rest noSeparator noMark =>
      rw [respell_cons_of_ne (by decide), unescape, unescape, if_pos rfl, if_pos rfl]
      · exact noSeparator
      · exact noMark
      · intro later written
        rcases cons_of_respell (by decide) written with ⟨second, rfl, written'⟩
        rcases cons_of_respell (by decide) written' with ⟨tail, rfl, _⟩
        exact noSeparator tail rfl
      · intro later written
        rcases cons_of_respell (by decide) written with ⟨second, rfl, written'⟩
        rcases cons_of_respell (by decide) written' with ⟨tail, rfl, _⟩
        exact noMark tail rfl
  | case5 byte rest unmarked inductionHypothesis =>
      by_cases bare : byte = separator
      · rw [bare, respell_separator_cons, unescape_escapeByte_append, inductionHypothesis,
          unescape_cons_of_ne (by decide)]
      · rw [respell_cons_of_ne bare, unescape_cons_of_ne unmarked, inductionHypothesis,
          unescape_cons_of_ne unmarked]

/-! ## Names -/

@[simp]
theorem decode?_encode (name : String) : decode? (encode name) = some name := by
  rw [decode?, encode, unescape_flatMap_escapeByte, Option.bind_some, Text.ofBytes?_bytes]

/-- A byte string reads as a name if it is the written form of the name but for
bare separators, and not otherwise. -/
theorem decode?_eq_some_iff {raw : Bytes} {name : String} :
    decode? raw = some name ↔ respell raw = encode name := by
  constructor
  · intro read
    rcases Option.bind_eq_some_iff.mp read with ⟨plain, unescaped, stored⟩
    rw [encode, Text.ofBytes?_eq_some_iff.mp stored,
      respell_of_written (written_of_unescape unescaped)]
  · intro written
    have same : decode? raw = decode? (respell raw) := by rw [decode?, decode?, unescape_respell]
    rw [same, written, decode?_encode]

theorem encode_of_decode? {raw : Bytes} {name : String} (free : separator ∉ raw)
    (read : decode? raw = some name) : encode name = raw := by
  rw [← decode?_eq_some_iff.mp read, respell_eq_self_iff.mpr free]

theorem encode_injective : Function.Injective encode := by
  intro first second same
  have read := congrArg decode? same
  rw [decode?_encode, decode?_encode] at read
  exact Option.some.inj read

/-- Written names begin alike exactly if the names do, since no escape is the
beginning of another one. -/
theorem encode_prefix_encode_iff {start name : String} :
    encode start <+: encode name ↔ start.toList <+: name.toList := by
  rw [← Text.bytes_prefix_bytes_iff]
  constructor
  · rintro ⟨rest, whole⟩
    have read := unescape_flatMap_escapeByte_append (Text.bytes start) rest
    rw [← encode, whole, encode, unescape_flatMap_escapeByte] at read
    rcases Option.map_eq_some_iff.mp read.symm with ⟨tail, _, joined⟩
    exact ⟨tail, joined⟩
  · rintro ⟨tail, whole⟩
    rw [encode, encode, ← whole, List.flatMap_append]
    exact List.prefix_append _ _

/-- A byte string reads as a name exactly if it is a written form of the name.  The
form that is written for a name has no bare separator, and it is the only form of
the name without one. -/
theorem reads_written_forms :
    (∀ raw name, decode? raw = some name ↔ Written (Text.bytes name) raw) ∧
    (∀ name, decode? (encode name) = some name) ∧
    (∀ name, separator ∉ encode name) ∧
    ∀ raw name, encode name = raw ↔ separator ∉ raw ∧ decode? raw = some name := by
  refine ⟨?_, decode?_encode, separator_not_mem_encode, ?_⟩
  · intro raw name
    rw [← unescape_eq_some_iff, decode?, Option.bind_eq_some_iff]
    simp only [Text.ofBytes?_eq_some_iff]
    exact exists_eq_right'
  · intro raw name
    constructor
    · rintro rfl
      exact ⟨separator_not_mem_encode name, decode?_encode name⟩
    · rintro ⟨free, read⟩
      exact encode_of_decode? free read

/-- An escape is read once, and what it stands for begins no further escape. -/
example : decode? (Text.bytes "%2521!%21") = some "%21!!" := by
  decide

end Component
end FlowRuns
