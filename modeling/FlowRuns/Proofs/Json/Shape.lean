import FlowRuns.Json.Shape
import Mathlib.Data.List.Nodup

namespace FlowRuns

/-!
# Canonical forms

One value can be read from many JSON values and is written as one of them.  A
form is canonical (`Json.Canonical`) if what is written is read as it was, so
that two JSON values are rewritten alike exactly if they are read alike.

How far two JSON values may differ and still be read alike is said by the part
of them that reading looks at.  For a record that is its contents: what stands
at the names of its fields, where `null` for a field that may be absent is no
content.  Other members do not count, nor does the order of the members, and
an array of the fields has the contents of the object that names them
(`contents?_arr`).  For a constant it is a name.
-/

namespace Json

/-- What is written is a canonical form of all that is read, and reading
looks only at the parts of a JSON value. -/
structure Canonical {α γ : Type} (parts? : Json → Option γ) (write : α → Json)
    (read : Json → Option α) : Prop where
  read_write : ∀ value, read (write value) = some value
  /-- What was read and written again is read as it was. -/
  read_again : ∀ json, ((read json).map write).bind read = read json
  /-- Only what is read alike is written alike. -/
  write_read_eq_iff : ∀ json other,
    (read json).map write = (read other).map write ↔ read json = read other
  read_congr : ∀ json other, parts? json = parts? other → read json = read other

/-- A form is canonical if values are read as they were written and reading
begins with the parts. -/
theorem Canonical.of_build {α γ : Type} {parts? : Json → Option γ} {write : α → Json}
    {read : Json → Option α} (build : γ → Option α)
    (reads : ∀ json, read json = (parts? json).bind build)
    (returns : ∀ value, read (write value) = some value) : Canonical parts? write read where
  read_write := returns
  read_again json := by
    cases read json with
    | none => rfl
    | some value => exact returns value
  write_read_eq_iff json other := by
    refine ⟨fun same => ?_, fun same => by rw [same]⟩
    -- Reading undoes both sides.
    have undone := congrArg (Option.bind · read) same
    simpa only [Option.bind_map, Function.comp_def, returns, Option.bind_fun_some] using undone
  read_congr json other same := by rw [reads, reads, same]

/-! ## Numbers and absent values -/

@[simp]
theorem int64?_ofInt64 (value : Int64) : (ofInt64 value).int64? = some value := by
  simp only [ofInt64, int64?]
  rw [if_pos ⟨Int64.minValue_le_toInt value, Int64.toInt_le value⟩, Int64.ofInt_toInt]

@[simp]
theorem uint64?_ofUInt64 (value : UInt64) : (ofUInt64 value).uint64? = some value := by
  have bounded : value.toNat < UInt64.size := value.toNat_lt_size
  change (if value.toNat < UInt64.size then some (UInt64.ofNat value.toNat) else none) = _
  rw [if_pos bounded, UInt64.ofNat_toNat]

theorem ofInt64_ne_null (value : Int64) : ofInt64 value ≠ .null :=
  fun same => Json.noConfusion same

theorem ofUInt64_ne_null (value : UInt64) : ofUInt64 value ≠ .null :=
  fun same => Json.noConfusion same

theorem str_ne_null (text : String) : Json.str text ≠ .null :=
  fun same => Json.noConfusion same

/-- A value that is left out when it is absent is read as it was written,
unless a value that is there is written as `null`. -/
theorem optional?_map {α : Type} {write : α → Json} {read : Json → Option α}
    (returns : ∀ value, read (write value) = some value) (there : ∀ value, write value ≠ .null)
    (value : Option α) : optional? read (value.map write) = some value := by
  cases value with
  | none => rfl
  | some value =>
      rw [Option.map_some, optional?, returns, Option.map_some]
      exact there value

/-- A value that may be absent is read as it was written, unless a value that
is there is written as `null`. -/
theorem optional?_ofOption {α : Type} {write : α → Json} {read : Json → Option α}
    (returns : ∀ value, read (write value) = some value) (there : ∀ value, write value ≠ .null)
    (value : Option α) : optional? read (some (ofOption write value)) = some value := by
  cases value with
  | none => rfl
  | some value => exact optional?_map returns there (some value)

/-! ## Records -/

/-- What becomes of a field that is absent. -/
inductive Absence where
  /-- The field must be there. -/
  | refused
  /-- The field is written as `null`. -/
  | null
  | leftOut
  deriving DecidableEq

/-- A field of a record. -/
structure Slot where
  name : String
  absence : Absence

/-- What stands in a field.  A `null` is nothing if the field may be absent. -/
def Slot.content (slot : Slot) : Option Json → Option Json
  | some .null => if slot.absence = .refused then some .null else none
  | field => field

/-- What stands in the fields of a record. -/
def contents? (slots : List Slot) (json : Json) : Option (List (Option Json)) :=
  (json.fields? (slots.map Slot.name)).map (List.zipWith Slot.content slots)

/-- Whether a field of a record may be written so. -/
def Slot.Allows (slot : Slot) : Option Json → Prop
  | none => slot.absence = .leftOut
  | some .null => slot.absence = .null
  | some _ => True

/-- An object with the fields of a record in their order and with no others. -/
def IsRecord (slots : List Slot) (json : Json) : Prop :=
  ∃ entries, json = .obj entries ∧ (entries.map Prod.fst).Sublist (slots.map Slot.name) ∧
    ∀ slot ∈ slots, slot.Allows (member? slot.name entries)

/-- The canonical form of a record. -/
structure RecordForm {α : Type} (slots : List Slot) (write : α → Json) (read : Json → Option α) :
    Prop extends Canonical (contents? slots) write read where
  isRecord : ∀ value, IsRecord slots (write value)
  /-- An array of all fields is read as the object that names them. -/
  read_array : ∀ items, items.length = slots.length →
    read (.arr items) = read (.obj ((slots.map Slot.name).zip items))

@[simp]
theorem Slot.content_of_refused {slot : Slot} (refused : slot.absence = .refused)
    (field : Option Json) : slot.content field = field := by
  unfold content
  split
  · rw [if_pos refused]
  · rfl

/-- An absent field and a `null` are read alike. -/
@[simp]
theorem optional?_content {α : Type} (read : Json → Option α) {slot : Slot}
    (absence : slot.absence ≠ .refused) (field : Option Json) :
    optional? read (slot.content field) = optional? read field := by
  unfold Slot.content
  split
  · rw [if_neg absence]
    rfl
  · rfl

theorem length_of_fields? {names : List String} {json : Json} {fields : List (Option Json)}
    (found : json.fields? names = some fields) : fields.length = names.length := by
  unfold fields? at found
  split at found
  · cases found
    rw [List.length_map]
  · split at found
    · next full =>
        cases found
        rw [List.length_map, full]
    · cases found
  · cases found

/-- Fields of which none may be absent are the contents. -/
theorem zipWith_content {slots : List Slot} (needed : ∀ slot ∈ slots, slot.absence = .refused)
    {fields : List (Option Json)} (full : fields.length = slots.length) :
    List.zipWith Slot.content slots fields = fields := by
  refine List.ext_getElem ?_ fun place inside _ => ?_
  · rw [List.length_zipWith, full, Nat.min_self]
  · rw [List.getElem_zipWith, Slot.content_of_refused (needed _ (List.getElem_mem _))]

theorem contents?_eq_fields? {slots : List Slot} (needed : ∀ slot ∈ slots, slot.absence = .refused)
    (json : Json) : contents? slots json = json.fields? (slots.map Slot.name) := by
  rw [contents?]
  cases found : json.fields? (slots.map Slot.name) with
  | none => rfl
  | some fields =>
      have full := length_of_fields? found
      rw [List.length_map] at full
      exact congrArg some (zipWith_content needed full)

theorem member?_zip {names : List String} (distinct : names.Nodup) {items : List Json}
    (full : items.length = names.length) :
    (names.map fun name => member? name (names.zip items)) = items.map some := by
  induction names generalizing items with
  | nil =>
      rw [List.eq_nil_of_length_eq_zero full]
      rfl
  | cons name rest inductionHypothesis =>
      rcases items with _ | ⟨item, items⟩
      · cases full
      · have parts := List.nodup_cons.mp distinct
        rw [List.map_cons, List.zip_cons_cons, member?, if_pos rfl, List.map_cons,
          ← inductionHypothesis parts.2 (Nat.succ.inj full)]
        congr 1
        apply List.map_congr_left
        intro other listed
        rw [member?, if_neg]
        rintro rfl
        exact parts.1 listed

/-- An array of all fields has the contents of the object that names them. -/
theorem contents?_arr {slots : List Slot} (distinct : (slots.map Slot.name).Nodup)
    {items : List Json} (full : items.length = slots.length) :
    contents? slots (.arr items) = contents? slots (.obj ((slots.map Slot.name).zip items)) := by
  have named : items.length = (slots.map Slot.name).length := by rw [full, List.length_map]
  rw [contents?, contents?, fields?, fields?, if_pos named, member?_zip distinct named]

/-- A form is canonical if values are read as they were written, and what is
built of the fields does not depend on how an absent field is written. -/
theorem RecordForm.of_build {α : Type} {slots : List Slot} {write : α → Json}
    {read : Json → Option α} (build : List (Option Json) → Option α)
    (distinct : (slots.map Slot.name).Nodup)
    (reads : ∀ json, read json = (json.fields? (slots.map Slot.name)).bind build)
    (respects : ∀ fields, fields.length = slots.length →
      build (List.zipWith Slot.content slots fields) = build fields)
    (returns : ∀ value, read (write value) = some value)
    (isRecord : ∀ value, IsRecord slots (write value)) : RecordForm slots write read := by
  have canonical : Canonical (contents? slots) write read := by
    refine .of_build build (fun json => ?_) returns
    rw [reads, contents?]
    cases found : json.fields? (slots.map Slot.name) with
    | none => rfl
    | some fields =>
        have full := length_of_fields? found
        rw [List.length_map] at full
        exact (respects fields full).symm
  exact ⟨canonical, isRecord, fun items full =>
    canonical.read_congr _ _ (contents?_arr distinct full)⟩

/-! ## Constants -/

/-- Constants with names of their own are canonically written as their names. -/
theorem canonical_constant {α : Type} {values : List α} {name : α → String}
    (complete : ∀ value, value ∈ values) (distinct : (values.map name).Nodup)
    (position : Position) :
    Canonical (constantName? position) (fun value => .str (name value))
      (constant? values name position) := by
  refine .of_build (fun written => values.find? fun value => name value == written)
    (fun _ => rfl) fun value => ?_
  change values.find? (fun other => name other == name value) = some value
  cases found : values.find? fun other => name other == name value with
  | none =>
      exact absurd (beq_self_eq_true (name value)) (List.find?_eq_none.mp found _ (complete value))
  | some other =>
      have same := List.find?_some found
      rw [List.inj_on_of_nodup_map distinct (complete other) (complete value) (eq_of_beq same)]

/-! ## Tagged values -/

variable {κ : Type} (kinds : List κ) (name : κ → String) (slots : κ → List Slot)

/-- The kind of a tagged value and what stands in its fields. -/
def taggedContents? (position : Position) (json : Json) : Option (κ × List (Option Json)) :=
  json.tagged?.bind fun tagged =>
    (variant? kinds name position tagged.1).bind fun kind =>
      (contents? (slots kind) tagged.2).map fun contents => (kind, contents)

/-- The canonical form of a tagged value, which is a record that has the name
of its kind for a first field. -/
structure TaggedForm {α : Type} (position : Position) (write : α → Json)
    (read : Json → Option α) : Prop extends
    Canonical (taggedContents? kinds name slots position) write read where
  isRecord : ∀ value, ∃ kind entries, write value = .obj (("type", .str (name kind)) :: entries) ∧
    IsRecord (slots kind) (.obj entries)

end Json
end FlowRuns
