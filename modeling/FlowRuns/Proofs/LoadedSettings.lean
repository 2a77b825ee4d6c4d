import FlowRuns.Proofs.Query
import FlowRuns.Proofs.Text.Count

namespace FlowRuns

/-!
# Caps under loaded settings

An environment may set a limit, or leave the standard one.  What it sets is
taken if it writes a positive number that fits, and is an error otherwise.  So
the limit of loaded settings is positive, and so is the limit that holds for a
caller, since asking for zero is asking for none.

A scan is capped by the limit that holds, unless its predicate has a tighter
bound.  That bound is one of the page limits in the predicate, wherever it lies.
If none of them is zero, the cap of the scan is positive.
-/

/-! ## Page limits in a predicate -/

/-- The parts of a predicate: itself, and the parts of the children of a group. -/
inductive Predicate.Occurs (inner : Predicate) : Predicate → Prop
  | here : Occurs inner inner
  | amongAll {children : List Predicate} {child : Predicate} (member : child ∈ children)
      (inside : Occurs inner child) : Occurs inner (.all children)
  | amongAny {children : List Predicate} {child : Predicate} (member : child ∈ children)
      (inside : Occurs inner child) : Occurs inner (.any children)

namespace Predicate

/-- What bounds some predicates bounds one of them. -/
theorem exists_of_leastPageBound {children : List Predicate} {rows : UInt64}
    (bound : leastPageBound children = some rows) :
    ∃ child ∈ children, child.pageBound = some rows := by
  rw [leastPageBound_eq_min?] at bound
  exact List.mem_filterMap.mp (List.min?_mem bound)

/-- What bounds a predicate is one of its page limits. -/
theorem occurs_of_pageBound {rows : UInt64} (predicate : Predicate)
    (bound : predicate.pageBound = some rows) : (Predicate.pageLimit rows).Occurs predicate := by
  match predicate with
  | .pageLimit limit =>
      cases bound
      exact .here
  | .all children =>
      rw [pageBound] at bound
      rcases exists_of_leastPageBound bound with ⟨child, member, own⟩
      exact .amongAll member (occurs_of_pageBound child own)
termination_by sizeOf predicate
decreasing_by
  have smaller := List.sizeOf_lt_of_mem member
  simp only [all.sizeOf_spec]
  omega

/-- Next to a limit a bound only matters if it is tighter. -/
theorem exists_tighter (limit : UInt64) (bound : Option UInt64) :
    ∃ cap, tighter (some limit) bound = some cap ∧ cap ≤ limit ∧
      (cap = limit ∨ bound = some cap) := by
  cases bound with
  | none => exact ⟨limit, rfl, UInt64.le_refl limit, .inl rfl⟩
  | some rows =>
      by_cases less : rows < limit
      · exact ⟨rows, by rw [tighter, if_pos less], UInt64.le_of_lt less, .inr rfl⟩
      · exact ⟨limit, by rw [tighter, if_neg less], UInt64.le_refl limit, .inl rfl⟩

end Predicate

namespace Settings

/-! ## What an environment sets -/

variable {lookup : String → Option Bytes} {settings : Settings}

/-- An environment variable that is unset, or whose value is no text. -/
def Untold (lookup : String → Option Bytes) (name : String) : Prop :=
  lookup name = none ∨ ∃ raw, lookup name = some raw ∧ ∀ text, Text.bytes text ≠ raw

/-- The limits that an environment sets: the standard one if it does not tell, and
else the number that it writes, if that is positive and fits. -/
inductive Sets (lookup : String → Option Bytes) : Nat → Prop
  | standard (untold : Untold lookup "TIMELINE_DEFAULT_LIMIT") : Sets lookup 100
  | written {text : String} {limit : Nat}
      (told : lookup "TIMELINE_DEFAULT_LIMIT" = some (Text.bytes text))
      (writes : Text.Writes text limit) (positive : 1 ≤ limit) (fits : limit ≤ 2 ^ 64 - 1) :
      Sets lookup limit

theorem untold_iff {name : String} :
    Untold lookup name ↔ (lookup name).bind Text.ofBytes? = none := by
  rw [Untold, Option.bind_eq_none_iff]
  constructor
  · rintro (unset | ⟨raw, set, foreign⟩) value found
    · rw [unset] at found
      cases found
    · rw [set] at found
      cases found
      rw [Option.eq_none_iff_forall_ne_some]
      intro text read
      exact foreign text (Text.ofBytes?_eq_some_iff.mp read)
  · intro unread
    cases value : lookup name with
    | none => exact .inl rfl
    | some raw =>
        refine .inr ⟨raw, rfl, fun text same => ?_⟩
        have read := unread raw value
        rw [← same, Text.ofBytes?_bytes] at read
        cases read

theorem told_iff {name text : String} :
    lookup name = some (Text.bytes text) ↔ (lookup name).bind Text.ofBytes? = some text := by
  rw [Option.bind_eq_some_iff]
  constructor
  · intro told
    exact ⟨_, told, Text.ofBytes?_bytes text⟩
  · rintro ⟨raw, told, read⟩
    rw [told, Text.ofBytes?_eq_some_iff.mp read]

theorem sets_iff_of_untold (untold : Untold lookup "TIMELINE_DEFAULT_LIMIT") {limit : Nat} :
    Sets lookup limit ↔ limit = 100 := by
  constructor
  · intro sets
    cases sets with
    | standard => rfl
    | written told =>
        rw [untold_iff, told_iff.mp told] at untold
        cases untold
  · rintro rfl
    exact .standard untold

theorem sets_iff_of_told {text : String}
    (told : lookup "TIMELINE_DEFAULT_LIMIT" = some (Text.bytes text)) {limit : Nat} :
    Sets lookup limit ↔ Text.Writes text limit ∧ 1 ≤ limit ∧ limit ≤ 2 ^ 64 - 1 := by
  constructor
  · intro sets
    cases sets with
    | standard untold =>
        rw [untold_iff, told_iff.mp told] at untold
        cases untold
    | written again writes positive fits =>
        have same := (told_iff.mp again).symm.trans (told_iff.mp told)
        exact Option.some.inj same ▸ ⟨writes, positive, fits⟩
  · rintro ⟨writes, positive, fits⟩
    exact .written told writes positive fits

/-! ## Loading -/

private theorem one_le_iff_ne_zero {limit : UInt64} : 1 ≤ limit ↔ limit ≠ 0 := by
  rw [UInt64.le_iff_toNat_le, ne_eq, ← UInt64.toNat_inj]
  exact Nat.one_le_iff_ne_zero

theorem readLimit_eq_ok_iff {text : String} {limit : UInt64} :
    readLimit text = .ok limit ↔ Text.Writes text limit.toNat ∧ 1 ≤ limit := by
  rw [← Text.count_eq_ok_iff, one_le_iff_ne_zero, readLimit]
  cases Text.count text with
  | error fault => simp
  | ok read =>
      by_cases zero : read = 0
      · simp only [if_pos zero, reduceCtorEq, Except.ok.injEq, false_iff, not_and, not_not]
        exact fun same => same ▸ zero
      · simp only [if_neg zero, Except.ok.injEq, iff_self_and]
        exact fun same => same ▸ zero

/-- The table that an environment sets, or the standard one. -/
def tableOf (lookup : String → Option Bytes) : String :=
  ((lookup "TIMELINE_FLOWRUN_TABLE").bind Text.ofBytes?).getD "timelineservice.flowrun"

/-- Loaded settings are those that the environment sets. -/
theorem ofEnvironment_eq_ok_iff :
    ofEnvironment lookup = .ok settings ↔
      tableOf lookup = settings.table ∧ Sets lookup settings.defaultLimit.toNat := by
  rcases settings with ⟨table, limit⟩
  cases told : (lookup "TIMELINE_DEFAULT_LIMIT").bind Text.ofBytes? with
  | none =>
      have loaded : ofEnvironment lookup = .ok ⟨tableOf lookup, 100⟩ := by
        rw [ofEnvironment]
        simp only [told]
        rfl
      have standard : limit.toNat = 100 ↔ 100 = limit := by
        rw [eq_comm, ← UInt64.toNat_inj]
        rfl
      rw [loaded, sets_iff_of_untold (untold_iff.mpr told), standard, Except.ok.injEq,
        Settings.mk.injEq]
  | some text =>
      have loaded : ofEnvironment lookup =
          (readLimit text).map fun limit => ⟨tableOf lookup, limit⟩ := by
        rw [ofEnvironment]
        simp only [told]
        cases readLimit text <;> rfl
      have writes : Sets lookup limit.toNat ↔ readLimit text = .ok limit := by
        have fits : limit.toNat ≤ 2 ^ 64 - 1 := Nat.le_sub_one_of_lt limit.toNat_lt
        rw [sets_iff_of_told (told_iff.mpr told), readLimit_eq_ok_iff, and_iff_left fits]
        rfl
      rw [loaded, writes]
      cases readLimit text <;> simp [Except.map]

/-- An environment loads if it sets some limit. -/
theorem exists_ofEnvironment_iff :
    (∃ settings, ofEnvironment lookup = .ok settings) ↔ ∃ limit, Sets lookup limit := by
  constructor
  · rintro ⟨settings, loaded⟩
    exact ⟨_, (ofEnvironment_eq_ok_iff.mp loaded).2⟩
  · rintro ⟨limit, sets⟩
    have small : limit < UInt64.size := by
      cases sets with
      | standard => decide
      | written _ _ _ fits => exact Nat.lt_of_le_of_lt fits (by decide)
    have own : (UInt64.ofNat limit).toNat = limit := by
      rw [UInt64.toNat_ofNat', Nat.mod_eq_of_lt small]
    exact ⟨⟨tableOf lookup, .ofNat limit⟩, ofEnvironment_eq_ok_iff.mpr ⟨rfl, own.symm ▸ sets⟩⟩

theorem positive_of_sets {limit : Nat} (sets : Sets lookup limit) : 1 ≤ limit := by
  cases sets with
  | standard => decide
  | written _ _ positive => exact positive

/-- The limit that holds for a caller is positive if the default one is. -/
theorem effectiveLimit_positive (positive : 1 ≤ settings.defaultLimit)
    (requested : Option UInt64) : 1 ≤ settings.effectiveLimit requested := by
  cases requested with
  | none => exact positive
  | some limit =>
      rw [effectiveLimit]
      split
      · exact positive
      · next nonzero => exact one_le_iff_ne_zero.mpr nonzero

/-! ## Caps -/

/-- An environment loads exactly if it sets a limit, which is positive, and if it
does not load that is an error of the settings.  Under loaded settings the scan of
every read in a valid scope has a cap.  The cap is at most the limit that holds,
and positive, unless the predicate of the caller has zero for a page limit. -/
theorem loaded_scans_capped (lookup : String → Option Bytes) :
    ((∃ settings, ofEnvironment lookup = .ok settings) ↔ ∃ limit, Sets lookup limit) ∧
    ((¬ ∃ limit, Sets lookup limit) → ∃ detail,
      (ofEnvironment lookup).mapError ReadError.ofSettings = .error (.settings detail)) ∧
    ∀ settings, ofEnvironment lookup = .ok settings →
      Sets lookup settings.defaultLimit.toNat ∧
      ∀ (requested : Option UInt64) (scope : Scope) (predicate : Predicate),
        scope.fault? .range = none → ¬ (Predicate.pageLimit 0).Occurs predicate →
        ∃ scan cap,
          Request.resolve settings scope .range predicate requested = .ok (.scan scan) ∧
          scan.rowCap = some cap ∧ 1 ≤ cap ∧ cap ≤ settings.effectiveLimit requested := by
  refine ⟨exists_ofEnvironment_iff, ?_, ?_⟩
  · intro unset
    cases loaded : ofEnvironment lookup with
    | error fault => exact ⟨fault.message, rfl⟩
    | ok settings => exact absurd (exists_ofEnvironment_iff.mp ⟨settings, loaded⟩) unset
  · intro settings loaded
    have sets := (ofEnvironment_eq_ok_iff.mp loaded).2
    refine ⟨sets, fun requested scope predicate valid nonzero => ?_⟩
    rcases Predicate.exists_tighter (settings.effectiveLimit requested) predicate.pageBound with
      ⟨cap, bound, least, source⟩
    refine ⟨_, cap, Request.resolve_range settings valid predicate requested,
      (predicate.pageBound_paged _).trans bound, ?_, least⟩
    rcases source with own | own
    · rw [own]
      exact effectiveLimit_positive (UInt64.le_iff_toNat_le.mpr (positive_of_sets sets)) requested
    · apply one_le_iff_ne_zero.mpr
      rintro rfl
      exact nonzero (predicate.occurs_of_pageBound own)

/-- An environment with one variable. -/
def setting (name text : String) : String → Option Bytes :=
  fun other => if other = name then some (Text.bytes text) else none

/-- The least number that does not fit is an error.  Zeros in front of a number do
not matter, and of two page limits the one among alternatives does not. -/
theorem loaded_scans_capped_at_bounds :
    (¬ ∃ limit, Sets (setting "TIMELINE_DEFAULT_LIMIT" "18446744073709551616") limit) ∧
    (∃ detail, (ofEnvironment (setting "TIMELINE_DEFAULT_LIMIT" "18446744073709551616")).mapError
      ReadError.ofSettings = .error (.settings detail)) ∧
    ofEnvironment (setting "TIMELINE_DEFAULT_LIMIT" "+018446744073709551615") =
      .ok ⟨"timelineservice.flowrun", 18446744073709551615⟩ ∧
    Scope.fault? ⟨"c", "u", "f", none⟩ .range = none ∧
    ¬ (Predicate.pageLimit 0).Occurs (.all [.pageLimit 9, .any [.pageLimit 3]]) ∧
    ∃ scan cap,
      Request.resolve ⟨"timelineservice.flowrun", 18446744073709551615⟩ ⟨"c", "u", "f", none⟩ .range
        (.all [.pageLimit 9, .any [.pageLimit 3]]) (some 0) = .ok (.scan scan) ∧
      scan.rowCap = some cap ∧ 1 ≤ cap ∧ cap ≤ 18446744073709551615 := by
  have refused : ofEnvironment (setting "TIMELINE_DEFAULT_LIMIT" "18446744073709551616") =
      .error (.limitUnreadable .tooLarge) := rfl
  have loaded : ofEnvironment (setting "TIMELINE_DEFAULT_LIMIT" "+018446744073709551615") =
      .ok ⟨"timelineservice.flowrun", 18446744073709551615⟩ := rfl
  have unset : ¬ ∃ limit, Sets (setting "TIMELINE_DEFAULT_LIMIT" "18446744073709551616") limit := by
    rw [← exists_ofEnvironment_iff, refused]
    rintro ⟨settings, same⟩
    cases same
  have nonzero : ¬ (Predicate.pageLimit 0).Occurs (.all [.pageLimit 9, .any [.pageLimit 3]]) := by
    rintro (_ | ⟨member, inside⟩)
    rcases List.mem_cons.mp member with rfl | later
    · cases inside
    · rw [List.mem_singleton.mp later] at inside
      rcases inside with _ | _ | ⟨last, inside⟩
      rw [List.mem_singleton.mp last] at inside
      cases inside
  exact ⟨unset, (loaded_scans_capped _).2.1 unset, loaded, rfl, nonzero,
    ((loaded_scans_capped _).2.2 _ loaded).2 (some 0) _ _ rfl nonzero⟩

end Settings
end FlowRuns
