import FlowRuns.Proofs.Key.Splitting
import FlowRuns.Proofs.Pushdown

namespace FlowRuns

/-!
# Names of metrics and their columns

Columns are addressed exactly.  A qualifier written for one group of columns
reads as its own name there and as no name in any other group, and names begin
alike exactly if their qualifiers do.  So a condition on the beginning of a name
may be put to the column.

Reading is not as exact as writing.  A name is written with its separators
escaped, but a separator that stands for itself is read as well.  All columns
that spell a name in some way are merged in the metric that a run reports, while
a comparison of the metric looks at one of them, which has no bare separator.
-/

namespace ColumnGroup

/-! ## Addresses -/

theorem rest?_eq_some_iff {start raw rest : Bytes} :
    rest? start raw = some rest ↔ start ++ rest = raw := by
  constructor
  · intro found
    rw [rest?] at found
    split at found
    · next begins =>
        rw [← Option.some.inj found]
        exact List.prefix_iff_eq_append.mp (List.isPrefixOf_iff_prefix.mp begins)
    · cases found
  · rintro rfl
    exact rest?_append start rest

theorem start_named (name : String) (aggregator : Aggregator) :
    (named name aggregator).start = Component.terminated [Component.encode name] :=
  Component.joinTerminated_eq [name]

/-- The groups of two names have no qualifier in common. -/
theorem component_eq_of_begins {first second name : String} {aggregator aggregator' : Aggregator}
    (begins : (named second aggregator').start <+: (named first aggregator).qualifier name) :
    first = second := by
  have free : ∀ group : String, ∀ component ∈ [Component.encode group],
      Component.separator ∉ component :=
    fun group => Component.separator_not_mem_encodes [group]
  rcases begins with ⟨rest, whole⟩
  rw [qualifier, start_named, start_named] at whole
  have same := (Component.terminated_append_inj (free second) (free first) rfl whole).1
  exact (Component.encode_injective (List.singleton_inj.mp same)).symm

theorem name?_qualifier_named (first second name : String) (aggregator aggregator' : Aggregator) :
    (named second aggregator').name? ((named first aggregator).qualifier name) =
      if first = second then some name else none := by
  split
  · next same =>
      subst same
      exact (named first aggregator').name?_qualifier name
  · next different =>
      rw [name?, Option.bind_eq_none_iff]
      intro rest found
      exact absurd (component_eq_of_begins ⟨rest, rest?_eq_some_iff.mp found⟩) different

end ColumnGroup

/-- A condition on the beginning of a name is one on the beginning of the column. -/
theorem Condition.admits_named (schema : Schema) (comparison : Comparison) (start : String)
    (row : Row) (cell : Cell) :
    ((Condition.named comparison start).predicate schema).admits row cell =
      comparison.holds
        ((NameOperand.front (schema.metrics.qualifier start)).order cell.column.qualifier) := by
  rw [predicate, Predicate.admits]

/-- Columns behind a first component are addressed exactly.  What is written for
one component and one name reads as the name behind that component, and behind
no other.  A written qualifier begins with another one exactly if the name does,
whatever stands in the names, and so the store admits a cell of a metric under a
condition on the beginning of names by what its name begins with. -/
theorem ColumnGroup.addresses_exactly :
    (∀ (first second name : String) (aggregator aggregator' : Aggregator),
      (named second aggregator').name? ((named first aggregator).qualifier name) =
        if first = second then some name else none) ∧
    (∀ (component start name : String) (aggregator : Aggregator),
      (named component aggregator).qualifier start <+:
          (named component aggregator).qualifier name ↔
        start.toList <+: name.toList) ∧
    ∀ (family : Bytes) (component start name : String) (aggregator : Aggregator) (row : Row)
      (timestamp : Int64) (value : Bytes),
      (((Condition.named .equal start).predicate
            (.ofComponent family component aggregator)).admits row
          ⟨(Schema.ofComponent family component aggregator).metric name, timestamp, value⟩ ↔
        start.toList <+: name.toList) ∧
      (((Condition.named .notEqual start).predicate
            (.ofComponent family component aggregator)).admits row
          ⟨(Schema.ofComponent family component aggregator).metric name, timestamp, value⟩ ↔
        ¬ start.toList <+: name.toList) := by
  refine ⟨name?_qualifier_named, fun component start name aggregator =>
    qualifier_prefix_qualifier_iff _, ?_⟩
  intro family component start name aggregator row timestamp value
  have begins : (named component aggregator).qualifier start <+:
      (named component aggregator).qualifier name ↔ start.toList <+: name.toList :=
    qualifier_prefix_qualifier_iff _
  rw [Condition.admits_named, Condition.admits_named, Comparison.holds_equal_front,
    Comparison.holds_notEqual_front, Bool.not_eq_true', ← Bool.not_eq_true,
    List.isPrefixOf_iff_prefix]
  exact ⟨begins, not_congr begins⟩

/-- The component and the name are escaped each on its own. -/
example :
    (ColumnGroup.named "m!" .sum).qualifier "a!%b" = Text.bytes "m%21!a%21%25b" := by
  decide

/-! ## Spellings -/

namespace ColumnGroup

variable {group : ColumnGroup}

/-- A qualifier that lies behind the beginning of a group and goes on with the
written form of a name, but for bare separators. -/
def Spells (group : ColumnGroup) (qualifier : Bytes) (name : String) : Prop :=
  ∃ written, group.start ++ written = qualifier ∧
    Component.respell written = Component.encode name

/-- Whether a bare separator follows the beginning of a group. -/
def Bare (group : ColumnGroup) (qualifier : Bytes) : Prop :=
  Component.separator ∈ qualifier.drop group.start.length

instance (group : ColumnGroup) (qualifier : Bytes) : Decidable (group.Bare qualifier) :=
  inferInstanceAs (Decidable (_ ∈ _))

theorem name?_eq_some_iff {qualifier : Bytes} {name : String} :
    group.name? qualifier = some name ↔ group.Spells qualifier name := by
  rw [name?, Option.bind_eq_some_iff]
  simp only [rest?_eq_some_iff, Component.decode?_eq_some_iff]
  rfl

instance (group : ColumnGroup) (qualifier : Bytes) (name : String) :
    Decidable (group.Spells qualifier name) :=
  decidable_of_iff _ name?_eq_some_iff

theorem Spells.begins {qualifier : Bytes} {name : String}
    (spells : group.Spells qualifier name) : group.start <+: qualifier := by
  rcases spells with ⟨written, rfl, _⟩
  exact List.prefix_append _ _

/-- Of the qualifiers that spell a name, the one that is written for it is the
one without a bare separator. -/
theorem Spells.eq_qualifier_iff {qualifier : Bytes} {name : String}
    (spells : group.Spells qualifier name) :
    qualifier = group.qualifier name ↔ ¬ group.Bare qualifier := by
  rcases spells with ⟨written, rfl, spelled⟩
  rw [Bare, List.drop_left, ColumnGroup.qualifier, List.append_cancel_left_eq, ← spelled, eq_comm,
    Component.respell_eq_self_iff]

end ColumnGroup

namespace Row

/-- The cells of the family of runs in columns that spell the name of a metric. -/
def spelling (row : Row) (schema : Schema) (name : String) : List Cell :=
  row.cells.filter fun cell =>
    cell.column.family = schema.family ∧ schema.metrics.Spells cell.column.qualifier name

variable {schema : Schema}

theorem cellsNamed_eq_spelling (row : Row) (name : String) :
    row.cellsNamed schema name = row.spelling schema name := by
  rw [cellsNamed, cellsUnder, List.filter_filter, spelling]
  apply List.filter_congr
  intro cell _
  rw [Bool.eq_iff_iff]
  simp only [Bool.and_eq_true, decide_eq_true_eq, ColumnGroup.name?_eq_some_iff,
    List.isPrefixOf_iff_prefix]
  constructor
  · rintro ⟨spells, family, _⟩
    exact ⟨family, spells⟩
  · rintro ⟨family, spells⟩
    exact ⟨spells, family, spells.begins⟩

/-- The column that is written for a metric has the cells that spell its name
without a bare separator. -/
theorem stored_metric_eq (row : Row) (name : String) :
    row.stored (schema.metric name) =
      (row.spelling schema name).filter fun cell =>
        ¬ schema.metrics.Bare cell.column.qualifier := by
  rw [stored, spelling, List.filter_filter]
  apply List.filter_congr
  intro cell _
  rw [Bool.eq_iff_iff]
  simp only [Bool.and_eq_true, decide_eq_true_eq, Schema.metric, Column.ext_iff]
  constructor
  · rintro ⟨family, own⟩
    have spells : schema.metrics.Spells cell.column.qualifier name :=
      ColumnGroup.name?_eq_some_iff.mp (by rw [own, ColumnGroup.name?_qualifier])
    exact ⟨spells.eq_qualifier_iff.mp own, family, spells⟩
  · rintro ⟨unbared, family, spells⟩
    exact ⟨family, spells.eq_qualifier_iff.mpr unbared⟩

end Row

namespace Schema

/-- Among the qualifiers that read as the name of a metric, the one written for it
is the only one without a bare separator, and the others spell the name with bare
separators.  The metric is reported from all columns that spell its name.  A
comparison of the metric looks at the written column alone, which has those of the
cells that spell the name without a bare separator. -/
theorem reports_spellings (schema : Schema) (name : String) :
    (∀ qualifier, schema.metrics.name? qualifier = some name ↔
      schema.metrics.Spells qualifier name) ∧
    (∀ qualifier, qualifier = schema.metrics.qualifier name ↔
      schema.metrics.name? qualifier = some name ∧ ¬ schema.metrics.Bare qualifier) ∧
    ∀ row : Row,
      (Run.metricsOf schema row).find? name =
        Run.metricOf? schema.metrics.aggregator
          (Version.ofCells (row.spelling schema name)) ∧
      (∀ cell comparison operand mustExist,
        ((Condition.compare comparison name operand mustExist).predicate schema).admits row cell =
          if row.stored (schema.metric name) = [] then !mustExist
          else (schema.metrics.aggregator.foldCells (row.stored (schema.metric name))).any
            fun value => comparison.holds (compare value operand)) ∧
      row.stored (schema.metric name) =
        (row.spelling schema name).filter fun cell =>
          ¬ schema.metrics.Bare cell.column.qualifier := by
  refine ⟨fun qualifier => ColumnGroup.name?_eq_some_iff, ?_, fun row => ⟨?_, ?_, ?_⟩⟩
  · intro qualifier
    constructor
    · rintro rfl
      have read := schema.metrics.name?_qualifier name
      exact ⟨read, (ColumnGroup.name?_eq_some_iff.mp read).eq_qualifier_iff.mp rfl⟩
    · rintro ⟨read, unbared⟩
      exact (ColumnGroup.name?_eq_some_iff.mp read).eq_qualifier_iff.mpr unbared
  · rw [Run.find?_metricsOf_cellsNamed, Row.cellsNamed_eq_spelling]
  · intro cell comparison operand mustExist
    rw [Condition.predicate, Predicate.admits]
    exact ColumnTest.passes_folded _ comparison operand mustExist _ row
  · exact row.stored_metric_eq name

/-- A separator that stands for itself reads like an escaped one.  So two columns
are merged in one metric, and a comparison with the reported value fails. -/
theorem merges_spellings :
    standard.metrics.name? (Text.bytes "m!a!b") = some "a!b" ∧
    standard.metrics.qualifier "a!b" ≠ Text.bytes "m!a!b" ∧
    (Run.metricsOf standard
        ⟨[], [⟨⟨standard.family, Text.bytes "m!a!b"⟩, 1, Long.encode 5⟩,
          ⟨standard.metric "a!b", 1, Long.encode 7⟩]⟩).find? "a!b" = some ⟨12, 1⟩ ∧
    ((Condition.compare .equal "a!b" 12 true).predicate standard).admits
        ⟨[], [⟨⟨standard.family, Text.bytes "m!a!b"⟩, 1, Long.encode 5⟩,
          ⟨standard.metric "a!b", 1, Long.encode 7⟩]⟩
        ⟨standard.metric "a!b", 1, Long.encode 7⟩ = false := by
  have versions : Version.ofCells (Row.cellsNamed
      ⟨[], [⟨⟨standard.family, Text.bytes "m!a!b"⟩, 1, Long.encode 5⟩,
        ⟨standard.metric "a!b", 1, Long.encode 7⟩]⟩ standard "a!b") = [⟨1, 5⟩, ⟨1, 7⟩] := by
    decide
  have merged : Run.metricOf? .sum [⟨1, 5⟩, ⟨1, 7⟩] = some ⟨12, 1⟩ := by
    have sorted : Version.oldestFirst [⟨1, 5⟩, ⟨1, 7⟩] = [⟨1, 5⟩, ⟨1, 7⟩] :=
      List.mergeSort_of_pairwise (by decide)
    rw [Run.metricOf?, Aggregator.fold, sorted]
    decide
  refine ⟨?_, ?_, ?_, ?_⟩
  · decide
  · decide
  · rw [Run.find?_metricsOf_cellsNamed, versions]
    exact merged
  · decide +kernel

end Schema
end FlowRuns
