import FlowRuns.Proofs.Reader

namespace FlowRuns

/-!
# Flows do not meet

The keys of a flow share a beginning with each other and with no other key.
A range read only says that it wants that beginning, and it copies the names
of the user and the flow from its scope.  That is sound, since the key of each
row that it gets would give the same names.
-/

namespace Run

/-- In a row that begins like the keys of the flow, the key names the run. -/
theorem decode_of_ofRow {schema : Schema} {scope : Scope} {selection : FieldSelection} {row : Row}
    {run : Run} (begins : scope.start <+: row.key)
    (made : ofRow schema scope .range selection row = .ok run) :
    RunKey.decode row.key = .ok ⟨scope.cluster, run.user, run.flow, run.number⟩ := by
  rcases of_ofRow_range made with ⟨_, _, user, flow, _⟩
  rw [key_of_ofRow begins made, Scope.decode_key, user, flow]

end Run

/-- The rows that a range read gets begin like the keys of its flow. -/
theorem Query.start_prefix_of_mem_scan {schema : Schema} {settings : Settings} {query : Query}
    {scan : Scan} (asked : query.request schema settings = .ok (.scan scan)) {table : Table}
    {row : Row} (returned : row ∈ table.scan scan) : query.scope.start <+: row.key := by
  rw [(Query.of_request_scan asked).2] at returned
  exact Table.start_prefix_of_mem_scanned (Table.mem_scanned_of_mem_scan returned)

/-- The beginning of a flow is the beginning of its own keys only, and what
reads as a key behind it is a key of the flow.  So each run that is made of a
row behind it, as the rows of a range read are, has the names in the key. -/
theorem flowStart_isolates :
    (∀ (key : RunKey) (cluster user flow : String),
      RunKey.flowStart cluster user flow <+: RunKey.encode key ↔
        (key.cluster, key.user, key.flow) = (cluster, user, flow)) ∧
    (∀ (raw : Bytes) (key : RunKey) (cluster user flow : String),
      RunKey.flowStart cluster user flow <+: raw → RunKey.decode raw = .ok key →
        (key.cluster, key.user, key.flow) = (cluster, user, flow)) ∧
    (∀ (schema : Schema) (scope : Scope) (selection : FieldSelection) (row : Row) (run : Run),
      RunKey.flowStart scope.cluster scope.user scope.flow <+: row.key →
      Run.ofRow schema scope .range selection row = .ok run →
        RunKey.decode row.key = .ok ⟨scope.cluster, run.user, run.flow, run.number⟩) ∧
    (∀ (reader : Reader) (query : Query) (scan : Scan) (table : Table) (row : Row) (run : Run),
      query.request reader.schema reader.settings = .ok (.scan scan) → row ∈ table.scan scan →
      reader.parse query row = .ok run →
        RunKey.decode row.key = .ok ⟨query.scope.cluster, run.user, run.flow, run.number⟩) := by
  refine ⟨?_, ?_, ?_, ?_⟩
  · intro key cluster user flow
    rw [RunKey.flowStart_prefix_encode_iff, Prod.mk.injEq, Prod.mk.injEq]
  · intro raw key cluster user flow begins read
    rw [← RunKey.encode_of_decode read, RunKey.flowStart_prefix_encode_iff] at begins
    rw [Prod.mk.injEq, Prod.mk.injEq]
    exact begins
  · intro schema scope selection row run begins made
    exact Run.decode_of_ofRow begins made
  · intro reader query scan table row run asked returned made
    rw [Reader.parse, (Query.of_request_scan asked).1] at made
    exact Run.decode_of_ofRow (Query.start_prefix_of_mem_scan asked returned) made

/-- A name that another one begins with keeps its runs apart. -/
theorem flowStart_isolates_extension :
    ¬ RunKey.flowStart "c" "u" "f" <+: RunKey.encode ⟨"c", "u", "f!", 7⟩ ∧
    ∃ run, Run.ofRow Schema.standard ⟨"c", "u", "f!", none⟩ .range {}
        ⟨RunKey.encode ⟨"c", "u", "f!", 7⟩, []⟩ = .ok run ∧
      RunKey.decode (RunKey.encode ⟨"c", "u", "f!", 7⟩) =
        .ok ⟨"c", run.user, run.flow, run.number⟩ := by
  rcases flowStart_isolates with ⟨own, _, agree, _⟩
  have read : RunKey.decode (Row.key ⟨RunKey.encode ⟨"c", "u", "f!", 7⟩, []⟩) =
      .ok ⟨"c", "u", "f!", 7⟩ := RunKey.decode_encode _
  rcases Run.ofRow_range Schema.standard ⟨"c", "u", "f!", none⟩ {} read with ⟨run, made, _⟩
  refine ⟨?_, run, made, ?_⟩
  · intro begins
    have names := (own _ _ _ _).mp begins
    revert names
    decide
  · exact agree _ _ _ _ _ (RunKey.flowStart_prefix_encode ⟨"c", "u", "f!", 7⟩) made

end FlowRuns
