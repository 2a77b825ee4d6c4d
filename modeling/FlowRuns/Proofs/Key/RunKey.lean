import FlowRuns.Proofs.Bytes.Order
import FlowRuns.Proofs.Key.Splitting
import FlowRuns.ReadError

namespace FlowRuns

/-!
# Row keys and the runs they name

The three names of a key are components without separators, so the third
separator of a stored key ends its names whatever the number is made of.
Keys are therefore read back exactly, and what does not come from a key is
refused.  The beginning of one flow is the beginning of no other flow's keys.
Within a flow the keys ascend while the numbers of the runs descend.
-/

namespace RunKey

/-- The three written names of a key. -/
def components (cluster user flow : String) : List Bytes :=
  [Component.encode cluster, Component.encode user, Component.encode flow]

theorem flowStart_eq (cluster user flow : String) :
    flowStart cluster user flow = Component.terminated (components cluster user flow) :=
  Component.joinTerminated_eq [cluster, user, flow]

theorem separator_not_mem_components (cluster user flow : String) :
    ∀ component ∈ components cluster user flow, Component.separator ∉ component :=
  Component.separator_not_mem_encodes [cluster, user, flow]

/-! ## Reading keys -/

@[simp]
theorem readName_encode (name : String) : readName (Component.encode name) = .ok name := by
  rw [readName, Component.decode?_encode]

theorem encode_of_readName {component : Bytes} {name : String}
    (free : Component.separator ∉ component) (read : readName component = .ok name) :
    Component.encode name = component := by
  rw [readName] at read
  cases written : Component.decode? component with
  | none =>
      rw [written] at read
      cases read
  | some other =>
      rw [written] at read
      cases read
      exact Component.encode_of_decode? free written

theorem decode_encode (key : RunKey) : decode (encode key) = .ok key := by
  have split : Component.splitTerminated (encode key) 3 =
      (components key.cluster key.user key.flow, Long.encode (inverted key.run)) := by
    rw [encode, flowStart_eq]
    exact Component.splitTerminated_terminated
      (separator_not_mem_components key.cluster key.user key.flow) _
  rw [decode, split]
  simp only [components, Long.decode?_encode, readName_encode, inverted_inverted]
  rfl

private theorem ok_of_bind {ε α β : Type} {first : Except ε α} {next : α → Except ε β} {result : β}
    (done : first >>= next = .ok result) :
    ∃ value, first = .ok value ∧ next value = .ok result := by
  cases first with
  | error fault => cases done
  | ok value => exact ⟨value, rfl, done⟩

/-- Three readable names and eight bytes are all that a key is made of. -/
theorem encode_of_decode {raw : Bytes} {key : RunKey} (read : decode raw = .ok key) :
    encode key = raw := by
  rw [decode] at read
  split at read
  · next cluster user flow number split =>
      rcases Component.eq_of_splitTerminated split with ⟨free, whole⟩
      cases stored : Long.decode? number with
      | none =>
          rw [stored] at read
          cases read
      | some distance =>
          rw [stored] at read
          rcases ok_of_bind read with ⟨clusterName, clusterRead, readRest⟩
          rcases ok_of_bind readRest with ⟨userName, userRead, readFlow⟩
          rcases ok_of_bind readFlow with ⟨flowName, flowRead, made⟩
          cases made
          have clusterWritten := encode_of_readName (free cluster (by simp)) clusterRead
          have userWritten := encode_of_readName (free user (by simp)) userRead
          have flowWritten := encode_of_readName (free flow (by simp)) flowRead
          rw [encode, flowStart_eq, components, inverted_inverted, clusterWritten, userWritten,
            flowWritten, Long.encode_of_decode? stored, whole]
  · cases read

theorem decode_eq_ok_iff {raw : Bytes} {key : RunKey} :
    decode raw = .ok key ↔ encode key = raw := by
  constructor
  · exact encode_of_decode
  · rintro rfl
    exact decode_encode key

/-- A byte string is refused exactly if it is the key of no run. -/
theorem foreign_iff {raw : Bytes} :
    (∀ key, encode key ≠ raw) ↔ ∃ fault, decode raw = .error fault := by
  cases read : decode raw with
  | error fault =>
      refine ⟨fun _ => ⟨fault, rfl⟩, ?_⟩
      intro _ key written
      rw [decode_eq_ok_iff.mpr written] at read
      cases read
  | ok key =>
      constructor
      · intro foreign
        exact absurd (decode_eq_ok_iff.mp read) (foreign key)
      · rintro ⟨fault, refused⟩
        cases refused

theorem encode_injective : Function.Injective encode := by
  intro first second same
  have read := decode_encode first
  rw [same, decode_encode] at read
  exact (Except.ok.inj read).symm

/-- Keys and their stored forms determine each other, and every other byte
string is a malformed row. -/
theorem decode_exact :
    (∀ key, decode (encode key) = .ok key) ∧
    (∀ raw key, decode raw = .ok key ↔ encode key = raw) ∧
    (∀ first second, encode first = encode second ↔ first = second) ∧
    (∀ raw, (∀ key, encode key ≠ raw) ↔
      ∃ detail, (decode raw).mapError ReadError.ofKey = .error (.malformedRow detail)) := by
  refine ⟨decode_encode, fun raw key => decode_eq_ok_iff, ?_, ?_⟩
  · intro first second
    exact ⟨fun same => encode_injective same, congrArg encode⟩
  · intro raw
    constructor
    · intro foreign
      cases read : decode raw with
      | error fault => exact ⟨fault.message, rfl⟩
      | ok key => exact absurd (encode_of_decode read) (foreign key)
    · rintro ⟨detail, refused⟩ key rfl
      rw [decode_encode] at refused
      cases refused

/-! ## The keys of a flow -/

/-- Only the keys of a flow begin like them. -/
theorem names_of_prefix {cluster user flow : String} {key : RunKey}
    (begins : flowStart cluster user flow <+: encode key) :
    key.cluster = cluster ∧ key.user = user ∧ key.flow = flow := by
  rcases begins with ⟨tail, whole⟩
  rw [encode, flowStart_eq, flowStart_eq] at whole
  have same := (Component.terminated_append_inj (separator_not_mem_components cluster user flow)
    (separator_not_mem_components key.cluster key.user key.flow) rfl whole).1
  simp only [components, List.cons.injEq, and_true] at same
  exact ⟨(Component.encode_injective same.1).symm, (Component.encode_injective same.2.1).symm,
    (Component.encode_injective same.2.2).symm⟩

theorem flowStart_prefix_encode (key : RunKey) :
    flowStart key.cluster key.user key.flow <+: encode key :=
  List.prefix_append _ _

theorem flowStart_prefix_encode_iff {cluster user flow : String} {key : RunKey} :
    flowStart cluster user flow <+: encode key ↔
      key.cluster = cluster ∧ key.user = user ∧ key.flow = flow := by
  constructor
  · exact names_of_prefix
  · rintro ⟨rfl, rfl, rfl⟩
    exact flowStart_prefix_encode key

/-- What begins like the keys of a flow and reads as a key is a key of the flow. -/
theorem encode_of_prefix {cluster user flow : String} {raw : Bytes} {key : RunKey}
    (begins : flowStart cluster user flow <+: raw) (read : decode raw = .ok key) :
    encode ⟨cluster, user, flow, key.run⟩ = raw := by
  have written := encode_of_decode read
  rw [← written] at begins
  rcases names_of_prefix begins with ⟨rfl, rfl, rfl⟩
  exact written

/-! ## The order of the keys of a flow -/

/-- The stored distance of a run, as a natural number. -/
theorem toNat_inverted (run : Int64) :
    ((inverted run).toUInt64.toNat : Int) = Int64.maxValue.toInt - run.toInt := by
  have size := run.toUInt64.toNat_lt
  have greatest : Int64.maxValue.toUInt64.toNat = 2 ^ 63 - 1 := by decide
  have greatest' : Int64.maxValue.toInt = 2 ^ 63 - 1 := by decide
  rw [inverted, Int64.toUInt64_sub, UInt64.toNat_sub, greatest, greatest', Long.toInt_eq,
    UInt64.size]
  split <;> omega

/-- Of two runs of a flow the newer one has the lesser key. -/
theorem compare_encode_eq_lt_iff (cluster user flow : String) (first second : Int64) :
    compare (encode ⟨cluster, user, flow, first⟩) (encode ⟨cluster, user, flow, second⟩) = .lt ↔
      second < first := by
  have distance := toNat_inverted first
  have distance' := toNat_inverted second
  simp only [encode, Bytes.compare_append_left, Long.encode]
  rw [Bytes.compare_ofNat (UInt64.toNat_lt _) (UInt64.toNat_lt _), Nat.compare_eq_lt,
    Int64.lt_iff_toInt_lt]
  omega

end RunKey
end FlowRuns
