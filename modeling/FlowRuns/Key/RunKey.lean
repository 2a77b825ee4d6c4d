import FlowRuns.Bytes.Long
import FlowRuns.Key.Component
import FlowRuns.Text.Quoted

namespace FlowRuns

/-!
# Row keys of flow runs

The key of a run is made of the names of its cluster, user and flow as
components, and of eight bytes for the number of the run.  The number is
stored as its distance from the greatest 64-bit number, so the keys of one
flow ascend while their runs grow older.  The three components are the common
beginning of all keys of a flow.
-/

/-- What identifies a run of a flow. -/
structure RunKey where
  cluster : String
  user : String
  flow : String
  run : Int64
  deriving DecidableEq

namespace RunKey

/-- The distance of a number from the greatest one, modulo 2^64. -/
def inverted (run : Int64) : Int64 :=
  Int64.maxValue - run

/-- The distance of the distance is the number itself. -/
@[simp]
theorem inverted_inverted (run : Int64) : inverted (inverted run) = run := by
  simp [inverted, Int64.sub_eq_add_neg, Int64.neg_add, ← Int64.add_assoc, Int64.add_right_neg]

/-- The beginning that the keys of a flow have in common. -/
def flowStart (cluster user flow : String) : Bytes :=
  Component.joinTerminated [cluster, user, flow]

/-- The stored form of a key. -/
def encode (key : RunKey) : Bytes :=
  flowStart key.cluster key.user key.flow ++ Long.encode (inverted key.run)

/-- Why a byte string is not the key of a run. -/
inductive Fault where
  | missingNames (raw : Bytes) (found : Nat)
  | numberWidth (width : Nat)
  | unreadableName (component : Bytes)
  deriving DecidableEq

/-- The wording of a fault. -/
def Fault.message : Fault → String
  | .missingNames raw found =>
      "flow run key has " ++ toString found ++ " of 3 name components: " ++
        Text.quoted (Text.lossy raw)
  | .numberWidth width =>
      "flow run key suffix is " ++ toString width ++ " bytes, expected 8"
  | .unreadableName component =>
      "undecodable key component " ++ Text.quoted (Text.lossy component)

/-- The name that a component writes. -/
def readName (component : Bytes) : Except Fault String :=
  match Component.decode? component with
  | none => .error (.unreadableName component)
  | some name => .ok name

/-- Read a key.  The number of components is checked first, then the width of
the number, and then the names from left to right. -/
def decode (raw : Bytes) : Except Fault RunKey :=
  match Component.splitTerminated raw 3 with
  | ([cluster, user, flow], number) =>
      match Long.decode? number with
      | none => .error (.numberWidth number.length)
      | some stored => do
          let cluster ← readName cluster
          let user ← readName user
          let flow ← readName flow
          return ⟨cluster, user, flow, inverted stored⟩
  | (components, _) => .error (.missingNames raw components.length)

end RunKey
end FlowRuns
