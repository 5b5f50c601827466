import InverterBridge.Json.Printer
import InverterBridge.Json.Read

/-!
# Bridge status

The status of a bridge names the bridge, its version and its state, followed
by metadata of any kind.  Metadata are kept sorted by key and are written into
the same object as the fixed members, even where they repeat their names; a
reader takes every member that is not a fixed one for metadata.
-/

namespace InverterBridge

/-- The state of a bridge. -/
inductive BridgeState where
  | running
  | offline
  | error
  deriving DecidableEq, Repr

namespace BridgeState

/-- The name of a state. -/
def name : BridgeState → String
  | .running => "running"
  | .offline => "offline"
  | .error => "error"

/-- The states by their names. -/
def alternatives : List (String × BridgeState) :=
  [("running", .running), ("offline", .offline), ("error", .error)]

end BridgeState

/-- The status of a bridge. -/
structure BridgeStatus where
  bridge : String
  version : String
  state : BridgeState
  metadata : List (String × Json)
  deriving Repr

namespace BridgeStatus

/-- A status without metadata. -/
def ofState (bridge version : String) (state : BridgeState) : BridgeStatus :=
  ⟨bridge, version, state, []⟩

/-- Add one metadata member. -/
def withField (status : BridgeStatus) (key : String) (value : Json) : BridgeStatus :=
  { status with metadata := Json.insertMember key value.sorted status.metadata }

/-- Add the members of an object; other values are ignored. -/
def withMetadata (status : BridgeStatus) (value : Json) : BridgeStatus :=
  match value.sorted with
  | .object members => { status with metadata := Json.insertMembers status.metadata members }
  | _ => status

/-- The status of a running bridge. -/
def running (bridge version : String) : BridgeStatus :=
  ofState bridge version .running

/-- The status of a bridge that has stopped. -/
def offline (bridge version : String) : BridgeStatus :=
  ofState bridge version .offline

/-- The status of a bridge that has failed, with the reason in its metadata. -/
def error (bridge version reason : String) : BridgeStatus :=
  (ofState bridge version .error).withField "error" (.text reason)

/-- The names of the fixed members. -/
def fixedMembers : List String :=
  ["bridge", "version", "status"]

/-- The status as a JSON value. -/
def toJson (status : BridgeStatus) : Json :=
  .object
    ([("bridge", .text status.bridge),
      ("version", .text status.version),
      ("status", .text status.state.name)] ++ status.metadata)

/-- The text of the status. -/
def text (status : BridgeStatus) : String :=
  status.toJson.render

/-- Read the metadata among the members of a status. -/
def metadataOf :
    List (Except DecodeError String × Node) → Except DecodeError (List (String × Json))
  | [] => .ok []
  | (.error cause, _) :: _ => .error cause
  | (.ok key, node) :: members =>
      if key ∈ fixedMembers then metadataOf members
      else
        match node.content with
        | .error cause => .error cause
        | .ok value => (metadataOf members).map ((key, value.sorted) :: ·)

/-- Read a status; only an object will do. -/
def decode (dialect : Dialect) : Decoder BridgeStatus
  | .object members ending => do
      let fields : Fields (String × String × BridgeState) :=
        (fun bridge version state => (bridge, version, state))
          <$> Fields.required "bridge" Dialect.text
          <*> Fields.required "version" Dialect.text
          <*> Fields.required "status" (dialect.choice BridgeState.alternatives)
      Dialect.checkMembers fields.checks (fun node => node.content.map fun _ => ()) [] members
      ending.finish
      let (bridge, version, state) ← fields.fromMembers (memberNamed members)
      let metadata ← metadataOf members
      return ⟨bridge, version, state, Json.insertMembers [] metadata⟩
  | node => .error (node.mismatch "struct BridgeStatus")

end BridgeStatus

end InverterBridge
