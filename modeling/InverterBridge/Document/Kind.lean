import InverterBridge.Config.Load
import InverterBridge.Document.Availability
import InverterBridge.Document.Identity
import InverterBridge.Document.Values
import InverterBridge.Json.Read
import InverterBridge.Status

/-!
# Kinds of documents

Every kind of document can be read and written again.  What is written is the
normal form of the text: members in their order, numbers in their shortest
form, and nothing that the kind does not know.
-/

namespace InverterBridge

/-- What a text is read as. -/
inductive DocumentKind where
  | values
  | events
  | device
  | availability
  | valueSnapshot
  | eventSnapshot
  | deviceSnapshot
  | channel
  | status
  | bridgeConfig
  | connection
  deriving DecidableEq, Repr

namespace DocumentKind

/-- The kinds by their names. -/
def alternatives : List (String × DocumentKind) := [
  ("values", .values), ("events", .events), ("device", .device),
  ("availability", .availability), ("value_snapshot", .valueSnapshot),
  ("event_snapshot", .eventSnapshot), ("device_snapshot", .deviceSnapshot),
  ("channel", .channel), ("status", .status), ("config", .bridgeConfig),
  ("connection", .connection)]

/-- Read a text and write it again. -/
def readAndWrite {α : Type} (decode : Dialect → Decoder α) (write : α → Json) (text : String) :
    Except DecodeError String :=
  (readStrict decode text).map fun value => (write value).render

/-- The normal form of a text. -/
def normalize (kind : DocumentKind) (text : String) : Except DecodeError String :=
  match kind with
  | .values => readAndWrite ValuesDocument.decode ValuesDocument.toJson text
  | .events => readAndWrite EventsDocument.decode (·.snapshot.toJson) text
  | .device => readAndWrite DeviceDocument.decode (·.snapshot.toJson) text
  | .availability => readAndWrite AvailabilityDocument.decode AvailabilityDocument.toJson text
  | .valueSnapshot => readAndWrite ValueSnapshot.decode ValueSnapshot.toJson text
  | .eventSnapshot => readAndWrite EventSnapshot.decode EventSnapshot.toJson text
  | .deviceSnapshot => readAndWrite DeviceSnapshot.decode DeviceSnapshot.toJson text
  | .channel => readAndWrite Channel.decode (fun channel => .text channel.name) text
  | .status => readAndWrite BridgeStatus.decode BridgeStatus.toJson text
  | .bridgeConfig => readAndWrite BridgeConfig.decode BridgeConfig.toJson text
  | .connection => readAndWrite ConnectionConfig.decode ConnectionConfig.toJson text

end DocumentKind

end InverterBridge
