import InverterBridge.Config.Load
import InverterBridge.Json.Read

/-!
# Parts of a configuration

Every part of a configuration can be read by itself, without the checks that
the whole has to pass, and be shown with all its defaults filled in.
-/

namespace InverterBridge

/-- A part of a configuration. -/
inductive ConfigPart where
  /-- Any value at all. -/
  | value
  | bus
  | logging
  | queue
  | bridge
  | poll
  | device
  | connection
  | reconnect
  deriving DecidableEq, Repr

namespace ConfigPart

/-- The parts by their names. -/
def alternatives : List (String × ConfigPart) := [
  ("value", .value), ("zenoh", .bus), ("logging", .logging), ("queue", .queue),
  ("bridge", .bridge), ("sunspec", .poll), ("device", .device), ("connection", .connection),
  ("reconnect", .reconnect)]

/-- Read a text and show what was read. -/
def shownAs {α : Type} (decode : Dialect → Decoder α) (write : α → Json) (text : String) :
    Except SetupError String :=
  (parseConfig decode text).map fun value => (write value).render

/-- A part with its defaults filled in. -/
def complete (part : ConfigPart) (text : String) : Except SetupError String :=
  match part with
  | .value => shownAs Json.decodeAny id text
  | .bus => shownAs BusConfig.decode BusConfig.toJson text
  | .logging => shownAs LoggingConfig.decode LoggingConfig.toJson text
  | .queue => shownAs QueueConfig.decode QueueConfig.toJson text
  | .bridge => shownAs BridgeConfig.decode BridgeConfig.toJson text
  | .poll => shownAs PollConfig.decode PollConfig.toJson text
  | .device => shownAs DeviceConfig.decode DeviceConfig.toJson text
  | .connection => shownAs ConnectionConfig.decode ConnectionConfig.toJson text
  | .reconnect => shownAs ReconnectConfig.decode ReconnectConfig.toJson text

end ConfigPart

end InverterBridge
