import InverterBridge.Json.Access
import InverterBridge.Number.Exact
import InverterBridge.Simulation.Gateway

/-!
# Scripts

What a scripted gateway answers is laid down by a JSON object with an answer
for each name.  An answer is a value or an object with the member `err`, which
describes an error.  Floating-point numbers are texts, so that none of their
digits is lost.
-/

namespace InverterBridge.Script

/-- A floating-point number. -/
def float (value : Json) : Float :=
  ofExactText value.asText

/-- A severity by its name; errors are transient unless said otherwise. -/
def severity (name : String) : Severity :=
  match name with
  | "fatal" => .fatal
  | "shutdown" => .shutdown
  | _ => .transient

/-- The cause an error description names. -/
def cause (description : Json) : GatewayCause :=
  let number (name : String) : Nat := (description.member name).asNat
  let text := (description.member "text").asText
  match (description.member "kind").asText with
  | "Connection" => .connection text
  | "InvalidAddress" => .invalidAddress text
  | "Read" => .read (number "address") (number "count") text
  | "Exception" => .exception (number "address") text
  | "Timeout" => .timeout ⟨number "secs" * 1000000000 + number "nanos"⟩
  | "InvalidDevice" => .invalidDevice text
  | "NotImplemented" => .notImplemented text
  | "NotFetched" => .notFetched text
  | "OutOfRange" => .outOfRange text
  | "ShuttingDown" => .shuttingDown
  | _ => .notConnected

/-- The error of a description. -/
def error (description : Json) : GatewayError :=
  ⟨severity (description.member "severity").asText, cause description⟩

/-- The event of a description. -/
def event (description : Json) : GatewayEvent :=
  match (description.member "type").asText with
  | "disconnected" => .disconnected (.ofMilliseconds (description.member "ms").asNat)
  | "error" => .error (error (description.member "error"))
  | _ => .connected

/-- An answer: an error, or a value. -/
def answer {α : Type} (decode : Json → α) (value : Json) : GatewayResult α :=
  match value.member? "err" with
  | some description => .error (error description)
  | none => .ok (decode value)

/-- An entry of a list of answers, counted from zero. -/
def entry (name : String) (index : Nat) (value : Json) : GatewayResult Float :=
  match value.member? "err", value.items[index]? with
  | some description, _ => .error (error description)
  | none, some found => answer float found
  | none, none => .error (.transient (.outOfRange (name ++ " " ++ natText (index + 1))))

/-- The answers of a script by question. -/
def answers (script : Json) : (question : Question) → GatewayResult question.Answer
  | .validate => .ok ()
  | .fetchDeviceInfo => answer (fun _ => ()) (script.member "fetch_device_info")
  | .fetchRegisters => answer (fun _ => ()) (script.member "fetch_registers")
  | .fetchEventRegisters => answer (fun _ => ()) (script.member "fetch_event_registers")
  | .energy => answer float (script.member "ac_energy")
  | .activePower => answer float (script.member "ac_power_active")
  | .apparentPower => answer float (script.member "ac_power_apparent")
  | .reactivePower => answer float (script.member "ac_power_reactive")
  | .powerFactor => answer float (script.member "ac_power_factor")
  | .frequency => answer float (script.member "ac_frequency")
  | .acVoltage phase => entry "ac_voltage" phase.index (script.member "ac_voltage")
  | .acCurrent phase => entry "ac_current" phase.index (script.member "ac_current")
  | .dc point .total => answer float (script.member (point.name ++ "_total"))
  | .dc point (.module index) => entry point.name index (script.member point.name)
  | .activeStateCode => answer Json.asRegister (script.member "active_state_code")
  | .state => answer Json.asText (script.member "state")
  | .events => answer Json.asTexts (script.member "events")
  | .manufacturer => answer Json.asText (script.member "manufacturer")
  | .model => answer Json.asText (script.member "model")
  | .serialNumber => answer Json.asText (script.member "serial_number")
  | .firmwareVersion => answer Json.asText (script.member "firmware_version")
  | .deviceAddress => answer Json.asRegister (script.member "device_address")
  | .inverterModel => answer Json.asRegister (script.member "inverter_id")
  | .phases => answer Json.asByte (script.member "phases")
  | .inputs => answer Json.asByte (script.member "inputs")
  | .hybrid => answer Json.asBool (script.member "is_hybrid")
  | .floatRegisters => answer Json.asBool (script.member "uses_float_registers")

/-- A list of floating-point numbers. -/
def floats (values : List String) : Json :=
  .array (values.map Json.text)

/-- The script of a gateway that is not told otherwise: a healthy device with
three phases and two inputs. -/
def standard : List (String × Json) := [
  ("connect_events", .array [.object [("type", .text "connected")]]),
  ("auto_reconnect", .bool true),
  ("ac_energy", .text "12345000"),
  ("ac_power_active", .text "2950"),
  ("ac_power_apparent", .text "3000"),
  ("ac_power_reactive", .text "-100"),
  ("ac_power_factor", .text "0.98"),
  ("ac_frequency", .text "50.01"),
  ("ac_voltage", floats ["230.1", "231.2", "229.9"]),
  ("ac_current", floats ["4.3", "4.3", "4.3"]),
  ("dc_power_total", .text "3100"),
  ("dc_power", floats ["1550", "1550"]),
  ("dc_voltage", floats ["400", "400"]),
  ("dc_current", floats ["3.875", "3.875"]),
  ("dc_energy", floats ["5000000", "5000000"]),
  ("active_state_code", .integer 4),
  ("state", .text "MPPT"),
  ("events", .array [.text "DC_OVER_VOLT"]),
  ("manufacturer", .text "Fronius"),
  ("model", .text "Symo 8.2-3-M"),
  ("serial_number", .text "28136344"),
  ("firmware_version", .text "0.3.30.2"),
  ("device_address", .integer 1),
  ("inverter_id", .integer 113),
  ("phases", .integer 3),
  ("inputs", .integer 2),
  ("is_hybrid", .bool false),
  ("uses_float_registers", .bool true)]

end InverterBridge.Script

namespace InverterBridge

namespace ScriptedGateway

/-- A gateway with the answers of a script. -/
def follow (gateway : ScriptedGateway) (script : Json) : ScriptedGateway :=
  { gateway with
    connectEvents := (script.member "connect_events").items.map Script.event
    autoReconnect := (script.member "auto_reconnect").asBool
    answers := Script.answers script
    fetchDelay := (script.member "fetch_delay_ms").asNat }

/-- The results of the checks of the device that a script lays down; null is
success. -/
def checksOf? (script : Json) : Option (List (GatewayResult Unit)) :=
  (script.member? "validate").map fun results =>
    results.items.map (Script.answer fun _ => ())

end ScriptedGateway

/-- A scripted gateway with the script it follows; later answers of a name
replace earlier ones. -/
structure ScriptedDevice where
  gateway : ScriptedGateway
  script : List (String × Json)

namespace ScriptedDevice

/-- A gateway that follows the standard script. -/
def standard : ScriptedDevice where
  gateway :=
    ScriptedGateway.follow ⟨[], true, [], Script.answers .null, 0, false, .zero⟩
      (.object Script.standard)
  script := Script.standard

/-- Replace some of the answers. -/
def override (device : ScriptedDevice) (changes : Json) : ScriptedDevice :=
  let script := changes.members ++ device.script
  let gateway := device.gateway.follow (.object script)
  ⟨{ gateway with
    validations := (ScriptedGateway.checksOf? changes).getD gateway.validations }, script⟩

end ScriptedDevice

end InverterBridge
