import InverterBridge.Json.Printer
import InverterBridge.Json.Record
import InverterBridge.Snapshot

/-!
# Snapshots as JSON

Snapshots are also written as they are, without rounding, and read back.  A
missing input energy is written as `null`.
-/

namespace InverterBridge

namespace PhaseValues

/-- The phase as a JSON value. -/
def toJson (phase : PhaseValues) : Json :=
  .object [("ac_voltage", .float phase.voltage), ("ac_current", .float phase.current)]

/-- Read a phase. -/
def decode (dialect : Dialect) : Decoder PhaseValues :=
  dialect.record "struct PhaseValues"
    (PhaseValues.mk
      <$> Fields.required "ac_voltage" dialect.float
      <*> Fields.required "ac_current" dialect.float)

end PhaseValues

namespace InputValues

/-- The input as a JSON value. -/
def toJson (input : InputValues) : Json :=
  .object [
    ("dc_voltage", .float input.voltage),
    ("dc_current", .float input.current),
    ("dc_power", .float input.power),
    ("dc_energy",
      match input.energy with
      | none => .null
      | some energy => .float energy)]

/-- Read an input; in an object the energy may be left out. -/
def decode (dialect : Dialect) : Decoder InputValues :=
  dialect.record "struct InputValues"
    (InputValues.mk
      <$> Fields.required "dc_voltage" dialect.float
      <*> Fields.required "dc_current" dialect.float
      <*> Fields.required "dc_power" dialect.float
      <*> Fields.single "dc_energy" (Dialect.optional dialect.float) (.ok none) .error)

end InputValues

namespace ValueSnapshot

/-- The snapshot as a JSON value. -/
def toJson (values : ValueSnapshot) : Json :=
  .object [
    ("time", .integer values.time),
    ("ac_energy", .float values.energy),
    ("ac_power_active", .float values.activePower),
    ("ac_power_apparent", .float values.apparentPower),
    ("ac_power_reactive", .float values.reactivePower),
    ("ac_power_factor", .float values.powerFactor),
    ("phases", .array (values.phases.map PhaseValues.toJson)),
    ("ac_frequency", .float values.frequency),
    ("dc_power", .float values.dcPower),
    ("efficiency", .float values.efficiency),
    ("inputs", .array (values.inputs.map InputValues.toJson))]

/-- Read a snapshot of values. -/
def decode (dialect : Dialect) : Decoder ValueSnapshot :=
  dialect.record "struct ValueSnapshot"
    (ValueSnapshot.mk
      <$> Fields.required "time" dialect.int64
      <*> Fields.required "ac_energy" dialect.float
      <*> Fields.required "ac_power_active" dialect.float
      <*> Fields.required "ac_power_apparent" dialect.float
      <*> Fields.required "ac_power_reactive" dialect.float
      <*> Fields.required "ac_power_factor" dialect.float
      <*> Fields.required "phases" (Dialect.list (PhaseValues.decode dialect))
      <*> Fields.required "ac_frequency" dialect.float
      <*> Fields.required "dc_power" dialect.float
      <*> Fields.required "efficiency" dialect.float
      <*> Fields.required "inputs" (Dialect.list (InputValues.decode dialect)))

end ValueSnapshot

namespace EventSnapshot

/-- The members of the snapshot, which are also those of its document. -/
def toJson (events : EventSnapshot) : Json :=
  .object [
    ("active_code", .integer events.activeCode.toNat),
    ("state", .text events.state),
    ("events", .array (events.events.map Json.text))]

/-- Read the events under the given name. -/
def decodeAs (shape : String) (dialect : Dialect) : Decoder EventSnapshot :=
  dialect.record shape
    (EventSnapshot.mk
      <$> Fields.required "active_code" dialect.uint16
      <*> Fields.required "state" Dialect.text
      <*> Fields.required "events" (Dialect.list Dialect.text))

/-- Read a snapshot of events. -/
def decode (dialect : Dialect) : Decoder EventSnapshot :=
  decodeAs "struct EventSnapshot" dialect

end EventSnapshot

namespace RegisterModel

/-- The register models by their names in documents. -/
def alternatives : List (String × RegisterModel) :=
  [("float", .float), ("int+sf", .scaledInteger)]

/-- The name of a register model. -/
def name : RegisterModel → String
  | .float => "float"
  | .scaledInteger => "int+sf"

@[simp]
theorem lookup_name (model : RegisterModel) : alternatives.lookup model.name = some model := by
  cases model <;> rfl

/-- Read a register model. -/
def decode (dialect : Dialect) : Decoder RegisterModel :=
  dialect.choice alternatives

end RegisterModel

namespace DeviceSnapshot

/-- The members of the snapshot, which are also those of its document. -/
def toJson (device : DeviceSnapshot) : Json :=
  .object [
    ("manufacturer", .text device.manufacturer),
    ("model", .text device.model),
    ("serial", .text device.serial),
    ("firmware", .text device.firmware),
    ("inverter_id", .integer device.inverterModel.toNat),
    ("register_model", .text device.registerModel.name),
    ("phases", .integer device.phases.toNat),
    ("inputs", .integer device.inputs.toNat),
    ("hybrid", .bool device.hybrid),
    ("modbus_address", .integer device.modbusAddress.toNat)]

/-- Read the identity of a device under the given name. -/
def decodeAs (shape : String) (dialect : Dialect) : Decoder DeviceSnapshot :=
  dialect.record shape
    (DeviceSnapshot.mk
      <$> Fields.required "manufacturer" Dialect.text
      <*> Fields.required "model" Dialect.text
      <*> Fields.required "serial" Dialect.text
      <*> Fields.required "firmware" Dialect.text
      <*> Fields.required "inverter_id" dialect.uint16
      <*> Fields.required "register_model" (RegisterModel.decode dialect)
      <*> Fields.required "phases" dialect.uint8
      <*> Fields.required "inputs" dialect.uint8
      <*> Fields.required "hybrid" Dialect.bool
      <*> Fields.required "modbus_address" dialect.uint16)

/-- Read a snapshot of a device. -/
def decode (dialect : Dialect) : Decoder DeviceSnapshot :=
  decodeAs "struct DeviceSnapshot" dialect

end DeviceSnapshot

end InverterBridge
