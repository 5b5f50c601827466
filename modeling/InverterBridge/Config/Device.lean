import InverterBridge.Config.Connection
import InverterBridge.Gateway.Duration

/-!
# Settings of the device

A device has a name, a place, a unit number on its line, and the address of
the register at which its register map begins.  Delays between attempts to
reach it grow from a minimum to a maximum.
-/

namespace InverterBridge

/-- The delays between attempts to reach a device. -/
structure ReconnectConfig where
  minSeconds : UInt64
  maxSeconds : UInt64
  /-- Whether the delay doubles after each attempt. -/
  exponential : Bool
  deriving DecidableEq, Repr

namespace ReconnectConfig

/-- From a second to a minute, doubling. -/
def default : ReconnectConfig :=
  ⟨1, 60, true⟩

/-- The settings as a JSON value. -/
def toJson (config : ReconnectConfig) : Json :=
  .object [
    ("min_secs", .integer config.minSeconds.toNat),
    ("max_secs", .integer config.maxSeconds.toNat),
    ("exponential", .bool config.exponential)]

/-- Read the delays; all of them may be left out. -/
def decode (dialect : Dialect) : Decoder ReconnectConfig :=
  dialect.record "struct ReconnectConfig"
    (ReconnectConfig.mk
      <$> Fields.withDefault "min_secs" dialect.uint64 default.minSeconds
      <*> Fields.withDefault "max_secs" dialect.uint64 default.maxSeconds
      <*> Fields.withDefault "exponential" Dialect.bool default.exponential)

end ReconnectConfig

/-- The settings of a device. -/
structure DeviceConfig where
  name : String
  connection : ConnectionConfig
  unitId : UInt8
  baseAddress : UInt16
  timeoutMilliseconds : UInt64
  reconnect : ReconnectConfig
  deriving DecidableEq, Repr

namespace DeviceConfig

/-- How long to wait for a connection or an answer. -/
def timeout (config : DeviceConfig) : Duration :=
  .ofMilliseconds config.timeoutMilliseconds.toNat

/-- The settings as a JSON value. -/
def toJson (config : DeviceConfig) : Json :=
  .object [
    ("name", .text config.name),
    ("connection", config.connection.toJson),
    ("unit_id", .integer config.unitId.toNat),
    ("base_address", .integer config.baseAddress.toNat),
    ("timeout_ms", .integer config.timeoutMilliseconds.toNat),
    ("reconnect", config.reconnect.toJson)]

/-- Read the settings of a device; its name and its place have to be given. -/
def decode (dialect : Dialect) : Decoder DeviceConfig :=
  dialect.record "struct DeviceConfig"
    (DeviceConfig.mk
      <$> Fields.required "name" Dialect.text
      <*> Fields.required "connection" (ConnectionConfig.decode dialect)
      <*> Fields.withDefault "unit_id" dialect.uint8 1
      <*> Fields.withDefault "base_address" dialect.uint16 40000
      <*> Fields.withDefault "timeout_ms" dialect.uint64 1000
      <*> Fields.withDefault "reconnect" (ReconnectConfig.decode dialect) .default)

end DeviceConfig

end InverterBridge
