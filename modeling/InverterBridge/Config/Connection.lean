import InverterBridge.Json.Record
import InverterBridge.Json.Printer

/-!
# Where a device is

A device is reached over the network or over a serial line.  In documents the
member `type` tells the two apart.
-/

namespace InverterBridge

/-- The two kinds of connections. -/
inductive ConnectionKind where
  | tcp
  | rtu
  deriving DecidableEq, Repr

/-- The kinds of connections by their names. -/
def ConnectionKind.alternatives : List (String × ConnectionKind) :=
  [("tcp", .tcp), ("rtu", .rtu)]

/-- The settings of a serial line. -/
structure SerialLine where
  port : String
  baudRate : UInt32
  dataBits : UInt8
  parity : String
  stopBits : UInt8
  deriving DecidableEq, Repr

/-- Where a device is. -/
inductive ConnectionConfig where
  /-- A network host and port. -/
  | tcp (host : String) (port : UInt16)
  /-- A serial line. -/
  | rtu (line : SerialLine)
  deriving DecidableEq, Repr

namespace ConnectionConfig

/-- The connection in short. -/
def text : ConnectionConfig → String
  | .tcp host port => "tcp://" ++ host ++ ":" ++ natText port.toNat
  | .rtu line => "rtu://" ++ line.port ++ "@" ++ natText line.baudRate.toNat

/-- The connection as a JSON value. -/
def toJson : ConnectionConfig → Json
  | .tcp host port =>
      .object [("type", .text "tcp"), ("host", .text host), ("port", .integer port.toNat)]
  | .rtu line =>
      .object [
        ("type", .text "rtu"),
        ("port", .text line.port),
        ("baud_rate", .integer line.baudRate.toNat),
        ("data_bits", .integer line.dataBits.toNat),
        ("parity", .text line.parity),
        ("stop_bits", .integer line.stopBits.toNat)]

/-- Read a network host and port. -/
def decodeTcp (dialect : Dialect) : Decoder ConnectionConfig :=
  dialect.record "struct variant ConnectionConfig::Tcp"
    (ConnectionConfig.tcp
      <$> Fields.required "host" Dialect.text
      <*> Fields.withDefault "port" dialect.uint16 502)

/-- Read a serial line. -/
def decodeRtu (dialect : Dialect) : Decoder ConnectionConfig := fun node =>
  (dialect.record "struct variant ConnectionConfig::Rtu"
    (SerialLine.mk
      <$> Fields.required "port" Dialect.text
      <*> Fields.withDefault "baud_rate" dialect.uint32 9600
      <*> Fields.withDefault "data_bits" dialect.uint8 8
      <*> Fields.withDefault "parity" Dialect.text "none"
      <*> Fields.withDefault "stop_bits" dialect.uint8 1)
    node).map ConnectionConfig.rtu

/-- Read a connection.

Its members are buffered until its kind is known. -/
def decode (_ : Dialect) : Decoder ConnectionConfig :=
  Dialect.tagged "internally tagged enum ConnectionConfig" "type" ConnectionKind.alternatives
    fun kind =>
      match kind with
      | .tcp => decodeTcp .buffered
      | .rtu => decodeRtu .buffered

end ConnectionConfig

end InverterBridge
