import InverterBridge.Json.Record
import InverterBridge.Json.Printer

/-!
# Settings of the bus session

A session takes part in the bus as a peer, as a client of routers or as a
router itself, and may be told where to connect and where to listen.
-/

namespace InverterBridge

/-- How a session takes part in the bus. -/
inductive BusMode where
  | peer
  | client
  | router
  deriving DecidableEq, Repr

namespace BusMode

/-- The name of a mode. -/
def name : BusMode → String
  | .peer => "peer"
  | .client => "client"
  | .router => "router"

/-- The modes by their names. -/
def alternatives : List (String × BusMode) :=
  [("peer", .peer), ("client", .client), ("router", .router)]

/-- Read a mode. -/
def decode (dialect : Dialect) : Decoder BusMode :=
  dialect.choice alternatives

end BusMode

/-- The settings of a bus session. -/
structure BusConfig where
  mode : BusMode
  connect : List String
  listen : List String
  deriving DecidableEq, Repr

namespace BusConfig

/-- A peer that neither connects nor listens anywhere in particular. -/
def default : BusConfig :=
  ⟨.peer, [], []⟩

/-- The settings as a JSON value. -/
def toJson (config : BusConfig) : Json :=
  .object [
    ("mode", .text config.mode.name),
    ("connect", .array (config.connect.map Json.text)),
    ("listen", .array (config.listen.map Json.text))]

/-- Read the settings of a session; all of them may be left out. -/
def decode (dialect : Dialect) : Decoder BusConfig :=
  dialect.record "struct ZenohConfig"
    (BusConfig.mk
      <$> Fields.withDefault "mode" (BusMode.decode dialect) .peer
      <*> Fields.withDefault "connect" (Dialect.list Dialect.text) []
      <*> Fields.withDefault "listen" (Dialect.list Dialect.text) [])

end BusConfig

end InverterBridge
