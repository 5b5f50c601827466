import InverterBridge.Gateway.Duration
import InverterBridge.Json.Record
import InverterBridge.Json.Printer

/-!
# Settings of the outbound queues

The settings hold for every destination of a bridge: how many messages it may
hold back, and how long it waits after a failed delivery while the sink still
reports itself connected.
-/

namespace InverterBridge

/-- The settings of the outbound queues. -/
structure QueueConfig where
  capacity : UInt64
  retryMilliseconds : UInt64
  deriving DecidableEq, Repr

namespace QueueConfig

/-- A hundred messages, retried after a second. -/
def default : QueueConfig :=
  ⟨100, 1000⟩

/-- The delay after a failed delivery. -/
def retryInterval (config : QueueConfig) : Duration :=
  .ofMilliseconds config.retryMilliseconds.toNat

/-- The settings as a JSON value. -/
def toJson (config : QueueConfig) : Json :=
  .object [
    ("capacity", .integer config.capacity.toNat),
    ("retry_interval_ms", .integer config.retryMilliseconds.toNat)]

/-- Read the settings of the queues; all of them may be left out. -/
def decode (dialect : Dialect) : Decoder QueueConfig :=
  dialect.record "struct QueueConfig"
    (QueueConfig.mk
      <$> Fields.withDefault "capacity" dialect.size default.capacity
      <*> Fields.withDefault "retry_interval_ms" dialect.uint64 default.retryMilliseconds)

/-- The settings as they are shown in traces. -/
def trace (config : QueueConfig) : String :=
  "QueueConfig \x7b capacity: " ++ natText config.capacity.toNat ++
    ", retry_interval_ms: " ++ natText config.retryMilliseconds.toNat ++ " \x7d"

end QueueConfig

end InverterBridge
