import InverterBridge.Config.Bus
import InverterBridge.Config.Device
import InverterBridge.Config.Logging
import InverterBridge.Config.Queue
import InverterBridge.Topic

/-!
# The configuration of a bridge

A configuration has three parts: the bus session, what is polled, and the log.
Only what is polled has to be given.
-/

namespace InverterBridge

/-- What is polled and where it is published. -/
structure PollConfig where
  topicRoot : String
  device : DeviceConfig
  intervalSeconds : UInt64
  queue : QueueConfig
  deriving DecidableEq, Repr

namespace PollConfig

/-- The time between two polls. -/
def interval (config : PollConfig) : Duration :=
  .ofSeconds config.intervalSeconds.toNat

/-- The settings as a JSON value. -/
def toJson (config : PollConfig) : Json :=
  .object [
    ("key_prefix", .text config.topicRoot),
    ("device", config.device.toJson),
    ("update_interval_secs", .integer config.intervalSeconds.toNat),
    ("queue", config.queue.toJson)]

/-- Read what is polled; the device has to be given. -/
def decode (dialect : Dialect) : Decoder PollConfig :=
  dialect.record "struct SunspecConfig"
    (PollConfig.mk
      <$> Fields.withDefault "key_prefix" Dialect.text TopicSpace.standardRoot
      <*> Fields.required "device" (DeviceConfig.decode dialect)
      <*> Fields.withDefault "update_interval_secs" dialect.uint64 5
      <*> Fields.withDefault "queue" (QueueConfig.decode dialect) .default)

end PollConfig

/-- The configuration of a bridge. -/
structure BridgeConfig where
  bus : BusConfig
  poll : PollConfig
  logging : LoggingConfig
  deriving DecidableEq, Repr

namespace BridgeConfig

/-- The configuration as a JSON value. -/
def toJson (config : BridgeConfig) : Json :=
  .object [
    ("zenoh", config.bus.toJson),
    ("sunspec", config.poll.toJson),
    ("logging", config.logging.toJson)]

/-- Read a configuration. -/
def decode (dialect : Dialect) : Decoder BridgeConfig :=
  dialect.record "struct SunspecBridgeConfig"
    (BridgeConfig.mk
      <$> Fields.withDefault "zenoh" (BusConfig.decode dialect) .default
      <*> Fields.required "sunspec" (PollConfig.decode dialect)
      <*> Fields.withDefault "logging" (LoggingConfig.decode dialect) .default)

end BridgeConfig

end InverterBridge
