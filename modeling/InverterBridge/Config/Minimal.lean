import InverterBridge.Config.Bus
import InverterBridge.Config.Logging

/-!
# A configuration without a device

A bridge that has no settings of its own needs to know its session, its log
and the root of its topics.
-/

namespace InverterBridge

/-- The configuration of a bridge without settings of its own. -/
structure MinimalConfig where
  bus : BusConfig
  logging : LoggingConfig
  topicRoot : String
  deriving DecidableEq, Repr

namespace MinimalConfig

/-- Read a configuration; the root of the topics has to be given. -/
def decode (dialect : Dialect) : Decoder MinimalConfig :=
  dialect.record "struct MinimalConfig"
    (MinimalConfig.mk
      <$> Fields.withDefault "zenoh" (BusConfig.decode dialect) .default
      <*> Fields.withDefault "logging" (LoggingConfig.decode dialect) .default
      <*> Fields.required "key_prefix" Dialect.text)

end MinimalConfig

end InverterBridge
