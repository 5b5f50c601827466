import InverterBridge.Json.Record
import InverterBridge.Json.Printer

/-!
# Settings of the log

The level is a word or a filter directive and is passed on as it is.
-/

namespace InverterBridge

/-- The form of log lines. -/
inductive LogFormat where
  | text
  | json
  deriving DecidableEq, Repr

namespace LogFormat

/-- The name of a format. -/
def name : LogFormat → String
  | .text => "text"
  | .json => "json"

/-- The formats by their names. -/
def alternatives : List (String × LogFormat) :=
  [("text", .text), ("json", .json)]

/-- Read a format. -/
def decode (dialect : Dialect) : Decoder LogFormat :=
  dialect.choice alternatives

end LogFormat

/-- The settings of the log. -/
structure LoggingConfig where
  level : String
  format : LogFormat
  deriving DecidableEq, Repr

namespace LoggingConfig

/-- Plain text from level `info` on. -/
def default : LoggingConfig :=
  ⟨"info", .text⟩

/-- The settings as a JSON value. -/
def toJson (config : LoggingConfig) : Json :=
  .object [("level", .text config.level), ("format", .text config.format.name)]

/-- Read the settings of the log; all of them may be left out. -/
def decode (dialect : Dialect) : Decoder LoggingConfig :=
  dialect.record "struct LoggingConfig"
    (LoggingConfig.mk
      <$> Fields.withDefault "level" Dialect.text default.level
      <*> Fields.withDefault "format" (LogFormat.decode dialect) .text)

end LoggingConfig

end InverterBridge
