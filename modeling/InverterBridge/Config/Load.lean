import InverterBridge.Config.Check
import InverterBridge.Config.Minimal
import InverterBridge.Failure
import InverterBridge.Json.Read

/-!
# Loading a configuration

A configuration is a relaxed text, usually in a file.  `Configuration` is what
the bridges ask of their configurations: how to read them, and what to check
once they are read.
-/

namespace InverterBridge

/-- A type of configurations. -/
class Configuration (α : Type) where
  decode : Dialect → Decoder α
  bus : α → BusConfig
  logging : α → LoggingConfig
  topicRoot : α → String
  queue : α → QueueConfig := fun _ => .default
  check : α → Except ConfigFault Unit := fun _ => .ok ()

instance : Configuration BridgeConfig where
  decode := BridgeConfig.decode
  bus := BridgeConfig.bus
  logging := BridgeConfig.logging
  topicRoot config := config.poll.topicRoot
  queue config := config.poll.queue
  check config := BridgeConfig.checkPoll config.poll

instance : Configuration MinimalConfig where
  decode := MinimalConfig.decode
  bus := MinimalConfig.bus
  logging := MinimalConfig.logging
  topicRoot := MinimalConfig.topicRoot

/-- A decoding error of a configuration text in words. -/
def configMessage (cause : DecodeError) : String :=
  cause.message .configuration

namespace Configuration

variable {α : Type} [Configuration α]

/-- Check a configuration, the queues first. -/
def validate (config : α) : Except ConfigFault Unit := do
  (queue config).check
  check config

/-- Read a configuration and check it. -/
def parse (text : String) : Except BridgeError α :=
  match readRelaxed decode text with
  | .error .breakdown => .error .breakdown
  | .error cause => .error (.configParse (configMessage cause))
  | .ok config =>
      match validate config with
      | .error fault => .error (.configValidation fault.message)
      | .ok _ => .ok config

end Configuration

/-- The failure of reading what is named by `subject`. -/
def parseFailure (subject : String) : DecodeError → SetupError
  | .breakdown => .breakdown
  | cause => .config ("Failed to parse " ++ subject ++ ": " ++ configMessage cause)

/-- Read any part of a configuration, without checking it. -/
def parseConfig {α : Type} (decode : Dialect → Decoder α) (text : String) :
    Except SetupError α :=
  (readRelaxed decode text).mapError (parseFailure "config")

/-! ## Files -/

/-- What stands at a path. -/
inductive FileContent where
  | missing
  | directory
  /-- Something else that cannot be read, and why. -/
  | unreadable (reason : String)
  | bytes (content : ByteArray)

/-- Why a file cannot be read as text. -/
inductive FileFault where
  | notFound
  | isDirectory
  | unreadable (reason : String)
  | notText
  deriving DecidableEq, Repr

namespace FileFault

/-- The fault in words. -/
def message : FileFault → String
  | .notFound => "No such file or directory (os error 2)"
  | .isDirectory => "Is a directory (os error 21)"
  | .unreadable reason => reason
  | .notText => "stream did not contain valid UTF-8"

end FileFault

namespace FileContent

/-- The text of a file. -/
def text : FileContent → Except FileFault String
  | .missing => .error .notFound
  | .directory => .error .isDirectory
  | .unreadable reason => .error (.unreadable reason)
  | .bytes content =>
      match String.fromUTF8? content with
      | some text => .ok text
      | none => .error .notText

/-- Whether anything stands at the path. -/
def found : FileContent → Bool
  | .missing => false
  | _ => true

end FileContent

/-- Load a configuration from the content of a file and check it. -/
def Configuration.load {α : Type} [Configuration α] (path : String) (content : FileContent) :
    Except BridgeError α :=
  if content.found then
    match content.text with
    | .error fault => .error (.file fault.message)
    | .ok text => parse text
  else
    .error (.configNotFound path)

/-- Load any part of a configuration from the content of a file, without
checking it. -/
def loadConfig {α : Type} (decode : Dialect → Decoder α) (path : String)
    (content : FileContent) : Except SetupError α :=
  match content.text with
  | .error fault =>
      .error (.config ("Failed to read config file '" ++ path ++ "': " ++ fault.message))
  | .ok text =>
      (readRelaxed decode text).mapError (parseFailure ("config file '" ++ path ++ "'"))

end InverterBridge
