/-!
# Failures

`SetupError` is what the shared parts of a bridge report: configuration, bus
session, documents and names.  `BridgeError` is what a bridge as a whole
reports; every setup error has a place in it.
-/

namespace InverterBridge

/-- A failure of the shared parts. -/
inductive SetupError where
  /-- A bad value in the configuration, or a file that cannot be used. -/
  | config (message : String)
  /-- A failure of the bus session. -/
  | session (message : String)
  /-- A document that cannot be encoded or decoded. -/
  | document (message : String)
  /-- A failure of the file system. -/
  | file (message : String)
  /-- A name that cannot be part of a topic. -/
  | key (message : String)
  /-- A configuration whose reader breaks down; nothing is reported. -/
  | breakdown
  deriving DecidableEq, Repr

namespace SetupError

/-- The failure in words. -/
def message : SetupError → String
  | .config message => "Config: " ++ message
  | .session message => "Zenoh: " ++ message
  | .document message => "Document encoding: " ++ message
  | .file message => "I/O: " ++ message
  | .key message => "Invalid key expression: " ++ message
  | .breakdown => ""

end SetupError

/-- A failure of a bridge: at startup, in its configuration or in delivery. -/
inductive BridgeError where
  | startup (message : String)
  | configNotFound (path : String)
  /-- The configuration is not well formed or does not have the right shape. -/
  | configParse (message : String)
  /-- The configuration has the right shape, but a value is out of range. -/
  | configValidation (message : String)
  | connection (message : String)
  | session (message : String)
  | serialization (message : String)
  /-- A message could not be delivered to its topic. -/
  | publish (topic message : String)
  /-- The sink has no route to the bus at the moment. -/
  | notConnected (sink : String)
  /-- A background task could not be started or has failed. -/
  | worker (message : String)
  | file (message : String)
  /-- A configuration whose reader breaks down; nothing is reported. -/
  | breakdown
  deriving DecidableEq, Repr

namespace BridgeError

/-- The failure in words. -/
def message : BridgeError → String
  | .startup message => "Startup failed: " ++ message
  | .configNotFound path => "Configuration file not found: " ++ path
  | .configParse message => "Cannot parse configuration: " ++ message
  | .configValidation message => "Invalid configuration: " ++ message
  | .connection message => "Cannot open Zenoh session: " ++ message
  | .session message => "Zenoh session error: " ++ message
  | .serialization message => "Cannot encode document: " ++ message
  | .publish topic message => "Delivery to " ++ topic ++ " failed: " ++ message
  | .notConnected sink => "Sink '" ++ sink ++ "' is not connected"
  | .worker message => "Worker error: " ++ message
  | .file message => "I/O error: " ++ message
  | .breakdown => ""

/-- Whether the failure lies in the configuration and not in the running bridge. -/
def isConfig : BridgeError → Bool
  | .configNotFound _ => true
  | .configParse _ => true
  | .configValidation _ => true
  | _ => false

end BridgeError

/-- The place of a setup error among the failures of a bridge. -/
def SetupError.toBridgeError : SetupError → BridgeError
  | .config message => .startup message
  | .session message => .session message
  | .document message => .serialization message
  | .file message => .file message
  | .key message => .configValidation message
  | .breakdown => .breakdown

end InverterBridge
