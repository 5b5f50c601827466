import InverterBridge.Gateway.Duration

/-!
# Gateway errors

An error of a device gateway says what went wrong and how to recover from it.
The two are independent: any cause may come with any severity.
-/

namespace InverterBridge

/-- How to recover from an error. -/
inductive Severity where
  /-- The link may recover: reconnect and keep polling. -/
  | transient
  /-- Nothing helps: stop polling. -/
  | fatal
  /-- The gateway is shutting down: do nothing. -/
  | shutdown
  deriving DecidableEq, Repr

namespace Severity

/-- The name of a severity. -/
def name : Severity → String
  | .transient => "transient"
  | .fatal => "fatal"
  | .shutdown => "shutdown"

/-- The rank of a severity; a fatal error outranks a shutdown, which outranks a
transient error. -/
def rank : Severity → Nat
  | .transient => 0
  | .shutdown => 1
  | .fatal => 2

end Severity

/-- What went wrong. -/
inductive GatewayCause where
  | notConnected
  | connection (message : String)
  | invalidAddress (message : String)
  | read (address count : Nat) (message : String)
  | exception (address : Nat) (code : String)
  | timeout (limit : Duration)
  | invalidDevice (message : String)
  | notImplemented (point : String)
  | notFetched (point : String)
  | outOfRange (what : String)
  | shuttingDown
  deriving DecidableEq, Repr

namespace GatewayCause

/-- The cause in words. -/
def message : GatewayCause → String
  | .notConnected => "not connected"
  | .connection message => "connection failed: " ++ message
  | .invalidAddress message => "invalid device address: " ++ message
  | .read address count message =>
      "read of " ++ natText count ++ " registers at " ++ natText address ++
        " failed: " ++ message
  | .exception address code => "Modbus exception at " ++ natText address ++ ": " ++ code
  | .timeout limit => "read timed out after " ++ limit.text
  | .invalidDevice message => "device is not SunSpec compatible: " ++ message
  | .notImplemented point => point ++ " is not implemented by the device"
  | .notFetched point => point ++ " has not been fetched from the device"
  | .outOfRange what => what ++ " is out of range for this device"
  | .shuttingDown => "gateway is shutting down"

end GatewayCause

/-- An error of a gateway. -/
structure GatewayError where
  severity : Severity
  cause : GatewayCause
  deriving DecidableEq, Repr

namespace GatewayError

/-- An error from which the link may recover. -/
def transient (cause : GatewayCause) : GatewayError :=
  ⟨.transient, cause⟩

/-- An error from which nothing helps. -/
def fatal (cause : GatewayCause) : GatewayError :=
  ⟨.fatal, cause⟩

/-- The error of every operation after shutdown. -/
def shuttingDown : GatewayError :=
  ⟨.shutdown, .shuttingDown⟩

/-- A point that the device marks as not implemented. -/
def notImplemented (point : String) : GatewayError :=
  transient (.notImplemented point)

/-- A point of which no register has been read. -/
def notFetched (point : String) : GatewayError :=
  transient (.notFetched point)

/-- A register map that is not that of a supported device. -/
def invalidDevice (message : String) : GatewayError :=
  transient (.invalidDevice message)

/-- Whether polling has to stop. -/
def isFatal (error : GatewayError) : Bool :=
  error.severity == .fatal

/-- Whether the gateway is shutting down. -/
def isShutdown (error : GatewayError) : Bool :=
  error.severity == .shutdown

/-- The error in words; the severity does not show. -/
def message (error : GatewayError) : String :=
  error.cause.message

end GatewayError

/-- The result of asking a gateway. -/
abbrev GatewayResult (α : Type) := Except GatewayError α

end InverterBridge
