import InverterBridge.Config.Device
import InverterBridge.Modbus.Request

/-!
# Links

A link leads to a device over the network or over a serial line.  A `Wire`
describes the other side of a link: what comes of an attempt to open it, and of
a request over an open one.
-/

namespace InverterBridge

/-- Why a link does not open. -/
inductive LinkFailure where
  | timedOut
  /-- The host cannot be the name of a host. -/
  | unusableHost (message : String)
  /-- The network does not let the connection through. -/
  | refused (message : String)
  /-- The serial line cannot be opened. -/
  | serial (message : String)
  deriving DecidableEq, Repr

/-- The place of a device as it is shown in errors. -/
def ConnectionConfig.place : ConnectionConfig → String
  | .tcp host port => host ++ ":" ++ natText port.toNat
  | .rtu line => line.port

/-- The error of a link that does not open.  Only a network that is down may
recover. -/
def LinkFailure.error (connection : ConnectionConfig) : LinkFailure → GatewayError
  | .timedOut => .transient (.connection "connection timeout")
  | .unusableHost message => .fatal (.invalidAddress (connection.place ++ ": " ++ message))
  | .refused message => .transient (.connection message)
  | .serial message =>
      .fatal (.connection ("serial open failed on " ++ connection.place ++ ": " ++ message))

/-- The other side of a link, with a state of type `δ`. -/
structure Wire (δ : Type) where
  openLink : ConnectionConfig → δ → Except LinkFailure Unit × δ
  /-- Send a request to a unit over an open link. -/
  send : UInt8 → ReadRequest → δ → ReadReply × δ

end InverterBridge
