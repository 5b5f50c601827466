import InverterBridge.Config.Bus
import InverterBridge.Failure
import InverterBridge.Queue.Basic
import InverterBridge.Signal
import InverterBridge.Sink.Key

/-!
# The sink over the bus

A client of the bus is connected while it can reach a router.  Peers and
routers have nothing to lose and are always connected.  A monitor looks for
routers at intervals and announces what it finds, also when nothing has
changed.
-/

namespace InverterBridge

/-- The sink over a bus session. -/
structure BusSink where
  mode : BusMode
  connectivity : Signal
  deriving DecidableEq, Repr

/-- The mode as it is shown in traces. -/
def BusMode.trace : BusMode → String
  | .peer => "Peer"
  | .client => "Client"
  | .router => "Router"

namespace BusSink

/-- The name of the sink. -/
def name : String := "zenoh"

/-- A sink over a new session. -/
def ofMode (mode : BusMode) : BusSink :=
  ⟨mode, .ofValue (mode != .client)⟩

/-- Whether the sink counts as connected. -/
def isConnected (sink : BusSink) : Bool :=
  sink.connectivity.value

/-- The sink as it is shown in traces. -/
def trace (sink : BusSink) : String :=
  "ZenohSink \x7b mode: " ++ sink.mode.trace ++ ", connected: " ++
    (if sink.isConnected then "true" else "false") ++ " \x7d"

/-- Whether a message goes out: the sink has to be connected, and the topic has
to be a key expression. -/
def accept (sink : BusSink) (message : OutboundMessage) : Except BridgeError Unit :=
  if sink.isConnected then
    if isKey message.topic then .ok ()
    else .error (.publish message.topic "not a key expression")
  else .error (.notConnected name)

/-- Announce how many routers can be reached. -/
def observe (routers : Nat) (sink : BusSink) : BusSink :=
  { sink with connectivity := sink.connectivity.announce (0 < routers) }

end BusSink

/-- Where a monitor is. -/
inductive Monitor where
  /-- About to look for routers. -/
  | looking
  /-- Waiting for the next look. -/
  | resting (due : Nat)
  | ended
  deriving DecidableEq, Repr

namespace Monitor

/-- The milliseconds between two looks. -/
def interval : Nat := 2000

/-- A monitor for a sink; only a client needs one. -/
def start? (sink : BusSink) : Option Monitor :=
  if sink.mode = .client then some .looking else none

/-- One move of a monitor, none while it has to wait. -/
def step (routers now : Nat) (shutdown : Signal) (sink : BusSink) :
    Monitor → Option (BusSink × Monitor)
  | .looking => some (sink.observe routers, .resting (now + interval))
  | .resting due =>
      if shutdown.released then some (sink, .ended)
      else if due ≤ now then some (sink, .looking)
      else none
  | .ended => none

/-- Whether a monitor has ended. -/
def hasEnded (monitor : Monitor) : Bool :=
  monitor == .ended

end Monitor

end InverterBridge
