import InverterBridge.Sink.Bus

/-!
# A sink with a listener

A bus session within one process: what the sink publishes below a root reaches
a listener of the same bus.
-/

namespace InverterBridge

/-- A sink with its monitor and a listener; time does not pass. -/
structure Loopback where
  sink : BusSink
  routers : Nat
  monitor : Option Monitor
  shutdown : Signal
  root : String
  /-- What the listener has not taken yet, oldest first. -/
  heard : List OutboundMessage
  deriving DecidableEq, Repr

namespace Loopback

/-- A session with a number of routers in reach and a listener below a root. -/
def initial (mode : BusMode) (routers : Nat) (root : String) : Loopback where
  sink := .ofMode mode
  routers := routers
  monitor := none
  shutdown := .ofValue false
  root := root
  heard := []

/-- Run the monitor until it has to wait.  The number bounds the moves. -/
def settleWithin : Nat → Loopback → Loopback
  | 0, loopback => loopback
  | moves + 1, loopback =>
      match loopback.monitor.bind
          (Monitor.step loopback.routers 0 loopback.shutdown loopback.sink) with
      | none => loopback
      | some (sink, monitor) =>
          settleWithin moves { loopback with sink := sink, monitor := some monitor }

/-- Run the monitor until it has to wait: it looks once, and may then end. -/
def settle (loopback : Loopback) : Loopback :=
  settleWithin 3 loopback

/-- Start a monitor, if the sink needs one. -/
def startMonitor (loopback : Loopback) : Bool × Loopback :=
  match Monitor.start? loopback.sink with
  | none => (false, loopback)
  | some monitor => (true, { loopback with monitor := some monitor }.settle)

/-- Publish a message. -/
def publish (message : OutboundMessage) (loopback : Loopback) :
    Except BridgeError Unit × Loopback :=
  match loopback.sink.accept message with
  | .error error => (.error error, loopback)
  | .ok _ =>
      (.ok (),
        if liesBelow loopback.root message.topic then
          { loopback with heard := loopback.heard ++ [message] }
        else loopback)

/-- Take the next message that was heard. -/
def receive (loopback : Loopback) : Option OutboundMessage × Loopback :=
  match loopback.heard with
  | [] => (none, loopback)
  | message :: rest => (some message, { loopback with heard := rest })

/-- Request shutdown; tell whether the monitor ends, if there is one. -/
def requestShutdown (loopback : Loopback) : Option Bool × Loopback :=
  let ended := { loopback with shutdown := loopback.shutdown.announce true }.settle
  (ended.monitor.map Monitor.hasEnded, { ended with monitor := none })

end Loopback

end InverterBridge
