import InverterBridge.Poller.Basic
import InverterBridge.Simulation.RegisterServer

/-!
# Supervision in virtual time

A gateway over a register server, with a clock that moves only while an event
of the link is waited for.
-/

namespace InverterBridge

/-- A gateway and the events of its link that have not been taken. -/
structure Supervision where
  gateway : ModbusGateway RegisterServer
  now : Nat
  events : List GatewayEvent

namespace Supervision

/-- A gateway before its first event. -/
def initial (gateway : ModbusGateway RegisterServer) : Supervision :=
  ⟨gateway, 0, []⟩

/-- Connect. -/
def connect (supervision : Supervision) : Supervision :=
  let (events, gateway) := supervision.gateway.connect
  { supervision with gateway := gateway, events := supervision.events ++ events }

/-- Run the supervisor until it has to wait.  The number bounds the moves. -/
def settleWithin : Nat → Supervision → Supervision
  | 0, supervision => supervision
  | moves + 1, supervision =>
      match supervision.gateway.supervise RegisterServer.wire supervision.now with
      | none => supervision
      | some (events, gateway) =>
          settleWithin moves
            { supervision with gateway := gateway, events := supervision.events ++ events }

/-- Run the supervisor until it has to wait: after a pause it makes four moves at
most. -/
def settle (supervision : Supervision) : Supervision :=
  settleWithin 4 supervision

/-- Move the clock to the end of a pause, if it comes soon enough, and to the
limit otherwise. -/
def skip (limit : Nat) (supervision : Supervision) : Supervision :=
  let target := supervision.now + limit
  match supervision.gateway.supervisor.due? with
  | some due => { supervision with now := min due target }
  | none => { supervision with now := target }

/-- Wait for the next event, up to a number of milliseconds. -/
def next? (limit : Nat) (supervision : Supervision) : Option GatewayEvent × Supervision :=
  let settled := supervision.settle
  let arrived := if settled.events.isEmpty then (settled.skip limit).settle else settled
  match arrived.events with
  | [] => (none, arrived)
  | event :: events => (some event, { arrived with events := events })

/-- How long an event is waited for. -/
def patience : Nat := 5000

end Supervision

/-- A poller over a supervised gateway whose events are held back. -/
structure SupervisedPoller where
  poller : Poller (ModbusGateway RegisterServer)
  now : Nat
  events : List GatewayEvent

namespace SupervisedPoller

/-- Hold back what has arrived in the inbox. -/
def hold (supervised : SupervisedPoller) : SupervisedPoller :=
  { supervised with
    poller := { supervised.poller with inbox := [] }
    events := supervised.events ++ supervised.poller.inbox }

/-- Wait for the next event of the link. -/
def next? (supervised : SupervisedPoller) : Option GatewayEvent × SupervisedPoller :=
  let (event, supervision) :=
    (Supervision.mk supervised.poller.gateway supervised.now supervised.events).next?
      Supervision.patience
  (event,
    { poller := { supervised.poller with gateway := supervision.gateway }
      now := supervision.now
      events := supervision.events })

end SupervisedPoller

end InverterBridge
