import InverterBridge.Gateway.Question

/-!
# A scripted gateway

A gateway for trying out pollers: its answers are laid down in advance, and
what it is asked to do is counted.
-/

namespace InverterBridge

/-- How often a gateway was asked to do something. -/
structure GatewayCalls where
  validations : Nat
  deviceFetches : Nat
  registerFetches : Nat
  eventFetches : Nat
  reconnects : Nat
  shutdowns : Nat
  deriving DecidableEq, Repr

/-- No calls. -/
def GatewayCalls.zero : GatewayCalls :=
  ⟨0, 0, 0, 0, 0, 0⟩

/-- A gateway with scripted answers.

Checks of the device take their results from a list and succeed once it is
used up.  Events can be sent as soon as the gateway has been connected. -/
structure ScriptedGateway where
  connectEvents : List GatewayEvent
  autoReconnect : Bool
  validations : List (GatewayResult Unit)
  answers : (question : Question) → GatewayResult question.Answer
  /-- How long the measurements take to read, in milliseconds. -/
  fetchDelay : Nat
  connected : Bool
  calls : GatewayCalls

namespace ScriptedGateway

/-- Connect: the laid down events are sent. -/
def connect (gateway : ScriptedGateway) : List GatewayEvent × ScriptedGateway :=
  (gateway.connectEvents, { gateway with connected := true })

/-- Reconnect: a new link comes up at once where that is laid down. -/
def reconnect (gateway : ScriptedGateway) : List GatewayEvent × ScriptedGateway :=
  (if gateway.autoReconnect && gateway.connected then [.connected] else [],
    { gateway with calls := { gateway.calls with reconnects := gateway.calls.reconnects + 1 } })

/-- Shut down; this is only counted. -/
def shutdown (gateway : ScriptedGateway) : ScriptedGateway :=
  { gateway with calls := { gateway.calls with shutdowns := gateway.calls.shutdowns + 1 } }

/-- Check the device. -/
def validate (gateway : ScriptedGateway) : GatewayResult Unit × ScriptedGateway :=
  let counted :=
    { gateway with calls := { gateway.calls with validations := gateway.calls.validations + 1 } }
  match gateway.validations with
  | [] => (.ok (), counted)
  | result :: results => (result, { counted with validations := results })

/-- Answer a question. -/
def ask : (question : Question) → ScriptedGateway →
    GatewayResult question.Answer × ScriptedGateway
  | .validate, gateway => gateway.validate
  | .fetchDeviceInfo, gateway =>
      (gateway.answers .fetchDeviceInfo,
        { gateway with
          calls := { gateway.calls with deviceFetches := gateway.calls.deviceFetches + 1 } })
  | .fetchRegisters, gateway =>
      (gateway.answers .fetchRegisters,
        { gateway with
          calls := { gateway.calls with registerFetches := gateway.calls.registerFetches + 1 } })
  | .fetchEventRegisters, gateway =>
      (gateway.answers .fetchEventRegisters,
        { gateway with
          calls := { gateway.calls with eventFetches := gateway.calls.eventFetches + 1 } })
  | question, gateway => (gateway.answers question, gateway)

/-- The scripted gateway as a gateway. -/
def gateway : Gateway ScriptedGateway where
  connect := connect
  reconnect := reconnect
  shutdown := shutdown
  ask := ask

/-- How long a question takes. -/
def latency : Question → ScriptedGateway → Nat
  | .fetchRegisters, gateway => gateway.fetchDelay
  | _, _ => 0

end ScriptedGateway

end InverterBridge
