import InverterBridge.Channel
import InverterBridge.Document.Availability
import InverterBridge.Document.Identity
import InverterBridge.Document.Values
import InverterBridge.Poller.Reading

/-!
# Polling a device

A poller owns one device.  Events of the gateway move it between its states,
and a tick reads the device, commits the new snapshots and hands their
documents to the subscribers.  Each channel is updated as a whole or not at
all, and whenever the poller goes online or offline the availability of the
device is dispatched.

The inputs of a device are numbered when their measurements are written down,
and numbering 255 of them overflows.  A tick breaks down there: it has no
outcome, and what is left of it is not done.
-/

namespace InverterBridge

/-- What a poller knows about the link. -/
inductive ConnectionState where
  | disconnected
  | connecting
  | connected
  /-- Polling has ended. -/
  | shutdown
  deriving DecidableEq, Repr

namespace ConnectionState

/-- The name of a state. -/
def name : ConnectionState → String
  | .disconnected => "disconnected"
  | .connecting => "connecting"
  | .connected => "connected"
  | .shutdown => "shutdown"

/-- The state as it is shown in traces. -/
def trace : ConnectionState → String
  | .disconnected => "Disconnected"
  | .connecting => "Connecting"
  | .connected => "Connected"
  | .shutdown => "Shutdown"

/-- Whether the device counts as online. -/
def isOnline (state : ConnectionState) : Bool :=
  state == .connected

end ConnectionState

/-- The latest snapshot of a channel and its document. -/
structure Committed (α : Type) where
  snapshot : α
  document : String
  deriving DecidableEq, Repr

/-- A document that was handed to a subscriber, and the state at that time. -/
structure Dispatch where
  channel : Channel
  subscriber : String
  document : String
  state : ConnectionState
  deriving DecidableEq, Repr

/-- Whether to go on polling. -/
inductive Flow where
  | proceed
  | stop (error : GatewayError)
  deriving DecidableEq, Repr

/-- What came of a tick. -/
structure TickOutcome where
  /-- Whether the device was read at all. -/
  ran : Bool
  deviceUpdated : Bool
  valuesUpdated : Bool
  eventsUpdated : Bool
  /-- A failure to read the identity that is only tried again. -/
  deviceError : Option UpdateError
  failures : List UpdateError
  deriving DecidableEq, Repr

namespace TickOutcome

/-- The outcome of a tick that does nothing. -/
def skipped : TickOutcome :=
  ⟨false, false, false, false, none, []⟩

/-- The outcome of a tick that has just begun. -/
def begun : TickOutcome :=
  { skipped with ran := true }

/-- The graver of two severities. -/
def graver (first second : Severity) : Severity :=
  if first.rank ≤ second.rank then second else first

/-- The gravest severity among the failures. -/
def severity (outcome : TickOutcome) : Option Severity :=
  outcome.failures.foldl
    (fun worst failure =>
      match worst with
      | none => some failure.severity
      | some severity => some (graver severity failure.severity))
    none

/-- The first fatal error of the gateway. -/
def fatal? (outcome : TickOutcome) : Option GatewayError :=
  (outcome.failures.filterMap UpdateError.gatewayError?).find? GatewayError.isFatal

end TickOutcome

/-- A poller over a gateway whose state is of type `γ`.

`dispatched` records every document handed to a subscriber, oldest first. -/
structure Poller (γ : Type) where
  device : String
  gateway : γ
  state : ConnectionState
  inbox : List GatewayEvent
  /-- Whether the identity has been read since the last loss of the link. -/
  identified : Bool
  values : Option (Committed ValueSnapshot)
  events : Option (Committed EventSnapshot)
  identity : Option (Committed DeviceSnapshot)
  availability : Option String
  subscribers : List (Channel × String)
  dispatched : List Dispatch

namespace Poller

variable {γ : Type}

/-- A poller that has not been started. -/
def initial (device : String) (state : γ) : Poller γ where
  device := device
  gateway := state
  state := .disconnected
  inbox := []
  identified := false
  values := none
  events := none
  identity := none
  availability := none
  subscribers := []
  dispatched := []

/-- The poller as it is shown in traces. -/
def trace (poller : Poller γ) : String :=
  "PollerHandle \x7b state: " ++ poller.state.trace ++ " \x7d"

/-- Subscribe to a channel, in place of an earlier subscriber. -/
def subscribe (poller : Poller γ) (channel : Channel) (subscriber : String) : Poller γ :=
  { poller with
    subscribers := (channel, subscriber) :: poller.subscribers.filter (·.1 != channel) }

/-- Hand a document to the subscriber of its channel, if there is one. -/
def dispatch (poller : Poller γ) (channel : Channel) (document : String) : Poller γ :=
  match poller.subscribers.lookup channel with
  | none => poller
  | some subscriber =>
      { poller with
        dispatched := poller.dispatched ++ [⟨channel, subscriber, document, poller.state⟩] }

/-- Put events of the gateway into the inbox. -/
def receive (poller : Poller γ) (events : List GatewayEvent) : Poller γ :=
  { poller with inbox := poller.inbox ++ events }

/-! ## States -/

/-- Dispatch whether the device is online. -/
def dispatchAvailability (time : Int) (online : Bool) (poller : Poller γ) : Poller γ :=
  let document := (AvailabilityDocument.mk (.ofOnline online) time).text
  { poller with availability := some document }.dispatch .availability document

/-- Enter a state; going online or offline is dispatched. -/
def setState (time : Int) (state : ConnectionState) (poller : Poller γ) : Poller γ :=
  let entered := { poller with state := state }
  if poller.state.isOnline = state.isOnline then entered
  else entered.dispatchAvailability time state.isOnline

/-- Ask the gateway for a new link. -/
def requestReconnect (gateway : Gateway γ) (poller : Poller γ) : Poller γ :=
  let (events, state) := gateway.reconnect poller.gateway
  { poller with gateway := state }.receive events

/-- Begin to connect. -/
def start (gateway : Gateway γ) (time : Int) (poller : Poller γ) : Poller γ :=
  let connecting := poller.setState time .connecting
  let (events, state) := gateway.connect connecting.gateway
  { connecting with gateway := state }.receive events

/-! ## Events -/

/-- The link is up: check the device. -/
def handleConnected (gateway : Gateway γ) (time : Int) (poller : Poller γ) :
    Poller γ × Flow :=
  let (answer, state) := gateway.ask .validate poller.gateway
  let poller := { poller with gateway := state }
  match answer with
  | .ok _ => (poller.setState time .connected, .proceed)
  | .error error =>
      match error.severity with
      | .shutdown => (poller, .proceed)
      | .fatal => (poller, .stop error)
      | .transient =>
          ((poller.setState time .disconnected).requestReconnect gateway, .proceed)

/-- The gateway reports an error. -/
def handleError (gateway : Gateway γ) (time : Int) (error : GatewayError)
    (poller : Poller γ) : Poller γ × Flow :=
  match error.severity with
  | .shutdown => (poller, .proceed)
  | .fatal => (poller, .stop error)
  | .transient =>
      (((poller.setState time .disconnected).requestReconnect gateway).setState time .connecting,
        .proceed)

/-- Apply an event; after the end of polling events do nothing. -/
def handle (gateway : Gateway γ) (time : Int) (event : GatewayEvent) (poller : Poller γ) :
    Poller γ × Flow :=
  if poller.state = .shutdown then (poller, .proceed)
  else
    match event with
    | .connected => poller.handleConnected gateway time
    | .disconnected _ =>
        ({ poller with identified := false }.setState time .disconnected, .proceed)
    | .error error => poller.handleError gateway time error

/-- Apply the events of the inbox in order, those that arrive meanwhile as
well.  The number bounds the events. -/
def handlePending (gateway : Gateway γ) (time : Int) : Nat → Poller γ → Poller γ × Flow
  | 0, poller => (poller, .proceed)
  | events + 1, poller =>
      match poller.inbox with
      | [] => (poller, .proceed)
      | event :: rest =>
          match { poller with inbox := rest }.handle gateway time event with
          | (poller, .proceed) => handlePending gateway time events poller
          | (poller, .stop error) => (poller, .stop error)

/-! ## Ticks -/

/-- Run a survey. -/
def ask {α : Type} (gateway : Gateway γ) (survey : Survey α) (poller : Poller γ) :
    Except UpdateError α × Poller γ :=
  let (result, state) := survey.run gateway poller.gateway
  (result, { poller with gateway := state })

/-- Note a failed update: the device counts as offline. -/
def recordFailure (time : Int) (error : UpdateError) (outcome : TickOutcome)
    (poller : Poller γ) : TickOutcome × Poller γ :=
  ({ outcome with failures := outcome.failures ++ [error] },
    poller.setState time .disconnected)

/-- Read the identity of the device unless it is known. -/
def tickIdentity (gateway : Gateway γ) (time : Int) (outcome : TickOutcome)
    (poller : Poller γ) : TickOutcome × Poller γ :=
  if poller.identified then (outcome, poller)
  else
    match poller.ask gateway DeviceSnapshot.survey with
    | (.ok snapshot, poller) =>
        let document := (DeviceDocument.ofSnapshot snapshot).text
        ({ outcome with deviceUpdated := true },
          { poller with identified := true, identity := some ⟨snapshot, document⟩ }.dispatch
            .device document)
    | (.error error, poller) =>
        match error.severity with
        | .transient => ({ outcome with deviceError := some error }, poller)
        | _ => poller.recordFailure time error outcome

/-- Read the measurements.  There is no outcome if the tick breaks down: the
device has been read, and nothing has come of it. -/
def tickValues (gateway : Gateway γ) (time : Int) (outcome : TickOutcome)
    (poller : Poller γ) : Option TickOutcome × Poller γ :=
  match poller.ask gateway (ValueSnapshot.survey time) with
  | (.error error, poller) =>
      let (outcome, poller) := poller.recordFailure time error outcome
      (some outcome, poller)
  | (.ok snapshot, poller) =>
      match ValuesDocument.ofSnapshot? snapshot with
      | none => (none, poller)
      | some document =>
          (some { outcome with valuesUpdated := true },
            { poller with values := some ⟨snapshot, document.text⟩ }.dispatch .values
              document.text)

/-- Read the operating state and the events. -/
def tickEvents (gateway : Gateway γ) (time : Int) (outcome : TickOutcome)
    (poller : Poller γ) : TickOutcome × Poller γ :=
  match poller.ask gateway EventSnapshot.survey with
  | (.error error, poller) => poller.recordFailure time error outcome
  | (.ok snapshot, poller) =>
      let document := (EventsDocument.ofSnapshot snapshot).text
      ({ outcome with eventsUpdated := true },
        { poller with events := some ⟨snapshot, document⟩ }.dispatch .events document)

/-- Read the device and dispatch what was read; only a connected device is read.
There is no outcome if the tick breaks down. -/
def tick (gateway : Gateway γ) (time : Int) (poller : Poller γ) :
    Option TickOutcome × Poller γ :=
  if poller.state = .connected then
    let (outcome, poller) := poller.tickIdentity gateway time .begun
    match poller.tickValues gateway time outcome with
    | (none, poller) => (none, poller)
    | (some outcome, poller) =>
        let (outcome, poller) := poller.tickEvents gateway time outcome
        (some outcome, poller)
  else (some .skipped, poller)

/-- Recover after a tick: stop on a fatal failure, reconnect if all failures
are transient. -/
def afterTick (gateway : Gateway γ) (time : Int) (outcome : TickOutcome)
    (poller : Poller γ) : Poller γ × Flow :=
  match outcome.fatal? with
  | some error => (poller, .stop error)
  | none =>
      match outcome.severity with
      | some .transient =>
          ((poller.requestReconnect gateway).setState time .connecting, .proceed)
      | _ => (poller, .proceed)

/-- End polling: the last document says offline, and the gateway is shut down. -/
def finish (gateway : Gateway γ) (time : Int) (poller : Poller γ) : Poller γ :=
  let ended := poller.setState time .shutdown
  let ended := if poller.state.isOnline then ended else ended.dispatchAvailability time false
  { ended with gateway := gateway.shutdown ended.gateway }

end Poller

end InverterBridge
