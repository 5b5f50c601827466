import InverterBridge.Queue.Outbox
import InverterBridge.Simulation.Sink

/-!
# Deliveries in virtual time

An outbox over a scripted sink and a clock that moves only when told to.
Between two instructions every drain task runs until it has to wait.
-/

namespace InverterBridge

/-- A publication under way: what is published, when it ends and how. -/
structure Flight where
  message : OutboundMessage
  due : Nat
  success : Bool
  deriving DecidableEq, Repr

/-- An outbox with its sink, its shutdown signal and its clock; publications
under way are kept by the topic of their queue. -/
structure Delivery where
  outbox : Outbox
  sink : ScriptedSink
  shutdown : Signal
  now : Nat
  flights : List (String × Flight)
  deriving DecidableEq, Repr

namespace Delivery

/-- A delivery at time zero. -/
def initial (outbox : Outbox) (connected : Bool) : Delivery where
  outbox := outbox
  sink := .ofConnected connected
  shutdown := .ofValue false
  now := 0
  flights := []

/-- What the drain tasks see. -/
def surroundings (delivery : Delivery) : Surroundings :=
  ⟨delivery.sink.connectivity, delivery.shutdown, delivery.now⟩

/-- Run the task of one lane until it has to wait.  The number bounds the
moves. -/
def runLane (around : Surroundings) :
    Nat → ScriptedSink → Lane → Option Flight → ScriptedSink × Lane × Option Flight
  | 0, sink, lane, flight => (sink, lane, flight)
  | moves + 1, sink, lane, some flight =>
      if flight.due ≤ around.now then
        let sink := if flight.success then sink.record flight.message else sink
        runLane around moves sink (lane.finish around flight.success) none
      else (sink, lane, some flight)
  | moves + 1, sink, lane, none =>
      match lane.step around with
      | none => (sink, lane, none)
      | some next =>
          match next.publishing? with
          | none => runLane around moves sink next none
          | some entry =>
              let (result, sink) := sink.begin entry.message.topic
              runLane around moves sink next
                (some ⟨entry.message, around.now + sink.delay, result == .ok⟩)

/-- More moves than the task of a lane can make before it has to wait: every
attempt takes a message or a scripted result. -/
def moveBound (sink : ScriptedSink) (lane : Lane) : Nat :=
  8 * (lane.queue.length + sink.scripted + 4)

/-- Run the task of every lane until all have to wait. -/
def runLanes (around : Surroundings) :
    ScriptedSink → List (String × Flight) → List Lane →
      ScriptedSink × List (String × Flight) × List Lane
  | sink, flights, [] => (sink, flights, [])
  | sink, flights, lane :: lanes =>
      let topic := lane.queue.topic
      let (sink, lane, flight) :=
        runLane around (moveBound sink lane) sink lane (flights.lookup topic)
      let others := flights.filter (·.1 != topic)
      let flights :=
        match flight with
        | none => others
        | some flight => (topic, flight) :: others
      let (sink, flights, lanes) := runLanes around sink flights lanes
      (sink, flights, lane :: lanes)

/-- Run everything that can run at this instant. -/
def settle (delivery : Delivery) : Delivery :=
  let (sink, flights, lanes) :=
    runLanes delivery.surroundings delivery.sink delivery.flights delivery.outbox.lanes
  { delivery with
    sink := sink, flights := flights, outbox := { delivery.outbox with lanes := lanes } }

/-- Change the outbox and run what can run. -/
def withOutbox (delivery : Delivery) (change : Outbox → Outbox) : Delivery :=
  { delivery with outbox := change delivery.outbox }.settle

/-- Change the sink and run what can run. -/
def withSink (delivery : Delivery) (change : ScriptedSink → ScriptedSink) : Delivery :=
  { delivery with sink := change delivery.sink }.settle

/-- Announce whether the sink is connected. -/
def announce (delivery : Delivery) (connected : Bool) : Delivery :=
  delivery.withSink fun sink =>
    { sink with connectivity := sink.connectivity.announce connected }

/-- Lose the source of the connection. -/
def closeConnectivity (delivery : Delivery) : Delivery :=
  delivery.withSink fun sink => { sink with connectivity := sink.connectivity.close }

/-- Request shutdown. -/
def requestShutdown (delivery : Delivery) : Delivery :=
  { delivery with shutdown := delivery.shutdown.announce true }.settle

/-- Lose the source of the shutdown signal. -/
def loseShutdown (delivery : Delivery) : Delivery :=
  { delivery with shutdown := delivery.shutdown.close }.settle

/-- The instants at which something is due. -/
def dues (delivery : Delivery) : List Nat :=
  delivery.flights.map (fun entry => entry.2.due) ++
    delivery.outbox.lanes.filterMap fun lane =>
      match lane.drain with
      | some ⟨.awaitingRetry due, _⟩ => some due
      | _ => none

/-- The next instant after now and up to `target` at which something is due,
or else `target`. -/
def nextInstant (delivery : Delivery) (target : Nat) : Nat :=
  (delivery.dues.filter (delivery.now < ·)).foldl min target

/-- Move the clock to `target`, from one instant at which something is due to
the next.  The number bounds the instants. -/
def advanceTo (target : Nat) : Nat → Delivery → Delivery
  | 0, delivery => delivery
  | instants + 1, delivery =>
      let next := { delivery with now := delivery.nextInstant target }.settle
      if next.now < target then advanceTo target instants next else next

/-- Move the clock. -/
def advance (delivery : Delivery) (milliseconds : Nat) : Delivery :=
  advanceTo (delivery.now + milliseconds) (milliseconds + 1) delivery

/-- Take the deliveries since the last time, oldest first. -/
def takeDelivered (delivery : Delivery) : List OutboundMessage × Delivery :=
  let (messages, sink) := delivery.sink.takeDelivered
  (messages, { delivery with sink := sink })

end Delivery

end InverterBridge
