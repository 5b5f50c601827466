import InverterBridge.Config.Check
import InverterBridge.Failure
import InverterBridge.Queue.Drain
import InverterBridge.Text.Invisible

/-!
# The outbox

An outbox has a queue and a drain task for every topic that has been used.  All
of them share one sink and one shutdown signal, and a message goes to the queue
of its own topic.
-/

namespace InverterBridge

/-- An outbox; its lanes are in the order of their first use. -/
structure Outbox where
  sink : String
  config : QueueConfig
  lanes : List Lane
  deriving DecidableEq, Repr

namespace Outbox

/-- What is reported where nothing can run the drain tasks. -/
def noRuntime : BridgeError :=
  .worker "Outbox requires a tokio runtime"

/-- An outbox without destinations.

Drain tasks run in the background, so there has to be something that runs them. -/
def create (sink : String) (config : QueueConfig) (runtime : Bool) :
    Except BridgeError Outbox :=
  match config.check with
  | .error fault => .error (.configValidation fault.message)
  | .ok _ => if runtime then .ok ⟨sink, config, []⟩ else .error noRuntime

/-- The lane of a topic. -/
def lane? (outbox : Outbox) (topic : String) : Option Lane :=
  outbox.lanes.find? (·.queue.topic == topic)

/-- A new lane for a topic, with its task. -/
def newLane (outbox : Outbox) (topic : String) : Lane where
  queue :=
    .empty topic outbox.config.capacity.toNat outbox.config.retryMilliseconds.toNat
  drain := some .initial

/-- The outbox with a lane for a topic. -/
def destination (outbox : Outbox) (topic : String) : Outbox :=
  if (outbox.lane? topic).isSome then outbox
  else { outbox with lanes := outbox.lanes ++ [outbox.newLane topic] }

/-- Change the lane of a topic. -/
def modify (outbox : Outbox) (topic : String) (change : Lane → Lane) : Outbox :=
  { outbox with
    lanes := outbox.lanes.map fun lane => if lane.queue.topic = topic then change lane else lane }

/-- Route a message to the queue of its topic, and report whether that queue
dropped one for it. -/
def enqueue (outbox : Outbox) (message : OutboundMessage) : Bool × Outbox :=
  let prepared := outbox.destination message.topic
  ((prepared.lane? message.topic).any fun lane => (lane.enqueue message).1,
    prepared.modify message.topic fun lane => (lane.enqueue message).2)

/-- The counters of every topic, sorted by topic. -/
def stats (outbox : Outbox) : List (String × QueueStats) :=
  (outbox.lanes.map fun lane => (lane.queue.topic, lane.queue.stats)).mergeSort
    fun first second => !(second.1 < first.1)

/-- Whether every drain task has ended. -/
def hasStopped (outbox : Outbox) : Bool :=
  outbox.lanes.all (!·.isDraining)

/-- The outbox as it is shown in traces. -/
def trace (outbox : Outbox) : String :=
  "Outbox \x7b sink: " ++ shown outbox.sink ++ ", config: " ++ outbox.config.trace ++
    ", destinations: " ++ natText outbox.lanes.length ++ " \x7d"

end Outbox

end InverterBridge
