import InverterBridge.Failure
import InverterBridge.Queue.Basic
import InverterBridge.Signal

/-!
# A scripted sink

A sink for trying out deliveries: the results of publications are laid down in
advance, topic by topic, and whatever is delivered is recorded.  A topic without
further results succeeds.
-/

namespace InverterBridge

/-- The result of a publication. -/
inductive SinkResult where
  | ok
  | failure
  | notConnected
  deriving DecidableEq, Repr

/-- A sink with scripted results.  The records are in reverse order. -/
structure ScriptedSink where
  connectivity : Signal
  scripts : List (String × List SinkResult)
  /-- How long a publication takes, in milliseconds. -/
  delay : Nat
  /-- The topics of the attempts. -/
  attempts : List String
  delivered : List OutboundMessage
  deriving DecidableEq, Repr

namespace ScriptedSink

/-- The name of the sink. -/
def name : String := "scripted"

/-- A sink that delivers everything. -/
def ofConnected (connected : Bool) : ScriptedSink :=
  ⟨.ofValue connected, [], 0, [], []⟩

/-- The results laid down for a topic. -/
def scriptOf (sink : ScriptedSink) (topic : String) : List SinkResult :=
  (sink.scripts.lookup topic).getD []

/-- Lay down the results of a topic. -/
def setScript (sink : ScriptedSink) (topic : String) (results : List SinkResult) :
    ScriptedSink :=
  { sink with scripts := (topic, results) :: sink.scripts.filter (·.1 != topic) }

/-- Lay down further results for a topic. -/
def script (sink : ScriptedSink) (topic : String) (results : List SinkResult) :
    ScriptedSink :=
  sink.setScript topic (sink.scriptOf topic ++ results)

/-- The number of results laid down. -/
def scripted (sink : ScriptedSink) : Nat :=
  (sink.scripts.flatMap (·.2)).length

/-- Begin a publication: its result, and the sink after the attempt. -/
def begin (sink : ScriptedSink) (topic : String) : SinkResult × ScriptedSink :=
  let counted := { sink with attempts := topic :: sink.attempts }
  match sink.scriptOf topic with
  | [] => (.ok, counted)
  | result :: results => (result, counted.setScript topic results)

/-- Record a delivery. -/
def record (sink : ScriptedSink) (message : OutboundMessage) : ScriptedSink :=
  { sink with delivered := message :: sink.delivered }

/-- The deliveries since they were last taken, oldest first. -/
def takeDelivered (sink : ScriptedSink) : List OutboundMessage × ScriptedSink :=
  (sink.delivered.reverse, { sink with delivered := [] })

/-- The number of attempts on a topic. -/
def attemptsOn (sink : ScriptedSink) (topic : String) : Nat :=
  sink.attempts.count topic

/-- The failure that a result stands for. -/
def failure? (topic : String) : SinkResult → Option BridgeError
  | .ok => none
  | .failure => some (.publish topic "injected failure")
  | .notConnected => some (.notConnected name)

/-- Publish a message at once. -/
def publish (sink : ScriptedSink) (message : OutboundMessage) :
    Except BridgeError Unit × ScriptedSink :=
  let (result, after) := sink.begin message.topic
  match failure? message.topic result with
  | some error => (.error error, after)
  | none => (.ok (), after.record message)

end ScriptedSink

end InverterBridge
