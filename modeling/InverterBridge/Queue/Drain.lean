import InverterBridge.Queue.Basic
import InverterBridge.Signal

/-!
# Draining a queue

One task delivers the messages of a queue.  It waits until the sink is
connected, then until there is a message, and then publishes the oldest message
again and again while the sink stays connected.  A published message leaves the
queue; after a failure the message stays where it is, and the task waits for
news of the connection or for the retry delay.  The task ends when shutdown is
requested or the source of the connection is gone.

A task that has found the queue empty waits for a notice, and only then looks
again.  A notice may be stale: the message it is about may have been published
in the meantime.

`Drain.step` is one move of the task.  It has no value while the task has to
wait: for a publication to end, for a signal, for a notice or for the clock.  A
move is at most what the task does from one wait to the next, so messages and
signals arrive between moves and never within one.  In particular the oldest
message is taken, the signals are looked at and the publication begins in a
single move.
-/

namespace InverterBridge

/-- What a drain task can see around it; the clock counts milliseconds. -/
structure Surroundings where
  connectivity : Signal
  shutdown : Signal
  now : Nat
  deriving DecidableEq, Repr

/-- Where a drain task is. -/
inductive DrainPhase where
  /-- About to look at the signals. -/
  | starting
  | awaitingConnection
  /-- About to look for a message. -/
  | seekingMessage
  /-- There was no message; waiting for a notice. -/
  | awaitingMessage
  /-- About to take the oldest message. -/
  | delivering
  /-- Publishing an entry, which is still in the queue. -/
  | publishing (entry : QueueEntry)
  /-- Waiting after a failure. -/
  | awaitingRetry (due : Nat)
  | stopped
  deriving DecidableEq, Repr

/-- A drain task: where it is, and how many announcements of the connection it
has seen. -/
structure Drain where
  phase : DrainPhase
  seen : Nat
  deriving DecidableEq, Repr

namespace Drain

/-- A task that has not run yet. -/
def initial : Drain :=
  ⟨.starting, 0⟩

/-- The task in another phase. -/
def enter (drain : Drain) (phase : DrainPhase) : Drain :=
  { drain with phase := phase }

/-- The task in another phase, all announcements seen. -/
def enterSeeing (around : Surroundings) (phase : DrainPhase) : Drain :=
  ⟨phase, around.connectivity.changes⟩

/-- Whether a publication may begin. -/
def mayPublish (around : Surroundings) : Bool :=
  !around.shutdown.value && around.connectivity.value

/-- One move of the task, none while it has to wait. -/
def step (around : Surroundings) (queue : DestinationQueue) (drain : Drain) :
    Option (DestinationQueue × Drain) :=
  match drain.phase with
  | .starting =>
      if around.shutdown.value then some (queue, drain.enter .stopped)
      else if around.connectivity.value then
        some (queue, enterSeeing around .seekingMessage)
      else some (queue, enterSeeing around .awaitingConnection)
  | .awaitingConnection =>
      if around.shutdown.released then some (queue, drain.enter .stopped)
      else if around.connectivity.value then
        some (queue, enterSeeing around .seekingMessage)
      else if around.connectivity.live then none
      else some (queue, drain.enter .stopped)
  | .seekingMessage =>
      if queue.isEmpty then some (queue, drain.enter .awaitingMessage)
      else some (queue, drain.enter .delivering)
  | .awaitingMessage =>
      if around.shutdown.released then some (queue, drain.enter .stopped)
      else if queue.notified then
        some ({ queue with notified := false }, drain.enter .seekingMessage)
      else none
  | .delivering =>
      match queue.head? with
      | none => some (queue, drain.enter .starting)
      | some entry =>
          if mayPublish around then some (queue, drain.enter (.publishing entry))
          else some (queue, drain.enter .starting)
  | .publishing _ => none
  | .awaitingRetry due =>
      if around.shutdown.released then some (queue, drain.enter .stopped)
      else if around.connectivity.changes ≠ drain.seen then
        some (queue, enterSeeing around .starting)
      else if !around.connectivity.live then some (queue, drain.enter .stopped)
      else if due ≤ around.now then some (queue, drain.enter .starting)
      else none
  | .stopped => none

/-- The end of a publication: with success the message leaves the queue,
otherwise it stays. -/
def finish (around : Surroundings) (queue : DestinationQueue) (drain : Drain)
    (success : Bool) : DestinationQueue × Drain :=
  match drain.phase with
  | .publishing entry =>
      if success then (queue.complete entry.sequence, drain.enter .delivering)
      else
        (queue.recordFailure, drain.enter (.awaitingRetry (around.now + queue.retryDelay)))
  | _ => (queue, drain)

/-- Whether the task has ended. -/
def hasStopped (drain : Drain) : Bool :=
  drain.phase == .stopped

end Drain

/-- A queue with the task that drains it, if one has been started. -/
structure Lane where
  queue : DestinationQueue
  drain : Option Drain
  deriving DecidableEq, Repr

namespace Lane

/-- The lane after a move of its task. -/
def step (around : Surroundings) (lane : Lane) : Option Lane :=
  lane.drain.bind fun drain =>
    (drain.step around lane.queue).map fun (queue, drain) => ⟨queue, some drain⟩

/-- The lane after the end of a publication. -/
def finish (around : Surroundings) (lane : Lane) (success : Bool) : Lane :=
  match lane.drain with
  | none => lane
  | some drain =>
      let (queue, drain) := drain.finish around lane.queue success
      ⟨queue, some drain⟩

/-- The entry that is being published. -/
def publishing? (lane : Lane) : Option QueueEntry :=
  match lane.drain with
  | some ⟨.publishing entry, _⟩ => some entry
  | _ => none

/-- Whether a task has been started and has not ended. -/
def isDraining (lane : Lane) : Bool :=
  lane.drain.any (!·.hasStopped)

/-- Start a task unless one is running. -/
def start (lane : Lane) : Lane :=
  if lane.isDraining then lane else { lane with drain := some .initial }

/-- The lane with one more message, and whether it made another one go. -/
def enqueue (lane : Lane) (message : OutboundMessage) : Bool × Lane :=
  let (evicted, queue) := lane.queue.enqueue message
  (evicted, { lane with queue })

end Lane

end InverterBridge
