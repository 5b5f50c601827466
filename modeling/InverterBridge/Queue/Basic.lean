/-!
# Destination queues

Every destination has a queue of bounded length.  A producer never waits: when
the queue is full the oldest message makes room for the new one.  Entries are
numbered in the order of their arrival, so a delivery that ends after its entry
has made room for another one removes nothing else.
-/

namespace InverterBridge

/-- A document addressed to a topic. -/
structure OutboundMessage where
  topic : String
  payload : String
  deriving DecidableEq, Repr

/-- A queued message and its number. -/
structure QueueEntry where
  sequence : Nat
  message : OutboundMessage
  deriving DecidableEq, Repr

/-- What has happened to the messages of a queue so far. -/
structure QueueStats where
  enqueued : Nat
  delivered : Nat
  dropped : Nat
  /-- Failed attempts at delivery. -/
  failed : Nat
  deriving DecidableEq, Repr

/-- No messages. -/
def QueueStats.zero : QueueStats :=
  ⟨0, 0, 0, 0⟩

/-- The queue of a destination, the oldest entry first.

`notified` tells the task that waits for messages that there may be some. -/
structure DestinationQueue where
  topic : String
  capacity : Nat
  /-- The delay after a failed delivery, in milliseconds. -/
  retryDelay : Nat
  entries : List QueueEntry
  nextSequence : Nat
  /-- The messages dropped since the queue was last emptied by a delivery. -/
  episodeDropped : Nat
  stats : QueueStats
  notified : Bool
  deriving DecidableEq, Repr

namespace DestinationQueue

/-- An empty queue; it holds one message at least. -/
def empty (topic : String) (capacity retryDelay : Nat) : DestinationQueue where
  topic := topic
  capacity := max capacity 1
  retryDelay := retryDelay
  entries := []
  nextSequence := 0
  episodeDropped := 0
  stats := .zero
  notified := false

@[simp]
theorem entries_empty (topic : String) (capacity retryDelay : Nat) :
    (empty topic capacity retryDelay).entries = [] :=
  rfl

theorem capacity_empty_pos (topic : String) (capacity retryDelay : Nat) :
    0 < (empty topic capacity retryDelay).capacity := by
  simp only [empty]
  omega

/-- The number of queued messages. -/
def length (queue : DestinationQueue) : Nat :=
  queue.entries.length

/-- Whether nothing is queued. -/
def isEmpty (queue : DestinationQueue) : Bool :=
  queue.entries.isEmpty

/-- The queued messages, oldest first. -/
def messages (queue : DestinationQueue) : List OutboundMessage :=
  queue.entries.map QueueEntry.message

/-- Whether the next message will drop the oldest one. -/
def isFull (queue : DestinationQueue) : Bool :=
  queue.capacity ≤ queue.entries.length

/-- Drop the oldest message. -/
def dropOldest (queue : DestinationQueue) : DestinationQueue :=
  { queue with
    entries := queue.entries.tail
    episodeDropped := queue.episodeDropped + 1
    stats := { queue.stats with dropped := queue.stats.dropped + 1 } }

/-- Append a message. -/
def append (queue : DestinationQueue) (message : OutboundMessage) : DestinationQueue :=
  { queue with
    entries := queue.entries ++ [⟨queue.nextSequence, message⟩]
    nextSequence := queue.nextSequence + 1
    stats := { queue.stats with enqueued := queue.stats.enqueued + 1 }
    notified := true }

/-- Append a message; a full queue drops its oldest one first.  The answer is
whether it did.

Counters, entries and the call to the task that waits change in one step: the
entries are behind a lock, and nothing between the lock and the call waits. -/
def enqueue (queue : DestinationQueue) (message : OutboundMessage) : Bool × DestinationQueue :=
  if queue.isFull then (true, queue.dropOldest.append message) else (false, queue.append message)

/-- An eviction is reported exactly when the queue was full. -/
@[simp]
theorem fst_enqueue (queue : DestinationQueue) (message : OutboundMessage) :
    (queue.enqueue message).1 = queue.isFull := by
  unfold enqueue
  split <;> simp [*]

/-- The oldest entry. -/
def head? (queue : DestinationQueue) : Option QueueEntry :=
  queue.entries.head?

/-- Whether an entry is the oldest one. -/
def isHead (queue : DestinationQueue) (sequence : Nat) : Bool :=
  queue.head?.any (·.sequence == sequence)

/-- Remove the entry of a number if it is still the oldest one. -/
def removeHead (queue : DestinationQueue) (sequence : Nat) : DestinationQueue :=
  if queue.isHead sequence then { queue with entries := queue.entries.tail } else queue

/-- Note that the entry of a number has been delivered.  A delivery that
leaves nothing behind ends the count of dropped messages. -/
def complete (queue : DestinationQueue) (sequence : Nat) : DestinationQueue :=
  let rest := queue.removeHead sequence
  { rest with
    stats := { rest.stats with delivered := rest.stats.delivered + 1 }
    episodeDropped := if rest.entries.isEmpty then 0 else rest.episodeDropped }

/-- Note that an attempt at delivery has failed. -/
def recordFailure (queue : DestinationQueue) : DestinationQueue :=
  { queue with stats := { queue.stats with failed := queue.stats.failed + 1 } }

end DestinationQueue

end InverterBridge
