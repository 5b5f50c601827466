import InverterBridge.Queue.Drain

/-!
# The moves of a drain task

`Drain.Move` lists what a drain task can do, one constructor a move, each with
the conditions under which the task makes it.  `Drain.step_eq_some_iff` says
that these are exactly the successful steps, so what holds of every step is
shown by a case analysis of the moves.
-/

namespace InverterBridge

namespace Drain

/-- The moves of a drain task with what it sees around it and in the queue. -/
inductive Move (around : Surroundings) (queue : DestinationQueue) :
    Drain → DestinationQueue → Drain → Prop
  /-- Shutdown has been requested before the task waits for anything. -/
  | quit {seen : Nat} (shutdown : around.shutdown.value = true) :
      Move around queue ⟨.starting, seen⟩ queue ⟨.stopped, seen⟩
  /-- The sink is connected already. -/
  | proceed {seen : Nat} (running : around.shutdown.value = false)
      (connected : around.connectivity.value = true) :
      Move around queue ⟨.starting, seen⟩ queue (enterSeeing around .seekingMessage)
  /-- The sink is not connected. -/
  | hold {seen : Nat} (running : around.shutdown.value = false)
      (disconnected : around.connectivity.value = false) :
      Move around queue ⟨.starting, seen⟩ queue (enterSeeing around .awaitingConnection)
  /-- Shutdown ends the wait for the connection. -/
  | leaveConnection {seen : Nat} (released : around.shutdown.released = true) :
      Move around queue ⟨.awaitingConnection, seen⟩ queue ⟨.stopped, seen⟩
  /-- The connection is there. -/
  | connect {seen : Nat} (held : around.shutdown.released = false)
      (connected : around.connectivity.value = true) :
      Move around queue ⟨.awaitingConnection, seen⟩ queue
        (enterSeeing around .seekingMessage)
  /-- The connection can no longer come. -/
  | loseConnection {seen : Nat} (held : around.shutdown.released = false)
      (disconnected : around.connectivity.value = false)
      (gone : around.connectivity.live = false) :
      Move around queue ⟨.awaitingConnection, seen⟩ queue ⟨.stopped, seen⟩
  /-- There is a message. -/
  | begin {seen : Nat} (filled : queue.isEmpty = false) :
      Move around queue ⟨.seekingMessage, seen⟩ queue ⟨.delivering, seen⟩
  /-- There is no message. -/
  | rest {seen : Nat} (empty : queue.isEmpty = true) :
      Move around queue ⟨.seekingMessage, seen⟩ queue ⟨.awaitingMessage, seen⟩
  /-- Shutdown ends the wait for a message. -/
  | leaveMessage {seen : Nat} (released : around.shutdown.released = true) :
      Move around queue ⟨.awaitingMessage, seen⟩ queue ⟨.stopped, seen⟩
  /-- A notice is used up, and the task looks again. -/
  | takeNotice {seen : Nat} (held : around.shutdown.released = false)
      (notified : queue.notified = true) :
      Move around queue ⟨.awaitingMessage, seen⟩ { queue with notified := false }
        ⟨.seekingMessage, seen⟩
  /-- Everything has been delivered. -/
  | exhaust {seen : Nat} (none : queue.head? = none) :
      Move around queue ⟨.delivering, seen⟩ queue ⟨.starting, seen⟩
  /-- The oldest message is published. -/
  | publish {seen : Nat} {entry : QueueEntry} (oldest : queue.head? = some entry)
      (may : mayPublish around = true) :
      Move around queue ⟨.delivering, seen⟩ queue ⟨.publishing entry, seen⟩
  /-- The oldest message may not be published now. -/
  | suspend {seen : Nat} {entry : QueueEntry} (oldest : queue.head? = some entry)
      (mayNot : mayPublish around = false) :
      Move around queue ⟨.delivering, seen⟩ queue ⟨.starting, seen⟩
  /-- Shutdown ends the wait after a failure. -/
  | leaveRetry {due seen : Nat} (released : around.shutdown.released = true) :
      Move around queue ⟨.awaitingRetry due, seen⟩ queue ⟨.stopped, seen⟩
  /-- There is news of the connection. -/
  | hear {due seen : Nat} (held : around.shutdown.released = false)
      (news : around.connectivity.changes ≠ seen) :
      Move around queue ⟨.awaitingRetry due, seen⟩ queue (enterSeeing around .starting)
  /-- There can be no more news of the connection. -/
  | loseRetry {due seen : Nat} (held : around.shutdown.released = false)
      (silent : around.connectivity.changes = seen)
      (gone : around.connectivity.live = false) :
      Move around queue ⟨.awaitingRetry due, seen⟩ queue ⟨.stopped, seen⟩
  /-- The retry delay has passed. -/
  | retry {due seen : Nat} (held : around.shutdown.released = false)
      (silent : around.connectivity.changes = seen)
      (live : around.connectivity.live = true) (elapsed : due ≤ around.now) :
      Move around queue ⟨.awaitingRetry due, seen⟩ queue ⟨.starting, seen⟩

variable {around : Surroundings} {queue next : DestinationQueue} {drain moved : Drain}

/-- Every move is a step. -/
theorem Move.step (move : Move around queue drain next moved) :
    drain.step around queue = some (next, moved) := by
  cases move <;> simp_all [Drain.step, enter]

/-- Every step is a move. -/
theorem move_of_step (step : drain.step around queue = some (next, moved)) :
    Move around queue drain next moved := by
  rcases drain with ⟨phase, seen⟩
  cases phase with
  | starting =>
      simp only [Drain.step] at step
      split at step
      · cases step
        exact .quit ‹_›
      · split at step <;> cases step
        · exact .proceed (by simp_all) ‹_›
        · exact .hold (by simp_all) (by simp_all)
  | awaitingConnection =>
      simp only [Drain.step] at step
      split at step
      · cases step
        exact .leaveConnection ‹_›
      · split at step
        · cases step
          exact .connect (by simp_all) ‹_›
        · split at step <;> cases step
          exact .loseConnection (by simp_all) (by simp_all) (by simp_all)
  | seekingMessage =>
      simp only [Drain.step] at step
      split at step <;> cases step
      · exact .rest ‹_›
      · exact .begin (by simp_all)
  | awaitingMessage =>
      simp only [Drain.step] at step
      split at step
      · cases step
        exact .leaveMessage ‹_›
      · split at step <;> cases step
        exact .takeNotice (by simp_all) ‹_›
  | delivering =>
      simp only [Drain.step] at step
      split at step
      · cases step
        exact .exhaust ‹_›
      · split at step <;> cases step
        · exact .publish ‹_› ‹_›
        · exact .suspend ‹_› (by simp_all)
  | publishing entry => contradiction
  | awaitingRetry due =>
      simp only [Drain.step] at step
      split at step
      · cases step
        exact .leaveRetry ‹_›
      · split at step
        · cases step
          exact .hear (by simp_all) ‹_›
        · split at step
          · cases step
            exact .loseRetry (by simp_all) (by simp_all) (by simp_all)
          · split at step <;> cases step
            exact .retry (by simp_all) (by simp_all) (by simp_all) ‹_›
  | stopped => contradiction

/-- The moves are exactly the successful steps. -/
theorem step_eq_some_iff :
    drain.step around queue = some (next, moved) ↔ Move around queue drain next moved :=
  ⟨move_of_step, Move.step⟩

/-- A move leaves the queue alone, but for the notice that it may take. -/
theorem Move.queue_eq (move : Move around queue drain next moved) :
    next = { queue with notified := next.notified } := by
  cases move <;> rfl

/-- A publication begins with the oldest entry. -/
theorem Move.head?_eq {entry : QueueEntry} (move : Move around queue drain next moved)
    (publishing : moved.phase = .publishing entry) : queue.head? = some entry := by
  cases move with
  | publish oldest may =>
      cases publishing
      exact oldest
  | _ => contradiction

end Drain

end InverterBridge
