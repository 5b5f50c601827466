import InverterBridge.Failure
import InverterBridge.Signal
import InverterBridge.StatusPublisher

/-!
# The run of a bridge

A run announces the bridge, serves until it is interrupted or shutdown is
requested, and then takes its leave: it requests shutdown, joins the workers one
after another and then the drain tasks, each for a limited time, signs off and
closes the session.  What comes of the two status documents, of the session and
of the workers has no influence on the result.

`BridgeRun.step` is one move of the run, with what it does to others.  What the
run waits for happens by `published`, `closed`, `endWorker`, `registerDrain`,
`endDrain`, `requestShutdown` and `interrupt`.
-/

namespace InverterBridge

/-- How a worker comes to its end. -/
inductive WorkerOutcome where
  | finished
  | failed
  | panicked
  deriving DecidableEq, Repr

/-- How a worker has ended. -/
inductive WorkerEnding where
  | ended (outcome : WorkerOutcome)
  /-- Cut off by the run. -/
  | aborted
  deriving DecidableEq, Repr

/-- A worker of a bridge. -/
structure Worker where
  name : String
  /-- Whether a failure shuts the bridge down. -/
  reports : Bool
  /-- How it has ended, none while it is running. -/
  ending : Option WorkerEnding
  deriving DecidableEq, Repr

namespace Worker

/-- A worker that has just been started. -/
def start (name : String) (reports : Bool) : Worker :=
  ⟨name, reports, none⟩

/-- Whether the worker is running. -/
def isRunning (worker : Worker) : Bool :=
  worker.ending.isNone

/-- Whether the worker has been cut off. -/
def isAborted (worker : Worker) : Bool :=
  worker.ending == some .aborted

/-- The worker after an ending; only the first ending counts. -/
def finish (ending : WorkerEnding) (worker : Worker) : Worker :=
  if worker.isRunning then { worker with ending := some ending } else worker

/-- Whether an outcome of the worker shuts the bridge down. -/
def alarms (outcome : WorkerOutcome) (worker : Worker) : Bool :=
  worker.isRunning && worker.reports && outcome == .failed

@[simp]
theorem isRunning_finish (ending : WorkerEnding) (worker : Worker) :
    (worker.finish ending).isRunning = false := by
  cases running : worker.isRunning <;> simp [finish, running]
  simp [isRunning]

@[simp]
theorem isAborted_finish_ended (outcome : WorkerOutcome) (worker : Worker) :
    (worker.finish (.ended outcome)).isAborted = worker.isAborted := by
  rcases worker with ⟨name, reports, _ | ending⟩ <;> rfl

end Worker

/-- What a run does to others. -/
inductive RunDeed where
  /-- Hand a status document to the sink. -/
  | attempt (message : OutboundMessage)
  | requestShutdown
  /-- Begin to wait for the worker of an index. -/
  | joinWorker (index : Nat)
  /-- Cut off the worker of an index. -/
  | abortWorker (index : Nat)
  /-- Begin to wait for the first drain tasks. -/
  | joinDrains (count : Nat)
  | closeSession
  deriving DecidableEq, Repr

/-- Where a run is. -/
inductive RunPhase where
  | starting
  /-- The first status is being published. -/
  | announcing
  | serving
  /-- About to join the worker of an index, or the drain tasks after the last one. -/
  | turning (index : Nat)
  /-- Joining the worker of an index until an instant. -/
  | joining (index deadline : Nat)
  /-- Joining the first drain tasks until an instant. -/
  | draining (count deadline : Nat)
  /-- The last status is being published. -/
  | signingOff
  | signedOff
  /-- The session is being closed. -/
  | closing
  | finished
  deriving DecidableEq, Repr

/-- A run; the clock counts milliseconds. -/
structure BridgeRun where
  publisher : Option StatusPublisher
  metadata : Option Json
  workers : List Worker
  /-- The drain tasks in the order of their start, and whether each has ended. -/
  drains : List Bool
  shutdown : Signal
  interrupted : Bool
  phase : RunPhase

namespace BridgeRun

/-- How long a task may take to end. -/
def joinLimit : Nat := 5000

/-- A run that has not begun, with workers that have just been started. -/
def initial (publisher : Option StatusPublisher) (metadata : Option Json)
    (spawned : List (String × Bool)) : BridgeRun where
  publisher := publisher
  metadata := metadata
  workers := spawned.map fun worker => .start worker.1 worker.2
  drains := []
  shutdown := .ofValue false
  interrupted := false
  phase := .starting

/-- Whether the run is over. -/
def isOver (run : BridgeRun) : Bool :=
  run.phase == .finished

/-- The result of the run, once it is over. -/
def result? (run : BridgeRun) : Option (Except BridgeError Unit) :=
  if run.isOver then some (.ok ()) else none

/-- Whether the worker of an index is running. -/
def isRunningAt (run : BridgeRun) (index : Nat) : Bool :=
  run.workers[index]?.any Worker.isRunning

/-- Whether the first drain tasks have ended. -/
def drained (run : BridgeRun) (count : Nat) : Bool :=
  (run.drains.take count).all id

/-- Cut off the worker of an index. -/
def abort (index : Nat) (run : BridgeRun) : BridgeRun :=
  { run with workers := run.workers.modify index (Worker.finish .aborted) }

/-- One move of the run, none while it has to wait. -/
def step (now : Nat) (run : BridgeRun) : Option (Option RunDeed × BridgeRun) :=
  match run.phase with
  | .starting =>
      match run.publisher with
      | none => some (none, { run with phase := .serving })
      | some publisher =>
          some (some (.attempt (publisher.running run.metadata)),
            { run with phase := .announcing })
  | .announcing => none
  | .serving =>
      if run.interrupted || run.shutdown.released then
        some (some .requestShutdown,
          { run with shutdown := run.shutdown.announce true, phase := .turning 0 })
      else none
  | .turning index =>
      if index < run.workers.length then
        some (some (.joinWorker index),
          { run with phase := .joining index (now + joinLimit) })
      else
        let count := run.drains.length
        some (some (.joinDrains count), { run with phase := .draining count (now + joinLimit) })
  | .joining index deadline =>
      if run.isRunningAt index then
        if deadline ≤ now then
          some (some (.abortWorker index),
            { run.abort index with phase := .turning (index + 1) })
        else none
      else some (none, { run with phase := .turning (index + 1) })
  | .draining count deadline =>
      if run.drained count || decide (deadline ≤ now) then
        match run.publisher with
        | none => some (none, { run with phase := .signedOff })
        | some publisher =>
            some (some (.attempt publisher.offline), { run with phase := .signingOff })
      else none
  | .signingOff => none
  | .signedOff => some (some .closeSession, { run with phase := .closing })
  | .closing => none
  | .finished => none

/-- The end of the publication that is under way; its result does not matter. -/
def published (_ : Except BridgeError Unit) (run : BridgeRun) : BridgeRun :=
  match run.phase with
  | .announcing => { run with phase := .serving }
  | .signingOff => { run with phase := .signedOff }
  | _ => run

/-- The session has been closed, or not; that does not matter either. -/
def closed (_ : Except BridgeError Unit) (run : BridgeRun) : BridgeRun :=
  match run.phase with
  | .closing => { run with phase := .finished }
  | _ => run

/-- The end of a worker.  The failure of a reporting worker shuts the bridge down. -/
def endWorker (index : Nat) (outcome : WorkerOutcome) (run : BridgeRun) : BridgeRun :=
  let ended := { run with workers := run.workers.modify index (Worker.finish (.ended outcome)) }
  if run.workers[index]?.any (Worker.alarms outcome) then
    { ended with shutdown := ended.shutdown.announce true }
  else ended

/-- A drain task is started for a new destination. -/
def registerDrain (run : BridgeRun) : BridgeRun :=
  { run with drains := run.drains ++ [false] }

/-- The end of a drain task. -/
def endDrain (index : Nat) (run : BridgeRun) : BridgeRun :=
  { run with drains := run.drains.set index true }

/-- A request for shutdown from within the bridge. -/
def requestShutdown (run : BridgeRun) : BridgeRun :=
  { run with shutdown := run.shutdown.announce true }

/-- A request for shutdown from outside of the bridge. -/
def interrupt (run : BridgeRun) : BridgeRun :=
  { run with interrupted := true }

@[simp]
theorem length_workers_abort (index : Nat) (run : BridgeRun) :
    (run.abort index).workers.length = run.workers.length := by
  simp [abort]

end BridgeRun

end InverterBridge
