import InverterBridge.Gateway.Question
import InverterBridge.Modbus.Backoff

/-!
# The supervisor of a link

One task opens the link to a device and keeps it open.  When a new link is
asked for it drops the old one, and after every loss and every failed attempt
it waits before the next attempt.  A fatal failure ends it, and so does
shutdown, whatever it is waiting for.

A request for a new link is kept until the task looks for it, and there is at
most one.

The link is put into place, or taken out, in the same step that sends the event
of it: the task may have to wait for a request over the old link to end, and
when it has the link it goes on to the event without another wait.
-/

namespace InverterBridge

/-- Where a supervisor is. -/
inductive SupervisorPhase where
  /-- Not started, or ended. -/
  | absent
  /-- About to open the link. -/
  | starting
  /-- Opening the link. -/
  | opening
  /-- The link is up. -/
  | watching
  /-- The link is down until an instant. -/
  | pausing (due : Nat)
  deriving DecidableEq, Repr

/-- A supervisor; the clock counts milliseconds. -/
structure Supervisor where
  phase : SupervisorPhase
  linked : Bool
  backoff : Backoff
  /-- Whether a request for a new link is kept. -/
  requested : Bool
  shuttingDown : Bool
  deriving DecidableEq, Repr

namespace Supervisor

/-- A supervisor that has not been started. -/
def initial (config : ReconnectConfig) : Supervisor where
  phase := .absent
  linked := false
  backoff := .ofConfig config
  requested := false
  shuttingDown := false

/-- Whether the task has been started and has not ended. -/
def isRunning (supervisor : Supervisor) : Bool :=
  supervisor.phase != .absent

/-- End the task; the link is closed. -/
def finish (supervisor : Supervisor) : Supervisor :=
  { supervisor with phase := .absent, linked := false }

/-- Connect: start the task unless it is running.  After shutdown there is no
new task but an error. -/
def connect (config : ReconnectConfig) (supervisor : Supervisor) :
    List GatewayEvent × Supervisor :=
  if supervisor.isRunning then ([], supervisor)
  else if supervisor.shuttingDown then ([.error .shuttingDown], supervisor)
  else ([], { supervisor with phase := .starting, backoff := .ofConfig config })

/-- Ask for a new link. -/
def request (supervisor : Supervisor) : Supervisor :=
  { supervisor with requested := true }

/-- Request shutdown. -/
def requestShutdown (supervisor : Supervisor) : Supervisor :=
  { supervisor with shuttingDown := true }

/-- Shut down and wait for the end of the task. -/
def shutdown (supervisor : Supervisor) : Supervisor :=
  supervisor.requestShutdown.finish

/-- The instant at which a pause ends; a pause takes a millisecond at least. -/
def pauseEnd (now seconds : Nat) : Nat :=
  now + max 1 (1000 * seconds)

/-- Close the link, announce the loss and pause.  A delay that has no successor
ends the task. -/
def pause (now : Nat) (supervisor : Supervisor) : List GatewayEvent × Supervisor :=
  match supervisor.backoff.next? with
  | none => ([], supervisor.finish)
  | some (seconds, backoff) =>
      ([.disconnected (.ofSeconds seconds)],
        { supervisor with
          phase := .pausing (pauseEnd now seconds), linked := false, backoff := backoff })

/-- The end of an attempt to open the link.  An open link is put into place and
announced in one step. -/
def opened (now : Nat) (result : GatewayResult Unit) (supervisor : Supervisor) :
    List GatewayEvent × Supervisor :=
  match result with
  | .ok _ =>
      ([.connected],
        { supervisor with phase := .watching, linked := true, backoff := supervisor.backoff.reset })
  | .error error =>
      if error.isFatal then ([.error error], supervisor.finish) else supervisor.pause now

/-- One move of the task, none while it has to wait: for an attempt to end, for
a request or for the clock. -/
def step (now : Nat) (supervisor : Supervisor) : Option (List GatewayEvent × Supervisor) :=
  match supervisor.phase with
  | .absent => none
  | .starting =>
      if supervisor.shuttingDown then some ([], supervisor.finish)
      else some ([], { supervisor with phase := .opening })
  | .opening => none
  | .watching =>
      if supervisor.shuttingDown then some ([], supervisor.finish)
      else if supervisor.requested then
        some (pause now { supervisor with requested := false })
      else none
  | .pausing due =>
      if supervisor.shuttingDown then some ([], supervisor.finish)
      else if due ≤ now then some ([], { supervisor with phase := .starting })
      else none

/-- The instant at which a pause ends, if the task is pausing. -/
def due? (supervisor : Supervisor) : Option Nat :=
  match supervisor.phase with
  | .pausing due => some due
  | _ => none

end Supervisor

end InverterBridge
