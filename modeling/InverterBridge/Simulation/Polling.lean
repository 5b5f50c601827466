import InverterBridge.Poller.Run
import InverterBridge.Simulation.Gateway

/-!
# Polling in virtual time

A run of a poller over a scripted gateway with a clock that moves only when
told to.  Between two instructions the task runs until it has to wait.
-/

namespace InverterBridge

/-- An entry of the record of a run. -/
inductive PollingEntry where
  | dispatched (dispatch : Dispatch)
  /-- A mark that was asked for, and the state at that time. -/
  | mark (state : ConnectionState)
  deriving DecidableEq, Repr

/-- A run and its record with the instants, the latest first. -/
structure Polling where
  site : Site ScriptedGateway
  run : PollerRun ScriptedGateway
  record : List (Nat × PollingEntry)

/-- More events than a poller over a scripted gateway can handle before its
inbox is empty: every event beyond the first answers a failed check that was
laid down, or an event of the inbox. -/
def Poller.eventBound (poller : Poller ScriptedGateway) : Nat :=
  2 * (poller.inbox.length + poller.gateway.validations.length + 2)

namespace Polling

/-- Replace the run and record what was dispatched since. -/
def withRun (polling : Polling) (run : PollerRun ScriptedGateway) : Polling :=
  let news := run.poller.dispatched.drop polling.run.poller.dispatched.length
  { polling with
    run := run
    record := (news.map fun dispatch => (run.now, .dispatched dispatch)).reverse ++ polling.record }

/-- Run the task until it has to wait.  The number bounds the moves. -/
def settleWithin : Nat → Polling → Polling
  | 0, polling => polling
  | moves + 1, polling =>
      match polling.run.step polling.site with
      | none => polling
      | some next => settleWithin moves (polling.withRun next)

/-- Run everything that can run at this instant. -/
def settle (polling : Polling) : Polling :=
  settleWithin (4 * polling.run.poller.eventBound + 8) polling

/-- Begin to run a poller. -/
def start (site : Site ScriptedGateway) (interval : Nat)
    (poller : Poller ScriptedGateway) : Polling :=
  let run := PollerRun.start site interval poller
  ({ site := site, run := { run with poller := poller }, record := [] } : Polling).withRun run
    |>.settle

/-- Move the clock to `target`, from one instant at which the task has
something to do to the next; what is due at the target itself is left.  The
number bounds the instants. -/
def advanceWithin (target : Nat) : Nat → Polling → Polling
  | 0, polling => polling
  | instants + 1, polling =>
      match polling.run.due? with
      | some due =>
          if due < target then
            let now := max due polling.run.now
            let next := { polling with run := { polling.run with now := now } }.settle
            advanceWithin target instants next
          else { polling with run := { polling.run with now := target } }
      | none => { polling with run := { polling.run with now := target } }

/-- Move the clock to an instant.  Whatever else happens at that instant comes
before what the task has to do then. -/
def advanceTo (polling : Polling) (target : Nat) : Polling :=
  advanceWithin target (2 * (target - polling.run.now) + 4) polling

/-- Change the poller and run what can run. -/
def withPoller (polling : Polling)
    (change : Poller ScriptedGateway → Poller ScriptedGateway) : Polling :=
  { polling with run := { polling.run with poller := change polling.run.poller } }.settle

/-- Put a mark into the record. -/
def mark (polling : Polling) : Polling :=
  { polling with record := (polling.run.now, .mark polling.run.poller.state) :: polling.record }

/-- Change the shutdown signal and run what can run. -/
def withShutdown (polling : Polling) (change : Signal → Signal) : Polling :=
  { polling with run := { polling.run with shutdown := change polling.run.shutdown } }.settle

/-- Whether the run is over. -/
def isOver (polling : Polling) : Bool :=
  polling.run.activity.isOver

/-- Let activities end until the run is over.  The number bounds them. -/
def complete : Nat → Polling → Polling
  | 0, polling => polling
  | activities + 1, polling =>
      if polling.isOver then polling
      else
        match polling.run.due? with
        | none => polling
        | some due =>
            let arrived := polling.advanceTo (max due polling.run.now)
            complete activities arrived.settle

/-- Request shutdown and wait for the end of the run: a tick under way has
three activities left at most. -/
def shutDown (polling : Polling) : Polling :=
  complete 4 (polling.withShutdown (·.announce true))

end Polling

end InverterBridge
