import InverterBridge.Signal

/-!
# The shutdown signal

Shutdown is requested through handles, any of which may be cloned, triggered or
dropped, and observed through receivers.  A receiver shows whether shutdown has
been requested; a waiter is released as well when every handle is gone.
-/

namespace InverterBridge

/-- Everyone who holds on to a shutdown signal: the handles, each of which may
have been dropped, the number of receivers, and the waiters, each of which may
have been released. -/
structure Shutdown where
  signal : Signal
  handles : List Bool
  receivers : Nat
  waiters : List Bool
  deriving DecidableEq, Repr

/-- A step of someone who holds on to a shutdown signal. -/
inductive ShutdownStep where
  | clone (handle : Nat)
  | subscribe (handle : Nat)
  | trigger (handle : Nat)
  | drop (handle : Nat)
  | wait (receiver : Nat)
  deriving DecidableEq, Repr

namespace Shutdown

/-- One handle and nobody else. -/
def initial : Shutdown :=
  ⟨.ofValue false, [true], 0, []⟩

/-- Whether a handle is there. -/
def hasHandle (shutdown : Shutdown) (handle : Nat) : Bool :=
  shutdown.handles[handle]?.getD false

/-- Whether a handle shows that shutdown has been requested; a dropped handle
shows nothing. -/
def isTriggered (shutdown : Shutdown) (handle : Nat) : Option Bool :=
  if shutdown.hasHandle handle then some shutdown.signal.value else none

/-- Whether the receivers show that shutdown has been requested. -/
def isShutdown (shutdown : Shutdown) : Bool :=
  shutdown.signal.value

/-- Drop a handle; with the last one the source of the signal is gone. -/
def dropHandle (shutdown : Shutdown) (handle : Nat) : Shutdown :=
  let handles := shutdown.handles.set handle false
  { shutdown with
    handles := handles
    signal := if handles.contains true then shutdown.signal else shutdown.signal.close }

/-- Apply a step; steps of a dropped handle do nothing. -/
def act (shutdown : Shutdown) : ShutdownStep → Shutdown
  | .clone handle =>
      if shutdown.hasHandle handle then
        { shutdown with handles := shutdown.handles ++ [true] }
      else shutdown
  | .subscribe handle =>
      if shutdown.hasHandle handle then
        { shutdown with receivers := shutdown.receivers + 1 }
      else shutdown
  | .trigger handle =>
      if shutdown.hasHandle handle then
        { shutdown with signal := shutdown.signal.announce true }
      else shutdown
  | .drop handle =>
      if shutdown.hasHandle handle then shutdown.dropHandle handle else shutdown
  | .wait receiver =>
      if receiver < shutdown.receivers then
        { shutdown with waiters := shutdown.waiters ++ [false] }
      else shutdown

/-- Let every waiter run that can. -/
def wake (shutdown : Shutdown) : Shutdown :=
  { shutdown with waiters := shutdown.waiters.map (· || shutdown.signal.released) }

/-- Apply a step and let the waiters run. -/
def step (shutdown : Shutdown) (action : ShutdownStep) : Shutdown :=
  (shutdown.act action).wake

end Shutdown

end InverterBridge
