import InverterBridge.Poller.Basic
import InverterBridge.Signal

/-!
# The run of a poller

One task drives a poller.  It wakes up for shutdown, for an event of the
gateway and for the next tick, in this order of preference, so a tick never
overtakes an event that has arrived.  Ticks are an interval apart; a tick that
overruns the next deadline moves it, so that missed ticks are left out.

Questions to the gateway take time: the check of a new link and the three
fetches of a tick.  The clock counts milliseconds.

What the task does between two waits is one move.  It waits for the first of
three things to happen, and it waits for the gateway; on the way from one wait
to the next nothing else gets a turn.

A tick that breaks down takes the task with it.  Then the run does not end as
it otherwise does: nothing is handed out, and the gateway is not shut down.
-/

namespace InverterBridge

/-- The gateway as a run sees it: how long a question takes, and the time of
day at an instant of the run. -/
structure Site (γ : Type) where
  gateway : Gateway γ
  latency : Question → γ → Nat
  timeOfDay : Nat → Int

/-- What the task of a poller is doing. -/
inductive Activity where
  /-- Waiting to be woken up. -/
  | waiting
  /-- Applying an event. -/
  | handling (event : GatewayEvent) (instant : Nat)
  /-- Reading the identity of the device. -/
  | identifying (instant : Nat)
  /-- Reading the measurements. -/
  | measuring (outcome : TickOutcome) (instant : Nat)
  /-- Reading the operating state and the events. -/
  | observing (outcome : TickOutcome) (instant : Nat)
  /-- Ended, by a fatal error or on request. -/
  | ended (cause : Option GatewayError)
  /-- Broken down in the middle of a tick. -/
  | broken
  deriving DecidableEq, Repr

namespace Activity

/-- The instant at which the activity ends by itself. -/
def until? : Activity → Option Nat
  | .waiting => none
  | .handling _ instant => some instant
  | .identifying instant => some instant
  | .measuring _ instant => some instant
  | .observing _ instant => some instant
  | .ended _ => none
  | .broken => none

/-- Whether the run has come to its end. -/
def isOver : Activity → Bool
  | .ended _ => true
  | _ => false

/-- Whether the task does nothing any more. -/
def isHalted : Activity → Bool
  | .ended _ => true
  | .broken => true
  | _ => false

theorem isOver_of_not_isHalted {activity : Activity} (going : activity.isHalted = false) :
    activity.isOver = false := by
  cases activity <;> first | rfl | contradiction

end Activity

/-- The next deadline after a tick that has ended now. -/
def nextDeadline (interval deadline now : Nat) : Nat :=
  if deadline + interval ≤ now then now + interval else deadline + interval

theorem now_lt_nextDeadline {interval deadline now : Nat} (positive : 0 < interval) :
    now < nextDeadline interval deadline now := by
  unfold nextDeadline
  split <;> omega

/-- A run of a poller. -/
structure PollerRun (γ : Type) where
  poller : Poller γ
  interval : Nat
  now : Nat
  deadline : Nat
  shutdown : Signal
  activity : Activity

namespace PollerRun

variable {γ : Type}

/-- Begin to run a poller. -/
def start (site : Site γ) (interval : Nat) (poller : Poller γ) : PollerRun γ where
  poller := poller.start site.gateway (site.timeOfDay 0)
  interval := interval
  now := 0
  deadline := interval
  shutdown := .ofValue false
  activity := .waiting

/-- The time of day. -/
def time (site : Site γ) (run : PollerRun γ) : Int :=
  site.timeOfDay run.now

/-- End the run. -/
def finish (site : Site γ) (cause : Option GatewayError) (run : PollerRun γ) : PollerRun γ :=
  { run with
    poller := run.poller.finish site.gateway (run.time site)
    activity := .ended cause }

/-- Go on, or end with the error. -/
def follow (site : Site γ) (flow : Flow) (run : PollerRun γ) : PollerRun γ :=
  match flow with
  | .proceed => { run with activity := .waiting }
  | .stop error => run.finish site (some error)

/-- The instant at which a question asked now is answered. -/
def answered (site : Site γ) (question : Question) (run : PollerRun γ) : Nat :=
  run.now + site.latency question run.poller.gateway

/-- Begin to apply an event; only a new link takes a question. -/
def beginEvent (site : Site γ) (event : GatewayEvent) (run : PollerRun γ) : PollerRun γ :=
  match event with
  | .connected => { run with activity := .handling event (run.answered site .validate) }
  | _ => { run with activity := .handling event run.now }

/-- End a tick: recover, and set the next deadline. -/
def endTick (site : Site γ) (outcome : TickOutcome) (run : PollerRun γ) : PollerRun γ :=
  let (poller, flow) := run.poller.afterTick site.gateway (run.time site) outcome
  let recovered := { run with poller := poller }
  match flow with
  | .stop error => recovered.finish site (some error)
  | .proceed =>
      { recovered with
        deadline := nextDeadline run.interval run.deadline run.now
        activity := .waiting }

/-- Begin to read the measurements. -/
def beginValues (site : Site γ) (outcome : TickOutcome) (run : PollerRun γ) : PollerRun γ :=
  { run with activity := .measuring outcome (run.answered site .fetchRegisters) }

/-- Begin to read the operating state and the events, unless the tick has broken down. -/
def beginEvents (site : Site γ) (outcome : Option TickOutcome) (run : PollerRun γ) :
    PollerRun γ :=
  { run with
    activity :=
      match outcome with
      | none => .broken
      | some outcome => .observing outcome (run.answered site .fetchEventRegisters) }

/-- Begin a tick. -/
def beginTick (site : Site γ) (run : PollerRun γ) : PollerRun γ :=
  if run.poller.state = .connected then
    if run.poller.identified then run.beginValues site .begun
    else { run with activity := .identifying (run.answered site .fetchDeviceInfo) }
  else run.endTick site .skipped

/-- Wake up: for shutdown first, then for an event, then for a tick.  The three
are looked at in one move. -/
def wake? (site : Site γ) (run : PollerRun γ) : Option (PollerRun γ) :=
  if run.shutdown.released then some (run.finish site none)
  else
    match run.poller.inbox with
    | event :: rest =>
        some (beginEvent site event { run with poller := { run.poller with inbox := rest } })
    | [] => if run.deadline ≤ run.now then some (run.beginTick site) else none

/-- One move of the task, none while it has to wait. -/
def step (site : Site γ) (run : PollerRun γ) : Option (PollerRun γ) :=
  match run.activity with
  | .waiting => run.wake? site
  | .handling event instant =>
      if instant ≤ run.now then
        let (poller, flow) := run.poller.handle site.gateway (run.time site) event
        some (follow site flow { run with poller := poller })
      else none
  | .identifying instant =>
      if instant ≤ run.now then
        let (outcome, poller) := run.poller.tickIdentity site.gateway (run.time site) .begun
        some (beginValues site outcome { run with poller := poller })
      else none
  | .measuring outcome instant =>
      if instant ≤ run.now then
        let (outcome, poller) := run.poller.tickValues site.gateway (run.time site) outcome
        some (beginEvents site outcome { run with poller := poller })
      else none
  | .observing outcome instant =>
      if instant ≤ run.now then
        let (outcome, poller) := run.poller.tickEvents site.gateway (run.time site) outcome
        some (endTick site outcome { run with poller := poller })
      else none
  | .ended _ => none
  | .broken => none

/-- Events that arrive from the gateway. -/
def receive (events : List GatewayEvent) (run : PollerRun γ) : PollerRun γ :=
  { run with poller := run.poller.receive events }

/-- The next instant at which the task has something to do by itself. -/
def due? (run : PollerRun γ) : Option Nat :=
  match run.activity with
  | .waiting => some run.deadline
  | activity => activity.until?

end PollerRun

end InverterBridge
