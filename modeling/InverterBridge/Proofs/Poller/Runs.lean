import InverterBridge.Proofs.Poller.Log
import InverterBridge.Proofs.Poller.Moves

/-!
# Runs of a poller over any gateway

`LoggedRun` is a run of a poller over a gateway with a log.  Its acts are the moves
of the polling task, one at a time, and whatever may happen around it: the clock
advances, the gateway's own task changes the gateway and sends events, and
shutdown is requested or can no longer be.  The gateway, its answers and its
latencies are arbitrary, so what holds after every list of acts holds of every run.
-/

namespace InverterBridge

/-- A run of a poller over a gateway with a log. -/
abbrev LoggedRun (γ : Type) : Type :=
  PollerRun (Logged γ)

/-- Something that happens to a run over a gateway with states in `γ`. -/
inductive RunAct (γ : Type) where
  /-- One move of the task, if it does not have to wait. -/
  | poll
  | advance (milliseconds : Nat)
  /-- The gateway's own task: another state, and events that arrive. -/
  | surround (state : γ) (events : List GatewayEvent)
  | requestShutdown
  /-- Every handle of the shutdown signal is gone. -/
  | dropShutdown

namespace LoggedRun

variable {γ : Type} {site : Site γ} {run : LoggedRun γ}

/-- The log of the gateway. -/
def log (run : LoggedRun γ) : List GatewayEntry :=
  run.poller.gateway.log

/-- Begin to run a poller over a gateway with an empty log. -/
def start (site : Site γ) (interval : Nat) (poller : Poller γ) : LoggedRun γ :=
  PollerRun.start site.logged interval (poller.through fun state => ⟨state, []⟩)

/-- Apply an act.  What cannot happen now does not happen. -/
def act (site : Site γ) (run : LoggedRun γ) : RunAct γ → LoggedRun γ
  | .poll => (run.step site.logged).getD run
  | .advance milliseconds => { run with now := run.now + milliseconds }
  | .surround state events =>
      { run with
        poller :=
          { run.poller with
            gateway := ⟨state, run.log ++ events.map .event⟩
            inbox := run.poller.inbox ++ events } }
  | .requestShutdown => { run with shutdown := run.shutdown.announce true }
  | .dropShutdown => { run with shutdown := run.shutdown.close }

/-- Apply acts in order. -/
def actAll (site : Site γ) (run : LoggedRun γ) (acts : List (RunAct γ)) : LoggedRun γ :=
  acts.foldl (act site) run

/-- A run begins as it does without the log. -/
theorem forget_start (site : Site γ) (interval : Nat) (poller : Poller γ) :
    (start site interval poller).through Logged.state = PollerRun.start site interval poller :=
  (PollerRun.start_forget site interval _).symm

/-- The task moves as it does without the log. -/
theorem forget_poll (site : Site γ) (run : LoggedRun γ) :
    (run.act site .poll).through Logged.state =
      (PollerRun.step site (run.through Logged.state)).getD (run.through Logged.state) := by
  unfold act
  rw [PollerRun.step_forget]
  cases PollerRun.step site.logged run <;> rfl

/-- The task makes a move, or it has to wait. -/
theorem act_poll (site : Site γ) (run : LoggedRun γ) :
    run.act site .poll = run ∨ PollerRun.Move site.logged run (run.act site .poll) := by
  unfold act
  cases step : PollerRun.step site.logged run with
  | none => exact .inl rfl
  | some next => exact .inr (PollerRun.move_of_step step)

end LoggedRun

end InverterBridge
