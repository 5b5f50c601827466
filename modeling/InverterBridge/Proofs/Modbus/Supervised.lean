import InverterBridge.Proofs.Modbus.Acceptance
import InverterBridge.Proofs.Modbus.Supervision
import InverterBridge.Proofs.Poller.Attempts
import InverterBridge.Proofs.Poller.Log
import InverterBridge.Proofs.Poller.Moves

/-!
# A poller over a supervised link

`Supervised` is a run of a poller over a gateway with a log, beside the
supervisor of the link of that gateway.  The acts are the moves of the two
tasks, one at a time, and changes of what surrounds them, so what holds after
every list of acts holds of every interleaving.

What comes of an attempt to open the link is up to the wire and the other side
of the line, and what comes of a question is up to `answers`: both are
arbitrary.  The gateway over a wire is a special case
(`ModbusGateway.answering_ask`).
-/

namespace InverterBridge

namespace ModbusGateway

variable {δ : Type}

/-- What a gateway answers, and what becomes of it. -/
abbrev Answers (δ : Type) : Type :=
  (question : Question) → ModbusGateway δ → GatewayResult question.Answer × ModbusGateway δ

/-- The gateway with arbitrary answers.  Whatever it is asked, its supervisor stays
as it is. -/
def answering (answers : Answers δ) : Gateway (ModbusGateway δ) where
  connect := connect
  reconnect := reconnect
  shutdown := shutdown
  ask := fun question gateway =>
    let (answer, after) := answers question gateway
    (answer, { after with supervisor := gateway.supervisor })

/-- No question changes the supervisor. -/
theorem supervisor_ask (wire : Wire δ) (question : Question) (gateway : ModbusGateway δ) :
    (gateway.ask wire question).2.supervisor = gateway.supervisor := by
  by_cases check : question = .validate
  · subst check
    rcases kept_or_accepted_validate wire gateway with kept | ⟨kept, models, same, -, after⟩
    · exact kept.supervisor_eq
    · exact (congrArg supervisor after).trans same.supervisor_eq
  · exact (kept_ask check wire gateway).supervisor_eq

/-- The gateway over a wire answers in its own way. -/
theorem answering_ask (wire : Wire δ) :
    answering (fun question gateway => gateway.ask wire question) = gateway wire := by
  have asks : (answering fun question gateway => gateway.ask wire question).ask = ask wire := by
    funext question gateway
    simp only [answering, ← supervisor_ask wire question gateway]
  exact congrArg (Gateway.mk connect reconnect shutdown) asks

/-- A site of the gateway with arbitrary answers. -/
def site (answers : Answers δ) (latency : Question → ModbusGateway δ → Nat)
    (timeOfDay : Nat → Int) : Site (ModbusGateway δ) :=
  ⟨answering answers, latency, timeOfDay⟩

end ModbusGateway

/-- A run of a poller over a gateway with a log. -/
abbrev Supervised (δ : Type) : Type :=
  PollerRun (Logged (ModbusGateway δ))

/-- Something that happens to a poller and the link of its gateway. -/
inductive SupervisedAct (δ : Type) where
  /-- One move of the poller, if it does not have to wait. -/
  | poll
  /-- One move of the supervisor, if it does not have to wait. -/
  | supervise
  | advance (milliseconds : Nat)
  /-- The other side of the link changes by itself. -/
  | surround (line : δ)
  | requestShutdown
  /-- Every handle of the shutdown signal is gone. -/
  | dropShutdown

namespace Supervised

variable {δ : Type}

/-- The supervisor of the link. -/
def supervisor (run : Supervised δ) : Supervisor :=
  run.poller.gateway.state.supervisor

/-- The log of the gateway. -/
def log (run : Supervised δ) : List GatewayEntry :=
  run.poller.gateway.log

/-- The run with another gateway, whose events have arrived and are logged. -/
def withGateway (run : Supervised δ) (events : List GatewayEvent) (gateway : ModbusGateway δ) :
    Supervised δ :=
  { run with
    poller :=
      { run.poller with
        gateway := ⟨gateway, run.log ++ events.map .event⟩, inbox := run.poller.inbox ++ events } }

/-- Begin to run a poller over a gateway that has not been connected. -/
def start (site : Site (ModbusGateway δ)) (interval : Nat) (name : String) (device : DeviceConfig)
    (line : δ) : Supervised δ :=
  PollerRun.start site.logged interval (.initial name ⟨.initial device line, []⟩)

/-- Apply an act.  What cannot happen now does not happen. -/
def act (site : Site (ModbusGateway δ)) (wire : Wire δ) (run : Supervised δ) :
    SupervisedAct δ → Supervised δ
  | .poll => (run.step site.logged).getD run
  | .supervise =>
      match run.poller.gateway.state.supervise wire run.now with
      | none => run
      | some (events, gateway) => run.withGateway events gateway
  | .advance milliseconds => { run with now := run.now + milliseconds }
  | .surround line => run.withGateway [] { run.poller.gateway.state with line := line }
  | .requestShutdown => { run with shutdown := run.shutdown.announce true }
  | .dropShutdown => { run with shutdown := run.shutdown.close }

/-- Apply acts in order. -/
def actAll (site : Site (ModbusGateway δ)) (wire : Wire δ) (run : Supervised δ)
    (acts : List (SupervisedAct δ)) : Supervised δ :=
  acts.foldl (act site wire) run

end Supervised

end InverterBridge
