import InverterBridge.Modbus.Gateway

/-!
# The moves of a supervisor

`Supervisor.Move` lists what the supervisor of a link can do, the end of an
attempt to open the link included, one constructor a move, each with its
conditions and the events that it sends.
-/

namespace InverterBridge

namespace Supervisor

variable {now : Nat} {supervisor after : Supervisor} {events : List GatewayEvent}

/-- The moves of a supervisor with the events that they send. -/
inductive Move (now : Nat) (supervisor : Supervisor) : List GatewayEvent → Supervisor → Prop
  /-- Shutdown ends the task, whatever it was waiting for. -/
  | quit (running : supervisor.phase ≠ .absent) (shutdown : supervisor.shuttingDown = true) :
      Move now supervisor [] supervisor.finish
  | attempt (starting : supervisor.phase = .starting) (held : supervisor.shuttingDown = false) :
      Move now supervisor [] { supervisor with phase := .opening }
  /-- The attempt succeeds. -/
  | link (opening : supervisor.phase = .opening) :
      Move now supervisor [.connected]
        { supervisor with
          phase := .watching, linked := true, backoff := supervisor.backoff.reset }
  /-- The attempt fails for good. -/
  | refuse {error : GatewayError} (opening : supervisor.phase = .opening)
      (fatal : error.severity = .fatal) : Move now supervisor [.error error] supervisor.finish
  /-- The attempt fails for now. -/
  | miss {seconds : Nat} {backoff : Backoff} (opening : supervisor.phase = .opening)
      (delayed : supervisor.backoff.next? = some (seconds, backoff)) :
      Move now supervisor [.disconnected (.ofSeconds seconds)]
        { supervisor with
          phase := .pausing (pauseEnd now seconds), linked := false, backoff := backoff }
  /-- The attempt fails, and there is no delay before another one. -/
  | missLast (opening : supervisor.phase = .opening)
      (exhausted : supervisor.backoff.next? = none) : Move now supervisor [] supervisor.finish
  /-- A request for a new link is taken, and the link is dropped. -/
  | drop {seconds : Nat} {backoff : Backoff} (watching : supervisor.phase = .watching)
      (requested : supervisor.requested = true)
      (delayed : supervisor.backoff.next? = some (seconds, backoff)) :
      Move now supervisor [.disconnected (.ofSeconds seconds)]
        { supervisor with
          phase := .pausing (pauseEnd now seconds), linked := false, requested := false
          backoff := backoff }
  /-- The link is dropped, and there is no delay before an attempt. -/
  | dropLast (watching : supervisor.phase = .watching) (requested : supervisor.requested = true)
      (exhausted : supervisor.backoff.next? = none) :
      Move now supervisor [] { supervisor.finish with requested := false }
  /-- The pause is over. -/
  | resume {due : Nat} (pausing : supervisor.phase = .pausing due)
      (held : supervisor.shuttingDown = false) (elapsed : due ≤ now) :
      Move now supervisor [] { supervisor with phase := .starting }

theorem move_of_opened {result : GatewayResult Unit} (opening : supervisor.phase = .opening)
    (ended : supervisor.opened now result = (events, after)) :
    Move now supervisor events after := by
  cases result with
  | ok _ =>
      cases ended
      exact .link opening
  | error error =>
      simp only [opened] at ended
      split at ended
      next fatal =>
        cases ended
        exact .refuse opening (by simpa [GatewayError.isFatal] using fatal)
      next =>
        unfold pause at ended
        split at ended <;> cases ended
        next exhausted => exact .missLast opening exhausted
        next delayed => exact .miss opening delayed

theorem move_of_step (step : supervisor.step now = some (events, after)) :
    Move now supervisor events after := by
  unfold Supervisor.step at step
  split at step
  next => contradiction
  next starting =>
    split at step <;> cases step
    next shutdown => exact .quit (by simp [starting]) shutdown
    next held => exact .attempt starting (by simpa using held)
  next => contradiction
  next watching =>
    split at step
    next shutdown =>
      cases step
      exact .quit (by simp [watching]) shutdown
    next =>
      split at step
      next requested =>
        simp only [pause] at step
        split at step <;> cases step
        next exhausted => exact .dropLast watching requested exhausted
        next delayed => exact .drop watching requested delayed
      next => contradiction
  next due pausing =>
    split at step
    next shutdown =>
      cases step
      exact .quit (by simp [pausing]) shutdown
    next held =>
      split at step <;> cases step
      exact .resume pausing (by simpa using held) ‹_›

end Supervisor

/-- A gateway supervises its link by moves of its supervisor. -/
theorem ModbusGateway.move_of_supervise {δ : Type} {wire : Wire δ} {now : Nat}
    {gateway after : ModbusGateway δ} {events : List GatewayEvent}
    (moved : gateway.supervise wire now = some (events, after)) :
    Supervisor.Move now gateway.supervisor events after.supervisor := by
  unfold supervise at moved
  split at moved
  next opening =>
    cases moved
    exact Supervisor.move_of_opened opening rfl
  next =>
    rcases Option.map_eq_some_iff.mp moved with ⟨⟨sent, supervisor⟩, step, same⟩
    cases same
    exact Supervisor.move_of_step step

end InverterBridge
