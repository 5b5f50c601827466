import InverterBridge.Poller.Run

/-!
# The moves of a polling task

`PollerRun.Move` lists what the task that drives a poller can do, one
constructor a move, each with the conditions under which the task makes it.
`PollerRun.step_eq_some_iff` says that these are exactly the successful steps,
so what holds of every step is shown by a case analysis of the moves.
-/

namespace InverterBridge

namespace PollerRun

variable {γ : Type} {site : Site γ} {run next : PollerRun γ}

/-- The moves of the task. -/
inductive Move (site : Site γ) (run : PollerRun γ) : PollerRun γ → Prop
  /-- Shutdown has been requested, or can no longer be. -/
  | quit (waits : run.activity = .waiting) (released : run.shutdown.released = true) :
      Move site run (run.finish site none)
  /-- There is an event in the inbox. -/
  | take {event : GatewayEvent} {rest : List GatewayEvent} (waits : run.activity = .waiting)
      (held : run.shutdown.released = false) (arrived : run.poller.inbox = event :: rest) :
      Move site run (beginEvent site event { run with poller := { run.poller with inbox := rest } })
  /-- The deadline has come, and there is no event. -/
  | tick (waits : run.activity = .waiting) (held : run.shutdown.released = false)
      (quiet : run.poller.inbox = []) (due : run.deadline ≤ run.now) :
      Move site run (run.beginTick site)
  /-- An event is applied. -/
  | handle {event : GatewayEvent} {instant : Nat} (handles : run.activity = .handling event instant)
      (due : instant ≤ run.now) :
      Move site run
        (follow site (run.poller.handle site.gateway (run.time site) event).2
          { run with poller := (run.poller.handle site.gateway (run.time site) event).1 })
  /-- The identity of the device has been asked for. -/
  | identify {instant : Nat} (identifies : run.activity = .identifying instant)
      (due : instant ≤ run.now) :
      Move site run
        (beginValues site
          (run.poller.tickIdentity site.gateway (run.time site) .begun).1
          { run with
            poller := (run.poller.tickIdentity site.gateway (run.time site) .begun).2 })
  /-- The measurements have been asked for. -/
  | measure {outcome : TickOutcome} {instant : Nat}
      (measures : run.activity = .measuring outcome instant) (due : instant ≤ run.now) :
      Move site run
        (beginEvents site
          (run.poller.tickValues site.gateway (run.time site) outcome).1
          { run with
            poller := (run.poller.tickValues site.gateway (run.time site) outcome).2 })
  /-- The operating state and the events have been asked for. -/
  | observe {outcome : TickOutcome} {instant : Nat}
      (observes : run.activity = .observing outcome instant) (due : instant ≤ run.now) :
      Move site run
        (endTick site
          (run.poller.tickEvents site.gateway (run.time site) outcome).1
          { run with
            poller := (run.poller.tickEvents site.gateway (run.time site) outcome).2 })

/-- A tick ends with the run, on a fatal error, or in wait for the next deadline. -/
theorem endTick_cases (site : Site γ) (outcome : TickOutcome) (run : PollerRun γ) :
    let after := run.poller.afterTick site.gateway (run.time site) outcome
    (∃ error, after.2 = .stop error ∧
      run.endTick site outcome = finish site (some error) { run with poller := after.1 }) ∨
    (after.2 = .proceed ∧
      run.endTick site outcome =
        { run with
          poller := after.1
          deadline := nextDeadline run.interval run.deadline run.now
          activity := .waiting }) := by
  unfold endTick
  simp only
  split
  next error stops => exact .inl ⟨error, stops, rfl⟩
  next goes => exact .inr ⟨goes, rfl⟩

/-- The run does not end with the measurements. -/
theorem isOver_beginEvents (reached : Option TickOutcome) :
    (run.beginEvents site reached).activity.isOver = false := by
  cases reached <;> rfl

/-- With the measurements no event is taken. -/
theorem activity_beginEvents_ne_handling (reached : Option TickOutcome) (event : GatewayEvent)
    (instant : Nat) : (run.beginEvents site reached).activity ≠ .handling event instant := by
  cases reached <;> exact nofun

/-- Every move is a step. -/
theorem Move.step (move : Move site run next) : run.step site = some next := by
  cases move with
  | quit waits released => simp [PollerRun.step, waits, wake?, released]
  | take waits held arrived => simp [PollerRun.step, waits, wake?, held, arrived]
  | tick waits held quiet due => simp [PollerRun.step, waits, wake?, held, quiet, due]
  | handle handles due => simp [PollerRun.step, handles, due]
  | identify identifies due => simp [PollerRun.step, identifies, due]
  | measure measures due => simp [PollerRun.step, measures, due]
  | observe observes due => simp [PollerRun.step, observes, due]

/-- Every step is a move. -/
theorem move_of_step (step : run.step site = some next) : Move site run next := by
  unfold PollerRun.step at step
  cases activity : run.activity with
  | waiting =>
      simp only [activity, wake?] at step
      split at step
      next released =>
        cases step
        exact .quit activity released
      next held =>
        have held : run.shutdown.released = false := by simpa using held
        split at step
        next event rest arrived =>
          cases step
          exact .take activity held arrived
        next quiet =>
          split at step <;> cases step
          exact .tick activity held quiet ‹_›
  | handling event instant =>
      simp only [activity] at step
      split at step <;> cases step
      exact .handle activity ‹_›
  | identifying instant =>
      simp only [activity] at step
      split at step <;> cases step
      exact .identify activity ‹_›
  | measuring outcome instant =>
      simp only [activity] at step
      split at step <;> cases step
      exact .measure activity ‹_›
  | observing outcome instant =>
      simp only [activity] at step
      split at step <;> cases step
      exact .observe activity ‹_›
  | ended cause => simp [activity] at step
  | broken => simp [activity] at step

/-- The moves are the successful steps. -/
theorem step_eq_some_iff : run.step site = some next ↔ Move site run next :=
  ⟨move_of_step, Move.step⟩

end PollerRun

end InverterBridge
