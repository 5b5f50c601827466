import InverterBridge.Poller.Run

/-!
# The log of a gateway

`Gateway.logged` is a gateway with a log of its calls and of the events it has
sent.  A poller cannot tell the difference: it does over the logged gateway
exactly what it does over the gateway itself (`PollerRun.step_forget`).  This is
an instance of a general fact about gateways that show less of their state.
-/

namespace InverterBridge

/-- An entry in the log of a gateway: a call, or an event it has sent. -/
inductive GatewayEntry where
  | connect
  | reconnect
  | shutdown
  | ask (question : Question)
  | event (event : GatewayEvent)
  deriving DecidableEq, Repr

/-- The state of a gateway with its log, oldest entry first. -/
structure Logged (γ : Type) where
  state : γ
  log : List GatewayEntry

variable {α β γ : Type}

/-- The gateway with a log. -/
def Gateway.logged (gateway : Gateway γ) : Gateway (Logged γ) where
  connect := fun logged =>
    let (events, state) := gateway.connect logged.state
    (events, ⟨state, logged.log ++ .connect :: events.map .event⟩)
  reconnect := fun logged =>
    let (events, state) := gateway.reconnect logged.state
    (events, ⟨state, logged.log ++ .reconnect :: events.map .event⟩)
  shutdown := fun logged => ⟨gateway.shutdown logged.state, logged.log ++ [.shutdown]⟩
  ask := fun question logged =>
    let (answer, state) := gateway.ask question logged.state
    (answer, ⟨state, logged.log ++ [.ask question]⟩)

/-- The site with a log of its gateway. -/
def Site.logged (site : Site γ) : Site (Logged γ) where
  gateway := site.gateway.logged
  latency := fun question logged => site.latency question logged.state
  timeOfDay := site.timeOfDay

/-! ## Gateways that show less -/

/-- What a gateway does shows in the view of its state as what another one does. -/
structure Gateway.Shows (view : γ → β) (whole : Gateway γ) (shown : Gateway β) : Prop where
  connect (state : γ) :
    shown.connect (view state) = ((whole.connect state).1, view (whole.connect state).2)
  reconnect (state : γ) :
    shown.reconnect (view state) = ((whole.reconnect state).1, view (whole.reconnect state).2)
  shutdown (state : γ) : shown.shutdown (view state) = view (whole.shutdown state)
  ask (question : Question) (state : γ) :
    shown.ask question (view state) =
      ((whole.ask question state).1, view (whole.ask question state).2)

/-- A gateway with a log shows the gateway without it. -/
theorem Gateway.logged_shows (gateway : Gateway γ) :
    Shows Logged.state gateway.logged gateway :=
  ⟨fun _ => rfl, fun _ => rfl, fun _ => rfl, fun _ _ => rfl⟩

variable {view : γ → β} {whole : Gateway γ} {shown : Gateway β}

theorem Survey.run_view (shows : Gateway.Shows view whole shown) (survey : Survey α)
    (state : γ) :
    survey.run shown (view state) =
      ((survey.run whole state).1, view (survey.run whole state).2) := by
  induction survey generalizing state with
  | done value => rfl
  | fail error => rfl
  | ask question next ih => rw [run_ask, run_ask, shows.ask, ih]

namespace Poller

variable (shows : Gateway.Shows view whole shown) (time : Int) (poller : Poller γ)

/-- The poller with a view of the state of its gateway. -/
def through (view : γ → β) (poller : Poller γ) : Poller β :=
  { poller with gateway := view poller.gateway }

@[simp]
theorem state_through : (poller.through view).state = poller.state :=
  rfl

@[simp]
theorem inbox_through : (poller.through view).inbox = poller.inbox :=
  rfl

@[simp]
theorem identified_through : (poller.through view).identified = poller.identified :=
  rfl

@[simp]
theorem gateway_through : (poller.through view).gateway = view poller.gateway :=
  rfl

theorem dispatch_through (channel : Channel) (document : String) :
    (poller.through view).dispatch channel document =
      (poller.dispatch channel document).through view := by
  simp only [dispatch, through]
  cases poller.subscribers.lookup channel <;> rfl

theorem dispatchAvailability_through (online : Bool) :
    (poller.through view).dispatchAvailability time online =
      (poller.dispatchAvailability time online).through view := by
  let document := (AvailabilityDocument.mk (.ofOnline online) time).text
  exact dispatch_through { poller with availability := some document } .availability document

theorem setState_through (state : ConnectionState) :
    (poller.through view).setState time state = (poller.setState time state).through view := by
  by_cases same : poller.state.isOnline = state.isOnline
  · simp only [setState, through, same, if_true]
  · simp only [setState, state_through, same, if_false]
    exact dispatchAvailability_through time { poller with state := state } state.isOnline

theorem recordFailure_through (error : UpdateError) (outcome : TickOutcome) :
    (poller.through view).recordFailure time error outcome =
      ((poller.recordFailure time error outcome).1,
        (poller.recordFailure time error outcome).2.through view) :=
  congrArg (_, ·) (setState_through time poller .disconnected)

section

include shows

theorem requestReconnect_through :
    (poller.through view).requestReconnect shown =
      (poller.requestReconnect whole).through view := by
  simp only [requestReconnect, through, receive, shows.reconnect]

theorem start_through :
    (poller.through view).start shown time = (poller.start whole time).through view := by
  simp only [start, setState_through]
  simp only [through, receive, shows.connect]

theorem handleConnected_through :
    (poller.through view).handleConnected shown time =
      ((poller.handleConnected whole time).1.through view,
        (poller.handleConnected whole time).2) := by
  rcases checked : whole.ask .validate poller.gateway with ⟨answer, state⟩
  have seen : shown.ask .validate (poller.through view).gateway = (answer, view state) :=
    (shows.ask _ _).trans (by rw [checked])
  unfold handleConnected
  rw [seen, checked]
  cases answer with
  | ok _ =>
      exact congrArg (·, Flow.proceed)
        (setState_through time { poller with gateway := state } .connected)
  | error error =>
      cases severity : error.severity with
      | shutdown => simp only [severity]; rfl
      | fatal => simp only [severity]; rfl
      | transient =>
          simp only [severity]
          rw [← requestReconnect_through shows, ← setState_through]
          rfl

theorem handleError_through (error : GatewayError) :
    (poller.through view).handleError shown time error =
      ((poller.handleError whole time error).1.through view,
        (poller.handleError whole time error).2) := by
  unfold handleError
  cases error.severity with
  | shutdown => rfl
  | fatal => rfl
  | transient => simp only [setState_through, requestReconnect_through shows]

theorem handle_through (event : GatewayEvent) :
    (poller.through view).handle shown time event =
      ((poller.handle whole time event).1.through view,
        (poller.handle whole time event).2) := by
  by_cases ended : poller.state = .shutdown
  · simp only [handle, state_through, ended, if_true]
  · simp only [handle, state_through, ended, if_false]
    cases event with
    | connected => exact handleConnected_through shows time poller
    | disconnected delay =>
        exact congrArg (·, Flow.proceed)
          (setState_through time { poller with identified := false } .disconnected)
    | error error => exact handleError_through shows time poller error

theorem ask_through (survey : Survey α) :
    (poller.through view).ask shown survey =
      ((poller.ask whole survey).1, (poller.ask whole survey).2.through view) := by
  simp only [ask, gateway_through, Survey.run_view shows]
  rfl

theorem ask_through_of_eq {survey : Survey α} {result : Except UpdateError α} {after : Poller γ}
    (asked : poller.ask whole survey = (result, after)) :
    (poller.through view).ask shown survey = (result, after.through view) := by
  rw [ask_through shows, asked]

theorem tickIdentity_through (outcome : TickOutcome) :
    (poller.through view).tickIdentity shown time outcome =
      ((poller.tickIdentity whole time outcome).1,
        (poller.tickIdentity whole time outcome).2.through view) := by
  rcases asked : poller.ask whole DeviceSnapshot.survey with ⟨result, after⟩
  have seen := ask_through_of_eq shows poller asked
  by_cases known : poller.identified = true
  · simp only [tickIdentity, identified_through, known, if_true]
  · simp only [tickIdentity, identified_through, known, if_false, seen, asked,
      Bool.false_eq_true]
    cases result with
    | ok snapshot =>
        let document := (DeviceDocument.ofSnapshot snapshot).text
        exact congrArg (_, ·)
          (dispatch_through { after with identified := true, identity := some ⟨snapshot, document⟩ }
            .device document)
    | error error =>
        cases severity : error.severity with
        | transient => simp only [severity]
        | fatal => simp only [severity, recordFailure_through]
        | shutdown => simp only [severity, recordFailure_through]

theorem tickValues_through (outcome : TickOutcome) :
    (poller.through view).tickValues shown time outcome =
      ((poller.tickValues whole time outcome).1,
        (poller.tickValues whole time outcome).2.through view) := by
  rcases asked : poller.ask whole (ValueSnapshot.survey time) with ⟨result, after⟩
  have seen := ask_through_of_eq shows poller asked
  simp only [tickValues, seen, asked]
  cases result with
  | error error => simp only [recordFailure_through]
  | ok snapshot =>
      cases written : ValuesDocument.ofSnapshot? snapshot with
      | none => simp only [written]
      | some document =>
          simp only [written]
          exact congrArg (_, ·)
            (dispatch_through { after with values := some ⟨snapshot, document.text⟩ } .values
              document.text)

theorem tickEvents_through (outcome : TickOutcome) :
    (poller.through view).tickEvents shown time outcome =
      ((poller.tickEvents whole time outcome).1,
        (poller.tickEvents whole time outcome).2.through view) := by
  rcases asked : poller.ask whole EventSnapshot.survey with ⟨result, after⟩
  have seen := ask_through_of_eq shows poller asked
  simp only [tickEvents, seen, asked]
  cases result with
  | error error => exact recordFailure_through time after error outcome
  | ok snapshot =>
      let document := (EventsDocument.ofSnapshot snapshot).text
      exact congrArg (_, ·)
        (dispatch_through { after with events := some ⟨snapshot, document⟩ } .events document)

theorem afterTick_through (outcome : TickOutcome) :
    (poller.through view).afterTick shown time outcome =
      ((poller.afterTick whole time outcome).1.through view,
        (poller.afterTick whole time outcome).2) := by
  unfold afterTick
  cases outcome.fatal? with
  | some error => rfl
  | none =>
      simp only [requestReconnect_through shows, setState_through]
      cases outcome.severity with
      | none => rfl
      | some severity => cases severity <;> rfl

theorem finish_through :
    (poller.through view).finish shown time = (poller.finish whole time).through view := by
  simp only [finish, setState_through, state_through, dispatchAvailability_through]
  split <;> simp only [through, shows.shutdown]

end

end Poller

/-- What a site does shows in the view of the state as what another one does. -/
structure Site.Shows (view : γ → β) (whole : Site γ) (shown : Site β) : Prop where
  gateway : Gateway.Shows view whole.gateway shown.gateway
  latency (question : Question) (state : γ) :
    shown.latency question (view state) = whole.latency question state
  timeOfDay : shown.timeOfDay = whole.timeOfDay

/-- A site with a log shows the site without it. -/
theorem Site.logged_shows (site : Site γ) : Site.Shows Logged.state site.logged site :=
  ⟨site.gateway.logged_shows, fun _ _ => rfl, rfl⟩

namespace PollerRun

variable {whole : Site γ} {shown : Site β}

/-- The run with a view of the state of its gateway. -/
def through (view : γ → β) (run : PollerRun γ) : PollerRun β :=
  { run with poller := run.poller.through view }

section

variable (run : PollerRun γ)

@[simp]
theorem poller_through : (run.through view).poller = run.poller.through view :=
  rfl

@[simp]
theorem now_through : (run.through view).now = run.now :=
  rfl

@[simp]
theorem deadline_through : (run.through view).deadline = run.deadline :=
  rfl

@[simp]
theorem shutdown_through : (run.through view).shutdown = run.shutdown :=
  rfl

@[simp]
theorem activity_through : (run.through view).activity = run.activity :=
  rfl

end

section

variable (shows : Site.Shows view whole shown) (run : PollerRun γ)

include shows

theorem time_through : (run.through view).time shown = run.time whole := by
  simp only [time, shows.timeOfDay, through]

theorem answered_through (question : Question) :
    (run.through view).answered shown question = run.answered whole question :=
  congrArg (run.now + ·) (shows.latency question run.poller.gateway)

theorem finish_through (cause : Option GatewayError) :
    (run.through view).finish shown cause = (run.finish whole cause).through view := by
  simp only [finish, time_through shows]
  simp only [through, Poller.finish_through shows.gateway]

theorem follow_through (flow : Flow) :
    (run.through view).follow shown flow = (run.follow whole flow).through view := by
  cases flow with
  | proceed => rfl
  | stop error => exact finish_through shows run (some error)

theorem beginEvent_through (event : GatewayEvent) :
    (run.through view).beginEvent shown event = (run.beginEvent whole event).through view := by
  cases event with
  | connected => simp only [beginEvent, answered_through shows]; rfl
  | _ => rfl

theorem endTick_through (outcome : TickOutcome) :
    (run.through view).endTick shown outcome = (run.endTick whole outcome).through view := by
  have recovered := Poller.afterTick_through shows.gateway (run.time whole) run.poller outcome
  simp only [endTick, time_through shows]
  simp only [through, recovered]
  cases (run.poller.afterTick whole.gateway (run.time whole) outcome).2 with
  | proceed => rfl
  | stop error => exact finish_through shows { run with poller := _ } (some error)

theorem beginValues_through (outcome : TickOutcome) :
    (run.through view).beginValues shown outcome =
      (run.beginValues whole outcome).through view := by
  simp only [beginValues, answered_through shows]
  rfl

theorem beginEvents_through (outcome : Option TickOutcome) :
    (run.through view).beginEvents shown outcome =
      (run.beginEvents whole outcome).through view := by
  simp only [beginEvents, answered_through shows]
  rfl

theorem beginTick_through :
    (run.through view).beginTick shown = (run.beginTick whole).through view := by
  by_cases connected : run.poller.state = .connected
  · by_cases known : run.poller.identified = true
    · simp only [beginTick, poller_through, Poller.state_through, Poller.identified_through,
        connected, known, if_true]
      exact beginValues_through shows run .begun
    · simp only [beginTick, poller_through, Poller.state_through, Poller.identified_through,
        connected, known, if_true, if_false, Bool.false_eq_true, answered_through shows]
      rfl
  · simp only [beginTick, poller_through, Poller.state_through, connected, if_false]
    exact endTick_through shows run .skipped

theorem wake?_through :
    (run.through view).wake? shown = (run.wake? whole).map (through view) := by
  cases released : run.shutdown.released with
  | true => simp [wake?, released, finish_through shows]
  | false =>
      cases arrived : run.poller.inbox with
      | nil =>
          by_cases due : run.deadline ≤ run.now <;>
            simp [wake?, released, arrived, due, beginTick_through shows]
      | cons event rest =>
          simp only [wake?, shutdown_through, released, Bool.false_eq_true, if_false,
            poller_through, Poller.inbox_through, arrived]
          let taken := { run.poller with inbox := rest }
          exact congrArg some (beginEvent_through shows { run with poller := taken } event)

/-- The task makes the same move. -/
theorem step_through :
    (run.through view).step shown = (run.step whole).map (through view) := by
  have time := time_through shows run
  cases activity : run.activity with
  | waiting =>
      simp only [step, activity_through, activity]
      exact wake?_through shows run
  | handling event instant =>
      by_cases due : instant ≤ run.now
      · simp only [step, activity_through, activity, now_through, due, if_true, poller_through,
          time, Poller.handle_through shows.gateway]
        exact congrArg some (follow_through shows { run with poller := _ } _)
      · simp [step, activity, due]
  | identifying instant =>
      by_cases due : instant ≤ run.now
      · simp only [step, activity_through, activity, now_through, due, if_true, poller_through,
          time, Poller.tickIdentity_through shows.gateway]
        exact congrArg some (beginValues_through shows { run with poller := _ } _)
      · simp [step, activity, due]
  | measuring outcome instant =>
      by_cases due : instant ≤ run.now
      · simp only [step, activity_through, activity, now_through, due, if_true, poller_through,
          time, Poller.tickValues_through shows.gateway]
        exact congrArg some (beginEvents_through shows { run with poller := _ } _)
      · simp [step, activity, due]
  | observing outcome instant =>
      by_cases due : instant ≤ run.now
      · simp only [step, activity_through, activity, now_through, due, if_true, poller_through,
          time, Poller.tickEvents_through shows.gateway]
        exact congrArg some (endTick_through shows { run with poller := _ } _)
      · simp [step, activity, due]
  | ended cause => simp [step, activity]
  | broken => simp [step, activity]

end

/-- Over a gateway with a log a run begins as it does without the log. -/
theorem start_forget (site : Site γ) (interval : Nat) (poller : Poller (Logged γ)) :
    start site interval (poller.through Logged.state) =
      (start site.logged interval poller).through Logged.state := by
  simp only [start, Poller.start_through site.gateway.logged_shows]
  rfl

/-- Over a gateway with a log the task does what it does without the log. -/
theorem step_forget (site : Site γ) (run : PollerRun (Logged γ)) :
    (run.through Logged.state).step site = (run.step site.logged).map (through Logged.state) :=
  step_through site.logged_shows run

end PollerRun

end InverterBridge
