import InverterBridge.Proofs.Poller.Attempts
import InverterBridge.Proofs.Poller.Runs

/-!
# Recovery from failures

A tick may fail in three places, each with its own severity.  `Poller.afterTick`
stops for the first fatal failure, asks for a new link if there are failures and
all of them are transient, and does nothing otherwise.  `Finding` names what a
move of the polling task finds out; over a whole run a new link is asked for
exactly once for every finding that calls for it
(`recovery_follows_severity`).
-/

namespace InverterBridge

/-! ## The severity of an outcome -/

theorem UpdateError.severity_eq_fatal_iff {failure : UpdateError} :
    failure.severity = .fatal ↔ ∃ error, failure.gatewayError? = some error ∧ error.isFatal := by
  cases failure <;> simp [severity, gatewayError?, GatewayError.isFatal]

namespace TickOutcome

/-- Some update has failed, and every failure is transient. -/
def AllTransient (outcome : TickOutcome) : Prop :=
  outcome.failures ≠ [] ∧ ∀ failure ∈ outcome.failures, failure.severity = .transient

instance (outcome : TickOutcome) : Decidable outcome.AllTransient :=
  inferInstanceAs (Decidable (_ ∧ _))

/-- The first fatal failure comes with the error. -/
def FirstFatal (outcome : TickOutcome) (error : GatewayError) : Prop :=
  ∃ before failure after, outcome.failures = before ++ failure :: after ∧
    failure.gatewayError? = some error ∧ failure.severity = .fatal ∧
    ∀ earlier ∈ before, earlier.severity ≠ .fatal

/-- The gravest of two severities is transient if both are. -/
theorem graver_eq_transient_iff {first second : Severity} :
    graver first second = .transient ↔ first = .transient ∧ second = .transient := by
  cases first <;> cases second <;> decide

/-- The gravest severity is transient exactly if there are failures and all of them are
transient. -/
theorem severity_eq_transient_iff {outcome : TickOutcome} :
    outcome.severity = some .transient ↔ outcome.AllTransient := by
  -- The first failure sets the severity, so the induction begins after it.
  have folded (step : Option Severity → UpdateError → Option Severity)
      (graves : ∀ worst failure, step (some worst) failure = some (graver worst failure.severity))
      (failures : List UpdateError) (worst : Severity) :
      failures.foldl step (some worst) = some .transient ↔
        worst = .transient ∧ ∀ failure ∈ failures, failure.severity = .transient := by
    induction failures generalizing worst with
    | nil => simp
    | cons failure failures ih =>
        rw [List.foldl_cons, graves, ih, graver_eq_transient_iff, List.forall_mem_cons, and_assoc]
  unfold severity AllTransient
  cases outcome.failures with
  | nil => simp
  | cons failure failures =>
      exact (folded _ (fun _ _ => rfl) failures failure.severity).trans (by simp)

/-- The fatal error is that of the first fatal failure. -/
theorem fatal?_eq (outcome : TickOutcome) :
    outcome.fatal? =
      (outcome.failures.find? (·.severity == .fatal)).bind UpdateError.gatewayError? := by
  have same : (fun failure : UpdateError => failure.gatewayError?.any GatewayError.isFatal) =
      (·.severity == .fatal) := by
    funext failure
    cases failure <;> rfl
  rw [fatal?, List.find?_filterMap, same]

theorem fatal?_eq_some_iff {outcome : TickOutcome} {error : GatewayError} :
    outcome.fatal? = some error ↔ outcome.FirstFatal error := by
  rw [fatal?_eq, Option.bind_eq_some_iff]
  constructor
  · rintro ⟨failure, found, comes⟩
    rcases List.find?_eq_some_iff_append.mp found with ⟨fatal, before, after, split, earlier⟩
    exact ⟨before, failure, after, split, comes, by simpa using fatal, by simpa using earlier⟩
  · rintro ⟨before, failure, after, split, comes, fatal, earlier⟩
    refine ⟨failure, ?_, comes⟩
    exact List.find?_eq_some_iff_append.mpr
      ⟨by simpa using fatal, before, after, split, by simpa using earlier⟩

/-- Every fatal failure comes with an error of the gateway. -/
theorem exists_fatal?_iff {outcome : TickOutcome} :
    (∃ error, outcome.fatal? = some error) ↔
      ∃ failure ∈ outcome.failures, failure.severity = .fatal := by
  constructor
  · rintro ⟨error, found⟩
    rcases fatal?_eq_some_iff.mp found with ⟨before, failure, after, split, -, fatal, -⟩
    exact ⟨failure, by simp [split], fatal⟩
  · rintro ⟨failure, member, fatal⟩
    have some : (outcome.failures.find? (·.severity == .fatal)).isSome :=
      List.find?_isSome.mpr ⟨failure, member, by simpa using fatal⟩
    rcases Option.isSome_iff_exists.mp some with ⟨first, found⟩
    have grave : first.severity = .fatal := by simpa using List.find?_some found
    rcases UpdateError.severity_eq_fatal_iff.mp grave with ⟨error, comes, -⟩
    exact ⟨error, by rw [fatal?_eq, found, Option.bind_some, comes]⟩

theorem AllTransient.fatal?_eq_none {outcome : TickOutcome} (all : outcome.AllTransient) :
    outcome.fatal? = none := by
  rw [Option.eq_none_iff_forall_ne_some]
  intro error found
  rcases exists_fatal?_iff.mp ⟨error, found⟩ with ⟨failure, member, fatal⟩
  rw [all.2 failure member] at fatal
  contradiction

/-- The state in which a tick of a connected device is while it has come to an
outcome: one failure is enough to count as offline. -/
def Shows (outcome : TickOutcome) (state : ConnectionState) : Prop :=
  state = if outcome.failures = [] then .connected else .disconnected

theorem Shows.ne_shutdown {outcome : TickOutcome} {state : ConnectionState}
    (shows : outcome.Shows state) : state ≠ .shutdown := by
  rw [shows]
  split <;> decide

end TickOutcome

namespace Poller

/-! ## The end of a tick -/

section

variable {γ : Type} (gateway : Gateway γ) (time : Int) (poller : Poller γ) {outcome : TickOutcome}

theorem afterTick_of_allTransient (all : outcome.AllTransient) :
    poller.afterTick gateway time outcome =
      ((poller.requestReconnect gateway).setState time .connecting, .proceed) := by
  simp only [afterTick, all.fatal?_eq_none, TickOutcome.severity_eq_transient_iff.mpr all]

theorem afterTick_of_not_allTransient (other : ¬ outcome.AllTransient) :
    (poller.afterTick gateway time outcome).1 = poller := by
  unfold afterTick
  split
  · rfl
  · split
    next severity => exact absurd (TickOutcome.severity_eq_transient_iff.mp severity) other
    · rfl

theorem flow_afterTick {error : GatewayError} :
    (poller.afterTick gateway time outcome).2 = .stop error ↔ outcome.fatal? = some error := by
  unfold afterTick
  split
  next other found => simp [found]
  next none =>
    simp only [none, reduceCtorEq, iff_false]
    split <;> exact nofun

end

/-! ## Requests for a new link -/

variable {γ : Type} (gateway : Gateway γ) (time : Int) (poller : Poller (Logged γ))

/-- How often the gateway has been asked for a new link. -/
def reconnects (poller : Poller (Logged γ)) : Nat :=
  poller.gateway.log.count .reconnect

/-- No event is a request. -/
theorem count_reconnect_events (events : List GatewayEvent) :
    (events.map GatewayEntry.event).count .reconnect = 0 :=
  List.count_eq_zero.mpr (by simp)

@[simp]
theorem reconnects_setState (state : ConnectionState) :
    (poller.setState time state).reconnects = poller.reconnects := by
  simp [reconnects]

/-- A start connects. -/
theorem log_start :
    ∃ events : List GatewayEvent, (poller.start gateway.logged time).gateway.log =
      poller.gateway.log ++ .connect :: events.map .event := by
  rw [← gateway_setState time .connecting poller]
  exact ⟨_, rfl⟩

theorem log_requestReconnect :
    ∃ events : List GatewayEvent, (poller.requestReconnect gateway.logged).gateway.log =
      poller.gateway.log ++ .reconnect :: events.map .event :=
  ⟨_, rfl⟩

@[simp]
theorem reconnects_requestReconnect :
    (poller.requestReconnect gateway.logged).reconnects = poller.reconnects + 1 := by
  rcases log_requestReconnect gateway poller with ⟨events, log⟩
  rw [reconnects, log, List.count_append, List.count_cons_self, count_reconnect_events]
  rfl

/-- Questions are no requests. -/
theorem count_reconnect_survey {α : Type} (survey : Survey α) (logged : Logged γ) :
    (survey.run gateway.logged logged).2.log.count .reconnect =
      logged.log.count .reconnect := by
  induction survey generalizing logged with
  | done value => rfl
  | fail error => rfl
  | ask question next ih =>
      rw [Survey.run_ask, ih]
      exact (List.count_append ..).trans (by simp)

theorem Attempt.reconnects_eq {α : Type} {polled : Polled α} {after : Poller (Logged γ)}
    (attempt : Attempt polled gateway.logged time poller after) :
    after.reconnects = poller.reconnects := by
  rw [reconnects, attempt.gateway_eq, count_reconnect_survey]
  rfl

theorem reconnects_tickIdentity (outcome : TickOutcome) :
    (poller.tickIdentity gateway.logged time outcome).2.reconnects = poller.reconnects := by
  cases known : poller.identified with
  | true => rw [tickIdentity_of_identified known]
  | false => exact (attempt_tickIdentity known _ time outcome).reconnects_eq

theorem reconnects_tickValues (outcome : TickOutcome) :
    (poller.tickValues gateway.logged time outcome).2.reconnects = poller.reconnects :=
  (attempt_tickValues _ time outcome poller).reconnects_eq

theorem reconnects_tickEvents (outcome : TickOutcome) :
    (poller.tickEvents gateway.logged time outcome).2.reconnects = poller.reconnects :=
  (attempt_tickEvents _ time outcome poller).reconnects_eq

end Poller

/-! ## Findings -/

/-- What the task of a poller finds out. -/
inductive Finding where
  /-- The gateway has reported an error. -/
  | reported (error : GatewayError)
  /-- The device behind a new link has been checked. -/
  | checked (answer : GatewayResult Unit)
  /-- A tick has come to an outcome. -/
  | ticked (outcome : TickOutcome)

/-- Whether a finding calls for a new link. -/
def Finding.callsForLink : Finding → Bool
  | .reported error => error.severity == .transient
  | .checked (.ok _) => false
  | .checked (.error error) => error.severity == .transient
  | .ticked outcome => decide outcome.AllTransient

namespace Poller

variable {γ : Type} (gateway : Gateway γ) (time : Int) (poller : Poller (Logged γ))

/-- What is found out when an event is applied. -/
def findings (gateway : Gateway γ) (event : GatewayEvent) (poller : Poller γ) : List Finding :=
  match event with
  | .connected => [.checked (gateway.ask .validate poller.gateway).1]
  | .disconnected _ => []
  | .error error => [.reported error]

/-- A running poller asks for a new link when it applies an event that calls for it. -/
theorem reconnects_handle (running : poller.state ≠ .shutdown) (event : GatewayEvent) :
    (poller.handle gateway.logged time event).1.reconnects =
      poller.reconnects + (poller.findings gateway.logged event).countP Finding.callsForLink := by
  unfold handle
  rw [if_neg running]
  cases event with
  | disconnected delay => simp [findings, reconnects]
  | error error =>
      cases severity : error.severity <;>
        simp [handleError, findings, severity, Finding.callsForLink]
  | connected =>
      let asked := gateway.logged.ask .validate poller.gateway
      have log : asked.2.log.count .reconnect = poller.reconnects := by
        simp [asked, Gateway.logged, reconnects]
      cases answer : asked.1 with
      | ok _ =>
          simp only [asked] at answer log
          simp [handleConnected, findings, answer, Finding.callsForLink]
          simp [reconnects, log]
      | error error =>
          simp only [asked] at answer log
          cases severity : error.severity <;>
            simp [handleConnected, findings, answer, severity, Finding.callsForLink]
          all_goals simp [reconnects, log]

theorem reconnects_afterTick (outcome : TickOutcome) :
    (poller.afterTick gateway.logged time outcome).1.reconnects =
      poller.reconnects + [Finding.ticked outcome].countP Finding.callsForLink := by
  by_cases all : outcome.AllTransient
  · simp [afterTick_of_allTransient, all, Finding.callsForLink]
  · simp [afterTick_of_not_allTransient, all, Finding.callsForLink]

theorem reconnects_finish :
    (poller.finish gateway.logged time).reconnects = poller.reconnects := by
  rw [reconnects, gateway_finish]
  simp [Gateway.logged, reconnects]

end Poller

namespace Poller

/-! ## The state during a tick -/

variable {γ : Type} (gateway : Gateway γ) (time : Int) (poller : Poller γ) {outcome : TickOutcome}

theorem shows_recordFailure (error : UpdateError) (outcome : TickOutcome) :
    (poller.recordFailure time error outcome).1.Shows
      (poller.recordFailure time error outcome).2.state := by
  simp [recordFailure, TickOutcome.Shows]

/-- A transient failure to read the identity is noted, and nothing else is. -/
theorem tickIdentity_of_transient (unknown : poller.identified = false) {error : UpdateError}
    (failed : (poller.ask gateway DeviceSnapshot.survey).1 = .error error)
    (transient : error.severity = .transient) (outcome : TickOutcome) :
    poller.tickIdentity gateway time outcome =
      ({ outcome with deviceError := some error },
        (poller.ask gateway DeviceSnapshot.survey).2) := by
  rcases asked : poller.ask gateway DeviceSnapshot.survey with ⟨result, after⟩
  rw [asked] at failed
  simp only at failed
  simp [tickIdentity, unknown, asked, failed, transient]

variable {poller}

theorem shows_tickIdentity (shows : outcome.Shows poller.state) :
    (poller.tickIdentity gateway time outcome).1.Shows
      (poller.tickIdentity gateway time outcome).2.state := by
  unfold tickIdentity ask
  split
  · exact shows
  · rcases DeviceSnapshot.survey.run gateway poller.gateway with ⟨result, state⟩
    cases result with
    | ok snapshot =>
        simp only [state_dispatch]
        exact shows
    | error error =>
        simp only
        cases error.severity with
        | transient => exact shows
        | fatal => exact shows_recordFailure time _ error outcome
        | shutdown => exact shows_recordFailure time _ error outcome

theorem shows_tickValues (shows : outcome.Shows poller.state) {reached : TickOutcome}
    (going : (poller.tickValues gateway time outcome).1 = some reached) :
    reached.Shows (poller.tickValues gateway time outcome).2.state := by
  have measures := measures_tickValues gateway time outcome poller
  generalize poller.tickValues gateway time outcome = measured at going measures ⊢
  cases measures with
  | commit answered written =>
      cases going
      simp only [state_dispatch, Polled.state_store]
      exact shows
  | breakDown answered unwritten => contradiction
  | fail failed =>
      cases going
      exact shows_recordFailure time _ _ outcome

theorem shows_tickEvents (shows : outcome.Shows poller.state) :
    (poller.tickEvents gateway time outcome).1.Shows
      (poller.tickEvents gateway time outcome).2.state := by
  unfold tickEvents ask
  rcases EventSnapshot.survey.run gateway poller.gateway with ⟨result, state⟩
  cases result with
  | error error => exact shows_recordFailure time _ error outcome
  | ok snapshot =>
      simp only [state_dispatch]
      exact shows

/-- No event ends a poller. -/
theorem state_handle_ne_shutdown (running : poller.state ≠ .shutdown) (event : GatewayEvent) :
    (poller.handle gateway time event).1.state ≠ .shutdown := by
  unfold handle
  rw [if_neg running]
  cases event with
  | disconnected delay => simp
  | error error =>
      simp only [handleError]
      cases error.severity <;> simp [running]
  | connected =>
      simp only [handleConnected]
      cases (gateway.ask .validate poller.gateway).1 with
      | ok _ => simp
      | error error =>
          cases severity : error.severity <;>
            simp [running, requestReconnect, receive, severity]

theorem state_afterTick_ne_shutdown (running : poller.state ≠ .shutdown) (outcome : TickOutcome) :
    (poller.afterTick gateway time outcome).1.state ≠ .shutdown := by
  by_cases all : outcome.AllTransient
  · simp [afterTick_of_allTransient, all]
  · rwa [afterTick_of_not_allTransient gateway time poller all]

end Poller

/-! ## Runs -/

/-- The outcome to which the current tick has come so far. -/
def Activity.outcome? : Activity → Option TickOutcome
  | .identifying _ => some .begun
  | .measuring outcome _ => some outcome
  | .observing outcome _ => some outcome
  | _ => none

namespace LoggedRun

variable {γ : Type} {site : Site γ} {run next : LoggedRun γ}

/-- What the task finds out with its next move. -/
def findings (site : Site γ) (run : LoggedRun γ) : List Finding :=
  match run.activity with
  | .waiting =>
      if run.shutdown.released = false ∧ run.poller.inbox = [] ∧ run.deadline ≤ run.now ∧
          run.poller.state ≠ .connected then [.ticked .skipped]
      else []
  | .handling event instant =>
      if instant ≤ run.now then run.poller.findings site.gateway.logged event else []
  | .observing outcome instant =>
      if instant ≤ run.now then
        [.ticked (run.poller.tickEvents site.gateway.logged (run.time site.logged) outcome).1]
      else []
  | _ => []

/-- What is found out by an act. -/
def found (site : Site γ) (run : LoggedRun γ) : RunAct γ → List Finding
  | .poll => run.findings site
  | _ => []

/-- What is found out by acts in order. -/
def foundAll (site : Site γ) : LoggedRun γ → List (RunAct γ) → List Finding
  | _, [] => []
  | run, act :: acts => run.found site act ++ foundAll site (run.act site act) acts

/-- While the task runs the poller has not ended, and during a tick its state shows the
outcome so far. -/
structure Sound (run : LoggedRun γ) : Prop where
  running : run.activity.isOver = false → run.poller.state ≠ .shutdown
  shows : ∀ outcome, run.activity.outcome? = some outcome → outcome.Shows run.poller.state

theorem sound_of_waiting (waits : run.activity = .waiting)
    (running : run.poller.state ≠ .shutdown) : Sound run :=
  ⟨fun _ => running, by simp [waits, Activity.outcome?]⟩

theorem sound_of_isOver (ended : run.activity.isOver = true) : Sound run := by
  constructor
  · simp [ended]
  · cases activity : run.activity <;> simp_all [Activity.isOver, Activity.outcome?]

theorem sound_follow (running : run.poller.state ≠ .shutdown) (flow : Flow) :
    Sound (run.follow site.logged flow) := by
  cases flow with
  | proceed => exact sound_of_waiting rfl running
  | stop error => exact sound_of_isOver rfl

theorem sound_endTick (running : run.poller.state ≠ .shutdown) (outcome : TickOutcome) :
    Sound (run.endTick site.logged outcome) := by
  rcases PollerRun.endTick_cases site.logged outcome run with
    ⟨_, _, ends⟩ | ⟨_, ends⟩ <;> rw [ends]
  · exact sound_of_isOver rfl
  · exact sound_of_waiting rfl (Poller.state_afterTick_ne_shutdown _ _ running outcome)

theorem sound_of_shows {outcome : TickOutcome} (reads : run.activity.outcome? = some outcome)
    (shows : outcome.Shows run.poller.state) : Sound run := by
  constructor
  · exact fun _ => shows.ne_shutdown
  · intro other same
    cases reads.symm.trans same
    exact shows

/-- A tick goes on with its outcome so far, or it breaks down in a state that is not the last. -/
theorem sound_beginEvents {reached : Option TickOutcome}
    (shows : ∀ outcome, reached = some outcome → outcome.Shows run.poller.state)
    (running : reached = none → run.poller.state ≠ .shutdown) :
    Sound (run.beginEvents site.logged reached) := by
  cases reached with
  | none => exact ⟨fun _ => running rfl, nofun⟩
  | some outcome => exact sound_of_shows rfl (shows outcome rfl)

/-- Every move of the task is sound. -/
theorem Sound.move (sound : Sound run) (move : PollerRun.Move site.logged run next) :
    Sound next := by
  cases move with
  | quit waits released => exact sound_of_isOver rfl
  | @take event rest waits held arrived =>
      have running := sound.running (by rw [waits]; rfl)
      cases event <;>
        exact ⟨fun _ => running, fun _ reads => nomatch (reads : (none : Option TickOutcome) = _)⟩
  | tick waits held quiet due =>
      have running := sound.running (by rw [waits]; rfl)
      unfold PollerRun.beginTick
      split
      next connected => split <;> exact sound_of_shows rfl connected
      next => exact sound_endTick running .skipped
  | handle handles due =>
      have running := sound.running (by rw [handles]; rfl)
      exact sound_follow (Poller.state_handle_ne_shutdown _ _ running _) _
  | identify identifies due =>
      have shows := sound.shows .begun (by rw [identifies]; rfl)
      exact sound_of_shows rfl (Poller.shows_tickIdentity _ _ shows)
  | measure measures due =>
      have shows := sound.shows _ (by rw [measures]; rfl)
      exact sound_beginEvents (fun _ => Poller.shows_tickValues _ _ shows)
        fun broken => (congrArg Poller.state (Poller.tickValues_of_broken broken)).trans_ne
          shows.ne_shutdown
  | observe observes due =>
      have shows := sound.shows _ (by rw [observes]; rfl)
      exact sound_endTick (Poller.shows_tickEvents _ _ shows).ne_shutdown _

theorem reconnects_follow (flow : Flow) :
    (run.follow site.logged flow).poller.reconnects = run.poller.reconnects := by
  cases flow with
  | proceed => rfl
  | stop error => exact Poller.reconnects_finish ..

theorem reconnects_endTick (outcome : TickOutcome) :
    (run.endTick site.logged outcome).poller.reconnects =
      run.poller.reconnects + [Finding.ticked outcome].countP Finding.callsForLink := by
  rw [← Poller.reconnects_afterTick site.gateway (run.time site.logged)]
  rcases PollerRun.endTick_cases site.logged outcome run with
    ⟨_, _, ends⟩ | ⟨_, ends⟩ <;> rw [ends]
  · exact Poller.reconnects_finish ..
  · rfl

/-- With a move of the task a new link is asked for if what it finds out calls for it. -/
theorem Sound.reconnects_move (sound : Sound run) (move : PollerRun.Move site.logged run next) :
    next.poller.reconnects =
      run.poller.reconnects + (run.findings site).countP Finding.callsForLink := by
  cases move with
  | quit waits released =>
      rw [findings, waits]
      simp only [released, Bool.true_eq_false, false_and, if_false, List.countP_nil, Nat.add_zero]
      exact Poller.reconnects_finish ..
  | @take event rest waits held arrived =>
      rw [findings, waits]
      simp only [arrived, reduceCtorEq, false_and, and_false, if_false, List.countP_nil,
        Nat.add_zero]
      cases event <;> rfl
  | tick waits held quiet due =>
      rw [findings, waits]
      unfold PollerRun.beginTick
      by_cases connected : run.poller.state = .connected
      · simp only [connected, ne_eq, not_true_eq_false, and_false, if_false, if_true,
          List.countP_nil, Nat.add_zero]
        split <;> rfl
      · simp only [connected, held, quiet, due, ne_eq, not_false_eq_true, and_self, if_true,
          if_false]
        exact reconnects_endTick .skipped
  | handle handles due =>
      have running := sound.running (by rw [handles]; rfl)
      rw [findings, handles]
      simp only [due, if_true]
      rw [reconnects_follow]
      exact Poller.reconnects_handle _ _ _ running _
  | identify identifies due =>
      rw [findings, identifies]
      exact Poller.reconnects_tickIdentity ..
  | measure measures due =>
      rw [findings, measures]
      exact Poller.reconnects_tickValues ..
  | observe observes due =>
      rw [findings, observes]
      simp only [due, if_true]
      rw [reconnects_endTick]
      exact congrArg (· + _) (Poller.reconnects_tickEvents ..)

/-- Where the task has to wait it finds out nothing. -/
theorem findings_of_step_eq_none (waits : PollerRun.step site.logged run = none) :
    run.findings site = [] := by
  cases activity : run.activity with
  | waiting =>
      simp only [findings, activity]
      split
      next due =>
        have move : PollerRun.Move site.logged run (run.beginTick site.logged) :=
          .tick activity due.1 due.2.1 due.2.2.1
        rw [move.step] at waits
        contradiction
      next => rfl
  | handling event instant =>
      simp only [PollerRun.step, activity] at waits
      split at waits
      · contradiction
      next early => simp [findings, activity, early]
  | observing outcome instant =>
      simp only [PollerRun.step, activity] at waits
      split at waits
      · contradiction
      next early => simp [findings, activity, early]
  | _ => simp [findings, activity]

theorem Sound.act (sound : Sound run) (site : Site γ) (act : RunAct γ) :
    Sound (run.act site act) := by
  cases act with
  | poll =>
      rcases act_poll site run with same | move
      · rwa [same]
      · exact sound.move move
  | _ => exact ⟨sound.running, sound.shows⟩

theorem Sound.reconnects_act (sound : Sound run) (site : Site γ) (act : RunAct γ) :
    (run.act site act).poller.reconnects =
      run.poller.reconnects + (run.found site act).countP Finding.callsForLink := by
  cases act with
  | poll =>
      cases step : PollerRun.step site.logged run with
      | none =>
          simp only [LoggedRun.act, found, step, Option.getD_none, findings_of_step_eq_none step]
          rfl
      | some next =>
          simp only [LoggedRun.act, found, step, Option.getD_some]
          exact sound.reconnects_move (PollerRun.move_of_step step)
  | surround state events =>
      simp only [LoggedRun.act, found, List.countP_nil, Nat.add_zero, Poller.reconnects, log,
        List.count_append, Poller.count_reconnect_events]
  | _ => rfl

theorem Sound.actAll (sound : Sound run) (site : Site γ) (acts : List (RunAct γ)) :
    Sound (run.actAll site acts) := by
  induction acts generalizing run with
  | nil => exact sound
  | cons act acts ih => exact ih (sound.act site act)

theorem Sound.reconnects_actAll (sound : Sound run) (site : Site γ) (acts : List (RunAct γ)) :
    (run.actAll site acts).poller.reconnects =
      run.poller.reconnects + (foundAll site run acts).countP Finding.callsForLink := by
  induction acts generalizing run with
  | nil => rfl
  | cons act acts ih =>
      change ((run.act site act).actAll site acts).poller.reconnects = _
      rw [ih (sound.act site act), sound.reconnects_act, foundAll, List.countP_append,
        Nat.add_assoc]

theorem sound_start (site : Site γ) (interval : Nat) (poller : Poller γ) :
    Sound (start site interval poller) :=
  sound_of_waiting rfl (by simp [start, PollerRun.start, Poller.start, Poller.receive])

theorem reconnects_start (site : Site γ) (interval : Nat) (poller : Poller γ) :
    (start site interval poller).poller.reconnects = 0 := by
  rcases Poller.log_start site.gateway (site.timeOfDay 0)
    (poller.through fun state => ⟨state, []⟩) with ⟨events, log⟩
  have connects : (start site interval poller).poller.gateway.log =
      [] ++ .connect :: events.map .event := log
  simp [Poller.reconnects, connects, Poller.count_reconnect_events]

end LoggedRun

/-! ## Recovery -/

/-- What the end of a tick makes of its outcome. -/
structure Poller.Recovers {γ : Type} (gateway : Gateway γ) (time : Int) (outcome : TickOutcome)
    (poller : Poller (Logged γ)) : Prop where
  /-- The loop stops for the first fatal failure. -/
  stops_iff (error : GatewayError) :
    (poller.afterTick gateway.logged time outcome).2 = .stop error ↔ outcome.FirstFatal error
  /-- It stops exactly if there is a fatal failure. -/
  stops_exactly : (∃ error, (poller.afterTick gateway.logged time outcome).2 = .stop error) ↔
    ∃ failure ∈ outcome.failures, failure.severity = .fatal
  /-- If all failures are transient, a new link is asked for once. -/
  reconnects : outcome.AllTransient →
    (poller.afterTick gateway.logged time outcome).1.state = .connecting ∧
      ∃ events : List GatewayEvent,
        (poller.afterTick gateway.logged time outcome).1.gateway.log =
          poller.gateway.log ++ .reconnect :: events.map .event
  /-- Otherwise neither the poller nor its gateway is touched. -/
  otherwise : ¬ outcome.AllTransient →
    (poller.afterTick gateway.logged time outcome).1 = poller

/-- What a tick does to the state before its end. -/
structure Poller.Demotes {γ : Type} (gateway : Gateway γ) (time : Int)
    (poller : Poller (Logged γ)) : Prop where
  /-- A failed update demotes the device. -/
  failed (outcome : TickOutcome) : (poller.tick gateway.logged time).1 = some outcome →
    outcome.failures ≠ [] → (poller.tick gateway.logged time).2.state = .disconnected
  /-- Nothing else does. -/
  unfailed (outcome : TickOutcome) : (poller.tick gateway.logged time).1 = some outcome →
    outcome.failures = [] → (poller.tick gateway.logged time).2.state = poller.state
  /-- A tick by itself asks for no new link. -/
  calm : (poller.tick gateway.logged time).2.reconnects = poller.reconnects
  /-- A transient failure to read the identity is no failed update. -/
  postponed (error : UpdateError) (outcome : TickOutcome) : poller.identified = false →
    (poller.ask gateway.logged DeviceSnapshot.survey).1 = .error error →
    error.severity = .transient →
      (poller.tickIdentity gateway.logged time outcome).1.failures = outcome.failures ∧
        (poller.tickIdentity gateway.logged time outcome).2.state = poller.state

theorem Poller.recovers {γ : Type} (gateway : Gateway γ) (time : Int) (outcome : TickOutcome)
    (poller : Poller (Logged γ)) : poller.Recovers gateway time outcome where
  stops_iff error := (flow_afterTick ..).trans TickOutcome.fatal?_eq_some_iff
  stops_exactly := (exists_congr fun _ => flow_afterTick ..).trans TickOutcome.exists_fatal?_iff
  reconnects all := by
    rw [afterTick_of_allTransient _ _ _ all, state_setState, gateway_setState]
    exact ⟨rfl, log_requestReconnect gateway poller⟩
  otherwise := afterTick_of_not_allTransient gateway.logged time poller

theorem Poller.demotes {γ : Type} (gateway : Gateway γ) (time : Int)
    (poller : Poller (Logged γ)) : poller.Demotes gateway time := by
  have postponed (error : UpdateError) (outcome : TickOutcome)
      (unknown : poller.identified = false)
      (failed : (poller.ask gateway.logged DeviceSnapshot.survey).1 = .error error)
      (transient : error.severity = .transient) :
      (poller.tickIdentity gateway.logged time outcome).1.failures = outcome.failures ∧
        (poller.tickIdentity gateway.logged time outcome).2.state = poller.state := by
    rw [tickIdentity_of_transient _ _ _ unknown failed transient]
    exact ⟨rfl, rfl⟩
  by_cases connected : poller.state = .connected
  · have began : TickOutcome.begun.Shows poller.state := connected
    have calm : (poller.afterValues gateway.logged time).reconnects = poller.reconnects := by
      rw [afterValues, measured, reconnects_tickValues, afterIdentity, reconnects_tickIdentity]
    cases reached : (poller.measured gateway.logged time).1 with
    | none =>
        refine ⟨?_, ?_, ?_, postponed⟩ <;> rw [tick_of_broken connected reached]
        · rintro _ ⟨⟩
        · rintro _ ⟨⟩
        · exact calm
    | some outcome =>
        have shows := shows_tickEvents gateway.logged time
          (shows_tickValues gateway.logged time (shows_tickIdentity gateway.logged time began)
            reached)
        refine ⟨?_, ?_, ?_, postponed⟩ <;> rw [tick_of_measured connected reached]
        · rintro _ ⟨⟩ failures
          exact shows.trans (if_neg failures)
        · rintro _ ⟨⟩ none
          exact (shows.trans (if_pos none)).trans connected.symm
        · rw [reconnects_tickEvents, calm]
  · refine ⟨?_, ?_, ?_, postponed⟩ <;> rw [tick_of_not_connected connected]
    · rintro _ ⟨⟩ failures
      exact absurd rfl failures
    · exact fun _ _ _ => rfl

/-- Over every gateway:

* whatever the outcome of a tick, its end stops for the first fatal failure if there is
  one, asks for a new link once if there are failures and all of them are transient, and
  touches nothing otherwise;
* a tick with a failed update ends offline, any other one where it began, and a transient
  failure to read the identity is no failed update;
* in every run, after every list of acts, a new link has been asked for exactly as often as
  the task has found out something that calls for it: a transient error that the gateway
  has reported, a transient failure of a check, or a tick with transient failures alone;
  and while a tick goes on, and at its end, the device counts as offline exactly if an
  update has failed. -/
theorem recovery_follows_severity {γ : Type} (site : Site γ) (interval : Nat) (poller : Poller γ)
    (acts : List (RunAct γ)) :
    (∀ time outcome (poller : Poller (Logged γ)), poller.Recovers site.gateway time outcome) ∧
      (∀ time (poller : Poller (Logged γ)), poller.Demotes site.gateway time) ∧
      let start := LoggedRun.start site interval poller
      let run := start.actAll site acts
      run.log.count .reconnect = (LoggedRun.foundAll site start acts).countP Finding.callsForLink ∧
        (∀ outcome, run.activity.outcome? = some outcome → outcome.Shows run.poller.state) ∧
        ∀ outcome instant, run.activity = .observing outcome instant →
          let (ended, poller) :=
            run.poller.tickEvents site.gateway.logged (run.time site.logged) outcome
          ended.Shows poller.state := by
  refine ⟨Poller.recovers site.gateway, Poller.demotes site.gateway, ?_⟩
  have sound := LoggedRun.sound_start site interval poller
  intro start run
  have shows := (sound.actAll site acts).shows
  refine ⟨?_, shows, ?_⟩
  · have count := sound.reconnects_actAll site acts
    rw [LoggedRun.reconnects_start, Nat.zero_add] at count
    exact count
  · intro outcome instant observes
    exact Poller.shows_tickEvents _ _ (shows outcome (by rw [observes]; rfl))

end InverterBridge
