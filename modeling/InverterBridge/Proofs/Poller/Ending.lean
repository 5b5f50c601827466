import InverterBridge.Proofs.Poller.Calls

/-!
# The end of a run

A run ends for the first fatal trouble, or because shutdown has been requested or can
no longer be.  A `Trouble` is an error that the gateway reports, a failed check of a
link or a failed update; the activity of the task knows of the fatal one among them
(`LoggedRun.Accounts`), so nothing transient ends a run and nothing fatal leaves it going
beyond the end of the tick.  Whatever the cause, the end comes once: the state is
entered, the gateway shut down after every other call, and the polled channels stay as
they are.  A run whose tick breaks down comes to no such end, and it stays as it is.
-/

namespace InverterBridge

/-- Something that goes wrong in a run. -/
inductive Trouble where
  /-- The gateway has reported an error. -/
  | reported (error : GatewayError)
  /-- The check of a new link has failed. -/
  | refused (error : GatewayError)
  /-- The update of a channel has failed. -/
  | failed (channel : Channel) (error : UpdateError)

namespace Trouble

/-- How to recover from a trouble. -/
def severity : Trouble → Severity
  | .reported error | .refused error => error.severity
  | .failed _ error => error.severity

/-- The error of the gateway behind a trouble. -/
def gatewayError? : Trouble → Option GatewayError
  | .reported error | .refused error => some error
  | .failed _ error => error.gatewayError?

/-- The first fatal error among troubles. -/
def fatal? (troubles : List Trouble) : Option GatewayError :=
  (troubles.filterMap gatewayError?).find? GatewayError.isFatal

/-- The first fatal trouble comes with the error. -/
def FirstFatal (troubles : List Trouble) (error : GatewayError) : Prop :=
  ∃ before trouble after, troubles = before ++ trouble :: after ∧
    trouble.gatewayError? = some error ∧ error.severity = .fatal ∧
    ∀ earlier ∈ before, earlier.severity ≠ .fatal

theorem any_isFatal (trouble : Trouble) :
    trouble.gatewayError?.any GatewayError.isFatal = (trouble.severity == .fatal) := by
  cases trouble with
  | reported error => rfl
  | refused error => rfl
  | failed channel error => cases error <;> rfl

theorem fatal?_append (troubles more : List Trouble) :
    fatal? (troubles ++ more) = (fatal? troubles).or (fatal? more) := by
  rw [fatal?, List.filterMap_append, List.find?_append]
  rfl

theorem fatal?_eq (troubles : List Trouble) :
    fatal? troubles = (troubles.find? (·.severity == .fatal)).bind gatewayError? := by
  rw [fatal?, List.find?_filterMap, funext any_isFatal]

theorem firstFatal_of_fatal? {troubles : List Trouble} {error : GatewayError}
    (found : fatal? troubles = some error) : FirstFatal troubles error := by
  have fatal : error.severity = .fatal := by
    simpa [GatewayError.isFatal] using List.find?_some found
  rw [fatal?_eq, Option.bind_eq_some_iff] at found
  rcases found with ⟨trouble, first, comes⟩
  rcases List.find?_eq_some_iff_append.mp first with ⟨-, before, after, split, earlier⟩
  exact ⟨before, trouble, after, split, comes, fatal, by simpa using earlier⟩

theorem fatal?_eq_none_iff {troubles : List Trouble} :
    fatal? troubles = none ↔ ∀ trouble ∈ troubles, trouble.severity ≠ .fatal := by
  rw [fatal?, List.find?_eq_none]
  constructor
  · intro calm trouble member fatal
    have grave := any_isFatal trouble
    cases comes : trouble.gatewayError? with
    | none => simp [comes, fatal] at grave
    | some error =>
        refine calm error (List.mem_filterMap.mpr ⟨trouble, member, comes⟩) ?_
        simpa [comes, fatal] using grave
  · intro calm error member isFatal
    rcases List.mem_filterMap.mp member with ⟨trouble, among, comes⟩
    have grave := any_isFatal trouble
    rw [comes, Option.any_some, isFatal] at grave
    exact calm trouble among (beq_iff_eq.mp grave.symm)

end Trouble

/-- The error for which polling stops, if it does. -/
def Flow.error? : Flow → Option GatewayError
  | .proceed => none
  | .stop error => some error

/-- Why the update of a channel fails, if it does. -/
def Polled.failure? {α γ : Type} (polled : Polled α) (gateway : Gateway γ) (time : Int)
    (state : γ) : Option UpdateError :=
  match ((polled.survey time).run gateway state).1 with
  | .error error => some error
  | .ok _ => none

namespace Poller

variable {α γ : Type} (gateway : Gateway γ) (time : Int) (poller : Poller γ)

/-- The troubles that come with an event. -/
def eventTroubles (gateway : Gateway γ) (event : GatewayEvent) (poller : Poller γ) :
    List Trouble :=
  match event with
  | .connected =>
      match (gateway.ask .validate poller.gateway).1 with
      | .ok _ => []
      | .error error => [.refused error]
  | .disconnected _ => []
  | .error error => [.reported error]

/-- The troubles of an update. -/
def updateTroubles (polled : Polled α) (gateway : Gateway γ) (time : Int) (poller : Poller γ) :
    List Trouble :=
  (polled.failure? gateway time poller.gateway).toList.map (.failed polled.channel)

/-- A running poller stops for an event that comes with a fatal trouble, and for no other. -/
theorem error?_handle (running : poller.state ≠ .shutdown) (event : GatewayEvent) :
    (poller.handle gateway time event).2.error? =
      Trouble.fatal? (poller.eventTroubles gateway event) := by
  unfold handle
  rw [if_neg running]
  cases event with
  | disconnected delay => rfl
  | error error =>
      cases severity : error.severity <;>
        simp [handleError, eventTroubles, Flow.error?, Trouble.fatal?, Trouble.gatewayError?,
          GatewayError.isFatal, severity]
  | connected =>
      rcases asked : gateway.ask .validate poller.gateway with ⟨answer, state⟩
      cases answer with
      | ok valid => simp [handleConnected, eventTroubles, asked, Flow.error?, Trouble.fatal?]
      | error error =>
          cases severity : error.severity <;>
            simp [handleConnected, eventTroubles, asked, Flow.error?, Trouble.fatal?,
              Trouble.gatewayError?, GatewayError.isFatal, severity]

/-- At the end of a tick the poller stops for its fatal error, and for no other. -/
theorem error?_afterTick (outcome : TickOutcome) :
    (poller.afterTick gateway time outcome).2.error? = outcome.fatal? := by
  ext error
  rw [← flow_afterTick gateway time poller]
  cases (poller.afterTick gateway time outcome).2 <;> simp [Flow.error?]

/-- A failure that is noted adds its trouble. -/
theorem fatal?_note (outcome : TickOutcome) (channel : Channel) (error : UpdateError) :
    TickOutcome.fatal? { outcome with failures := outcome.failures ++ [error] } =
      outcome.fatal?.or (Trouble.fatal? [.failed channel error]) := by
  rw [TickOutcome.fatal?, List.filterMap_append, List.find?_append]
  rfl

theorem fatal?_tickIdentity (unknown : poller.identified = false) (outcome : TickOutcome) :
    (poller.tickIdentity gateway time outcome).1.fatal? =
      outcome.fatal?.or (Trouble.fatal? (poller.updateTroubles .device gateway time)) := by
  rcases asked : DeviceSnapshot.survey.run gateway poller.gateway with ⟨result, state⟩
  have ended : (Polled.survey time .device).run gateway poller.gateway = (result, state) := asked
  unfold tickIdentity ask updateTroubles Polled.failure?
  rw [if_neg (ne_true_of_eq_false unknown), asked, ended]
  cases result with
  | ok snapshot => exact Option.or_none.symm
  | error error =>
      cases severity : error.severity with
      | transient =>
          have calm : Trouble.fatal? [.failed .device error] = none :=
            Trouble.fatal?_eq_none_iff.mpr (by simp [Trouble.severity, severity])
          simp only [severity, Option.toList_some, List.map_singleton]
          exact (congrArg outcome.fatal?.or calm).trans Option.or_none |>.symm
      | fatal =>
          simp only [severity]
          exact fatal?_note outcome .device error
      | shutdown =>
          simp only [severity]
          exact fatal?_note outcome .device error

theorem fatal?_tickValues {outcome reached : TickOutcome}
    (going : (poller.tickValues gateway time outcome).1 = some reached) :
    reached.fatal? =
      outcome.fatal?.or (Trouble.fatal? (poller.updateTroubles .values gateway time)) := by
  have measures := measures_tickValues gateway time outcome poller
  generalize poller.tickValues gateway time outcome = measured at going measures
  unfold updateTroubles Polled.failure?
  cases measures with
  | commit answered written =>
      cases going
      have ended := congrArg Prod.fst answered
      rw [show (Polled.survey time .values).run gateway poller.gateway = _ from answered]
      exact Option.or_none.symm
  | breakDown answered unwritten => contradiction
  | fail failed =>
      cases going
      rw [show (Polled.survey time .values).run gateway poller.gateway = _ from failed]
      exact fatal?_note outcome .values _

theorem fatal?_tickEvents (outcome : TickOutcome) :
    (poller.tickEvents gateway time outcome).1.fatal? =
      outcome.fatal?.or (Trouble.fatal? (poller.updateTroubles .events gateway time)) := by
  rcases asked : EventSnapshot.survey.run gateway poller.gateway with ⟨result, state⟩
  have ended : (Polled.survey time .events).run gateway poller.gateway = (result, state) := asked
  unfold tickEvents ask updateTroubles Polled.failure?
  rw [asked, ended]
  cases result with
  | error error => exact fatal?_note outcome .events error
  | ok snapshot => exact Option.or_none.symm

end Poller

/-- The fatal error of which an activity knows. -/
def Activity.fatal? : Activity → Option GatewayError
  | .measuring outcome _ => outcome.fatal?
  | .observing outcome _ => outcome.fatal?
  | .ended cause => cause
  | _ => none

namespace LoggedRun

variable {γ : Type} {site : Site γ} {run next : LoggedRun γ}

/-! ## Tasks that have halted -/

/-- A task that has ended or broken down does nothing and hands out no document. -/
theorem halted_act (halted : run.activity.isHalted = true) (site : Site γ) (act : RunAct γ) :
    (run.act site act).activity = run.activity ∧
      (run.act site act).poller.dispatched = run.poller.dispatched := by
  cases act with
  | poll =>
      rcases act_poll site run with same | move
      · rw [same]
        exact ⟨rfl, rfl⟩
      · exact absurd ((going_of_move move).symm.trans halted) nofun
  | _ => exact ⟨rfl, rfl⟩

theorem halted_actAll (halted : run.activity.isHalted = true) (site : Site γ)
    (acts : List (RunAct γ)) :
    (run.actAll site acts).activity = run.activity ∧
      (run.actAll site acts).poller.dispatched = run.poller.dispatched := by
  induction acts generalizing run with
  | nil => exact ⟨rfl, rfl⟩
  | cons act acts ih =>
      rcases halted_act halted site act with ⟨activity, dispatched⟩
      rcases ih (activity ▸ halted) with ⟨still, same⟩
      exact ⟨still.trans activity, same.trans dispatched⟩

/-- So a run that has broken down stays broken down. -/
theorem broken_actAll (broken : run.activity = .broken) (site : Site γ)
    (acts : List (RunAct γ)) :
    (run.actAll site acts).activity = .broken ∧
      (run.actAll site acts).poller.dispatched = run.poller.dispatched := by
  obtain ⟨still, same⟩ := halted_actAll (by rw [broken]; rfl) site acts
  exact ⟨still.trans broken, same⟩

/-! ## Troubles of a run -/

/-- The troubles that come with an act. -/
def troubles (site : Site γ) (run : LoggedRun γ) : RunAct γ → List Trouble
  | .poll =>
      match run.activity with
      | .handling event instant =>
          if instant ≤ run.now then run.poller.eventTroubles site.gateway.logged event else []
      | .identifying instant =>
          if instant ≤ run.now then
            run.poller.updateTroubles .device site.gateway.logged (run.time site.logged)
          else []
      | .measuring _ instant =>
          if instant ≤ run.now then
            run.poller.updateTroubles .values site.gateway.logged (run.time site.logged)
          else []
      | .observing _ instant =>
          if instant ≤ run.now then
            run.poller.updateTroubles .events site.gateway.logged (run.time site.logged)
          else []
      | _ => []
  | _ => []

/-- The troubles that come with acts in order. -/
def allTroubles (site : Site γ) : LoggedRun γ → List (RunAct γ) → List Trouble
  | _, [] => []
  | run, act :: acts => run.troubles site act ++ allTroubles site (run.act site act) acts

theorem fatal?_follow (flow : Flow) :
    (run.follow site.logged flow).activity.fatal? = flow.error? := by
  cases flow <;> rfl

/-- A tick ends with the fatal error of its outcome, if there is one. -/
theorem fatal?_endTick (outcome : TickOutcome) :
    (run.endTick site.logged outcome).activity.fatal? = outcome.fatal? := by
  rw [← Poller.error?_afterTick site.logged.gateway (run.time site.logged) run.poller]
  rcases PollerRun.endTick_cases site.logged outcome run with
    ⟨error, stops, ends⟩ | ⟨goes, ends⟩
  · rw [stops, ends]; rfl
  · rw [goes, ends]; rfl

/-- A tick that does not break down goes on with what it knows. -/
theorem fatal?_beginEvents {reached : Option TickOutcome}
    (going : (run.beginEvents site.logged reached).activity ≠ .broken) :
    ∃ outcome, reached = some outcome ∧
      (run.beginEvents site.logged reached).activity.fatal? = outcome.fatal? := by
  cases reached with
  | none => exact absurd rfl going
  | some outcome => exact ⟨outcome, rfl, rfl⟩

/-- After a move the task knows of a fatal trouble that has come with it, unless it knows of
one already or has broken down. -/
theorem Sound.fatal?_move (sound : Sound run) (seeks : Seeks run)
    (move : PollerRun.Move site.logged run next) (going : next.activity ≠ .broken) :
    next.activity.fatal? =
      run.activity.fatal?.or (Trouble.fatal? (run.troubles site .poll)) := by
  cases move with
  | quit waits released =>
      simp only [troubles, waits]
      rfl
  | @take event rest waits held arrived =>
      simp only [troubles, waits]
      cases event <;> rfl
  | tick waits held quiet due =>
      simp only [troubles, waits]
      unfold PollerRun.beginTick
      split
      · split <;> rfl
      · exact fatal?_endTick .skipped
  | @handle event instant handles due =>
      have running := sound.running (by rw [handles]; rfl)
      simp only [troubles, handles, due, if_true]
      exact (fatal?_follow _).trans (Poller.error?_handle _ _ _ running event)
  | identify identifies due =>
      have unknown := seeks (by simp [LoggedRun.identifies, updates?, identifies])
      simp only [troubles, identifies, due, if_true]
      exact Poller.fatal?_tickIdentity _ _ _ unknown .begun
  | measure measures due =>
      obtain ⟨outcome, reached, known⟩ := fatal?_beginEvents going
      simp only [troubles, measures, due, if_true]
      exact known.trans (Poller.fatal?_tickValues _ _ _ reached)
  | observe observes due =>
      simp only [troubles, observes, due, if_true]
      rw [fatal?_endTick]
      exact Poller.fatal?_tickEvents ..

/-- Where the task has to wait there is no trouble. -/
theorem troubles_of_step_eq_none (waits : PollerRun.step site.logged run = none) :
    run.troubles site .poll = [] := by
  cases activity : run.activity with
  | waiting => simp [troubles, activity]
  | ended cause => simp [troubles, activity]
  | broken => simp [troubles, activity]
  | _ =>
      simp only [PollerRun.step, activity] at waits
      split at waits
      · contradiction
      next early => simp [troubles, activity, early]

theorem Sound.fatal?_act (sound : Sound run) (seeks : Seeks run) (site : Site γ)
    (act : RunAct γ) (going : (run.act site act).activity ≠ .broken) :
    (run.act site act).activity.fatal? =
      run.activity.fatal?.or (Trouble.fatal? (run.troubles site act)) := by
  cases act with
  | poll =>
      cases step : PollerRun.step site.logged run with
      | none =>
          rw [troubles_of_step_eq_none step, LoggedRun.act, step]
          exact Option.or_none.symm
      | some next =>
          rw [LoggedRun.act, step] at going ⊢
          exact sound.fatal?_move seeks (PollerRun.move_of_step step) going
  | _ => exact Option.or_none.symm

/-- The task knows of the first fatal trouble unless it has broken down. -/
theorem Sound.fatal?_actAll (sound : Sound run) (seeks : Seeks run) (site : Site γ)
    (acts : List (RunAct γ)) (going : (run.actAll site acts).activity ≠ .broken) :
    (run.actAll site acts).activity.fatal? =
      run.activity.fatal?.or (Trouble.fatal? (allTroubles site run acts)) := by
  induction acts generalizing run with
  | nil => exact Option.or_none.symm
  | cons act acts ih =>
      have before : (run.act site act).activity ≠ .broken := fun broken =>
        going (broken_actAll broken site acts).1
      change ((run.act site act).actAll site acts).activity.fatal? = _
      rw [ih (sound.act site act) (seeks.act site act) going,
        sound.fatal?_act seeks site act before, allTroubles, Trouble.fatal?_append,
        Option.or_assoc]

/-! ## The end on request -/

/-- Shutdown has been requested, or can no longer be. -/
def Requested (acts : List (RunAct γ)) : Prop :=
  .requestShutdown ∈ acts ∨ .dropShutdown ∈ acts

/-- No move touches the shutdown signal. -/
theorem shutdown_of_move (move : PollerRun.Move site.logged run next) :
    next.shutdown = run.shutdown := by
  have ended (run : LoggedRun γ) (outcome : TickOutcome) :
      (run.endTick site.logged outcome).shutdown = run.shutdown := by
    rcases PollerRun.endTick_cases site.logged outcome run with ⟨_, _, ends⟩ | ⟨_, ends⟩
    · rw [ends]; rfl
    · rw [ends]
  cases move with
  | quit waits released => rfl
  | @take event rest waits held arrived => cases event <;> rfl
  | tick waits held quiet due =>
      unfold PollerRun.beginTick
      split
      · split <;> rfl
      · exact ended _ _
  | @handle event instant handles due =>
      unfold PollerRun.follow
      split <;> rfl
  | identify identifies due => rfl
  | measure measures due => rfl
  | observe observes due => exact ended _ _

/-- Without a cause a move ends the run only on request. -/
theorem released_of_move (move : PollerRun.Move site.logged run next)
    (excused : next.activity = .ended none) : run.shutdown.released = true := by
  have ended (run : LoggedRun γ) (outcome : TickOutcome) :
      (run.endTick site.logged outcome).activity ≠ .ended none := by
    rcases PollerRun.endTick_cases site.logged outcome run with
      ⟨_, _, ends⟩ | ⟨_, ends⟩ <;> rw [ends] <;> exact nofun
  cases move with
  | quit waits released => exact released
  | @take event rest waits held arrived => cases event <;> contradiction
  | tick waits held quiet due =>
      unfold PollerRun.beginTick at excused
      split at excused
      · split at excused <;> contradiction
      · exact absurd excused (ended _ _)
  | @handle event instant handles due =>
      unfold PollerRun.follow at excused
      split at excused
      · contradiction
      · simp [PollerRun.finish] at excused
  | identify identifies due => contradiction
  | measure measures due =>
      have isOver := congrArg Activity.isOver excused
      rw [PollerRun.isOver_beginEvents] at isOver
      contradiction
  | observe observes due => exact absurd excused (ended _ _)

/-- A run that has ended without a cause has been released. -/
def Excused (run : LoggedRun γ) : Prop :=
  run.activity = .ended none → run.shutdown.released = true

theorem released_announce {signal : Signal} (released : signal.released = true) :
    (signal.announce true).released = true := by
  unfold Signal.announce
  split
  · exact Signal.released_of_value rfl
  · exact released

theorem Excused.act (excused : Excused run) (site : Site γ) (act : RunAct γ) :
    Excused (run.act site act) := by
  cases act with
  | poll =>
      rcases act_poll site run with same | move
      · rwa [same]
      · intro ended
        rw [shutdown_of_move move]
        exact released_of_move move ended
  | requestShutdown => exact fun ended => released_announce (excused ended)
  | dropShutdown => exact fun _ => Signal.released_close _
  | _ => exact excused

theorem Excused.actAll (excused : Excused run) (site : Site γ) (acts : List (RunAct γ)) :
    Excused (run.actAll site acts) := by
  induction acts generalizing run with
  | nil => exact excused
  | cons act acts ih => exact ih (excused.act site act)

theorem requested_of_released (held : run.shutdown.released = false) {site : Site γ}
    {acts : List (RunAct γ)} (released : (run.actAll site acts).shutdown.released = true) :
    Requested acts := by
  induction acts generalizing run with
  | nil => exact absurd (released.symm.trans held) nofun
  | cons act acts ih =>
      have later (held : (run.act site act).shutdown.released = false) :
          Requested (act :: acts) :=
        (ih held released).imp (List.mem_cons_of_mem _) (List.mem_cons_of_mem _)
      cases act with
      | poll =>
          rcases act_poll site run with same | move
          · exact later (by rwa [same])
          · exact later (by rwa [shutdown_of_move move])
      | requestShutdown => exact .inl List.mem_cons_self
      | dropShutdown => exact .inr List.mem_cons_self
      | _ => exact later held

end LoggedRun

/-! ## The last documents -/

namespace Poller

variable {γ : Type} {before after : Poller γ}

/-- What has been handed out between two states is about the availability, or it was handed
out while polling went on. -/
def Speaks (before after : Poller γ) : Prop :=
  ∃ dispatches, after.dispatched = before.dispatched ++ dispatches ∧
    ∀ dispatch ∈ dispatches, dispatch.channel = .availability ∨ dispatch.state ≠ .shutdown

theorem Speaks.refl (poller : Poller γ) : Speaks poller poller :=
  ⟨[], (List.append_nil _).symm, nofun⟩

theorem Speaks.trans {first second third : Poller γ} (earlier : Speaks first second)
    (later : Speaks second third) : Speaks first third := by
  rcases earlier with ⟨dispatches, handedOut, allowed⟩
  rcases later with ⟨more, grown, permitted⟩
  refine ⟨dispatches ++ more, by rw [grown, handedOut, List.append_assoc], ?_⟩
  intro dispatch member
  exact (List.mem_append.mp member).elim (allowed dispatch) (permitted dispatch)

theorem speaks_dispatch (poller : Poller γ) {channel : Channel}
    (allowed : channel = .availability ∨ poller.state ≠ .shutdown) (document : String) :
    Speaks poller (poller.dispatch channel document) := by
  unfold dispatch
  split
  · exact Speaks.refl poller
  · exact ⟨_, rfl, by simpa using allowed⟩

theorem speaks_setState (time : Int) (state : ConnectionState) (poller : Poller γ) :
    Speaks poller (poller.setState time state) := by
  unfold setState
  simp only
  split
  · exact ⟨[], (List.append_nil _).symm, nofun⟩
  · exact speaks_dispatch { poller with state := state, availability := _ } (.inl rfl) _

theorem speaks_finish (gateway : Gateway γ) (time : Int) (poller : Poller γ) :
    Speaks poller (poller.finish gateway time) := by
  rw [finish_eq]
  exact speaks_dispatch { poller with state := .shutdown, availability := _ } (.inl rfl) _

/-- While polling goes on the documents of all channels are handed out. -/
theorem Changes.speaks (changes : Changes before after) (running : before.state ≠ .shutdown) :
    after.state ≠ .shutdown ∧ Speaks before after := by
  induction changes with
  | refl => exact ⟨running, Speaks.refl before⟩
  | @tail middle last _ change ih =>
      rcases ih with ⟨running, earlier⟩
      cases change with
      | surround state inbox identified => exact ⟨running, earlier⟩
      | enter time going =>
          exact ⟨by simpa using going, earlier.trans (speaks_setState time _ _)⟩
      | @commit _ polled snapshot document written =>
          have speaks : Speaks (polled.store ⟨snapshot, document⟩ middle)
              ((polled.store ⟨snapshot, document⟩ middle).dispatch polled.channel document) :=
            speaks_dispatch _ (.inr (by simpa using running)) document
          rw [Speaks, Polled.dispatched_store] at speaks
          exact ⟨by simpa using running, earlier.trans speaks⟩
      | subscribe channel subscriber => exact ⟨running, earlier⟩

end Poller

namespace LoggedRun

variable {γ : Type} {site : Site γ} {run next : LoggedRun γ}

theorem Sound.speaks_move (sound : Sound run) (seeks : Seeks run)
    (move : PollerRun.Move site.logged run next) : Poller.Speaks run.poller next.poller := by
  rcases sound.exists_goes seeks move with ⟨poller, goes, leads⟩
  have speaks := (goes.changes.speaks (sound.running (running_of_move move))).2
  rcases leads with ⟨-, rfl⟩ | ⟨cause, rfl⟩
  · exact speaks
  · exact speaks.trans (Poller.speaks_finish ..)

theorem Sound.speaks_act (sound : Sound run) (seeks : Seeks run) (site : Site γ)
    (act : RunAct γ) : Poller.Speaks run.poller (run.act site act).poller := by
  cases act with
  | poll =>
      rcases act_poll site run with same | move
      · rw [same]
        exact Poller.Speaks.refl _
      · exact sound.speaks_move seeks move
  | _ => exact ⟨[], (List.append_nil _).symm, nofun⟩

theorem Sound.speaks_actAll (sound : Sound run) (seeks : Seeks run) (site : Site γ)
    (acts : List (RunAct γ)) : Poller.Speaks run.poller (run.actAll site acts).poller := by
  induction acts generalizing run with
  | nil => exact Poller.Speaks.refl _
  | cons act acts ih =>
      exact (sound.speaks_act seeks site act).trans (ih (sound.act site act) (seeks.act site act))

/-! ## Once and for all -/

/-- The poller has ended, and the gateway has been shut down once, after every other call. -/
structure Closed (run : LoggedRun γ) : Prop where
  state_eq : run.poller.state = .shutdown
  log : ∃ (calls : List GatewayEntry) (events : List GatewayEvent),
    run.log = calls ++ .shutdown :: events.map .event ∧ .shutdown ∉ calls

/-- The gateway is shut down when the run ends, and not before. -/
structure Closes (run : LoggedRun γ) : Prop where
  running : run.activity.isOver = false → .shutdown ∉ run.log
  isOver : run.activity.isOver = true → Closed run

theorem LeadsTo.state_eq {poller : Poller (Logged γ)} (leads : LeadsTo site run poller next)
    (isOver : next.activity.isOver = true) : next.poller.state = .shutdown := by
  rcases leads with ⟨running, -⟩ | ⟨cause, rfl⟩
  · exact absurd (isOver.symm.trans running) nofun
  · exact Poller.state_finish ..

theorem Sound.closes_move (sound : Sound run) (seeks : Seeks run) (closes : Closes run)
    (move : PollerRun.Move site.logged run next) : Closes next := by
  have before := closes.running (running_of_move move)
  rcases sound.log_move seeks move with ⟨entries, log, none⟩
  constructor
  · intro running
    simp [log, closing, running, before, none]
  · intro isOver
    rcases sound.exists_goes seeks move with ⟨poller, goes, leads⟩
    refine ⟨leads.state_eq isOver, run.log ++ entries, [], ?_, by simp [before, none]⟩
    simp [log, closing, isOver]

theorem Sound.closes_act (sound : Sound run) (seeks : Seeks run) (closes : Closes run)
    (site : Site γ) (act : RunAct γ) : Closes (run.act site act) := by
  cases act with
  | poll =>
      rcases act_poll site run with same | move
      · rwa [same]
      · exact sound.closes_move seeks closes move
  | surround state events =>
      constructor
      · intro running
        have calm := closes.running running
        simpa [LoggedRun.act, log] using calm
      · intro isOver
        rcases closes.isOver isOver with ⟨ended, calls, more, log, none⟩
        refine ⟨ended, calls, more ++ events, ?_, none⟩
        change run.log ++ events.map .event = _
        rw [log, List.map_append, List.append_assoc, List.cons_append]
  | _ => exact ⟨closes.running, fun isOver => ⟨(closes.isOver isOver).1, (closes.isOver isOver).2⟩⟩

theorem Sound.closes_actAll (sound : Sound run) (seeks : Seeks run) (closes : Closes run)
    (site : Site γ) (acts : List (RunAct γ)) : Closes (run.actAll site acts) := by
  induction acts generalizing run with
  | nil => exact closes
  | cons act acts ih =>
      exact ih (sound.act site act) (seeks.act site act) (sound.closes_act seeks closes site act)

theorem closes_start (site : Site γ) (interval : Nat) (poller : Poller γ) :
    Closes (start site interval poller) := by
  rcases Poller.log_start site.gateway (site.timeOfDay 0)
    (poller.through fun state => ⟨state, []⟩) with ⟨events, log⟩
  have connects : (start site interval poller).log = [] ++ .connect :: events.map .event := log
  exact ⟨fun _ => by simp [connects], nofun⟩

/-- How a run ends that has come with troubles, after some acts. -/
structure EndsRightly (site : Site γ) (run : LoggedRun γ) (acts : List (RunAct γ))
    (troubles : List Trouble) : Prop where
  /-- It ends with an error only for the first fatal trouble, and with its error. -/
  failed (error : GatewayError) : run.activity = .ended (some error) →
    Trouble.FirstFatal troubles error
  /-- It ends without an error only on request, and if there has been no fatal trouble. -/
  excused : run.activity = .ended none →
    Requested acts ∧ ∀ trouble ∈ troubles, trouble.severity ≠ .fatal
  /-- It goes on after a fatal trouble only to the end of the tick. -/
  prompt : run.activity.isHalted = false → (∃ trouble ∈ troubles, trouble.severity = .fatal) →
    ∃ outcome, run.activity.outcome? = some outcome
  /-- The gateway is shut down at the end of the run and not before. -/
  closes : Closes run
  /-- After the end, or where a tick has broken down, nothing changes and nothing is handed
  out. -/
  final : run.activity.isHalted = true → ∀ later,
    (run.actAll site later).activity = run.activity ∧
      (run.actAll site later).poller.dispatched = run.poller.dispatched

end LoggedRun

/-- Over every gateway, in every run and after every list of acts: the run has ended with an
error only for the first fatal trouble (a reported error, a failed check or a failed
update), and without one only because shutdown has been requested or can no longer be; a
fatal trouble ends it at the end of the tick at the latest, unless the tick breaks down, and
no other trouble does.  Until it has ended the gateway is not shut down.  When it has ended
the state says so, the gateway has been shut down once, after every other call, and on the
polled channels nothing is handed out from the end of polling on. -/
theorem run_ends_rightly {γ : Type} (site : Site γ) (interval : Nat) (poller : Poller γ)
    (acts : List (RunAct γ)) :
    let start := LoggedRun.start site interval poller
    let run := start.actAll site acts
    run.EndsRightly site acts (LoggedRun.allTroubles site start acts) ∧
      Poller.Speaks start.poller run.poller := by
  intro start run
  have sound := LoggedRun.sound_start site interval poller
  have seeks := LoggedRun.seeks_start site interval poller
  have known (going : run.activity ≠ .broken) :
      run.activity.fatal? = Trouble.fatal? (LoggedRun.allTroubles site start acts) :=
    sound.fatal?_actAll seeks site acts going
  refine ⟨?_, sound.speaks_actAll seeks site acts⟩
  exact {
    failed := by
      intro error ended
      have found := known (by simp [ended])
      rw [ended] at found
      exact Trouble.firstFatal_of_fatal? found.symm
    excused := by
      intro ended
      have excused : LoggedRun.Excused start := nofun
      have released := excused.actAll site acts ended
      have found := known (by simp [ended])
      rw [ended] at found
      exact ⟨LoggedRun.requested_of_released rfl released,
        Trouble.fatal?_eq_none_iff.mp found.symm⟩
    prompt := by
      rintro going ⟨trouble, member, fatal⟩
      cases activity : run.activity with
      | ended cause => simp [activity, Activity.isHalted] at going
      | broken => simp [activity, Activity.isHalted] at going
      | identifying instant => exact ⟨_, rfl⟩
      | measuring outcome instant => exact ⟨_, rfl⟩
      | observing outcome instant => exact ⟨_, rfl⟩
      | _ =>
          have found := known (by simp [activity])
          rw [activity] at found
          exact absurd fatal (Trouble.fatal?_eq_none_iff.mp found.symm trouble member)
    closes := sound.closes_actAll seeks (LoggedRun.closes_start site interval poller) site acts
    final := fun halted later => LoggedRun.halted_actAll halted site later }

end InverterBridge
