import InverterBridge.Proofs.Poller.Recovery
import InverterBridge.Proofs.Poller.Updates

/-!
# The work of a move

What a move of the polling task makes of the poller: at most one attempt to update a
channel, and deeds, which are checks of the link, requests for a new one and changes of
state (`LoggedRun.Goes`).  Whatever is not said of the deeds here is said of each of them
in turn and holds of all of them in a row.

Most calls of the gateway are ordinary.  Two are not: the identity is asked for by a
move that identifies the device, and the gateway is shut down by a move that ends the
run, after everything else (`LoggedRun.log_move`).
-/

namespace InverterBridge

/-- An entry that ordinary work leaves in the log of the gateway. -/
inductive GatewayEntry.Ordinary : GatewayEntry → Prop
  | reconnect : Ordinary .reconnect
  | ask {question : Question} (other : question ≠ .fetchDeviceInfo) : Ordinary (.ask question)
  | event (event : GatewayEvent) : Ordinary (.event event)

theorem GatewayEntry.Ordinary.ne_identify {entry : GatewayEntry} (ordinary : entry.Ordinary) :
    entry ≠ .ask .fetchDeviceInfo := by
  rintro rfl
  cases ordinary
  contradiction

theorem GatewayEntry.Ordinary.ne_shutdown {entry : GatewayEntry} (ordinary : entry.Ordinary) :
    entry ≠ .shutdown := by
  rintro rfl
  cases ordinary

/-- Questions are ordinary unless they ask for the identity. -/
theorem GatewayEntry.ordinary_of_mem_map_ask {questions : List Question}
    (others : .fetchDeviceInfo ∉ questions) :
    ∀ entry ∈ questions.map GatewayEntry.ask, entry.Ordinary := by
  intro entry member
  rcases List.mem_map.mp member with ⟨question, asked, rfl⟩
  exact .ask (ne_of_mem_of_not_mem asked others)

/-- Whether an event reports the loss of the link. -/
def GatewayEvent.isLoss : GatewayEvent → Bool
  | .disconnected _ => true
  | _ => false

namespace Poller

/-! ## Deeds -/

section Deeds

variable {γ : Type} {gateway : Gateway γ} {before after : Poller γ}

/-- Something that a poller does beside updates. -/
inductive Deed (gateway : Gateway γ) : Poller γ → Poller γ → Prop
  /-- An event is taken out of the inbox. -/
  | take (poller : Poller γ) (rest : List GatewayEvent) :
      Deed gateway poller { poller with inbox := rest }
  /-- The device behind a new link is checked. -/
  | check (poller : Poller γ) :
      Deed gateway poller
        { poller with gateway := (gateway.ask .validate poller.gateway).2 }
  | reconnect (poller : Poller γ) : Deed gateway poller (poller.requestReconnect gateway)
  | enter (poller : Poller γ) (time : Int) {state : ConnectionState}
      (running : state ≠ .shutdown) : Deed gateway poller (poller.setState time state)

/-- Deeds one after the other. -/
def Deeds (gateway : Gateway γ) : Poller γ → Poller γ → Prop :=
  Relation.ReflTransGen (Deed gateway)

theorem Deed.deeds (deed : Deed gateway before after) : Deeds gateway before after :=
  Relation.ReflTransGen.single deed

theorem Deeds.refl (poller : Poller γ) : Deeds gateway poller poller :=
  Relation.ReflTransGen.refl

theorem Deeds.trans {middle : Poller γ} (first : Deeds gateway before middle)
    (second : Deeds gateway middle after) : Deeds gateway before after :=
  Relation.ReflTransGen.trans first second

/-- What every deed preserves, deeds in a row preserve. -/
theorem Deeds.preserve {Holds : Poller γ → Prop} (deeds : Deeds gateway before after)
    (preserved : ∀ {before after : Poller γ}, Deed gateway before after → Holds before →
      Holds after)
    (holds : Holds before) : Holds after := by
  induction deeds with
  | refl => exact holds
  | tail _ deed ih => exact preserved deed ih

theorem deeds_enter (gateway : Gateway γ) (poller : Poller γ) (time : Int)
    (state : ConnectionState) (running : state ≠ .shutdown) :
    Deeds gateway poller (poller.setState time state) :=
  (Deed.enter poller time running).deeds

theorem deeds_reconnect (gateway : Gateway γ) (poller : Poller γ) :
    Deeds gateway poller (poller.requestReconnect gateway) :=
  (Deed.reconnect poller).deeds

theorem deeds_handleConnected (gateway : Gateway γ) (time : Int) (poller : Poller γ) :
    Deeds gateway poller (poller.handleConnected gateway time).1 := by
  have checks : Deeds gateway poller
      { poller with gateway := (gateway.ask .validate poller.gateway).2 } :=
    (Deed.check poller).deeds
  unfold handleConnected
  split
  next answer state asking =>
    rw [asking] at checks
    cases answer with
    | ok valid => exact checks.trans (deeds_enter gateway _ time .connected (by decide))
    | error error =>
        simp only
        cases error.severity with
        | shutdown => exact checks
        | fatal => exact checks
        | transient =>
            exact (checks.trans (deeds_enter gateway _ time .disconnected (by decide))).trans
              (deeds_reconnect gateway _)

theorem deeds_handleError (gateway : Gateway γ) (time : Int) (error : GatewayError)
    (poller : Poller γ) :
    Deeds gateway poller (poller.handleError gateway time error).1 := by
  unfold handleError
  cases error.severity with
  | shutdown => exact Deeds.refl poller
  | fatal => exact Deeds.refl poller
  | transient =>
      exact ((deeds_enter gateway poller time .disconnected (by decide)).trans
        (deeds_reconnect gateway _)).trans (deeds_enter gateway _ time .connecting (by decide))

/-- With the loss of the link the identity is forgotten; the rest are deeds. -/
theorem deeds_handle (gateway : Gateway γ) (time : Int) {poller : Poller γ}
    (running : poller.state ≠ .shutdown) (event : GatewayEvent) :
    Deeds gateway { poller with identified := poller.identified && !event.isLoss }
      (poller.handle gateway time event).1 := by
  unfold handle
  rw [if_neg running]
  cases event with
  | connected => simpa [GatewayEvent.isLoss] using deeds_handleConnected gateway time poller
  | error error => simpa [GatewayEvent.isLoss] using deeds_handleError gateway time error poller
  | disconnected delay =>
      simpa [GatewayEvent.isLoss] using
        deeds_enter gateway { poller with identified := false } time .disconnected (by decide)

theorem deeds_afterTick (gateway : Gateway γ) (time : Int) (outcome : TickOutcome)
    (poller : Poller γ) : Deeds gateway poller (poller.afterTick gateway time outcome).1 := by
  by_cases all : outcome.AllTransient
  · rw [afterTick_of_allTransient _ _ _ all]
    exact (deeds_reconnect gateway poller).trans
      (deeds_enter gateway _ time .connecting (by decide))
  · rw [afterTick_of_not_allTransient _ _ _ all]
    exact Deeds.refl poller

/-- Deeds are changes. -/
theorem Deeds.changes (deeds : Deeds gateway before after) : Changes before after := by
  refine deeds.preserve (fun deed earlier => earlier.trans ?_) (Changes.refl before)
  cases deed with
  | take rest => exact changes_surround _ _ rest
  | check => exact changes_surround _ _ _
  | reconnect => exact changes_requestReconnect gateway _
  | enter time running => exact changes_setState _ time _ running

/-- Deeds leave the polled channels alone. -/
theorem Deeds.untouched {α : Type} (deeds : Deeds gateway before after) (polled : Polled α) :
    polled.Untouched before after := by
  refine deeds.preserve (fun deed earlier => earlier.trans ?_) (Polled.Untouched.refl polled before)
  cases deed with
  | take rest => cases polled <;> exact ⟨rfl, rfl⟩
  | check => exact polled.untouched_gateway _ _
  | reconnect => cases polled <;> exact ⟨rfl, rfl⟩
  | enter time running => exact polled.untouched_setState _ time _

end Deeds

variable {γ : Type} (gateway : Gateway γ) (time : Int)

@[simp]
theorem identified_dispatch {poller : Poller γ} {channel : Channel} {document : String} :
    (poller.dispatch channel document).identified = poller.identified := by
  rw [dispatch_eq]

@[simp]
theorem identified_setState (state : ConnectionState) (poller : Poller γ) :
    (poller.setState time state).identified = poller.identified := by
  rw [setState_eq]

/-! ## Ordinary work -/

/-- Ordinary work leads from one poller to another. -/
structure Works (before after : Poller (Logged γ)) : Prop where
  log : ∃ entries, after.gateway.log = before.gateway.log ++ entries ∧
    ∀ entry ∈ entries, entry.Ordinary
  identified_eq : after.identified = before.identified
  documents_eq : after.documentsOn .device = before.documentsOn .device

theorem Works.refl (poller : Poller (Logged γ)) : Works poller poller :=
  ⟨⟨[], (List.append_nil _).symm, nofun⟩, rfl, rfl⟩

theorem Works.trans {first second third : Poller (Logged γ)} (before : Works first second)
    (after : Works second third) : Works first third := by
  refine ⟨?_, after.identified_eq.trans before.identified_eq,
    after.documents_eq.trans before.documents_eq⟩
  rcases before.log with ⟨entries, log, ordinary⟩
  rcases after.log with ⟨later, grown, usual⟩
  refine ⟨entries ++ later, by rw [grown, log, List.append_assoc], ?_⟩
  intro entry member
  exact (List.mem_append.mp member).elim (ordinary entry) (usual entry)

theorem works_requestReconnect (poller : Poller (Logged γ)) :
    Works poller (poller.requestReconnect gateway.logged) := by
  refine ⟨?_, rfl, rfl⟩
  rcases log_requestReconnect gateway poller with ⟨events, log⟩
  refine ⟨.reconnect :: events.map .event, log, ?_⟩
  rintro entry (_ | ⟨_, later⟩)
  · exact .reconnect
  · rcases List.mem_map.mp later with ⟨event, -, rfl⟩
    exact .event event

/-- Deeds are ordinary work. -/
theorem Deeds.works {before after : Poller (Logged γ)}
    (deeds : Deeds gateway.logged before after) : Works before after := by
  refine deeds.preserve (fun deed earlier => earlier.trans ?_) (Works.refl before)
  cases deed with
  | take rest => exact ⟨⟨[], (List.append_nil _).symm, nofun⟩, rfl, rfl⟩
  | check =>
      exact ⟨⟨[.ask .validate], rfl, by simpa using GatewayEntry.Ordinary.ask (by decide)⟩,
        rfl, rfl⟩
  | reconnect => exact works_requestReconnect gateway _
  | enter time running => exact ⟨⟨[], by simp, nofun⟩, by simp, by simp⟩

/-! ## Attempts -/

/-- The log of a survey is that of its questions. -/
theorem log_survey {α : Type} (survey : Survey α) (logged : Logged γ) :
    (survey.run gateway.logged logged).2.log =
      logged.log ++ (survey.questions gateway.logged logged).map .ask := by
  induction survey generalizing logged with
  | done value => simp [Survey.questions]
  | fail error => simp [Survey.questions]
  | ask question next ih =>
      rw [Survey.run_ask, ih, Survey.questions, List.map_cons, List.append_cons]
      rfl

variable {gateway time} {before after : Poller (Logged γ)}

/-- To read measurements or events is ordinary work. -/
theorem Attempt.works {α : Type} {polled : Polled α}
    (attempt : Attempt polled gateway.logged time before after)
    (other : polled.channel ≠ .device) : Works before after where
  log := by
    refine ⟨_, by rw [attempt.gateway_eq, log_survey],
      GatewayEntry.ordinary_of_mem_map_ask fun asked => ?_⟩
    -- Of the questions of the survey the fetch alone goes to the device.
    have only := (polled.fetches_survey time).linkQuestions polled.needsLink_fetch gateway.logged
      before.gateway
    have fetched : .fetchDeviceInfo ∈ List.filter Question.needsLink _ :=
      List.mem_filter.mpr ⟨asked, rfl⟩
    rw [only, List.mem_singleton] at fetched
    cases polled <;> contradiction
  identified_eq := by
    cases polled with
    | device => contradiction
    | values => cases attempt <;> simp [Polled.store]
    | events => cases attempt <;> simp [Polled.store]
  documents_eq := (attempt.untouched other : Polled.device.Untouched before after).documents_eq

/-- An attempt to read the identity asks for it first and then makes ordinary calls. -/
theorem Attempt.log_identity (attempt : Attempt .device gateway.logged time before after) :
    ∃ entries, after.gateway.log = before.gateway.log ++ .ask .fetchDeviceInfo :: entries ∧
      ∀ entry ∈ entries, entry.Ordinary := by
  obtain ⟨later, begins⟩ : ∃ later,
      DeviceSnapshot.survey.questions gateway.logged before.gateway = .fetchDeviceInfo :: later :=
    ⟨_, rfl⟩
  have log := log_survey gateway DeviceSnapshot.survey before.gateway
  have only := DeviceSnapshot.fetches_survey.linkQuestions rfl gateway.logged before.gateway
  rw [begins] at log
  rw [begins, List.filter_cons_of_pos rfl, List.cons_inj_right, List.filter_eq_nil_iff] at only
  refine ⟨later.map .ask, ?_, GatewayEntry.ordinary_of_mem_map_ask fun asked => only _ asked rfl⟩
  rw [attempt.gateway_eq]
  exact log

/-! ## The end of polling -/

/-- The end of polling announces that the device is offline, whatever the state. -/
theorem finish_eq (gateway : Gateway γ) (time : Int) (poller : Poller γ) :
    poller.finish gateway time =
      { { poller with state := .shutdown }.dispatchAvailability time false with
        gateway := gateway.shutdown poller.gateway } := by
  have last : poller.finish gateway time =
      { { poller with state := .shutdown }.dispatchAvailability time false with
        gateway := gateway.shutdown
          ({ poller with state := .shutdown }.dispatchAvailability time false).gateway } := by
    unfold finish setState
    cases poller.state.isOnline <;> rfl
  rw [last, dispatchAvailability, gateway_dispatch]

@[simp]
theorem identified_finish (gateway : Gateway γ) (time : Int) (poller : Poller γ) :
    (poller.finish gateway time).identified = poller.identified := by
  simp [finish_eq, dispatchAvailability]

@[simp]
theorem state_finish (gateway : Gateway γ) (time : Int) (poller : Poller γ) :
    (poller.finish gateway time).state = .shutdown := by
  simp [finish_eq, dispatchAvailability]

@[simp]
theorem subscribers_finish (gateway : Gateway γ) (time : Int) (poller : Poller γ) :
    (poller.finish gateway time).subscribers = poller.subscribers := by
  simp [finish_eq, dispatchAvailability]

/-- Of the polled channels none is told about the end. -/
theorem documentsOn_finish {channel : Channel} (polled : channel ≠ .availability)
    (gateway : Gateway γ) (time : Int) (poller : Poller γ) :
    (poller.finish gateway time).documentsOn channel = poller.documentsOn channel := by
  rw [finish_eq]
  exact documentsOn_dispatch_of_ne polled.symm _

end Poller

namespace LoggedRun

variable {γ : Type} {site : Site γ} {run next : LoggedRun γ}

/-! ## Moves -/

/-- Whether the next move handles the loss of the link. -/
def losesLink (run : LoggedRun γ) : Bool :=
  match run.activity with
  | .handling event _ => event.isLoss
  | _ => false

/-- The channel that the next move updates, if it updates one. -/
def updates? (run : LoggedRun γ) : Option Channel :=
  match run.activity with
  | .identifying _ => some .device
  | .measuring _ _ => some .values
  | .observing _ _ => some .events
  | _ => none

/-- Whether the next move identifies the device. -/
def identifies (run : LoggedRun γ) : Bool :=
  run.updates? == some .device

/-- The device is identified only while it is not known. -/
def Seeks (run : LoggedRun γ) : Prop :=
  run.identifies = true → run.poller.identified = false

theorem identifies_endTick (run : LoggedRun γ) (outcome : TickOutcome) :
    LoggedRun.identifies (run.endTick site.logged outcome) = false := by
  rcases PollerRun.endTick_cases site.logged outcome run with
    ⟨_, _, ends⟩ | ⟨_, ends⟩ <;> rw [ends] <;> rfl

theorem identifies_beginEvents (run : LoggedRun γ) (reached : Option TickOutcome) :
    LoggedRun.identifies (run.beginEvents site.logged reached) = false := by
  cases reached <;> rfl

theorem seeks_of_move (move : PollerRun.Move site.logged run next) : Seeks next := by
  intro identifies
  cases move with
  | quit waits released => contradiction
  | @take event rest waits held arrived => cases event <;> contradiction
  | tick waits held quiet due =>
      unfold PollerRun.beginTick at identifies ⊢
      split at identifies
      next connected =>
        split at identifies
        · contradiction
        next unknown => simp [connected, unknown]
      next => rw [identifies_endTick] at identifies; contradiction
  | @handle event instant handles due =>
      cases flow : (run.poller.handle site.logged.gateway (run.time site.logged) event).2 with
      | proceed => rw [flow] at identifies; contradiction
      | stop error => rw [flow] at identifies; contradiction
  | identify identifies due => contradiction
  | measure measures due => rw [identifies_beginEvents] at identifies; contradiction
  | observe observes due => rw [identifies_endTick] at identifies; contradiction

theorem Seeks.act (seeks : Seeks run) (site : Site γ) (act : RunAct γ) :
    Seeks (run.act site act) := by
  cases act with
  | poll =>
      rcases act_poll site run with same | move
      · rwa [same]
      · exact seeks_of_move move
  | _ => exact seeks

theorem seeks_start (site : Site γ) (interval : Nat) (poller : Poller γ) :
    Seeks (start site interval poller) :=
  nofun

/-- What a move makes of the poller before the run may end. -/
inductive Goes (site : Site γ) (run : LoggedRun γ) : Poller (Logged γ) → Prop
  /-- Nothing is updated.  With the loss of the link the identity is forgotten. -/
  | deeds {poller : Poller (Logged γ)} (idle : run.updates? = none)
      (deeds : Poller.Deeds site.gateway.logged
        { run.poller with identified := run.poller.identified && !run.losesLink } poller) :
      Goes site run poller
  /-- There is an attempt to update a channel. -/
  | attempt {α : Type} (polled : Polled α) {attempted poller : Poller (Logged γ)}
      (updates : run.updates? = some polled.channel)
      (attempt : Poller.Attempt polled site.gateway.logged (run.time site.logged) run.poller
        attempted)
      (deeds : Poller.Deeds site.gateway.logged attempted poller) : Goes site run poller

theorem goes_of_deeds {poller : Poller (Logged γ)} (idle : run.updates? = none)
    (kept : run.losesLink = false)
    (deeds : Poller.Deeds site.gateway.logged run.poller poller) : Goes site run poller :=
  .deeds idle (by simpa [kept] using deeds)

/-- A task that has ended or broken down makes no moves. -/
theorem going_of_move (move : PollerRun.Move site.logged run next) :
    run.activity.isHalted = false := by
  cases move <;> simp [*, Activity.isHalted]

theorem running_of_move (move : PollerRun.Move site.logged run next) :
    run.activity.isOver = false :=
  Activity.isOver_of_not_isHalted (going_of_move move)

/-- What the poller has come to is the poller of the next run, or the run ends with it. -/
def LeadsTo (site : Site γ) (run : LoggedRun γ) (poller : Poller (Logged γ))
    (next : LoggedRun γ) : Prop :=
  (next.activity.isOver = false ∧ next.poller = poller) ∨
    ∃ cause, next = { run with poller := poller }.finish site.logged cause

theorem leadsTo_follow (poller : Poller (Logged γ)) (flow : Flow) :
    LeadsTo site run poller ({ run with poller := poller }.follow site.logged flow) := by
  cases flow with
  | proceed => exact .inl ⟨rfl, rfl⟩
  | stop error => exact .inr ⟨some error, rfl⟩

/-- A tick ends with its recovery. -/
theorem leadsTo_endTick (poller : Poller (Logged γ)) (outcome : TickOutcome) :
    LeadsTo site run
      (poller.afterTick site.gateway.logged (run.time site.logged) outcome).1
      ({ run with poller := poller }.endTick site.logged outcome) := by
  rcases PollerRun.endTick_cases site.logged outcome { run with poller := poller } with
    ⟨error, _, ends⟩ | ⟨_, ends⟩ <;> rw [ends]
  · exact .inr ⟨some error, rfl⟩
  · exact .inl ⟨rfl, rfl⟩

/-- Every move makes something of the poller, and then the run goes on or ends. -/
theorem Sound.exists_goes (sound : Sound run) (seeks : Seeks run)
    (move : PollerRun.Move site.logged run next) :
    ∃ poller, Goes site run poller ∧ LeadsTo site run poller next := by
  let gateway := site.gateway.logged
  let time := run.time site.logged
  cases move with
  | quit waits released =>
      exact ⟨run.poller, goes_of_deeds (by simp [updates?, waits]) (by simp [losesLink, waits])
        (.refl _), .inr ⟨none, rfl⟩⟩
  | @take event rest waits held arrived =>
      refine ⟨_, goes_of_deeds (by simp [updates?, waits]) (by simp [losesLink, waits])
        (Poller.Deed.take run.poller rest).deeds, .inl ?_⟩
      cases event <;> exact ⟨rfl, rfl⟩
  | tick waits held quiet due =>
      have idle : run.updates? = none := by simp [updates?, waits]
      have kept : run.losesLink = false := by simp [losesLink, waits]
      unfold PollerRun.beginTick
      split
      · refine ⟨run.poller, goes_of_deeds idle kept (.refl _), .inl ?_⟩
        split <;> exact ⟨rfl, rfl⟩
      · exact ⟨_, goes_of_deeds idle kept
          (Poller.deeds_afterTick gateway time .skipped run.poller),
          leadsTo_endTick run.poller .skipped⟩
  | @handle event instant handles due =>
      have running := sound.running (by rw [handles]; rfl)
      refine ⟨_, .deeds (by simp [updates?, handles]) ?_, leadsTo_follow _ _⟩
      rw [losesLink, handles]
      exact Poller.deeds_handle gateway time running event
  | identify identifies due =>
      have updates : run.updates? = some .device := by simp [updates?, identifies]
      have unknown := seeks (by simp [LoggedRun.identifies, updates])
      exact ⟨_, .attempt .device updates (Poller.attempt_tickIdentity unknown gateway time .begun)
        (.refl _), .inl ⟨rfl, rfl⟩⟩
  | @measure outcome instant measures due =>
      have updates : run.updates? = some .values := by simp [updates?, measures]
      exact ⟨_, .attempt .values updates (Poller.attempt_tickValues gateway time outcome run.poller)
        (.refl _), .inl ⟨PollerRun.isOver_beginEvents _, rfl⟩⟩
  | @observe outcome instant observes due =>
      let observed := run.poller.tickEvents gateway time outcome
      have updates : run.updates? = some .events := by simp [updates?, observes]
      exact ⟨_, .attempt .events updates (Poller.attempt_tickEvents gateway time outcome run.poller)
        (Poller.deeds_afterTick gateway time observed.1 observed.2),
        leadsTo_endTick observed.2 observed.1⟩

/-- Whatever a move makes of the poller, it is made of changes. -/
theorem Goes.changes {poller : Poller (Logged γ)} (goes : Goes site run poller) :
    Poller.Changes run.poller poller := by
  cases goes with
  | deeds idle deeds =>
      exact (Poller.Change.surround run.poller run.poller.gateway run.poller.inbox _).changes.trans
        deeds.changes
  | attempt polled updates attempt deeds => exact attempt.changes.trans deeds.changes

/-- A move that does not identify the device does ordinary work. -/
theorem Goes.works {poller : Poller (Logged γ)} (goes : Goes site run poller)
    (other : run.identifies = false) :
    Poller.Works { run.poller with identified := run.poller.identified && !run.losesLink }
      poller := by
  cases goes with
  | deeds idle deeds => exact deeds.works
  | attempt polled updates attempt deeds =>
      have kept : run.losesLink = false := by
        cases activity : run.activity <;> simp_all [updates?, losesLink]
      have different : polled.channel ≠ .device := by
        rintro same
        simp [identifies, updates, same] at other
      simpa [kept] using (attempt.works different).trans deeds.works

/-- A move that identifies the device attempts to, and then does ordinary work. -/
theorem Goes.identity {poller : Poller (Logged γ)} (goes : Goes site run poller)
    (identifies : run.identifies = true) :
    ∃ attempted, Poller.Attempt .device site.gateway.logged (run.time site.logged) run.poller
      attempted ∧ Poller.Works attempted poller := by
  have updates : run.updates? = some .device := by
    simpa [LoggedRun.identifies] using identifies
  cases goes with
  | deeds idle deeds => simp [idle] at updates
  | @attempt _ polled attempted _ same attempt deeds =>
      rw [updates] at same
      cases polled with
      | device => exact ⟨attempted, attempt, deeds.works⟩
      | values => contradiction
      | events => contradiction

/-- The call of a move that ends the run. -/
def closing (run : LoggedRun γ) : List GatewayEntry :=
  if run.activity.isOver then [.shutdown] else []

section

variable {poller : Poller (Logged γ)} (leads : LeadsTo site run poller next)

include leads

/-- The end of the gateway is the last call of a move. -/
theorem LeadsTo.log_eq : next.log = poller.gateway.log ++ next.closing := by
  rcases leads with ⟨running, rfl⟩ | ⟨cause, rfl⟩
  · rw [closing, running]
    exact (List.append_nil _).symm
  · exact congrArg Logged.log (Poller.gateway_finish site.gateway.logged _ poller)

theorem LeadsTo.identified_eq : next.poller.identified = poller.identified := by
  rcases leads with ⟨-, rfl⟩ | ⟨cause, rfl⟩
  · rfl
  · exact Poller.identified_finish ..

theorem LeadsTo.documents_eq {channel : Channel} (polled : channel ≠ .availability) :
    next.poller.documentsOn channel = poller.documentsOn channel := by
  rcases leads with ⟨-, rfl⟩ | ⟨cause, rfl⟩
  · rfl
  · exact Poller.documentsOn_finish polled ..

theorem LeadsTo.subscribers_eq : next.poller.subscribers = poller.subscribers := by
  rcases leads with ⟨-, rfl⟩ | ⟨cause, rfl⟩
  · rfl
  · exact Poller.subscribers_finish ..

end

/-- A move shuts the gateway down if it ends the run, and then as the last thing. -/
theorem Sound.log_move (sound : Sound run) (seeks : Seeks run)
    (move : PollerRun.Move site.logged run next) :
    ∃ entries, next.log = run.log ++ entries ++ next.closing ∧ .shutdown ∉ entries := by
  rcases sound.exists_goes seeks move with ⟨poller, goes, leads⟩
  suffices ∃ entries, poller.gateway.log = run.log ++ entries ∧ .shutdown ∉ entries by
    rcases this with ⟨entries, log, none⟩
    exact ⟨entries, by rw [leads.log_eq, log], none⟩
  cases identifies : run.identifies with
  | false =>
      rcases (goes.works identifies).log with ⟨entries, log, ordinary⟩
      exact ⟨entries, log, fun ends => (ordinary _ ends).ne_shutdown rfl⟩
  | true =>
      rcases goes.identity identifies with ⟨attempted, attempt, works⟩
      rcases attempt.log_identity with ⟨entries, log, ordinary⟩
      rcases works.log with ⟨later, grown, usual⟩
      refine ⟨.ask .fetchDeviceInfo :: entries ++ later, ?_, ?_⟩
      · rw [grown, log, List.append_assoc]
        rfl
      · rintro ends
        simp only [List.cons_append, List.mem_cons, reduceCtorEq, List.mem_append,
          false_or] at ends
        exact ends.elim (fun first => (ordinary _ first).ne_shutdown rfl)
          fun second => (usual _ second).ne_shutdown rfl

end LoggedRun

end InverterBridge
