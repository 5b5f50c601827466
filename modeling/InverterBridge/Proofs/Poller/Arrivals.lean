import InverterBridge.Proofs.Poller.Calls

/-!
# The arrival of events

The log of a gateway has every event that the gateway has sent.  Whatever a poller does, it puts
what arrives meanwhile at the end of its inbox, in the order of arrival (`Poller.Receives`); the
task takes events from the front.  So with every move of the task the events that had been waiting
are those that the move applies, followed by those that wait after it (`LoggedRun.pending_of_move`).
-/

namespace InverterBridge

/-- The event that an entry of a log records. -/
def GatewayEntry.event? : GatewayEntry → Option GatewayEvent
  | .event sent => some sent
  | _ => none

theorem GatewayEntry.filterMap_event (events : List GatewayEvent) :
    (events.map GatewayEntry.event).filterMap GatewayEntry.event? = events := by
  induction events with
  | nil => rfl
  | cons first events ih =>
      have records : (GatewayEntry.event first).event? = some first := rfl
      rw [List.map_cons, List.filterMap_cons_some records, ih]

/-- Of a call and the events that come with it the events are recorded. -/
theorem GatewayEntry.filterMap_call {call : GatewayEntry} (silent : call.event? = none)
    (events : List GatewayEvent) :
    (call :: events.map GatewayEntry.event).filterMap GatewayEntry.event? = events := by
  rw [List.filterMap_cons_none silent, filterMap_event]

theorem GatewayEntry.filterMap_ask (questions : List Question) :
    (questions.map GatewayEntry.ask).filterMap GatewayEntry.event? = [] := by
  simp [List.filterMap_map, event?]

namespace Poller

variable {γ : Type}

/-- The events that the gateway of a poller has sent, oldest first. -/
def arrivals (poller : Poller (Logged γ)) : List GatewayEvent :=
  poller.gateway.log.filterMap GatewayEntry.event?

/-- What arrives between two states of a poller is put at the end of the inbox. -/
def Receives (before after : Poller (Logged γ)) : Prop :=
  ∃ events, after.arrivals = before.arrivals ++ events ∧ after.inbox = before.inbox ++ events

section

variable {before after : Poller (Logged γ)} {gateway : Gateway γ} {time : Int}

/-- Nothing arrives. -/
theorem receives_of_eq (arrivals : after.arrivals = before.arrivals)
    (inbox : after.inbox = before.inbox) : Receives before after :=
  ⟨[], by rw [arrivals, List.append_nil], by rw [inbox, List.append_nil]⟩

theorem Receives.refl (poller : Poller (Logged γ)) : Receives poller poller :=
  receives_of_eq rfl rfl

theorem Receives.trans {middle : Poller (Logged γ)} (first : Receives before middle)
    (second : Receives middle after) : Receives before after := by
  obtain ⟨earlier, arrived, received⟩ := first
  obtain ⟨later, arrivedLater, receivedLater⟩ := second
  exact ⟨earlier ++ later, by rw [arrivedLater, arrived, List.append_assoc],
    by rw [receivedLater, received, List.append_assoc]⟩

theorem receives_setState (time : Int) (state : ConnectionState) (poller : Poller (Logged γ)) :
    Receives poller (poller.setState time state) :=
  receives_of_eq (by simp [arrivals]) (by simp)

/-- The gateway sends events with a new link that is asked for. -/
theorem receives_requestReconnect (gateway : Gateway γ) (poller : Poller (Logged γ)) :
    Receives poller (poller.requestReconnect gateway.logged) := by
  refine ⟨(gateway.reconnect poller.gateway.state).1, List.filterMap_append.trans ?_, rfl⟩
  exact congrArg (poller.arrivals ++ ·) (GatewayEntry.filterMap_call rfl _)

/-- The gateway sends events when it begins to connect. -/
theorem receives_start (gateway : Gateway γ) (time : Int) (poller : Poller (Logged γ)) :
    Receives poller (poller.start gateway.logged time) := by
  let connecting := poller.setState time .connecting
  have connects : Receives connecting (poller.start gateway.logged time) := by
    refine ⟨(gateway.connect connecting.gateway.state).1, List.filterMap_append.trans ?_, rfl⟩
    exact congrArg (connecting.arrivals ++ ·) (GatewayEntry.filterMap_call rfl _)
  exact (receives_setState time .connecting poller).trans connects

/-- The check of a device leaves the inbox alone. -/
theorem receives_check (gateway : Gateway γ) (question : Question) (poller : Poller (Logged γ)) :
    Receives poller
      { poller with gateway := (gateway.logged.ask question poller.gateway).2 } :=
  receives_of_eq (by simp [arrivals, Gateway.logged, GatewayEntry.event?]) rfl

theorem receives_handleConnected (gateway : Gateway γ) (time : Int) (poller : Poller (Logged γ)) :
    Receives poller (poller.handleConnected gateway.logged time).1 := by
  have checked := receives_check gateway .validate poller
  unfold handleConnected
  split
  next answer state asking =>
    rw [asking] at checked
    cases answer with
    | ok valid => exact checked.trans (receives_setState time .connected _)
    | error error =>
        simp only
        cases error.severity with
        | shutdown => exact checked
        | fatal => exact checked
        | transient =>
            exact (checked.trans (receives_setState time .disconnected _)).trans
              (receives_requestReconnect gateway _)

theorem receives_handleError (gateway : Gateway γ) (time : Int) (error : GatewayError)
    (poller : Poller (Logged γ)) :
    Receives poller (poller.handleError gateway.logged time error).1 := by
  unfold handleError
  cases error.severity with
  | shutdown => exact .refl poller
  | fatal => exact .refl poller
  | transient =>
      exact ((receives_setState time .disconnected poller).trans
        (receives_requestReconnect gateway _)).trans (receives_setState time .connecting _)

/-- While an event is applied others may arrive. -/
theorem receives_handle (gateway : Gateway γ) (time : Int) (event : GatewayEvent)
    (poller : Poller (Logged γ)) :
    Receives poller (poller.handle gateway.logged time event).1 := by
  unfold handle
  split
  · exact .refl poller
  · cases event with
    | connected => exact receives_handleConnected gateway time poller
    | disconnected delay =>
        exact (receives_of_eq rfl rfl).trans (receives_setState time .disconnected _)
    | error error => exact receives_handleError gateway time error poller

theorem receives_afterTick (gateway : Gateway γ) (time : Int) (outcome : TickOutcome)
    (poller : Poller (Logged γ)) :
    Receives poller (poller.afterTick gateway.logged time outcome).1 := by
  by_cases all : outcome.AllTransient
  · rw [afterTick_of_allTransient _ _ _ all]
    exact (receives_requestReconnect gateway poller).trans (receives_setState time .connecting _)
  · rw [afterTick_of_not_allTransient _ _ _ all]
    exact .refl poller

/-- During an attempt to update a channel the gateway is asked questions only. -/
theorem Attempt.receives {α : Type} {polled : Polled α}
    (attempt : Attempt polled gateway.logged time before after) : Receives before after := by
  refine receives_of_eq ?_ attempt.inbox_eq
  rw [arrivals, attempt.gateway_eq, log_survey, List.filterMap_append,
    GatewayEntry.filterMap_ask, List.append_nil, arrivals]

theorem receives_tickIdentity (gateway : Gateway γ) (time : Int) (outcome : TickOutcome)
    (poller : Poller (Logged γ)) :
    Receives poller (poller.tickIdentity gateway.logged time outcome).2 := by
  cases identified : poller.identified with
  | true =>
      rw [tickIdentity_of_identified identified]
      exact .refl poller
  | false => exact (attempt_tickIdentity identified gateway.logged time outcome).receives

/-- The end of polling sends nothing. -/
theorem receives_finish (gateway : Gateway γ) (time : Int) (poller : Poller (Logged γ)) :
    Receives poller (poller.finish gateway.logged time) := by
  rw [finish_eq]
  exact receives_of_eq
    (by simp [arrivals, Gateway.logged, GatewayEntry.event?])
    (by simp [dispatchAvailability])

end

end Poller

/-- The event that is being applied. -/
def Activity.event? : Activity → Option GatewayEvent
  | .handling event _ => some event
  | _ => none

namespace LoggedRun

variable {γ : Type} {site : Site γ} {run next : LoggedRun γ}

/-- The events that have arrived and have not been applied yet. -/
def pending (run : LoggedRun γ) : List GatewayEvent :=
  run.activity.event?.toList ++ run.poller.inbox

/-- What has come to a poller with some inbox: the run that goes on with it, or that ends with it,
applies no event. -/
theorem LeadsTo.receives {poller : Poller (Logged γ)} (leads : LeadsTo site run poller next) :
    Poller.Receives poller next.poller := by
  rcases leads with ⟨-, rfl⟩ | ⟨cause, rfl⟩
  · exact .refl next.poller
  · exact Poller.receives_finish site.gateway _ poller

theorem receives_follow (poller : Poller (Logged γ)) (flow : Flow) :
    Poller.Receives poller
      ({ run with poller := poller }.follow site.logged flow).poller :=
  have leads : LeadsTo site run poller _ := leadsTo_follow poller flow
  leads.receives

theorem receives_endTick (run : LoggedRun γ) (outcome : TickOutcome) :
    Poller.Receives run.poller (run.endTick site.logged outcome).poller :=
  have leads : LeadsTo site run _ (run.endTick site.logged outcome) :=
    leadsTo_endTick run.poller outcome
  (Poller.receives_afterTick site.gateway (run.time site.logged) outcome run.poller).trans
    leads.receives

/-- What a run that applies no event has received waits at the end. -/
theorem pending_of_receives (idle : next.activity.event? = none)
    (receives : Poller.Receives run.poller next.poller) :
    ∃ events, next.poller.arrivals = run.poller.arrivals ++ events ∧
      run.pending ++ events = run.activity.event?.toList ++ next.pending := by
  obtain ⟨events, arrived, received⟩ := receives
  refine ⟨events, arrived, ?_⟩
  rw [pending, pending, idle, received, List.append_assoc]
  rfl

theorem event?_beginEvents (run : LoggedRun γ) (reached : Option TickOutcome) :
    Activity.event? (run.beginEvents site.logged reached).activity = none := by
  cases reached <;> rfl

/-- After a tick no event is being applied. -/
theorem event?_endTick (run : LoggedRun γ) (outcome : TickOutcome) :
    Activity.event? (run.endTick site.logged outcome).activity = none := by
  rcases PollerRun.endTick_cases site.logged outcome run with
    ⟨_, _, ends⟩ | ⟨_, ends⟩ <;> rw [ends] <;> rfl

/-- What had been waiting before a move and what has arrived meanwhile has been applied by the move
or waits after it, all in the order of arrival. -/
theorem pending_of_move (move : PollerRun.Move site.logged run next) :
    ∃ events, next.poller.arrivals = run.poller.arrivals ++ events ∧
      run.pending ++ events = run.activity.event?.toList ++ next.pending := by
  cases move with
  | quit waits released =>
      exact pending_of_receives rfl (Poller.receives_finish site.gateway _ run.poller)
  | @take event rest waits held arrived =>
      refine ⟨[], ?_, ?_⟩
      · cases event <;> exact (List.append_nil _).symm
      · rw [List.append_nil, pending, arrived, waits]
        cases event <;> rfl
  | tick waits held quiet due =>
      unfold PollerRun.beginTick
      split
      · split <;> exact pending_of_receives rfl (.refl run.poller)
      · exact pending_of_receives (event?_endTick run .skipped) (receives_endTick run .skipped)
  | @handle event instant handles due =>
      refine pending_of_receives ?_ ((Poller.receives_handle site.gateway _ event run.poller).trans
        (receives_follow _ _))
      unfold PollerRun.follow
      split <;> rfl
  | identify identifies due =>
      exact pending_of_receives rfl
        (Poller.receives_tickIdentity site.gateway _ .begun run.poller)
  | @measure outcome instant measures due =>
      exact pending_of_receives (event?_beginEvents _ _)
        (Poller.attempt_tickValues site.gateway.logged _ outcome run.poller).receives
  | @observe outcome instant observes due =>
      refine pending_of_receives (event?_endTick _ _) ?_
      exact (Poller.attempt_tickEvents site.gateway.logged _ outcome run.poller).receives.trans
        (receives_endTick { run with poller := _ } _)

/-- Nothing has been taken out of the inbox when a run begins. -/
theorem pending_start (site : Site γ) (interval : Nat) (poller : Poller γ) :
    (start site interval poller).pending =
      poller.inbox ++ (start site interval poller).poller.arrivals := by
  obtain ⟨events, arrived, received⟩ := Poller.receives_start site.gateway (site.timeOfDay 0)
    (poller.through fun state => ⟨state, []⟩)
  have silent : (poller.through fun state => (⟨state, []⟩ : Logged γ)).arrivals = [] := rfl
  rw [silent, List.nil_append] at arrived
  subst arrived
  exact received

end LoggedRun

end InverterBridge
