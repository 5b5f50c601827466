import InverterBridge.Proofs.Modbus.Supervised
import Mathlib.Data.List.Induction

/-!
# Requests for a new link

A poller asks for a new link by leaving a request, which the supervisor may find
at any later time.  No request outlives the link it is about.  The reason is a
permit that is passed along: an event that says that the link is up brings it
into the inbox, the poller takes it with the event, spends it on a request, and
the supervisor uses it up when it drops the link.  `Supervised.permits` counts
the permits, and `Supervised.Orderly` says that there is at most one, and none
while the link is down.

The log of the gateway shows the same from outside.  `LinkStage.after?` reads a
log as a sequence of links, each of which comes up, is asked to go down at most
once, and goes down.
-/

namespace InverterBridge

/-! ## The order of the log -/

/-- What the log of a gateway says of its link. -/
inductive LinkStage where
  | down
  | up
  /-- Up, and a new link has been asked for. -/
  | asked
  deriving DecidableEq

namespace LinkStage

/-- The stage after an entry, none where the entry is out of turn. -/
def next? : LinkStage → GatewayEntry → Option LinkStage
  | .down, .event .connected => some .up
  | .down, .event (.disconnected _) => some .down
  | .down, .event (.error _) => some .down
  | .up, .reconnect => some .asked
  | .asked, .event (.disconnected _) => some .down
  | stage, .connect => some stage
  | stage, .shutdown => some stage
  | stage, .ask _ => some stage
  | _, _ => none

/-- The stage after a log, none where an entry is out of turn. -/
def after? (log : List GatewayEntry) : Option LinkStage :=
  log.foldlM next? .down

/-- The stage of the link of a supervisor. -/
def ofSupervisor (supervisor : Supervisor) : LinkStage :=
  match supervisor.linked, supervisor.requested with
  | false, _ => .down
  | true, false => .up
  | true, true => .asked

variable {stage final : LinkStage} {log entries : List GatewayEntry}

theorem after?_append (log entries : List GatewayEntry) :
    after? (log ++ entries) = (after? log).bind (entries.foldlM next?) :=
  List.foldlM_append

theorem after?_concat (log : List GatewayEntry) (entry : GatewayEntry) :
    after? (log ++ [entry]) = (after? log).bind (next? · entry) := by
  rw [after?_append]
  congr 1
  funext stage
  simp [List.foldlM]

/-- A question is never out of turn. -/
theorem after?_ask (log : List GatewayEntry) (question : Question) :
    after? (log ++ [.ask question]) = after? log := by
  rw [after?_concat]
  cases after? log with
  | none => rfl
  | some stage => cases stage <;> rfl

theorem after?_shutdown (log : List GatewayEntry) :
    after? (log ++ [.shutdown]) = after? log := by
  rw [after?_concat]
  cases after? log with
  | none => rfl
  | some stage => cases stage <;> rfl

/-- An entry in turn is a request at the end of a new link, or begins one, or neither. -/
theorem count_next?_eq {entry : GatewayEntry} (inTurn : next? stage entry = some final) :
    [entry].count .reconnect + (final == .up).toNat =
      [entry].count (.event .connected) + (stage == .up).toNat := by
  cases entry with
  | event event => cases event <;> cases stage <;> cases inTurn <;> rfl
  | _ => cases stage <;> cases inTurn <;> rfl

/-- Among entries in turn the requests and the new links balance. -/
theorem count_reconnect_eq (inTurn : entries.foldlM next? stage = some final) :
    entries.count .reconnect + (final == .up).toNat =
      entries.count (.event .connected) + (stage == .up).toNat := by
  induction entries generalizing stage with
  | nil =>
      cases inTurn
      rfl
  | cons entry entries ih =>
      rw [List.foldlM_cons] at inTurn
      rcases Option.bind_eq_some_iff.mp inTurn with ⟨middle, step, rest⟩
      have first := count_next?_eq step
      have later := ih rest
      rw [← List.singleton_append, List.count_append, List.count_append]
      omega

/-- A request that has not been answered is the last thing that has happened to the link. -/
theorem exists_request (asked : after? log = some .asked) :
    ∃ before since, log = before ++ .reconnect :: since ∧
      .reconnect ∉ since ∧ ∀ event, .event event ∉ since := by
  induction log using List.reverseRecOn with
  | nil => contradiction
  | append_singleton log entry ih =>
      rw [after?_concat] at asked
      rcases Option.bind_eq_some_iff.mp asked with ⟨stage, reached, step⟩
      by_cases request : entry = .reconnect
      · subst request
        exact ⟨log, [], rfl, by simp⟩
      · have other : (∀ event, .event event ≠ entry) ∧ stage = .asked := by
          cases entry with
          | reconnect => contradiction
          | event event => cases event <;> cases stage <;> cases step
          | _ => cases stage <;> first | exact ⟨nofun, rfl⟩ | cases step
        rcases ih (other.2 ▸ reached) with ⟨before, since, split, last, silent⟩
        refine ⟨before, since ++ [entry], ?_, ?_, ?_⟩
        · rw [split, List.append_assoc, List.cons_append]
        · simp [last, Ne.symm request]
        · simp [silent, other.1]

/-- A link that comes up and goes down again has been asked to exactly once. -/
theorem count_reconnect_eq_one {before between rest : List GatewayEntry} {delay : Duration}
    (inTurn : after? (before ++ .event .connected :: between ++
      .event (.disconnected delay) :: rest) ≠ none)
    (silent : ∀ event, .event event ∉ between) : between.count .reconnect = 1 := by
  rcases Option.ne_none_iff_exists'.mp inTurn with ⟨final, reached⟩
  rw [List.append_assoc, List.cons_append, after?_append] at reached
  rcases Option.bind_eq_some_iff.mp reached with ⟨first, -, reached⟩
  rw [List.foldlM_cons] at reached
  rcases Option.bind_eq_some_iff.mp reached with ⟨second, connects, reached⟩
  rw [List.foldlM_append] at reached
  rcases Option.bind_eq_some_iff.mp reached with ⟨third, lasts, reached⟩
  rw [List.foldlM_cons] at reached
  rcases Option.bind_eq_some_iff.mp reached with ⟨fourth, disconnects, -⟩
  have comesUp : second = .up := by
    cases first with
    | down => exact (Option.some.inj connects).symm
    | _ => contradiction
  have asked : third ≠ .up := by
    rintro rfl
    contradiction
  have balance := count_reconnect_eq lasts
  rw [List.count_eq_zero.mpr (silent .connected), comesUp, beq_false_of_ne asked] at balance
  simpa using balance

end LinkStage

namespace Supervised

variable {δ : Type} {run next : Supervised δ}

/-! ## Permits -/

/-- The poller may still ask for a new link because of an event that it has taken. -/
def armed (run : Supervised δ) : Bool :=
  match run.activity with
  | .waiting => run.poller.state == .connected
  | .handling event _ => event == .connected || run.poller.state == .connected
  | .identifying _ => true
  | .measuring _ _ => true
  | .observing _ _ => true
  | .ended _ => false
  | .broken => false

/-- The events that bring a request about, the request that may still be made,
and the request that is kept. -/
def permits (run : Supervised δ) : Nat :=
  run.poller.inbox.count .connected + run.armed.toNat + run.supervisor.requested.toNat

/-- The event has not been applied yet. -/
def Awaits (run : Supervised δ) (event : GatewayEvent) : Prop :=
  event ∈ run.poller.inbox ∨ ∃ instant, run.activity = .handling event instant

/-- While a poller runs there is one permit at most, and none while the link is down. -/
structure Orderly (run : Supervised δ) : Prop where
  linked_iff : run.supervisor.linked = true ↔ run.supervisor.phase = .watching
  serving : run.supervisor.shuttingDown = false
  permits_le : run.permits ≤ run.supervisor.linked.toNat
  fatal : ∀ error, run.Awaits (.error error) → error.severity = .fatal
  inTurn : LinkStage.after? run.log ≠ none
  stage_eq : run.supervisor.phase ≠ .absent →
    LinkStage.after? run.log = some (.ofSupervisor run.supervisor)

/-- The poller has ended, and so has the supervisor. -/
structure Ended (run : Supervised δ) : Prop where
  isOver : run.activity.isOver = true
  absent : run.supervisor.phase = .absent
  unlinked : run.supervisor.linked = false
  shuttingDown : run.supervisor.shuttingDown = true
  inTurn : LinkStage.after? run.log ≠ none

/-! ## What the poller does to the link -/

end Supervised

namespace Poller

variable {δ : Type} {before middle after : Poller (Logged (ModbusGateway δ))}

/-- Nothing has happened to the link. -/
structure Calm (before after : Poller (Logged (ModbusGateway δ))) : Prop where
  inbox_eq : after.inbox = before.inbox
  supervisor_eq : after.gateway.state.supervisor = before.gateway.state.supervisor
  stage_eq : LinkStage.after? after.gateway.log = LinkStage.after? before.gateway.log

/-- A new link has been asked for. -/
structure Asks (before after : Poller (Logged (ModbusGateway δ))) : Prop where
  inbox_eq : after.inbox = before.inbox
  supervisor_eq : after.gateway.state.supervisor = before.gateway.state.supervisor.request
  stage_eq : LinkStage.after? after.gateway.log =
    (LinkStage.after? before.gateway.log).bind (LinkStage.next? · .reconnect)

theorem Calm.refl (poller : Poller (Logged (ModbusGateway δ))) : Calm poller poller :=
  ⟨rfl, rfl, rfl⟩

theorem Calm.trans (first : Calm before middle) (second : Calm middle after) :
    Calm before after where
  inbox_eq := second.inbox_eq.trans first.inbox_eq
  supervisor_eq := second.supervisor_eq.trans first.supervisor_eq
  stage_eq := second.stage_eq.trans first.stage_eq

theorem Calm.asks (first : Calm before middle) (second : Asks middle after) :
    Asks before after where
  inbox_eq := second.inbox_eq.trans first.inbox_eq
  supervisor_eq := by rw [second.supervisor_eq, first.supervisor_eq]
  stage_eq := by rw [second.stage_eq, first.stage_eq]

theorem Asks.calm (first : Asks before middle) (second : Calm middle after) :
    Asks before after where
  inbox_eq := second.inbox_eq.trans first.inbox_eq
  supervisor_eq := by rw [second.supervisor_eq, first.supervisor_eq]
  stage_eq := by rw [second.stage_eq, first.stage_eq]

theorem calm_setState (time : Int) (state : ConnectionState)
    (poller : Poller (Logged (ModbusGateway δ))) : Calm poller (poller.setState time state) := by
  rw [setState_eq]
  exact ⟨rfl, rfl, rfl⟩

section

variable (answers : ModbusGateway.Answers δ) (time : Int)
  (poller : Poller (Logged (ModbusGateway δ)))

/-- Questions are calm, whatever is answered. -/
theorem calm_survey {α : Type} (survey : Survey α) :
    Calm poller
      { poller with
        gateway := (survey.run (ModbusGateway.answering answers).logged poller.gateway).2 } := by
  induction survey generalizing poller with
  | done value => exact .refl poller
  | fail error => exact .refl poller
  | ask question next ih =>
      let asked := (ModbusGateway.answering answers).logged.ask question poller.gateway
      have first : Calm poller { poller with gateway := asked.2 } :=
        ⟨rfl, rfl, LinkStage.after?_ask _ question⟩
      exact first.trans (ih asked.1 { poller with gateway := asked.2 })

theorem asks_requestReconnect :
    Asks poller (poller.requestReconnect (ModbusGateway.answering answers).logged) :=
  ⟨List.append_nil _, rfl, LinkStage.after?_concat _ _⟩

theorem calm_attempt {α : Type} {polled : Polled α}
    (attempt : Attempt polled (ModbusGateway.answering answers).logged time before after) :
    Calm before after := by
  have surveyed := calm_survey answers before (polled.survey time)
  constructor
  · exact attempt.inbox_eq
  · rw [attempt.gateway_eq]
    exact surveyed.supervisor_eq
  · rw [attempt.gateway_eq]
    exact surveyed.stage_eq

theorem calm_tickIdentity (outcome : TickOutcome) :
    Calm poller
      (poller.tickIdentity (ModbusGateway.answering answers).logged time outcome).2 := by
  cases known : poller.identified with
  | true =>
      rw [tickIdentity_of_identified known]
      exact .refl poller
  | false => exact calm_attempt answers time (attempt_tickIdentity known _ time outcome)

end

/-- What a move of the poller does to the link.  Only an entitled poller goes online
or asks for a new link. -/
inductive Effect (entitled : Prop) (before : Poller (Logged (ModbusGateway δ))) :
    Poller (Logged (ModbusGateway δ)) → Flow → Prop
  | calm {after : Poller (Logged (ModbusGateway δ))} (calm : Calm before after)
      (online : after.state = .connected → before.state = .connected ∨ entitled) :
      Effect entitled before after .proceed
  | request {after : Poller (Logged (ModbusGateway δ))} (entitlement : entitled)
      (asks : Asks before after) (offline : after.state ≠ .connected) :
      Effect entitled before after .proceed
  | stop {after : Poller (Logged (ModbusGateway δ))} {error : GatewayError}
      (calm : Calm before after) : Effect entitled before after (.stop error)

section

variable (answers : ModbusGateway.Answers δ) (time : Int)
  (poller : Poller (Logged (ModbusGateway δ)))

theorem effect_handleConnected :
    Effect True poller
      (poller.handleConnected (ModbusGateway.answering answers).logged time).1
      (poller.handleConnected (ModbusGateway.answering answers).logged time).2 := by
  let asked := (ModbusGateway.answering answers).logged.ask .validate poller.gateway
  have checked : Calm poller { poller with gateway := asked.2 } :=
    ⟨rfl, rfl, LinkStage.after?_ask _ .validate⟩
  unfold handleConnected
  cases answer : asked.1 with
  | ok _ =>
      simp only [asked] at answer
      simp only [answer]
      exact .calm (checked.trans (calm_setState _ _ _)) fun _ => .inr trivial
  | error error =>
      simp only [asked] at answer
      simp only [answer]
      cases error.severity with
      | shutdown => exact .calm checked .inl
      | fatal => exact .stop checked
      | transient =>
          refine .request trivial
            ((checked.trans (calm_setState _ _ _)).asks (asks_requestReconnect answers _)) ?_
          exact ne_of_eq_of_ne (state_setState time .disconnected _) (by decide)

/-- An event of the link that is no failure of the link itself only entitles the poller
if it says that the link is up. -/
theorem effect_handle (event : GatewayEvent)
    (fatal : ∀ error, event = .error error → error.severity = .fatal) :
    Effect (event = .connected) poller
      (poller.handle (ModbusGateway.answering answers).logged time event).1
      (poller.handle (ModbusGateway.answering answers).logged time event).2 := by
  unfold handle
  split
  · exact .calm (.refl poller) .inl
  · cases event with
    | connected => simpa using effect_handleConnected answers time poller
    | disconnected delay =>
        have forgotten : Calm poller { poller with identified := false } := ⟨rfl, rfl, rfl⟩
        refine .calm (forgotten.trans (calm_setState time .disconnected _)) ?_
        intro online
        rw [state_setState] at online
        contradiction
    | error error =>
        simp only [handleError, fatal error rfl]
        exact .stop (.refl poller)

theorem effect_afterTick (outcome : TickOutcome) :
    Effect True poller
      (poller.afterTick (ModbusGateway.answering answers).logged time outcome).1
      (poller.afterTick (ModbusGateway.answering answers).logged time outcome).2 := by
  unfold afterTick
  split
  · exact .stop (.refl poller)
  · split
    · refine .request trivial ((asks_requestReconnect answers poller).calm (calm_setState _ _ _)) ?_
      exact ne_of_eq_of_ne (state_setState time .connecting _) (by decide)
    · exact .calm (.refl poller) .inl

end

end Poller

namespace Supervised

variable {δ : Type} {run next : Supervised δ}

/-! ## Moves of the poller -/

section

variable {answers : ModbusGateway.Answers δ} {latency : Question → ModbusGateway δ → Nat}
  {timeOfDay : Nat → Int}

theorem ended_finish (inTurn : LinkStage.after? run.log ≠ none) (cause : Option GatewayError) :
    Ended (PollerRun.finish (ModbusGateway.site answers latency timeOfDay).logged cause run) := by
  have gateway := Poller.gateway_finish (ModbusGateway.answering answers).logged
    (run.time (ModbusGateway.site answers latency timeOfDay).logged) run.poller
  constructor
  · rfl
  · exact (congrArg (·.state.supervisor.phase) gateway)
  · exact (congrArg (·.state.supervisor.linked) gateway)
  · exact (congrArg (·.state.supervisor.shuttingDown) gateway)
  · intro none
    apply inTurn
    rw [← LinkStage.after?_shutdown]
    exact (congrArg (LinkStage.after? ·.log) gateway).symm.trans none

/-- A poller that runs online may ask for a new link. -/
theorem armed_of_connected (going : run.activity.isHalted = false)
    (online : run.poller.state = .connected) : run.armed = true := by
  unfold armed
  cases activity : run.activity with
  | ended cause => simp [activity, Activity.isHalted] at going
  | broken => simp [activity, Activity.isHalted] at going
  | _ => simp [online]

/-- With the same inbox no event awaits the poller that has not awaited it before. -/
theorem Awaits.before {event : GatewayEvent} (awaits : next.Awaits event)
    (inbox_eq : next.poller.inbox = run.poller.inbox)
    (pending : ∀ event instant, next.activity = .handling event instant →
      run.activity = .handling event instant) : run.Awaits event := by
  rcases awaits with queued | ⟨instant, handles⟩
  · exact .inl (inbox_eq ▸ queued)
  · exact .inr ⟨instant, pending event instant handles⟩

/-- Without events or requests the link stays in order. -/
theorem Orderly.calm (orderly : Orderly run) (calm : run.poller.Calm next.poller)
    (fewer : next.armed = true → run.armed = true)
    (pending : ∀ event instant, next.activity = .handling event instant →
      run.activity = .handling event instant) : Orderly next where
  linked_iff := by simpa only [supervisor, calm.supervisor_eq] using orderly.linked_iff
  serving := by simpa only [supervisor, calm.supervisor_eq] using orderly.serving
  permits_le := by
    have armed : next.armed.toNat ≤ run.armed.toNat := by
      cases online : next.armed with
      | false => exact Nat.zero_le _
      | true => rw [fewer online]
    have before := orderly.permits_le
    simp only [permits, supervisor, calm.supervisor_eq, calm.inbox_eq] at before ⊢
    omega
  fatal := fun error awaits => orderly.fatal error (awaits.before calm.inbox_eq pending)
  inTurn := by simpa only [log, calm.stage_eq] using orderly.inTurn
  stage_eq := by
    simpa only [supervisor, log, calm.supervisor_eq, calm.stage_eq] using orderly.stage_eq

/-- While the link is down there is no request. -/
theorem Orderly.unasked (orderly : Orderly run) (down : run.supervisor.linked = false) :
    run.supervisor.requested = false := by
  have permits := orderly.permits_le
  cases kept : run.supervisor.requested with
  | false => rfl
  | true => simp [Supervised.permits, down, kept] at permits

/-- The link of an armed poller is up, and nothing else is permitted. -/
theorem Orderly.of_armed (orderly : Orderly run) (armed : run.armed = true) :
    run.supervisor.linked = true ∧ run.supervisor.requested = false ∧
      run.poller.inbox.count .connected = 0 := by
  have before := orderly.permits_le
  simp only [permits, armed, Bool.toNat_true] at before
  cases linked : run.supervisor.linked with
  | false => simp [linked] at before
  | true =>
      cases kept : run.supervisor.requested with
      | true =>
          simp only [linked, kept, Bool.toNat_true] at before
          omega
      | false =>
          simp only [linked, kept, Bool.toNat_true, Bool.toNat_false] at before
          exact ⟨rfl, rfl, by omega⟩

/-- A request that an entitled poller makes is the only permit. -/
theorem Orderly.asks (orderly : Orderly run) (asks : run.poller.Asks next.poller)
    (armed : run.armed = true) (disarmed : next.armed = false)
    (pending : ∀ event instant, next.activity = .handling event instant →
      run.activity = .handling event instant) : Orderly next := by
  rcases orderly.of_armed armed with ⟨linked, unasked, quiet⟩
  have supervised : next.supervisor = run.supervisor.request := asks.supervisor_eq
  have running : run.supervisor.phase ≠ .absent := by
    rw [orderly.linked_iff.mp linked]
    decide
  have reached : LinkStage.after? next.log = some (.ofSupervisor next.supervisor) := by
    have before : LinkStage.after? run.log = some .up := by
      rw [orderly.stage_eq running, LinkStage.ofSupervisor, linked, unasked]
    have after : LinkStage.ofSupervisor next.supervisor = .asked := by
      rw [supervised, LinkStage.ofSupervisor, Supervisor.request, linked]
    rw [after]
    exact asks.stage_eq.trans (congrArg (·.bind (LinkStage.next? · .reconnect)) before)
  constructor
  · rw [supervised]
    exact orderly.linked_iff
  · rw [supervised]
    exact orderly.serving
  · rw [permits, asks.inbox_eq, quiet, disarmed, supervised]
    simp [Supervisor.request, linked]
  · exact fun error awaits => orderly.fatal error (awaits.before asks.inbox_eq pending)
  · rw [reached]
    exact Option.some_ne_none _
  · exact fun _ => reached

/-- The link stays in order when the poller waits again after what it has done. -/
theorem Orderly.wait {entitled : Prop} (orderly : Orderly run)
    (going : run.activity.isHalted = false) (entitlement : entitled → run.armed = true)
    (effect : Poller.Effect entitled run.poller next.poller .proceed)
    (waits : next.activity = .waiting) : Orderly next := by
  have pending : ∀ event instant, next.activity = .handling event instant →
      run.activity = .handling event instant := by simp [waits]
  cases effect with
  | calm calm online =>
      refine orderly.calm calm ?_ pending
      intro armed
      rw [Supervised.armed, waits] at armed
      rcases online (beq_iff_eq.mp armed) with before | entitled
      · exact armed_of_connected going before
      · exact entitlement entitled
  | request entitled asks offline =>
      refine orderly.asks asks (entitlement entitled) ?_ pending
      rw [armed, waits]
      exact beq_false_of_ne offline

/-- The link of a poller is in order, or both tasks have ended. -/
def Sound (run : Supervised δ) : Prop :=
  Orderly run ∨ Ended run

theorem Orderly.inTurn_of_stop {entitled : Prop} {poller : Poller (Logged (ModbusGateway δ))}
    {error : GatewayError} (orderly : Orderly run)
    (effect : Poller.Effect entitled run.poller poller (.stop error)) :
    LinkStage.after? poller.gateway.log ≠ none := by
  cases effect with
  | stop calm =>
      rw [calm.stage_eq]
      exact orderly.inTurn

theorem Orderly.follow {entitled : Prop} {poller : Poller (Logged (ModbusGateway δ))}
    {flow : Flow} (orderly : Orderly run) (going : run.activity.isHalted = false)
    (entitlement : entitled → run.armed = true)
    (effect : Poller.Effect entitled run.poller poller flow) :
    Sound (PollerRun.follow (ModbusGateway.site answers latency timeOfDay).logged flow
      { run with poller := poller }) := by
  cases flow with
  | proceed => exact .inl (orderly.wait going entitlement effect rfl)
  | stop error => exact .inr (ended_finish (orderly.inTurn_of_stop effect) (some error))

theorem going_of_armed (armed : run.armed = true) : run.activity.isHalted = false := by
  unfold Supervised.armed at armed
  cases activity : run.activity with
  | ended cause => simp [activity] at armed
  | broken => simp [activity] at armed
  | _ => rfl

theorem Orderly.endTick (orderly : Orderly run) (armed : run.armed = true)
    (outcome : TickOutcome) :
    Sound
      (PollerRun.endTick (ModbusGateway.site answers latency timeOfDay).logged outcome run) := by
  have effect := Poller.effect_afterTick answers
    (run.time (ModbusGateway.site answers latency timeOfDay).logged) run.poller outcome
  rcases PollerRun.endTick_cases (ModbusGateway.site answers latency timeOfDay).logged
    outcome run with ⟨error, stops, ends⟩ | ⟨proceeds, ends⟩ <;> rw [ends]
  · refine .inr (ended_finish ?_ (some error))
    exact orderly.inTurn_of_stop (stops ▸ effect)
  · exact .inl (orderly.wait (going_of_armed armed) (fun _ => armed) (proceeds ▸ effect) rfl)

theorem Orderly.beginTick (orderly : Orderly run) (waits : run.activity = .waiting) :
    Orderly (PollerRun.beginTick (ModbusGateway.site answers latency timeOfDay).logged run) := by
  unfold PollerRun.beginTick
  split
  next online =>
    have armed : run.armed = true := armed_of_connected (by rw [waits]; rfl) online
    split <;> exact orderly.calm (.refl _) (fun _ => armed) nofun
  next offline =>
    refine orderly.calm (.refl _) ?_ nofun
    intro armed
    exact absurd (beq_iff_eq.mp armed) offline

theorem Orderly.take {event : GatewayEvent} {rest : List GatewayEvent} (orderly : Orderly run)
    (waits : run.activity = .waiting) (arrived : run.poller.inbox = event :: rest) :
    Orderly (PollerRun.beginEvent (ModbusGateway.site answers latency timeOfDay).logged event
      { run with poller := { run.poller with inbox := rest } }) := by
  have before := orderly.permits_le
  rw [permits, arrived, List.count_cons, Supervised.armed, waits] at before
  have moved : ∃ instant,
      PollerRun.beginEvent (ModbusGateway.site answers latency timeOfDay).logged event
        { run with poller := { run.poller with inbox := rest } } =
      { run with
        poller := { run.poller with inbox := rest }, activity := .handling event instant } := by
    cases event <;> exact ⟨_, rfl⟩
  rcases moved with ⟨instant, moved⟩
  rw [moved]
  refine ⟨orderly.linked_iff, orderly.serving, ?_, ?_, orderly.inTurn, orderly.stage_eq⟩
  · refine Nat.le_trans ?_ before
    -- an event that says that the link is up arms the poller instead
    have traded : (event == .connected || run.poller.state == .connected).toNat ≤
        (if event == .connected then 1 else 0) + (run.poller.state == .connected).toNat := by
      cases event == .connected <;> cases run.poller.state == .connected <;> decide
    simp only [permits, Supervised.armed, supervisor]
    omega
  · intro error awaits
    apply orderly.fatal error
    rcases awaits with queued | ⟨now, handles⟩
    · exact .inl (arrived ▸ List.mem_cons_of_mem _ queued)
    · cases handles
      exact .inl (arrived ▸ List.mem_cons_self)

/-- A move of the poller leaves the link in order, or ends both tasks. -/
theorem Orderly.poll (orderly : Orderly run)
    (move : PollerRun.Move (ModbusGateway.site answers latency timeOfDay).logged run next) :
    Sound next := by
  cases move with
  | quit waits released => exact .inr (ended_finish orderly.inTurn none)
  | take waits held arrived => exact .inl (orderly.take waits arrived)
  | tick waits held quiet due => exact .inl (orderly.beginTick waits)
  | @handle event instant handles due =>
      have fatal : ∀ error, event = .error error → error.severity = .fatal :=
        fun error isError => orderly.fatal error (.inr ⟨instant, isError ▸ handles⟩)
      have entitlement : event = .connected → run.armed = true := by
        intro connected
        simp [armed, handles, connected]
      have effect := Poller.effect_handle answers
        (run.time (ModbusGateway.site answers latency timeOfDay).logged) run.poller event fatal
      exact orderly.follow (by rw [handles]; rfl) entitlement effect
  | identify identifies due =>
      have armed : run.armed = true := by rw [armed, identifies]
      exact .inl (orderly.calm (Poller.calm_tickIdentity answers _ _ _) (fun _ => armed) nofun)
  | measure measures due =>
      have armed : run.armed = true := by rw [armed, measures]
      exact .inl (orderly.calm (Poller.calm_attempt answers _ (Poller.attempt_tickValues _ _ _ _))
        (fun _ => armed) fun event instant handles =>
          absurd handles (PollerRun.activity_beginEvents_ne_handling _ event instant))
  | @observe outcome instant observes due =>
      have armed : run.armed = true := by rw [armed, observes]
      have observed := Poller.calm_attempt answers
        (run.time (ModbusGateway.site answers latency timeOfDay).logged)
        (Poller.attempt_tickEvents _ _ outcome run.poller)
      have orderly : Orderly { run with poller := _ } :=
        orderly.calm observed (fun _ => armed) fun _ _ => id
      exact orderly.endTick (by rw [Supervised.armed, observes]) _

end

/-! ## Moves of the supervisor -/

/-- What a move of a supervisor that serves does: a link that comes up is worth a permit,
and a link that goes down costs the request. -/
structure Turn (before : Supervisor) (events : List GatewayEvent) (after : Supervisor) : Prop where
  running : before.phase ≠ .absent
  linked_iff : after.linked = true ↔ after.phase = .watching
  serving : after.shuttingDown = false
  worth : events.count .connected + after.requested.toNat + before.linked.toNat ≤
    before.requested.toNat + after.linked.toNat
  fatal : ∀ error, .error error ∈ events → error.severity = .fatal
  inTurn : ∃ stage,
    (events.map .event).foldlM LinkStage.next? (LinkStage.ofSupervisor before) = some stage ∧
      (after.phase ≠ .absent → stage = LinkStage.ofSupervisor after)

theorem turn_of_move {now : Nat} {before after : Supervisor} {events : List GatewayEvent}
    (linked_iff : before.linked = true ↔ before.phase = .watching)
    (serving : before.shuttingDown = false)
    (unasked : before.linked = false → before.requested = false)
    (move : Supervisor.Move now before events after) : Turn before events after := by
  rcases before with ⟨phase, linked, backoff, requested, shuttingDown⟩
  cases serving
  have down (elsewhere : phase ≠ .watching) : linked = false ∧ requested = false := by
    have unlinked : linked = false := by simpa [elsewhere] using linked_iff
    exact ⟨unlinked, unasked unlinked⟩
  cases move with
  | quit running shutdown => contradiction
  | attempt starting held =>
      cases starting
      rcases down (by decide) with ⟨rfl, rfl⟩
      exact ⟨by simp, by simp, rfl, by simp, by simp, .down, rfl, fun _ => rfl⟩
  | link opening =>
      cases opening
      rcases down (by decide) with ⟨rfl, rfl⟩
      exact ⟨by simp, by simp, rfl, by simp, by simp, .up, rfl, fun _ => rfl⟩
  | refuse opening fatal =>
      cases opening
      rcases down (by decide) with ⟨rfl, rfl⟩
      refine ⟨by simp, by simp [Supervisor.finish], rfl, ?_, ?_, .down, rfl, fun _ => rfl⟩
      · simp [Supervisor.finish]
      · simpa using fatal
  | miss opening delayed =>
      cases opening
      rcases down (by decide) with ⟨rfl, rfl⟩
      exact ⟨by simp, by simp, rfl, by simp, by simp, .down, rfl, fun _ => rfl⟩
  | missLast opening exhausted =>
      cases opening
      rcases down (by decide) with ⟨rfl, rfl⟩
      exact ⟨by simp, by simp [Supervisor.finish], rfl, by simp [Supervisor.finish], by simp,
        .down, rfl, fun _ => rfl⟩
  | drop watching asked delayed =>
      cases watching
      cases asked
      cases linked_iff.mpr rfl
      exact ⟨by simp, by simp, rfl, by simp, by simp, .down, rfl, fun _ => rfl⟩
  | dropLast watching asked exhausted =>
      cases watching
      cases asked
      cases linked_iff.mpr rfl
      exact ⟨by simp, by simp [Supervisor.finish], rfl, by simp [Supervisor.finish], by simp,
        .asked, rfl, fun running => absurd rfl running⟩
  | resume pausing held elapsed =>
      cases pausing
      rcases down (by simp) with ⟨rfl, rfl⟩
      exact ⟨by simp, by simp, rfl, by simp, by simp, .down, rfl, fun _ => rfl⟩

/-- A supervisor that serves, and its events. -/
theorem Orderly.supervise {now : Nat} {events : List GatewayEvent} {gateway : ModbusGateway δ}
    (orderly : Orderly run)
    (move : Supervisor.Move now run.supervisor events gateway.supervisor) :
    Orderly (run.withGateway events gateway) := by
  have turn := turn_of_move orderly.linked_iff orderly.serving orderly.unasked move
  have before := orderly.stage_eq turn.running
  rcases turn.inTurn with ⟨stage, reached, known⟩
  have after : LinkStage.after? (run.withGateway events gateway).log = some stage := by
    refine (LinkStage.after?_append run.log _).trans ?_
    rw [before]
    exact reached
  refine ⟨turn.linked_iff, turn.serving, ?_, ?_, ?_, ?_⟩
  · have worth := turn.worth
    have permits := orderly.permits_le
    have arrived : (run.withGateway events gateway).poller.inbox.count .connected =
        run.poller.inbox.count .connected + events.count .connected := List.count_append
    have armed : (run.withGateway events gateway).armed = run.armed := rfl
    have supervised : (run.withGateway events gateway).supervisor = gateway.supervisor := rfl
    rw [Supervised.permits] at permits ⊢
    rw [arrived, armed, supervised]
    omega
  · intro error awaits
    rcases awaits with queued | handles
    · rcases List.mem_append.mp queued with earlier | sent
      · exact orderly.fatal error (.inl earlier)
      · exact turn.fatal error sent
    · exact orderly.fatal error (.inr handles)
  · rw [after]
    exact Option.some_ne_none stage
  · intro running
    rw [after, known running]
    rfl

/-! ## Acts -/

section

variable {answers : ModbusGateway.Answers δ} {latency : Question → ModbusGateway δ → Nat}
  {timeOfDay : Nat → Int}

theorem orderly_start (interval : Nat) (name : String) (device : DeviceConfig) (line : δ) :
    Orderly (start (ModbusGateway.site answers latency timeOfDay) interval name device line) where
  linked_iff := ⟨nofun, nofun⟩
  serving := rfl
  permits_le := Nat.le_refl 0
  fatal := by
    intro error awaits
    rcases awaits with queued | ⟨instant, handles⟩ <;> contradiction
  inTurn := nofun
  stage_eq := fun _ => rfl

theorem Ended.supervise_eq_none (ended : Ended run) (wire : Wire δ) :
    run.poller.gateway.state.supervise wire run.now = none := by
  have absent : run.poller.gateway.state.supervisor.phase = .absent := ended.absent
  simp [ModbusGateway.supervise, absent, Supervisor.step]

theorem Ended.step_eq_none (ended : Ended run) (site : Site (ModbusGateway δ)) :
    run.step site.logged = none := by
  have isOver := ended.isOver
  unfold PollerRun.step
  cases activity : run.activity with
  | ended cause => rfl
  | _ => simp [activity, Activity.isOver] at isOver

/-- What happens around the two tasks touches neither the link nor the poller. -/
theorem Sound.aside (sound : Sound run) (calm : run.poller.Calm next.poller)
    (state : next.poller.state = run.poller.state) (activity : next.activity = run.activity) :
    Sound next := by
  rcases sound with orderly | ended
  · refine .inl (orderly.calm calm ?_ ?_)
    · simp only [armed, state, activity, imp_self]
    · simp only [activity, imp_self, implies_true]
  · right
    constructor
    · rw [activity, ended.isOver]
    · exact (congrArg Supervisor.phase calm.supervisor_eq).trans ended.absent
    · exact (congrArg Supervisor.linked calm.supervisor_eq).trans ended.unlinked
    · exact (congrArg Supervisor.shuttingDown calm.supervisor_eq).trans ended.shuttingDown
    · rw [log, calm.stage_eq]
      exact ended.inTurn

/-- Every act leaves the link in order, or both tasks have ended. -/
theorem Sound.act (sound : Sound run) (wire : Wire δ) (act : SupervisedAct δ) :
    Sound (run.act (ModbusGateway.site answers latency timeOfDay) wire act) := by
  cases act with
  | poll =>
      unfold Supervised.act
      cases step : run.step (ModbusGateway.site answers latency timeOfDay).logged with
      | none => exact sound
      | some next =>
          rcases sound with orderly | ended
          · exact orderly.poll (PollerRun.move_of_step step)
          · simp [ended.step_eq_none] at step
  | supervise =>
      unfold Supervised.act
      cases moved : run.poller.gateway.state.supervise wire run.now with
      | none => exact sound
      | some after =>
          rcases sound with orderly | ended
          · exact .inl (orderly.supervise (ModbusGateway.move_of_supervise moved))
          · simp [ended.supervise_eq_none] at moved
  | surround line =>
      refine sound.aside ⟨List.append_nil _, rfl, ?_⟩ rfl rfl
      exact congrArg LinkStage.after? (List.append_nil run.log)
  | _ => exact sound.aside (.refl _) rfl rfl

theorem Sound.actAll (sound : Sound run) (wire : Wire δ) (acts : List (SupervisedAct δ)) :
    Sound (run.actAll (ModbusGateway.site answers latency timeOfDay) wire acts) := by
  induction acts generalizing run with
  | nil => exact sound
  | cons first acts ih => exact ih (sound.act wire first)

end

theorem Sound.inTurn (sound : Sound run) : LinkStage.after? run.log ≠ none := by
  rcases sound with orderly | ended
  · exact orderly.inTurn
  · exact ended.inTurn

/-- A request that is kept is the last thing that has happened to a link which is still up,
unless both tasks have ended. -/
theorem Sound.requested (sound : Sound run) (kept : run.supervisor.requested = true) :
    (run.supervisor.phase = .watching ∧ run.supervisor.linked = true ∧
      ∃ before since, run.log = before ++ .reconnect :: since ∧
        .reconnect ∉ since ∧ ∀ event, .event event ∉ since) ∨
    (run.supervisor.phase = .absent ∧ run.supervisor.shuttingDown = true) := by
  rcases sound with orderly | ended
  · have linked : run.supervisor.linked = true := by
      by_contra down
      have unasked := orderly.unasked (Bool.eq_false_iff.mpr down)
      exact absurd kept (by simp [unasked])
    have watching := orderly.linked_iff.mp linked
    have reached := orderly.stage_eq (by rw [watching]; decide)
    rw [LinkStage.ofSupervisor, linked, kept] at reached
    exact .inl ⟨watching, linked, LinkStage.exists_request reached⟩
  · exact .inr ⟨ended.absent, ended.shuttingDown⟩

/-! ## Every history -/

/-- Whatever the two tasks do, a new link is asked for at most once for every
event that says that the link is up.  A link that goes down has been asked to
exactly once since it came up.  A request that is kept is about the link that is
still up: since the request was made the gateway has sent no event, so the
request is never kept in a pause or for a later link. -/
theorem requests_belong_to_their_link (answers : ModbusGateway.Answers δ)
    (latency : Question → ModbusGateway δ → Nat) (timeOfDay : Nat → Int) (wire : Wire δ)
    (interval : Nat) (name : String) (device : DeviceConfig) (line : δ)
    (acts : List (SupervisedAct δ)) :
    let site := ModbusGateway.site answers latency timeOfDay
    let run := (start site interval name device line).actAll site wire acts
    (∀ before between after, run.log = before ++ between ++ after →
      before.count .reconnect ≤ before.count (.event .connected) ∧
        between.count .reconnect ≤ between.count (.event .connected) + 1) ∧
    (∀ before between after delay,
      run.log = before ++ .event .connected :: between ++ .event (.disconnected delay) :: after →
      (∀ event, .event event ∉ between) → between.count .reconnect = 1) ∧
    (run.supervisor.requested = true →
      (run.supervisor.phase = .watching ∧ run.supervisor.linked = true ∧
        ∃ before since, run.log = before ++ .reconnect :: since ∧
          .reconnect ∉ since ∧ ∀ event, .event event ∉ since) ∨
      (run.supervisor.phase = .absent ∧ run.supervisor.shuttingDown = true)) := by
  intro site run
  have sound : Sound run := Sound.actAll (.inl (orderly_start interval name device line)) wire acts
  refine ⟨?_, ?_, sound.requested⟩
  · intro before between after split
    have inTurn := sound.inTurn
    rw [split, List.append_assoc] at inTurn
    rcases Option.ne_none_iff_exists'.mp inTurn with ⟨final, reached⟩
    rw [LinkStage.after?_append] at reached
    rcases Option.bind_eq_some_iff.mp reached with ⟨stage, first, reached⟩
    rw [List.foldlM_append] at reached
    rcases Option.bind_eq_some_iff.mp reached with ⟨later, second, -⟩
    have firstBalance := LinkStage.count_reconnect_eq first
    have secondBalance := LinkStage.count_reconnect_eq second
    have most := Bool.toNat_le (stage == .up)
    have none : (LinkStage.down == .up).toNat = 0 := rfl
    omega
  · intro before between after delay split silent
    exact LinkStage.count_reconnect_eq_one (split ▸ sound.inTurn) silent

end Supervised

end InverterBridge
