import InverterBridge.Proofs.Modbus.Delays
import InverterBridge.Proofs.Modbus.Supervision
import Mathlib.Data.List.Chain

/-!
# The rounds of a supervisor

The events that a supervisor sends come in rounds: a link comes up and is lost, or an
attempt to open one fails.  `LinkTask.Orderly` ties the events of a task that supervises a
link to its phase and its schedule of delays, and every move of a supervisor preserves it
(`LinkTask.Orderly.move`).
-/

namespace InverterBridge

/-! ## Events in rounds -/

/-- One round: a link comes up and is lost, or it does not come up. -/
inductive Round : List GatewayEvent → Prop
  | lost (delay : Duration) : Round [.connected, .disconnected delay]
  | missed (delay : Duration) : Round [.disconnected delay]

/-- Rounds in a row, and what has come after them. -/
def InRounds (events tail : List GatewayEvent) : Prop :=
  ∃ rounds : List (List GatewayEvent),
    (∀ round ∈ rounds, Round round) ∧ events = rounds.flatten ++ tail

/-- How often the link has been lost or missed since it was up, or since the start. -/
def misses (events : List GatewayEvent) : Nat :=
  events.foldl
    (fun count event =>
      match event with
      | .connected => 0
      | .disconnected _ => count + 1
      | .error _ => count)
    0

/-- Every loss comes with the delay that is next. -/
def DelaysFollow (config : ReconnectConfig) (events : List GatewayEvent) : Prop :=
  ∀ before delay after, events = before ++ .disconnected delay :: after →
    delay = .ofSeconds (config.delay (misses before))

section

variable {events tail : List GatewayEvent} {config : ReconnectConfig}

@[simp]
theorem misses_concat_connected (events : List GatewayEvent) :
    misses (events ++ [.connected]) = 0 := by
  simp [misses, List.foldl_append]

@[simp]
theorem misses_concat_disconnected (events : List GatewayEvent) (delay : Duration) :
    misses (events ++ [.disconnected delay]) = misses events + 1 := by
  simp [misses, List.foldl_append]

theorem inRounds_nil : InRounds [] [] :=
  ⟨[], by simp⟩

/-- What comes after the rounds grows. -/
theorem InRounds.append (rounds : InRounds events tail) (more : List GatewayEvent) :
    InRounds (events ++ more) (tail ++ more) := by
  rcases rounds with ⟨rounds, each, rfl⟩
  exact ⟨rounds, each, by simp⟩

/-- What comes after the rounds completes another one. -/
theorem InRounds.complete (rounds : InRounds events tail) (round : Round tail) :
    InRounds events [] := by
  rcases rounds with ⟨rounds, each, rfl⟩
  refine ⟨rounds ++ [tail], ?_, by simp⟩
  intro other member
  rcases List.mem_append.mp member with member | member
  · exact each other member
  · rw [List.mem_singleton.mp member]
    exact round

/-- In rounds a link that has come up is lost before anything else happens. -/
theorem InRounds.isChain (rounds : InRounds events tail)
    (short : tail = [] ∨ ∃ event, tail = [event]) :
    events.IsChain fun first second =>
      first = .connected → ∃ delay, second = .disconnected delay := by
  rcases rounds with ⟨rounds, each, rfl⟩
  induction rounds with
  | nil => rcases short with rfl | ⟨event, rfl⟩ <;> simp
  | cons round rounds ih =>
      have rest := ih fun other member => each other (List.mem_cons_of_mem _ member)
      rw [List.flatten_cons, List.append_assoc]
      cases each round List.mem_cons_self with
      | lost delay => simp [List.isChain_cons, rest]
      | missed delay => simp [List.isChain_cons, rest]

theorem DelaysFollow.concat (follow : DelaysFollow config events) {event : GatewayEvent}
    (next : ∀ delay, event = .disconnected delay →
      delay = .ofSeconds (config.delay (misses events))) :
    DelaysFollow config (events ++ [event]) := by
  intro before delay after split
  rcases List.eq_nil_or_concat after with rfl | ⟨earlier, last, rfl⟩
  · rcases List.append_inj' split rfl with ⟨rfl, same⟩
    cases same
    exact next delay rfl
  · have split : events ++ [event] = (before ++ .disconnected delay :: earlier) ++ [last] := by
      simpa using split
    exact follow before delay earlier (List.append_inj' split rfl).1

end

/-! ## Tasks -/

/-- A task that has been started to supervise a link. -/
structure LinkTask where
  phase : SupervisorPhase
  backoff : Backoff
  /-- The events it has sent, oldest first, each with whether the link was open then. -/
  sent : List (GatewayEvent × Bool)

namespace LinkTask

/-- The events that a task has sent. -/
def events (task : LinkTask) : List GatewayEvent :=
  task.sent.map Prod.fst

/-- What a task in a phase has sent after its last round.  A task ends by shutdown, by a
fatal error, or because it has run out of delays. -/
inductive Tail (config : ReconnectConfig) (shuttingDown : Bool) :
    SupervisorPhase → List GatewayEvent → Prop
  | down {phase : SupervisorPhase} (running : phase ≠ .absent) (unlinked : phase ≠ .watching) :
      Tail config shuttingDown phase []
  | up : Tail config shuttingDown .watching [.connected]
  | quit (ceases : shuttingDown = true ∨ config.Exhausts) : Tail config shuttingDown .absent []
  | cut (ceases : shuttingDown = true ∨ config.Exhausts) :
      Tail config shuttingDown .absent [.connected]
  | refused {error : GatewayError} (fatal : error.severity = .fatal) :
      Tail config shuttingDown .absent [.error error]

/-- What is known of a task at all times. -/
structure Orderly (config : ReconnectConfig) (shuttingDown : Bool) (task : LinkTask) : Prop where
  rounds : ∃ tail, Tail config shuttingDown task.phase tail ∧ InRounds task.events tail
  delays : DelaysFollow config task.events
  /-- The link was open when it came up, and closed when it was lost. -/
  links : ∀ event linked, (event, linked) ∈ task.sent →
    (event = .connected → linked = true) ∧ ∀ delay, event = .disconnected delay → linked = false
  schedule : task.phase ≠ .absent → task.backoff = .after config (misses task.events)

variable {config : ReconnectConfig} {shuttingDown : Bool} {task : LinkTask}

/-- A task that has just been started. -/
theorem orderly_start (config : ReconnectConfig) (shuttingDown : Bool) :
    Orderly config shuttingDown ⟨.starting, .ofConfig config, []⟩ where
  rounds := ⟨[], .down (by simp) (by simp), inRounds_nil⟩
  delays := by
    intro before delay after split
    simp [events] at split
  links := by simp
  schedule := by simp [events, misses]

theorem Tail.requestShutdown {phase : SupervisorPhase} {tail : List GatewayEvent}
    (ending : Tail config shuttingDown phase tail) : Tail config true phase tail := by
  cases ending with
  | down running unlinked => exact .down running unlinked
  | up => exact .up
  | quit => exact .quit (.inl rfl)
  | cut => exact .cut (.inl rfl)
  | refused fatal => exact .refused fatal

/-- Shutdown may be requested at any time. -/
theorem Orderly.requestShutdown (orderly : Orderly config shuttingDown task) :
    Orderly config true task where
  rounds := by
    rcases orderly.rounds with ⟨tail, ending, rounds⟩
    exact ⟨tail, ending.requestShutdown, rounds⟩
  delays := orderly.delays
  links := orderly.links
  schedule := orderly.schedule

/-- The task after its supervisor has made a move.  Every event is kept with the link as the
move leaves it, since the move that changes the link also sends the event of it. -/
def after (task : LinkTask) (sent : List GatewayEvent) (supervisor : Supervisor) : LinkTask :=
  ⟨supervisor.phase, supervisor.backoff, task.sent ++ sent.map (·, supervisor.linked)⟩

@[simp]
theorem events_after (task : LinkTask) (sent : List GatewayEvent) (supervisor : Supervisor) :
    (task.after sent supervisor).events = task.events ++ sent := by
  simp [events, after, Function.comp_def]

theorem Tail.eq_nil {phase : SupervisorPhase} {tail : List GatewayEvent}
    (ending : Tail config shuttingDown phase tail) (running : phase ≠ .absent)
    (unlinked : phase ≠ .watching) : tail = [] := by
  cases ending <;> trivial

theorem Tail.eq_connected {tail : List GatewayEvent}
    (ending : Tail config shuttingDown .watching tail) : tail = [.connected] := by
  cases ending <;> trivial

/-- After the last round there is one event at most. -/
theorem Tail.short {phase : SupervisorPhase} {tail : List GatewayEvent}
    (ending : Tail config shuttingDown phase tail) : tail = [] ∨ ∃ event, tail = [event] := by
  cases ending <;> simp

/-- A task may end with what it has sent. -/
theorem Tail.finish {phase : SupervisorPhase} {tail : List GatewayEvent}
    (ending : Tail config shuttingDown phase tail) (running : phase ≠ .absent)
    (ceases : shuttingDown = true ∨ config.Exhausts) : Tail config shuttingDown .absent tail := by
  cases ending with
  | down => exact .quit ceases
  | up => exact .cut ceases
  | _ => exact absurd rfl running

/-! ## Moves -/

/-- Before and after a move without events a task has sent the same. -/
theorem Orderly.quiet (orderly : Orderly config shuttingDown task) {next : Supervisor}
    (ending : ∀ tail, Tail config shuttingDown task.phase tail →
      Tail config shuttingDown next.phase tail)
    (schedule : next.phase ≠ .absent → next.backoff = task.backoff ∧ task.phase ≠ .absent) :
    Orderly config shuttingDown (task.after [] next) where
  rounds := by
    rcases orderly.rounds with ⟨tail, ended, rounds⟩
    rw [events_after, List.append_nil]
    exact ⟨tail, ending tail ended, rounds⟩
  delays := by
    rw [events_after, List.append_nil]
    exact orderly.delays
  links := by simpa [after] using orderly.links
  schedule := by
    intro running
    rw [events_after, List.append_nil]
    rcases schedule running with ⟨same, ran⟩
    exact same.trans (orderly.schedule ran)

/-- A move with one event. -/
theorem Orderly.send (orderly : Orderly config shuttingDown task) {event : GatewayEvent}
    {next : Supervisor} {tail : List GatewayEvent}
    (ending : Tail config shuttingDown next.phase tail)
    (rounds : InRounds (task.events ++ [event]) tail)
    (delay : ∀ delay, event = .disconnected delay →
      delay = .ofSeconds (config.delay (misses task.events)))
    (link : (event = .connected → next.linked = true) ∧
      ∀ delay, event = .disconnected delay → next.linked = false)
    (schedule : next.phase ≠ .absent →
      next.backoff = .after config (misses (task.events ++ [event]))) :
    Orderly config shuttingDown (task.after [event] next) where
  rounds := ⟨tail, ending, by rwa [events_after]⟩
  delays := by
    rw [events_after]
    exact orderly.delays.concat delay
  links := by
    intro other linked member
    rcases List.mem_append.mp member with member | member
    · exact orderly.links other linked member
    · cases List.mem_singleton.mp member
      exact link
  schedule := by rwa [events_after]

/-- Every move of a supervisor keeps its task orderly. -/
theorem Orderly.move {now : Nat} {supervisor next : Supervisor} {sent : List GatewayEvent}
    (orderly : Orderly config supervisor.shuttingDown task)
    (phase_eq : supervisor.phase = task.phase) (backoff_eq : supervisor.backoff = task.backoff)
    (move : Supervisor.Move now supervisor sent next) :
    Orderly config supervisor.shuttingDown (task.after sent next) := by
  -- Only a task that watches its link is within a round: what it sends next completes it.
  rcases orderly.rounds with ⟨tail, ending, rounds⟩
  have schedule := orderly.schedule
  rw [← phase_eq] at ending schedule
  rw [← backoff_eq] at schedule
  cases move with
  | quit running shutdown =>
      refine orderly.quiet ?_ fun absent => absurd rfl absent
      intro tail ending
      exact ending.finish (phase_eq ▸ running) (.inl shutdown)
  | attempt starting held =>
      refine orderly.quiet ?_ fun _ => ⟨backoff_eq, by simp [← phase_eq, starting]⟩
      intro tail ending
      rw [← phase_eq, starting] at ending
      cases ending
      exact .down (by simp) (by simp)
  | link opening =>
      cases ending.eq_nil (by simp [opening]) (by simp [opening])
      refine orderly.send .up (rounds.append _) (by simp) (by simp) ?_
      intro _
      rw [misses_concat_connected, Backoff.after_zero]
      simp [schedule (by simp [opening])]
  | refuse opening fatal =>
      cases ending.eq_nil (by simp [opening]) (by simp [opening])
      exact orderly.send (.refused fatal) (rounds.append _) (by simp) (by simp)
        fun absent => absurd rfl absent
  | @miss seconds backoff opening delayed =>
      cases ending.eq_nil (by simp [opening]) (by simp [opening])
      rw [schedule (by simp [opening])] at delayed
      rcases Backoff.eq_of_next?_after delayed with ⟨rfl, rfl⟩
      refine orderly.send (.down (by simp) (by simp)) ((rounds.append _).complete (.missed _))
        (by simp) (by simp) ?_
      intro _
      rw [misses_concat_disconnected]
  | missLast opening exhausted =>
      rw [schedule (by simp [opening])] at exhausted
      refine orderly.quiet ?_ fun absent => absurd rfl absent
      intro tail ending
      exact ending.finish (by simp [← phase_eq, opening])
        (.inr (Backoff.exhausts_of_next?_after exhausted))
  | @drop seconds backoff watching requested delayed =>
      rw [watching] at ending
      cases ending.eq_connected
      rw [schedule (by simp [watching])] at delayed
      rcases Backoff.eq_of_next?_after delayed with ⟨rfl, rfl⟩
      refine orderly.send (.down (by simp) (by simp)) ((rounds.append _).complete (.lost _))
        (by simp) (by simp) ?_
      intro _
      rw [misses_concat_disconnected]
  | dropLast watching requested exhausted =>
      rw [schedule (by simp [watching])] at exhausted
      refine orderly.quiet ?_ fun absent => absurd rfl absent
      intro tail ending
      exact ending.finish (by simp [← phase_eq, watching])
        (.inr (Backoff.exhausts_of_next?_after exhausted))
  | resume pausing held elapsed =>
      refine orderly.quiet ?_ fun _ => ⟨backoff_eq, by simp [← phase_eq, pausing]⟩
      intro tail ending
      rw [← phase_eq, pausing] at ending
      cases ending
      exact .down (by simp) (by simp)

/-! ## What the rounds say -/

/-- Between two links that come up one is lost. -/
theorem Orderly.exists_loss (orderly : Orderly config shuttingDown task)
    {before between rest : List GatewayEvent}
    (split : task.events = before ++ .connected :: (between ++ .connected :: rest)) :
    ∃ delay, .disconnected delay ∈ between := by
  rcases orderly.rounds with ⟨tail, ending, rounds⟩
  have chain := rounds.isChain ending.short
  rw [split] at chain
  have following := chain.right_of_append
  cases between with
  | nil =>
      rcases (List.isChain_cons_cons.mp following).1 rfl with ⟨delay, same⟩
      contradiction
  | cons event between =>
      rcases (List.isChain_cons_cons.mp following).1 rfl with ⟨delay, rfl⟩
      exact ⟨delay, List.mem_cons_self⟩

/-- A task whose delays cannot run out ends by shutdown or with a fatal error. -/
theorem Orderly.ended (orderly : Orderly config shuttingDown task) (ended : task.phase = .absent)
    (short : config.longest < 2 ^ 63) :
    shuttingDown = true ∨
      ∃ events error, task.events = events ++ [.error error] ∧ error.severity = .fatal := by
  have lasts : ¬ config.Exhausts := fun exhausts => Nat.not_le.mpr short exhausts.2
  rcases orderly.rounds with ⟨tail, ending, rounds, -, split⟩
  rw [ended] at ending
  cases ending with
  | down running => exact absurd rfl running
  | quit ceases => exact .inl (ceases.resolve_right lasts)
  | cut ceases => exact .inl (ceases.resolve_right lasts)
  | refused fatal => exact .inr ⟨_, _, split, fatal⟩

end LinkTask

end InverterBridge
