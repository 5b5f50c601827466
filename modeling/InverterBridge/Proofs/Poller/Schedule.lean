import InverterBridge.Proofs.Poller.Arrivals

/-!
# The schedule of ticks

A `Diary` accompanies a run of a poller and keeps a record of the ticks: when each of them began
and ended, for which deadline, and what had arrived and had been applied by then.  It finds out
about a tick from what the task does and not from why it does it: a tick begins when the task goes
on from waiting without applying an event and without ending the run.

Every move goes on with the schedule in one of six ways (`LoggedRun.pace_of_move`).  From this
follows what every run keeps to (`Diary.ticks_on_schedule`): ticks begin on time and after the
events, only the end of a tick moves the deadline, and the deadlines are an interval apart unless a
tick has overrun the next one.
-/

namespace InverterBridge

namespace Activity

/-- Whether a tick is under way. -/
def inTick (activity : Activity) : Bool :=
  activity.outcome?.isSome

/-- Whether the task serves its ticks: it waits, or a tick is under way. -/
def servesTicks (activity : Activity) : Bool :=
  activity == .waiting || activity.inTick

/-- Whether a tick begins as the task goes on from one activity to another. -/
def beginsTick (before after : Activity) : Bool :=
  before == .waiting && after.servesTicks

/-- Whether a tick ends, and the run goes on. -/
def endsTick (before after : Activity) : Bool :=
  before.servesTicks && after == .waiting

theorem not_inTick_of_isHalted {activity : Activity} (halted : activity.isHalted = true) :
    activity.inTick = false := by
  cases activity <;> first | rfl | contradiction

/-- No tick begins while one is under way. -/
theorem beginsTick_of_inTick {before : Activity} (ticks : before.inTick = true)
    (after : Activity) : before.beginsTick after = false := by
  cases before <;> first | rfl | contradiction

/-- A tick that goes on does not end. -/
theorem endsTick_of_inTick (before : Activity) {after : Activity} (ticks : after.inTick = true) :
    before.endsTick after = false := by
  cases after <;> first | exact Bool.and_false _ | contradiction

/-- A tick with which the task halts is not one after which it goes on. -/
theorem endsTick_of_isHalted (before : Activity) {after : Activity}
    (halted : after.isHalted = true) : before.endsTick after = false := by
  cases after <;> first | exact Bool.and_false _ | contradiction

theorem endsTick_to_waiting {before : Activity} (serves : before.servesTicks = true) :
    endsTick before .waiting = true := by
  rw [endsTick, serves]
  rfl

theorem servesTicks_of_inTick {activity : Activity} (ticks : activity.inTick = true) :
    activity.servesTicks = true := by
  rw [servesTicks, ticks, Bool.or_true]

end Activity

theorem nextDeadline_le {interval deadline now : Nat} (due : deadline ≤ now) :
    nextDeadline interval deadline now ≤ now + interval := by
  unfold nextDeadline
  split <;> omega

theorem add_le_nextDeadline (interval deadline now : Nat) :
    deadline + interval ≤ nextDeadline interval deadline now := by
  unfold nextDeadline
  split <;> omega

/-! ## The pace of a move -/

namespace LoggedRun

variable {γ : Type} {site : Site γ} {run next : LoggedRun γ}

/-- It is time for a tick, and there is nothing else to do. -/
structure Prompt (run : LoggedRun γ) : Prop where
  due : run.deadline ≤ run.now
  held : run.shutdown.released = false
  quiet : run.poller.inbox = []

/-- How the task goes on with its schedule. -/
inductive Pace (run next : LoggedRun γ) : Prop
  /-- The task has something else to do. -/
  | aside (begins : run.activity.beginsTick next.activity = false)
      (ends : run.activity.endsTick next.activity = false)
      (before : run.activity.inTick = false) (after : next.activity.inTick = false)
      (kept : next.deadline = run.deadline)
  /-- A tick begins. -/
  | begin (before : run.activity = .waiting) (after : next.activity.inTick = true)
      (prompt : run.Prompt) (kept : next.deadline = run.deadline)
  /-- A tick begins, and there is nothing to read. -/
  | skip (before : run.activity = .waiting) (after : next.activity = .waiting)
      (prompt : run.Prompt) (moved : next.deadline = nextDeadline run.interval run.deadline run.now)
  /-- The next part of a tick begins. -/
  | goOn (before : run.activity.inTick = true) (after : next.activity.inTick = true)
      (kept : next.deadline = run.deadline)
  /-- A tick ends. -/
  | complete (before : run.activity.inTick = true) (after : next.activity = .waiting)
      (moved : next.deadline = nextDeadline run.interval run.deadline run.now)
  /-- The run ends with a tick, or a tick breaks down. -/
  | halt (before : run.activity.inTick = true) (after : next.activity.isHalted = true)
      (kept : next.deadline = run.deadline)

/-- A tick with something to read ends in one of two ways. -/
theorem pace_endTick (before : run.activity.inTick = true) (poller : Poller (Logged γ))
    (outcome : TickOutcome) :
    Pace run ({ run with poller := poller }.endTick site.logged outcome) := by
  rcases PollerRun.endTick_cases site.logged outcome { run with poller := poller } with
    ⟨_, _, ends⟩ | ⟨_, ends⟩ <;> rw [ends]
  · exact .halt before rfl rfl
  · exact .complete before rfl rfl

/-- A tick goes on after its second part, or it breaks down there. -/
theorem pace_beginEvents (before : run.activity.inTick = true) (poller : Poller (Logged γ))
    (reached : Option TickOutcome) :
    Pace run ({ run with poller := poller }.beginEvents site.logged reached) := by
  cases reached with
  | none => exact .halt before rfl rfl
  | some outcome => exact .goOn before rfl rfl

/-- A tick that reads nothing does not end the run. -/
theorem endTick_skipped (run : LoggedRun γ) :
    run.endTick site.logged .skipped =
      { run with
        deadline := nextDeadline run.interval run.deadline run.now
        activity := .waiting } :=
  rfl

/-- Every move goes on with the schedule in one of these ways. -/
theorem pace_of_move (move : PollerRun.Move site.logged run next) : Pace run next := by
  cases move with
  | quit waits released => refine .aside ?_ ?_ ?_ rfl rfl <;> rw [waits] <;> rfl
  | @take event rest waits held arrived =>
      cases event <;> refine .aside ?_ ?_ ?_ rfl rfl <;> rw [waits] <;> rfl
  | tick waits held quiet due =>
      have prompt : run.Prompt := ⟨due, held, quiet⟩
      unfold PollerRun.beginTick
      split
      · split <;> exact .begin waits rfl prompt rfl
      · rw [endTick_skipped]
        exact .skip waits rfl prompt rfl
  | @handle event instant handles due =>
      unfold PollerRun.follow
      split <;> refine .aside ?_ ?_ ?_ rfl rfl <;> rw [handles] <;> rfl
  | identify identifies due => exact .goOn (by rw [identifies]; rfl) rfl rfl
  | measure measures due => exact pace_beginEvents (by rw [measures]; rfl) _ _
  | observe observes due => exact pace_endTick (by rw [observes]; rfl) _ _

/-- A move takes no time. -/
theorem clock_of_move (move : PollerRun.Move site.logged run next) :
    next.interval = run.interval ∧ next.now = run.now := by
  have ended (run : LoggedRun γ) (outcome : TickOutcome) :
      (run.endTick site.logged outcome).interval = run.interval ∧
        (run.endTick site.logged outcome).now = run.now := by
    rcases PollerRun.endTick_cases site.logged outcome run with
      ⟨_, _, ends⟩ | ⟨_, ends⟩ <;> rw [ends] <;> exact ⟨rfl, rfl⟩
  cases move with
  | quit waits released => exact ⟨rfl, rfl⟩
  | @take event rest waits held arrived => cases event <;> exact ⟨rfl, rfl⟩
  | tick waits held quiet due =>
      unfold PollerRun.beginTick
      split
      · split <;> exact ⟨rfl, rfl⟩
      · exact ended _ _
  | @handle event instant handles due =>
      unfold PollerRun.follow
      split <;> exact ⟨rfl, rfl⟩
  | identify identifies due => exact ⟨rfl, rfl⟩
  | measure measures due => exact ⟨rfl, rfl⟩
  | observe observes due => exact ended { run with poller := _ } _

end LoggedRun

/-! ## Diaries -/

/-- The beginning of a tick. -/
structure TickStart where
  /-- The deadline for which the task has waited. -/
  deadline : Nat
  instant : Nat
  /-- Whether shutdown has been requested, or can no longer be. -/
  released : Bool
  inbox : List GatewayEvent
  /-- The events that have arrived since the run has begun. -/
  arrived : List GatewayEvent
  /-- The events that have been applied. -/
  applied : List GatewayEvent

/-- A tick begins on time, without a request for shutdown, and when everything has been applied
that has arrived, after what had been in the inbox before. -/
structure TickStart.Timely (earlier : List GatewayEvent) (start : TickStart) : Prop where
  due : start.deadline ≤ start.instant
  held : start.released = false
  quiet : start.inbox = []
  applied : start.applied = earlier ++ start.arrived

/-- The end of a tick after which the run goes on. -/
structure TickEnd where
  /-- The deadline for which the task had waited. -/
  deadline : Nat
  instant : Nat
  /-- The deadline for which the task waits now. -/
  next : Nat
  deriving DecidableEq, Repr

/-- A tick ends after its deadline, and sets the next one. -/
structure TickEnd.Timely (interval : Nat) (tick : TickEnd) : Prop where
  due : tick.deadline ≤ tick.instant
  next : tick.next = nextDeadline interval tick.deadline tick.instant

/-- A run of a poller with a record of its ticks. -/
structure Diary (γ : Type) where
  run : LoggedRun γ
  applied : List GatewayEvent
  starts : List TickStart
  ends : List TickEnd

namespace Diary

variable {γ : Type} {site : Site γ} {diary : Diary γ}

/-- Begin a run with an empty record. -/
def start (site : Site γ) (interval : Nat) (poller : Poller γ) : Diary γ :=
  ⟨LoggedRun.start site interval poller, [], [], []⟩

/-- Record a move of the task. -/
def note (diary : Diary γ) (next : LoggedRun γ) : Diary γ where
  run := next
  applied := diary.applied ++ diary.run.activity.event?.toList
  starts := diary.starts ++
    if diary.run.activity.beginsTick next.activity then
      [⟨diary.run.deadline, diary.run.now, diary.run.shutdown.released, diary.run.poller.inbox,
        diary.run.poller.arrivals, diary.applied⟩]
    else []
  ends := diary.ends ++
    if diary.run.activity.endsTick next.activity then
      [⟨diary.run.deadline, diary.run.now, next.deadline⟩]
    else []

/-- Apply an act, and record it. -/
def act (site : Site γ) (diary : Diary γ) : RunAct γ → Diary γ
  | .poll =>
      match diary.run.step site.logged with
      | none => diary
      | some next => diary.note next
  | other => { diary with run := diary.run.act site other }

/-- Apply acts in order. -/
def actAll (site : Site γ) (diary : Diary γ) (acts : List (RunAct γ)) : Diary γ :=
  acts.foldl (act site) diary

/-- The run goes on as it does without the record. -/
theorem run_act (site : Site γ) (diary : Diary γ) (action : RunAct γ) :
    (diary.act site action).run = diary.run.act site action := by
  cases action with
  | poll =>
      simp only [act, LoggedRun.act]
      cases diary.run.step site.logged <;> rfl
  | _ => rfl

theorem run_actAll (site : Site γ) (diary : Diary γ) (acts : List (RunAct γ)) :
    (diary.actAll site acts).run = diary.run.actAll site acts := by
  induction acts generalizing diary with
  | nil => rfl
  | cons action acts ih =>
      change ((diary.act site action).actAll site acts).run = _
      rw [ih, run_act]
      rfl

/-- The deadlines for which the task has waited so far, the current one at the end. -/
def deadlines (diary : Diary γ) : List Nat :=
  diary.ends.map (·.deadline) ++ [diary.run.deadline]

/-- Without the end of a tick the deadlines are those from before. -/
theorem deadlines_note {next : LoggedRun γ}
    (ends : diary.run.activity.endsTick next.activity = false)
    (same : next.deadline = diary.run.deadline) :
    (diary.note next).ends = diary.ends ∧ (diary.note next).deadlines = diary.deadlines := by
  have ends_eq : (diary.note next).ends = diary.ends := by simp [Diary.note, ends]
  refine ⟨ends_eq, ?_⟩
  rw [deadlines, ends_eq, deadlines]
  exact congrArg (diary.ends.map (·.deadline) ++ [·]) same

/-- How the record of a run stands to the run, which has begun with some events in the inbox. -/
structure Kept (interval : Nat) (earlier : List GatewayEvent) (diary : Diary γ) : Prop where
  interval_eq : diary.run.interval = interval
  arrived : earlier ++ diary.run.poller.arrivals = diary.applied ++ diary.run.pending
  starts : ∀ start ∈ diary.starts, start.Timely earlier
  ends : ∀ tick ∈ diary.ends, tick.Timely interval
  deadlines_eq : diary.deadlines = interval :: diary.ends.map (·.next)
  /-- Between ticks as many have ended as have begun. -/
  resting : diary.run.activity.isHalted = false → diary.run.activity.inTick = false →
    diary.starts.map (·.deadline) = diary.ends.map (·.deadline)
  /-- During a tick one more has begun. -/
  ticking : diary.run.activity.inTick = true →
    diary.starts.map (·.deadline) = diary.deadlines ∧ diary.run.deadline ≤ diary.run.now
  /-- Every tick has begun for the deadline whose turn it was. -/
  begun : diary.starts.map (·.deadline) <+: diary.deadlines

section

variable {interval : Nat} {earlier : List GatewayEvent}

theorem kept_start (site : Site γ) (interval : Nat) (poller : Poller γ) :
    (start site interval poller).Kept interval poller.inbox where
  interval_eq := rfl
  arrived := (LoggedRun.pending_start site interval poller).symm
  starts := nofun
  ends := nofun
  deadlines_eq := rfl
  resting := fun _ _ => rfl
  ticking := nofun
  begun := List.nil_prefix

section

variable (kept : diary.Kept interval earlier) {next : LoggedRun γ}
  (move : PollerRun.Move site.logged diary.run next)

include kept move

theorem Kept.interval_note : (diary.note next).run.interval = interval :=
  (LoggedRun.clock_of_move move).1.trans kept.interval_eq

theorem Kept.arrived_note :
    earlier ++ (diary.note next).run.poller.arrivals =
      (diary.note next).applied ++ (diary.note next).run.pending := by
  obtain ⟨events, arrived, pending⟩ := LoggedRun.pending_of_move move
  calc
    earlier ++ next.poller.arrivals = earlier ++ diary.run.poller.arrivals ++ events := by
      rw [arrived, List.append_assoc]
    _ = diary.applied ++ (diary.run.pending ++ events) := by
      rw [kept.arrived, List.append_assoc]
    _ = diary.applied ++ diary.run.activity.event?.toList ++ next.pending := by
      rw [pending, List.append_assoc]

/-- A move with which no tick begins or ends. -/
theorem Kept.carry (begins : diary.run.activity.beginsTick next.activity = false)
    (ends : diary.run.activity.endsTick next.activity = false)
    (same : next.deadline = diary.run.deadline)
    (phase : next.activity.isHalted = true ∨
      next.activity.inTick = diary.run.activity.inTick) :
    (diary.note next).Kept interval earlier := by
  have starts_eq : (diary.note next).starts = diary.starts := by simp [Diary.note, begins]
  obtain ⟨ends_eq, deadlines_eq⟩ := deadlines_note ends same
  refine ⟨kept.interval_note move, kept.arrived_note move, ?_, ?_, ?_, ?_, ?_, ?_⟩
  · rw [starts_eq]
    exact kept.starts
  · rw [ends_eq]
    exact kept.ends
  · rw [deadlines_eq, ends_eq]
    exact kept.deadlines_eq
  · intro running resting
    rw [starts_eq, ends_eq]
    rcases phase with halted | phase
    · exact absurd (halted.symm.trans running) nofun
    · exact kept.resting (LoggedRun.going_of_move move) (phase.symm.trans resting)
  · intro ticking
    rw [starts_eq, deadlines_eq]
    rcases phase with halted | phase
    · exact absurd ((Activity.not_inTick_of_isHalted halted).symm.trans ticking) nofun
    · obtain ⟨paired, due⟩ := kept.ticking (phase.symm.trans ticking)
      refine ⟨paired, ?_⟩
      change next.deadline ≤ next.now
      rwa [same, (LoggedRun.clock_of_move move).2]
  · rw [starts_eq, deadlines_eq]
    exact kept.begun

/-- A move with which a tick begins adds its beginning. -/
theorem Kept.starts_note (begins : diary.run.activity.beginsTick next.activity = true)
    (waits : diary.run.activity = .waiting) (prompt : diary.run.Prompt) :
    (∀ start ∈ (diary.note next).starts, start.Timely earlier) ∧
      (diary.note next).starts.map (·.deadline) = diary.deadlines := by
  have caughtUp : diary.applied = earlier ++ diary.run.poller.arrivals := by
    rw [kept.arrived, LoggedRun.pending, waits, prompt.quiet]
    exact (List.append_nil _).symm
  have paired := kept.resting (LoggedRun.going_of_move move) (by rw [waits]; rfl)
  rw [Diary.note, if_pos begins]
  constructor
  · simp only [List.forall_mem_append, List.forall_mem_singleton]
    exact ⟨kept.starts, prompt.due, prompt.held, prompt.quiet, caughtUp⟩
  · rw [List.map_append, paired]
    rfl

/-- A move with which a tick begins and goes on. -/
theorem Kept.begin (begins : diary.run.activity.beginsTick next.activity = true)
    (ends : diary.run.activity.endsTick next.activity = false)
    (waits : diary.run.activity = .waiting) (ticks : next.activity.inTick = true)
    (prompt : diary.run.Prompt) (same : next.deadline = diary.run.deadline) :
    (diary.note next).Kept interval earlier := by
  obtain ⟨starts, paired⟩ := kept.starts_note move begins waits prompt
  obtain ⟨ends_eq, deadlines_eq⟩ := deadlines_note ends same
  refine ⟨kept.interval_note move, kept.arrived_note move, starts, ?_, ?_, ?_, ?_, ?_⟩
  · rw [ends_eq]
    exact kept.ends
  · rw [deadlines_eq, ends_eq]
    exact kept.deadlines_eq
  · intro _ resting
    exact absurd (ticks.symm.trans resting) nofun
  · intro _
    refine ⟨paired.trans deadlines_eq.symm, ?_⟩
    change next.deadline ≤ next.now
    rw [same, (LoggedRun.clock_of_move move).2]
    exact prompt.due
  · exact ⟨[], (List.append_nil _).trans (paired.trans deadlines_eq.symm)⟩

/-- A move with which a tick ends, after as many have begun. -/
theorem Kept.finish (ends : diary.run.activity.endsTick next.activity = true)
    (waits : next.activity = .waiting) (due : diary.run.deadline ≤ diary.run.now)
    (moved : next.deadline =
      nextDeadline diary.run.interval diary.run.deadline diary.run.now)
    (starts : ∀ start ∈ (diary.note next).starts, start.Timely earlier)
    (paired : (diary.note next).starts.map (·.deadline) = diary.deadlines) :
    (diary.note next).Kept interval earlier := by
  have ends_eq : (diary.note next).ends =
      diary.ends ++ [⟨diary.run.deadline, diary.run.now, next.deadline⟩] := by
    simp [Diary.note, ends]
  have finished : (diary.note next).ends.map (·.deadline) = diary.deadlines := by
    rw [ends_eq, List.map_append]
    rfl
  refine ⟨kept.interval_note move, kept.arrived_note move, starts, ?_, ?_, ?_, ?_, ?_⟩
  · rw [ends_eq]
    simp only [List.forall_mem_append, List.forall_mem_singleton]
    exact ⟨kept.ends, due, kept.interval_eq ▸ moved⟩
  · rw [deadlines, finished, kept.deadlines_eq, ends_eq, List.map_append]
    rfl
  · intro running resting
    rw [paired, finished]
  · intro ticking
    change next.activity.inTick = true at ticking
    rw [waits] at ticking
    contradiction
  · rw [paired, ← finished, deadlines]
    exact List.prefix_append _ _

end

/-- Whatever the task does, the record stands to the run as before. -/
theorem Kept.note (kept : diary.Kept interval earlier) {next : LoggedRun γ}
    (move : PollerRun.Move site.logged diary.run next) :
    (diary.note next).Kept interval earlier := by
  cases LoggedRun.pace_of_move move with
  | aside begins ends before after same =>
      exact kept.carry move begins ends same (.inr (after.trans before.symm))
  | goOn before after same =>
      exact kept.carry move (Activity.beginsTick_of_inTick before _)
        (Activity.endsTick_of_inTick _ after) same (.inr (after.trans before.symm))
  | halt before after same =>
      exact kept.carry move (Activity.beginsTick_of_inTick before _)
        (Activity.endsTick_of_isHalted _ after) same (.inl after)
  | begin before after prompt same =>
      have begins : diary.run.activity.beginsTick next.activity = true := by
        rw [before]
        exact Activity.servesTicks_of_inTick after
      exact kept.begin move begins (Activity.endsTick_of_inTick _ after) before after prompt same
  | skip before after prompt moved =>
      have begins : diary.run.activity.beginsTick next.activity = true := by
        rw [before, after]
        rfl
      have ends : diary.run.activity.endsTick next.activity = true := by
        rw [before, after]
        rfl
      obtain ⟨starts, paired⟩ := kept.starts_note move begins before prompt
      exact kept.finish move ends after prompt.due moved starts paired
  | complete before after moved =>
      have starts_eq : (diary.note next).starts = diary.starts := by
        simp [Diary.note, Activity.beginsTick_of_inTick before]
      have ends : diary.run.activity.endsTick next.activity = true := by
        rw [after]
        exact Activity.endsTick_to_waiting (Activity.servesTicks_of_inTick before)
      obtain ⟨paired, due⟩ := kept.ticking before
      exact kept.finish move ends after due moved (starts_eq ▸ kept.starts) (starts_eq ▸ paired)

/-- What happens around the task leaves the record as it is. -/
theorem Kept.act (kept : diary.Kept interval earlier) (site : Site γ) (action : RunAct γ) :
    (diary.act site action).Kept interval earlier := by
  cases action with
  | poll =>
      rw [Diary.act]
      cases step : diary.run.step site.logged with
      | none => exact kept
      | some next => exact kept.note (PollerRun.move_of_step step)
  | advance milliseconds =>
      refine { kept with ticking := fun ticking => ?_ }
      obtain ⟨paired, due⟩ := kept.ticking ticking
      exact ⟨paired, Nat.le_add_right_of_le due⟩
  | surround state events =>
      refine { kept with arrived := ?_ }
      have arrived : (diary.run.act site (.surround state events)).poller.arrivals =
          diary.run.poller.arrivals ++ events :=
        List.filterMap_append.trans (congrArg _ (GatewayEntry.filterMap_event events))
      have pending : (diary.run.act site (.surround state events)).pending =
          diary.run.pending ++ events :=
        (List.append_assoc _ _ _).symm
      change earlier ++ (diary.run.act site (.surround state events)).poller.arrivals =
        diary.applied ++ (diary.run.act site (.surround state events)).pending
      rw [arrived, pending, ← List.append_assoc, kept.arrived, List.append_assoc]
  | requestShutdown => exact { kept with }
  | dropShutdown => exact { kept with }

theorem Kept.actAll (kept : diary.Kept interval earlier) (site : Site γ)
    (acts : List (RunAct γ)) : (diary.actAll site acts).Kept interval earlier := by
  induction acts generalizing diary with
  | nil => exact kept
  | cons action acts ih => exact ih (kept.act site action)

/-! ## The deadlines of a run -/

/-- Every deadline but the first was set at the end of the tick for the one before it. -/
theorem Kept.deadline_succ (kept : diary.Kept interval earlier) {index deadline : Nat}
    (at_succ : diary.deadlines[index + 1]? = some deadline) :
    ∃ tick, diary.ends[index]? = some tick ∧ tick.next = deadline ∧
      diary.deadlines[index]? = some tick.deadline := by
  rw [kept.deadlines_eq, List.getElem?_cons_succ, List.getElem?_map,
    Option.map_eq_some_iff] at at_succ
  obtain ⟨tick, ended, next⟩ := at_succ
  have inside : index < diary.ends.length := (List.getElem?_eq_some_iff.mp ended).1
  refine ⟨tick, ended, next, ?_⟩
  rw [deadlines, List.getElem?_append_left (by rwa [List.length_map]), List.getElem?_map, ended]
  rfl

theorem Kept.deadline_zero (kept : diary.Kept interval earlier) {deadline : Nat}
    (first : diary.deadlines[0]? = some deadline) : deadline = interval := by
  rw [kept.deadlines_eq] at first
  exact (Option.some.inj first).symm

/-- The deadlines are at least an interval apart. -/
theorem Kept.le_deadline (kept : diary.Kept interval earlier) {index deadline : Nat}
    (found : diary.deadlines[index]? = some deadline) : (index + 1) * interval ≤ deadline := by
  induction index generalizing deadline with
  | zero =>
      obtain rfl := kept.deadline_zero found
      exact Nat.le_of_eq (Nat.one_mul deadline)
  | succ index ih =>
      obtain ⟨tick, ended, rfl, before⟩ := kept.deadline_succ found
      have timely := kept.ends tick (List.mem_of_getElem? ended)
      have apart := add_le_nextDeadline interval tick.deadline tick.instant
      rw [← timely.next] at apart
      rw [Nat.succ_mul]
      exact Nat.le_trans (Nat.add_le_add_right (ih before) interval) apart

/-- Unless a tick overruns the next deadline the deadlines are exactly an interval apart. -/
theorem Kept.deadline_eq (kept : diary.Kept interval earlier) {index deadline : Nat}
    (found : diary.deadlines[index]? = some deadline)
    (punctual : ∀ tick ∈ diary.ends.take index, tick.instant < tick.deadline + interval) :
    deadline = (index + 1) * interval := by
  induction index generalizing deadline with
  | zero => rw [kept.deadline_zero found, Nat.zero_add, Nat.one_mul]
  | succ index ih =>
      obtain ⟨tick, ended, rfl, before⟩ := kept.deadline_succ found
      rw [List.take_add_one, ended, List.forall_mem_append] at punctual
      have next := (kept.ends tick (List.mem_of_getElem? ended)).next
      have early : tick.instant < tick.deadline + interval := punctual.2 tick (by simp)
      rw [nextDeadline, if_neg (Nat.not_le.mpr early), ih before punctual.1] at next
      rw [next, Nat.succ_mul (index + 1)]

/-- A tick is for the deadline of the same number. -/
theorem Kept.deadline_of_start (kept : diary.Kept interval earlier) {index : Nat}
    {start : TickStart} (begun : diary.starts[index]? = some start) :
    diary.deadlines[index]? = some start.deadline ∧ start.deadline ≤ start.instant := by
  have found : (diary.starts.map (·.deadline))[index]? = some start.deadline := by
    rw [List.getElem?_map, begun]
    rfl
  have inside : index < (diary.starts.map (·.deadline)).length :=
    (List.getElem?_eq_some_iff.mp found).1
  obtain ⟨rest, split⟩ := kept.begun
  rw [← split, List.getElem?_append_left inside]
  exact ⟨found, (kept.starts start (List.mem_of_getElem? begun)).due⟩

/-- What a diary says of the schedule of a run, which has begun with some events in the inbox. -/
structure OnSchedule (interval : Nat) (earlier : List GatewayEvent) (diary : Diary γ) :
    Prop where
  /-- Every tick begins at its deadline or later, without a request for shutdown, and when
  everything that has arrived has been applied. -/
  starts : ∀ start ∈ diary.starts, start.Timely earlier
  /-- After a tick the next deadline is to come, but in no more than an interval.  It is an
  interval after the deadline before it unless this has passed. -/
  ends : ∀ tick ∈ diary.ends, tick.instant < tick.next ∧ tick.next ≤ tick.instant + interval ∧
    tick.next = if tick.deadline + interval ≤ tick.instant then tick.instant + interval
      else tick.deadline + interval
  /-- The first deadline is an interval after the start, and nothing but the end of a tick sets
  another one. -/
  deadlines : diary.deadlines = interval :: diary.ends.map (·.next)
  /-- There is one tick for each deadline, and so at most one in each interval. -/
  one_each : ∀ index start, diary.starts[index]? = some start →
    diary.deadlines[index]? = some start.deadline ∧ (index + 1) * interval ≤ start.instant
  /-- No tick follows another at once. -/
  no_burst : ∀ index tick start, diary.ends[index]? = some tick →
    diary.starts[index + 1]? = some start → tick.instant < start.instant
  /-- Before the first overrun the deadlines do not drift. -/
  no_drift : ∀ index deadline, diary.deadlines[index]? = some deadline →
    (∀ tick ∈ diary.ends.take index, tick.instant < tick.deadline + interval) →
    deadline = (index + 1) * interval

theorem Kept.onSchedule (kept : diary.Kept interval earlier) (positive : 0 < interval) :
    diary.OnSchedule interval earlier := by
  have ahead : ∀ tick ∈ diary.ends, tick.instant < tick.next := by
    intro tick ended
    rw [(kept.ends tick ended).next]
    exact now_lt_nextDeadline positive
  refine ⟨kept.starts, ?_, kept.deadlines_eq, ?_, ?_, fun _ _ => kept.deadline_eq⟩
  · intro tick ended
    obtain ⟨due, next⟩ := kept.ends tick ended
    exact ⟨ahead tick ended, next ▸ nextDeadline_le due, next⟩
  · intro index start begun
    obtain ⟨found, due⟩ := kept.deadline_of_start begun
    exact ⟨found, Nat.le_trans (kept.le_deadline found) due⟩
  · intro index tick start ended begun
    obtain ⟨found, due⟩ := kept.deadline_of_start begun
    obtain ⟨before, same, next, -⟩ := kept.deadline_succ found
    obtain rfl : tick = before := Option.some.inj (ended.symm.trans same)
    exact Nat.lt_of_lt_of_le (next ▸ ahead tick (List.mem_of_getElem? ended)) due

end

/-- While an event is being applied nothing moves the deadline. -/
theorem deadline_act_of_handling {event : GatewayEvent} {instant : Nat}
    (handles : diary.run.activity = .handling event instant) (site : Site γ) (action : RunAct γ) :
    (diary.act site action).run.deadline = diary.run.deadline := by
  rw [run_act]
  cases action with
  | poll =>
      rcases LoggedRun.act_poll site diary.run with same | move
      · rw [same]
      · cases LoggedRun.pace_of_move move with
        | aside begins ends before after same => exact same
        | begin before => exact absurd (handles.symm.trans before) nofun
        | skip before => exact absurd (handles.symm.trans before) nofun
        | goOn before after same => exact same
        | complete before => rw [handles] at before; contradiction
        | halt before after same => exact same
  | _ => rfl

/-- **Ticks keep to their schedule.** Run a poller over any gateway, with any durations, whatever
arrives and whenever the task gets to move, and let a diary accompany the run.  Ticks begin at
their deadline or later, without a request for shutdown, and after every event that has arrived;
the application of events leaves the deadline alone; the end of a tick sets the next deadline, an
interval after the one before it or, if this has passed, an interval from now.  Hence there is no
burst of ticks after an overrun, and no drift before one. -/
theorem ticks_on_schedule {interval : Nat} (positive : 0 < interval) (site : Site γ)
    (poller : Poller γ) (acts : List (RunAct γ)) :
    let diary := (start site interval poller).actAll site acts
    diary.run = (LoggedRun.start site interval poller).actAll site acts ∧
      diary.OnSchedule interval poller.inbox ∧
      ∀ event instant, diary.run.activity = .handling event instant →
        ∀ action, (diary.act site action).run.deadline = diary.run.deadline := by
  intro diary
  have kept : diary.Kept interval poller.inbox :=
    (kept_start site interval poller).actAll site acts
  exact ⟨run_actAll site _ acts, kept.onSchedule positive,
    fun event instant handles => deadline_act_of_handling handles site⟩

/-- A device at rest where a fetch takes 300 milliseconds. -/
def restingSite : Site Unit where
  gateway := .resting 1
  latency := fun _ _ => 300
  timeOfDay := fun instant => instant

/-- The link comes up and there is a first tick of three fetches.  The second one begins late. -/
def lateSecondTick : List (RunAct Unit) :=
  [.surround () [.connected], .poll, .advance 300, .poll, .advance 700, .poll, .advance 300, .poll,
    .advance 300, .poll, .advance 300, .poll, .advance 600, .poll, .advance 300, .poll,
    .advance 300, .poll]

/-- The first tick is punctual and the second one overruns the third deadline. -/
theorem second_tick_overruns :
    let diary := (start restingSite 1000 (.initial "inverter" ())).actAll restingSite lateSecondTick
    diary.OnSchedule 1000 [] ∧ diary.ends = [⟨1000, 1900, 2000⟩, ⟨2000, 3100, 4100⟩] := by
  intro diary
  obtain ⟨-, scheduled, -⟩ := ticks_on_schedule (show 0 < 1000 by decide) restingSite
    (.initial "inverter" ()) lateSecondTick
  exact ⟨scheduled, by decide +kernel⟩

end Diary

end InverterBridge
