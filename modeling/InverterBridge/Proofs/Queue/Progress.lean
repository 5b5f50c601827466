import InverterBridge.Proofs.Queue.Scene

/-!
# The progress of a drain task

A drain task never runs for ever on its own: `Scene.effort` is a bound on the
turns that it can take in a row, and every turn lessens it.  `Scene.settle` lets
the task run until it has to wait, and `Scene.existsUnique_situation` says what
it can be waiting for then.  It does not wait for a message while there is one,
as a message that is queued leaves a notice (`Scene.Attentive`).

Once the shutdown signal has been released, the task stops.  `Scene.landings`
counts the publications that may have to end before, at most one more than there
are messages.
-/

namespace InverterBridge

namespace DestinationQueue

/-- The oldest entry of a number is there to be removed. -/
theorem length_pos_of_isHead {queue : DestinationQueue} {sequence : Nat}
    (head : queue.isHead sequence = true) : 0 < queue.length := by
  simp only [isHead, head?, Option.any_eq_true, List.head?_eq_some_iff] at head
  rcases head with ⟨oldest, ⟨rest, entries⟩, -⟩
  simp [length, entries]

theorem length_complete (queue : DestinationQueue) (sequence : Nat) :
    (queue.complete sequence).length =
      if queue.isHead sequence then queue.length - 1 else queue.length := by
  rw [length, entries_complete]
  split
  · exact List.length_tail
  · rfl

theorem notified_complete (queue : DestinationQueue) (sequence : Nat) :
    (queue.complete sequence).notified = queue.notified := by
  simp only [complete, removeHead]
  split <;> rfl

theorem isHead_of_head? {queue : DestinationQueue} {entry : QueueEntry}
    (oldest : queue.head? = some entry) : queue.isHead entry.sequence = true := by
  simp [isHead, oldest]

end DestinationQueue

namespace Scene

variable {scene next : Scene}

/-! ## The effort ahead -/

/-- More than the turns to which a phase by itself leads before the task has to wait. -/
def phaseEffort (around : Surroundings) (queue : DestinationQueue) : DrainPhase → Nat
  | .starting =>
      if around.shutdown.value then 1
      else if !around.connectivity.value then 2
      else if queue.isEmpty then 3
      else 6
  | .awaitingConnection =>
      if !around.shutdown.released && around.connectivity.value then 6 else 1
  | .seekingMessage => if queue.isEmpty then 2 else 5
  | .awaitingMessage => 1
  | .delivering => 4
  | .publishing entry => if queue.isHead entry.sequence then 3 else 5
  | .awaitingRetry due =>
      if !around.shutdown.released && decide (due ≤ around.now) then 7 else 1
  | .stopped => 0

/-- The turns to which a notice and updates that have not been seen may lead. -/
def newsEffort (around : Surroundings) (notified : Bool) (seen : Nat) : Nat :=
  if around.shutdown.released then 0
  else
    (if notified then 5 else 0) + if around.connectivity.changes = seen then 0 else 6

/-- More than the turns that the task can take in a row.  A message that is
published pays for its two turns. -/
def effort (scene : Scene) : Nat :=
  2 * scene.queue.length + phaseEffort scene.around scene.queue scene.drain.phase +
    newsEffort scene.around scene.queue.notified scene.drain.seen

theorem newsEffort_changes_le (around : Surroundings) (notified : Bool) (seen : Nat) :
    newsEffort around notified around.connectivity.changes ≤ newsEffort around notified seen := by
  simp only [newsEffort]
  split
  · exact Nat.le_refl _
  · simp

theorem newsEffort_of_news {around : Surroundings} {seen : Nat}
    (held : around.shutdown.released = false) (news : around.connectivity.changes ≠ seen)
    (notified : Bool) :
    newsEffort around notified seen =
      newsEffort around notified around.connectivity.changes + 6 := by
  simp [newsEffort, held, news]

theorem newsEffort_of_notified {around : Surroundings}
    (held : around.shutdown.released = false) (seen : Nat) :
    newsEffort around true seen = newsEffort around false seen + 5 := by
  simp [newsEffort, held, Nat.add_comm]

theorem phaseEffort_starting_le (around : Surroundings) (queue : DestinationQueue) :
    phaseEffort around queue .starting ≤ 6 := by
  simp only [phaseEffort]
  split
  · decide
  · split
    · decide
    · split <;> decide

theorem phaseEffort_seeking_le (around : Surroundings) (queue : DestinationQueue) :
    phaseEffort around queue .seekingMessage ≤ 5 := by
  simp only [phaseEffort]
  split <;> decide

theorem effort_lt_of_phase {around : Surroundings} {queue : DestinationQueue}
    {phase entered : DrainPhase} {seen known : Nat}
    (less : phaseEffort around queue entered < phaseEffort around queue phase)
    (news : newsEffort around queue.notified known ≤ newsEffort around queue.notified seen) :
    effort ⟨around, queue, entered, known⟩ < effort ⟨around, queue, phase, seen⟩ := by
  simp only [effort]
  omega

/-- Every move of the task lessens the effort ahead. -/
theorem effort_lt_of_move {around : Surroundings} {queue next : DestinationQueue}
    {drain moved : Drain} (move : Drain.Move around queue drain next moved) :
    effort ⟨around, next, moved⟩ < effort ⟨around, queue, drain⟩ := by
  have seeing := newsEffort_changes_le around queue.notified
  have starts := phaseEffort_starting_le around queue
  have seeks := phaseEffort_seeking_le around queue
  cases move with
  | quit shutdown =>
      exact effort_lt_of_phase (by simp [phaseEffort, shutdown]) (Nat.le_refl _)
  | proceed running connected =>
      refine effort_lt_of_phase ?_ (seeing _)
      simp only [phaseEffort, running, connected]
      cases queue.isEmpty <;> decide
  | hold running disconnected =>
      exact effort_lt_of_phase (by simp [phaseEffort, running, disconnected]) (seeing _)
  | leaveConnection released =>
      exact effort_lt_of_phase (by simp [phaseEffort, released]) (Nat.le_refl _)
  | connect held connected =>
      refine effort_lt_of_phase ?_ (seeing _)
      have waits : phaseEffort around queue .awaitingConnection = 6 := by
        simp [phaseEffort, held, connected]
      omega
  | loseConnection held disconnected gone =>
      exact effort_lt_of_phase (by simp [phaseEffort, disconnected]) (Nat.le_refl _)
  | begin filled => exact effort_lt_of_phase (by simp [phaseEffort, filled]) (Nat.le_refl _)
  | rest empty => exact effort_lt_of_phase (by simp [phaseEffort, empty]) (Nat.le_refl _)
  | leaveMessage released => exact effort_lt_of_phase (by simp [phaseEffort]) (Nat.le_refl _)
  | @takeNotice seen held notified =>
      have news := newsEffort_of_notified held seen
      have seeksLater : phaseEffort around { queue with notified := false } .seekingMessage ≤ 5 :=
        phaseEffort_seeking_le _ _
      simp only [effort, notified, news, DestinationQueue.length, phaseEffort] at seeksLater ⊢
      omega
  | exhaust none =>
      refine effort_lt_of_phase ?_ (Nat.le_refl _)
      have empty : queue.isEmpty = true := by
        simpa [DestinationQueue.isEmpty, DestinationQueue.head?] using none
      simp only [phaseEffort, empty, if_true]
      cases around.shutdown.value <;> cases around.connectivity.value <;> decide
  | publish oldest may =>
      have head := DestinationQueue.isHead_of_head? oldest
      exact effort_lt_of_phase (by simp [phaseEffort, head]) (Nat.le_refl _)
  | suspend oldest mayNot =>
      refine effort_lt_of_phase ?_ (Nat.le_refl _)
      simp only [Drain.mayPublish, Bool.and_eq_false_iff, Bool.not_eq_false'] at mayNot
      rcases mayNot with shutdown | disconnected
      · simp [phaseEffort, shutdown]
      · simp only [phaseEffort, disconnected]
        cases around.shutdown.value <;> simp
  | leaveRetry released =>
      exact effort_lt_of_phase (by simp [phaseEffort, released]) (Nat.le_refl _)
  | @hear due seen held news =>
      have later := newsEffort_of_news held news queue.notified
      have waits : 0 < phaseEffort around queue (.awaitingRetry due) := by
        simp only [phaseEffort]
        split <;> decide
      simp only [effort, Drain.enterSeeing, later]
      omega
  | loseRetry held silent gone =>
      refine effort_lt_of_phase ?_ (Nat.le_refl _)
      simp only [phaseEffort]
      split <;> decide
  | @retry due seen held silent live elapsed =>
      refine effort_lt_of_phase ?_ (Nat.le_refl _)
      have waits : phaseEffort around queue (.awaitingRetry due) = 7 := by
        simp [phaseEffort, held, elapsed]
      omega

/-- So does the end of a publication, as failures are followed by a pause. -/
theorem Turn.effort_lt (turn : Turn scene next) (positive : 0 < scene.queue.retryDelay) :
    next.effort < scene.effort := by
  rcases scene with ⟨around, queue, drain⟩
  cases turn with
  | move move => exact effort_lt_of_move move
  | @deliver entry seen publishing =>
      cases publishing
      simp only [effort, phaseEffort, DestinationQueue.length_complete,
        DestinationQueue.notified_complete]
      by_cases head : queue.isHead entry.sequence = true
      · have filled := DestinationQueue.length_pos_of_isHead head
        simp only [head, if_true]
        omega
      · simp only [head, Bool.false_eq_true, if_false]
        omega
  | @fail entry seen publishing =>
      cases publishing
      have pauses : ¬ around.now + queue.retryDelay ≤ around.now := by
        simp only at positive
        omega
      have waits : phaseEffort around queue.recordFailure
          (.awaitingRetry (around.now + queue.retryDelay)) = 1 := by
        simp [phaseEffort, pauses]
      have flies : 1 < phaseEffort around queue (.publishing entry) := by
        simp only [phaseEffort]
        split <;> decide
      simp only [effort, waits]
      simp only [DestinationQueue.recordFailure, DestinationQueue.length]
      omega

/-! ## Turns in a row -/

/-- The acts that are turns of the task. -/
def turns : Scene → List SceneAct → Nat
  | _, [] => 0
  | scene, first :: acts => (scene.takesTurn first).toNat + (scene.act first).turns acts

/-- The task has to wait. -/
def AtRest (scene : Scene) : Prop :=
  scene.drain.step scene.around scene.queue = none

/-- The scene after the task has made all the moves that it can make now. -/
def settle (scene : Scene) : Scene :=
  scene.run (List.replicate scene.effort .move)

theorem retryDelay_pos_act (positive : 0 < scene.queue.retryDelay) (act : SceneAct) :
    0 < (scene.act act).queue.retryDelay := by
  rwa [(step_act scene act).retryDelay_eq]

theorem act_move_of_atRest (rest : scene.AtRest) : scene.act .move = scene := by
  simp only [act, AtRest] at rest ⊢
  rw [rest]

theorem run_moves_of_atRest (rest : scene.AtRest) (moves : Nat) :
    scene.run (List.replicate moves .move) = scene := by
  induction moves with
  | zero => rfl
  | succ moves ih => rw [List.replicate_succ, run_cons, act_move_of_atRest rest, ih]

/-- The task comes to rest, as every move lessens the effort ahead. -/
theorem atRest_run_moves (positive : 0 < scene.queue.retryDelay) {moves : Nat}
    (enough : scene.effort ≤ moves) : (scene.run (List.replicate moves .move)).AtRest := by
  induction moves generalizing scene with
  | zero =>
      by_contra moving
      have takes : scene.takesTurn .move = true := Option.isSome_iff_ne_none.mpr moving
      have less := (turn_of_takesTurn takes).effort_lt positive
      omega
  | succ moves ih =>
      by_cases rest : scene.AtRest
      · rwa [run_moves_of_atRest rest]
      · have takes : scene.takesTurn .move = true := Option.isSome_iff_ne_none.mpr rest
        have less := (turn_of_takesTurn takes).effort_lt positive
        exact ih (retryDelay_pos_act positive .move) (by omega)

theorem atRest_settle (positive : 0 < scene.queue.retryDelay) : scene.settle.AtRest :=
  atRest_run_moves positive (Nat.le_refl _)

/-- Once the shutdown signal has been released, the surroundings add to the
effort of a phase only by a change of the connection. -/
theorem phaseEffort_later_le {around later : Surroundings} (queue : DestinationQueue)
    (released : around.shutdown.released = true) (after : around.Later later)
    (phase : DrainPhase) :
    phaseEffort later queue phase ≤
      phaseEffort around queue phase +
        if later.connectivity.value = around.connectivity.value then 0 else 4 := by
  have stays := after.released released
  cases phase with
  | starting =>
      have shutdown := after.requested
      simp only [phaseEffort]
      revert shutdown
      cases around.shutdown.value <;> cases later.shutdown.value <;>
        cases around.connectivity.value <;> cases later.connectivity.value <;>
        cases queue.isEmpty <;> simp_all
  | awaitingConnection => simp [phaseEffort, stays, released]
  | awaitingRetry due => simp [phaseEffort, stays, released]
  | _ => exact Nat.le_add_right _ _

/-- Announcements of the connection among acts. -/
def announcements (acts : List SceneAct) : Nat :=
  acts.countP SceneAct.isAnnouncement

theorem effort_act_le {act : SceneAct} (released : scene.around.shutdown.released = true)
    (others : act.isOfTask = false) (feeds : act.isEnqueue = false) :
    (scene.act act).effort ≤ scene.effort + 4 * announcements [act] := by
  have later := later_act_of_surroundings scene others
  have phases := phaseEffort_later_le scene.queue released later scene.drain.phase
  have changed : (if (scene.act act).around.connectivity.value = scene.around.connectivity.value
      then 0 else 4) ≤ 4 * announcements [act] := by
    cases act with
    | announce connected => split <;> simp [announcements, SceneAct.isAnnouncement]
    | _ => first | exact Nat.le_of_eq (if_pos rfl) | contradiction
  rw [act_eq_of_surroundings others feeds]
  simp only [effort, newsEffort, released, later.released released, if_true]
  omega

/-- The task can only take as many turns in a row as there is effort ahead.  Acts
of others may come between them once the shutdown signal has been released. -/
theorem turns_add_effort_le (positive : 0 < scene.queue.retryDelay) {acts : List SceneAct}
    (others : ∀ act ∈ acts, act.isOfTask = false →
      scene.around.shutdown.released = true ∧ act.isEnqueue = false) :
    scene.turns acts + (scene.run acts).effort ≤ scene.effort + 4 * announcements acts := by
  induction acts generalizing scene with
  | nil => exact Nat.le_of_eq (Nat.zero_add _)
  | cons first acts ih =>
      have later := ih (retryDelay_pos_act positive first) fun act mem other =>
        have ⟨released, feeds⟩ := others act (List.mem_cons_of_mem _ mem) other
        ⟨(step_act scene first).later.released released, feeds⟩
      have counted : announcements (first :: acts) =
          announcements [first] + announcements acts := by
        simp only [announcements, List.countP_cons, List.countP_nil]
        omega
      rw [turns, run_cons, counted]
      cases takes : scene.takesTurn first with
      | true =>
          have less := (turn_of_takesTurn takes).effort_lt positive
          rw [Bool.toNat_true]
          omega
      | false =>
          rw [Bool.toNat_false]
          cases task : first.isOfTask with
          | true =>
              rw [act_eq_self task takes] at later ⊢
              omega
          | false =>
              have ⟨released, feeds⟩ := others first List.mem_cons_self task
              have added := effort_act_le released task feeds
              omega

theorem phaseEffort_le (around : Surroundings) (queue : DestinationQueue) (phase : DrainPhase) :
    phaseEffort around queue phase ≤ 7 := by
  cases phase <;> simp only [phaseEffort] <;> repeat' split
  all_goals decide

theorem newsEffort_le (around : Surroundings) (notified : Bool) (seen : Nat) :
    newsEffort around notified seen ≤ 11 := by
  simp only [newsEffort]
  repeat' split
  all_goals decide

theorem effort_le (scene : Scene) : scene.effort ≤ 2 * scene.queue.length + 18 := by
  have phases := phaseEffort_le scene.around scene.queue scene.drain.phase
  have news := newsEffort_le scene.around scene.queue.notified scene.drain.seen
  simp only [effort]
  omega

theorem effort_le_of_released (released : scene.around.shutdown.released = true) :
    scene.effort ≤ 2 * scene.queue.length + 6 := by
  have phases : phaseEffort scene.around scene.queue scene.drain.phase ≤ 6 := by
    cases scene.drain.phase <;> simp only [phaseEffort, released] <;> repeat' split
    all_goals simp_all
  simp only [effort, newsEffort, released, if_true]
  omega

/-- Without acts of others there are no announcements. -/
theorem announcements_of_task {acts : List SceneAct}
    (task : ∀ act ∈ acts, act.isOfTask = true) : announcements acts = 0 := by
  rw [announcements, List.countP_eq_zero]
  intro act mem announces
  cases act with
  | announce connected => exact absurd (task _ mem) Bool.false_ne_true
  | _ => contradiction

/-! ## Situations at rest -/

/-- What a drain task that has to wait is doing. -/
inductive Situation where
  | stopped
  /-- Waiting for a connection. -/
  | disconnected
  /-- Waiting for a message. -/
  | idle
  /-- Waiting out a retry. -/
  | retrying
  | publishing

/-- The scene shows a task in a situation.  The three waits only go on while the
shutdown signal is held. -/
def Shows (scene : Scene) : Situation → Prop
  | .stopped => scene.drain.phase = .stopped
  | .disconnected =>
      scene.drain.phase = .awaitingConnection ∧ scene.around.shutdown.released = false ∧
        scene.around.connectivity.value = false
  | .idle =>
      scene.drain.phase = .awaitingMessage ∧ scene.around.shutdown.released = false ∧
        scene.queue.isEmpty = true
  | .retrying =>
      ∃ due, scene.drain.phase = .awaitingRetry due ∧
        scene.around.shutdown.released = false ∧ scene.around.now < due ∧
        0 < scene.queue.stats.failed
  | .publishing => ∃ entry, scene.drain.phase = .publishing entry

/-- A task that waits for a message has a notice of every message that is
queued, and one that waits out a retry has failed before. -/
structure Attentive (scene : Scene) : Prop where
  noticed : scene.drain.phase = .awaitingMessage → scene.queue.isEmpty = false →
    scene.queue.notified = true
  failed : ∀ due, scene.drain.phase = .awaitingRetry due → 0 < scene.queue.stats.failed

theorem attentive_initial (topic : String) (capacity retryDelay : Nat) (around : Surroundings) :
    Attentive (initial topic capacity retryDelay around) :=
  ⟨nofun, nofun⟩

theorem Attentive.step (attentive : Attentive scene) (step : Step scene next) :
    Attentive next := by
  rcases scene with ⟨around, queue, drain⟩
  cases step with
  | enqueue message =>
      constructor
      · intro waits filled
        simp only [DestinationQueue.enqueue]
        split <;> rfl
      · intro due waits
        simp only [DestinationQueue.enqueue]
        split <;> exact attentive.failed due waits
  | surround later => exact ⟨attentive.noticed, attentive.failed⟩
  | turn turn =>
      cases turn with
      | deliver publishing => exact ⟨nofun, nofun⟩
      | fail publishing => exact ⟨nofun, fun _ _ => Nat.succ_pos _⟩
      | move move =>
          cases move with
          -- the one move into the wait for a message finds no message
          | rest empty => exact ⟨fun _ filled => absurd empty (by simp_all), nofun⟩
          | _ => exact ⟨nofun, nofun⟩

theorem Attentive.run (attentive : Attentive scene) (acts : List SceneAct) :
    Attentive (scene.run acts) :=
  run_preserves (fun step holds => holds.step step) attentive acts

/-- The phase tells the situation. -/
theorem Shows.unique {first second : Situation} (showsFirst : scene.Shows first)
    (showsSecond : scene.Shows second) : first = second := by
  cases first <;> cases second <;> first | rfl | grind [Shows]

/-- A task that has to wait can make none of the moves. -/
theorem AtRest.not_move (rest : scene.AtRest) {queue : DestinationQueue} {drain : Drain} :
    ¬ Drain.Move scene.around scene.queue scene.drain queue drain := by
  intro move
  rw [AtRest, move.step] at rest
  contradiction

theorem exists_situation (attentive : Attentive scene) (rest : scene.AtRest) :
    ∃ situation, scene.Shows situation := by
  rcases scene with ⟨around, queue, phase, seen⟩
  cases phase with
  | starting =>
      cases shutdown : around.shutdown.value with
      | true => exact (rest.not_move (.quit shutdown)).elim
      | false =>
          cases connected : around.connectivity.value with
          | true => exact (rest.not_move (.proceed shutdown connected)).elim
          | false => exact (rest.not_move (.hold shutdown connected)).elim
  | awaitingConnection =>
      have held := Bool.eq_false_iff.mpr fun released =>
        rest.not_move (.leaveConnection released)
      have disconnected := Bool.eq_false_iff.mpr fun connected =>
        rest.not_move (.connect held connected)
      exact ⟨.disconnected, rfl, held, disconnected⟩
  | seekingMessage =>
      cases empty : queue.isEmpty with
      | true => exact (rest.not_move (.rest empty)).elim
      | false => exact (rest.not_move (.begin empty)).elim
  | awaitingMessage =>
      have held := Bool.eq_false_iff.mpr fun released => rest.not_move (.leaveMessage released)
      refine ⟨.idle, rfl, held, ?_⟩
      -- a message that is queued has left a notice, which would wake the task up
      by_contra filled
      have noticed := attentive.noticed rfl (Bool.eq_false_iff.mpr filled)
      exact rest.not_move (.takeNotice held noticed)
  | delivering =>
      cases oldest : queue.head? with
      | none => exact (rest.not_move (.exhaust oldest)).elim
      | some entry =>
          cases may : Drain.mayPublish around with
          | true => exact (rest.not_move (.publish oldest may)).elim
          | false => exact (rest.not_move (.suspend oldest may)).elim
  | publishing entry => exact ⟨.publishing, entry, rfl⟩
  | awaitingRetry due =>
      have held := Bool.eq_false_iff.mpr fun released => rest.not_move (.leaveRetry released)
      have silent : around.connectivity.changes = seen := by
        by_contra news
        exact rest.not_move (.hear held news)
      have live : around.connectivity.live = true := by
        by_contra gone
        exact rest.not_move (.loseRetry held silent (Bool.eq_false_iff.mpr gone))
      refine ⟨.retrying, due, rfl, held, ?_, attentive.failed due rfl⟩
      by_contra elapsed
      exact rest.not_move (.retry held silent live (Nat.le_of_not_lt elapsed))
  | stopped => exact ⟨.stopped, rfl⟩

theorem existsUnique_situation (attentive : Attentive scene) (rest : scene.AtRest) :
    ∃! situation, scene.Shows situation := by
  rcases exists_situation attentive rest with ⟨situation, shown⟩
  exact ⟨situation, shown, fun other showsOther => showsOther.unique shown⟩

/-! ## After the release -/

/-- Once the signal has been released, a task that has to wait waits for the end of a
publication, if it has not stopped. -/
theorem stopped_or_publishing (attentive : Attentive scene) (rest : scene.AtRest)
    (released : scene.around.shutdown.released = true) :
    scene.drain.phase = .stopped ∨ ∃ entry, scene.drain.phase = .publishing entry := by
  rcases exists_situation attentive rest with ⟨situation, shown⟩
  cases situation with
  | stopped => exact .inl shown
  | disconnected => exact absurd released (by simp [shown.2.1])
  | idle => exact absurd released (by simp [shown.2.1])
  | retrying =>
      rcases shown with ⟨due, waits, held, rest⟩
      exact absurd released (by simp [held])
  | publishing => exact .inr shown

theorem takesTurn_of_released (attentive : Attentive scene)
    (released : scene.around.shutdown.released = true)
    (working : scene.drain.phase ≠ .stopped) :
    ∃ act, act.isOfTask = true ∧ scene.takesTurn act = true := by
  by_cases rest : scene.AtRest
  · rcases stopped_or_publishing attentive rest released with stopped | ⟨entry, publishing⟩
    · contradiction
    · refine ⟨.finish true, rfl, ?_⟩
      simp only [takesTurn, publishing?_eq_some_iff.mpr publishing, Option.isSome_some]
  · exact ⟨.move, rfl, Option.isSome_iff_ne_none.mpr rest⟩

/-- The publications that may still have to end once the signal has been released. -/
def landings (scene : Scene) : Nat :=
  match scene.drain.phase with
  | .publishing entry =>
      if scene.queue.isHead entry.sequence then scene.queue.length
      else scene.queue.length + 1
  | .awaitingRetry _ => 0
  | .stopped => 0
  | _ => scene.queue.length

theorem landings_le (scene : Scene) : scene.landings ≤ scene.queue.length + 1 := by
  simp only [landings]
  split
  · split <;> omega
  all_goals omega

theorem landings_move_le {around : Surroundings} {queue next : DestinationQueue}
    {drain moved : Drain} (released : around.shutdown.released = true)
    (move : Drain.Move around queue drain next moved) :
    landings ⟨around, next, moved⟩ ≤ landings ⟨around, queue, drain⟩ := by
  cases move with
  | publish oldest may => simp [landings, DestinationQueue.isHead_of_head? oldest]
  | hear held news => simp [released] at held
  | retry held silent live elapsed => simp [released] at held
  | _ => simp [landings, Drain.enterSeeing, DestinationQueue.length]

/-- With every publication that ends there is one less to come. -/
theorem landings_finish_lt {entry : QueueEntry}
    (publishing : scene.drain.phase = .publishing entry) (success : Bool) :
    (scene.act (.finish success)).landings < scene.landings := by
  rcases scene with ⟨around, queue, phase, seen⟩
  cases publishing
  cases success with
  | true =>
      simp only [act, Drain.finish, Drain.enter, landings, if_true,
        DestinationQueue.length_complete]
      split
      · next head =>
          have filled := DestinationQueue.length_pos_of_isHead head
          omega
      · exact Nat.lt_succ_self _
  | false =>
      simp only [act, Drain.finish, Drain.enter, landings, Bool.false_eq_true, if_false]
      split
      · next head => exact DestinationQueue.length_pos_of_isHead head
      · exact Nat.succ_pos _

theorem Turn.landings_le (turn : Turn scene next)
    (released : scene.around.shutdown.released = true) : next.landings ≤ scene.landings := by
  rcases scene with ⟨around, queue, drain⟩
  cases turn with
  | move move => exact landings_move_le released move
  | deliver publishing =>
      cases publishing
      exact Nat.le_of_lt (landings_finish_lt rfl true)
  | fail publishing =>
      cases publishing
      exact Nat.le_of_lt (landings_finish_lt rfl false)

theorem landings_act_le {act : SceneAct} (released : scene.around.shutdown.released = true)
    (feeds : act.isEnqueue = false) : (scene.act act).landings ≤ scene.landings := by
  rcases turn_or_surround scene feeds with turn | ⟨around, later, changed⟩
  · exact turn.landings_le released
  · rw [changed]
    exact Nat.le_refl _

theorem landings_run_le {acts : List SceneAct} (released : scene.around.shutdown.released = true)
    (feeds : ∀ act ∈ acts, act.isEnqueue = false) :
    (scene.run acts).landings ≤ scene.landings := by
  induction acts generalizing scene with
  | nil => exact Nat.le_refl _
  | cons first acts ih =>
      have later := ih ((step_act scene first).later.released released)
        fun act mem => feeds act (List.mem_cons_of_mem _ mem)
      exact Nat.le_trans later (landings_act_le released (feeds first List.mem_cons_self))

/-- A task that has stopped does not start again. -/
theorem Step.stopped (step : Step scene next) (stopped : scene.drain.phase = .stopped) :
    next.drain.phase = .stopped := by
  rcases scene with ⟨around, queue, phase, seen⟩
  cases stopped
  cases step with
  | enqueue message => rfl
  | surround later => rfl
  | turn turn =>
      cases turn with
      | deliver publishing => cases publishing
      | fail publishing => cases publishing
      | move move => cases move

/-! ## Rounds -/

/-- Other acts, then the task until it has to wait, then the end of the
publication that it waits for, if it does. -/
def round (scene : Scene) (others : List SceneAct) (success : Bool) : Scene :=
  (scene.run others).settle.act (.finish success)

/-- Apply rounds in order. -/
def serve (scene : Scene) : List (List SceneAct × Bool) → Scene
  | [] => scene
  | (others, success) :: rounds => (scene.round others success).serve rounds

theorem round_eq_run (scene : Scene) (others : List SceneAct) (success : Bool) :
    scene.round others success =
      scene.run (others ++ List.replicate (scene.run others).effort .move ++
        [.finish success]) := by
  rw [run_append, run_append]
  rfl

theorem stopped_serve (stopped : scene.drain.phase = .stopped)
    (rounds : List (List SceneAct × Bool)) : (scene.serve rounds).drain.phase = .stopped := by
  induction rounds generalizing scene with
  | nil => exact stopped
  | cons first rounds ih =>
      apply ih
      rw [round_eq_run]
      exact run_preserves (fun step stopped => step.stopped stopped) stopped _

/-- Every round ends a publication, or the task has stopped. -/
theorem stopped_or_landings_lt (attentive : Attentive scene)
    (positive : 0 < scene.queue.retryDelay) (released : scene.around.shutdown.released = true)
    {others : List SceneAct} (feeds : ∀ act ∈ others, act.isEnqueue = false) (success : Bool) :
    (scene.round others success).drain.phase = .stopped ∨
      (scene.round others success).landings < scene.landings := by
  have moves : ∀ act ∈ List.replicate (scene.run others).effort SceneAct.move,
      act.isEnqueue = false := by
    intro act mem
    rw [List.eq_of_mem_replicate mem]
    rfl
  have reached : (scene.run others).settle =
      scene.run (others ++ List.replicate (scene.run others).effort .move) :=
    (run_append scene others _).symm
  have rest : (scene.run others).settle.AtRest :=
    atRest_settle (by rwa [retryDelay_run])
  have settled : Attentive (scene.run others).settle :=
    reached ▸ attentive.run _
  have fewer : (scene.run others).settle.landings ≤ scene.landings := by
    rw [reached]
    exact landings_run_le released fun act mem =>
      (List.mem_append.mp mem).elim (feeds act) (moves act)
  have free : (scene.run others).settle.around.shutdown.released = true :=
    reached ▸ (later_run scene _).released released
  rcases stopped_or_publishing settled rest free with stopped | ⟨entry, publishing⟩
  · exact .inl ((step_act _ (.finish success)).stopped stopped)
  · exact .inr (Nat.lt_of_lt_of_le (landings_finish_lt publishing success) fewer)

theorem stopped_of_serve (attentive : Attentive scene) (positive : 0 < scene.queue.retryDelay)
    (released : scene.around.shutdown.released = true) {rounds : List (List SceneAct × Bool)}
    (feeds : ∀ round ∈ rounds, ∀ act ∈ round.1, act.isEnqueue = false)
    (enough : scene.landings < rounds.length) :
    (scene.serve rounds).drain.phase = .stopped := by
  induction rounds generalizing scene with
  | nil => contradiction
  | cons first rounds ih =>
      rcases first with ⟨others, success⟩
      rcases stopped_or_landings_lt attentive positive released (feeds _ List.mem_cons_self)
        success with stopped | less
      · exact stopped_serve stopped rounds
      · refine ih ?_ ?_ ?_ (fun round mem => feeds round (List.mem_cons_of_mem _ mem)) ?_
        · rw [round_eq_run]
          exact attentive.run _
        · rwa [round_eq_run, retryDelay_run]
        · rw [round_eq_run]
          exact (later_run scene _).released released
        · exact Nat.lt_of_lt_of_le less (Nat.le_of_lt_succ enough)

/-! ## Every history -/

/-- A task can only take so many turns in a row; then it is in exactly one of
five situations.  While it waits for a message that is there, a notice is kept
for it.  Once the shutdown signal has been released and nothing more is queued,
the task always has a turn until it stops, it takes no more turns than the
messages and the updates of the connection account for, and two rounds more than
there are messages are enough for it to stop. -/
theorem never_stranded (topic : String) (capacity retryDelay : Nat) (positive : 0 < retryDelay)
    (around : Surroundings) (history : List SceneAct) :
    let scene := (initial topic capacity retryDelay around).run history
    (∀ acts : List SceneAct, (∀ act ∈ acts, act.isOfTask = true) →
      scene.turns acts ≤ 2 * scene.queue.length + 18) ∧
    (scene.settle.AtRest ∧ ∃! situation, scene.settle.Shows situation) ∧
    (scene.drain.phase = .awaitingMessage → scene.queue.isEmpty = false →
      scene.queue.notified = true) ∧
    (scene.around.shutdown.released = true →
      (scene.drain.phase ≠ .stopped →
        ∃ act, act.isOfTask = true ∧ scene.takesTurn act = true) ∧
      (∀ acts : List SceneAct, (∀ act ∈ acts, act.isEnqueue = false) →
        scene.turns acts ≤ 2 * scene.queue.length + 6 + 4 * announcements acts) ∧
      ∀ rounds : List (List SceneAct × Bool),
        (∀ round ∈ rounds, ∀ act ∈ round.1, act.isEnqueue = false) →
        scene.queue.length + 1 < rounds.length →
        (scene.serve rounds).drain.phase = .stopped) := by
  intro scene
  have attentive : Attentive scene :=
    (attentive_initial topic capacity retryDelay around).run history
  have delay : scene.queue.retryDelay = retryDelay := retryDelay_run _ history
  have pauses : 0 < scene.queue.retryDelay := delay ▸ positive
  refine ⟨?_, ⟨atRest_settle pauses, ?_⟩, attentive.noticed, ?_⟩
  · intro acts task
    have bound := turns_add_effort_le pauses fun act mem other =>
      absurd (task act mem) (by simp [other])
    have most := effort_le scene
    rw [announcements_of_task task] at bound
    omega
  · exact existsUnique_situation (attentive.run _) (atRest_settle pauses)
  · intro released
    refine ⟨takesTurn_of_released attentive released, ?_, ?_⟩
    · intro acts feeds
      have bound := turns_add_effort_le pauses fun act mem _ => ⟨released, feeds act mem⟩
      have most := effort_le_of_released released
      omega
    · intro rounds feeds enough
      have most := landings_le scene
      exact stopped_of_serve attentive pauses released feeds (by omega)

/-- The handles are gone while the only message is being published: the task is
in one situation at rest, and stops when it has been served three times. -/
theorem never_stranded_without_handles :
    let scene := (initial "values" 1 100 ⟨.ofValue true, .ofValue false, 0⟩).run
      [.enqueue ⟨"values", "a"⟩, .move, .move, .move, .dropShutdown]
    0 < 100 ∧ scene.around.shutdown.released = true ∧ scene.around.shutdown.value = false ∧
      (∃! situation, scene.settle.Shows situation) ∧
      (scene.serve [([], true), ([], true), ([], true)]).drain.phase = .stopped := by
  rcases never_stranded "values" 1 100 (by decide) ⟨.ofValue true, .ofValue false, 0⟩
    [.enqueue ⟨"values", "a"⟩, .move, .move, .move, .dropShutdown] with
    ⟨-, ⟨-, situation⟩, -, ends⟩
  exact ⟨by decide, by decide, by decide, situation,
    (ends (by decide)).2.2 [([], true), ([], true), ([], true)] (by simp) (by decide)⟩

end Scene

end InverterBridge
