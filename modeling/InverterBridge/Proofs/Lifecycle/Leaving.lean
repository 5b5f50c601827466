import InverterBridge.Proofs.Lifecycle.Itinerary

/-!
# How a bridge takes its leave

A `BridgeScene` is a run with the clock and a log of what the run has done, and its acts are those
of the run and of everything around it, so what holds after every list of acts holds of every
interleaving.  `BridgeScene.Sound` is the invariant: what has been done is the itinerary up to the
phase of the run, every worker that has been joined has ended, and none has been cut off before its
time.  A run that is due to leave makes its way however the workers behave: a `BridgeScene.Round`
brings nothing but what the run waits for.
-/

namespace InverterBridge

/-- A run, the clock, and what the run has done and when, oldest first. -/
structure BridgeScene where
  run : BridgeRun
  now : Nat
  log : List (Nat × RunDeed)

/-- Something that happens to a bridge. -/
inductive BridgeAct where
  /-- One move of the run, if it does not have to wait. -/
  | move
  | advance (milliseconds : Nat)
  /-- The end of the publication that is under way. -/
  | published (result : Except BridgeError Unit)
  /-- The end of closing the session. -/
  | closed (result : Except BridgeError Unit)
  | endWorker (index : Nat) (outcome : WorkerOutcome)
  | registerDrain
  | endDrain (index : Nat)
  | requestShutdown
  | interrupt

namespace BridgeScene

/-- A bridge that has just been put together, with a publisher of its status. -/
def initial (publisher : StatusPublisher) (metadata : Option Json)
    (spawned : List (String × Bool)) : BridgeScene :=
  ⟨.initial (some publisher) metadata spawned, 0, []⟩

/-- Apply an act.  What cannot happen now does not happen. -/
def act (scene : BridgeScene) : BridgeAct → BridgeScene
  | .move =>
      match scene.run.step scene.now with
      | none => scene
      | some (deed, run) =>
          { scene with run := run, log := scene.log ++ deed.toList.map (scene.now, ·) }
  | .advance milliseconds => { scene with now := scene.now + milliseconds }
  | .published result => { scene with run := scene.run.published result }
  | .closed result => { scene with run := scene.run.closed result }
  | .endWorker index outcome => { scene with run := scene.run.endWorker index outcome }
  | .registerDrain => { scene with run := scene.run.registerDrain }
  | .endDrain index => { scene with run := scene.run.endDrain index }
  | .requestShutdown => { scene with run := scene.run.requestShutdown }
  | .interrupt => { scene with run := scene.run.interrupt }

/-- Apply acts in order. -/
def actAll (scene : BridgeScene) (acts : List BridgeAct) : BridgeScene :=
  acts.foldl act scene

theorem actAll_append (scene : BridgeScene) (first second : List BridgeAct) :
    scene.actAll (first ++ second) = (scene.actAll first).actAll second :=
  List.foldl_append

/-- What the run has done, in order. -/
def deeds (scene : BridgeScene) : List RunDeed :=
  scene.log.map Prod.snd

/-- The status documents that the run has tried to publish, in order. -/
def attempts (scene : BridgeScene) : List OutboundMessage :=
  scene.deeds.filterMap RunDeed.attempt?

/-- The next move of the run does a deed. -/
def IsAbout (scene : BridgeScene) (deed : RunDeed) : Prop :=
  ∃ run, scene.run.step scene.now = some (some deed, run)

/-- The run has done a deed and waits for a limited time from then on. -/
def Began (scene : BridgeScene) (deed : RunDeed) (deadline : Nat) : Prop :=
  ∃ began ≤ scene.now, (began, deed) ∈ scene.log ∧ deadline = began + BridgeRun.joinLimit

/-- The worker of an index was cut off after the run had been joining it for the whole limit. -/
def Overran (scene : BridgeScene) (index : Nat) : Prop :=
  ∃ began cut, (began, .joinWorker index) ∈ scene.log ∧ (cut, .abortWorker index) ∈ scene.log ∧
    began + BridgeRun.joinLimit ≤ cut

/-- The run is due to leave. -/
def IsDue (scene : BridgeScene) : Prop :=
  scene.run.interrupted = true ∨ scene.run.shutdown.value = true

/-- What can happen to a scene: a move of the run, or something around it. -/
inductive Event (scene : BridgeScene) : BridgeScene → Prop
  | move {deed : Option RunDeed} {run : BridgeRun}
      (move : BridgeRun.Move scene.now scene.run deed run) :
      Event scene ⟨run, scene.now, scene.log ++ deed.toList.map (scene.now, ·)⟩
  | around {run : BridgeRun} {now : Nat} (changes : scene.run.Meanwhile run)
      (later : scene.now ≤ now) :
      Event scene ⟨run, now, scene.log⟩

theorem event_act (scene : BridgeScene) (act : BridgeAct) : Event scene (scene.act act) := by
  have still := Nat.le_refl scene.now
  cases act with
  | move =>
      rw [BridgeScene.act]
      split
      next => exact .around (.refl _) still
      next step => exact .move (BridgeRun.move_of_step step)
  | advance milliseconds => exact .around (.refl _) (Nat.le_add_right _ _)
  | published result => exact .around (BridgeRun.meanwhile_published result _) still
  | closed result => exact .around (BridgeRun.meanwhile_closed result _) still
  | endWorker index outcome => exact .around (BridgeRun.meanwhile_endWorker index outcome _) still
  | registerDrain => exact .around (BridgeRun.meanwhile_registerDrain _) still
  | endDrain index => exact .around (BridgeRun.meanwhile_endDrain index _) still
  | requestShutdown => exact .around (BridgeRun.Meanwhile.refl _).requestShutdown still
  | interrupt => exact .around (BridgeRun.meanwhile_interrupt _) still

variable {scene next : BridgeScene} {publisher : StatusPublisher} {metadata : Option Json}
  {spawned : List (String × Bool)}

/-! ## What stays -/

theorem Event.now_le (event : Event scene next) : scene.now ≤ next.now := by
  cases event with
  | move => exact Nat.le_refl _
  | around _ later => exact later

theorem Event.mem_log (event : Event scene next) {entry : Nat × RunDeed}
    (logged : entry ∈ scene.log) : entry ∈ next.log := by
  cases event with
  | move => exact List.mem_append_left _ logged
  | around => exact logged

theorem Event.isDue (event : Event scene next) (due : scene.IsDue) : next.IsDue := by
  cases event with
  | move move => exact due.imp (move.interrupted ▸ ·) move.requested
  | around changes => exact due.imp changes.interrupted changes.requested

theorem Began.event {deed : RunDeed} {deadline : Nat} (began : scene.Began deed deadline)
    (event : Event scene next) : next.Began deed deadline := by
  obtain ⟨since, past, logged, rfl⟩ := began
  exact ⟨since, Nat.le_trans past event.now_le, event.mem_log logged, rfl⟩

theorem Overran.event {index : Nat} (late : scene.Overran index)
    (event : Event scene next) : next.Overran index := by
  obtain ⟨began, cut, joined, aborted, limit⟩ := late
  exact ⟨began, cut, event.mem_log joined, event.mem_log aborted, limit⟩

/-! ## The invariant -/

/-- A run of a bridge in good order. -/
structure Sound (publisher : StatusPublisher) (metadata : Option Json)
    (spawned : List (String × Bool)) (scene : BridgeScene) : Prop where
  known : scene.run.publisher = some publisher
  described : scene.run.metadata = metadata
  spawned : scene.run.workers.map Worker.spawn = spawned
  live : scene.run.shutdown.live = true
  reached : BridgeRun.Reached publisher metadata scene.run.workers scene.run.phase scene.deeds
  requested : scene.run.phase.isLeaving = true → scene.run.shutdown.value = true
  /-- The workers that have been joined have ended. -/
  stopped : ∀ index < scene.run.phase.joined scene.run.workers.length,
    scene.run.isRunningAt index = false
  /-- The others have not been cut off. -/
  intact : ∀ index, scene.run.phase.joined scene.run.workers.length ≤ index →
    scene.run.isAbortedAt index = false
  overran : ∀ index, scene.run.isAbortedAt index = true → scene.Overran index
  began : ∀ deed deadline, scene.run.phase.wait? = some (deed, deadline) →
    scene.Began deed deadline
  /-- There are the drain tasks that are being joined. -/
  drains : ∀ count deadline, scene.run.phase.wait? = some (.joinDrains count, deadline) →
    count ≤ scene.run.drains.length

theorem Sound.length_workers (sound : Sound publisher metadata spawned scene) :
    scene.run.workers.length = spawned.length := by
  rw [← sound.spawned, List.length_map]

theorem isAbortedAt_initial (index : Nat) :
    (initial publisher metadata spawned).run.isAbortedAt index = false := by
  rw [BridgeRun.isAbortedAt, initial, BridgeRun.initial, List.getElem?_map, Option.any_map]
  cases spawned[index]? <;> rfl

theorem sound_initial (publisher : StatusPublisher) (metadata : Option Json)
    (spawned : List (String × Bool)) :
    Sound publisher metadata spawned (initial publisher metadata spawned) where
  known := rfl
  described := rfl
  spawned := by simp [initial, BridgeRun.initial, Worker.spawn, Worker.start, Function.comp_def]
  live := rfl
  reached := .starting
  requested := nofun
  stopped := nofun
  intact index _ := isAbortedAt_initial index
  overran index aborted := absurd aborted (by simp [isAbortedAt_initial])
  began := nofun
  drains := nofun

theorem Sound.move (sound : Sound publisher metadata spawned scene) {deed : Option RunDeed}
    {run : BridgeRun} (move : BridgeRun.Move scene.now scene.run deed run) :
    Sound publisher metadata spawned
      ⟨run, scene.now, scene.log ++ deed.toList.map (scene.now, ·)⟩ where
  known := move.publisher.trans sound.known
  described := move.metadata.trans sound.described
  spawned := move.spawned.trans sound.spawned
  live := move.live.trans sound.live
  reached := by
    have reached := sound.reached
    rw [← sound.described] at reached ⊢
    have moved := reached.move sound.known sound.intact move
    simpa [deeds, Function.comp_def] using moved
  requested := move.value_of_isLeaving sound.live sound.requested
  stopped := move.isRunningAt_of_lt_joined sound.stopped
  intact := move.isAbortedAt_of_joined_le sound.intact
  overran index aborted := by
    rcases move.isAbortedAt_of_isAbortedAt aborted with before | ⟨rfl, deadline, late, phase⟩
    · exact (sound.overran index before).event (.move move)
    · obtain ⟨since, -, joined, rfl⟩ := sound.began _ _ (by rw [phase]; rfl)
      exact ⟨since, scene.now, List.mem_append_left _ joined,
        List.mem_append_right _ List.mem_cons_self, late⟩
  began begun deadline waits := by
    obtain ⟨rfl, rfl⟩ := move.eq_of_wait? waits
    exact ⟨scene.now, Nat.le_refl _, List.mem_append_right _ List.mem_cons_self, rfl⟩
  drains _ _ waits := move.le_length_drains waits

theorem Sound.around (sound : Sound publisher metadata spawned scene) {run : BridgeRun}
    {now : Nat} (changes : scene.run.Meanwhile run) (later : scene.now ≤ now) :
    Sound publisher metadata spawned ⟨run, now, scene.log⟩ where
  known := changes.publisher.trans sound.known
  described := changes.metadata.trans sound.described
  spawned := changes.spawned.trans sound.spawned
  live := changes.live.trans sound.live
  reached := by
    have reached := sound.reached.congr changes.length_workers changes.aborted
    rcases changes.phase with same | awaited
    · rw [same]
      exact reached
    · exact reached.awaited awaited
  requested leaving := changes.requested (sound.requested (changes.isLeaving_eq ▸ leaving))
  stopped index joined := changes.stopped index (sound.stopped index (changes.joined_eq ▸ joined))
  intact index outside :=
    (changes.aborted index).trans (sound.intact index (changes.joined_eq ▸ outside))
  overran index aborted :=
    (sound.overran index (changes.aborted index ▸ aborted)).event (.around changes later)
  began deed deadline waits :=
    (sound.began deed deadline (changes.wait?_eq ▸ waits)).event (.around changes later)
  drains count deadline waits :=
    Nat.le_trans (sound.drains count deadline (changes.wait?_eq ▸ waits)) changes.drains

theorem Sound.event (sound : Sound publisher metadata spawned scene)
    (event : Event scene next) : Sound publisher metadata spawned next := by
  cases event with
  | move move => exact sound.move move
  | around changes later => exact sound.around changes later

theorem Sound.actAll (sound : Sound publisher metadata spawned scene) (acts : List BridgeAct) :
    Sound publisher metadata spawned (scene.actAll acts) := by
  induction acts generalizing scene with
  | nil => exact sound
  | cons first acts ih => exact ih (sound.event (event_act scene first))

/-! ## What is the case before a deed -/

theorem Sound.value_of_isAbout_joinWorker (sound : Sound publisher metadata spawned scene)
    {index : Nat} (about : scene.IsAbout (.joinWorker index)) :
    scene.run.shutdown.value = true := by
  obtain ⟨run, step⟩ := about
  cases BridgeRun.move_of_step step with
  | join phase => exact sound.requested (by rw [phase]; rfl)

/-- All drain tasks that there are are joined. -/
theorem eq_of_isAbout_joinDrains {count : Nat} (about : scene.IsAbout (.joinDrains count)) :
    count = scene.run.drains.length := by
  obtain ⟨run, step⟩ := about
  cases BridgeRun.move_of_step step with
  | joinDrains => rfl

/-- The last document is attempted after the drain tasks have been joined. -/
theorem Sound.exists_draining (sound : Sound publisher metadata spawned scene)
    (about : scene.IsAbout (.attempt publisher.offline)) :
    ∃ count deadline, scene.run.phase = .draining count deadline ∧
      (scene.run.drained count = true ∨ deadline ≤ scene.now) := by
  obtain ⟨run, step⟩ := about
  generalize same : some (RunDeed.attempt publisher.offline) = deed at step
  cases BridgeRun.move_of_step step with
  | announce phase known =>
      obtain rfl := Option.some.inj (known.symm.trans sound.known)
      have documents := RunDeed.attempt.inj (Option.some.inj same)
      exact absurd documents.symm (StatusPublisher.running_ne_offline _ _)
  | signOff phase known due => exact ⟨_, _, phase, due⟩
  | _ => cases same

/-- A worker that does not run has ended by itself or has overrun its limit. -/
theorem Sound.ended_or_overran (sound : Sound publisher metadata spawned scene)
    {index : Nat} (inside : index < spawned.length)
    (stopped : scene.run.isRunningAt index = false) :
    ∃ worker, scene.run.workers[index]? = some worker ∧
      ((∃ outcome, worker.ending = some (.ended outcome)) ∨
        worker.ending = some .aborted ∧ scene.Overran index) := by
  rw [← sound.length_workers] at inside
  have there := List.getElem?_eq_getElem inside
  refine ⟨_, there, ?_⟩
  rw [BridgeRun.isRunningAt, there, Option.any_some] at stopped
  rcases Worker.ended_or_isAborted stopped with ended | aborted
  · exact .inl ended
  · refine .inr ⟨eq_of_beq aborted, sound.overran index ?_⟩
    rw [BridgeRun.isAbortedAt, there]
    exact aborted

/-- The failure of a worker that reports is a request for shutdown. -/
theorem Sound.value_endWorker_failed (sound : Sound publisher metadata spawned scene)
    {index : Nat} {name : String} (reporting : spawned[index]? = some (name, true))
    (running : scene.run.isRunningAt index = true) :
    (scene.act (.endWorker index .failed)).run.shutdown.value = true := by
  rw [← sound.spawned, List.getElem?_map, Option.map_eq_some_iff] at reporting
  obtain ⟨worker, there, spawn⟩ := reporting
  rw [BridgeRun.isRunningAt, there] at running
  exact BridgeRun.value_endWorker_failed there running (congrArg Prod.snd spawn) sound.live

/-! ## Rounds -/

/-- A time in which what a run waits for is not withheld: whatever else happens, the join limit
passes, what is being published or closed comes to an end, and the run moves. -/
structure Round where
  others : List BridgeAct
  publication : Except BridgeError Unit
  closing : Except BridgeError Unit

/-- The acts of a round. -/
def Round.acts (round : Round) : List BridgeAct :=
  round.others ++
    [.advance BridgeRun.joinLimit, .published round.publication, .closed round.closing, .move]

/-- A bound on the moves and awaited ends that are before a scene. -/
def remaining (scene : BridgeScene) : Nat :=
  scene.run.phase.remaining scene.run.workers.length

theorem Event.remaining_le (event : Event scene next) : next.remaining ≤ scene.remaining := by
  cases event with
  | move move => exact Nat.le_of_lt move.remaining_lt
  | around changes => exact changes.remaining_le

theorem remaining_actAll_le (scene : BridgeScene) (acts : List BridgeAct) :
    (scene.actAll acts).remaining ≤ scene.remaining := by
  induction acts generalizing scene with
  | nil => exact Nat.le_refl _
  | cons first acts ih => exact Nat.le_trans (ih _) (event_act scene first).remaining_le

theorem isDue_actAll (due : scene.IsDue) (acts : List BridgeAct) : (scene.actAll acts).IsDue := by
  induction acts generalizing scene with
  | nil => exact due
  | cons first acts ih => exact ih ((event_act scene first).isDue due)

theorem remaining_eq_zero_iff : scene.remaining = 0 ↔ scene.run.isOver = true := by
  rw [remaining, BridgeRun.isOver]
  cases scene.run.phase <;> simp [RunPhase.remaining]

/-- In a round, a run that is due to leave comes closer to its end. -/
theorem Sound.remaining_round_le (sound : Sound publisher metadata spawned scene)
    (due : scene.IsDue) (round : Round) :
    (scene.actAll round.acts).remaining ≤ scene.remaining - 1 := by
  have sound := sound.actAll round.others
  have due := isDue_actAll due round.others
  have fewer := remaining_actAll_le scene round.others
  rw [Round.acts, actAll_append]
  generalize scene.actAll round.others = others at sound due fewer ⊢
  -- the run is ready to move, with its deadline behind it and nothing else to wait for
  let ready := others.actAll
    [.advance BridgeRun.joinLimit, .published round.publication, .closed round.closing]
  change (ready.act .move).remaining ≤ _
  have fewer : ready.remaining ≤ scene.remaining :=
    Nat.le_trans (remaining_actAll_le others _) fewer
  by_cases finished : ready.run.isOver = true
  · have ended := (event_act ready .move).remaining_le
    rw [remaining_eq_zero_iff.mpr finished] at ended
    exact Nat.le_trans ended (Nat.zero_le _)
  · have late : ∀ deed deadline, ready.run.phase.wait? = some (deed, deadline) →
        deadline ≤ ready.now := by
      intro deed deadline waits
      change ((others.run.published round.publication).closed round.closing).phase.wait? = _
        at waits
      rw [(BridgeRun.meanwhile_closed round.closing _).wait?_eq,
        (BridgeRun.meanwhile_published round.publication _).wait?_eq] at waits
      obtain ⟨since, past, -, rfl⟩ := sound.began deed deadline waits
      exact Nat.add_le_add_right past _
    obtain ⟨deed, run, step⟩ := BridgeRun.exists_step (isDue_actAll due _) late
      (BridgeRun.not_awaited round.publication round.closing _) (Bool.not_eq_true _ |>.mp finished)
    have closer := (BridgeRun.move_of_step step).remaining_lt
    rw [BridgeScene.act, step]
    exact Nat.le_sub_one_of_lt (Nat.lt_of_lt_of_le closer fewer)

theorem Sound.remaining_rounds_le (sound : Sound publisher metadata spawned scene)
    (due : scene.IsDue) (rounds : List Round) :
    (scene.actAll (rounds.flatMap Round.acts)).remaining ≤ scene.remaining - rounds.length := by
  induction rounds generalizing scene with
  | nil => exact Nat.le_refl _
  | cons first rounds ih =>
      have closer := sound.remaining_round_le due first
      have rest := ih (sound.actAll first.acts) (isDue_actAll due first.acts)
      rw [List.flatMap_cons, actAll_append, List.length_cons]
      omega

/-- A run that is due to leave is over after as many rounds as it can have moves before it. -/
theorem Sound.result?_rounds (sound : Sound publisher metadata spawned scene)
    (due : scene.IsDue) {rounds : List Round} (enough : 2 * spawned.length + 8 ≤ rounds.length) :
    (scene.actAll (rounds.flatMap Round.acts)).run.result? = some (.ok ()) := by
  have bound : scene.remaining ≤ 2 * spawned.length + 8 := by
    rw [← sound.length_workers, remaining]
    cases scene.run.phase <;> simp only [RunPhase.remaining] <;> omega
  have closer := sound.remaining_rounds_le due rounds
  have finished := remaining_eq_zero_iff.mp (Nat.le_zero.mp (by omega :
    (scene.actAll (rounds.flatMap Round.acts)).remaining ≤ 0))
  rw [BridgeRun.result?, if_pos finished]

/-! ## Every run -/

/-- **A bridge takes its leave in order.**  Take a bridge that publishes its status, any workers,
and anything that happens to them and around them, at any moment and in any order.

The run tries to publish that it is running before anything else, and that it is offline after
everything but the end of the session, each once.  What it does is the beginning of an itinerary,
and when it is over all of it.  Shutdown has been requested before any worker is joined.  Before the
last status is attempted every worker has ended by itself or has been cut off after the join limit,
and the drain tasks that were there have ended or have been given the join limit.

The result can only be success.  A run that has been interrupted or asked to shut down comes to it
if what it waits for is not withheld, and the failure of a worker that reports asks it to. -/
theorem leaves_in_order (publisher : StatusPublisher) (metadata : Option Json)
    (spawned : List (String × Bool)) (acts : List BridgeAct) :
    let scene := (initial publisher metadata spawned).actAll acts
    let statuses := [publisher.running metadata, publisher.offline]
    let ends (scene : BridgeScene) := ∀ rounds : List Round,
      2 * spawned.length + 8 ≤ rounds.length →
        (scene.actAll (rounds.flatMap Round.acts)).run.result? = some (.ok ())
    (statuses.Nodup ∧ scene.attempts <+: statuses ∧
      (scene.run.isOver = true → scene.attempts = statuses)) ∧
    (∃ drains, scene.deeds <+:
        BridgeRun.itinerary publisher metadata scene.run.workers drains ∧
      (scene.run.isOver = true →
        scene.deeds = BridgeRun.itinerary publisher metadata scene.run.workers drains)) ∧
    (∀ index, scene.IsAbout (.joinWorker index) → scene.run.shutdown.value = true) ∧
    (∀ count, scene.IsAbout (.joinDrains count) → count = scene.run.drains.length) ∧
    (scene.IsAbout (.attempt publisher.offline) →
      (∀ index < spawned.length, ∃ worker, scene.run.workers[index]? = some worker ∧
        ((∃ outcome, worker.ending = some (.ended outcome)) ∨
          worker.ending = some .aborted ∧ scene.Overran index)) ∧
      ∃ count ≤ scene.run.drains.length, ∃ deadline, scene.Began (.joinDrains count) deadline ∧
        (scene.run.drained count = true ∨ deadline ≤ scene.now)) ∧
    (∀ result, scene.run.result? = some result → result = .ok ()) ∧
    (scene.IsDue → ends scene) ∧
    (∀ index name, spawned[index]? = some (name, true) → scene.run.isRunningAt index = true →
      ends (scene.act (.endWorker index .failed))) := by
  intro scene statuses ends
  have sound : Sound publisher metadata spawned scene :=
    (sound_initial publisher metadata spawned).actAll acts
  obtain ⟨drains, beginning, whole⟩ := sound.reached.exists_itinerary
  have documents :=
    BridgeRun.filterMap_attempt?_itinerary publisher metadata scene.run.workers drains
  refine ⟨⟨?_, ?_, ?_⟩, ⟨drains, beginning, fun finished => whole (eq_of_beq finished)⟩,
    fun _ => sound.value_of_isAbout_joinWorker, fun _ => eq_of_isAbout_joinDrains, ?_, ?_,
    fun due _ enough => sound.result?_rounds due enough, ?_⟩
  · simp [statuses, publisher.running_ne_offline metadata]
  · have tried := beginning.filterMap RunDeed.attempt?
    rwa [documents] at tried
  · intro finished
    rw [attempts, whole (eq_of_beq finished), documents]
  · intro about
    obtain ⟨count, deadline, phase, due⟩ := sound.exists_draining about
    have waits : scene.run.phase.wait? = some (.joinDrains count, deadline) := by
      rw [phase]
      rfl
    refine ⟨fun index inside => ?_, count, sound.drains count deadline waits, deadline,
      sound.began _ _ waits, due⟩
    apply sound.ended_or_overran inside
    apply sound.stopped
    rw [phase, sound.length_workers]
    exact inside
  · intro result there
    rw [BridgeRun.result?] at there
    split at there <;> cases there
    rfl
  · intro index name spawnedAt running rounds enough
    have failed := sound.event (event_act scene (.endWorker index .failed))
    exact failed.result?_rounds (.inr (sound.value_endWorker_failed spawnedAt running)) enough

/-- The monitor of the session hangs, and the other worker fails before anything is published: the
monitor is cut off before the bridge signs off, and nothing else is needed to end the run. -/
theorem failed_worker_ends_run_of_hung_one :
    let publisher : StatusPublisher := ⟨"home/@/status", "sunspec", "0.1.0"⟩
    let spawned := [("zenoh-monitor", false), ("poller", true)]
    let unpublished : Round := ⟨[], .error (.notConnected "zenoh"), .ok ()⟩
    let failed := (initial publisher none spawned).act (.endWorker 1 .failed)
    let leaving := (initial publisher none spawned).actAll
      [.endWorker 1 .failed, .move, .registerDrain, .published (.error (.notConnected "zenoh")),
        .move, .move, .advance 5000, .move, .move, .move, .move, .endDrain 0]
    (leaving.IsAbout (.attempt publisher.offline) ∧ leaving.Overran 0) ∧
      (failed.actAll ((List.replicate 12 unpublished).flatMap Round.acts)).run.result? =
        some (.ok ()) := by
  intro publisher spawned unpublished failed leaving
  have about : leaving.IsAbout (.attempt publisher.offline) := by
    have deed : (leaving.run.step leaving.now).map Prod.fst =
        some (some (.attempt publisher.offline)) := by decide +kernel
    obtain ⟨⟨_, run⟩, step, rfl⟩ := Option.map_eq_some_iff.mp deed
    exact ⟨run, step⟩
  have hung : leaving.run.workers[0]? = some ⟨"zenoh-monitor", false, some .aborted⟩ := by
    decide +kernel
  obtain ⟨-, -, -, -, before, -⟩ := leaves_in_order publisher none spawned _
  obtain ⟨-, -, -, -, -, -, -, ends⟩ := leaves_in_order publisher none spawned []
  refine ⟨⟨about, ?_⟩, ends 1 "poller" rfl rfl _ (by decide)⟩
  obtain ⟨worker, there, ⟨outcome, ended⟩ | ⟨-, overran⟩⟩ := (before about).1 0 (by decide)
  · obtain rfl := Option.some.inj (hung.symm.trans there)
    cases ended
  · exact overran

end BridgeScene

end InverterBridge
