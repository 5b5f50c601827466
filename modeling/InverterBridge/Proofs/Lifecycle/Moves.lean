import InverterBridge.Lifecycle
import Mathlib.Data.List.Basic

/-!
# The moves of a run

`BridgeRun.Move` lists what a run can do by itself, one constructor a move, with
the conditions of the move and its effect on others; every step is such a move.
Between its moves a run only sees its surroundings change: `BridgeRun.Meanwhile`
says how far, so what holds of a run is shown once for the moves and once for
everything else.
-/

namespace InverterBridge

namespace Signal

theorem live_announce (signal : Signal) (value : Bool) :
    (signal.announce value).live = signal.live := by
  rw [announce]
  split <;> rfl

/-- A value that is requested stays requested, and can be requested of a source that is there. -/
theorem value_announce_true {signal : Signal}
    (reachable : signal.live = true ∨ signal.value = true) :
    (signal.announce true).value = true := by
  rw [announce]
  split
  next => rfl
  next gone => exact reachable.resolve_left gone

end Signal

namespace Worker

/-- How the worker was started. -/
def spawn (worker : Worker) : String × Bool :=
  (worker.name, worker.reports)

@[simp]
theorem spawn_finish (ending : WorkerEnding) (worker : Worker) :
    (worker.finish ending).spawn = worker.spawn := by
  rw [finish]
  split <;> rfl

theorem map_spawn_modify_finish (ending : WorkerEnding) (workers : List Worker) (index : Nat) :
    (workers.modify index (finish ending)).map spawn = workers.map spawn := by
  apply List.ext_getElem?
  intro other
  rw [List.getElem?_map, List.getElem?_map, List.getElem?_modify, Option.map_eq_map,
    Option.map_map]
  congr 1
  funext worker
  by_cases same : index = other <;> simp [same]

/-- A test of the workers after one of them has changed. -/
theorem any_getElem?_modify (change : Worker → Worker) (test : Worker → Bool)
    (workers : List Worker) (index other : Nat) :
    (workers.modify index change)[other]?.any test =
      workers[other]?.any fun worker =>
        test (if index = other then change worker else worker) := by
  rw [List.getElem?_modify]
  cases workers[other]? with
  | none => rfl
  | some worker => by_cases same : index = other <;> simp [same]

/-- How a worker that does not run has ended. -/
theorem ended_or_isAborted {worker : Worker} (stopped : worker.isRunning = false) :
    (∃ outcome, worker.ending = some (.ended outcome)) ∨ worker.isAborted = true := by
  rcases worker with ⟨name, reports, _ | ⟨outcome⟩ | _⟩
  · cases stopped
  · exact .inl ⟨outcome, rfl⟩
  · exact .inr rfl

end Worker

namespace RunPhase

/-- Whether shutdown has been requested on the way. -/
def isLeaving : RunPhase → Bool
  | .starting | .announcing | .serving => false
  | _ => true

/-- How many of the workers have been joined. -/
def joined (workers : Nat) : RunPhase → Nat
  | .starting | .announcing | .serving => 0
  | .turning index | .joining index _ => index
  | _ => workers

/-- What a run has begun to wait for, and until when it does so. -/
def wait? : RunPhase → Option (RunDeed × Nat)
  | .joining index deadline => some (.joinWorker index, deadline)
  | .draining count deadline => some (.joinDrains count, deadline)
  | _ => none

/-- A bound on the moves and awaited ends that a run has before it. -/
def remaining (workers : Nat) : RunPhase → Nat
  | .starting => 2 * workers + 8
  | .announcing => 2 * workers + 7
  | .serving => 2 * workers + 6
  | .turning index => 2 * (workers - index) + 5
  -- one more than turning to the next worker, even where there is no such worker
  | .joining index _ => 2 * (workers - (index + 1)) + 6
  | .draining _ _ => 4
  | .signingOff => 3
  | .signedOff => 2
  | .closing => 1
  | .finished => 0

/-- What the end of something that a run waits for does to it. -/
inductive Awaited : RunPhase → RunPhase → Prop
  | announced : Awaited .announcing .serving
  | signedOff : Awaited .signingOff .signedOff
  | closed : Awaited .closing .finished

variable {before after : RunPhase}

theorem Awaited.isLeaving_eq (awaited : before.Awaited after) :
    after.isLeaving = before.isLeaving := by
  cases awaited <;> rfl

theorem Awaited.joined_eq (awaited : before.Awaited after) (workers : Nat) :
    after.joined workers = before.joined workers := by
  cases awaited <;> rfl

theorem Awaited.wait?_eq (awaited : before.Awaited after) : after.wait? = before.wait? := by
  cases awaited <;> rfl

theorem Awaited.remaining_lt (awaited : before.Awaited after) (workers : Nat) :
    after.remaining workers < before.remaining workers := by
  cases awaited <;> simp [remaining]

end RunPhase

namespace BridgeRun

/-! ## The moves -/

/-- Whether the worker of an index has been cut off. -/
def isAbortedAt (run : BridgeRun) (index : Nat) : Bool :=
  run.workers[index]?.any Worker.isAborted

/-- The moves of a run at an instant. -/
inductive Move (now : Nat) (run : BridgeRun) : Option RunDeed → BridgeRun → Prop
  /-- There is a publisher to announce the bridge. -/
  | announce {publisher : StatusPublisher} (phase : run.phase = .starting)
      (known : run.publisher = some publisher) :
      Move now run (some (.attempt (publisher.running run.metadata)))
        { run with phase := .announcing }
  /-- There is no publisher, and the bridge serves at once. -/
  | serve (phase : run.phase = .starting) (silent : run.publisher = none) :
      Move now run none { run with phase := .serving }
  /-- The bridge has been interrupted, or shutdown has been requested. -/
  | leave (phase : run.phase = .serving)
      (due : run.interrupted = true ∨ run.shutdown.released = true) :
      Move now run (some .requestShutdown)
        { run with shutdown := run.shutdown.announce true, phase := .turning 0 }
  /-- The next worker is joined. -/
  | join {index : Nat} (phase : run.phase = .turning index)
      (there : index < run.workers.length) :
      Move now run (some (.joinWorker index))
        { run with phase := .joining index (now + joinLimit) }
  /-- All workers have been joined. -/
  | joinDrains {index : Nat} (phase : run.phase = .turning index)
      (last : run.workers.length ≤ index) :
      Move now run (some (.joinDrains run.drains.length))
        { run with phase := .draining run.drains.length (now + joinLimit) }
  /-- The worker has ended. -/
  | pass {index deadline : Nat} (phase : run.phase = .joining index deadline)
      (ended : run.isRunningAt index = false) :
      Move now run none { run with phase := .turning (index + 1) }
  /-- The worker has not ended in time. -/
  | cut {index deadline : Nat} (phase : run.phase = .joining index deadline)
      (running : run.isRunningAt index = true) (late : deadline ≤ now) :
      Move now run (some (.abortWorker index))
        { run.abort index with phase := .turning (index + 1) }
  /-- The drain tasks have ended, or have not done so in time. -/
  | signOff {publisher : StatusPublisher} {count deadline : Nat}
      (phase : run.phase = .draining count deadline) (known : run.publisher = some publisher)
      (due : run.drained count = true ∨ deadline ≤ now) :
      Move now run (some (.attempt publisher.offline)) { run with phase := .signingOff }
  /-- There is no publisher to sign off. -/
  | part {count deadline : Nat} (phase : run.phase = .draining count deadline)
      (silent : run.publisher = none) (due : run.drained count = true ∨ deadline ≤ now) :
      Move now run none { run with phase := .signedOff }
  | close (phase : run.phase = .signedOff) :
      Move now run (some .closeSession) { run with phase := .closing }

variable {now : Nat} {run next : BridgeRun} {deed : Option RunDeed}

/-- Every step is a move. -/
theorem move_of_step (step : run.step now = some (deed, next)) : Move now run deed next := by
  rw [BridgeRun.step] at step
  -- the phases in their order, each with the conditions it looks at
  split at step
  next phase =>
    split at step <;> cases step
    · exact .serve phase ‹_›
    · exact .announce phase ‹_›
  next => cases step
  next phase =>
    split at step
    next due =>
      cases step
      exact .leave phase (Bool.or_eq_true _ _ |>.mp due)
    next => cases step
  next phase =>
    split at step <;> cases step
    · exact .join phase ‹_›
    · exact .joinDrains phase (Nat.le_of_not_lt ‹_›)
  next phase =>
    split at step
    · split at step <;> cases step
      exact .cut phase ‹_› ‹_›
    · cases step
      exact .pass phase (Bool.not_eq_true _ |>.mp ‹_›)
  next phase =>
    split at step
    next due =>
      rw [Bool.or_eq_true, decide_eq_true_eq] at due
      split at step <;> cases step
      · exact .part phase ‹_› due
      · exact .signOff phase ‹_› due
    next => cases step
  next => cases step
  next phase =>
    cases step
    exact .close phase
  next => cases step
  next => cases step

/-! ## One worker among the others -/

/-- A worker that has ended is not started by the end of another one. -/
theorem isRunningAt_modify_finish (ending : WorkerEnding) (index : Nat) {other : Nat}
    (stopped : run.isRunningAt other = false) :
    ({ run with workers := run.workers.modify index (Worker.finish ending) } :
      BridgeRun).isRunningAt other = false := by
  rw [isRunningAt] at stopped ⊢
  rw [Worker.any_getElem?_modify]
  by_cases same : index = other
  · simp [same]
  · simpa [same] using stopped

theorem isAbortedAt_abort_of_ne (run : BridgeRun) {index other : Nat} (apart : index ≠ other) :
    (run.abort index).isAbortedAt other = run.isAbortedAt other := by
  rw [isAbortedAt, abort, Worker.any_getElem?_modify]
  simp only [if_neg apart]
  rfl

theorem isAbortedAt_abort_self {index : Nat} (running : run.isRunningAt index = true) :
    (run.abort index).isAbortedAt index = true := by
  obtain ⟨worker, there, runs⟩ := Option.any_eq_true _ _ |>.mp running
  rw [isAbortedAt, abort, Worker.any_getElem?_modify, there]
  simp [Worker.finish, Worker.isAborted, runs]

/-! ## What happens around a run -/

/-- What may change while a run does not move. -/
structure Meanwhile (before after : BridgeRun) : Prop where
  publisher : after.publisher = before.publisher
  metadata : after.metadata = before.metadata
  spawned : after.workers.map Worker.spawn = before.workers.map Worker.spawn
  /-- Workers end and do not start again. -/
  stopped : ∀ index, before.isRunningAt index = false → after.isRunningAt index = false
  /-- Nobody else cuts off a worker. -/
  aborted : ∀ index, after.isAbortedAt index = before.isAbortedAt index
  drains : before.drains.length ≤ after.drains.length
  live : after.shutdown.live = before.shutdown.live
  requested : before.shutdown.value = true → after.shutdown.value = true
  interrupted : before.interrupted = true → after.interrupted = true
  phase : after.phase = before.phase ∨ before.phase.Awaited after.phase

theorem Meanwhile.refl (run : BridgeRun) : run.Meanwhile run where
  publisher := rfl
  metadata := rfl
  spawned := rfl
  stopped _ := id
  aborted _ := rfl
  drains := Nat.le_refl _
  live := rfl
  requested := id
  interrupted := id
  phase := .inl rfl

theorem meanwhile_published (result : Except BridgeError Unit) (run : BridgeRun) :
    run.Meanwhile (run.published result) := by
  rw [published]
  split
  next phase => exact { Meanwhile.refl run with phase := .inr (phase ▸ .announced) }
  next phase => exact { Meanwhile.refl run with phase := .inr (phase ▸ .signedOff) }
  next => exact .refl run

theorem meanwhile_closed (result : Except BridgeError Unit) (run : BridgeRun) :
    run.Meanwhile (run.closed result) := by
  rw [closed]
  split
  next phase => exact { Meanwhile.refl run with phase := .inr (phase ▸ .closed) }
  next => exact .refl run

theorem meanwhile_finish (index : Nat) (outcome : WorkerOutcome) (run : BridgeRun) :
    run.Meanwhile
      { run with workers := run.workers.modify index (Worker.finish (.ended outcome)) } :=
  { Meanwhile.refl run with
    spawned := Worker.map_spawn_modify_finish _ _ _
    stopped := fun _ stopped => isRunningAt_modify_finish _ _ stopped
    aborted := fun other => by
      rw [isAbortedAt, Worker.any_getElem?_modify, isAbortedAt]
      congr 1
      funext worker
      split <;> simp }

/-- A request may come along with other changes. -/
theorem Meanwhile.requestShutdown (changes : run.Meanwhile next) :
    run.Meanwhile next.requestShutdown :=
  { changes with
    live := (Signal.live_announce _ _).trans changes.live
    requested := fun before => Signal.value_announce_true (.inr (changes.requested before)) }

theorem meanwhile_endWorker (index : Nat) (outcome : WorkerOutcome) (run : BridgeRun) :
    run.Meanwhile (run.endWorker index outcome) := by
  have ends := meanwhile_finish index outcome run
  rw [endWorker]
  split
  · exact ends.requestShutdown
  · exact ends

theorem meanwhile_registerDrain (run : BridgeRun) : run.Meanwhile run.registerDrain :=
  { Meanwhile.refl run with drains := by simp [registerDrain] }

theorem meanwhile_endDrain (index : Nat) (run : BridgeRun) : run.Meanwhile (run.endDrain index) :=
  { Meanwhile.refl run with drains := by simp [endDrain] }

theorem meanwhile_interrupt (run : BridgeRun) : run.Meanwhile run.interrupt :=
  { Meanwhile.refl run with interrupted := fun _ => rfl }

/-- The failure of a reporting worker shuts the bridge down. -/
theorem value_endWorker_failed {index : Nat} {worker : Worker}
    (there : run.workers[index]? = some worker) (running : worker.isRunning = true)
    (reports : worker.reports = true) (live : run.shutdown.live = true) :
    (run.endWorker index .failed).shutdown.value = true := by
  have alarms : run.workers[index]?.any (Worker.alarms .failed) = true := by
    simp [there, Worker.alarms, running, reports]
  rw [endWorker, if_pos alarms]
  exact Signal.value_announce_true (.inl live)

namespace Meanwhile

variable (changes : run.Meanwhile next)
include changes

theorem length_workers : next.workers.length = run.workers.length := by
  have spawned := congrArg List.length changes.spawned
  rwa [List.length_map, List.length_map] at spawned

theorem isLeaving_eq : next.phase.isLeaving = run.phase.isLeaving :=
  changes.phase.elim (congrArg _) (·.isLeaving_eq)

theorem joined_eq :
    next.phase.joined next.workers.length = run.phase.joined run.workers.length := by
  rw [changes.length_workers]
  exact changes.phase.elim (congrArg _) (·.joined_eq _)

/-- The surroundings begin no wait and move no deadline. -/
theorem wait?_eq : next.phase.wait? = run.phase.wait? :=
  changes.phase.elim (congrArg _) (·.wait?_eq)

theorem remaining_le :
    next.phase.remaining next.workers.length ≤ run.phase.remaining run.workers.length := by
  rw [changes.length_workers]
  exact changes.phase.elim (fun same => same ▸ Nat.le_refl _) fun awaited =>
    Nat.le_of_lt (awaited.remaining_lt _)

end Meanwhile

/-! ## What a move leaves and what it brings -/

namespace Move

theorem publisher (move : Move now run deed next) : next.publisher = run.publisher := by
  cases move <;> rfl

theorem metadata (move : Move now run deed next) : next.metadata = run.metadata := by
  cases move <;> rfl

theorem spawned (move : Move now run deed next) :
    next.workers.map Worker.spawn = run.workers.map Worker.spawn := by
  cases move with
  | cut => exact Worker.map_spawn_modify_finish _ _ _
  | _ => rfl

theorem live (move : Move now run deed next) : next.shutdown.live = run.shutdown.live := by
  cases move with
  | leave => exact Signal.live_announce _ _
  | _ => rfl

theorem requested (move : Move now run deed next) (before : run.shutdown.value = true) :
    next.shutdown.value = true := by
  cases move with
  | leave => exact Signal.value_announce_true (.inr before)
  | _ => exact before

theorem interrupted (move : Move now run deed next) : next.interrupted = run.interrupted := by
  cases move <;> rfl

theorem stopped (move : Move now run deed next) {index : Nat}
    (before : run.isRunningAt index = false) : next.isRunningAt index = false := by
  cases move with
  | cut => exact isRunningAt_modify_finish _ _ before
  | _ => exact before

/-- A run that takes its leave has requested shutdown. -/
theorem value_of_isLeaving (move : Move now run deed next) (live : run.shutdown.live = true)
    (before : run.phase.isLeaving = true → run.shutdown.value = true)
    (leaving : next.phase.isLeaving = true) : next.shutdown.value = true := by
  cases move with
  | announce => cases leaving
  | serve => cases leaving
  | leave => exact Signal.value_announce_true (.inl live)
  | join phase | joinDrains phase | pass phase | cut phase | signOff phase | part phase
  | close phase => exact before (by rw [phase]; rfl)

/-- The workers that a run has joined have ended. -/
theorem isRunningAt_of_lt_joined (move : Move now run deed next)
    (before : ∀ index < run.phase.joined run.workers.length, run.isRunningAt index = false) :
    ∀ index < next.phase.joined next.workers.length, next.isRunningAt index = false := by
  intro other joined
  cases move with
  | announce | serve | leave => exact absurd joined (Nat.not_lt_zero _)
  | join phase => exact before other (by rwa [phase])
  | joinDrains phase last =>
      exact before other (by rw [phase]; exact Nat.lt_of_lt_of_le joined last)
  | pass phase ended =>
      rw [phase] at before
      rcases Nat.lt_succ_iff_lt_or_eq.mp joined with earlier | rfl
      · exact before other earlier
      · exact ended
  | cut phase =>
      rw [phase] at before
      rcases Nat.lt_succ_iff_lt_or_eq.mp joined with earlier | rfl
      · exact isRunningAt_modify_finish _ _ (before other earlier)
      · rw [isRunningAt, abort, Worker.any_getElem?_modify]
        simp
  | signOff phase | part phase | close phase => exact before other (by rwa [phase])

/-- A run cuts off no worker that it has not joined. -/
theorem isAbortedAt_of_joined_le (move : Move now run deed next)
    (before : ∀ index, run.phase.joined run.workers.length ≤ index →
      run.isAbortedAt index = false) :
    ∀ index, next.phase.joined next.workers.length ≤ index → next.isAbortedAt index = false := by
  intro other outside
  cases move with
  | announce phase | serve phase | leave phase | join phase | signOff phase | part phase
  | close phase => exact before other (by rwa [phase])
  | joinDrains =>
      have absent : run.workers[other]? = none := List.getElem?_eq_none outside
      simp [isAbortedAt, absent]
  | pass phase => exact before other (by rw [phase]; exact Nat.le_of_succ_le outside)
  | cut phase =>
      have apart : _ ≠ other := Nat.ne_of_lt outside
      exact (isAbortedAt_abort_of_ne run apart).trans
        (before other (by rw [phase]; exact Nat.le_of_succ_le outside))

/-- A worker is cut off when the run has joined it until the deadline. -/
theorem isAbortedAt_of_isAbortedAt (move : Move now run deed next) {index : Nat}
    (aborted : next.isAbortedAt index = true) :
    run.isAbortedAt index = true ∨
      deed = some (.abortWorker index) ∧
        ∃ deadline ≤ now, run.phase = .joining index deadline := by
  cases move with
  | @cut joined deadline phase _ late =>
      by_cases same : joined = index
      · subst same
        exact .inr ⟨rfl, deadline, late, phase⟩
      · exact .inl ((isAbortedAt_abort_of_ne run same).symm.trans aborted)
  | _ => exact .inl aborted

/-- A wait begins with a deed and ends a limited time later. -/
theorem eq_of_wait? (move : Move now run deed next) {begun : RunDeed} {deadline : Nat}
    (waits : next.phase.wait? = some (begun, deadline)) :
    deed = some begun ∧ deadline = now + joinLimit := by
  cases move with
  | join | joinDrains =>
      cases waits
      exact ⟨rfl, rfl⟩
  | _ => cases waits

/-- A run joins only drain tasks that there are. -/
theorem le_length_drains (move : Move now run deed next) {count deadline : Nat}
    (waits : next.phase.wait? = some (.joinDrains count, deadline)) :
    count ≤ next.drains.length := by
  cases move with
  | joinDrains =>
      cases waits
      exact Nat.le_refl _
  | _ => cases waits

theorem remaining_lt (move : Move now run deed next) :
    next.phase.remaining next.workers.length < run.phase.remaining run.workers.length := by
  cases move with
  | announce phase | serve phase | leave phase | join phase | joinDrains phase | pass phase
  | cut phase | signOff phase | part phase | close phase =>
      simp only [phase, RunPhase.remaining, length_workers_abort]
      omega

end Move

/-- When its publication and its closing have ended, a run does not wait for either. -/
theorem not_awaited (publication closing : Except BridgeError Unit) (run : BridgeRun)
    (phase : RunPhase) : ¬ ((run.published publication).closed closing).phase.Awaited phase := by
  intro awaited
  rw [published, closed] at awaited
  cases before : run.phase <;> simp only [before] at awaited <;> cases awaited

/-- A run that is due to leave waits for nothing but its deadlines, publications and the end of the
session. -/
theorem exists_step (due : run.interrupted = true ∨ run.shutdown.value = true)
    (late : ∀ deed deadline, run.phase.wait? = some (deed, deadline) → deadline ≤ now)
    (free : ∀ phase, ¬ run.phase.Awaited phase) (going : run.isOver = false) :
    ∃ deed next, run.step now = some (deed, next) := by
  rw [step]
  cases phase : run.phase with
  | starting =>
      dsimp only
      split <;> exact ⟨_, _, rfl⟩
  | serving =>
      have leaves : (run.interrupted || run.shutdown.released) = true := by
        rcases due with interrupted | requested
        · simp [interrupted]
        · simp [Signal.released_of_value requested]
      exact ⟨_, _, if_pos leaves⟩
  | turning index =>
      dsimp only
      split <;> exact ⟨_, _, rfl⟩
  | joining index deadline =>
      have elapsed : deadline ≤ now := late _ deadline (by rw [phase]; rfl)
      simp only [elapsed, if_true]
      split <;> exact ⟨_, _, rfl⟩
  | draining count deadline =>
      have elapsed : deadline ≤ now := late _ deadline (by rw [phase]; rfl)
      simp only [elapsed, decide_true, Bool.or_true, if_true]
      split <;> exact ⟨_, _, rfl⟩
  | signedOff => exact ⟨_, _, rfl⟩
  | announcing => exact absurd .announced (phase ▸ free .serving)
  | signingOff => exact absurd .signedOff (phase ▸ free .signedOff)
  | closing => exact absurd .closed (phase ▸ free .finished)
  | finished => simp [isOver, phase] at going

end BridgeRun

end InverterBridge
