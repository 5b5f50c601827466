import InverterBridge.Proofs.Modbus.Rounds

/-!
# The tasks that supervise a link

A gateway starts a task for its link whenever it is told to connect and holds no task that
is still running.  `LinkPool` keeps every task that has ever been started; the tasks move one
at a time, in any order, and share the link, the request for a new one and the shutdown
signal.  `LinkPool.Sound` is the invariant behind `LinkPool.links_in_rounds`: only the task
that has been started last may still run.
-/

namespace InverterBridge

/-- The tasks that have been started for a link, oldest first, and what they share. -/
structure LinkPool where
  config : ReconnectConfig
  tasks : List LinkTask
  /-- Whether the gateway holds the task that it has started last. -/
  held : Bool
  linked : Bool
  /-- Whether a request for a new link is kept. -/
  requested : Bool
  shuttingDown : Bool
  now : Nat

/-- Something that happens to a link. -/
inductive LinkAct where
  | connect
  /-- A task moves, if it does not have to wait. -/
  | move (index : Nat)
  /-- The attempt of a task to open the link has ended. -/
  | opened (index : Nat) (result : GatewayResult Unit)
  | request
  | requestShutdown
  /-- After a request for shutdown the gateway lets go of its task, to wait for its end. -/
  | release
  /-- After that shutdown closes the link. -/
  | closeLink
  | advance (milliseconds : Nat)

namespace LinkPool

/-- A link for which no task has been started. -/
def initial (config : ReconnectConfig) : LinkPool where
  config := config
  tasks := []
  held := false
  linked := false
  requested := false
  shuttingDown := false
  now := 0

/-- The supervisor that a task is, with what it shares. -/
def view (pool : LinkPool) (task : LinkTask) : Supervisor :=
  ⟨task.phase, pool.linked, task.backoff, pool.requested, pool.shuttingDown⟩

/-- The task that the gateway holds, or one that has ended. -/
def latest (pool : LinkPool) : LinkTask :=
  (if pool.held then pool.tasks.getLast? else none).getD ⟨.absent, .ofConfig pool.config, []⟩

/-- The supervisor that the gateway sees. -/
def supervisor (pool : LinkPool) : Supervisor :=
  pool.view pool.latest

/-- A task has made a move. -/
def settle (pool : LinkPool) (index : Nat) (task : LinkTask) (sent : List GatewayEvent)
    (next : Supervisor) : LinkPool :=
  { pool with
    tasks := pool.tasks.set index (task.after sent next)
    linked := next.linked
    requested := next.requested }

/-- Apply an act.  What cannot happen now does not happen. -/
def act (pool : LinkPool) : LinkAct → LinkPool
  | .connect =>
      let next := (pool.supervisor.connect pool.config).2
      if pool.supervisor.isRunning = false ∧ next.isRunning = true then
        { pool with tasks := pool.tasks ++ [⟨next.phase, next.backoff, []⟩], held := true }
      else pool
  | .move index =>
      match pool.tasks[index]? with
      | none => pool
      | some task =>
          match (pool.view task).step pool.now with
          | none => pool
          | some (sent, next) => pool.settle index task sent next
  | .opened index result =>
      match pool.tasks[index]? with
      | none => pool
      | some task =>
          if task.phase = .opening then
            let (sent, next) := (pool.view task).opened pool.now result
            pool.settle index task sent next
          else pool
  | .request => { pool with requested := true }
  | .requestShutdown => { pool with shuttingDown := true }
  | .release => if pool.shuttingDown then { pool with held := false } else pool
  | .closeLink =>
      if pool.shuttingDown ∧ pool.held = false then { pool with linked := false } else pool
  | .advance milliseconds => { pool with now := pool.now + milliseconds }

/-- Apply acts in order. -/
def actAll (pool : LinkPool) (acts : List LinkAct) : LinkPool :=
  acts.foldl act pool

variable {pool next : LinkPool}

/-! ## One task at a time -/

/-- What is known of the tasks at all times. -/
structure Sound (pool : LinkPool) : Prop where
  orderly : ∀ task ∈ pool.tasks, task.Orderly pool.config pool.shuttingDown
  /-- Only the last task may still run. -/
  last : ∀ index task, pool.tasks[index]? = some task → task.phase ≠ .absent →
    index + 1 = pool.tasks.length
  /-- A gateway that holds no task has never started one, or it shuts down. -/
  released : pool.held = false → pool.tasks = [] ∨ pool.shuttingDown = true
  /-- An open link is watched. -/
  watched : pool.linked = true → ∃ task ∈ pool.tasks, task.phase = .watching

theorem sound_initial (config : ReconnectConfig) : Sound (initial config) where
  orderly := by simp [initial]
  last := by simp [initial]
  released := by simp [initial]
  watched := by simp [initial]

/-- Two running tasks are the same. -/
theorem Sound.eq_of_running (sound : Sound pool) {first second : Nat} {one other : LinkTask}
    (at_first : pool.tasks[first]? = some one) (at_second : pool.tasks[second]? = some other)
    (runs : one.phase ≠ .absent) (runs_too : other.phase ≠ .absent) : first = second := by
  have := sound.last first one at_first runs
  have := sound.last second other at_second runs_too
  omega

/-- The running task is the one that the gateway holds. -/
theorem Sound.latest_eq (sound : Sound pool) (held : pool.held = true) {index : Nat}
    {task : LinkTask} (found : pool.tasks[index]? = some task) (runs : task.phase ≠ .absent) :
    pool.latest = task := by
  have last := sound.last index task found runs
  have found_last : pool.tasks.getLast? = some task := by
    rw [List.getLast?_eq_getElem?, ← found]
    congr 1
    omega
  simp [latest, held, found_last]

/-- Without a running task the link is closed. -/
theorem Sound.unlinked (sound : Sound pool) (ended : ∀ task ∈ pool.tasks, task.phase = .absent) :
    pool.linked = false := by
  rw [Bool.eq_false_iff]
  intro linked
  rcases sound.watched linked with ⟨task, member, watching⟩
  rw [ended task member] at watching
  contradiction

end LinkPool

/-! ## Moves -/

namespace Supervisor

variable {now : Nat} {supervisor next : Supervisor} {sent : List GatewayEvent}

/-- Only a running task moves. -/
theorem Move.running (move : Move now supervisor sent next) : supervisor.phase ≠ .absent := by
  cases move <;> simp_all

/-- A move opens the link or leaves it as it is. -/
theorem Move.linked (move : Move now supervisor sent next) (linked : next.linked = true) :
    next.phase = .watching ∨ supervisor.linked = true ∧ supervisor.phase ≠ .watching := by
  cases move <;> simp_all [finish]

end Supervisor

namespace LinkPool

variable {pool : LinkPool}

theorem Sound.settle (sound : Sound pool) {index : Nat} {task : LinkTask}
    {sent : List GatewayEvent} {next : Supervisor} (found : pool.tasks[index]? = some task)
    (move : Supervisor.Move pool.now (pool.view task) sent next) :
    Sound (pool.settle index task sent next) := by
  have runs : task.phase ≠ .absent := move.running
  have last := sound.last index task found runs
  have member : task ∈ pool.tasks := List.mem_of_getElem? found
  constructor
  · intro other others
    rcases List.mem_or_eq_of_mem_set others with earlier | rfl
    · exact sound.orderly other earlier
    · exact (sound.orderly task member).move rfl rfl move
  · intro position other at_position running
    simp only [LinkPool.settle, List.length_set, List.getElem?_set] at at_position ⊢
    split at at_position
    next same => omega
    next => exact sound.last position other at_position running
  · intro free
    exact (sound.released free).imp (fun none => by simp [none] at member) id
  · intro linked
    rcases move.linked linked with watching | ⟨before, elsewhere⟩
    · exact ⟨task.after sent next, List.mem_set (by omega) _, watching⟩
    · -- No task but the one that moves is running, so it is the one that watched.
      rcases sound.watched before with ⟨other, others, watching⟩
      rcases List.getElem?_of_mem others with ⟨position, at_position⟩
      have same := sound.eq_of_running at_position found (by simp [watching]) runs
      subst same
      cases found.symm.trans at_position
      exact absurd watching elsewhere

/-- A task is started unless one is held that runs, or the gateway shuts down. -/
theorem act_connect (pool : LinkPool) :
    pool.act .connect =
      if pool.latest.phase = .absent ∧ pool.shuttingDown = false then
        { pool with
          tasks := pool.tasks ++ [⟨.starting, .ofConfig pool.config, []⟩]
          held := true }
      else pool := by
  unfold LinkPool.act Supervisor.connect
  by_cases absent : pool.latest.phase = .absent
  · cases closing : pool.shuttingDown <;>
      simp [supervisor, view, Supervisor.isRunning, absent, closing]
  · simp [supervisor, view, Supervisor.isRunning, absent]

/-- Where a task is started every other one has ended. -/
theorem Sound.absent (sound : Sound pool) (free : pool.latest.phase = .absent)
    (serving : pool.shuttingDown = false) : ∀ task ∈ pool.tasks, task.phase = .absent := by
  intro task member
  by_contra runs
  cases held : pool.held with
  | true =>
      rcases List.getElem?_of_mem member with ⟨index, found⟩
      exact runs (sound.latest_eq held found runs ▸ free)
  | false =>
      rcases sound.released held with none | closing
      · simp [none] at member
      · simp [serving] at closing

theorem Sound.connect (sound : Sound pool) : Sound (pool.act .connect) := by
  rw [act_connect]
  split
  next starts =>
    have absent := sound.absent starts.1 starts.2
    constructor
    · intro task member
      rcases List.mem_append.mp member with member | member
      · exact sound.orderly task member
      · rw [List.mem_singleton.mp member]
        exact LinkTask.orderly_start pool.config pool.shuttingDown
    · intro index task found runs
      simp only [List.length_append, List.length_singleton]
      by_cases earlier : index < pool.tasks.length
      · rw [List.getElem?_append_left earlier] at found
        exact absurd (absent task (List.mem_of_getElem? found)) runs
      · have := (List.getElem?_eq_some_iff.mp found).1
        simp only [List.length_append, List.length_singleton] at this
        omega
    · simp
    · intro linked
      rcases sound.watched linked with ⟨task, member, watching⟩
      exact ⟨task, List.mem_append_left _ member, watching⟩
  next => exact sound

/-- Every act is sound. -/
theorem Sound.act (sound : Sound pool) (act : LinkAct) : Sound (pool.act act) := by
  cases act with
  | connect => exact sound.connect
  | move index =>
      unfold LinkPool.act
      simp only
      split
      · exact sound
      next task found =>
        split
        · exact sound
        next sent next step => exact sound.settle found (Supervisor.move_of_step step)
  | opened index result =>
      unfold LinkPool.act
      simp only
      split
      · exact sound
      next task found =>
        split
        next opening => exact sound.settle found (Supervisor.move_of_opened opening rfl)
        next => exact sound
  | request => exact ⟨sound.orderly, sound.last, sound.released, sound.watched⟩
  | requestShutdown =>
      exact ⟨fun task member => (sound.orderly task member).requestShutdown, sound.last,
        fun _ => .inr rfl, sound.watched⟩
  | release =>
      unfold LinkPool.act
      simp only
      split
      next closing => exact ⟨sound.orderly, sound.last, fun _ => .inr closing, sound.watched⟩
      next => exact sound
  | closeLink =>
      unfold LinkPool.act
      simp only
      split
      · exact ⟨sound.orderly, sound.last, sound.released, fun linked => nomatch linked⟩
      · exact sound
  | advance milliseconds => exact ⟨sound.orderly, sound.last, sound.released, sound.watched⟩

theorem config_act (pool : LinkPool) (act : LinkAct) : (pool.act act).config = pool.config := by
  cases act with
  | connect =>
      rw [act_connect]
      split <;> rfl
  | _ =>
      simp only [LinkPool.act]
      repeat' split
      all_goals rfl

theorem config_actAll (config : ReconnectConfig) (acts : List LinkAct) :
    ((initial config).actAll acts).config = config := by
  suffices same : ∀ pool : LinkPool, (pool.actAll acts).config = pool.config from same _
  induction acts with
  | nil => exact fun pool => rfl
  | cons act acts ih => exact fun pool => (ih (pool.act act)).trans (config_act pool act)

theorem Sound.actAll (sound : Sound pool) (acts : List LinkAct) : Sound (pool.actAll acts) := by
  induction acts generalizing pool with
  | nil => exact sound
  | cons act acts ih => exact ih (sound.act act)

/-! ## Every run -/

/-- After every list of acts, whatever comes of the attempts to open the link, however often
the gateway is told to connect, and whenever a new link or shutdown is requested:

* one task runs at most, and while the gateway holds its task this is the one it sees;
* every task is orderly: its events are rounds, and then nothing, a link that is up or has
  been cut off, or one fatal error; the delays follow the schedule; and the link was open
  when it came up and closed when it was lost;
* between two links that come up one is lost;
* a task that has ended has ended by shutdown or with a fatal error, unless its delays may
  grow until they cannot be doubled;
* when no task runs the link is closed. -/
theorem links_in_rounds (config : ReconnectConfig) (acts : List LinkAct) :
    let pool := (initial config).actAll acts
    (∀ (first second : Nat) (one other : LinkTask),
        pool.tasks[first]? = some one → pool.tasks[second]? = some other →
          one.phase ≠ .absent → other.phase ≠ .absent →
            first = second ∧ (pool.held = true → pool.supervisor = pool.view one)) ∧
      (∀ task ∈ pool.tasks, task.Orderly config pool.shuttingDown) ∧
      (∀ task ∈ pool.tasks, ∀ before between after,
        task.events = before ++ .connected :: (between ++ .connected :: after) →
          ∃ delay, .disconnected delay ∈ between) ∧
      (∀ task ∈ pool.tasks, task.phase = .absent → config.longest < 2 ^ 63 →
        pool.shuttingDown = true ∨
          ∃ events error, task.events = events ++ [.error error] ∧ error.severity = .fatal) ∧
      ((∀ task ∈ pool.tasks, task.phase = .absent) → pool.linked = false) := by
  intro pool
  have sound : Sound pool := (sound_initial config).actAll acts
  have orderly : ∀ task ∈ pool.tasks, task.Orderly config pool.shuttingDown := by
    rw [← config_actAll config acts]
    exact sound.orderly
  refine ⟨?_, orderly, ?_, ?_, sound.unlinked⟩
  · intro first second one other at_first at_second runs runs_too
    refine ⟨sound.eq_of_running at_first at_second runs runs_too, fun held => ?_⟩
    rw [supervisor, sound.latest_eq held at_first runs]
  · intro task member before between after split
    exact (orderly task member).exists_loss split
  · intro task member ended short
    exact (orderly task member).ended ended short

end LinkPool

end InverterBridge
