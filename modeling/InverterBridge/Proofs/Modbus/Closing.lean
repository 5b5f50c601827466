import InverterBridge.Proofs.Modbus.InputAnswers
import InverterBridge.Proofs.Modbus.Links
import InverterBridge.Proofs.Modbus.Supervised

/-!
# A gateway that has shut down

To shut down, a gateway requests it, lets go of the task of its link, waits for the end of
that task and closes the link.  Between these steps anything may happen: questions, requests
and storing by operations that began earlier, moves of the task, and further calls to shut
down.  `GatewayScene` lets the steps come in any order, and `GatewayScene.Attended` is the
invariant: while a task still runs that the gateway has let go of, some call waits for it.

`GatewayScene.shutdown_is_final` says what holds from the end of a call on.  A second call
finds that the first one has taken the task, has nothing to wait for and completes at once:
`GatewayScene.link_opens_after_overlapping_shutdown` is a link that opens after that.
-/

namespace InverterBridge

/-! ## Refusals -/

namespace ModbusGateway

variable {δ : Type} {gateway : ModbusGateway δ}

theorem chain_of_shuttingDown (closing : gateway.supervisor.shuttingDown = true) :
    gateway.chain = .error .shuttingDown := by
  simp [chain, checkRunning, closing, Except.bind]

theorem ofBlock_of_shuttingDown {α β : Type} (closing : gateway.supervisor.shuttingDown = true)
    (block : Option β) (point : String) (read : β → GatewayResult α) :
    gateway.ofBlock block point read = .error .shuttingDown := by
  simp [ofBlock, checkRunning, closing, Except.bind]

theorem read_of_shuttingDown (closing : gateway.supervisor.shuttingDown = true) (wire : Wire δ)
    (address count : Nat) : gateway.read wire address count = (.error .shuttingDown, gateway) := by
  simp [read, closing]

/-- A gateway that shuts down refuses every question, and the refusal leaves no trace. -/
theorem ask_of_shuttingDown (closing : gateway.supervisor.shuttingDown = true) (wire : Wire δ)
    (question : Question) : gateway.ask wire question = (.error .shuttingDown, gateway) := by
  have chain := chain_of_shuttingDown closing
  have read := read_of_shuttingDown closing wire
  cases question <;>
    simp [ask, validate, fetchDeviceInfo, fetchRegisters, fetchEventRegisters, quantity,
      panel_of_shuttingDown closing, ofInverter, ofCommon, ofBlock_of_shuttingDown closing,
      inverterModel, inputCount, chain, read, Except.bind, Except.map]

/-- Without a task a gateway that shuts down reports an error where it is to connect. -/
theorem connect_of_shuttingDown (closing : gateway.supervisor.shuttingDown = true)
    (ended : gateway.supervisor.phase = .absent) :
    gateway.connect = ([.error .shuttingDown], gateway) := by
  simp [connect, Supervisor.connect, Supervisor.isRunning, closing, ended]

/-- To shut down again changes nothing. -/
theorem shutdown_eq_self (closing : gateway.supervisor.shuttingDown = true)
    (ended : gateway.supervisor.phase = .absent) (unlinked : gateway.supervisor.linked = false) :
    gateway.shutdown = gateway := by
  simp [shutdown, Supervisor.shutdown, Supervisor.requestShutdown, Supervisor.finish, ← closing,
    ← ended, ← unlinked]

end ModbusGateway

/-! ## What a request for shutdown leaves to the tasks -/

/-- Whether an act is a step of a shutdown. -/
def LinkAct.ofShutdown : LinkAct → Bool
  | .requestShutdown | .release | .closeLink => true
  | _ => false

namespace LinkPool

variable {pool : LinkPool} {act : LinkAct} {index : Nat}

/-- Whether a task has not ended. -/
def runs (pool : LinkPool) (index : Nat) : Bool :=
  pool.tasks[index]?.any (·.phase != .absent)

theorem runs_eq_true_iff :
    pool.runs index = true ↔ ∃ task, pool.tasks[index]? = some task ∧ task.phase ≠ .absent := by
  simp [runs, Option.any_eq_true]

/-- Outside of a shutdown nothing requests it, and the gateway lets go of no task. -/
theorem ordinary_act (pool : LinkPool) (ordinary : act.ofShutdown = false) :
    (pool.act act).shuttingDown = pool.shuttingDown ∧
      (pool.held = true → (pool.act act).held = true) := by
  cases act with
  | connect =>
      rw [act_connect]
      split
      · exact ⟨rfl, fun _ => rfl⟩
      · exact ⟨rfl, id⟩
  | move | opened =>
      unfold LinkPool.act
      dsimp only
      repeat' split
      all_goals exact ⟨rfl, id⟩
  | request | advance => exact ⟨rfl, id⟩
  | requestShutdown | release | closeLink => contradiction

/-- What becomes of the tasks after a request for shutdown: none is started or taken, and
none that has ended runs again. -/
structure Subsides (before after : LinkPool) : Prop where
  shuttingDown : after.shuttingDown = true
  held : after.held = true → before.held = true
  length_tasks : after.tasks.length = before.tasks.length
  runs : ∀ index, after.runs index = true → before.runs index = true

theorem Subsides.refl (closing : pool.shuttingDown = true) : Subsides pool pool :=
  ⟨closing, id, rfl, fun _ => id⟩

theorem Subsides.trans {middle after : LinkPool} (first : Subsides pool middle)
    (second : Subsides middle after) : Subsides pool after where
  shuttingDown := second.shuttingDown
  held := first.held ∘ second.held
  length_tasks := second.length_tasks.trans first.length_tasks
  runs := fun index => first.runs index ∘ second.runs index

theorem subsides_settle (closing : pool.shuttingDown = true) {task : LinkTask}
    {sent : List GatewayEvent} {next : Supervisor} (found : pool.tasks[index]? = some task)
    (ran : task.phase ≠ .absent) : Subsides pool (pool.settle index task sent next) where
  shuttingDown := closing
  held := id
  length_tasks := List.length_set
  runs := by
    intro position running
    rw [runs_eq_true_iff] at running ⊢
    by_cases same : index = position
    · exact same ▸ ⟨task, found, ran⟩
    · simpa [settle, List.getElem?_set_ne same] using running

theorem subsides_act (closing : pool.shuttingDown = true) (act : LinkAct) :
    Subsides pool (pool.act act) := by
  have same : Subsides pool pool := .refl closing
  cases act with
  | connect => rwa [act_connect, if_neg (by simp [closing])]
  | move position =>
      simp only [LinkPool.act]
      split
      · exact same
      next task found =>
        split
        · exact same
        next sent next step =>
          exact subsides_settle closing found (Supervisor.move_of_step step).running
  | opened position result =>
      simp only [LinkPool.act]
      split
      · exact same
      next task found =>
        split
        next opening => exact subsides_settle closing found (by simp [opening])
        next => exact same
  | request => exact ⟨closing, id, rfl, fun _ => id⟩
  | requestShutdown => exact ⟨rfl, id, rfl, fun _ => id⟩
  | release =>
      simp only [LinkPool.act, closing, if_true]
      exact ⟨rfl, fun held => absurd held Bool.false_ne_true, rfl, fun _ => id⟩
  | closeLink =>
      simp only [LinkPool.act]
      split
      · exact ⟨closing, id, rfl, fun _ => id⟩
      · exact same
  | advance milliseconds => exact ⟨closing, id, rfl, fun _ => id⟩

/-- A gateway that holds no task sees none. -/
theorem phase_supervisor_of_free (free : pool.held = false) : pool.supervisor.phase = .absent := by
  simp [supervisor, view, latest, free]

end LinkPool

/-! ## Shutting down step by step -/

/-- How far a call to shut down has come. -/
inductive ShutdownCall where
  /-- Shutdown has been requested. -/
  | requested
  /-- Waiting for the end of the task that the gateway has let go of, if it held one. -/
  | awaiting (task : Option Nat)
  /-- About to close the link. -/
  | closing
  | completed
  deriving DecidableEq, Repr

/-- One step of a call.  A call that has to wait stays where it is. -/
def LinkPool.serve (pool : LinkPool) : ShutdownCall → LinkPool × ShutdownCall
  | .requested =>
      (pool.act .release, .awaiting (if pool.held then some (pool.tasks.length - 1) else none))
  | .awaiting task => (pool, if task.any pool.runs then .awaiting task else .closing)
  | .closing => (pool.act .closeLink, .completed)
  | .completed => (pool, .completed)

namespace LinkPool

variable {pool : LinkPool}

theorem sound_serve (sound : pool.Sound) (call : ShutdownCall) : (pool.serve call).1.Sound := by
  cases call with
  | requested => exact sound.act .release
  | closing => exact sound.act .closeLink
  | awaiting | completed => exact sound

theorem subsides_serve (closing : pool.shuttingDown = true) (call : ShutdownCall) :
    pool.Subsides (pool.serve call).1 := by
  cases call with
  | requested => exact subsides_act closing .release
  | closing => exact subsides_act closing .closeLink
  | awaiting | completed => exact .refl closing

/-- The first step of a call lets go of the task, and no step takes it back. -/
theorem held_serve (closing : pool.shuttingDown = true) {call : ShutdownCall}
    (released : call ≠ .requested → pool.held = false) : (pool.serve call).1.held = false := by
  by_cases first : call = .requested
  · simp [first, serve, act, closing]
  · by_contra held
    have before := (subsides_serve closing call).held (by simpa using held)
    simp [released first] at before

/-- A call goes on to wait for the task that was started last, which the gateway held. -/
theorem serve_requested (sound : pool.Sound) (held : pool.held = true) {index : Nat}
    (running : pool.runs index = true) : (pool.serve .requested).2 = .awaiting (some index) := by
  rcases runs_eq_true_iff.mp running with ⟨task, found, ran⟩
  have last : pool.tasks.length - 1 = index := by
    have := sound.last index task found ran
    omega
  rw [serve, if_pos held, last]

/-- A call waits as long as the task runs. -/
theorem serve_awaiting {index : Nat} (running : pool.runs index = true) :
    (pool.serve (.awaiting (some index))).2 = .awaiting (some index) := by
  rw [serve, Option.any_some, if_pos running]

end LinkPool

/-- A gateway, the tasks of its link, and the calls to shut it down, oldest first. -/
structure GatewayScene (δ : Type) where
  device : DeviceConfig
  pool : LinkPool
  models : Option ModelMap
  cache : RegisterCache
  line : LoggedLine δ
  calls : List ShutdownCall

/-- Something that happens to a gateway. -/
inductive GatewayAct (δ : Type) where
  | ask (question : Question)
  /-- A reading sends a request.  It has looked for a shutdown before, and looks only whether
  the link is open. -/
  | send (request : ReadRequest)
  /-- An operation that began earlier stores something. -/
  | store (models : Option ModelMap) (cache : RegisterCache)
  /-- Something happens to the link that is no step of a shutdown. -/
  | link (act : LinkAct)
  /-- The other side of the link changes by itself. -/
  | surround (line : δ)
  /-- A call to shut down. -/
  | shutdown
  /-- A call to shut down goes on. -/
  | proceed (index : Nat)

namespace GatewayScene

variable {δ : Type}

/-- A gateway that has not been connected. -/
def initial (device : DeviceConfig) (line : δ) : GatewayScene δ where
  device := device
  pool := .initial device.reconnect
  models := none
  cache := .empty
  line := ⟨line, []⟩
  calls := []

/-- The gateway as it is now. -/
def gateway (scene : GatewayScene δ) : ModbusGateway (LoggedLine δ) :=
  ⟨scene.device, scene.pool.supervisor, scene.models, scene.cache, scene.line⟩

/-- Apply an act.  What cannot happen now does not happen. -/
def act (wire : Wire δ) (scene : GatewayScene δ) : GatewayAct δ → GatewayScene δ
  | .ask question =>
      let after := (scene.gateway.ask wire.logged question).2
      { scene with models := after.models, cache := after.cache, line := after.line }
  | .send request =>
      if scene.pool.linked then
        { scene with line := (wire.logged.send scene.device.unitId request scene.line).2 }
      else scene
  | .store models cache => { scene with models := models, cache := cache }
  | .link act => if act.ofShutdown then scene else { scene with pool := scene.pool.act act }
  | .surround line => { scene with line := { scene.line with line := line } }
  | .shutdown =>
      { scene with
        pool := scene.pool.act .requestShutdown
        calls := scene.calls ++ [.requested] }
  | .proceed index =>
      match scene.calls[index]? with
      | none => scene
      | some call =>
          let (pool, next) := scene.pool.serve call
          { scene with pool := pool, calls := scene.calls.set index next }

/-- Apply acts in order. -/
def run (wire : Wire δ) (scene : GatewayScene δ) (acts : List (GatewayAct δ)) :
    GatewayScene δ :=
  acts.foldl (act wire) scene

/-! ## The invariant -/

/-- A task that the gateway has let go of does not run on unnoticed. -/
structure Attended (scene : GatewayScene δ) : Prop where
  sound : scene.pool.Sound
  begun : scene.calls ≠ [] → scene.pool.shuttingDown = true
  released : ∀ call ∈ scene.calls, call ≠ .requested → scene.pool.held = false
  awaited : scene.pool.shuttingDown = true → scene.pool.held = false →
    ∀ index, scene.pool.runs index = true → .awaiting (some index) ∈ scene.calls

variable {scene : GatewayScene δ} {wire : Wire δ}

theorem attended_initial (device : DeviceConfig) (line : δ) : Attended (initial device line) where
  sound := LinkPool.sound_initial device.reconnect
  begun := by simp [initial]
  released := by simp [initial]
  awaited := nofun

/-- The invariant speaks of nothing but the link and the calls. -/
theorem Attended.congr (attended : Attended scene) {after : GatewayScene δ}
    (pool_eq : after.pool = scene.pool) (calls_eq : after.calls = scene.calls) :
    Attended after where
  sound := pool_eq ▸ attended.sound
  begun := by
    rw [pool_eq, calls_eq]
    exact attended.begun
  released := by
    rw [pool_eq, calls_eq]
    exact attended.released
  awaited := by
    rw [pool_eq, calls_eq]
    exact attended.awaited

theorem Attended.link (attended : Attended scene) {act : LinkAct}
    (ordinary : act.ofShutdown = false) :
    Attended { scene with pool := scene.pool.act act } := by
  have kept := scene.pool.ordinary_act ordinary
  constructor
  · exact attended.sound.act act
  · intro begun
    exact kept.1.trans (attended.begun begun)
  · intro call member taken
    have begun := attended.begun (List.ne_nil_of_mem member)
    by_contra held
    have before := (LinkPool.subsides_act begun act).held (by simpa using held)
    simp [attended.released call member taken] at before
  · intro begun free index running
    have begun : scene.pool.shuttingDown = true := kept.1.symm.trans begun
    have free : scene.pool.held = false := by
      by_contra held
      simp [kept.2 (by simpa using held)] at free
    exact attended.awaited begun free index ((LinkPool.subsides_act begun act).runs index running)

theorem Attended.shutdown (attended : Attended scene) : Attended (scene.act wire .shutdown) := by
  constructor
  · exact attended.sound.act .requestShutdown
  · intro _
    rfl
  · intro call member taken
    rcases List.mem_append.mp member with earlier | new
    · exact attended.released call earlier taken
    · exact absurd (List.mem_singleton.mp new) taken
  · intro _ free index running
    have free : scene.pool.held = false := free
    have running : scene.pool.runs index = true := running
    rcases attended.sound.released free with none | begun
    · simp [LinkPool.runs, none] at running
    · exact List.mem_append_left _ (attended.awaited begun free index running)

theorem mem_set_of_mem {calls : List ShutdownCall} {index : Nat} {call next other : ShutdownCall}
    (found : calls[index]? = some call) (member : other ∈ calls) (ne : other ≠ call) :
    other ∈ calls.set index next := by
  rcases List.getElem?_of_mem member with ⟨position, at_position⟩
  have apart : index ≠ position := by
    rintro rfl
    exact ne (Option.some.inj (at_position.symm.trans found))
  exact List.mem_of_getElem? ((List.getElem?_set_ne apart).trans at_position)

/-- A call waits for the task that the gateway held, and no longer than until that task has
ended. -/
theorem Attended.proceed (attended : Attended scene) (index : Nat) :
    Attended (scene.act wire (.proceed index)) := by
  unfold act
  dsimp only
  split
  · exact attended
  next call found =>
    have member : call ∈ scene.calls := List.mem_of_getElem? found
    have begun := attended.begun (List.ne_nil_of_mem member)
    have subsides := LinkPool.subsides_serve begun call
    have free := LinkPool.held_serve begun (attended.released call member)
    refine ⟨LinkPool.sound_serve attended.sound call, fun _ => subsides.shuttingDown,
      fun _ _ _ => free, fun _ _ position runs => ?_⟩
    have running := subsides.runs position runs
    have bound := (List.getElem?_eq_some_iff.mp found).1
    cases held : scene.pool.held with
    | true =>
        -- The call that lets go of the task is the first one, and waits for it from now on.
        have first : call = .requested := by
          by_contra taken
          simp [attended.released call member taken] at held
        rw [first, LinkPool.serve_requested attended.sound held running]
        exact List.mem_set bound _
    | false =>
        have waits := attended.awaited begun held position running
        by_cases same : call = .awaiting (some position)
        · rw [same, LinkPool.serve_awaiting running]
          exact List.mem_set bound _
        · exact mem_set_of_mem found waits (Ne.symm same)

/-- Every act preserves the invariant. -/
theorem Attended.act (attended : Attended scene) (act : GatewayAct δ) :
    Attended (scene.act wire act) := by
  cases act with
  | ask question => exact attended.congr rfl rfl
  | send request =>
      unfold GatewayScene.act
      dsimp only
      split <;> exact attended.congr rfl rfl
  | store models cache => exact attended.congr rfl rfl
  | link act =>
      unfold GatewayScene.act
      dsimp only
      split
      · exact attended
      next ordinary => exact attended.link (by simpa using ordinary)
  | surround line => exact attended.congr rfl rfl
  | shutdown => exact attended.shutdown
  | proceed index => exact attended.proceed index

/-- So does every run. -/
theorem Attended.run (attended : Attended scene) (acts : List (GatewayAct δ)) :
    Attended (scene.run wire acts) := by
  induction acts generalizing scene with
  | nil => exact attended
  | cons first acts ih => exact ih (attended.act first)

/-! ## After the end of a call -/

theorem subsides_act (wire : Wire δ) (begun : scene.pool.shuttingDown = true)
    (act : GatewayAct δ) :
    scene.pool.Subsides (scene.act wire act).pool := by
  have same : scene.pool.Subsides scene.pool := .refl begun
  cases act with
  | ask question => exact same
  | send request =>
      unfold GatewayScene.act
      dsimp only
      split <;> exact same
  | store models cache => exact same
  | link act =>
      unfold GatewayScene.act
      dsimp only
      split
      · exact same
      · exact LinkPool.subsides_act begun act
  | surround line => exact same
  | shutdown => exact LinkPool.subsides_act begun .requestShutdown
  | proceed index =>
      unfold GatewayScene.act
      dsimp only
      split
      · exact same
      next call _ => exact LinkPool.subsides_serve begun call

theorem subsides_run (wire : Wire δ) (begun : scene.pool.shuttingDown = true)
    (acts : List (GatewayAct δ)) :
    scene.pool.Subsides (scene.run wire acts).pool := by
  induction acts generalizing scene with
  | nil => exact .refl begun
  | cons first acts ih =>
      have step := subsides_act wire begun first
      exact step.trans (ih step.shuttingDown)

/-- Shutdown has been requested and no task of the link runs. -/
structure Closed (scene : GatewayScene δ) : Prop where
  attended : scene.Attended
  shuttingDown : scene.pool.shuttingDown = true
  ended : ∀ index, scene.pool.runs index = false

theorem Closed.phase_eq (closed : Closed scene) :
    ∀ task ∈ scene.pool.tasks, task.phase = .absent := by
  intro task member
  rcases List.getElem?_of_mem member with ⟨index, found⟩
  by_contra running
  have runs := LinkPool.runs_eq_true_iff.mpr ⟨task, found, running⟩
  simp [closed.ended index] at runs

theorem Closed.unlinked (closed : Closed scene) : scene.pool.linked = false :=
  closed.attended.sound.unlinked closed.phase_eq

theorem Closed.act (wire : Wire δ) (closed : Closed scene) (act : GatewayAct δ) :
    Closed (scene.act wire act) := by
  have subsides := subsides_act wire closed.shuttingDown act
  refine ⟨closed.attended.act act, subsides.shuttingDown, fun index => ?_⟩
  by_contra running
  have before := subsides.runs index (by simpa using running)
  simp [closed.ended index] at before

/-- Over a closed link nothing is sent. -/
theorem Closed.log_act (closed : Closed scene) (act : GatewayAct δ) :
    (scene.act wire act).line.log = scene.line.log := by
  cases act with
  | ask question =>
      have refused : scene.gateway.ask wire.logged question =
          (.error .shuttingDown, scene.gateway) :=
        ModbusGateway.ask_of_shuttingDown closed.shuttingDown wire.logged question
      simp only [GatewayScene.act, refused]
      rfl
  | send request => simp [GatewayScene.act, closed.unlinked]
  | store models cache => rfl
  | surround line => rfl
  | shutdown => rfl
  | link | proceed =>
      unfold GatewayScene.act
      dsimp only
      split <;> rfl

theorem Closed.run (wire : Wire δ) (closed : Closed scene) (acts : List (GatewayAct δ)) :
    Closed (scene.run wire acts) ∧ (scene.run wire acts).line.log = scene.line.log := by
  induction acts generalizing scene with
  | nil => exact ⟨closed, rfl⟩
  | cons first acts ih =>
      rcases ih (closed.act wire first) with ⟨later, log⟩
      exact ⟨later, log.trans (closed.log_act first)⟩

/-- Once a call to shut down has completed, whatever happens before and afterwards:

* every question is refused with the error of a shutdown and leaves no trace, neither in the
  gateway nor on the line;
* the gateway does not connect but reports that error, and no task is started;
* the link is closed and stays closed, no task runs and no request is sent, unless another
  call still waits for a task that runs. -/
theorem shutdown_is_final (wire : Wire δ) (device : DeviceConfig) (line : δ)
    (acts more : List (GatewayAct δ))
    (completed : .completed ∈ ((initial device line).run wire acts).calls) :
    let scene := (initial device line).run wire acts
    let later := scene.run wire more
    (∀ question, later.gateway.ask wire.logged question = (.error .shuttingDown, later.gateway)) ∧
      later.gateway.connect = ([.error .shuttingDown], later.gateway) ∧
      later.act wire (.link .connect) = later ∧
      later.pool.tasks.length = scene.pool.tasks.length ∧
      ((∀ task, .awaiting (some task) ∈ scene.calls → scene.pool.runs task = false) →
        later.gateway.shutdown = later.gateway ∧ later.pool.linked = false ∧
          (∀ task ∈ later.pool.tasks, task.phase = .absent) ∧
          later.line.log = scene.line.log) := by
  intro scene later
  have attended : Attended scene := (attended_initial device line).run acts
  have begun : scene.pool.shuttingDown = true := attended.begun (List.ne_nil_of_mem completed)
  have free : scene.pool.held = false := attended.released _ completed (by simp)
  have subsides : scene.pool.Subsides later.pool := subsides_run wire begun more
  have freeLater : later.pool.held = false := by
    by_contra held
    have before := subsides.held (by simpa using held)
    simp [free] at before
  have absent : later.gateway.supervisor.phase = .absent :=
    LinkPool.phase_supervisor_of_free freeLater
  refine ⟨?_, ?_, ?_, subsides.length_tasks, fun alone => ?_⟩
  · exact ModbusGateway.ask_of_shuttingDown subsides.shuttingDown wire.logged
  · exact ModbusGateway.connect_of_shuttingDown subsides.shuttingDown absent
  · have refused : later.pool.act .connect = later.pool := by
      rw [LinkPool.act_connect, if_neg (by simp [subsides.shuttingDown])]
    simp only [act, refused]
    rfl
  · have ended : ∀ index, scene.pool.runs index = false := by
      intro index
      by_contra running
      have running : scene.pool.runs index = true := by simpa using running
      have stopped := alone index (attended.awaited begun free index running)
      simp [running] at stopped
    rcases (Closed.mk attended begun ended).run wire more with ⟨closed, log⟩
    have unlinked := closed.unlinked
    exact ⟨ModbusGateway.shutdown_eq_self subsides.shuttingDown absent unlinked, unlinked,
      closed.phase_eq, log⟩

/-- A gateway is connected and asked, and shut down while its link is open. -/
theorem shutdown_of_open_link_is_final :
    let wire : Wire Unit := ⟨fun _ line => (.ok (), line), fun _ _ line => (.silence, line)⟩
    let device : DeviceConfig :=
      ⟨"roof", .tcp "inverter.local" 502, 1, 40000, 1000, ReconnectConfig.default⟩
    let acts : List (GatewayAct Unit) :=
      [.link .connect, .link (.move 0), .link (.opened 0 (.ok ())), .ask .validate, .shutdown,
        .proceed 0, .link (.move 0), .proceed 0, .proceed 0]
    let scene := (initial device ()).run wire acts
    scene.calls = [.completed] ∧ scene.line.log.length = 1 ∧
      ∀ more, (scene.run wire more).gateway.connect =
          ([.error .shuttingDown], (scene.run wire more).gateway) ∧
        (scene.run wire more).pool.linked = false ∧
        (scene.run wire more).line.log = scene.line.log := by
  intro wire device acts scene
  have calls : scene.calls = [.completed] := by decide +kernel
  have asked : scene.line.log.length = 1 := by decide +kernel
  refine ⟨calls, asked, fun more => ?_⟩
  have completed : .completed ∈ scene.calls := calls ▸ List.mem_singleton_self _
  rcases shutdown_is_final wire device () acts more completed with ⟨-, refused, -, -, closes⟩
  have alone : ∀ task, .awaiting (some task) ∈ scene.calls → scene.pool.runs task = false := by
    simp [calls]
  rcases closes alone with ⟨-, unlinked, -, log⟩
  exact ⟨refused, unlinked, log⟩

/-- Two calls to shut down while the link is being opened.  The first one takes the task and
waits for it; the second one finds none and completes.  Then the link opens, and a reading
that has looked for a shutdown before sends its request. -/
theorem link_opens_after_overlapping_shutdown :
    let wire : Wire Unit := ⟨fun _ line => (.ok (), line), fun _ _ line => (.silence, line)⟩
    let device : DeviceConfig :=
      ⟨"roof", .tcp "inverter.local" 502, 1, 40000, 1000, ReconnectConfig.default⟩
    let scene := (initial device ()).run wire
      [.link .connect, .link (.move 0), .shutdown, .proceed 0, .shutdown, .proceed 1, .proceed 1,
        .proceed 1]
    let later := scene.run wire [.link (.opened 0 (.ok ())), .send ⟨40000, 2⟩]
    scene.calls = [.awaiting (some 0), .completed] ∧ scene.pool.runs 0 = true ∧
      later.pool.linked = true ∧ later.line.log.length = scene.line.log.length + 1 := by
  decide +kernel

end GatewayScene

end InverterBridge
