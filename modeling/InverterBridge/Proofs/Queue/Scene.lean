import InverterBridge.Proofs.Queue.Traffic

/-!
# A drain task at work

A `Scene` is a queue with the task that drains it and everything the task can
see: the connection, the shutdown signal and the clock.  The acts of a scene are
those of the producers, of the surroundings and of the task, one move at a
time, so what holds after every list of acts holds of every interleaving.

The acts of the task are turns: `Scene.Turn` lists what a turn can do, and an
act of the task that is not a turn changes nothing.  Time does not go back, the
updates of the connection are only ever counted on, and a shutdown that has been
requested stays requested; `Surroundings.Later` says so of every run.
-/

namespace InverterBridge

/-- Surroundings as they may be later on. -/
structure Surroundings.Later (before after : Surroundings) : Prop where
  now_le : before.now ≤ after.now
  changes_le : before.connectivity.changes ≤ after.connectivity.changes
  requested : before.shutdown.value = true → after.shutdown.value = true
  released : before.shutdown.released = true → after.shutdown.released = true

theorem Surroundings.Later.refl (around : Surroundings) : around.Later around :=
  ⟨Nat.le_refl _, Nat.le_refl _, id, id⟩

theorem Surroundings.Later.trans {first second third : Surroundings}
    (before : first.Later second) (after : second.Later third) : first.Later third where
  now_le := Nat.le_trans before.now_le after.now_le
  changes_le := Nat.le_trans before.changes_le after.changes_le
  requested := after.requested ∘ before.requested
  released := after.released ∘ before.released

namespace DestinationQueue

theorem retryDelay_enqueue (queue : DestinationQueue) (message : OutboundMessage) :
    (queue.enqueue message).2.retryDelay = queue.retryDelay := by
  unfold enqueue
  split <;> rfl

theorem retryDelay_complete (queue : DestinationQueue) (sequence : Nat) :
    (queue.complete sequence).retryDelay = queue.retryDelay := by
  simp only [complete, removeHead]
  split <;> rfl

end DestinationQueue

/-- A queue, the task that drains it, and what the task sees. -/
structure Scene where
  around : Surroundings
  queue : DestinationQueue
  drain : Drain

/-- Something that happens in a scene. -/
inductive SceneAct where
  | enqueue (message : OutboundMessage)
  /-- An update of the connection. -/
  | announce (connected : Bool)
  /-- The source of the connection is gone. -/
  | closeConnection
  | advance (milliseconds : Nat)
  | requestShutdown
  /-- Every handle of the shutdown signal is gone. -/
  | dropShutdown
  /-- One move of the task, if it does not have to wait. -/
  | move
  /-- The end of the publication under way, if there is one. -/
  | finish (success : Bool)

namespace SceneAct

/-- Whether a producer acts. -/
def isEnqueue : SceneAct → Bool
  | .enqueue _ => true
  | _ => false

/-- Whether the task acts, or a publication of it ends. -/
def isOfTask : SceneAct → Bool
  | .move => true
  | .finish _ => true
  | _ => false

/-- Whether the connection is updated. -/
def isAnnouncement : SceneAct → Bool
  | .announce _ => true
  | _ => false

end SceneAct

namespace Scene

/-- A task that has not run yet, over an empty queue. -/
def initial (topic : String) (capacity retryDelay : Nat) (around : Surroundings) : Scene :=
  ⟨around, .empty topic capacity retryDelay, .initial⟩

/-- Apply an act.  What the task cannot do now does not happen. -/
def act (scene : Scene) : SceneAct → Scene
  | .enqueue message => { scene with queue := (scene.queue.enqueue message).2 }
  | .announce connected =>
      { scene with
        around.connectivity := scene.around.connectivity.announce connected }
  | .closeConnection =>
      { scene with around.connectivity := scene.around.connectivity.close }
  | .advance milliseconds =>
      { scene with around.now := scene.around.now + milliseconds }
  | .requestShutdown =>
      { scene with around.shutdown := scene.around.shutdown.announce true }
  | .dropShutdown => { scene with around.shutdown := scene.around.shutdown.close }
  | .move =>
      match scene.drain.step scene.around scene.queue with
      | none => scene
      | some (queue, drain) => { scene with queue := queue, drain := drain }
  | .finish success =>
      let (queue, drain) := scene.drain.finish scene.around scene.queue success
      { scene with queue := queue, drain := drain }

/-- Apply acts in order. -/
def run (scene : Scene) (acts : List SceneAct) : Scene :=
  acts.foldl act scene

@[simp]
theorem run_cons (scene : Scene) (first : SceneAct) (acts : List SceneAct) :
    scene.run (first :: acts) = (scene.act first).run acts :=
  rfl

theorem run_append (scene : Scene) (first second : List SceneAct) :
    scene.run (first ++ second) = (scene.run first).run second :=
  List.foldl_append

variable {scene next : Scene}

/-! ## Turns of the task -/

/-- What the task can do in a scene, or the end of a publication do to it. -/
inductive Turn (scene : Scene) : Scene → Prop
  | move {queue : DestinationQueue} {drain : Drain}
      (move : Drain.Move scene.around scene.queue scene.drain queue drain) :
      Turn scene { scene with queue := queue, drain := drain }
  /-- The entry has been published. -/
  | deliver {entry : QueueEntry} {seen : Nat}
      (publishing : scene.drain = ⟨.publishing entry, seen⟩) :
      Turn scene
        { scene with
          queue := scene.queue.complete entry.sequence, drain := ⟨.delivering, seen⟩ }
  /-- The publication has failed. -/
  | fail {entry : QueueEntry} {seen : Nat}
      (publishing : scene.drain = ⟨.publishing entry, seen⟩) :
      Turn scene
        { scene with
          queue := scene.queue.recordFailure
          drain := ⟨.awaitingRetry (scene.around.now + scene.queue.retryDelay), seen⟩ }

/-- The queue and its task as a lane. -/
def lane (scene : Scene) : Lane :=
  ⟨scene.queue, some scene.drain⟩

/-- Whether an act is a turn of the task. -/
def takesTurn (scene : Scene) : SceneAct → Bool
  | .move => (scene.drain.step scene.around scene.queue).isSome
  | .finish _ => scene.lane.publishing?.isSome
  | _ => false

theorem publishing?_eq_some_iff {entry : QueueEntry} :
    scene.lane.publishing? = some entry ↔ scene.drain.phase = .publishing entry := by
  rcases scene with ⟨around, queue, phase, seen⟩
  cases phase <;> simp [lane, Lane.publishing?]

theorem turn_of_takesTurn {act : SceneAct} (takes : scene.takesTurn act = true) :
    Turn scene (scene.act act) := by
  cases act with
  | move =>
      rcases Option.isSome_iff_exists.mp takes with ⟨⟨queue, drain⟩, step⟩
      simp only [Scene.act, step]
      exact .move (Drain.move_of_step step)
  | finish success =>
      rcases Option.isSome_iff_exists.mp takes with ⟨entry, publishing⟩
      rw [publishing?_eq_some_iff] at publishing
      rcases scene with ⟨around, queue, phase, seen⟩
      cases publishing
      cases success with
      | true => exact .deliver rfl
      | false => exact .fail rfl
  | _ => contradiction

/-- An act of the task that is not a turn changes nothing. -/
theorem act_eq_self {act : SceneAct} (task : act.isOfTask = true)
    (idle : scene.takesTurn act = false) : scene.act act = scene := by
  cases act with
  | move =>
      have waits : scene.drain.step scene.around scene.queue = none := by
        simpa [takesTurn] using idle
      simp only [act, waits]
  | finish success =>
      rcases scene with ⟨around, queue, phase, seen⟩
      cases phase <;> first | rfl | contradiction
  | _ => contradiction

/-- An act of the surroundings touches neither the queue nor the task. -/
theorem act_eq_of_surroundings {act : SceneAct} (others : act.isOfTask = false)
    (feeds : act.isEnqueue = false) :
    scene.act act = { scene with around := (scene.act act).around } := by
  cases act <;> first | rfl | contradiction

/-! ## Time -/

theorem later_act_of_surroundings (scene : Scene) {act : SceneAct} (others : act.isOfTask = false) :
    scene.around.Later (scene.act act).around := by
  cases act with
  | announce connected =>
      refine { Surroundings.Later.refl scene.around with changes_le := ?_ }
      simp only [Scene.act, Signal.announce]
      split
      · exact Nat.le_succ _
      · exact Nat.le_refl _
  | advance milliseconds =>
      exact { Surroundings.Later.refl scene.around with now_le := Nat.le_add_right _ _ }
  | requestShutdown =>
      refine { Surroundings.Later.refl scene.around with requested := ?_, released := ?_ } <;>
        simp only [Scene.act, Signal.announce, Signal.released] <;> split <;> simp_all
  | dropShutdown =>
      exact { Surroundings.Later.refl scene.around with released := fun _ => by simp [Scene.act] }
  | move => contradiction
  | finish success => contradiction
  | closeConnection => exact ⟨Nat.le_refl _, Nat.le_refl _, id, id⟩
  | enqueue message => exact Surroundings.Later.refl scene.around

/-- What an act does to a scene. -/
inductive Step (scene : Scene) : Scene → Prop
  | turn {next : Scene} (turn : Turn scene next) : Step scene next
  | enqueue (message : OutboundMessage) :
      Step scene { scene with queue := (scene.queue.enqueue message).2 }
  | surround {around : Surroundings} (later : scene.around.Later around) :
      Step scene { scene with around := around }

/-- An act that feeds nothing into the queue is a turn of the task, or it changes the
surroundings at most. -/
theorem turn_or_surround (scene : Scene) {act : SceneAct} (feeds : act.isEnqueue = false) :
    Turn scene (scene.act act) ∨
      ∃ around, scene.around.Later around ∧ scene.act act = { scene with around := around } := by
  by_cases task : act.isOfTask = true
  · by_cases takes : scene.takesTurn act = true
    · exact .inl (turn_of_takesTurn takes)
    · exact .inr ⟨scene.around, Surroundings.Later.refl scene.around,
        act_eq_self task (by simpa using takes)⟩
  · have others : act.isOfTask = false := by simpa using task
    exact .inr ⟨_, later_act_of_surroundings scene others, act_eq_of_surroundings others feeds⟩

theorem step_act (scene : Scene) (act : SceneAct) : Step scene (scene.act act) := by
  by_cases feeds : act.isEnqueue = true
  · cases act <;> first | exact .enqueue _ | contradiction
  · have idle : act.isEnqueue = false := by simpa using feeds
    rcases turn_or_surround scene idle with turn | ⟨around, later, changed⟩
    · exact .turn turn
    · exact changed ▸ .surround later

/-- What every step preserves holds after every run. -/
theorem run_preserves {Holds : Scene → Prop}
    (preserved : ∀ {scene next : Scene}, Step scene next → Holds scene → Holds next)
    (holds : Holds scene) (acts : List SceneAct) : Holds (scene.run acts) := by
  induction acts generalizing scene with
  | nil => exact holds
  | cons first acts ih => exact ih (preserved (step_act scene first) holds)

theorem Turn.around_eq (turn : Turn scene next) : next.around = scene.around := by
  cases turn <;> rfl

theorem Step.later (step : Step scene next) : scene.around.Later next.around := by
  cases step with
  | turn turn => exact turn.around_eq ▸ Surroundings.Later.refl scene.around
  | enqueue message => exact Surroundings.Later.refl scene.around
  | surround later => exact later

theorem later_run (scene : Scene) (acts : List SceneAct) :
    scene.around.Later (scene.run acts).around := by
  induction acts generalizing scene with
  | nil => exact Surroundings.Later.refl scene.around
  | cons first acts ih => exact (step_act scene first).later.trans (ih _)

/-- The retry delay is laid down with the queue. -/
theorem Step.retryDelay_eq (step : Step scene next) :
    next.queue.retryDelay = scene.queue.retryDelay := by
  cases step with
  | enqueue message => exact DestinationQueue.retryDelay_enqueue _ _
  | surround later => rfl
  | turn turn =>
      cases turn with
      | deliver publishing => exact DestinationQueue.retryDelay_complete _ _
      | fail publishing => rfl
      | move move => rw [move.queue_eq]

theorem retryDelay_run (scene : Scene) (acts : List SceneAct) :
    (scene.run acts).queue.retryDelay = scene.queue.retryDelay := by
  induction acts generalizing scene with
  | nil => rfl
  | cons first acts ih => exact (ih _).trans (step_act scene first).retryDelay_eq

end Scene

end InverterBridge
