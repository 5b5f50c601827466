import InverterBridge.Proofs.Queue.Lanes
import Mathlib.Data.List.Count
import Mathlib.Data.List.Perm.Basic

/-!
# The callers of an outbox

The callers of an outbox, the producers and the drain tasks run at the same time.  A call looks
up the queue of its topic under a lock and registers it at first use; what follows, the start
of the task and the message, happens outside the lock, and other calls may come between.
`OutboxScene` keeps what every caller has still to do, so an interleaving is a list of acts.
The invariant `OutboxScene.Sound` counts queues and tasks.
-/

namespace InverterBridge

/-! ## Callers and tasks -/

/-- What a caller of an outbox has still to do. -/
inductive Errand where
  /-- Look up the queue of a topic, and then put a payload there if there is one. -/
  | seek (topic : String) (payload : Option String)
  /-- Start the task of a queue that has just been registered. -/
  | start (topic : String) (payload : Option String)
  /-- Put a message into the queue that has been found. -/
  | post (message : OutboundMessage)
  deriving DecidableEq

namespace Errand

/-- What remains once the queue of a topic has been found. -/
def rest (topic : String) (payload : Option String) : List Errand :=
  (payload.map fun payload => .post ⟨topic, payload⟩).toList

/-- The message that is carried. -/
def message? : Errand → Option OutboundMessage
  | .seek topic payload | .start topic payload => payload.map fun payload => ⟨topic, payload⟩
  | .post message => some message

/-- The message that is put into its queue next. -/
def posts : Errand → List OutboundMessage
  | .post message => [message]
  | _ => []

/-- Whether the task of a topic is to be started. -/
def starts (topic : String) : Errand → Bool
  | .start other _ => other == topic
  | _ => false

@[simp]
theorem filterMap_message?_rest (topic : String) (payload : Option String) :
    (rest topic payload).filterMap message? =
      (payload.map fun payload => OutboundMessage.mk topic payload).toList := by
  cases payload <;> rfl

@[simp]
theorem countP_starts_rest (topic other : String) (payload : Option String) :
    (rest other payload).countP (starts topic) = 0 := by
  cases payload <;> rfl

@[simp]
theorem post_mem_rest_iff {topic : String} {payload : Option String}
    {message : OutboundMessage} :
    .post message ∈ rest topic payload ↔
      ∃ text, payload = some text ∧ message = ⟨topic, text⟩ := by
  cases payload <;> simp [rest]

end Errand

/-- An outbox with everything around it. -/
structure OutboxScene where
  around : Surroundings
  outbox : Outbox
  /-- What the calls that have not returned have still to do. -/
  errands : List Errand
  /-- The topics that have been looked up, in the order of time. -/
  used : List String
  /-- The topics whose task has been started, once for every task. -/
  started : List String

/-- Something that happens to an outbox. -/
inductive OutboxAct where
  /-- A caller asks for the queue of a topic, to put a payload there if there is one. -/
  | call (topic : String) (payload : Option String)
  /-- A producer of a topic hands over a payload. -/
  | produce (topic payload : String)
  /-- A caller goes on. -/
  | proceed (index : Nat)
  /-- One move of the task of a topic, if it does not have to wait. -/
  | move (topic : String)
  /-- The end of the publication under way for a topic, if there is one. -/
  | finish (topic : String) (success : Bool)
  /-- An act of the surroundings, which all tasks share. -/
  | surround (act : SceneAct)

namespace OutboxScene

variable {scene : OutboxScene} {topic other : String}

/-- An outbox that has not been used. -/
def initial (sink : String) (config : QueueConfig) (around : Surroundings) : OutboxScene :=
  ⟨around, ⟨sink, config, []⟩, [], [], []⟩

/-- Something happens in the lane of a topic, if there is one. -/
def inLane (scene : OutboxScene) (topic : String) (act : SceneAct) : OutboxScene :=
  { scene with outbox := scene.outbox.modify topic (·.perform scene.around act) }

/-- A caller does what it has to do next. -/
def perform (scene : OutboxScene) : Errand → OutboxScene
  | .seek topic payload =>
      if topic ∈ scene.outbox.topics then
        { scene with
          errands := scene.errands ++ Errand.rest topic payload
          used := scene.used ++ [topic] }
      else
        { scene with
          outbox := scene.outbox.register topic
          errands := scene.errands ++ [.start topic payload]
          used := scene.used ++ [topic] }
  | .start topic payload =>
      { scene with
        outbox := scene.outbox.modify topic Lane.start
        errands := scene.errands ++ Errand.rest topic payload
        started := scene.started ++ [topic] }
  | .post message => scene.inLane message.topic (.enqueue message)

/-- Apply an act.  What cannot happen now does not happen. -/
def act (scene : OutboxScene) : OutboxAct → OutboxScene
  | .call topic payload => { scene with errands := scene.errands ++ [.seek topic payload] }
  | .produce topic payload => scene.inLane topic (.enqueue ⟨topic, payload⟩)
  | .proceed index =>
      match scene.errands[index]? with
      | none => scene
      | some errand => { scene with errands := scene.errands.eraseIdx index }.perform errand
  | .move topic => scene.inLane topic .move
  | .finish topic success => scene.inLane topic (.finish success)
  | .surround act => { scene with around := scene.around.after act }

/-- Apply acts in order. -/
def actAll (scene : OutboxScene) (acts : List OutboxAct) : OutboxScene :=
  acts.foldl act scene

/-- What is seen of acts, one after the other. -/
def along {Item : Type} (scene : OutboxScene) (seen : OutboxScene → OutboxAct → List Item) :
    List OutboxAct → List Item
  | [] => []
  | act :: acts => seen scene act ++ (scene.act act).along seen acts

/-! ## One queue and one task for a topic -/

/-- What is known of the queues and the tasks at all times. -/
structure Sound (scene : OutboxScene) : Prop where
  distinct : scene.outbox.topics.Nodup
  used_iff : ∀ topic, topic ∈ scene.used ↔ topic ∈ scene.outbox.topics
  /-- A message is put into a queue that has been found. -/
  found : ∀ message, .post message ∈ scene.errands → message.topic ∈ scene.outbox.topics
  /-- The task of every queue has been started, or its first caller is about to do so. -/
  tasks : ∀ topic, scene.started.count topic + scene.errands.countP (Errand.starts topic) =
    scene.outbox.topics.count topic
  running : ∀ topic lane, scene.outbox.lane? topic = some lane →
    (lane.drain.isSome = true ↔ topic ∈ scene.started)

theorem sound_initial (sink : String) (config : QueueConfig) (around : Surroundings) :
    Sound (initial sink config around) where
  distinct := List.nodup_nil
  used_iff := by simp [initial, Outbox.topics]
  found := by simp [initial]
  tasks := by simp [initial, Outbox.topics]
  running := by simp [initial, Outbox.lane?]

/-- The order in which the callers wait does not matter. -/
theorem Sound.of_perm (sound : Sound scene) {errands : List Errand}
    (same : errands.Perm scene.errands) : Sound { scene with errands := errands } where
  distinct := sound.distinct
  used_iff := sound.used_iff
  found := fun message member => sound.found message (same.mem_iff.mp member)
  tasks := fun topic => by rw [same.countP_eq]; exact sound.tasks topic
  running := sound.running

theorem Sound.inLane (sound : Sound scene) (topic : String) (act : SceneAct) :
    Sound (scene.inLane topic act) := by
  have topics : (scene.inLane topic act).outbox.topics = scene.outbox.topics :=
    Outbox.topics_modify (fun lane => lane.topic_perform _ _) _ _
  constructor
  · rw [topics]
    exact sound.distinct
  · rw [topics]
    exact sound.used_iff
  · rw [topics]
    exact sound.found
  · rw [topics]
    exact sound.tasks
  · intro other lane found
    rw [OutboxScene.inLane, Outbox.lane?_modify fun lane => lane.topic_perform _ _] at found
    split at found
    next same =>
      subst same
      rcases Option.map_eq_some_iff.mp found with ⟨before, here, rfl⟩
      rw [Lane.isSome_perform]
      exact sound.running other before here
    next => exact sound.running other lane found

/-- A new queue, and a caller that will start its task. -/
theorem Sound.register (sound : Sound scene) (absent : topic ∉ scene.outbox.topics)
    (payload : Option String) :
    Sound { scene with
      outbox := scene.outbox.register topic
      errands := scene.errands ++ [.start topic payload]
      used := scene.used ++ [topic] } where
  distinct := by
    simpa using sound.distinct.concat absent
  used_iff := by simp [sound.used_iff]
  found := by
    intro message member
    have before : .post message ∈ scene.errands := by simpa using member
    simp [sound.found message before]
  tasks := by
    intro other
    have := sound.tasks other
    simp [Errand.starts, List.count_cons, List.countP_cons]
    omega
  running := by
    intro other lane found
    rw [Outbox.lane?_register absent] at found
    split at found
    next same =>
      subst same
      cases found
      have none := sound.tasks other
      rw [List.count_eq_zero_of_not_mem absent] at none
      simp [← List.count_pos_iff]
      omega
    next => exact sound.running other lane found

/-- A caller that has no task to start may go. -/
theorem Sound.dismiss {errand : Errand} (idle : ∀ topic, errand.starts topic = false)
    (sound : Sound { scene with errands := errand :: scene.errands }) : Sound scene where
  distinct := sound.distinct
  used_iff := sound.used_iff
  found := fun message member => sound.found message (List.mem_cons_of_mem _ member)
  tasks := fun topic => by simpa [idle topic] using sound.tasks topic
  running := sound.running

/-- A queue that is there already has been found. -/
theorem Sound.find (sound : Sound scene) (present : topic ∈ scene.outbox.topics)
    (payload : Option String) :
    Sound { scene with
      errands := scene.errands ++ Errand.rest topic payload
      used := scene.used ++ [topic] } where
  distinct := sound.distinct
  used_iff := fun other => by
    rw [List.mem_append, sound.used_iff, List.mem_singleton, or_iff_left_iff_imp]
    exact fun same => same ▸ present
  found := by
    intro message member
    rcases List.mem_append.mp member with before | rest
    · exact sound.found message before
    · rcases Errand.post_mem_rest_iff.mp rest with ⟨text, -, rfl⟩
      exact present
  tasks := fun other => by simpa using sound.tasks other
  running := sound.running

/-- The task of a new queue has been started. -/
theorem Sound.start {payload : Option String}
    (sound : Sound { scene with errands := .start topic payload :: scene.errands }) :
    Sound (scene.perform (.start topic payload)) := by
  have topics : (scene.outbox.modify topic Lane.start).topics = scene.outbox.topics :=
    Outbox.topics_modify Lane.topic_start _ _
  -- The caller that starts the task counts as one, so there is a queue for it.
  have present : topic ∈ scene.outbox.topics := by
    have starting := sound.tasks topic
    simp only [List.countP_cons, Errand.starts, beq_self_eq_true, if_true] at starting
    exact List.count_pos_iff.mp (by omega)
  constructor
  · rw [OutboxScene.perform, topics]
    exact sound.distinct
  · rw [OutboxScene.perform, topics]
    exact sound.used_iff
  · rw [OutboxScene.perform, topics]
    intro message member
    rcases List.mem_append.mp member with before | rest
    · exact sound.found message (List.mem_cons_of_mem _ before)
    · rcases Errand.post_mem_rest_iff.mp rest with ⟨text, -, rfl⟩
      exact present
  · intro other
    have before := sound.tasks other
    simp only [List.countP_cons, Errand.starts, beq_iff_eq] at before
    simp only [OutboxScene.perform, topics, List.count_append, List.count_singleton,
      List.countP_append, Errand.countP_starts_rest, beq_iff_eq]
    omega
  · intro other lane found
    rw [OutboxScene.perform, Outbox.lane?_modify Lane.topic_start] at found
    simp only [OutboxScene.perform, List.mem_append, List.mem_singleton]
    split at found
    next same =>
      rcases Option.map_eq_some_iff.mp found with ⟨before, -, rfl⟩
      simp [same]
    next different =>
      simpa [different] using sound.running other lane found

theorem Sound.perform {errand : Errand}
    (sound : Sound { scene with errands := errand :: scene.errands }) :
    Sound (scene.perform errand) := by
  cases errand with
  | seek topic payload =>
      have others : Sound scene := sound.dismiss fun _ => rfl
      rw [OutboxScene.perform]
      split
      next present => exact others.find present payload
      next absent => exact others.register absent payload
  | start topic payload => exact sound.start
  | post message => exact (sound.dismiss fun _ => rfl).inLane _ _

/-- A caller that goes on is the first one as well as any other. -/
theorem proceeding_perm {index : Nat} {errand : Errand}
    (next : scene.errands[index]? = some errand) :
    (errand :: scene.errands.eraseIdx index).Perm scene.errands := by
  rcases List.getElem?_eq_some_iff.mp next with ⟨bound, rfl⟩
  exact List.getElem_cons_eraseIdx_perm bound

theorem Sound.proceeding (sound : Sound scene) {index : Nat} {errand : Errand}
    (next : scene.errands[index]? = some errand) :
    Sound { scene with errands := errand :: scene.errands.eraseIdx index } :=
  sound.of_perm (proceeding_perm next)

/-- Every act is sound. -/
theorem Sound.act (sound : Sound scene) (act : OutboxAct) : Sound (scene.act act) := by
  cases act with
  | call topic payload =>
      refine ⟨sound.distinct, sound.used_iff, fun message member => ?_, fun other => ?_,
        sound.running⟩
      · exact sound.found message (by simpa [OutboxScene.act] using member)
      · simpa [OutboxScene.act, Errand.starts] using sound.tasks other
  | produce topic payload => exact sound.inLane _ _
  | proceed index =>
      rw [OutboxScene.act]
      split
      · exact sound
      next errand next => exact Sound.perform (sound.proceeding next)
  | move topic => exact sound.inLane _ _
  | finish topic success => exact sound.inLane _ _
  | surround act =>
      exact ⟨sound.distinct, sound.used_iff, sound.found, sound.tasks, sound.running⟩

end OutboxScene

end InverterBridge
