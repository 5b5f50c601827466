import InverterBridge.Queue.Outbox
import InverterBridge.Proofs.Queue.Scene
import Mathlib.Data.List.Nodup
import Mathlib.Data.String.Basic

/-!
# Lanes

A lane is a scene in the surroundings that all lanes share, and an outbox finds its lanes by
their topics.  `Lane.scene_perform` says that what happens in a lane happens in its scene, and
`Outbox.lane?_modify` that it happens in no other lane.  What an outbox reports of a message is
what the queue of its topic reports (`Outbox.fst_enqueue`).
-/

namespace InverterBridge

/-! ## A lane as a scene -/

/-- The surroundings after an act of theirs. -/
def Surroundings.after (around : Surroundings) : SceneAct → Surroundings
  | .announce connected =>
      { around with connectivity := around.connectivity.announce connected }
  | .closeConnection => { around with connectivity := around.connectivity.close }
  | .advance milliseconds => { around with now := around.now + milliseconds }
  | .requestShutdown => { around with shutdown := around.shutdown.announce true }
  | .dropShutdown => { around with shutdown := around.shutdown.close }
  | .enqueue _ | .move | .finish _ => around

/-- Whether neither a producer nor the task acts. -/
def SceneAct.isAround (act : SceneAct) : Bool :=
  !act.isOfTask && !act.isEnqueue

/-- The message that a producer brings. -/
def SceneAct.message? : SceneAct → Option OutboundMessage
  | .enqueue message => some message
  | _ => none

theorem Surroundings.after_eq_self (around : Surroundings) {act : SceneAct}
    (inside : act.isAround = false) : around.after act = around := by
  cases act <;> first | rfl | contradiction

namespace DestinationQueue

@[simp]
theorem topic_enqueue (queue : DestinationQueue) (message : OutboundMessage) :
    (queue.enqueue message).2.topic = queue.topic := by
  unfold enqueue
  split <;> rfl

@[simp]
theorem topic_complete (queue : DestinationQueue) (sequence : Nat) :
    (queue.complete sequence).topic = queue.topic := by
  simp only [complete, removeHead]
  split <;> rfl

end DestinationQueue

namespace Scene

variable {scene next : Scene} {topic : String}

/-- The topic of a queue is laid down with it. -/
theorem Step.topic_eq (step : Step scene next) : next.queue.topic = scene.queue.topic := by
  cases step with
  | enqueue message => exact DestinationQueue.topic_enqueue _ _
  | surround later => rfl
  | turn turn =>
      cases turn with
      | deliver publishing => exact DestinationQueue.topic_complete _ _
      | fail publishing => rfl
      | move move => rw [move.queue_eq]

/-- An act of the surroundings changes nothing but them. -/
theorem act_eq_after {act : SceneAct} (outside : act.isAround = true) :
    scene.act act = { scene with around := scene.around.after act } := by
  cases act <;> first | rfl | contradiction

/-- Every queued message and the one that is being published are addressed to a topic. -/
structure AddressedTo (topic : String) (scene : Scene) : Prop where
  queued : ∀ entry ∈ scene.queue.entries, entry.message.topic = topic
  publishing : ∀ entry, scene.drain.phase = .publishing entry → entry.message.topic = topic

theorem addressedTo_initial (other : String) (capacity retryDelay : Nat)
    (around : Surroundings) : AddressedTo topic (initial other capacity retryDelay around) where
  queued := by simp [initial]
  publishing := by simp [initial, Drain.initial]

theorem AddressedTo.turn (addressed : AddressedTo topic scene) (turn : Turn scene next) :
    AddressedTo topic next := by
  cases turn with
  | move move =>
      rw [move.queue_eq]
      exact ⟨addressed.queued, fun entry begins =>
        addressed.queued entry (List.mem_of_head? (move.head?_eq begins))⟩
  | @deliver entry seen publishing =>
      refine ⟨fun queued member => addressed.queued queued ?_, by simp⟩
      simp only [DestinationQueue.entries_complete] at member
      split at member
      · exact List.mem_of_mem_tail member
      · exact member
  | fail publishing => exact ⟨addressed.queued, by simp⟩

theorem AddressedTo.enqueue (addressed : AddressedTo topic scene) {message : OutboundMessage}
    (same : message.topic = topic) : AddressedTo topic (scene.act (.enqueue message)) := by
  refine ⟨fun entry member => ?_, addressed.publishing⟩
  have queued : entry ∈ scene.queue.entries ++ [⟨scene.queue.nextSequence, message⟩] := by
    rw [← DestinationQueue.overflow_append_entries_enqueue]
    exact List.mem_append_right _ member
  rcases List.mem_append.mp queued with before | new
  · exact addressed.queued entry before
  · rw [List.mem_singleton.mp new]
    exact same

/-- Whoever feeds the queue of a topic with its own messages only has no other published. -/
theorem AddressedTo.run (addressed : AddressedTo topic scene) {acts : List SceneAct}
    (fed : ∀ message, .enqueue message ∈ acts → message.topic = topic) :
    AddressedTo topic (scene.run acts) := by
  induction acts generalizing scene with
  | nil => exact addressed
  | cons act acts ih =>
      refine ih ?_ fun message member => fed message (List.mem_cons_of_mem _ member)
      by_cases feeds : act.isEnqueue = true
      · cases act with
        | enqueue message => exact addressed.enqueue (fed message List.mem_cons_self)
        | _ => contradiction
      · have others : act.isEnqueue = false := by simpa using feeds
        rcases turn_or_surround scene others with turn | ⟨around, later, changed⟩
        · exact addressed.turn turn
        · rw [changed]
          exact ⟨addressed.queued, addressed.publishing⟩

end Scene

namespace Lane

variable {lane : Lane}

/-- The scene of a lane; a task that has not been started has not run yet. -/
def scene (lane : Lane) (around : Surroundings) : Scene :=
  ⟨around, lane.queue, lane.drain.getD .initial⟩

theorem scene_start (around : Surroundings) (idle : lane.drain = none) :
    lane.start.scene around = lane.scene around := by
  simp [start, isDraining, idle, scene]

/-- The lane after an act of a producer or of its task. -/
def perform (lane : Lane) (around : Surroundings) : SceneAct → Lane
  | .enqueue message => (lane.enqueue message).2
  | .move => (lane.step around).getD lane
  | .finish success => lane.finish around success
  | _ => lane

/-- Without a task nothing moves. -/
theorem perform_of_idle (around : Surroundings) {act : SceneAct} (task : act.isOfTask = true)
    (idle : lane.drain = none) : lane.perform around act = lane := by
  cases act with
  | move => simp [perform, step, idle]
  | finish success => simp [perform, finish, idle]
  | _ => contradiction

/-- What happens in a lane happens in its scene. -/
theorem scene_perform (around : Surroundings) {act : SceneAct} (inside : act.isAround = false)
    (ready : act.isOfTask = true → lane.drain.isSome = true) :
    (lane.perform around act).scene around = (lane.scene around).act act := by
  cases act with
  | enqueue message => rfl
  | move =>
      rcases lane with ⟨queue, _ | drain⟩
      · exact absurd (ready rfl) (by simp)
      · simp only [perform, step, scene, Scene.act, Option.bind_some, Option.getD_some]
        cases drain.step around queue <;> rfl
  | finish success =>
      rcases lane with ⟨queue, _ | drain⟩
      · exact absurd (ready rfl) (by simp)
      · rfl
  | _ => contradiction

@[simp]
theorem topic_start (lane : Lane) : lane.start.queue.topic = lane.queue.topic := by
  unfold start
  split <;> rfl

@[simp]
theorem topic_perform (lane : Lane) (around : Surroundings) (act : SceneAct) :
    (lane.perform around act).queue.topic = lane.queue.topic := by
  by_cases outside : act.isAround = true
  · cases act <;> first | rfl | contradiction
  · by_cases ready : act.isOfTask = true → lane.drain.isSome = true
    · have same := scene_perform around (by simpa using outside) ready
      exact (congrArg (·.queue.topic) same).trans (Scene.step_act _ act).topic_eq
    · simp only [not_forall, Bool.not_eq_true, Option.isSome_eq_false_iff,
        Option.isNone_iff_eq_none] at ready
      rw [perform_of_idle around ready.1 ready.2]

@[simp]
theorem isSome_start (lane : Lane) : lane.start.drain.isSome = true := by
  unfold start isDraining
  split
  next draining => cases drain : lane.drain <;> simp_all
  next => rfl

@[simp]
theorem isSome_perform (lane : Lane) (around : Surroundings) (act : SceneAct) :
    (lane.perform around act).drain.isSome = lane.drain.isSome := by
  rcases lane with ⟨queue, _ | drain⟩
  · cases act <;> rfl
  · cases act with
    | move =>
        simp only [perform, step, Option.bind_some]
        cases drain.step around queue <;> rfl
    | _ => rfl

theorem scene_after (around : Surroundings) {act : SceneAct} (outside : act.isAround = true) :
    lane.scene (around.after act) = (lane.scene around).act act :=
  (Scene.act_eq_after outside : (lane.scene around).act act = _).symm

end Lane

/-! ## The lanes of an outbox -/

namespace Outbox

variable {outbox : Outbox} {topic other : String} {change : Lane → Lane}

/-- The topics of the lanes, in the order of their first use. -/
def topics (outbox : Outbox) : List String :=
  outbox.lanes.map (·.queue.topic)

/-- The outbox with a lane for a topic, whose task has still to be started. -/
def register (outbox : Outbox) (topic : String) : Outbox :=
  { outbox with lanes := outbox.lanes ++ [{ outbox.newLane topic with drain := none }] }

@[simp]
theorem topics_register (outbox : Outbox) (topic : String) :
    (outbox.register topic).topics = outbox.topics ++ [topic] := by
  simp [topics, register, newLane, DestinationQueue.empty]

theorem isSome_lane?_iff : (outbox.lane? topic).isSome = true ↔ topic ∈ outbox.topics := by
  simp [lane?, topics]

theorem lane?_eq_none_iff : outbox.lane? topic = none ↔ topic ∉ outbox.topics := by
  simp [← isSome_lane?_iff]

theorem topic_of_lane? {lane : Lane} (found : outbox.lane? topic = some lane) :
    lane.queue.topic = topic := by
  simpa using List.find?_some found

theorem lane?_register (absent : topic ∉ outbox.topics) (other : String) :
    (outbox.register topic).lane? other =
      if other = topic then some { outbox.newLane topic with drain := none }
      else outbox.lane? other := by
  split
  next same =>
    subst same
    have none := lane?_eq_none_iff.mpr absent
    simp only [lane?] at none
    simp [lane?, register, none, newLane, DestinationQueue.empty]
  next different =>
    simp [lane?, register, newLane, DestinationQueue.empty, Ne.symm different]

/-- What the outbox does at first use: register the queue and start its task. -/
theorem destination_of_absent (absent : topic ∉ outbox.topics) :
    outbox.destination topic = (outbox.register topic).modify topic Lane.start := by
  have none : outbox.lane? topic = none := lane?_eq_none_iff.mpr absent
  have others : outbox.lanes.map (fun lane =>
      if lane.queue.topic = topic then lane.start else lane) = outbox.lanes := by
    refine (List.map_congr_left fun lane member => if_neg fun same => ?_).trans outbox.lanes.map_id
    exact absent (same ▸ List.mem_map_of_mem member)
  have topic_newLane : (outbox.newLane topic).queue.topic = topic := rfl
  simp only [destination, none, Option.isSome_none, Bool.false_eq_true, if_false, modify,
    register, List.map_append, List.map_singleton, others, topic_newLane, if_true]
  rfl

section Modify

variable (keeps : ∀ lane, (change lane).queue.topic = lane.queue.topic)
include keeps

theorem topics_modify (outbox : Outbox) (topic : String) :
    (outbox.modify topic change).topics = outbox.topics := by
  simp only [topics, modify, List.map_map]
  refine List.map_congr_left fun lane _ => ?_
  simp only [Function.comp]
  split
  · exact keeps lane
  · rfl

theorem lane?_modify (outbox : Outbox) (topic other : String) :
    (outbox.modify topic change).lane? other =
      if other = topic then (outbox.lane? topic).map change else outbox.lane? other := by
  have same : ((fun lane : Lane => lane.queue.topic == other) ∘
      fun lane => if lane.queue.topic = topic then change lane else lane) =
      fun lane => lane.queue.topic == other := by
    funext lane
    simp only [Function.comp]
    split
    · rw [keeps]
    · rfl
  rw [lane?, modify, List.find?_map, same]
  change (outbox.lane? other).map _ = _
  cases found : outbox.lane? other with
  | none =>
      split
      next equal => simp [← equal, found]
      next => rfl
  | some lane =>
      have here := topic_of_lane? found
      split
      next equal => simp [← equal, found, here]
      next different => simp [here, different]

end Modify

/-- A message makes another one go exactly if the queue of its topic is full.  A topic that has
not been used has room. -/
theorem fst_enqueue (outbox : Outbox) (message : OutboundMessage) :
    (outbox.enqueue message).1 = (outbox.lane? message.topic).any (·.queue.isFull) := by
  have reported : (outbox.enqueue message).1 =
      ((outbox.destination message.topic).lane? message.topic).any (·.queue.isFull) := by
    simp [enqueue, Lane.enqueue]
  by_cases used : message.topic ∈ outbox.topics
  · rw [reported, destination, if_pos (isSome_lane?_iff.mpr used)]
  · have none := lane?_eq_none_iff.mpr used
    have room := DestinationQueue.capacity_empty_pos message.topic outbox.config.capacity.toNat
      outbox.config.retryMilliseconds.toNat
    rw [reported, destination_of_absent used, lane?_modify Lane.topic_start, if_pos rfl,
      lane?_register used, if_pos rfl, none]
    simpa [newLane, Lane.start, Lane.isDraining, DestinationQueue.isFull] using room.ne'

theorem lane?_eq_some_iff (distinct : outbox.topics.Nodup) {lane : Lane} :
    outbox.lane? topic = some lane ↔ lane ∈ outbox.lanes ∧ lane.queue.topic = topic := by
  constructor
  · exact fun found => ⟨List.mem_of_find?_eq_some found, topic_of_lane? found⟩
  · rintro ⟨member, rfl⟩
    have used : lane.queue.topic ∈ outbox.topics := List.mem_map_of_mem member
    rcases Option.isSome_iff_exists.mp (isSome_lane?_iff.mpr used) with ⟨first, found⟩
    rw [found, List.inj_on_of_nodup_map distinct (List.mem_of_find?_eq_some found) member
      (topic_of_lane? found)]

/-- What a lane reports. -/
theorem mem_stats_iff (distinct : outbox.topics.Nodup) {stats : QueueStats} :
    (topic, stats) ∈ outbox.stats ↔
      ∃ lane, outbox.lane? topic = some lane ∧ lane.queue.stats = stats := by
  simp only [Outbox.stats, List.mem_mergeSort, List.mem_map, Prod.mk.injEq,
    lane?_eq_some_iff distinct, and_assoc]

/-- Every topic is reported once, in ascending order. -/
theorem stats_sorted (distinct : outbox.topics.Nodup) :
    (outbox.stats.map Prod.fst).Pairwise (· < ·) := by
  have order : ∀ first second : String × QueueStats,
      (!decide (second.1 < first.1)) = true ↔ first.1 ≤ second.1 := fun first second => by
    rw [Bool.not_eq_true', decide_eq_false_iff_not, not_lt]
  have sorted : outbox.stats.Pairwise fun first second => first.1 ≤ second.1 := by
    refine (List.pairwise_mergeSort ?_ ?_ _).imp fun {first second} => (order first second).mp
    · intro first second third le le_next
      rw [order] at le le_next ⊢
      exact le_trans le le_next
    · intro first second
      rw [Bool.or_eq_true, order, order]
      exact le_total _ _
  have reported : (outbox.stats.map Prod.fst).Perm outbox.topics := by
    have same := (List.mergeSort_perm
      (outbox.lanes.map fun lane => (lane.queue.topic, lane.queue.stats))
      fun first second => !decide (second.1 < first.1)).map Prod.fst
    rwa [List.map_map] at same
  have different : (outbox.stats.map Prod.fst).Nodup := reported.nodup_iff.mpr distinct
  exact ((List.pairwise_map.mpr sorted).and different).imp fun both =>
    lt_of_le_of_ne both.1 both.2

end Outbox

end InverterBridge
