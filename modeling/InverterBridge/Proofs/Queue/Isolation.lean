import InverterBridge.Proofs.Queue.Callers

/-!
# Topics are isolated

What happens in the lane of a topic is a run of a `Scene` of its own, whatever happens for other
topics.  `OutboxScene.projected` is the part of an act that concerns a topic, and
`OutboxScene.view_act` says that it is all that happens there; `OutboxScene.topics_are_isolated`
puts the steps together, with the account of the messages and the report of the counters.
-/

namespace InverterBridge

namespace OutboxScene

variable {scene : OutboxScene} {topic other : String}

/-! ## A topic by itself -/

/-- What a topic shows: its lane as a scene, or the one that it would have. -/
def view (scene : OutboxScene) (topic : String) : Scene :=
  ((scene.outbox.lane? topic).getD (scene.outbox.newLane topic)).scene scene.around

/-- The topics whose lanes can take part in an act: the lane is there, and its task has been
started if it is the task that acts. -/
def ready (scene : OutboxScene) (act : SceneAct) : List String :=
  if act.isOfTask then scene.started else scene.used

/-- What an act in the lane of `other` is for a topic. -/
def within (scene : OutboxScene) (topic other : String) (act : SceneAct) : List SceneAct :=
  if other = topic ∧ topic ∈ scene.ready act then [act] else []

/-- The messages that an act puts into a queue, one at most. -/
def posted (scene : OutboxScene) : OutboxAct → List OutboundMessage
  | .produce topic payload => if topic ∈ scene.used then [⟨topic, payload⟩] else []
  | .proceed index => (scene.errands[index]?.map Errand.posts).getD []
  | _ => []

/-- What an act is for a topic by itself. -/
def projected (scene : OutboxScene) (topic : String) : OutboxAct → List SceneAct
  | .move other => scene.within topic other .move
  | .finish other success => scene.within topic other (.finish success)
  | .surround act => if act.isAround then [act] else []
  | act => (scene.posted act).flatMap fun message =>
      scene.within topic message.topic (.enqueue message)

/-- A lane takes part in every act of its topic for which it is ready. -/
theorem Sound.mem_ready_iff (sound : Sound scene) {lane : Lane}
    (found : scene.outbox.lane? topic = some lane) (act : SceneAct) :
    topic ∈ scene.ready act ↔ (act.isOfTask = true → lane.drain.isSome = true) := by
  have used : topic ∈ scene.used := by
    rw [sound.used_iff, ← Outbox.isSome_lane?_iff, found]
    rfl
  rw [ready, sound.running topic lane found]
  split
  next task => simp [task]
  next other => simp [other, used]

/-- Without a lane nothing happens. -/
theorem Sound.not_mem_ready (sound : Sound scene) (absent : scene.outbox.lane? topic = none)
    (act : SceneAct) : topic ∉ scene.ready act := by
  have unused : topic ∉ scene.outbox.topics := Outbox.lane?_eq_none_iff.mp absent
  have none := sound.tasks topic
  rw [List.count_eq_zero_of_not_mem unused] at none
  rw [ready]
  split
  · rw [← List.count_pos_iff]
    omega
  · rwa [sound.used_iff]

theorem view_inLane (sound : Sound scene) (topic other : String) {act : SceneAct}
    (inside : act.isAround = false) :
    (scene.inLane other act).view topic =
      (scene.view topic).run (scene.within topic other act) := by
  rw [view, inLane, Outbox.lane?_modify fun lane => lane.topic_perform _ _]
  by_cases same : topic = other
  · subst same
    rw [if_pos rfl]
    cases found : scene.outbox.lane? topic with
    | none =>
        rw [within, if_neg fun both => sound.not_mem_ready found act both.2, view, found]
        rfl
    | some lane =>
        simp only [within, view, found, true_and, sound.mem_ready_iff found, Option.map_some,
          Option.getD_some]
        split
        next ready => exact Lane.scene_perform scene.around inside ready
        next idle =>
          simp only [not_forall, Bool.not_eq_true, Option.isSome_eq_false_iff,
            Option.isNone_iff_eq_none] at idle
          rw [Lane.perform_of_idle scene.around idle.1 idle.2]
          rfl
  · rw [if_neg same, within, if_neg fun both => same both.1.symm]
    rfl

theorem view_register (absent : topic ∉ scene.outbox.topics) (errands : List Errand)
    (used : List String) (other : String) :
    { scene with
      outbox := scene.outbox.register topic, errands := errands, used := used }.view other =
        scene.view other := by
  rw [view, Outbox.lane?_register absent]
  split
  next same =>
    subst same
    rw [view, Outbox.lane?_eq_none_iff.mpr absent]
    rfl
  next => rfl

theorem view_start {payload : Option String}
    (sound : Sound { scene with errands := .start topic payload :: scene.errands })
    (other : String) : (scene.perform (.start topic payload)).view other = scene.view other := by
  rw [view, perform, Outbox.lane?_modify Lane.topic_start]
  split
  next same =>
    subst same
    cases found : scene.outbox.lane? other with
    | none =>
        rw [view, found]
        rfl
    | some lane =>
        -- There is one queue, so the task that is about to be started is the first one.
        have starting := sound.tasks other
        simp only [List.countP_cons, Errand.starts, beq_self_eq_true, if_true] at starting
        have once : scene.outbox.topics.count other ≤ 1 :=
          List.nodup_iff_count_le_one.mp sound.distinct other
        have unstarted : other ∉ scene.started := by
          rw [← List.count_pos_iff]
          omega
        have idle : lane.drain = none := by
          rwa [← sound.running other lane found, Option.not_isSome_iff_eq_none] at unstarted
        rw [view, found]
        exact Lane.scene_start scene.around idle
  next => rfl

/-- What an act is for a topic by itself is what happens to it. -/
theorem view_act (sound : Sound scene) (topic : String) (act : OutboxAct) :
    (scene.act act).view topic = (scene.view topic).run (scene.projected topic act) := by
  cases act with
  | call other payload => rfl
  | move other => exact view_inLane sound topic other rfl
  | finish other success => exact view_inLane sound topic other rfl
  | surround act =>
      rw [projected]
      split
      next outside => exact Lane.scene_after scene.around outside
      next inside =>
        rw [OutboxScene.act, Surroundings.after_eq_self scene.around (by simpa using inside)]
        rfl
  | produce other payload =>
      rw [OutboxScene.act, view_inLane sound topic other rfl]
      by_cases used : other ∈ scene.used
      · simp [projected, posted, used]
      · have unready : ¬(other = topic ∧ topic ∈ scene.used) := by
          rintro ⟨rfl, present⟩
          exact used present
        simp [projected, posted, used, within, ready, SceneAct.isOfTask, unready]
  | proceed index =>
      simp only [OutboxScene.act, projected, posted]
      cases next : scene.errands[index]? with
      | none => rfl
      | some errand =>
          have proceeding := sound.proceeding next
          simp only [Option.map_some, Option.getD_some]
          cases errand with
          | seek other payload =>
              rw [perform]
              split
              · rfl
              next absent => exact view_register absent _ _ topic
          | start other payload => exact view_start proceeding topic
          | post message =>
              rw [Errand.posts, List.flatMap_singleton]
              exact view_inLane (Sound.dismiss (fun _ => rfl) proceeding) topic message.topic rfl

/-- A message is put into a queue that is there. -/
theorem Sound.used_of_mem_posted (sound : Sound scene) {act : OutboxAct}
    {message : OutboundMessage} (member : message ∈ scene.posted act) :
    message.topic ∈ scene.used := by
  cases act with
  | produce topic payload =>
      simp only [posted] at member
      split at member
      next used => rwa [List.mem_singleton.mp member]
      next => simp at member
  | proceed index =>
      simp only [posted] at member
      cases next : scene.errands[index]? with
      | none => simp [next] at member
      | some errand =>
          cases errand with
          | post other =>
              have same : message = other := by simpa [next, Errand.posts] using member
              rw [same, sound.used_iff]
              exact sound.found other (List.mem_of_getElem? next)
          | _ => simp [next, Errand.posts] at member
  | _ => simp [posted] at member

/-- The queue of a topic is fed what is addressed to it. -/
theorem messages_projected (sound : Sound scene) (topic : String) (act : OutboxAct) :
    (scene.projected topic act).filterMap SceneAct.message? =
      (scene.posted act).filter (·.topic = topic) := by
  have fed : ∀ messages : List OutboundMessage,
      (∀ message ∈ messages, message.topic ∈ scene.used) →
        (messages.flatMap fun message =>
          scene.within topic message.topic (.enqueue message)).filterMap SceneAct.message? =
            messages.filter (·.topic = topic) := by
    intro messages used
    induction messages with
    | nil => rfl
    | cons message messages ih =>
        rw [List.flatMap_cons, List.filterMap_append,
          ih fun other member => used other (List.mem_cons_of_mem _ member)]
        by_cases same : message.topic = topic
        · subst same
          have here := used message List.mem_cons_self
          simp [within, ready, SceneAct.isOfTask, here, SceneAct.message?]
        · simp [within, same]
  cases act with
  | move other =>
      simp only [projected, posted, within]
      split <;> rfl
  | finish other success =>
      simp only [projected, posted, within]
      split <;> rfl
  | surround act => cases act <;> rfl
  | _ => exact fed _ fun message member => sound.used_of_mem_posted member

/-! ## Messages on their way -/

/-- The messages that calls still carry. -/
def pending (scene : OutboxScene) : List OutboundMessage :=
  scene.errands.filterMap Errand.message?

/-- The messages that an act hands over; a producer has got its queue before. -/
def handed (scene : OutboxScene) : OutboxAct → List OutboundMessage
  | .call topic payload => (payload.map fun payload => OutboundMessage.mk topic payload).toList
  | .produce topic payload => scene.posted (.produce topic payload)
  | _ => []

/-- A caller that goes on keeps its message until it puts it into the queue. -/
theorem pending_perform (scene : OutboxScene) (errand : Errand) :
    (errand.message?.toList ++ scene.pending).Perm
      (errand.posts ++ (scene.perform errand).pending) := by
  cases errand with
  | seek topic payload =>
      have kept : (scene.perform (.seek topic payload)).pending =
          scene.pending ++ (Errand.seek topic payload).message?.toList := by
        rw [perform]
        split
        · simp [pending, Errand.message?]
        · cases payload <;> simp [pending, Errand.message?]
      rw [kept]
      exact List.perm_append_comm
  | start topic payload =>
      have kept : (scene.perform (.start topic payload)).pending =
          scene.pending ++ (Errand.start topic payload).message?.toList := by
        simp [perform, pending, Errand.message?]
      rw [kept]
      exact List.perm_append_comm
  | post message => rfl

/-- No message is lost on its way to a queue, and none comes twice. -/
theorem pending_append_handed_perm (scene : OutboxScene) (act : OutboxAct) :
    (scene.pending ++ scene.handed act).Perm (scene.posted act ++ (scene.act act).pending) := by
  cases act with
  | call topic payload =>
      refine List.Perm.of_eq ?_
      cases payload <;> simp [handed, posted, OutboxScene.act, pending, Errand.message?]
  | produce topic payload => exact List.perm_append_comm
  | move topic => simp [handed, posted, OutboxScene.act, pending, inLane]
  | finish topic success => simp [handed, posted, OutboxScene.act, pending, inLane]
  | surround act => simp [handed, posted, OutboxScene.act, pending]
  | proceed index =>
      simp only [handed, posted, OutboxScene.act, List.append_nil]
      cases next : scene.errands[index]? with
      | none => rfl
      | some errand =>
          have apart := (proceeding_perm next).symm.filterMap Errand.message?
          refine (apart.trans ?_).trans (pending_perform _ _)
          rw [List.filterMap_cons]
          cases errand.message? <;> rfl

/-! ## Every run -/

theorem Sound.actAll (sound : Sound scene) (acts : List OutboxAct) :
    Sound (scene.actAll acts) := by
  induction acts generalizing scene with
  | nil => exact sound
  | cons act acts ih => exact ih (sound.act act)

/-- A topic goes through a run of its own. -/
theorem view_actAll (sound : Sound scene) (topic : String) (acts : List OutboxAct) :
    (scene.actAll acts).view topic =
      (scene.view topic).run (scene.along (fun scene => scene.projected topic) acts) := by
  induction acts generalizing scene with
  | nil => rfl
  | cons act acts ih =>
      rw [along, Scene.run_append, ← view_act sound]
      exact ih (sound.act act)

theorem messages_along (sound : Sound scene) (topic : String) (acts : List OutboxAct) :
    (scene.along (fun scene => scene.projected topic) acts).filterMap SceneAct.message? =
      (scene.along posted acts).filter (·.topic = topic) := by
  induction acts generalizing scene with
  | nil => rfl
  | cons act acts ih =>
      rw [along, along, List.filterMap_append, List.filter_append,
        messages_projected sound topic act, ih (sound.act act)]

theorem pending_append_handed_along_perm (scene : OutboxScene) (acts : List OutboxAct) :
    (scene.pending ++ scene.along handed acts).Perm
      (scene.along posted acts ++ (scene.actAll acts).pending) := by
  induction acts generalizing scene with
  | nil => simp [along, actAll]
  | cons act acts ih =>
      rw [along, along, ← List.append_assoc, List.append_assoc (scene.posted act)]
      refine ((pending_append_handed_perm scene act).append_right _).trans ?_
      rw [List.append_assoc]
      exact (ih (scene.act act)).append_left _

/-- No topic is fed or publishes what is addressed to another. -/
theorem addressedTo_view (sink : String) (config : QueueConfig) (around : Surroundings)
    (topic : String) (acts : List OutboxAct) :
    (((initial sink config around).actAll acts).view topic).AddressedTo topic := by
  have sound := sound_initial sink config around
  rw [view_actAll sound]
  refine (Scene.addressedTo_initial topic _ _ around).run fun message member => ?_
  have fed : message ∈ ((initial sink config around).along posted acts).filter
      (·.topic = topic) := by
    rw [← messages_along sound]
    exact List.mem_filterMap.mpr ⟨_, member, rfl⟩
  simpa using (List.mem_filter.mp fed).2

/-- After every list of acts of any number of callers, of the producers, the tasks and the
surroundings they share:

* a topic that has been looked up has one queue, and one task that has been started or that
  the caller who registered the queue is about to start; no other topic has either;
* a topic is where a queue of its own with a task of its own gets by the acts that concern it:
  its messages, the moves of its task, the ends of its publications and the surroundings;
* these messages are those put into queues that are addressed to the topic, in their order,
  and what is put into queues is what calls and producers have handed over, but for what
  calls still carry;
* what the task of a topic publishes is addressed to it;
* the report lists the topics that have been looked up, each once and in ascending order,
  with the counters of their queues. -/
theorem topics_are_isolated (sink : String) (config : QueueConfig) (around : Surroundings)
    (acts : List OutboxAct) :
    let start := initial sink config around
    let scene := start.actAll acts
    (∀ topic, scene.outbox.topics.count topic = (if topic ∈ scene.used then 1 else 0) ∧
        scene.started.count topic + scene.errands.countP (Errand.starts topic) =
          if topic ∈ scene.used then 1 else 0) ∧
      (∀ topic, scene.view topic =
        (Scene.initial topic config.capacity.toNat config.retryMilliseconds.toNat around).run
          (start.along (fun scene => scene.projected topic) acts)) ∧
      (∀ topic, (start.along (fun scene => scene.projected topic) acts).filterMap
          SceneAct.message? = (start.along posted acts).filter (·.topic = topic)) ∧
      (start.along handed acts).Perm (start.along posted acts ++ scene.pending) ∧
      (∀ topic entry, (scene.view topic).drain.phase = .publishing entry →
        entry.message.topic = topic) ∧
      (scene.outbox.stats.map Prod.fst).Pairwise (· < ·) ∧
      ∀ topic stats, (topic, stats) ∈ scene.outbox.stats ↔
        topic ∈ scene.used ∧ stats = (scene.view topic).queue.stats := by
  intro start scene
  have begun : Sound start := sound_initial sink config around
  have sound : Sound scene := begun.actAll acts
  have once : ∀ topic,
      scene.outbox.topics.count topic = if topic ∈ scene.used then 1 else 0 := by
    intro topic
    simp only [sound.used_iff]
    exact sound.distinct.count
  refine ⟨fun topic => ⟨once topic, (sound.tasks topic).trans (once topic)⟩,
    fun topic => view_actAll begun topic acts, fun topic => messages_along begun topic acts,
    pending_append_handed_along_perm start acts,
    fun topic => (addressedTo_view sink config around topic acts).publishing,
    Outbox.stats_sorted sound.distinct, fun topic stats => ?_⟩
  rw [Outbox.mem_stats_iff sound.distinct, sound.used_iff, ← Outbox.isSome_lane?_iff, view]
  cases scene.outbox.lane? topic with
  | none => simp
  | some lane => simp [Lane.scene, eq_comm]

/-! ## A call without interruption -/

theorem act_proceed_last {others : List Errand} {errand : Errand}
    (last : scene.errands = others ++ [errand]) :
    scene.act (.proceed others.length) = { scene with errands := others }.perform errand := by
  simp [OutboxScene.act, last, List.eraseIdx_append_of_length_le]

theorem act_proceed_beyond {index : Nat} (beyond : scene.errands.length ≤ index) :
    scene.act (.proceed index) = scene := by
  simp [OutboxScene.act, beyond]

/-- The last caller has found its queue and puts its message there. -/
theorem outbox_rest {others : List Errand} {payload : Option String}
    (last : scene.errands = others ++ Errand.rest topic payload) :
    (scene.act (.proceed others.length)).outbox =
        (match payload with
          | none => scene.outbox
          | some payload =>
              scene.outbox.modify topic fun lane => (lane.enqueue ⟨topic, payload⟩).2) ∧
      (scene.act (.proceed others.length)).errands = others := by
  cases payload with
  | none =>
      have same : scene.errands = others := by simpa [Errand.rest] using last
      rw [act_proceed_beyond (by simp [same])]
      exact ⟨rfl, same⟩
  | some payload =>
      rw [act_proceed_last last]
      exact ⟨rfl, rfl⟩

/-- A call that no other act interrupts comes to what the outbox does at once. -/
theorem outbox_call_uninterrupted (scene : OutboxScene) (topic : String)
    (payload : Option String) :
    let next := OutboxAct.proceed scene.errands.length
    (scene.actAll [.call topic payload, next, next, next]).outbox =
      match payload with
      | none => scene.outbox.destination topic
      | some payload => (scene.outbox.enqueue ⟨topic, payload⟩).2 := by
  intro next
  simp only [actAll, List.foldl_cons, List.foldl_nil]
  have sought : (scene.act (.call topic payload)).act next = scene.perform (.seek topic payload) :=
    act_proceed_last rfl
  rw [sought, perform]
  split
  next present =>
    have there : scene.outbox.destination topic = scene.outbox :=
      if_pos (Outbox.isSome_lane?_iff.mpr present)
    let found : OutboxScene :=
      { scene with
        errands := scene.errands ++ Errand.rest topic payload
        used := scene.used ++ [topic] }
    have carried : found.errands = scene.errands ++ Errand.rest topic payload := rfl
    have put := outbox_rest carried
    rw [act_proceed_beyond (le_of_eq (congrArg List.length put.2)), put.1]
    cases payload with
    | none => exact there.symm
    | some payload => simp only [Outbox.enqueue, there, found]
  next absent =>
    let registered : OutboxScene :=
      { scene with
        outbox := scene.outbox.register topic
        errands := scene.errands ++ [.start topic payload]
        used := scene.used ++ [topic] }
    have carried : registered.errands = scene.errands ++ [.start topic payload] := rfl
    have new := Outbox.destination_of_absent absent
    rw [act_proceed_last carried]
    refine (outbox_rest rfl).1.trans ?_
    cases payload with
    | none => exact new.symm
    | some payload => simp only [Outbox.enqueue, new, perform, registered]

end OutboxScene

end InverterBridge
