import InverterBridge.Proofs.Queue.Scene
import Mathlib.Data.List.Nodup

/-!
# When a publication may begin

A drain task begins to publish only the oldest message, while the sink is
connected and before shutdown has been requested.  After a failure it holds
back until the connection has been updated or the retry delay has passed:
`Scene.HeldBack` is the invariant between the failure and the next attempt.

Once shutdown has been requested nothing begins any more.  What is queued then
stays queued, with two exceptions: a message that is being published leaves the
queue when its publication succeeds, and new messages push out old ones when
the queue is full.
-/

namespace InverterBridge

namespace Scene

variable {scene next : Scene} {entry queued : QueueEntry}

/-- With its next move the task begins to publish an entry. -/
def Begins (scene : Scene) (entry : QueueEntry) : Prop :=
  ∃ queue drain, scene.drain.step scene.around scene.queue = some (queue, drain) ∧
    drain.phase = .publishing entry

/-- A publication begins with the oldest entry, from the phase in which the
task delivers, and only if nothing forbids it. -/
theorem Begins.permitted (begins : scene.Begins entry) :
    scene.drain.phase = .delivering ∧ Drain.mayPublish scene.around = true ∧
      scene.queue.head? = some entry := by
  rcases begins with ⟨queue, drain, step, publishing⟩
  rcases scene with ⟨around, before, phase, seen⟩
  cases Drain.move_of_step step with
  | publish oldest may =>
      cases publishing
      exact ⟨rfl, may, oldest⟩
  | _ => contradiction

theorem Begins.running (begins : scene.Begins entry) :
    scene.around.connectivity.value = true ∧ scene.around.shutdown.value = false := by
  have may := begins.permitted.2.1
  simp only [Drain.mayPublish, Bool.and_eq_true, Bool.not_eq_true'] at may
  exact ⟨may.2, may.1⟩

/-! ## After a failure -/

/-- The task does not know of updates that have not been made. -/
def Informed (scene : Scene) : Prop :=
  scene.drain.seen ≤ scene.around.connectivity.changes

theorem informed_initial (topic : String) (capacity retryDelay : Nat) (around : Surroundings) :
    Informed (initial topic capacity retryDelay around) :=
  Nat.zero_le _

theorem Informed.step (informed : Informed scene) (step : Step scene next) : Informed next := by
  cases step with
  | enqueue message => exact informed
  | surround later => exact Nat.le_trans informed later.changes_le
  | turn turn =>
      cases turn with
      | deliver publishing =>
          unfold Informed at informed
          rwa [publishing] at informed
      | fail publishing =>
          unfold Informed at informed
          rwa [publishing] at informed
      | move move =>
          rcases scene with ⟨around, queue, drain⟩
          cases move <;> first | exact informed | exact Nat.le_refl _

/-- The connection has been updated since the task knew of `seen` updates, or
the instant `due` has come, or else the task does not publish: it waits for
one of the two, or it has stopped. -/
inductive HeldBack (seen due : Nat) (scene : Scene) : Prop
  | updated (news : seen < scene.around.connectivity.changes)
  | elapsed (come : due ≤ scene.around.now)
  | waiting (waits : scene.drain = ⟨.awaitingRetry due, seen⟩)
  | stopped (ended : scene.drain.phase = .stopped)

theorem heldBack_of_failure (publishing : scene.drain.phase = .publishing entry) :
    HeldBack scene.drain.seen (scene.around.now + scene.queue.retryDelay)
      (scene.act (.finish false)) := by
  rcases scene with ⟨around, queue, phase, seen⟩
  cases publishing
  exact .waiting rfl

theorem HeldBack.step {seen due : Nat} (held : HeldBack seen due scene)
    (informed : Informed scene) (step : Step scene next) : HeldBack seen due next := by
  cases held with
  | updated news => exact .updated (Nat.lt_of_lt_of_le news step.later.changes_le)
  | elapsed come => exact .elapsed (Nat.le_trans come step.later.now_le)
  | waiting waits =>
      rcases scene with ⟨around, queue, drain⟩
      cases waits
      cases step with
      | enqueue message => exact .waiting rfl
      | surround later => exact .waiting rfl
      | turn turn =>
          cases turn with
          | deliver publishing => cases publishing
          | fail publishing => cases publishing
          | move move =>
              cases move with
              | leaveRetry released => exact .stopped rfl
              | hear held news => exact .updated (Nat.lt_of_le_of_ne informed (Ne.symm news))
              | loseRetry held silent gone => exact .stopped rfl
              | retry held silent live elapsed => exact .elapsed elapsed
  | stopped ended =>
      rcases scene with ⟨around, queue, phase, seen⟩
      cases ended
      cases step with
      | enqueue message => exact .stopped rfl
      | surround later => exact .stopped rfl
      | turn turn =>
          cases turn with
          | deliver publishing => cases publishing
          | fail publishing => cases publishing
          | move move => cases move

/-- From a failure on the task holds back. -/
theorem heldBack_run {seen due : Nat} (held : HeldBack seen due scene)
    (informed : Informed scene) (acts : List SceneAct) : HeldBack seen due (scene.run acts) := by
  induction acts generalizing scene with
  | nil => exact held
  | cons first acts ih =>
      have step := step_act scene first
      exact ih (held.step informed step) (informed.step step)

/-- A task that holds back begins nothing. -/
theorem HeldBack.released {seen due : Nat} (held : HeldBack seen due scene)
    (begins : scene.Begins entry) :
    seen < scene.around.connectivity.changes ∨ due ≤ scene.around.now := by
  have delivering := begins.permitted.1
  cases held with
  | updated news => exact .inl news
  | elapsed come => exact .inr come
  | waiting waits =>
      rw [waits] at delivering
      contradiction
  | stopped ended =>
      rw [ended] at delivering
      contradiction

/-! ## After a request for shutdown -/

/-- The scene belongs to a sound record of traffic. -/
def Recorded (scene : Scene) : Prop :=
  ∃ traffic settled, traffic.lane = scene.lane ∧ Traffic.Sound traffic settled

theorem recorded_initial (topic : String) (capacity retryDelay : Nat) (around : Surroundings) :
    Recorded (initial topic capacity retryDelay around) :=
  ⟨_, [], rfl, (Traffic.sound_initial topic capacity retryDelay).start⟩

theorem Recorded.step (recorded : Recorded scene) (step : Step scene next) : Recorded next := by
  rcases recorded with ⟨traffic, settled, lane, sound⟩
  -- every step but one of the surroundings is an act of the lane
  have recordedAct (act : LaneAct) (moved : (traffic.act act).lane = next.lane) :
      Recorded next := by
    rcases sound.act act with ⟨settled, sound⟩
    exact ⟨_, settled, moved, sound⟩
  cases step with
  | enqueue message =>
      exact recordedAct (.enqueue message) (by simp only [Traffic.act, lane]; rfl)
  | surround later => exact ⟨traffic, settled, lane, sound⟩
  | turn turn =>
      rcases scene with ⟨around, queue, drain⟩
      cases turn with
      | move move =>
          apply recordedAct (.move around)
          simp only [Traffic.act, lane, Lane.step, Scene.lane, Option.bind_some, move.step]
          rfl
      | deliver publishing =>
          cases publishing
          exact recordedAct (.finish around true) (by simp only [Traffic.act, lane]; rfl)
      | fail publishing =>
          cases publishing
          exact recordedAct (.finish around false) (by simp only [Traffic.act, lane]; rfl)

/-- A queued entry with the number of the entry in flight is that entry. -/
theorem Recorded.eq_of_sequence_eq (recorded : Recorded scene)
    (publishing : scene.drain.phase = .publishing entry) (member : queued ∈ scene.queue.entries)
    (same : queued.sequence = entry.sequence) : queued = entry := by
  rcases recorded with ⟨traffic, settled, lane, sound⟩
  have inFlight : entry ∈ traffic.accepted :=
    sound.mem_accepted (.inr (by rw [lane]; exact publishing?_eq_some_iff.mpr publishing))
  have inQueue : queued ∈ traffic.accepted := sound.mem_accepted (.inl (by rwa [lane]))
  exact List.inj_on_of_nodup_map sound.nodup_sequence inQueue inFlight same

/-- A delivery takes no other entry out of the queue than the one in flight. -/
theorem Recorded.mem_entries_complete (recorded : Recorded scene)
    (publishing : scene.drain.phase = .publishing entry) (member : queued ∈ scene.queue.entries)
    (other : queued ≠ entry) : queued ∈ (scene.queue.complete entry.sequence).entries := by
  rw [DestinationQueue.entries_complete]
  split
  · next head =>
      simp only [DestinationQueue.isHead, DestinationQueue.head?, Option.any_eq_true,
        List.head?_eq_some_iff] at head
      rcases head with ⟨oldest, ⟨rest, entries⟩, same⟩
      have isEntry : oldest = entry :=
        recorded.eq_of_sequence_eq publishing (by simp [entries]) (beq_iff_eq.mp same)
      rw [entries, isEntry] at member
      rw [entries]
      exact (List.mem_cons.mp member).resolve_left other
  · exact member

/-- The entries that make room for others while acts are applied. -/
def evicted : Scene → List SceneAct → List QueueEntry
  | _, [] => []
  | scene, .enqueue message :: acts =>
      scene.queue.overflow ++ (scene.act (.enqueue message)).evicted acts
  | scene, first :: acts => (scene.act first).evicted acts

/-- The entries whose publication ends with success while acts are applied. -/
def published : Scene → List SceneAct → List QueueEntry
  | _, [] => []
  | scene, .finish true :: acts =>
      scene.lane.publishing?.toList ++ (scene.act (.finish true)).published acts
  | scene, first :: acts => (scene.act first).published acts

theorem evicted_cons (scene : Scene) (first : SceneAct) (acts : List SceneAct) :
    scene.evicted (first :: acts) = scene.evicted [first] ++ (scene.act first).evicted acts := by
  cases first <;> simp [evicted]

theorem published_cons (scene : Scene) (first : SceneAct) (acts : List SceneAct) :
    scene.published (first :: acts) =
      scene.published [first] ++ (scene.act first).published acts := by
  cases first with
  | finish success => cases success <;> simp [published]
  | _ => simp [published]

theorem entries_move (scene : Scene) : (scene.act .move).queue.entries = scene.queue.entries := by
  simp only [act]
  cases step : scene.drain.step scene.around scene.queue with
  | none => rfl
  | some moved =>
      simp only
      rw [(Drain.move_of_step step).queue_eq]

/-- An entry leaves the queue by making room for another or by being published. -/
theorem Recorded.mem_entries_act (recorded : Recorded scene) (member : queued ∈ scene.queue.entries)
    (act : SceneAct) :
    queued ∈ (scene.act act).queue.entries ∨ queued ∈ scene.evicted [act] ∨
      queued ∈ scene.published [act] := by
  cases act with
  | enqueue message =>
      have either : queued ∈ scene.queue.overflow ++ (scene.queue.enqueue message).2.entries := by
        rw [DestinationQueue.overflow_append_entries_enqueue]
        exact List.mem_append_left _ member
      rcases List.mem_append.mp either with pushed | kept
      · exact .inr (.inl (List.mem_append_left _ pushed))
      · exact .inl kept
  | move => exact .inl (by rwa [entries_move])
  | finish success =>
      rcases scene with ⟨around, queue, phase, seen⟩
      cases phase with
      | publishing entry =>
          cases success with
          | false => exact .inl member
          | true =>
              by_cases same : queued = entry
              · exact .inr (.inr (by simp [published, lane, Lane.publishing?, same]))
              · exact .inl (recorded.mem_entries_complete rfl member same)
      | _ => exact .inl member
  | _ => exact .inl member

theorem Recorded.mem_entries_run (recorded : Recorded scene) (member : queued ∈ scene.queue.entries)
    (acts : List SceneAct) :
    queued ∈ (scene.run acts).queue.entries ∨ queued ∈ scene.evicted acts ∨
      queued ∈ scene.published acts := by
  induction acts generalizing scene with
  | nil => exact .inl member
  | cons first acts ih =>
      rw [run_cons, evicted_cons, published_cons, List.mem_append, List.mem_append]
      rcases recorded.mem_entries_act member first with stays | pushed | published
      · rcases ih (recorded.step (step_act scene first)) stays with queued | pushed | published
        · exact .inl queued
        · exact .inr (.inl (.inr pushed))
        · exact .inr (.inr (.inr published))
      · exact .inr (.inl (.inl pushed))
      · exact .inr (.inr (.inl published))

/-- After a request for shutdown nothing takes off: what is in flight was so before. -/
theorem Step.publishing_of_shutdown (step : Step scene next)
    (shutdown : scene.around.shutdown.value = true)
    (publishing : next.drain.phase = .publishing entry) :
    scene.drain.phase = .publishing entry := by
  cases step with
  | enqueue message => exact publishing
  | surround later => exact publishing
  | turn turn =>
      cases turn with
      | deliver landing => contradiction
      | fail landing => contradiction
      | move move =>
          have begins : Begins scene entry := ⟨_, _, move.step, publishing⟩
          exact absurd shutdown (by rw [begins.running.2]; exact Bool.false_ne_true)

/-- After a request for shutdown only the publication under way can end with success. -/
theorem publishing_of_mem_published (shutdown : scene.around.shutdown.value = true)
    (acts : List SceneAct) (member : entry ∈ scene.published acts) :
    scene.drain.phase = .publishing entry := by
  induction acts generalizing scene with
  | nil => contradiction
  | cons first acts ih =>
      have step := step_act scene first
      rw [published_cons, List.mem_append] at member
      rcases member with now | later
      · cases first with
        | finish success =>
            cases success with
            | false => contradiction
            | true =>
                rw [published, published, List.append_nil, Option.mem_toList] at now
                exact publishing?_eq_some_iff.mp now
        | _ => contradiction
      · exact step.publishing_of_shutdown shutdown (ih (step.later.requested shutdown) later)

/-! ## Every history -/

/-- A publication only begins with the oldest message, while the sink is
connected and before shutdown has been requested.  After a failure none begins
before the connection has been updated once more or the retry delay has
passed.  After a request for shutdown none begins at all, and a queued message
stays queued unless it has to make room for a new one or its publication was
under way and succeeds. -/
theorem publications_begin_with_permission (topic : String) (capacity retryDelay : Nat)
    (around : Surroundings) (history : List SceneAct) :
    let scene := (initial topic capacity retryDelay around).run history
    (∀ entry, scene.Begins entry →
      scene.around.connectivity.value = true ∧ scene.around.shutdown.value = false ∧
        scene.queue.head? = some entry) ∧
    (∀ failed, scene.drain.phase = .publishing failed → ∀ acts entry,
      let later := (scene.act (.finish false)).run acts
      later.Begins entry →
        scene.drain.seen < later.around.connectivity.changes ∨
          scene.around.now + retryDelay ≤ later.around.now) ∧
    (scene.around.shutdown.value = true → ∀ acts,
      let later := scene.run acts
      (∀ entry, ¬ later.Begins entry) ∧
        ∀ queued ∈ scene.queue.entries,
          queued ∈ later.queue.entries ∨ queued ∈ scene.evicted acts ∨
            scene.drain.phase = .publishing queued ∧ queued ∈ scene.published acts) := by
  intro scene
  have recorded : Recorded scene :=
    run_preserves (fun step holds => holds.step step)
      (recorded_initial topic capacity retryDelay around) history
  have informed : Informed scene :=
    run_preserves (fun step holds => holds.step step)
      (informed_initial topic capacity retryDelay around) history
  have delay : scene.queue.retryDelay = retryDelay := retryDelay_run _ history
  refine ⟨?_, ?_, ?_⟩
  · intro entry begins
    exact ⟨begins.running.1, begins.running.2, begins.permitted.2.2⟩
  · intro failed publishing acts entry later begins
    have held := delay ▸ heldBack_of_failure publishing
    have step := step_act scene (.finish false)
    exact (heldBack_run held (informed.step step) acts).released begins
  · intro shutdown acts later
    constructor
    · intro entry begins
      have requested := (later_run scene acts).requested shutdown
      exact absurd requested (by rw [begins.running.2]; exact Bool.false_ne_true)
    · intro queued member
      rcases recorded.mem_entries_run member acts with stays | pushed | published
      · exact .inl stays
      · exact .inr (.inl pushed)
      · exact .inr (.inr ⟨publishing_of_mem_published shutdown acts published, published⟩)

/-- Not every message that is queued when shutdown is requested stays queued:
the publication under way may still succeed, and a full queue still makes room. -/
theorem queued_messages_leave_after_shutdown :
    let scene := initial "values" 1 100 ⟨.ofValue true, .ofValue false, 0⟩
    let first : QueueEntry := ⟨0, ⟨"values", "a"⟩⟩
    let flying := scene.run [.enqueue ⟨"values", "a"⟩, .move, .move, .move, .requestShutdown]
    let full := scene.run [.enqueue ⟨"values", "a"⟩, .requestShutdown]
    (flying.around.shutdown.value = true ∧ first ∈ flying.queue.entries ∧
      first ∉ (flying.act (.finish true)).queue.entries) ∧
    (full.around.shutdown.value = true ∧ first ∈ full.queue.entries ∧
      first ∉ (full.act (.enqueue ⟨"values", "b"⟩)).queue.entries) := by
  decide

end Scene

end InverterBridge
