import InverterBridge.Proofs.Queue.Moves
import Mathlib.Data.List.Basic

/-!
# The traffic of a queue

A queue is fed by producers and drained by one task, and their acts may come
in any order.  `Traffic` is a lane together with a record of its messages:
which have been accepted, which have made room for others, and which have been
published.  The record only watches; the lane moves by its own operations.

While an entry is being published it may leave the queue to make room.  The
invariant `Traffic.Sound` therefore places the entry in flight either at the
head of the queue or behind everything published so far, among the entries
that are gone.  From it follow the order of the publications and the account
of every message.
-/

namespace InverterBridge

/-! ## Entries and counters -/

namespace DestinationQueue

/-- The entry that the next message will drop. -/
def overflow (queue : DestinationQueue) : List QueueEntry :=
  if queue.isFull then queue.entries.take 1 else []

/-- A new entry goes to the end; what it drops comes from the front. -/
theorem overflow_append_entries_enqueue (queue : DestinationQueue)
    (message : OutboundMessage) :
    queue.overflow ++ (queue.enqueue message).2.entries =
      queue.entries ++ [⟨queue.nextSequence, message⟩] := by
  unfold overflow enqueue
  split
  · cases entries : queue.entries <;> simp [append, dropOldest, entries]
  · simp [append]

@[simp]
theorem nextSequence_enqueue (queue : DestinationQueue) (message : OutboundMessage) :
    (queue.enqueue message).2.nextSequence = queue.nextSequence + 1 := by
  unfold enqueue
  split <;> rfl

/-- The entry of a number leaves the queue if it is still the oldest one. -/
theorem entries_complete (queue : DestinationQueue) (sequence : Nat) :
    (queue.complete sequence).entries =
      if queue.isHead sequence then queue.entries.tail else queue.entries := by
  simp only [complete, removeHead]
  split <;> rfl

/-- A delivery of the oldest entry takes it out of the queue. -/
theorem entries_eq_cons_complete {queue : DestinationQueue} {entry : QueueEntry}
    (oldest : queue.head? = some entry) :
    queue.entries = entry :: (queue.complete entry.sequence).entries := by
  have head : queue.isHead entry.sequence = true := by
    simp [isHead, oldest]
  rw [entries_complete, if_pos head]
  simp only [head?, List.head?_eq_some_iff] at oldest
  rcases oldest with ⟨rest, entries⟩
  simp [entries]

/-- A delivery of an entry that has left the queue takes nothing out. -/
theorem entries_complete_of_gone {queue : DestinationQueue} {sequence : Nat}
    (gone : ∀ entry ∈ queue.entries, sequence ≠ entry.sequence) :
    (queue.complete sequence).entries = queue.entries := by
  rw [entries_complete, if_neg]
  simp only [isHead, head?, Option.any_eq_true]
  rintro ⟨entry, oldest, same⟩
  exact gone entry (List.mem_of_head? oldest) (by simpa using (beq_iff_eq.mp same).symm)

@[simp]
theorem nextSequence_complete (queue : DestinationQueue) (sequence : Nat) :
    (queue.complete sequence).nextSequence = queue.nextSequence := by
  simp only [complete, removeHead]
  split <;> rfl

end DestinationQueue

/-! ## Acts and their record -/

/-- What can happen to a lane.  A task that moves, and a publication that
ends, see the surroundings of that instant. -/
inductive LaneAct where
  | enqueue (message : OutboundMessage)
  /-- Start a task unless one is running. -/
  | start
  /-- One move of the task, if it does not have to wait. -/
  | move (around : Surroundings)
  /-- The end of the publication under way, if there is one. -/
  | finish (around : Surroundings) (success : Bool)

/-- The messages that acts have put into a queue, in their order. -/
def enqueuedMessages : List LaneAct → List OutboundMessage
  | [] => []
  | .enqueue message :: acts => message :: enqueuedMessages acts
  | _ :: acts => enqueuedMessages acts

/-- A lane and the record of its messages, each list in the order of time. -/
structure Traffic where
  lane : Lane
  accepted : List QueueEntry
  /-- Entries dropped to make room. -/
  evicted : List QueueEntry
  /-- Entries whose publication has ended with success. -/
  published : List QueueEntry

namespace Traffic

/-- The traffic of a new queue without a task. -/
def initial (topic : String) (capacity retryDelay : Nat) : Traffic :=
  ⟨⟨.empty topic capacity retryDelay, none⟩, [], [], []⟩

/-- Apply an act.  What the task cannot do now does not happen. -/
def act (traffic : Traffic) : LaneAct → Traffic
  | .enqueue message =>
      { traffic with
        lane := (traffic.lane.enqueue message).2
        accepted := traffic.accepted ++ [⟨traffic.lane.queue.nextSequence, message⟩]
        evicted := traffic.evicted ++ traffic.lane.queue.overflow }
  | .start => { traffic with lane := traffic.lane.start }
  | .move around => { traffic with lane := (traffic.lane.step around).getD traffic.lane }
  | .finish around success =>
      { traffic with
        lane := traffic.lane.finish around success
        published := traffic.published ++
          if success then traffic.lane.publishing?.toList else [] }

/-- Apply acts in order. -/
def run (traffic : Traffic) (acts : List LaneAct) : Traffic :=
  acts.foldl act traffic

@[simp]
theorem run_nil (traffic : Traffic) : traffic.run [] = traffic :=
  rfl

@[simp]
theorem run_cons (traffic : Traffic) (first : LaneAct) (acts : List LaneAct) :
    traffic.run (first :: acts) = (traffic.act first).run acts :=
  rfl

/-- The record of accepted entries holds the messages that were put in. -/
theorem accepted_run (traffic : Traffic) (acts : List LaneAct) :
    (traffic.run acts).accepted.map QueueEntry.message =
      traffic.accepted.map QueueEntry.message ++ enqueuedMessages acts := by
  induction acts generalizing traffic with
  | nil => simp [enqueuedMessages]
  | cons first acts ih =>
      rw [run_cons, ih]
      cases first <;> simp [act, enqueuedMessages]

/-! ## The invariant -/

/-- The record is sound: `settled` are the entries that have left the queue,
oldest first. -/
structure Sound (traffic : Traffic) (settled : List QueueEntry) : Prop where
  numbered : traffic.accepted.map QueueEntry.sequence =
    List.range traffic.lane.queue.nextSequence
  accepted_eq : traffic.accepted = settled ++ traffic.lane.queue.entries
  published_sublist : traffic.published.Sublist settled
  accounted : ∀ entry ∈ settled, entry ∈ traffic.evicted ∨ entry ∈ traffic.published
  in_flight : ∀ entry, traffic.lane.publishing? = some entry →
    traffic.lane.queue.head? = some entry ∨
      (traffic.published ++ [entry]).Sublist settled

variable {traffic : Traffic} {settled : List QueueEntry}

theorem sound_initial (topic : String) (capacity retryDelay : Nat) :
    Sound (initial topic capacity retryDelay) [] where
  numbered := rfl
  accepted_eq := rfl
  published_sublist := List.Sublist.refl _
  accounted := by simp
  in_flight := by
    intro entry publishing
    contradiction

/-- Numbers are given once. -/
theorem Sound.nodup_sequence (sound : Sound traffic settled) :
    (traffic.accepted.map QueueEntry.sequence).Nodup := by
  rw [sound.numbered]
  exact List.nodup_range

/-- No settled entry has the number of a queued one. -/
theorem Sound.sequence_ne (sound : Sound traffic settled) {gone queued : QueueEntry}
    (goneMem : gone ∈ settled) (queuedMem : queued ∈ traffic.lane.queue.entries) :
    gone.sequence ≠ queued.sequence := by
  have distinct := sound.nodup_sequence
  rw [sound.accepted_eq, List.map_append, List.nodup_append] at distinct
  exact distinct.2.2 _ (List.mem_map_of_mem goneMem) _ (List.mem_map_of_mem queuedMem)

/-- An entry in flight has been accepted, and so has every queued entry. -/
theorem Sound.mem_accepted (sound : Sound traffic settled) {entry : QueueEntry}
    (known : entry ∈ traffic.lane.queue.entries ∨ traffic.lane.publishing? = some entry) :
    entry ∈ traffic.accepted := by
  rw [sound.accepted_eq]
  rcases known with queued | publishing
  · exact List.mem_append_right _ queued
  · rcases sound.in_flight entry publishing with oldest | gone
    · exact List.mem_append_right _ (List.mem_of_head? oldest)
    · exact List.mem_append_left _ (gone.subset (by simp))

theorem Sound.accepted_numbered (sound : Sound traffic settled) :
    traffic.accepted.map QueueEntry.sequence = List.range traffic.accepted.length := by
  have lengths := congrArg List.length sound.numbered
  rw [List.length_map, List.length_range] at lengths
  rw [lengths, sound.numbered]

/-! ## What each act preserves -/

/-- A message that arrives pushes out the oldest entry of a full queue, which
may be the one in flight. -/
theorem Sound.enqueue (sound : Sound traffic settled) (message : OutboundMessage) :
    Sound (traffic.act (.enqueue message)) (settled ++ traffic.lane.queue.overflow) where
  numbered := by
    simp [act, Lane.enqueue, sound.numbered, List.range_succ]
  accepted_eq := by
    simp only [act, Lane.enqueue, List.append_assoc,
      DestinationQueue.overflow_append_entries_enqueue, sound.accepted_eq]
  published_sublist := sound.published_sublist.trans (List.sublist_append_left _ _)
  accounted := by
    intro entry member
    rcases List.mem_append.mp member with settledMem | overflowMem
    · rcases sound.accounted entry settledMem with evicted | published
      · exact .inl (List.mem_append_left _ evicted)
      · exact .inr published
    · exact .inl (List.mem_append_right _ overflowMem)
  in_flight := by
    intro entry publishing
    rcases sound.in_flight entry publishing with oldest | gone
    · by_cases full : traffic.lane.queue.isFull = true
      · right
        have pushed : traffic.lane.queue.overflow = [entry] := by
          simp only [DestinationQueue.head?, List.head?_eq_some_iff] at oldest
          rcases oldest with ⟨rest, entries⟩
          simp [DestinationQueue.overflow, full, entries]
        rw [pushed]
        exact sound.published_sublist.append (List.Sublist.refl _)
      · left
        have appended :=
          DestinationQueue.overflow_append_entries_enqueue traffic.lane.queue message
        simp only [DestinationQueue.overflow, full, Bool.false_eq_true, if_false,
          List.nil_append] at appended
        simp only [DestinationQueue.head?] at oldest ⊢
        change (traffic.lane.queue.enqueue message).2.entries.head? = some entry
        rw [appended, List.head?_append, oldest]
        rfl
    · exact .inr (gone.trans (List.sublist_append_left _ _))

/-- A new task has nothing in flight. -/
theorem Sound.start (sound : Sound traffic settled) : Sound (traffic.act .start) settled := by
  by_cases draining : traffic.lane.isDraining = true
  · have same : traffic.act .start = traffic := by
      simp [act, Lane.start, draining]
    rwa [same]
  · have fresh : traffic.act .start =
        { traffic with lane := ⟨traffic.lane.queue, some .initial⟩ } := by
      simp [act, Lane.start, draining]
    rw [fresh]
    exact { sound with in_flight := fun entry publishing => by contradiction }

/-- A move changes no entry, and an entry that takes off is the oldest one. -/
theorem Sound.move (sound : Sound traffic settled) (around : Surroundings) :
    Sound (traffic.act (.move around)) settled := by
  rcases traffic with ⟨⟨queue, drain⟩, accepted, evicted, published⟩
  cases drain with
  | none => exact sound
  | some drain =>
      simp only [act, Lane.step, Option.bind_some]
      cases step : drain.step around queue with
      | none => exact sound
      | some after =>
          rcases after with ⟨next, moved⟩
          have move := Drain.move_of_step step
          rw [move.queue_eq]
          refine { sound with in_flight := ?_ }
          intro entry publishing
          left
          apply move.head?_eq
          rcases moved with ⟨phase, seen⟩
          cases phase <;> simp_all [Lane.publishing?]

/-- The delivery of the entry in flight, when it is still the oldest one. -/
theorem Sound.deliver_oldest {queue : DestinationQueue} {drain landed : Option Drain}
    {accepted evicted published : List QueueEntry} {entry : QueueEntry}
    (sound : Sound ⟨⟨queue, drain⟩, accepted, evicted, published⟩ settled)
    (oldest : queue.head? = some entry)
    (idle : ∀ next, Lane.publishing? ⟨next, landed⟩ = none) :
    Sound ⟨⟨queue.complete entry.sequence, landed⟩, accepted, evicted, published ++ [entry]⟩
      (settled ++ [entry]) where
  numbered := by simpa using sound.numbered
  accepted_eq := by
    rw [sound.accepted_eq, List.append_assoc, List.singleton_append]
    exact congrArg (settled ++ ·) (DestinationQueue.entries_eq_cons_complete oldest)
  published_sublist := sound.published_sublist.append (List.Sublist.refl _)
  accounted := by
    intro other member
    rcases List.mem_append.mp member with settledMem | same
    · rcases sound.accounted other settledMem with evicted | published
      · exact .inl evicted
      · exact .inr (List.mem_append_left _ published)
    · exact .inr (List.mem_append_right _ same)
  in_flight := by simp [idle]

/-- The delivery of the entry in flight, when it has left the queue before. -/
theorem Sound.deliver_gone {queue : DestinationQueue} {drain landed : Option Drain}
    {accepted evicted published : List QueueEntry} {entry : QueueEntry}
    (sound : Sound ⟨⟨queue, drain⟩, accepted, evicted, published⟩ settled)
    (gone : (published ++ [entry]).Sublist settled)
    (idle : ∀ next, Lane.publishing? ⟨next, landed⟩ = none) :
    Sound ⟨⟨queue.complete entry.sequence, landed⟩, accepted, evicted, published ++ [entry]⟩
      settled where
  numbered := by simpa using sound.numbered
  accepted_eq := by
    have settledMem : entry ∈ settled := gone.subset (by simp)
    have kept : (queue.complete entry.sequence).entries = queue.entries :=
      DestinationQueue.entries_complete_of_gone fun queued queuedMem =>
        sound.sequence_ne settledMem queuedMem
    rw [kept]
    exact sound.accepted_eq
  published_sublist := gone
  accounted := by
    intro other member
    rcases sound.accounted other member with evicted | published
    · exact .inl evicted
    · exact .inr (List.mem_append_left _ published)
  in_flight := by simp [idle]

/-- The end of a publication.  With success the entry in flight is the last
one published; it leaves the queue now, or has left it before. -/
theorem Sound.finish (sound : Sound traffic settled) (around : Surroundings)
    (success : Bool) : ∃ settled, Sound (traffic.act (.finish around success)) settled := by
  rcases traffic with ⟨⟨queue, drain⟩, accepted, evicted, published⟩
  cases drain with
  | none => exact ⟨settled, by simpa [act, Lane.finish, Lane.publishing?] using sound⟩
  | some drain =>
      rcases drain with ⟨phase, seen⟩
      cases phase with
      | publishing entry =>
          cases success with
          | false =>
              refine ⟨settled, ?_⟩
              simp only [act, Lane.finish, Drain.finish, Bool.false_eq_true, if_false,
                List.append_nil]
              exact { sound with in_flight := fun entry publishing => by contradiction }
          | true =>
              simp only [act, Lane.finish, Drain.finish, Lane.publishing?, if_true]
              rcases sound.in_flight entry rfl with oldest | gone
              · exact ⟨settled ++ [entry], sound.deliver_oldest oldest fun _ => rfl⟩
              · exact ⟨settled, sound.deliver_gone gone fun _ => rfl⟩
      | _ =>
          exact ⟨settled, by simpa [act, Lane.finish, Drain.finish, Lane.publishing?] using sound⟩

/-- Every act preserves soundness. -/
theorem Sound.act (sound : Sound traffic settled) (next : LaneAct) :
    ∃ settled, Sound (traffic.act next) settled := by
  cases next with
  | enqueue message => exact ⟨_, sound.enqueue message⟩
  | start => exact ⟨_, sound.start⟩
  | move around => exact ⟨_, sound.move around⟩
  | finish around success => exact sound.finish around success

/-- So does every run. -/
theorem Sound.run (sound : Sound traffic settled) (acts : List LaneAct) :
    ∃ settled, Sound (traffic.run acts) settled := by
  induction acts generalizing traffic settled with
  | nil => exact ⟨settled, sound⟩
  | cons first acts ih =>
      rcases sound.act first with ⟨settled, next⟩
      exact ih next

/-! ## Order and account -/

theorem Sound.published_accepted (sound : Sound traffic settled) :
    traffic.published.Sublist traffic.accepted := by
  rw [sound.accepted_eq]
  exact sound.published_sublist.trans (List.sublist_append_left _ _)

theorem Sound.published_increasing (sound : Sound traffic settled) :
    (traffic.published.map QueueEntry.sequence).Pairwise (· < ·) := by
  have increasing : (traffic.accepted.map QueueEntry.sequence).Pairwise (· < ·) := by
    rw [sound.numbered]
    exact List.pairwise_lt_range
  exact increasing.sublist (sound.published_accepted.map _)

/-- Published messages keep the order of their arrival, none is published
twice, and no accepted message is lost: it is still queued, or has been dropped
to make room, or has been published. -/
theorem published_in_order_of_arrival (topic : String) (capacity retryDelay : Nat)
    (acts : List LaneAct) :
    let traffic := (initial topic capacity retryDelay).run acts
    traffic.accepted.map QueueEntry.message = enqueuedMessages acts ∧
      traffic.accepted.map QueueEntry.sequence = List.range traffic.accepted.length ∧
      traffic.published.Sublist traffic.accepted ∧
      (traffic.published.map QueueEntry.sequence).Pairwise (· < ·) ∧
      ∀ entry ∈ traffic.accepted,
        entry ∈ traffic.lane.queue.entries ∨ entry ∈ traffic.evicted ∨
          entry ∈ traffic.published := by
  intro traffic
  rcases (sound_initial topic capacity retryDelay).run acts with ⟨settled, sound⟩
  have messages : traffic.accepted.map QueueEntry.message = enqueuedMessages acts :=
    accepted_run (initial topic capacity retryDelay) acts
  refine ⟨messages, sound.accepted_numbered, sound.published_accepted,
    sound.published_increasing, ?_⟩
  intro entry member
  rw [sound.accepted_eq] at member
  rcases List.mem_append.mp member with settledMem | queuedMem
  · exact .inr (sound.accounted entry settledMem)
  · exact .inl queuedMem

end Traffic

end InverterBridge
