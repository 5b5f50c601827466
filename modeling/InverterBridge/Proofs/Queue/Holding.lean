import InverterBridge.Proofs.Queue.Traffic

/-!
# What a queue holds

A queue holds the messages that arrived last, as many as it has room for.
`QueueRecord` is a queue beside a record of the messages that have arrived and of
what each act has done to the backlog, and `QueueRecord.Holding` is the invariant:
the entries are the end of all entries ever made, and the count of dropped messages
goes back to the last delivery that left nothing behind.  No task is needed for
this; the acts may come from anywhere and complete any number.
-/

namespace InverterBridge

/-! ## Acts on a queue -/

/-- Something that is done to a queue. -/
inductive QueueAct where
  | enqueue (message : OutboundMessage)
  /-- Look at the oldest entry. -/
  | head
  /-- Note that the entry of a number has been delivered, queued or not. -/
  | complete (sequence : Nat)
  /-- Note that an attempt at delivery has failed. -/
  | fail

/-- The message that an act brings. -/
def QueueAct.message? : QueueAct → Option OutboundMessage
  | .enqueue message => some message
  | _ => none

/-- What an act does to the backlog of a queue. -/
inductive BacklogMark where
  /-- The oldest entry makes room for another one. -/
  | dropped
  /-- A delivery leaves nothing behind. -/
  | emptied
  | neither
  deriving DecidableEq

/-- The messages dropped since a delivery has last left nothing behind. -/
def episodeDrops (marks : List BacklogMark) : Nat :=
  (marks.reverse.takeWhile (· ≠ .emptied)).count .dropped

@[simp]
theorem episodeDrops_concat_dropped (marks : List BacklogMark) :
    episodeDrops (marks ++ [.dropped]) = episodeDrops marks + 1 := by
  simp [episodeDrops]

@[simp]
theorem episodeDrops_concat_emptied (marks : List BacklogMark) :
    episodeDrops (marks ++ [.emptied]) = 0 := by
  simp [episodeDrops]

@[simp]
theorem episodeDrops_concat_neither (marks : List BacklogMark) :
    episodeDrops (marks ++ [.neither]) = episodeDrops marks := by
  simp [episodeDrops]

namespace DestinationQueue

/-- Apply an act. -/
def act (queue : DestinationQueue) : QueueAct → DestinationQueue
  | .enqueue message => (queue.enqueue message).2
  | .head => queue
  | .complete sequence => queue.complete sequence
  | .fail => queue.recordFailure

/-- What an act does to the backlog. -/
def mark (queue : DestinationQueue) : QueueAct → BacklogMark
  | .enqueue _ => if queue.isFull then .dropped else .neither
  | .complete sequence => if (queue.complete sequence).isEmpty then .emptied else .neither
  | _ => .neither

theorem isFull_iff {queue : DestinationQueue} :
    queue.isFull = true ↔ queue.capacity ≤ queue.length := by
  simp [isFull, length]

theorem isHead_iff {queue : DestinationQueue} {sequence : Nat} :
    queue.isHead sequence = true ↔ queue.head?.map QueueEntry.sequence = some sequence := by
  simp [isHead, Option.any_eq_true]

theorem capacity_act (queue : DestinationQueue) (act : QueueAct) :
    (queue.act act).capacity = queue.capacity := by
  cases act with
  | enqueue message =>
      simp only [DestinationQueue.act, enqueue]
      split <;> rfl
  | complete sequence =>
      simp only [DestinationQueue.act, complete, removeHead]
      split <;> rfl
  | head => rfl
  | fail => rfl

/-- A full queue gives up its oldest entry for the new one, any other queue none. -/
theorem entries_enqueue (queue : DestinationQueue) (message : OutboundMessage) :
    (queue.enqueue message).2.entries =
      (if queue.isFull then queue.entries.tail else queue.entries) ++
        [⟨queue.nextSequence, message⟩] := by
  unfold enqueue
  split <;> rfl

theorem episodeDropped_enqueue (queue : DestinationQueue) (message : OutboundMessage) :
    (queue.enqueue message).2.episodeDropped =
      queue.episodeDropped + if queue.isFull then 1 else 0 := by
  unfold enqueue
  split <;> rfl

theorem isEmpty_enqueue (queue : DestinationQueue) (message : OutboundMessage) :
    (queue.enqueue message).2.isEmpty = false := by
  simp [isEmpty, entries_enqueue]

/-- The count of dropped messages ends with a delivery that leaves nothing behind. -/
theorem episodeDropped_complete (queue : DestinationQueue) (sequence : Nat) :
    (queue.complete sequence).episodeDropped =
      if (queue.complete sequence).isEmpty then 0 else queue.episodeDropped := by
  simp only [complete, removeHead, isEmpty]
  split <;> rfl

/-- A delivery takes nothing from a queue but its oldest entry. -/
theorem entries_complete_suffix (queue : DestinationQueue) (sequence : Nat) :
    (queue.complete sequence).entries <:+ queue.entries := by
  rw [entries_complete]
  split
  · exact List.tail_suffix _
  · exact List.suffix_refl _

end DestinationQueue

/-! ## The record -/

/-- Messages as entries, numbered from zero on. -/
def numbered (messages : List OutboundMessage) : List QueueEntry :=
  messages.mapIdx QueueEntry.mk

theorem numbered_concat (messages : List OutboundMessage) (message : OutboundMessage) :
    numbered (messages ++ [message]) = numbered messages ++ [⟨messages.length, message⟩] :=
  List.mapIdx_concat

@[simp]
theorem length_numbered (messages : List OutboundMessage) :
    (numbered messages).length = messages.length :=
  List.length_mapIdx

@[simp]
theorem map_message_numbered (messages : List OutboundMessage) :
    (numbered messages).map QueueEntry.message = messages := by
  simp [numbered, List.mapIdx_eq_zipIdx_map, Function.comp_def]

theorem map_sequence_numbered (messages : List OutboundMessage) :
    (numbered messages).map QueueEntry.sequence = List.range messages.length := by
  simp [numbered, List.mapIdx_eq_zipIdx_map, Function.comp_def, List.range_eq_range']

/-- A queue and the record of what has been done to it, each list in the order of time. -/
structure QueueRecord where
  queue : DestinationQueue
  arrived : List OutboundMessage
  marks : List BacklogMark

namespace QueueRecord

/-- A new queue. -/
def initial (topic : String) (capacity retryDelay : Nat) : QueueRecord :=
  ⟨.empty topic capacity retryDelay, [], []⟩

/-- Apply an act. -/
def act (record : QueueRecord) (act : QueueAct) : QueueRecord where
  queue := record.queue.act act
  arrived := record.arrived ++ act.message?.toList
  marks := record.marks ++ [record.queue.mark act]

/-- Apply acts in order. -/
def run (record : QueueRecord) (acts : List QueueAct) : QueueRecord :=
  acts.foldl act record

@[simp]
theorem run_nil (record : QueueRecord) : record.run [] = record :=
  rfl

@[simp]
theorem run_cons (record : QueueRecord) (first : QueueAct) (acts : List QueueAct) :
    record.run (first :: acts) = (record.act first).run acts :=
  rfl

/-- The record of arrivals holds the messages that acts have brought. -/
theorem arrived_run (record : QueueRecord) (acts : List QueueAct) :
    (record.run acts).arrived = record.arrived ++ acts.filterMap QueueAct.message? := by
  induction acts generalizing record with
  | nil => simp
  | cons first acts ih =>
      rw [run_cons, ih, act, List.append_assoc]
      cases first <;> rfl

theorem capacity_run (record : QueueRecord) (acts : List QueueAct) :
    (record.run acts).queue.capacity = record.queue.capacity := by
  induction acts generalizing record with
  | nil => rfl
  | cons first acts ih => exact (ih _).trans (record.queue.capacity_act first)

/-! ## The invariant -/

/-- What a queue holds of everything that has arrived. -/
structure Holding (record : QueueRecord) : Prop where
  capacity_pos : 0 < record.queue.capacity
  length_le : record.queue.length ≤ record.queue.capacity
  nextSequence_eq : record.queue.nextSequence = record.arrived.length
  latest : record.queue.entries <:+ numbered record.arrived
  episode : record.queue.episodeDropped = episodeDrops record.marks
  idle : record.queue.isEmpty = true → record.queue.episodeDropped = 0

variable {record : QueueRecord}

theorem holding_initial (topic : String) (capacity retryDelay : Nat) :
    Holding (initial topic capacity retryDelay) where
  capacity_pos := DestinationQueue.capacity_empty_pos topic capacity retryDelay
  length_le := Nat.zero_le _
  nextSequence_eq := rfl
  latest := List.suffix_refl _
  episode := rfl
  idle := fun _ => rfl

/-- A full queue has an oldest entry. -/
theorem Holding.isFull_iff (holding : Holding record) :
    record.queue.isFull = true ↔ record.queue.length = record.queue.capacity := by
  have fits := holding.length_le
  rw [DestinationQueue.isFull_iff]
  omega

theorem Holding.enqueue (holding : Holding record) (message : OutboundMessage) :
    Holding (record.act (.enqueue message)) where
  capacity_pos := record.queue.capacity_act _ ▸ holding.capacity_pos
  length_le := by
    have room := holding.capacity_pos
    have fits := holding.length_le
    have full := holding.isFull_iff
    rw [DestinationQueue.length] at fits full
    change (record.queue.enqueue message).2.entries.length ≤ _
    rw [act, record.queue.capacity_act, record.queue.entries_enqueue, List.length_append,
      List.length_singleton]
    split
    · rw [List.length_tail]
      omega
    next roomy =>
      have below := roomy.imp full.mpr
      omega
  nextSequence_eq := by
    simp [act, DestinationQueue.act, QueueAct.message?, holding.nextSequence_eq]
  latest := by
    simp only [act, DestinationQueue.act, QueueAct.message?, Option.toList_some,
      DestinationQueue.entries_enqueue, numbered_concat, holding.nextSequence_eq]
    rw [List.suffix_append_self_iff]
    split
    · exact (List.tail_suffix _).trans holding.latest
    · exact holding.latest
  episode := by
    simp only [act, DestinationQueue.act, DestinationQueue.mark,
      DestinationQueue.episodeDropped_enqueue, holding.episode]
    split <;> simp
  idle := by
    simp [act, DestinationQueue.act, DestinationQueue.isEmpty_enqueue]

theorem Holding.complete (holding : Holding record) (sequence : Nat) :
    Holding (record.act (.complete sequence)) where
  capacity_pos := record.queue.capacity_act _ ▸ holding.capacity_pos
  length_le := by
    have shorter := (record.queue.entries_complete_suffix sequence).length_le
    have capacity := record.queue.capacity_act (.complete sequence)
    exact Nat.le_trans shorter (capacity ▸ holding.length_le)
  nextSequence_eq := by
    simp [act, DestinationQueue.act, QueueAct.message?, holding.nextSequence_eq]
  latest := by
    simp only [act, DestinationQueue.act, QueueAct.message?, Option.toList_none, List.append_nil]
    exact (record.queue.entries_complete_suffix sequence).trans holding.latest
  episode := by
    simp only [act, DestinationQueue.act, DestinationQueue.mark]
    rw [DestinationQueue.episodeDropped_complete, holding.episode]
    split <;> simp
  idle := by
    intro empty
    simp only [act, DestinationQueue.act] at empty ⊢
    rw [DestinationQueue.episodeDropped_complete, if_pos empty]

/-- An act that leaves the entries and their counts alone preserves the invariant. -/
theorem Holding.quiet (holding : Holding record) {act : QueueAct} (silent : act.message? = none)
    (unmarked : record.queue.mark act = .neither)
    (entries_eq : (record.queue.act act).entries = record.queue.entries)
    (nextSequence_eq : (record.queue.act act).nextSequence = record.queue.nextSequence)
    (episode_eq : (record.queue.act act).episodeDropped = record.queue.episodeDropped) :
    Holding (record.act act) where
  capacity_pos := record.queue.capacity_act act ▸ holding.capacity_pos
  length_le := by
    simpa [QueueRecord.act, DestinationQueue.length, entries_eq, record.queue.capacity_act act]
      using holding.length_le
  nextSequence_eq := by
    simpa [QueueRecord.act, silent, nextSequence_eq] using holding.nextSequence_eq
  latest := by simpa [QueueRecord.act, silent, entries_eq] using holding.latest
  episode := by simpa [QueueRecord.act, unmarked, episode_eq] using holding.episode
  idle := by
    simpa [QueueRecord.act, DestinationQueue.isEmpty, entries_eq, episode_eq] using holding.idle

/-- Every act preserves the invariant. -/
theorem Holding.act (holding : Holding record) (act : QueueAct) : Holding (record.act act) := by
  cases act with
  | enqueue message => exact holding.enqueue message
  | complete sequence => exact holding.complete sequence
  | head => exact holding.quiet rfl rfl rfl rfl rfl
  | fail => exact holding.quiet rfl rfl rfl rfl rfl

/-- So does every run. -/
theorem Holding.run (holding : Holding record) (acts : List QueueAct) :
    Holding (record.run acts) := by
  induction acts generalizing record with
  | nil => exact holding
  | cons first acts ih => exact ih (holding.act first)

/-! ## What is held -/

/-- The entries are those of the messages that arrived last. -/
theorem Holding.entries_eq (holding : Holding record) :
    record.queue.entries =
      (numbered record.arrived).drop (record.arrived.length - record.queue.length) := by
  have last := List.suffix_iff_eq_drop.mp holding.latest
  rwa [length_numbered] at last

theorem Holding.length_le_arrived (holding : Holding record) :
    record.queue.length ≤ record.arrived.length := by
  have shorter := holding.latest.length_le
  rwa [length_numbered] at shorter

/-- The numbers of the entries are consecutive and end below the next one. -/
theorem Holding.map_sequence (holding : Holding record) :
    record.queue.entries.map QueueEntry.sequence =
      List.range' (record.queue.nextSequence - record.queue.length) record.queue.length := by
  have fewer := holding.length_le_arrived
  rw [holding.entries_eq, List.map_drop, map_sequence_numbered, List.range_eq_range',
    List.drop_range', holding.nextSequence_eq]
  congr 1 <;> omega

/-- What happens to a full queue when a message arrives. -/
theorem Holding.entries_enqueue_of_isFull (holding : Holding record)
    (full : record.queue.isFull = true) (message : OutboundMessage) :
    ∃ oldest kept, record.queue.entries = oldest :: kept ∧
      (record.queue.enqueue message).2.entries =
        kept ++ [⟨record.queue.nextSequence, message⟩] := by
  have room := holding.capacity_pos
  have many := holding.isFull_iff.mp full
  rw [record.queue.entries_enqueue, if_pos full]
  cases entries : record.queue.entries with
  | nil =>
      simp only [DestinationQueue.length, entries, List.length_nil] at many
      omega
  | cons oldest kept => exact ⟨oldest, kept, rfl, rfl⟩

/-- After every list of acts a queue holds the messages that arrived last:

* there are as many as it has room for at most, which is one at least, and they are
  numbered in a row up to the number before the next one;
* a message that arrives drops the oldest one exactly when the queue is full, and no
  other;
* a delivery takes out the entry of its number if it is the oldest one, and nothing
  otherwise;
* the count of dropped messages is that since a delivery has last left nothing behind,
  and none while nothing is queued. -/
theorem queue_holds_latest (topic : String) (capacity retryDelay : Nat) (acts : List QueueAct) :
    let record := (initial topic capacity retryDelay).run acts
    let queue := record.queue
    let arrived := acts.filterMap QueueAct.message?
    queue.capacity = max capacity 1 ∧ queue.length ≤ queue.capacity ∧
      queue.nextSequence = arrived.length ∧
      queue.entries.map QueueEntry.sequence =
        List.range' (queue.nextSequence - queue.length) queue.length ∧
      queue.messages = arrived.drop (arrived.length - queue.length) ∧
      (∀ message,
        ((queue.enqueue message).1 = true ↔ queue.length = queue.capacity) ∧
        ((queue.enqueue message).1 = true → ∃ oldest kept, queue.entries = oldest :: kept ∧
          (queue.enqueue message).2.entries = kept ++ [⟨queue.nextSequence, message⟩]) ∧
        ((queue.enqueue message).1 = false →
          (queue.enqueue message).2.entries = queue.entries ++ [⟨queue.nextSequence, message⟩])) ∧
      (∀ sequence, (queue.complete sequence).entries =
        if queue.head?.map QueueEntry.sequence = some sequence then queue.entries.tail
        else queue.entries) ∧
      queue.episodeDropped = episodeDrops record.marks ∧
      (queue.isEmpty = true → queue.episodeDropped = 0) := by
  intro record queue arrived
  have holding : Holding record := (holding_initial topic capacity retryDelay).run acts
  have arrived_eq : record.arrived = arrived := arrived_run _ acts
  refine ⟨capacity_run _ acts, holding.length_le, ?_, holding.map_sequence, ?_, ?_, ?_,
    holding.episode, holding.idle⟩
  · rw [← arrived_eq]
    exact holding.nextSequence_eq
  · rw [DestinationQueue.messages, holding.entries_eq, List.map_drop, map_message_numbered,
      arrived_eq]
  · intro message
    rw [DestinationQueue.fst_enqueue]
    refine ⟨holding.isFull_iff, fun full => holding.entries_enqueue_of_isFull full message,
      fun roomy => ?_⟩
    rw [queue.entries_enqueue, if_neg (by simp [roomy])]
  · intro sequence
    rw [DestinationQueue.entries_complete]
    exact if_congr DestinationQueue.isHead_iff rfl rfl

-- A delivery that ends after its entry has made room leaves the entry behind it alone.
example :
    ((initial "site/values" 0 100).run
      [.enqueue ⟨"site/values", "1"⟩, .enqueue ⟨"site/values", "2"⟩, .complete 0]).queue.entries =
        [⟨1, ⟨"site/values", "2"⟩⟩] := by
  decide

end QueueRecord

end InverterBridge
