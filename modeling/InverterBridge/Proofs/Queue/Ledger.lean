import InverterBridge.Proofs.Queue.Holding
import Mathlib.Data.List.Nodup
import Mathlib.Data.List.Perm.Basic

/-!
# The account of a queue

A queue counts the messages it accepts, drops and delivers and the attempts that fail.
`Ledger` keeps the messages themselves beside the traffic of the queue: which attempts
have begun, which have failed, and which entries have made room while they were being
published.  The last are the only ones that may be counted twice, as dropped and as
delivered, and `Ledger.Balanced` is the invariant that says so.
-/

namespace InverterBridge

/-! ## Counters -/

/-- Counters as they may be later on. -/
structure QueueStats.Grown (before after : QueueStats) : Prop where
  enqueued : before.enqueued ≤ after.enqueued
  delivered : before.delivered ≤ after.delivered
  dropped : before.dropped ≤ after.dropped
  failed : before.failed ≤ after.failed

theorem QueueStats.Grown.refl (stats : QueueStats) : stats.Grown stats :=
  ⟨Nat.le_refl _, Nat.le_refl _, Nat.le_refl _, Nat.le_refl _⟩

theorem QueueStats.Grown.trans {first second third : QueueStats} (before : first.Grown second)
    (after : second.Grown third) : first.Grown third where
  enqueued := Nat.le_trans before.enqueued after.enqueued
  delivered := Nat.le_trans before.delivered after.delivered
  dropped := Nat.le_trans before.dropped after.dropped
  failed := Nat.le_trans before.failed after.failed

namespace DestinationQueue

theorem stats_enqueue (queue : DestinationQueue) (message : OutboundMessage) :
    (queue.enqueue message).2.stats =
      { queue.stats with
        enqueued := queue.stats.enqueued + 1
        dropped := queue.stats.dropped + if queue.isFull then 1 else 0 } := by
  unfold enqueue
  split <;> rfl

theorem stats_complete (queue : DestinationQueue) (sequence : Nat) :
    (queue.complete sequence).stats =
      { queue.stats with delivered := queue.stats.delivered + 1 } := by
  simp only [complete, removeHead]
  split <;> rfl

/-- A queue with room for a message drops one at a time. -/
theorem length_overflow {queue : DestinationQueue} (room : 0 < queue.capacity) :
    queue.overflow.length = if queue.isFull then 1 else 0 := by
  unfold overflow
  split
  next full =>
    have many := isFull_iff.mp full
    simp only [length] at many
    rw [List.length_take]
    omega
  next => rfl

end DestinationQueue

namespace Lane

variable {lane next : Lane} {around : Surroundings}

/-- A task that does not drain publishes nothing. -/
theorem publishing?_of_not_isDraining (idle : lane.isDraining = false) :
    lane.publishing? = none := by
  rcases lane with ⟨queue, drain⟩
  cases drain with
  | none => rfl
  | some drain =>
      rcases drain with ⟨phase, seen⟩
      cases phase <;> first | rfl | contradiction

/-- A move changes nothing of the queue but its notice.  It begins a publication at most, that
of the oldest entry, and only while there is none. -/
theorem move_of_step (step : lane.step around = some next) :
    lane.publishing? = none ∧
      ∃ notified drain, next = ⟨{ lane.queue with notified := notified }, drain⟩ ∧
        ∀ entry, next.publishing? = some entry → lane.queue.head? = some entry := by
  rcases lane with ⟨queue, drain⟩
  rcases Option.bind_eq_some_iff.mp step with ⟨drain, rfl, mapped⟩
  rcases Option.map_eq_some_iff.mp mapped with ⟨⟨after, ⟨phase, seen⟩⟩, moved, rfl⟩
  have move := Drain.move_of_step moved
  refine ⟨?_, after.notified, some ⟨phase, seen⟩, ?_, ?_⟩
  · cases move <;> rfl
  · exact congrArg (Lane.mk · _) move.queue_eq
  · intro entry publishing
    apply move.head?_eq
    cases phase <;> simp_all [publishing?]

/-- The end of a publication lands it; without one there is nothing to end. -/
theorem finish_cases (lane : Lane) (around : Surroundings) (success : Bool) :
    (lane.publishing? = none ∧ lane.finish around success = lane) ∨
      ∃ entry, lane.publishing? = some entry ∧ (lane.finish around success).publishing? = none ∧
        (lane.finish around success).queue =
          if success then lane.queue.complete entry.sequence else lane.queue.recordFailure := by
  rcases lane with ⟨queue, drain⟩
  cases drain with
  | none => exact .inl ⟨rfl, rfl⟩
  | some drain =>
      rcases drain with ⟨phase, seen⟩
      cases phase with
      | publishing entry =>
          right
          refine ⟨entry, rfl, ?_⟩
          cases success <;> exact ⟨rfl, rfl⟩
      | _ => exact .inl ⟨rfl, rfl⟩

end Lane

/-! ## Attempts -/

namespace Traffic

/-- The entries whose publication an act begins. -/
def begins (traffic : Traffic) : LaneAct → List QueueEntry
  | .move around => ((traffic.lane.step around).bind Lane.publishing?).toList
  | _ => []

/-- The entries whose publication ends with an act and without success. -/
def refuses (traffic : Traffic) : LaneAct → List QueueEntry
  | .finish _ false => traffic.lane.publishing?.toList
  | _ => []

/-- The entries that an act drops while they are being published. -/
def overtakes (traffic : Traffic) : LaneAct → List QueueEntry
  | .enqueue _ =>
      traffic.lane.queue.overflow.filter fun entry => traffic.lane.publishing? = some entry
  | _ => []

end Traffic

/-- The traffic of a queue with a record of the attempts, each list in the order of time. -/
structure Ledger where
  traffic : Traffic
  /-- Entries whose publication has begun. -/
  begun : List QueueEntry
  /-- Entries whose publication has ended without success. -/
  refused : List QueueEntry
  /-- Entries dropped while they were being published. -/
  overtaken : List QueueEntry

namespace Ledger

/-- The ledger of a new queue without a task. -/
def initial (topic : String) (capacity retryDelay : Nat) : Ledger :=
  ⟨.initial topic capacity retryDelay, [], [], []⟩

/-- Apply an act. -/
def act (ledger : Ledger) (act : LaneAct) : Ledger where
  traffic := ledger.traffic.act act
  begun := ledger.begun ++ ledger.traffic.begins act
  refused := ledger.refused ++ ledger.traffic.refuses act
  overtaken := ledger.overtaken ++ ledger.traffic.overtakes act

/-- Apply acts in order. -/
def run (ledger : Ledger) (acts : List LaneAct) : Ledger :=
  acts.foldl act ledger

/-- The ledger only watches. -/
theorem traffic_run (ledger : Ledger) (acts : List LaneAct) :
    (ledger.run acts).traffic = ledger.traffic.run acts := by
  induction acts generalizing ledger with
  | nil => rfl
  | cons first acts ih => exact ih _

/-- The queue. -/
def queue (ledger : Ledger) : DestinationQueue :=
  ledger.traffic.lane.queue

/-- The entries that have been delivered after they had been dropped. -/
def late (ledger : Ledger) : List QueueEntry :=
  ledger.traffic.published.filter (· ∈ ledger.overtaken)

/-- The entries that have left the queue with their delivery. -/
def timely (ledger : Ledger) : List QueueEntry :=
  ledger.traffic.published.filter (· ∉ ledger.overtaken)

/-! ## The invariant -/

/-- The account of a queue balances. -/
structure Balanced (ledger : Ledger) : Prop where
  sound : ∃ settled, Traffic.Sound ledger.traffic settled
  capacity_pos : 0 < ledger.queue.capacity
  stats_eq : ledger.queue.stats =
    ⟨ledger.traffic.accepted.length, ledger.traffic.published.length,
      ledger.traffic.evicted.length, ledger.refused.length⟩
  /-- Every message is queued, or has been dropped, or has been delivered from the queue. -/
  partition : ledger.traffic.accepted.Perm
    (ledger.queue.entries ++ ledger.traffic.evicted ++ ledger.timely)
  overtaken_subset : ledger.overtaken ⊆ ledger.traffic.evicted
  /-- The entry in flight has been overtaken if it is no longer queued. -/
  in_flight : ∀ entry, ledger.traffic.lane.publishing? = some entry →
    (entry ∈ ledger.overtaken ↔ entry ∉ ledger.queue.entries)
  attempts : ledger.begun.Perm
    (ledger.traffic.published ++ ledger.refused ++ ledger.traffic.lane.publishing?.toList)

variable {ledger : Ledger}

theorem balanced_initial (topic : String) (capacity retryDelay : Nat) :
    Balanced (initial topic capacity retryDelay) where
  sound := ⟨[], Traffic.sound_initial topic capacity retryDelay⟩
  capacity_pos := DestinationQueue.capacity_empty_pos topic capacity retryDelay
  stats_eq := rfl
  partition := List.Perm.refl _
  overtaken_subset := List.Subset.refl _
  in_flight := by
    intro entry publishing
    contradiction
  attempts := List.Perm.refl _

/-- No two messages have the same entry. -/
theorem Balanced.nodup_accepted (balanced : Balanced ledger) :
    ledger.traffic.accepted.Nodup := by
  rcases balanced.sound with ⟨settled, sound⟩
  exact List.Nodup.of_map _ sound.nodup_sequence

/-- What has been published is no longer queued. -/
theorem Balanced.not_mem_of_published (balanced : Balanced ledger) {entry : QueueEntry}
    (published : entry ∈ ledger.traffic.published) : entry ∉ ledger.queue.entries := by
  rcases balanced.sound with ⟨settled, sound⟩
  intro queued
  exact sound.sequence_ne (sound.published_sublist.subset published) queued rfl

/-- What has been dropped is no longer queued. -/
theorem Balanced.not_mem_of_evicted (balanced : Balanced ledger) {entry : QueueEntry}
    (evicted : entry ∈ ledger.traffic.evicted) : entry ∉ ledger.queue.entries := by
  have distinct := balanced.partition.nodup_iff.mp balanced.nodup_accepted
  rw [List.append_assoc, List.nodup_append] at distinct
  intro queued
  exact distinct.2.2 _ queued _ (List.mem_append_left _ evicted) rfl

/-! ## What each act preserves -/

theorem mem_overtaken_enqueue {message : OutboundMessage} {entry : QueueEntry} :
    entry ∈ (ledger.act (.enqueue message)).overtaken ↔
      entry ∈ ledger.overtaken ∨
        entry ∈ ledger.queue.overflow ∧ ledger.traffic.lane.publishing? = some entry := by
  simp [act, Traffic.overtakes, queue]

/-- What makes room was queued until now. -/
theorem mem_entries_of_mem_overflow {entry : QueueEntry}
    (dropped : entry ∈ ledger.queue.overflow) : entry ∈ ledger.queue.entries := by
  unfold DestinationQueue.overflow at dropped
  split at dropped
  · exact List.mem_of_mem_take dropped
  · contradiction

/-- What makes room has not been delivered, so the deliveries are what they were. -/
theorem Balanced.timely_enqueue (balanced : Balanced ledger) (message : OutboundMessage) :
    (ledger.act (.enqueue message)).timely = ledger.timely := by
  apply List.filter_congr
  intro entry published
  have queued := balanced.not_mem_of_published published
  have kept : entry ∉ ledger.queue.overflow := fun dropped =>
    queued (mem_entries_of_mem_overflow dropped)
  simp [mem_overtaken_enqueue, kept]

/-- The entry in flight is overtaken with the message that pushes it out, or was before. -/
theorem Balanced.in_flight_enqueue (balanced : Balanced ledger) (message : OutboundMessage)
    {entry : QueueEntry} (publishing : ledger.traffic.lane.publishing? = some entry) :
    entry ∈ (ledger.act (.enqueue message)).overtaken ↔
      entry ∉ (ledger.queue.enqueue message).2.entries := by
  rcases balanced.sound with ⟨settled, sound⟩
  have soundLater := sound.enqueue message
  have moved : ledger.queue.overflow ++ (ledger.queue.enqueue message).2.entries =
      ledger.queue.entries ++ [⟨ledger.queue.nextSequence, message⟩] :=
    ledger.queue.overflow_append_entries_enqueue message
  have fresh : entry ≠ ⟨ledger.queue.nextSequence, message⟩ := by
    have distinct := List.Nodup.of_map _ soundLater.nodup_sequence
    rintro rfl
    exact (List.nodup_append.mp distinct).2.2 _ (sound.mem_accepted (.inr publishing)) _
      (List.mem_singleton_self _) rfl
  have either : entry ∈ ledger.queue.overflow ∨ entry ∈ (ledger.queue.enqueue message).2.entries ↔
      entry ∈ ledger.queue.entries := by
    rw [← List.mem_append, moved]
    simp [fresh]
  have apart : entry ∈ ledger.queue.overflow → entry ∉ (ledger.queue.enqueue message).2.entries :=
    fun dropped queued => soundLater.sequence_ne (List.mem_append_right _ dropped) queued rfl
  rw [mem_overtaken_enqueue, balanced.in_flight entry publishing, ← either]
  tauto

/-- A message that arrives may move the oldest entry from the queue to the dropped ones. -/
theorem Balanced.enqueue (balanced : Balanced ledger) (message : OutboundMessage) :
    Balanced (ledger.act (.enqueue message)) where
  sound := balanced.sound.imp' _ fun _ sound => sound.enqueue message
  capacity_pos := ledger.queue.capacity_act (.enqueue message) ▸ balanced.capacity_pos
  stats_eq := by
    change (ledger.queue.enqueue message).2.stats = _
    rw [DestinationQueue.stats_enqueue, balanced.stats_eq,
      ← DestinationQueue.length_overflow balanced.capacity_pos]
    simp [act, Traffic.act, Traffic.refuses, queue]
  partition := by
    -- The deliveries stay, so the two sides are compared entry by entry for what has moved.
    rw [balanced.timely_enqueue]
    have counts := List.perm_iff_count.mp balanced.partition
    have moved := ledger.queue.overflow_append_entries_enqueue message
    rw [List.perm_iff_count]
    intro entry
    have before := counts entry
    have shifted := congrArg (List.count entry) moved
    simp only [List.count_append] at before shifted
    simp only [act, Traffic.act, queue, Lane.enqueue, List.count_append] at before shifted ⊢
    omega
  overtaken_subset := by
    intro entry mem
    change entry ∈ ledger.traffic.evicted ++ ledger.queue.overflow
    rcases mem_overtaken_enqueue.mp mem with before | ⟨dropped, -⟩
    · exact List.mem_append_left _ (balanced.overtaken_subset before)
    · exact List.mem_append_right _ dropped
  in_flight := fun _ publishing => balanced.in_flight_enqueue message publishing
  attempts := by
    simpa [act, Traffic.act, Traffic.begins, Traffic.refuses, Lane.enqueue, Lane.publishing?]
      using balanced.attempts

/-- A task that is started anew has nothing in flight, and neither had the one before. -/
theorem Balanced.start (balanced : Balanced ledger) : Balanced (ledger.act .start) := by
  rcases balanced.sound with ⟨settled, sound⟩
  have soundLater : Traffic.Sound (ledger.act .start).traffic settled := sound.start
  by_cases draining : ledger.traffic.lane.isDraining = true
  · have same : ledger.act .start = ledger := by
      simp [act, Traffic.act, Traffic.begins, Traffic.refuses, Traffic.overtakes, Lane.start,
        draining]
    rwa [same]
  · have fresh : ledger.act .start =
        { ledger with
          traffic := { ledger.traffic with lane := ⟨ledger.queue, some .initial⟩ } } := by
      simp [act, Traffic.act, Traffic.begins, Traffic.refuses, Traffic.overtakes, Lane.start,
        draining, queue]
    have attempts := balanced.attempts
    rw [Lane.publishing?_of_not_isDraining (by simpa using draining)] at attempts
    rw [fresh] at soundLater ⊢
    exact
      { balanced with
        sound := ⟨_, soundLater⟩
        in_flight := fun entry publishing => by contradiction
        attempts := attempts }

/-- A move begins one attempt at most, with the oldest entry, which has not been overtaken. -/
theorem Balanced.move (balanced : Balanced ledger) (around : Surroundings) :
    Balanced (ledger.act (.move around)) := by
  rcases balanced.sound with ⟨settled, sound⟩
  have soundLater : Traffic.Sound (ledger.act (.move around)).traffic settled := sound.move around
  cases step : ledger.traffic.lane.step around with
  | none =>
      have same : ledger.act (.move around) = ledger := by
        simp [act, Traffic.act, Traffic.begins, Traffic.refuses, Traffic.overtakes, step]
      rwa [same]
  | some next =>
      have moved : ledger.act (.move around) =
          { ledger with
            traffic := { ledger.traffic with lane := next }
            begun := ledger.begun ++ next.publishing?.toList } := by
        simp [act, Traffic.act, Traffic.begins, Traffic.refuses, Traffic.overtakes, step]
      rcases Lane.move_of_step step with ⟨idle, notified, drain, rfl, oldest⟩
      have attempts := balanced.attempts
      rw [idle, Option.toList_none, List.append_nil] at attempts
      rw [moved] at soundLater ⊢
      refine
        { balanced with
          sound := ⟨_, soundLater⟩
          in_flight := fun entry publishing => ?_
          attempts := attempts.append_right _ }
      have queued : entry ∈ ledger.queue.entries := List.mem_of_head? (oldest entry publishing)
      refine iff_of_false (fun overtaken => ?_) (not_not.mpr queued)
      exact balanced.not_mem_of_evicted (balanced.overtaken_subset overtaken) queued

/-- A failure is one more attempt that has ended; the entry stays where it is. -/
theorem Balanced.refuse (balanced : Balanced ledger) (around : Surroundings)
    {entry : QueueEntry} (publishing : ledger.traffic.lane.publishing? = some entry)
    (idle : (ledger.traffic.lane.finish around false).publishing? = none)
    (landed : (ledger.traffic.lane.finish around false).queue = ledger.queue.recordFailure) :
    Balanced (ledger.act (.finish around false)) := by
  rcases balanced.sound with ⟨settled, sound⟩
  have soundLater : ∃ settled, Traffic.Sound (ledger.act (.finish around false)).traffic settled :=
    sound.finish around false
  have refused : ledger.act (.finish around false) =
      { ledger with
        traffic := { ledger.traffic with lane := ledger.traffic.lane.finish around false }
        refused := ledger.refused ++ [entry] } := by
    simp [act, Traffic.act, Traffic.begins, Traffic.refuses, Traffic.overtakes, publishing]
  have attempts := balanced.attempts
  rw [publishing] at attempts
  rw [refused] at soundLater ⊢
  generalize ledger.traffic.lane.finish around false = later at *
  rcases later with ⟨queue, drain⟩
  subst landed
  refine
    { balanced with
      sound := soundLater
      stats_eq := ?_
      in_flight := ?_
      attempts := ?_ }
  · change DestinationQueue.stats (DestinationQueue.recordFailure _) = _
    simp [DestinationQueue.recordFailure, balanced.stats_eq]
  · intro other flying
    exact absurd (idle.symm.trans flying) (Option.some_ne_none other).symm
  · simpa [idle] using attempts

/-- A delivery takes its entry out of the queue unless the entry has been overtaken. -/
theorem Balanced.entries_perm_complete (balanced : Balanced ledger) {entry : QueueEntry}
    (publishing : ledger.traffic.lane.publishing? = some entry) :
    ledger.queue.entries.Perm
      ((ledger.queue.complete entry.sequence).entries ++
        [entry].filter (· ∉ ledger.overtaken)) := by
  rcases balanced.sound with ⟨settled, sound⟩
  rcases sound.in_flight entry publishing with oldest | gone
  · have queued : entry ∈ ledger.queue.entries := List.mem_of_head? oldest
    have kept : entry ∉ ledger.overtaken := fun overtaken =>
      (balanced.in_flight entry publishing).mp overtaken queued
    rw [List.filter_cons_of_pos (by simpa using kept), List.filter_nil]
    exact .trans (.of_eq (DestinationQueue.entries_eq_cons_complete oldest))
      (List.perm_append_singleton _ _).symm
  · have apart : ∀ queued ∈ ledger.queue.entries, entry.sequence ≠ queued.sequence :=
      fun queued member => sound.sequence_ne (gone.subset (by simp)) member
    have overtaken : entry ∈ ledger.overtaken :=
      (balanced.in_flight entry publishing).mpr fun queued => apart entry queued rfl
    rw [List.filter_cons_of_neg (by simpa using overtaken), List.filter_nil, List.append_nil,
      DestinationQueue.entries_complete_of_gone apart]

/-- A success is one more delivery. -/
theorem Balanced.deliver (balanced : Balanced ledger) (around : Surroundings)
    {entry : QueueEntry} (publishing : ledger.traffic.lane.publishing? = some entry)
    (idle : (ledger.traffic.lane.finish around true).publishing? = none)
    (landed : (ledger.traffic.lane.finish around true).queue =
      ledger.queue.complete entry.sequence) :
    Balanced (ledger.act (.finish around true)) := by
  rcases balanced.sound with ⟨settled, sound⟩
  have published : (ledger.act (.finish around true)).traffic.published =
      ledger.traffic.published ++ [entry] := by
    simp [act, Traffic.act, publishing]
  have overtaken : (ledger.act (.finish around true)).overtaken = ledger.overtaken :=
    List.append_nil _
  have refused : (ledger.act (.finish around true)).refused = ledger.refused :=
    List.append_nil _
  have same : (ledger.act (.finish around true)).queue =
      ledger.queue.complete entry.sequence := landed
  have timely : (ledger.act (.finish around true)).timely =
      ledger.timely ++ [entry].filter (· ∉ ledger.overtaken) := by
    rw [timely, published, overtaken, List.filter_append]
    rfl
  constructor
  · exact sound.finish around true
  · rw [same]
    exact ledger.queue.capacity_act (.complete entry.sequence) ▸ balanced.capacity_pos
  · rw [same, published, refused, DestinationQueue.stats_complete, balanced.stats_eq]
    simp [act, Traffic.act]
  · rw [same, timely]
    have counts := List.perm_iff_count.mp balanced.partition
    have taken := List.perm_iff_count.mp (balanced.entries_perm_complete publishing)
    rw [List.perm_iff_count]
    intro other
    have before := counts other
    have out := taken other
    simp only [List.count_append] at before out
    simp only [act, Traffic.act, List.count_append]
    omega
  · rw [overtaken]
    exact balanced.overtaken_subset
  · intro other flying
    exact absurd (idle.symm.trans flying) (Option.some_ne_none other).symm
  · have counts := List.perm_iff_count.mp balanced.attempts
    change (ledger.begun ++ []).Perm
      (_ ++ _ ++ (ledger.traffic.lane.finish around true).publishing?.toList)
    rw [published, refused, idle, List.perm_iff_count]
    intro other
    have before := counts other
    rw [publishing] at before
    simp only [List.count_append, Option.toList_some, Option.toList_none] at before ⊢
    omega

/-- The end of a publication settles it; without one nothing happens. -/
theorem Balanced.finish (balanced : Balanced ledger) (around : Surroundings) (success : Bool) :
    Balanced (ledger.act (.finish around success)) := by
  rcases Lane.finish_cases ledger.traffic.lane around success with
    ⟨idle, same⟩ | ⟨entry, publishing, idle, landed⟩
  · have unchanged : ledger.act (.finish around success) = ledger := by
      cases success <;>
        simp [act, Traffic.act, Traffic.begins, Traffic.refuses, Traffic.overtakes, idle, same]
    rwa [unchanged]
  · cases success with
    | false => exact balanced.refuse around publishing idle landed
    | true => exact balanced.deliver around publishing idle landed

/-- Every act keeps the balance. -/
theorem Balanced.act (balanced : Balanced ledger) (next : LaneAct) :
    Balanced (ledger.act next) := by
  cases next with
  | enqueue message => exact balanced.enqueue message
  | start => exact balanced.start
  | move around => exact balanced.move around
  | finish around success => exact balanced.finish around success

/-- So does every run. -/
theorem Balanced.run (balanced : Balanced ledger) (acts : List LaneAct) :
    Balanced (ledger.run acts) := by
  induction acts generalizing ledger with
  | nil => exact balanced
  | cons first acts ih => exact ih (balanced.act first)

/-! ## The account -/

/-- The lists of a ledger only become longer, and so do the counts of them. -/
theorem Balanced.grown_act (balanced : Balanced ledger) (next : LaneAct) :
    ledger.queue.stats.Grown (ledger.act next).queue.stats := by
  rw [balanced.stats_eq, (balanced.act next).stats_eq]
  cases next <;> constructor <;> simp [Ledger.act, Traffic.act]

theorem Balanced.grown_run (balanced : Balanced ledger) (acts : List LaneAct) :
    ledger.queue.stats.Grown (ledger.run acts).queue.stats := by
  induction acts generalizing ledger with
  | nil => exact .refl _
  | cons first acts ih => exact (balanced.grown_act first).trans (ih (balanced.act first))

/-- Only a late delivery puts a message under two heads. -/
theorem Balanced.account (balanced : Balanced ledger) :
    (ledger.queue.entries ++ ledger.traffic.evicted ++ ledger.traffic.published).Perm
      (ledger.traffic.accepted ++ ledger.late) := by
  have split : (ledger.late ++ ledger.timely).Perm ledger.traffic.published := by
    simpa [late, timely] using
      List.filter_append_perm (· ∈ ledger.overtaken) ledger.traffic.published
  have deliveries := List.perm_iff_count.mp split
  have messages := List.perm_iff_count.mp balanced.partition
  rw [List.perm_iff_count]
  intro entry
  have delivered := deliveries entry
  have once := messages entry
  simp only [List.count_append] at delivered once ⊢
  omega

/-- A delivery is late exactly if its entry has been dropped. -/
theorem Balanced.mem_late (balanced : Balanced ledger) {entry : QueueEntry} :
    entry ∈ ledger.late ↔ entry ∈ ledger.traffic.evicted ∧ entry ∈ ledger.traffic.published := by
  have distinct := balanced.partition.nodup_iff.mp balanced.nodup_accepted
  rw [List.append_assoc, List.nodup_append, List.nodup_append] at distinct
  simp only [Ledger.late, List.mem_filter, decide_eq_true_eq]
  refine ⟨fun ⟨published, overtaken⟩ => ⟨balanced.overtaken_subset overtaken, published⟩,
    fun ⟨evicted, published⟩ => ⟨published, ?_⟩⟩
  by_contra kept
  have timely : entry ∈ ledger.timely := List.mem_filter.mpr ⟨published, by simpa using kept⟩
  exact distinct.2.1.2.2 _ evicted _ timely rfl

/-- An entry is delivered late once at most. -/
theorem Balanced.nodup_late (balanced : Balanced ledger) : ledger.late.Nodup := by
  rcases balanced.sound with ⟨settled, sound⟩
  have published : ledger.traffic.published.Nodup :=
    sound.published_accepted.nodup balanced.nodup_accepted
  exact published.filter _

/-- After every list of acts the account of a queue is complete:

* the counters count what the record holds;
* what is queued, dropped and delivered is what has been accepted, each message once, and
  once more for every delivery of an entry that was dropped while it was published; these
  are the entries that have been both dropped and delivered;
* so the counters are as many on both sides;
* every attempt has ended with a delivery or a failure, but for the one under way;
* no counter becomes less, whatever happens next. -/
theorem every_message_accounted (topic : String) (capacity retryDelay : Nat)
    (acts : List LaneAct) :
    let ledger := (initial topic capacity retryDelay).run acts
    let traffic := (Traffic.initial topic capacity retryDelay).run acts
    let queue := traffic.lane.queue
    ledger.traffic = traffic ∧
      queue.stats = ⟨traffic.accepted.length, traffic.published.length, traffic.evicted.length,
        ledger.refused.length⟩ ∧
      traffic.accepted.map QueueEntry.message = enqueuedMessages acts ∧
      traffic.accepted.Nodup ∧ ledger.late.Nodup ∧
      (queue.entries ++ traffic.evicted ++ traffic.published).Perm
        (traffic.accepted ++ ledger.late) ∧
      (∀ entry, entry ∈ ledger.late ↔ entry ∈ traffic.evicted ∧ entry ∈ traffic.published) ∧
      queue.stats.enqueued + ledger.late.length =
        queue.length + queue.stats.dropped + queue.stats.delivered ∧
      ledger.begun.length =
        queue.stats.delivered + queue.stats.failed + traffic.lane.publishing?.toList.length ∧
      ∀ more, queue.stats.Grown (traffic.run more).lane.queue.stats := by
  intro ledger traffic queue
  have balanced : Balanced ledger := (balanced_initial topic capacity retryDelay).run acts
  have watched : ledger.traffic = traffic := traffic_run _ acts
  have queue_eq : ledger.queue = queue := congrArg (·.lane.queue) watched
  have stats_eq := balanced.stats_eq
  have account := balanced.account
  have attempts := balanced.attempts.length_eq
  have counts := account.length_eq
  rw [queue_eq, watched] at stats_eq account counts
  rw [watched] at attempts
  simp only [List.length_append] at attempts counts
  refine ⟨watched, stats_eq, Traffic.accepted_run _ acts, watched ▸ balanced.nodup_accepted,
    balanced.nodup_late, account, fun entry => watched ▸ balanced.mem_late, ?_, ?_, fun more => ?_⟩
  · rw [stats_eq]
    simp only [DestinationQueue.length]
    omega
  · rw [stats_eq]
    exact attempts
  · have later : (ledger.run more).queue = (traffic.run more).lane.queue := by
      rw [Ledger.queue, ledger.traffic_run more, watched]
    exact queue_eq ▸ later ▸ balanced.grown_run more

-- The first message makes room for the second while it is published, and arrives.
example :
    let around : Surroundings := ⟨.ofValue true, .ofValue false, 0⟩
    ((initial "site/values" 1 100).run
      [.enqueue ⟨"site/values", "1"⟩, .start, .move around, .move around, .move around,
        .enqueue ⟨"site/values", "2"⟩, .finish around true]).late =
        [⟨0, ⟨"site/values", "1"⟩⟩] := by
  decide

end Ledger

end InverterBridge
