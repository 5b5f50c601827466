import InverterBridge.Shutdown
import Mathlib.Data.List.Induction

/-!
# Who sees a request for shutdown

A shutdown signal is held by handles, receivers and waiters, any number of which come and go in
any order.  Each waiter runs by itself, some time after what it waits for has happened, so the
acts of a signal are the steps of its holders and the turns of its waiters.

The handles and the receivers show whether a handle has been triggered, and `Shutdown.Sound` is
the invariant that ties the signal to this history.  The waiters look for more: they are released
as well when every handle is gone, and that shows on no receiver.
-/

namespace InverterBridge

namespace Shutdown

/-! ## Acts -/

/-- Something that happens around a shutdown signal. -/
inductive Act where
  /-- A step of someone who holds on to the signal. -/
  | step (step : ShutdownStep)
  /-- The waiter of an index runs. -/
  | poll (waiter : Nat)
  deriving DecidableEq, Repr

/-- Let the waiter of an index run: it is released if it can be. -/
def poll (shutdown : Shutdown) (waiter : Nat) : Shutdown :=
  { shutdown with
    waiters := shutdown.waiters.modify waiter (· || shutdown.signal.released) }

/-- Apply an act. -/
def perform (shutdown : Shutdown) : Act → Shutdown
  | .step step => shutdown.act step
  | .poll waiter => shutdown.poll waiter

/-- Apply acts in order. -/
def performAll (shutdown : Shutdown) (acts : List Act) : Shutdown :=
  acts.foldl perform shutdown

/-- What a receiver shows, none if there is no such receiver. -/
def shownOn? (shutdown : Shutdown) (receiver : Nat) : Option Bool :=
  if receiver < shutdown.receivers then some shutdown.isShutdown else none

/-- Every handle has been dropped. -/
def AllDropped (shutdown : Shutdown) : Prop :=
  ∀ handle, shutdown.hasHandle handle = false

/-! ## Histories -/

/-- At some point of a history an act has been found after the acts before it. -/
def Happened (Found : List Act → Act → Prop) (acts : List Act) : Prop :=
  ∃ before act after, acts = before ++ act :: after ∧ Found before act

/-- A handle has been triggered that was there. -/
def Triggered : List Act → Prop :=
  Happened fun before act =>
    ∃ handle, act = .step (.trigger handle) ∧ (initial.performAll before).hasHandle handle = true

/-- What a waiter waits for: shutdown has been requested, or can no longer be. -/
def Due (acts : List Act) : Prop :=
  Triggered acts ∨ (initial.performAll acts).AllDropped

/-- A waiter has run when what it waits for had happened. -/
def RanWhenDue (waiter : Nat) : List Act → Prop :=
  Happened fun before act =>
    act = .poll waiter ∧ waiter < (initial.performAll before).waiters.length ∧ Due before

@[simp]
theorem performAll_concat (shutdown : Shutdown) (acts : List Act) (last : Act) :
    shutdown.performAll (acts ++ [last]) = (shutdown.performAll acts).perform last := by
  simp [performAll, List.foldl_append]

theorem not_happened_nil (Found : List Act → Act → Prop) : ¬ Happened Found [] := by
  rintro ⟨before, act, after, same, -⟩
  simp at same

theorem happened_concat (Found : List Act → Act → Prop) (acts : List Act) (last : Act) :
    Happened Found (acts ++ [last]) ↔ Happened Found acts ∨ Found acts last := by
  constructor
  · rintro ⟨before, act, after, same, found⟩
    rcases List.eq_nil_or_concat after with rfl | ⟨rest, final, rfl⟩
    · obtain ⟨rfl, final⟩ := List.append_inj' same rfl
      obtain rfl := List.singleton_inj.mp final
      exact .inr found
    · have moved : acts ++ [last] = (before ++ act :: rest) ++ [final] := by simpa using same
      obtain ⟨rfl, -⟩ := List.append_inj' moved rfl
      exact .inl ⟨before, act, rest, rfl, found⟩
  · rintro (⟨before, act, after, rfl, found⟩ | found)
    · exact ⟨before, act, after ++ [last], by simp, found⟩
    · exact ⟨acts, last, [], rfl, found⟩

variable {shutdown : Shutdown} {acts : List Act}

/-! ## Handles -/

theorem exists_hasHandle_iff :
    (∃ handle, shutdown.hasHandle handle = true) ↔ true ∈ shutdown.handles := by
  rw [List.mem_iff_getElem?]
  apply exists_congr
  intro handle
  rw [hasHandle]
  cases shutdown.handles[handle]? <;> simp

theorem not_allDropped_iff : ¬ shutdown.AllDropped ↔ true ∈ shutdown.handles := by
  rw [← exists_hasHandle_iff]
  simp [AllDropped]

theorem triggered_concat_step (step : ShutdownStep) :
    Triggered (acts ++ [.step step]) ↔
      Triggered acts ∨
        ∃ handle, step = .trigger handle ∧ (initial.performAll acts).hasHandle handle = true := by
  rw [Triggered, happened_concat]
  simp only [Act.step.injEq]

theorem triggered_concat_poll (waiter : Nat) :
    Triggered (acts ++ [.poll waiter]) ↔ Triggered acts := by
  rw [Triggered, happened_concat]
  simp

theorem ranWhenDue_concat_step (waiter : Nat) (step : ShutdownStep) :
    RanWhenDue waiter (acts ++ [.step step]) ↔ RanWhenDue waiter acts := by
  rw [RanWhenDue, happened_concat]
  simp

theorem ranWhenDue_concat_poll (waiter other : Nat) :
    RanWhenDue waiter (acts ++ [.poll other]) ↔
      RanWhenDue waiter acts ∨
        other = waiter ∧ waiter < (initial.performAll acts).waiters.length ∧ Due acts := by
  rw [RanWhenDue, happened_concat]
  simp only [Act.poll.injEq]

/-! ## The signal and its history -/

/-- The signal shows its history: whether a handle has been triggered and whether there is one,
and each waiter shows whether it has run in time. -/
structure Sound (acts : List Act) (shutdown : Shutdown) : Prop where
  value_iff : shutdown.signal.value = true ↔ Triggered acts
  live_iff : shutdown.signal.live = true ↔ true ∈ shutdown.handles
  /-- A waiter that has not been started yet has not run. -/
  started : ∀ waiter, RanWhenDue waiter acts → waiter < shutdown.waiters.length
  waiters : ∀ waiter done, shutdown.waiters[waiter]? = some done →
    (done = true ↔ RanWhenDue waiter acts)

theorem sound_initial : Sound [] initial where
  value_iff := by simp [initial, Signal.ofValue, Triggered, not_happened_nil]
  live_iff := by simp [initial, Signal.ofValue]
  started _ ran := absurd ran (not_happened_nil _)
  waiters _ _ there := by simp [initial] at there

/-- The signal releases who waits for it when that is due. -/
theorem Sound.released_iff (sound : Sound acts (initial.performAll acts)) :
    (initial.performAll acts).signal.released = true ↔ Due acts := by
  rw [Signal.released, Bool.or_eq_true, Bool.not_eq_true', Due, sound.value_iff,
    ← Bool.not_eq_true, sound.live_iff, ← not_allDropped_iff, not_not]

/-- A handle that is there shows that the signal has not lost its source. -/
theorem mem_handles_of_hasHandle {handle : Nat} (there : shutdown.hasHandle handle = true) :
    true ∈ shutdown.handles :=
  exists_hasHandle_iff.mp ⟨handle, there⟩

/-- A step requests shutdown only by triggering a handle that is there. -/
theorem value_act (step : ShutdownStep)
    (live : true ∈ shutdown.handles → shutdown.signal.live = true) :
    (shutdown.act step).signal.value = true ↔
      shutdown.signal.value = true ∨
        ∃ handle, step = .trigger handle ∧ shutdown.hasHandle handle = true := by
  cases step with
  | trigger handle =>
      cases there : shutdown.hasHandle handle with
      | true => simp [act, Signal.announce, there, live (mem_handles_of_hasHandle there)]
      | false => simp [act, there]
  | drop handle =>
      simp only [act, dropHandle]
      split <;> (try split) <;> simp
  | _ =>
      simp only [act]
      split <;> simp

/-- The signal loses its source with the last handle. -/
theorem live_act (step : ShutdownStep)
    (live_iff : shutdown.signal.live = true ↔ true ∈ shutdown.handles) :
    (shutdown.act step).signal.live = true ↔ true ∈ (shutdown.act step).handles := by
  cases step with
  | clone handle =>
      cases there : shutdown.hasHandle handle with
      | true => simp [act, there, live_iff.mpr (mem_handles_of_hasHandle there)]
      | false => simpa [act, there] using live_iff
  | trigger handle =>
      cases there : shutdown.hasHandle handle with
      | true => simp [act, Signal.announce, there, live_iff.mpr (mem_handles_of_hasHandle there),
          mem_handles_of_hasHandle there]
      | false => simpa [act, there] using live_iff
  | drop handle =>
      cases there : shutdown.hasHandle handle with
      | true =>
          have live := live_iff.mpr (mem_handles_of_hasHandle there)
          by_cases others : true ∈ shutdown.handles.set handle false
          · simp [act, dropHandle, there, others, live]
          · simp [act, dropHandle, there, others, Signal.close]
      | false => simpa [act, there] using live_iff
  | _ =>
      simp only [act]
      split <;> exact live_iff

/-- A step may add a waiter that has not run. -/
theorem waiters_act (shutdown : Shutdown) (step : ShutdownStep) :
    (shutdown.act step).waiters = shutdown.waiters ∨
      (shutdown.act step).waiters = shutdown.waiters ++ [false] := by
  cases step with
  | wait receiver =>
      simp only [act]
      split
      · exact .inr rfl
      · exact .inl rfl
  | _ =>
      left
      simp only [act]
      split <;> rfl

theorem Sound.step (sound : Sound acts (initial.performAll acts)) (step : ShutdownStep) :
    Sound (acts ++ [.step step]) ((initial.performAll acts).act step) where
  value_iff := by
    rw [value_act step sound.live_iff.mpr, sound.value_iff, triggered_concat_step]
  live_iff := live_act step sound.live_iff
  started waiter ran := by
    have inside := sound.started waiter ((ranWhenDue_concat_step waiter step).mp ran)
    rcases waiters_act (initial.performAll acts) step with same | added
    · exact same ▸ inside
    · rw [added, List.length_append]
      exact Nat.lt_add_right _ inside
  waiters waiter done there := by
    rw [ranWhenDue_concat_step]
    rcases waiters_act (initial.performAll acts) step with same | added
    · exact sound.waiters waiter done (same ▸ there)
    · rw [added, List.getElem?_append] at there
      split at there
      · exact sound.waiters waiter done there
      · next outside =>
          have fresh : done = false := by
            have single := List.mem_of_getElem? there
            simpa using single
          rw [fresh]
          exact ⟨fun contrary => absurd contrary (by decide),
            fun ran => absurd (sound.started waiter ran) outside⟩

theorem Sound.poll (sound : Sound acts (initial.performAll acts)) (polled : Nat) :
    Sound (acts ++ [.poll polled]) ((initial.performAll acts).poll polled) where
  value_iff := by
    rw [triggered_concat_poll]
    exact sound.value_iff
  live_iff := sound.live_iff
  started waiter ran := by
    rw [Shutdown.poll, List.length_modify]
    rcases (ranWhenDue_concat_poll waiter polled).mp ran with earlier | ⟨-, inside, -⟩
    · exact sound.started waiter earlier
    · exact inside
  waiters waiter done there := by
    rw [ranWhenDue_concat_poll, ← sound.released_iff]
    rw [Shutdown.poll, List.getElem?_modify] at there
    obtain ⟨before, was, rfl⟩ := Option.map_eq_some_iff.mp there
    have inside : waiter < (initial.performAll acts).waiters.length :=
      (List.getElem?_eq_some_iff.mp was).1
    rw [← sound.waiters waiter before was]
    by_cases same : polled = waiter
    · simp [same, inside]
    · simp [same]

theorem sound_performAll (acts : List Act) : Sound acts (initial.performAll acts) := by
  induction acts using List.reverseRecOn with
  | nil => exact sound_initial
  | append_singleton acts last sound =>
      rw [performAll_concat]
      cases last with
      | step step => exact sound.step step
      | poll waiter => exact sound.poll waiter

/-! ## What stays -/

theorem happened_append {Found : List Act → Act → Prop} (happened : Happened Found acts)
    (more : List Act) : Happened Found (acts ++ more) := by
  obtain ⟨before, act, after, rfl, found⟩ := happened
  exact ⟨before, act, after ++ more, by simp, found⟩

/-- There are no new handles when all are gone. -/
theorem AllDropped.act (dropped : shutdown.AllDropped) (step : ShutdownStep) :
    (shutdown.act step).AllDropped := by
  have absent (handle : Nat) : shutdown.hasHandle handle = false := dropped handle
  cases step with
  | wait receiver =>
      simp only [Shutdown.act]
      split <;> exact dropped
  | _ => simpa [Shutdown.act, absent] using dropped

theorem AllDropped.performAll (dropped : shutdown.AllDropped) (acts : List Act) :
    (shutdown.performAll acts).AllDropped := by
  induction acts generalizing shutdown with
  | nil => exact dropped
  | cons first acts ih =>
      cases first with
      | step step => exact ih (dropped.act step)
      | poll waiter => exact @ih (shutdown.poll waiter) dropped

theorem due_append (due : Due acts) (more : List Act) : Due (acts ++ more) := by
  rcases due with triggered | dropped
  · exact .inl (happened_append triggered more)
  · right
    rw [performAll, List.foldl_append]
    exact dropped.performAll more

theorem due_of_ranWhenDue {waiter : Nat} (ran : RanWhenDue waiter acts) : Due acts := by
  obtain ⟨before, act, after, rfl, -, -, due⟩ := ran
  exact due_append due (act :: after)

/-- When every waiter has run, each of them is released if that is due and none otherwise. -/
theorem released_wake_iff {done : Bool}
    (waits : done ∈ (initial.performAll acts).wake.waiters) : done = true ↔ Due acts := by
  have sound := sound_performAll acts
  obtain ⟨before, member, rfl⟩ := List.mem_map.mp waits
  rw [Bool.or_eq_true, sound.released_iff]
  obtain ⟨waiter, was⟩ := List.mem_iff_getElem?.mp member
  exact or_iff_right_of_imp fun released =>
    due_of_ranWhenDue ((sound.waiters waiter before was).mp released)

/-! ## Steps between which all waiters run -/

theorem getElem?_waiters_polls (shutdown : Shutdown) (polled : List Nat) (waiter : Nat) :
    (shutdown.performAll (polled.map .poll)).waiters[waiter]? =
      shutdown.waiters[waiter]?.map
        (· || decide (waiter ∈ polled) && shutdown.signal.released) := by
  induction polled generalizing shutdown with
  | nil => simp [performAll]
  | cons first polled ih =>
      have moves : shutdown.performAll ((first :: polled).map .poll) =
          (shutdown.poll first).performAll (polled.map .poll) := rfl
      rw [moves, ih, poll, List.getElem?_modify, Option.map_eq_map, Option.map_map]
      congr 1
      funext done
      by_cases same : first = waiter
      · subst same
        cases done <;> cases shutdown.signal.released <;> simp
      · have other : waiter ≠ first := fun contrary => same contrary.symm
        simp [same, other]

theorem polls_eq (shutdown : Shutdown) (polled : List Nat) :
    shutdown.performAll (polled.map .poll) =
      { shutdown with waiters := (shutdown.performAll (polled.map .poll)).waiters } := by
  induction polled generalizing shutdown with
  | nil => rfl
  | cons first polled ih => exact ih (shutdown.poll first)

/-- A step after which all waiters run is an act of its holder and a turn of each waiter. -/
theorem step_eq_performAll (shutdown : Shutdown) (step : ShutdownStep) :
    shutdown.step step =
      shutdown.performAll
        (.step step :: (List.range (shutdown.act step).waiters.length).map .poll) := by
  have moves : shutdown.performAll
      (.step step :: (List.range (shutdown.act step).waiters.length).map .poll) =
        (shutdown.act step).performAll
          ((List.range (shutdown.act step).waiters.length).map .poll) := rfl
  rw [moves, polls_eq, Shutdown.step, wake]
  congr 1
  apply List.ext_getElem?
  intro waiter
  rw [getElem?_waiters_polls, List.getElem?_map]
  by_cases inside : waiter < (shutdown.act step).waiters.length
  · simp [inside]
  · simp [List.getElem?_eq_none (Nat.le_of_not_lt inside)]

/-! ## Every history -/

/-- Whatever the holders of a shutdown signal do, and whenever its waiters run: all handles that are
there and all receivers show the same, namely whether a handle has been triggered, and go on to show
it; triggering a handle once more changes nothing but the count of announcements.  A waiter is
released when it runs after a handle has been triggered or all of them have been dropped, and not
before.  With all handles dropped and none of them triggered the waiters are released as they run,
and no receiver shows a request. -/
theorem observers_agree (acts : List Act) :
    let shutdown := initial.performAll acts
    (∀ handle, shutdown.hasHandle handle = true →
      shutdown.isTriggered handle = some shutdown.isShutdown) ∧
    (∀ receiver, receiver < shutdown.receivers →
      shutdown.shownOn? receiver = some shutdown.isShutdown) ∧
    (shutdown.isShutdown = true ↔ Triggered acts) ∧
    (shutdown.isShutdown = true → ∀ more, (shutdown.performAll more).isShutdown = true) ∧
    (shutdown.isShutdown = true → ∀ handle, ∃ changes,
      shutdown.act (.trigger handle) = { shutdown with signal.changes := changes }) ∧
    (∀ waiter done, shutdown.waiters[waiter]? = some done →
      (done = true ↔ RanWhenDue waiter acts)) ∧
    (∀ done ∈ shutdown.wake.waiters, (done = true ↔ Triggered acts ∨ shutdown.AllDropped)) ∧
    (shutdown.AllDropped → ¬ Triggered acts →
      (∀ done ∈ shutdown.wake.waiters, done = true) ∧
        ∀ receiver, receiver < shutdown.receivers → shutdown.shownOn? receiver = some false) := by
  intro shutdown
  have sound : Sound acts shutdown := sound_performAll acts
  have shows (receiver : Nat) (there : receiver < shutdown.receivers) :
      shutdown.shownOn? receiver = some shutdown.isShutdown := if_pos there
  refine ⟨fun handle there => if_pos there, shows, sound.value_iff, ?_, ?_, sound.waiters,
    fun done waits => released_wake_iff waits, ?_⟩
  · intro requested more
    have later : Triggered (acts ++ more) := happened_append (sound.value_iff.mp requested) more
    have same : shutdown.performAll more = initial.performAll (acts ++ more) := by
      rw [performAll, performAll, List.foldl_append]
      rfl
    rw [same]
    exact (sound_performAll (acts ++ more)).value_iff.mpr later
  · intro requested handle
    have value : shutdown.signal.value = true := requested
    simp only [act, Signal.announce]
    split
    · split
      · exact ⟨shutdown.signal.changes + 1, by rw [← value]⟩
      · exact ⟨shutdown.signal.changes, rfl⟩
    · exact ⟨shutdown.signal.changes, rfl⟩
  · intro dropped untouched
    refine ⟨fun done waits => (released_wake_iff waits).mpr (.inr dropped), ?_⟩
    intro receiver there
    have quiet : shutdown.isShutdown = false :=
      Bool.not_eq_true _ |>.mp fun requested => untouched (sound.value_iff.mp requested)
    rw [shows receiver there, quiet]

/-- The last handle is dropped without a request, under a waiter that has been started before. -/
theorem waiter_released_by_last_drop :
    let acts : List Act := [.step (.clone 0), .step (.subscribe 1), .step (.wait 0),
      .step (.drop 0), .poll 0, .step (.drop 1)]
    let shutdown := initial.performAll acts
    shutdown.waiters = [false] ∧ (∀ done ∈ shutdown.wake.waiters, done = true) ∧
      shutdown.shownOn? 0 = some false := by
  intro acts shutdown
  obtain ⟨-, -, requested_iff, -, -, -, -, abandoned⟩ := observers_agree acts
  have dropped : shutdown.AllDropped := by
    by_contra kept
    exact absurd (not_allDropped_iff.mp kept) (by decide)
  have untouched : ¬ Triggered acts := fun triggered =>
    absurd (requested_iff.mpr triggered) (by decide)
  obtain ⟨released, shown⟩ := abandoned dropped untouched
  exact ⟨by decide, released, shown 0 (by decide)⟩

end Shutdown

end InverterBridge
