import InverterBridge.Proofs.Lifecycle.Moves

/-!
# The itinerary of a run

A run with a publisher tries to publish two documents, which are never the same, and in between it
turns to every worker and to the drain tasks.  `BridgeRun.itinerary` is all that it does, in order.
`BridgeRun.Reached` says how much of it has been done in every phase; the moves of the run keep it
up, and so do the ends that it waits for.
-/

namespace InverterBridge

/-! ## The two status documents -/

namespace BridgeStatus

/-- Metadata change nothing else of a status. -/
theorem exists_withMetadata_eq (status : BridgeStatus) (value : Json) :
    ∃ metadata, status.withMetadata value = { status with metadata := metadata } := by
  rw [withMetadata]
  split
  next => exact ⟨_, rfl⟩
  next => exact ⟨_, rfl⟩

/-- The state of a bridge shows in the text of its status, whatever the metadata are. -/
theorem state_eq_of_text_eq {bridge version : String} {first second : BridgeState}
    {metadata others : List (String × Json)}
    (same : text ⟨bridge, version, first, metadata⟩ = text ⟨bridge, version, second, others⟩) :
    first = second := by
  have chars := String.ofList_injective same
  simp only [toJson, List.cons_append, Json.chars, Json.moreMembers, List.cons.injEq, true_and,
    List.append_cancel_left_eq] at chars
  -- the texts go on with the names of the states, whose first letters differ
  cases first <;> cases second <;> first
    | rfl
    | simp [BridgeState.name, Quoted.encode, Quoted.escape] at chars

end BridgeStatus

theorem StatusPublisher.running_ne_offline (publisher : StatusPublisher) (metadata : Option Json) :
    publisher.running metadata ≠ publisher.offline := by
  intro same
  have texts := congrArg OutboundMessage.payload same
  suffices absurdity : BridgeState.running = .offline by cases absurdity
  cases metadata with
  | none => exact BridgeStatus.state_eq_of_text_eq texts
  | some value =>
      obtain ⟨added, withAdded⟩ := BridgeStatus.exists_withMetadata_eq
        (.running publisher.bridge publisher.version) value
      have texts : (BridgeStatus.withMetadata (.running publisher.bridge publisher.version)
        value).text = (BridgeStatus.offline publisher.bridge publisher.version).text := texts
      rw [withAdded] at texts
      exact BridgeStatus.state_eq_of_text_eq texts

/-- The status document that a deed attempts to publish. -/
def RunDeed.attempt? : RunDeed → Option OutboundMessage
  | .attempt message => some message
  | _ => none

namespace BridgeRun

/-! ## The itinerary -/

/-- What a run does about the worker of an index. -/
def visit (workers : List Worker) (index : Nat) : List RunDeed :=
  if workers[index]?.any Worker.isAborted then [.joinWorker index, .abortWorker index]
  else [.joinWorker index]

/-- What a run does about the first workers. -/
def visits (workers : List Worker) (count : Nat) : List RunDeed :=
  (List.range count).flatMap (visit workers)

/-- What a run with a publisher does until it has turned to the first workers. -/
def opening (publisher : StatusPublisher) (metadata : Option Json) (workers : List Worker)
    (count : Nat) : List RunDeed :=
  [.attempt (publisher.running metadata), .requestShutdown] ++ visits workers count

/-- All that a run with a publisher does, with workers that end as they do and with a number of
drain tasks when these are joined. -/
def itinerary (publisher : StatusPublisher) (metadata : Option Json) (workers : List Worker)
    (drains : Nat) : List RunDeed :=
  opening publisher metadata workers workers.length ++
    [.joinDrains drains, .attempt publisher.offline, .closeSession]

/-- What a run with a publisher has done when it comes to a phase. -/
inductive Reached (publisher : StatusPublisher) (metadata : Option Json)
    (workers : List Worker) : RunPhase → List RunDeed → Prop
  | starting : Reached publisher metadata workers .starting []
  | announcing :
      Reached publisher metadata workers .announcing [.attempt (publisher.running metadata)]
  | serving : Reached publisher metadata workers .serving [.attempt (publisher.running metadata)]
  | turning {index : Nat} (within : index ≤ workers.length) :
      Reached publisher metadata workers (.turning index)
        (opening publisher metadata workers index)
  | joining {index deadline : Nat} (within : index < workers.length) :
      Reached publisher metadata workers (.joining index deadline)
        (opening publisher metadata workers index ++ [.joinWorker index])
  | draining {count deadline : Nat} :
      Reached publisher metadata workers (.draining count deadline)
        (opening publisher metadata workers workers.length ++ [.joinDrains count])
  | signingOff (count : Nat) :
      Reached publisher metadata workers .signingOff
        (opening publisher metadata workers workers.length ++
          [.joinDrains count, .attempt publisher.offline])
  | signedOff (count : Nat) :
      Reached publisher metadata workers .signedOff
        (opening publisher metadata workers workers.length ++
          [.joinDrains count, .attempt publisher.offline])
  | closing (count : Nat) :
      Reached publisher metadata workers .closing (itinerary publisher metadata workers count)
  | finished (count : Nat) :
      Reached publisher metadata workers .finished (itinerary publisher metadata workers count)

section

variable {publisher : StatusPublisher} {metadata : Option Json} {workers others : List Worker}

theorem visits_succ (workers : List Worker) (count : Nat) :
    visits workers (count + 1) = visits workers count ++ visit workers count := by
  simp [visits, List.range_succ]

theorem opening_succ (publisher : StatusPublisher) (metadata : Option Json)
    (workers : List Worker) (count : Nat) :
    opening publisher metadata workers (count + 1) =
      opening publisher metadata workers count ++ visit workers count := by
  rw [opening, visits_succ, ← List.append_assoc, ← opening]

/-- What is done about the first workers depends only on who of them has been cut off. -/
theorem opening_congr {count : Nat}
    (same : ∀ index < count,
      others[index]?.any Worker.isAborted = workers[index]?.any Worker.isAborted) :
    opening publisher metadata others count = opening publisher metadata workers count := by
  rw [opening, opening, visits, visits, List.flatMap_congr]
  intro index inside
  rw [visit, visit, same index (List.mem_range.mp inside)]

theorem opening_prefix_opening {first last : Nat} (order : first ≤ last) :
    opening publisher metadata workers first <+: opening publisher metadata workers last := by
  induction order with
  | refl => exact List.prefix_rfl
  | step _ ih =>
      rw [opening_succ]
      exact ih.trans (List.prefix_append _ _)

theorem opening_prefix_itinerary {count drains : Nat} (within : count ≤ workers.length) :
    opening publisher metadata workers count <+: itinerary publisher metadata workers drains :=
  (opening_prefix_opening within).trans (List.prefix_append _ _)

theorem joinWorker_prefix_opening (index : Nat) :
    opening publisher metadata workers index ++ [.joinWorker index] <+:
      opening publisher metadata workers (index + 1) := by
  rw [opening_succ, visit, List.prefix_append_right_inj]
  split
  · exact List.prefix_append _ _
  · exact List.prefix_rfl

/-- The documents of an itinerary are the two statuses. -/
theorem filterMap_attempt?_itinerary (publisher : StatusPublisher) (metadata : Option Json)
    (workers : List Worker) (drains : Nat) :
    (itinerary publisher metadata workers drains).filterMap RunDeed.attempt? =
      [publisher.running metadata, publisher.offline] := by
  have silent : (visits workers workers.length).filterMap RunDeed.attempt? = [] := by
    rw [visits, List.filterMap_flatMap, List.flatMap_eq_nil_iff]
    intro index _
    rw [visit]
    split <;> rfl
  rw [itinerary, opening, List.filterMap_append, List.filterMap_append, silent]
  rfl

variable {phase : RunPhase} {deeds : List RunDeed}

/-- What a run has done is the beginning of an itinerary, and all of it once the run is over. -/
theorem Reached.exists_itinerary (reached : Reached publisher metadata workers phase deeds) :
    ∃ drains, deeds <+: itinerary publisher metadata workers drains ∧
      (phase = .finished → deeds = itinerary publisher metadata workers drains) := by
  have first : [.attempt (publisher.running metadata)] <+:
      itinerary publisher metadata workers 0 := List.prefix_append _ _
  cases reached with
  | starting => exact ⟨0, List.nil_prefix, nofun⟩
  | announcing => exact ⟨0, first, nofun⟩
  | serving => exact ⟨0, first, nofun⟩
  | turning within => exact ⟨0, opening_prefix_itinerary within, nofun⟩
  | joining within =>
      exact ⟨0, (joinWorker_prefix_opening _).trans (opening_prefix_itinerary within), nofun⟩
  | draining =>
      exact ⟨_, (List.prefix_append_right_inj _).mpr (List.prefix_append _ _), nofun⟩
  | signingOff drains | signedOff drains =>
      exact ⟨drains, (List.prefix_append_right_inj _).mpr (List.prefix_append _ _), nofun⟩
  | closing drains => exact ⟨drains, List.prefix_rfl, nofun⟩
  | finished drains => exact ⟨drains, List.prefix_rfl, fun _ => rfl⟩

/-- The itinerary so far depends only on who of the workers has been cut off. -/
theorem Reached.congr (reached : Reached publisher metadata workers phase deeds)
    (count : others.length = workers.length)
    (same : ∀ index : Nat,
      others[index]?.any Worker.isAborted = workers[index]?.any Worker.isAborted) :
    Reached publisher metadata others phase deeds := by
  have equal (count : Nat) :
      opening publisher metadata workers count = opening publisher metadata others count :=
    (opening_congr fun index _ => same index).symm
  cases reached with
  | starting => exact .starting
  | announcing => exact .announcing
  | serving => exact .serving
  | turning within => exact equal _ ▸ .turning (count ▸ within)
  | joining within => exact equal _ ▸ .joining (count ▸ within)
  | draining => rw [equal, ← count]; exact .draining
  | signingOff drains => rw [equal, ← count]; exact .signingOff drains
  | signedOff drains => rw [equal, ← count]; exact .signedOff drains
  | closing drains => rw [itinerary, equal, ← count]; exact .closing drains
  | finished drains => rw [itinerary, equal, ← count]; exact .finished drains

/-- The end of something that the run waits for is no deed. -/
theorem Reached.awaited {after : RunPhase}
    (reached : Reached publisher metadata workers phase deeds) (awaited : phase.Awaited after) :
    Reached publisher metadata workers after deeds := by
  cases awaited with
  | announced => cases reached; exact .serving
  | signedOff => cases reached with | signingOff drains => exact .signedOff drains
  | closed => cases reached with | closing drains => exact .finished drains

/-- A worker that is cut off has been joined before. -/
theorem opening_abort {run : BridgeRun} {index : Nat} (running : run.isRunningAt index = true) :
    opening publisher metadata (run.abort index).workers (index + 1) =
      opening publisher metadata run.workers index ++ [.joinWorker index] ++
        [.abortWorker index] := by
  have cut : (run.abort index).workers[index]?.any Worker.isAborted = true :=
    isAbortedAt_abort_self running
  have earlier : ∀ other < index, (run.abort index).workers[other]?.any Worker.isAborted =
      run.workers[other]?.any Worker.isAborted := fun other before =>
    isAbortedAt_abort_of_ne run (Nat.ne_of_gt before)
  rw [opening_succ, opening_congr earlier, visit, if_pos cut, List.append_assoc]
  rfl

/-- A move takes a run to its next phase by the deed that the itinerary has there. -/
theorem Reached.move {now : Nat} {run next : BridgeRun} {deed : Option RunDeed}
    (reached : Reached publisher run.metadata run.workers run.phase deeds)
    (known : run.publisher = some publisher)
    (intact : ∀ index, run.phase.joined run.workers.length ≤ index →
      run.isAbortedAt index = false)
    (move : Move now run deed next) :
    Reached publisher run.metadata next.workers next.phase (deeds ++ deed.toList) := by
  cases move with
  | announce phase there =>
      obtain rfl := Option.some.inj (known.symm.trans there)
      rw [phase] at reached
      cases reached
      exact .announcing
  | serve _ silent | part _ silent => simp [known] at silent
  | leave phase =>
      rw [phase] at reached
      cases reached
      exact .turning (Nat.zero_le _)
  | join phase there =>
      rw [phase] at reached
      cases reached
      exact .joining there
  | joinDrains phase last =>
      rw [phase] at reached
      cases reached with
      | turning within =>
          obtain rfl := Nat.le_antisymm within last
          exact .draining
  | @pass index deadline phase ended =>
      rw [phase] at reached intact
      cases reached with
      | joining within =>
          have uncut : run.workers[index]?.any Worker.isAborted = false :=
            intact index (Nat.le_refl _)
          have visited := opening_succ publisher run.metadata run.workers index
          rw [visit, uncut] at visited
          rw [Option.toList_none, List.append_nil]
          exact visited ▸ .turning within
  | @cut index deadline phase running late =>
      rw [phase] at reached
      cases reached with
      | joining within =>
          rw [Option.toList_some, ← opening_abort running]
          exact .turning (by rwa [length_workers_abort])
  | signOff phase there =>
      obtain rfl := Option.some.inj (known.symm.trans there)
      rw [phase] at reached
      cases reached
      rw [Option.toList_some, List.append_assoc]
      exact .signingOff _
  | close phase =>
      rw [phase] at reached
      cases reached with
      | signedOff drains =>
          rw [Option.toList_some, List.append_assoc]
          exact .closing drains

end

end BridgeRun

end InverterBridge
