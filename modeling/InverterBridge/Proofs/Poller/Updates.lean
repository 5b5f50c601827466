import InverterBridge.Proofs.Poller.Changes
import InverterBridge.Proofs.Poller.Log

/-!
# Updates as a whole or not at all

An update of a polled channel is made of one fetch and many further questions,
each of which may fail.  `Polled.Attempted` says what an update may do to its
channel: replace the slot and hand out its document, or nothing.  A tick
attempts the updates of its channels one after the other, whatever came of the
earlier ones, and no attempt touches the channel of another.

The invariant `Polled.InStep` follows: the last document that was handed out on
a channel is the document of the slot, and this is the document of the
snapshot in the slot.  The one exception of a tick is a snapshot of 255 inputs,
which is read in full and has no document: there the tick breaks down, and the
update of the events is not attempted.
-/

namespace InverterBridge

namespace ValueSnapshot

/-- A snapshot of at most three phases has a document unless it has 255 inputs. -/
theorem document?_eq_none_iff {snapshot : ValueSnapshot} (entries : snapshot.Entries) :
    Polled.values.document? snapshot = none ↔ 255 ≤ snapshot.inputs.length := by
  have phases : numbered? snapshot.phases ≠ none := by
    have few := entries.length_phases_le
    rw [Ne, numbered?_eq_none_iff]
    omega
  rcases Option.ne_none_iff_exists'.mp phases with ⟨numbered, phases⟩
  rw [← numbered?_eq_none_iff, Polled.document?, Option.map_eq_none_iff,
    ValuesDocument.ofSnapshot?, phases]
  cases numbered? snapshot.inputs <;> simp

end ValueSnapshot

namespace Polled

variable {α β γ : Type} {polled : Polled α} {before after : Poller γ}

/-! ## One channel -/

/-- The slot and the documents of a channel are the same in both states. -/
structure Untouched (polled : Polled α) (before after : Poller γ) : Prop where
  slot_eq : polled.slot after = polled.slot before
  documents_eq : after.documentsOn polled.channel = before.documentsOn polled.channel

theorem Untouched.refl (polled : Polled α) (poller : Poller γ) : polled.Untouched poller poller :=
  ⟨rfl, rfl⟩

theorem Untouched.trans {middle : Poller γ} (first : polled.Untouched before middle)
    (second : polled.Untouched middle after) : polled.Untouched before after :=
  ⟨second.slot_eq.trans first.slot_eq, second.documents_eq.trans first.documents_eq⟩

theorem untouched_gateway (polled : Polled α) (poller : Poller γ) (state : γ) :
    polled.Untouched poller { poller with gateway := state } :=
  ⟨polled.slot_surround poller state poller.inbox poller.identified, rfl⟩

theorem untouched_setState (polled : Polled α) (poller : Poller γ) (time : Int)
    (state : ConnectionState) : polled.Untouched poller (poller.setState time state) :=
  ⟨by simp, by simp [polled.channel_ne_availability]⟩

theorem untouched_store {polled : Polled α} {other : Polled β}
    (different : other.channel ≠ polled.channel) (poller : Poller γ) (committed : Committed β) :
    polled.Untouched poller (other.store committed poller) :=
  ⟨slot_store_of_ne _ _ different, by simp⟩

theorem untouched_dispatch (polled : Polled α) {channel : Channel}
    (different : channel ≠ polled.channel) (poller : Poller γ) (document : String) :
    polled.Untouched poller (poller.dispatch channel document) :=
  ⟨by simp, by simp [different]⟩

/-- What an update has done to its channel between two states, where `attempted`
is the state in which the attempt ended.  A successful one has replaced the slot
first and then handed out the document; a failed one has done nothing. -/
def Attempted (polled : Polled α) (result : Except UpdateError α)
    (before attempted after : Poller γ) : Prop :=
  match result with
  | .ok snapshot =>
      ∃ (document : String) (committed : Poller γ),
        polled.document? snapshot = some document ∧
          polled.slot committed = some ⟨snapshot, document⟩ ∧
          committed.documentsOn polled.channel = before.documentsOn polled.channel ∧
          attempted = committed.dispatch polled.channel document ∧
          polled.slot after = some ⟨snapshot, document⟩ ∧
          after.documentsOn polled.channel = before.documentsOn polled.channel ++ [document]
  | .error _ => polled.Untouched before after

end Polled

namespace Poller

variable {α β γ : Type} {polled : Polled α} {other : Polled β} {gateway : Gateway γ}
  {time : Int} {poller before after : Poller γ}

/-- An attempt leaves the other polled channels alone. -/
theorem Attempt.untouched (attempt : Attempt other gateway time before after)
    (different : other.channel ≠ polled.channel) : polled.Untouched before after := by
  cases attempt with
  | commit answered written =>
      exact ((polled.untouched_gateway before _).trans
        (Polled.untouched_store different _ _)).trans (polled.untouched_dispatch different _ _)
  | breakDown answered unwritten => exact polled.untouched_gateway before _
  | fail failed =>
      exact (polled.untouched_gateway before _).trans (polled.untouched_setState _ _ _)
  | postpone failed transient => exact polled.untouched_gateway before _

/-- An attempt updates its channel as a whole or not at all, unless every
question is answered and yet the snapshot has no document. -/
theorem Attempt.attempted_iff {start finish : Poller γ}
    (attempt : Attempt polled gateway time start finish) (heard : start.Hears polled.channel)
    (earlier : polled.Untouched before start) (later : polled.Untouched finish after) :
    polled.Attempted ((polled.survey time).run gateway start.gateway).1 before finish after ↔
      ¬ ∃ snapshot, ((polled.survey time).run gateway start.gateway).1 = .ok snapshot ∧
        polled.document? snapshot = none := by
  cases attempt with
  | @commit snapshot document state answered written =>
      rw [answered]
      constructor
      · rintro _ ⟨found, same, unwritten⟩
        cases same
        rw [written] at unwritten
        contradiction
      · intro _
        let committed := polled.store ⟨snapshot, document⟩ { start with gateway := state }
        have heardStored : committed.Hears polled.channel := by
          simpa [committed, Hears] using heard
        have stored : polled.slot committed = some ⟨snapshot, document⟩ := polled.slot_store _ _
        have documents : committed.documentsOn polled.channel =
            before.documentsOn polled.channel := by
          rw [← earlier.documents_eq]
          exact polled.documentsOn_store _ _ _
        refine ⟨document, committed, written, stored, documents, rfl, ?_, ?_⟩
        · rw [later.slot_eq, polled.slot_dispatch, stored]
        · rw [later.documents_eq, documentsOn_dispatch heardStored, documents]
  | @breakDown snapshot state answered unwritten =>
      rw [answered]
      constructor
      · rintro ⟨document, committed, written, -⟩
        rw [unwritten] at written
        contradiction
      · intro allWritten
        exact absurd ⟨snapshot, rfl, unwritten⟩ allWritten
  | @fail error state failed =>
      have demoted := (polled.untouched_gateway start state).trans
        (polled.untouched_setState _ time .disconnected)
      rw [failed]
      exact iff_of_true ((earlier.trans demoted).trans later) (by simp)
  | @postpone error state failed transient =>
      have moved := polled.untouched_gateway start state
      rw [failed]
      exact iff_of_true ((earlier.trans moved).trans later) (by simp)

end Poller

/-! ## Slots and documents -/

namespace Polled

variable {α β γ : Type} {polled : Polled α} {poller : Poller γ}

/-- A channel is heard, and its slot agrees with the last document handed out. -/
structure InStep (polled : Polled α) (poller : Poller γ) : Prop where
  heard : poller.Hears polled.channel
  last_eq : (poller.documentsOn polled.channel).getLast? =
    (polled.slot poller).map Committed.document
  written : ∀ committed, polled.slot poller = some committed →
    polled.document? committed.snapshot = some committed.document

theorem InStep.congr (inStep : polled.InStep poller) {changed : Poller γ}
    (heard : changed.Hears polled.channel) (untouched : polled.Untouched poller changed) :
    polled.InStep changed where
  heard := heard
  last_eq := by rw [untouched.documents_eq, untouched.slot_eq, inStep.last_eq]
  written := untouched.slot_eq ▸ inStep.written

/-- A commit on the channel itself. -/
theorem InStep.commit (inStep : polled.InStep poller) {snapshot : α} {document : String}
    (written : polled.document? snapshot = some document) :
    polled.InStep
      ((polled.store ⟨snapshot, document⟩ poller).dispatch polled.channel document) := by
  have heard : (polled.store ⟨snapshot, document⟩ poller).Hears polled.channel := by
    simpa [Poller.Hears] using inStep.heard
  exact {
    heard := by simpa [Poller.Hears] using heard
    last_eq := by simp [Poller.documentsOn_dispatch heard]
    written := by
      intro committed found
      rw [slot_dispatch, slot_store, Option.some_inj] at found
      subst found
      exact written }

/-- A commit on another channel. -/
theorem InStep.commit_of_ne (inStep : polled.InStep poller) {other : Polled β}
    (different : other.channel ≠ polled.channel) (snapshot : β) (document : String) :
    polled.InStep ((other.store ⟨snapshot, document⟩ poller).dispatch other.channel document) :=
  inStep.congr (by simpa [Poller.Hears] using inStep.heard)
    ((untouched_store different _ _).trans (polled.untouched_dispatch different _ _))

/-- Every change keeps slots and documents in step. -/
theorem InStep.change {changed : Poller γ} (change : Poller.Change poller changed)
    (inStep : polled.InStep poller) : polled.InStep changed := by
  have heard := change.hears inStep.heard
  cases change with
  | surround state inbox identified =>
      exact inStep.congr heard ⟨polled.slot_surround _ _ _ _, rfl⟩
  | enter time running =>
      exact inStep.congr heard (polled.untouched_setState _ _ _)
  | commit other written =>
      cases polled <;> cases other <;>
        first
        | exact inStep.commit_of_ne (by decide) _ _
        | exact inStep.commit written
  | subscribe channel subscriber =>
      exact inStep.congr heard
        ⟨by cases polled <;> rfl, rfl⟩

end Polled

namespace Poller

variable {α γ : Type}

/-- Subscribe to every channel. -/
def subscribeAll (subscriber : Channel → String) (poller : Poller γ) : Poller γ :=
  Channel.all.foldl (fun poller channel => poller.subscribe channel (subscriber channel)) poller

theorem hears_subscribeAll (device : String) (state : γ) (subscriber : Channel → String)
    (channel : Channel) : ((initial device state).subscribeAll subscriber).Hears channel :=
  ⟨subscriber channel, by
    cases channel <;> simp [subscribeAll, Channel.all, subscribe, initial]⟩

theorem inStep_initial (polled : Polled α) (device : String) (state : γ)
    (subscriber : Channel → String) :
    polled.InStep ((initial device state).subscribeAll subscriber) where
  heard := hears_subscribeAll device state subscriber polled.channel
  last_eq := by cases polled <;> rfl
  written := by
    intro committed found
    cases polled <;> contradiction

/-- Every history keeps slots and documents in step. -/
theorem inStep_applyAll {polled : Polled α} {poller : Poller γ} (inStep : polled.InStep poller)
    (gateway : Gateway γ) (acts : List (PollerAct γ)) :
    polled.InStep (poller.applyAll gateway acts) :=
  (changes_applyAll gateway poller acts).preserve Polled.InStep.change inStep

/-! ## A tick -/

/-- The poller over the recording gateway, with an empty record. -/
def recorded (poller : Poller γ) : Poller (γ × List Question) where
  device := poller.device
  gateway := (poller.gateway, [])
  state := poller.state
  inbox := poller.inbox
  identified := poller.identified
  values := poller.values
  events := poller.events
  identity := poller.identity
  availability := poller.availability
  subscribers := poller.subscribers
  dispatched := poller.dispatched

/-- The questions of a tick that go to the device, in the order in which they are asked. -/
def tickFetches (gateway : Gateway γ) (time : Int) (poller : Poller γ) : List Question :=
  (poller.recorded.tick gateway.recording time).2.gateway.2.filter Question.needsLink

/-- A tick attempts the update of the values and that of the events once, and
that of the identity unless it is known, and each of them as a whole or not at
all. -/
structure FaithfulTick (gateway : Gateway γ) (time : Int) (poller : Poller γ) : Prop where
  fetches : poller.tickFetches gateway time =
    (if poller.identified then [] else [.fetchDeviceInfo]) ++
      [.fetchRegisters, .fetchEventRegisters]
  device :
    if poller.identified then Polled.device.Untouched poller (poller.tick gateway time).2
    else
      Polled.device.Attempted (DeviceSnapshot.survey.run gateway poller.gateway).1 poller
        (poller.afterIdentity gateway time) (poller.tick gateway time).2
  values :
    Polled.values.Attempted
      ((ValueSnapshot.survey time).run gateway (poller.afterIdentity gateway time).gateway).1
      poller (poller.afterValues gateway time) (poller.tick gateway time).2
  events :
    Polled.events.Attempted
      (EventSnapshot.survey.run gateway (poller.afterValues gateway time).gateway).1 poller
      (poller.tick gateway time).2 (poller.tick gateway time).2

/-- The first part of a tick leaves the channels of the other parts alone. -/
theorem untouched_afterIdentity {polled : Polled α} (different : Channel.device ≠ polled.channel)
    (gateway : Gateway γ) (time : Int) (poller : Poller γ) :
    polled.Untouched poller (poller.afterIdentity gateway time) := by
  cases known : poller.identified with
  | true =>
      rw [afterIdentity, tickIdentity_of_identified known]
      exact .refl polled poller
  | false => exact (attempt_tickIdentity known gateway time .begun).untouched different

theorem subscribers_afterIdentity (gateway : Gateway γ) (time : Int) (poller : Poller γ) :
    (poller.afterIdentity gateway time).subscribers = poller.subscribers := by
  cases known : poller.identified with
  | true => rw [afterIdentity, tickIdentity_of_identified known]
  | false => exact (attempt_tickIdentity known gateway time .begun).subscribers_eq

theorem attempt_afterValues (gateway : Gateway γ) (time : Int) (poller : Poller γ) :
    Attempt .values gateway time (poller.afterIdentity gateway time)
      (poller.afterValues gateway time) :=
  attempt_tickValues gateway time _ _

/-- The last part of a tick is an attempt from where the second part ends, if this does not
break down. -/
theorem attempt_tick {poller : Poller γ} (connected : poller.state = .connected)
    {gateway : Gateway γ} {time : Int} (going : (poller.measured gateway time).1 ≠ none) :
    Attempt .events gateway time (poller.afterValues gateway time)
      (poller.tick gateway time).2 := by
  obtain ⟨outcome, reached⟩ := Option.ne_none_iff_exists'.mp going
  rw [tick_of_measured connected reached]
  exact attempt_tickEvents gateway time outcome _

theorem Hears.afterIdentity {poller : Poller γ} {channel : Channel}
    (heard : poller.Hears channel) (gateway : Gateway γ) (time : Int) :
    (poller.afterIdentity gateway time).Hears channel := by
  simpa [Hears, subscribers_afterIdentity] using heard

theorem Hears.afterValues {poller : Poller γ} {channel : Channel}
    (heard : poller.Hears channel) (gateway : Gateway γ) (time : Int) :
    (poller.afterValues gateway time).Hears channel := by
  simpa [Hears, (poller.attempt_afterValues gateway time).subscribers_eq] using
    heard.afterIdentity gateway time

/-- An attempt adds the questions of its survey to the record. -/
theorem Attempt.record_eq {polled : Polled α} {gateway : Gateway γ} {time : Int}
    {before after : Poller (γ × List Question)}
    (attempt : Attempt polled gateway.recording time before after) :
    after.gateway.2.filter Question.needsLink =
      before.gateway.2.filter Question.needsLink ++ [polled.fetch] := by
  have asked := (polled.fetches_survey time).linkQuestions polled.needsLink_fetch gateway
    before.gateway.1
  have recorded := (polled.survey time).run_recording gateway before.gateway.1 before.gateway.2
  rw [attempt.gateway_eq, recorded, List.filter_append, asked]

/-- The fetches of a tick that does not break down, whatever the gateway answers. -/
theorem record_tick {poller : Poller (γ × List Question)} (connected : poller.state = .connected)
    {gateway : Gateway γ} {time : Int} (going : (poller.measured gateway.recording time).1 ≠ none) :
    (poller.tick gateway.recording time).2.gateway.2.filter Question.needsLink =
      poller.gateway.2.filter Question.needsLink ++
        ((if poller.identified then [] else [.fetchDeviceInfo]) ++
          [.fetchRegisters, .fetchEventRegisters]) := by
  have identity : (poller.afterIdentity gateway.recording time).gateway.2.filter
      Question.needsLink = poller.gateway.2.filter Question.needsLink ++
        if poller.identified then [] else [.fetchDeviceInfo] := by
    cases known : poller.identified with
    | true => simp [afterIdentity, tickIdentity_of_identified known]
    | false => exact (attempt_tickIdentity known gateway.recording time .begun).record_eq
  have values : (poller.afterValues gateway.recording time).gateway.2.filter Question.needsLink =
      (poller.afterIdentity gateway.recording time).gateway.2.filter Question.needsLink ++
        [.fetchRegisters] :=
    (poller.attempt_afterValues gateway.recording time).record_eq
  have events : (poller.tick gateway.recording time).2.gateway.2.filter Question.needsLink =
      (poller.afterValues gateway.recording time).gateway.2.filter Question.needsLink ++
        [.fetchEventRegisters] :=
    (attempt_tick connected going).record_eq
  rw [events, values, identity]
  simp only [List.append_assoc, List.cons_append, List.nil_append]

/-! ## The breakdown of a tick -/

/-- The second part of a tick breaks down exactly if it reads a snapshot of 255 inputs in full. -/
theorem tickValues_eq_none_iff {gateway : Gateway γ} {time : Int} {outcome : TickOutcome}
    {poller : Poller γ} :
    (poller.tickValues gateway time outcome).1 = none ↔
      ∃ snapshot, ((ValueSnapshot.survey time).run gateway poller.gateway).1 = .ok snapshot ∧
        255 ≤ snapshot.inputs.length := by
  have unwritten_iff {snapshot : ValueSnapshot} {state : γ}
      (answered : (ValueSnapshot.survey time).run gateway poller.gateway = (.ok snapshot, state)) :
      Polled.values.document? snapshot = none ↔ 255 ≤ snapshot.inputs.length :=
    ValueSnapshot.document?_eq_none_iff
      ((ValueSnapshot.fetches_survey time).wanted_of_run (congrArg Prod.fst answered))
  have measures := measures_tickValues gateway time outcome poller
  generalize poller.tickValues gateway time outcome = measured at measures ⊢
  cases measures with
  | commit answered written => simp [answered, ← unwritten_iff answered, written]
  | breakDown answered unwritten => simp [answered, ← unwritten_iff answered, unwritten]
  | fail failed => simp [failed]

theorem measured_through {β : Type} {view : γ → β} {whole : Gateway γ} {shown : Gateway β}
    (shows : Gateway.Shows view whole shown) (time : Int) (poller : Poller γ) :
    (poller.through view).measured shown time =
      ((poller.measured whole time).1, (poller.measured whole time).2.through view) := by
  rw [measured, afterIdentity, tickIdentity_through shows, tickValues_through shows]
  rfl

/-- The gateway without a record does what the one with it does. -/
theorem recording_shows (gateway : Gateway γ) :
    Gateway.Shows Prod.fst gateway.recording gateway :=
  ⟨fun _ => rfl, fun _ => rfl, fun _ => rfl, fun _ _ => rfl⟩

/-- A tick breaks down whether or not there is a record. -/
theorem fst_measured_recorded (gateway : Gateway γ) (time : Int) (poller : Poller γ) :
    (poller.recorded.measured gateway.recording time).1 = (poller.measured gateway time).1 :=
  (congrArg Prod.fst (measured_through (recording_shows gateway) time poller.recorded)).symm

section Tick

variable {poller : Poller γ} (connected : poller.state = .connected)
  (heard : ∀ channel, poller.Hears channel) {gateway : Gateway γ} {time : Int}
  (going : (poller.measured gateway time).1 ≠ none)

include connected heard going

/-- The identity is left alone when it is known, and otherwise updated as a whole
or not at all. -/
theorem device_tick :
    if poller.identified then Polled.device.Untouched poller (poller.tick gateway time).2
    else
      Polled.device.Attempted (DeviceSnapshot.survey.run gateway poller.gateway).1 poller
        (poller.afterIdentity gateway time) (poller.tick gateway time).2 := by
  have later : Polled.device.Untouched (poller.afterIdentity gateway time)
      (poller.tick gateway time).2 :=
    ((poller.attempt_afterValues gateway time).untouched (by decide)).trans
      ((attempt_tick connected going).untouched (by decide))
  cases known : poller.identified with
  | true =>
      rw [afterIdentity, tickIdentity_of_identified known] at later
      exact later
  | false =>
      have attempt := attempt_tickIdentity known gateway time .begun
      exact (attempt.attempted_iff (heard _) (.refl _ poller) later).mpr
        (by simp [Polled.document?])

/-- The values are updated as a whole or not at all. -/
theorem values_tick :
    Polled.values.Attempted
      ((ValueSnapshot.survey time).run gateway (poller.afterIdentity gateway time).gateway).1
      poller (poller.afterValues gateway time) (poller.tick gateway time).2 := by
  have attempted := (poller.attempt_afterValues gateway time).attempted_iff
    ((heard _).afterIdentity gateway time)
    (untouched_afterIdentity (by decide) gateway time poller)
    ((attempt_tick connected going).untouched (by decide))
  refine attempted.mpr ?_
  rintro ⟨snapshot, answered, unwritten⟩
  rw [ValueSnapshot.document?_eq_none_iff
    ((ValueSnapshot.fetches_survey time).wanted_of_run answered)] at unwritten
  exact going (tickValues_eq_none_iff.mpr ⟨snapshot, answered, unwritten⟩)

/-- The events are updated as a whole or not at all. -/
theorem events_tick :
    Polled.events.Attempted
      (EventSnapshot.survey.run gateway (poller.afterValues gateway time).gateway).1 poller
      (poller.tick gateway time).2 (poller.tick gateway time).2 := by
  have earlier : Polled.events.Untouched poller (poller.afterValues gateway time) :=
    (untouched_afterIdentity (by decide) gateway time poller).trans
      ((poller.attempt_afterValues gateway time).untouched (by decide))
  exact ((attempt_tick connected going).attempted_iff ((heard _).afterValues gateway time)
    earlier (.refl _ _)).mpr (by simp [Polled.document?])

end Tick

/-- A tick that begins connected keeps the law of its updates, unless it reads a
snapshot of 255 inputs in full. -/
theorem faithfulTick_iff {poller : Poller γ} (connected : poller.state = .connected)
    (heard : ∀ channel, poller.Hears channel) (gateway : Gateway γ) (time : Int) :
    poller.FaithfulTick gateway time ↔
      ¬ ∃ snapshot,
        ((ValueSnapshot.survey time).run gateway (poller.afterIdentity gateway time).gateway).1 =
            .ok snapshot ∧
          255 ≤ snapshot.inputs.length := by
  constructor
  · rintro faithful ⟨snapshot, answered, wide⟩
    have values := faithful.values
    rw [answered] at values
    obtain ⟨document, -, written, -⟩ := values
    have unwritten := (ValueSnapshot.document?_eq_none_iff
      ((ValueSnapshot.fetches_survey time).wanted_of_run answered)).mpr wide
    rw [unwritten] at written
    contradiction
  · intro fewer
    have going : (poller.measured gateway time).1 ≠ none :=
      mt tickValues_eq_none_iff.mp fewer
    have recorded : poller.recorded.state = .connected := connected
    exact {
      fetches := record_tick recorded (by rwa [fst_measured_recorded])
      device := device_tick connected heard going
      values := values_tick connected heard going
      events := events_tick connected heard going }

/-! ## Every history -/

/-- Over every gateway and every history of a poller whose channels are all
heard, the last document handed out on a polled channel, the document in its
slot and the document of the snapshot in its slot are the same.  A tick that
does not begin connected changes nothing; one that does attempts its updates
once each, and each as a whole or not at all, exactly if it does not read a
snapshot of 255 inputs in full. -/
theorem updates_whole_or_not_at_all (gateway : Gateway γ) (device : String) (state : γ)
    (subscriber : Channel → String) (acts : List (PollerAct γ)) (time : Int) :
    let poller := ((initial device state).subscribeAll subscriber).applyAll gateway acts
    (∀ {α : Type} (polled : Polled α), polled.InStep poller) ∧
      if poller.state = .connected then
        (poller.FaithfulTick gateway time ↔
          ¬ ∃ snapshot,
            ((ValueSnapshot.survey time).run gateway
              (poller.afterIdentity gateway time).gateway).1 = .ok snapshot ∧
            255 ≤ snapshot.inputs.length)
      else poller.tick gateway time = (some .skipped, poller) := by
  intro poller
  have inStep {α : Type} (polled : Polled α) : polled.InStep poller :=
    inStep_applyAll (inStep_initial polled device state subscriber) gateway acts
  have heard (channel : Channel) : poller.Hears channel :=
    hears_applyAll (hears_subscribeAll device state subscriber channel) gateway acts
  refine ⟨inStep, ?_⟩
  split
  next connected => exact faithfulTick_iff connected heard gateway time
  next apart => exact tick_of_not_connected apart

end Poller

/-! ## A snapshot of 255 inputs -/

/-- The answers of a device at rest with a number of inputs. -/
def Question.restingAnswer (inputs : UInt8) : (question : Question) → question.Answer
  | .validate | .fetchDeviceInfo | .fetchRegisters | .fetchEventRegisters => ()
  | .energy | .activePower | .apparentPower | .reactivePower | .powerFactor | .frequency => 0.0
  | .acVoltage _ | .acCurrent _ | .dc _ _ => 0.0
  | .activeStateCode | .deviceAddress | .inverterModel => 0
  | .state | .manufacturer | .model | .serialNumber | .firmwareVersion => ""
  | .events => []
  | .phases => 1
  | .inputs => inputs
  | .hybrid | .floatRegisters => false

/-- A gateway to a device at rest, which answers every question. -/
def Gateway.resting (inputs : UInt8) : Gateway Unit where
  connect := fun state => ([], state)
  reconnect := fun state => ([], state)
  shutdown := fun state => state
  ask := fun question state => (.ok (question.restingAnswer inputs), state)

namespace Poller

/-- All inputs of a device at rest are read. -/
theorem exists_resting_snapshot (time : Int) (inputs : UInt8) :
    ∃ snapshot, ((ValueSnapshot.survey time).run (.resting inputs) ()).1 = .ok snapshot ∧
      snapshot.inputs.length = max 1 inputs.toNat := by
  have input (index : Nat) : ∃ value,
      (InputValues.survey false index).run (.resting inputs) () = (.ok value, ()) :=
    ⟨_, rfl⟩
  obtain ⟨values, read, length⟩ :=
    Survey.exists_run_each input (ValueSnapshot.inputsRead inputs)
  have ends : ∃ next : List InputValues → ValueSnapshot,
      (ValueSnapshot.survey time).run (.resting inputs) () =
        ((Survey.each (InputValues.survey false) (ValueSnapshot.inputsRead inputs)).bind
          fun values => .done (next values)).run (.resting inputs) () ∧
      ∀ values, (next values).inputs = values :=
    ⟨_, rfl, fun _ => rfl⟩
  rcases ends with ⟨next, run_eq, inputs_eq⟩
  have ended : ((ValueSnapshot.survey time).run (.resting inputs) ()).1 = .ok (next values) := by
    rw [run_eq, Survey.run_bind, read]
    rfl
  have counted : (next values).inputs.length = max 1 inputs.toNat := by
    rw [inputs_eq, length, ValueSnapshot.inputsRead, List.length_range]
  exact ⟨next values, ended, counted⟩

/-- With 255 inputs every question of the values is answered, and the tick
nevertheless breaks the law of its updates. -/
theorem not_faithfulTick_of_255_inputs :
    let poller := ((initial "inverter" ()).subscribeAll Channel.name).applyAll (.resting 255)
      [.start 0, .handle 0 .connected]
    poller.state = .connected ∧
      (∃ snapshot, ((ValueSnapshot.survey 0).run (.resting 255)
        (poller.afterIdentity (.resting 255) 0).gateway).1 = .ok snapshot) ∧
      ¬ poller.FaithfulTick (.resting 255) 0 := by
  intro poller
  have connected : poller.state = .connected := rfl
  have heard (channel : Channel) : poller.Hears channel :=
    hears_applyAll (hears_subscribeAll _ _ _ channel) _ _
  rcases exists_resting_snapshot 0 255 with ⟨snapshot, answered, length⟩
  have wide : 255 ≤ snapshot.inputs.length := by
    rw [length]
    decide
  have broken : ¬ poller.FaithfulTick (.resting 255) 0 := by
    rw [faithfulTick_iff connected heard]
    exact not_not_intro ⟨snapshot, answered, wide⟩
  exact ⟨connected, ⟨snapshot, answered⟩, broken⟩

end Poller

end InverterBridge
