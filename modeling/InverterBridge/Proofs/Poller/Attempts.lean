import InverterBridge.Proofs.Poller.Acts
import InverterBridge.Proofs.Poller.Questions

/-!
# Attempts to update a channel

Three channels are polled, and each has its own survey, slot and document.
`Polled` names the three, so that what they have in common is said once.  An
`Attempt` lists what may come of an update: the snapshot is committed and its
document handed out, or the slot stays as it is.
-/

namespace InverterBridge

/-- The polled channels by the type of their snapshots. -/
inductive Polled : Type → Type where
  | device : Polled DeviceSnapshot
  | values : Polled ValueSnapshot
  | events : Polled EventSnapshot

namespace Polled

variable {α γ : Type}

/-- The channel of the documents. -/
def channel : Polled α → Channel
  | .device => .device
  | .values => .values
  | .events => .events

/-- The question that reads the device. -/
def fetch : Polled α → Question
  | .device => .fetchDeviceInfo
  | .values => .fetchRegisters
  | .events => .fetchEventRegisters

/-- The survey of an update. -/
def survey (time : Int) : Polled α → Survey α
  | .device => DeviceSnapshot.survey
  | .values => ValueSnapshot.survey time
  | .events => EventSnapshot.survey

/-- The text of the document of a snapshot, if there is one. -/
def document? : Polled α → α → Option String
  | .device, snapshot => some (DeviceDocument.ofSnapshot snapshot).text
  | .values, snapshot => (ValuesDocument.ofSnapshot? snapshot).map ValuesDocument.text
  | .events, snapshot => some (EventsDocument.ofSnapshot snapshot).text

/-- What a poller holds of the channel. -/
def slot (poller : Poller γ) : Polled α → Option (Committed α)
  | .device => poller.identity
  | .values => poller.values
  | .events => poller.events

/-- Replace what a poller holds of the channel.  With its identity a device is
identified. -/
def store (committed : Committed α) (poller : Poller γ) : Polled α → Poller γ
  | .device => { poller with identified := true, identity := some committed }
  | .values => { poller with values := some committed }
  | .events => { poller with events := some committed }

/-- The survey of a channel begins with its fetch. -/
theorem fetches_survey (polled : Polled α) (time : Int) :
    (polled.survey time).Fetches polled.fetch fun _ => True := by
  cases polled with
  | device => exact DeviceSnapshot.fetches_survey
  | values => exact (ValueSnapshot.fetches_survey time).weaken fun _ _ => trivial
  | events => exact EventSnapshot.fetches_survey

@[simp]
theorem needsLink_fetch (polled : Polled α) : polled.fetch.needsLink = true := by
  cases polled <;> rfl

theorem channel_ne_availability (polled : Polled α) : polled.channel ≠ .availability := by
  cases polled <;> decide

/-! ## Slots -/

section Slots

variable {β : Type} (polled : Polled α) (other : Polled β) (poller : Poller γ)
  (committed : Committed α)

@[simp]
theorem slot_store : polled.slot (polled.store committed poller) = some committed := by
  cases polled <;> rfl

@[simp]
theorem dispatched_store : (polled.store committed poller).dispatched = poller.dispatched := by
  cases polled <;> rfl

@[simp]
theorem documentsOn_store (channel : Channel) :
    (polled.store committed poller).documentsOn channel = poller.documentsOn channel := by
  cases polled <;> rfl

@[simp]
theorem subscribers_store : (polled.store committed poller).subscribers = poller.subscribers := by
  cases polled <;> rfl

@[simp]
theorem availability_store :
    (polled.store committed poller).availability = poller.availability := by
  cases polled <;> rfl

@[simp]
theorem gateway_store : (polled.store committed poller).gateway = poller.gateway := by
  cases polled <;> rfl

@[simp]
theorem inbox_store : (polled.store committed poller).inbox = poller.inbox := by
  cases polled <;> rfl

@[simp]
theorem state_store : (polled.store committed poller).state = poller.state := by
  cases polled <;> rfl

/-- A slot is replaced without the others. -/
theorem slot_store_of_ne {polled : Polled α} {other : Polled β}
    (different : polled.channel ≠ other.channel) :
    other.slot (polled.store committed poller) = other.slot poller := by
  cases polled <;> cases other <;> first | rfl | contradiction

@[simp]
theorem slot_dispatch (channel : Channel) (document : String) :
    polled.slot (poller.dispatch channel document) = polled.slot poller := by
  cases polled <;> simp [slot]

@[simp]
theorem slot_setState (time : Int) (state : ConnectionState) :
    polled.slot (poller.setState time state) = polled.slot poller := by
  cases polled <;> simp [slot]

@[simp]
theorem slot_surround (state : γ) (inbox : List GatewayEvent) (identified : Bool) :
    polled.slot { poller with gateway := state, inbox := inbox, identified := identified } =
      polled.slot poller := by
  cases polled <;> rfl

end Slots

end Polled

namespace Poller

variable {α γ : Type}

/-! ## What may come of an attempt -/

/-- What an attempt to update a channel makes of a poller. -/
inductive Attempt (polled : Polled α) (gateway : Gateway γ) (time : Int) (before : Poller γ) :
    Poller γ → Prop
  /-- Every question is answered: the slot is replaced, and then the document
  is handed out. -/
  | commit {snapshot : α} {document : String} {state : γ}
      (answered : (polled.survey time).run gateway before.gateway = (.ok snapshot, state))
      (written : polled.document? snapshot = some document) :
      Attempt polled gateway time before
        ((polled.store ⟨snapshot, document⟩ { before with gateway := state }).dispatch
          polled.channel document)
  /-- Every question is answered, but the snapshot has no document. -/
  | breakDown {snapshot : α} {state : γ}
      (answered : (polled.survey time).run gateway before.gateway = (.ok snapshot, state))
      (unwritten : polled.document? snapshot = none) :
      Attempt polled gateway time before { before with gateway := state }
  /-- A question fails, and the device counts as offline. -/
  | fail {error : UpdateError} {state : γ}
      (failed : (polled.survey time).run gateway before.gateway = (.error error, state)) :
      Attempt polled gateway time before
        ({ before with gateway := state }.setState time .disconnected)
  /-- A question about the identity fails for the moment. -/
  | postpone {error : UpdateError} {state : γ}
      (failed : (polled.survey time).run gateway before.gateway = (.error error, state))
      (transient : error.severity = .transient) :
      Attempt polled gateway time before { before with gateway := state }

/-- An attempt runs its survey once, from the state in which it finds the gateway. -/
theorem Attempt.gateway_eq {polled : Polled α} {gateway : Gateway γ} {time : Int}
    {before after : Poller γ} (attempt : Attempt polled gateway time before after) :
    after.gateway = ((polled.survey time).run gateway before.gateway).2 := by
  cases attempt with
  | commit answered written => simp [answered]
  | breakDown answered unwritten => simp [answered]
  | fail failed => simp [failed]
  | postpone failed transient => simp [failed]

/-- An attempt leaves the subscriptions alone. -/
theorem Attempt.subscribers_eq {polled : Polled α} {gateway : Gateway γ} {time : Int}
    {before after : Poller γ} (attempt : Attempt polled gateway time before after) :
    after.subscribers = before.subscribers := by
  cases attempt <;> simp

/-- An attempt leaves the inbox alone. -/
theorem Attempt.inbox_eq {polled : Polled α} {gateway : Gateway γ} {time : Int}
    {before after : Poller γ} (attempt : Attempt polled gateway time before after) :
    after.inbox = before.inbox := by
  cases attempt <;> simp

/-- The first part of a tick is an attempt unless the device is identified. -/
theorem attempt_tickIdentity {poller : Poller γ} (unknown : poller.identified = false)
    (gateway : Gateway γ) (time : Int) (outcome : TickOutcome) :
    Attempt .device gateway time poller (poller.tickIdentity gateway time outcome).2 := by
  unfold tickIdentity ask
  rw [if_neg (ne_true_of_eq_false unknown)]
  cases answer : DeviceSnapshot.survey.run gateway poller.gateway with
  | mk result state =>
      cases result with
      | ok snapshot => exact .commit answer rfl
      | error error =>
          simp only
          cases severity : error.severity with
          | transient => exact .postpone answer severity
          | fatal => exact .fail answer
          | shutdown => exact .fail answer

theorem tickIdentity_of_identified {poller : Poller γ} (known : poller.identified = true)
    (gateway : Gateway γ) (time : Int) (outcome : TickOutcome) :
    poller.tickIdentity gateway time outcome = (outcome, poller) := by
  simp [tickIdentity, known]

/-- What may come of the second part of a tick, with the outcome it leads to. -/
inductive Measures (gateway : Gateway γ) (time : Int) (outcome : TickOutcome)
    (before : Poller γ) : Option TickOutcome × Poller γ → Prop
  /-- The measurements are committed, and their document is handed out. -/
  | commit {snapshot : ValueSnapshot} {document : String} {state : γ}
      (answered : (ValueSnapshot.survey time).run gateway before.gateway = (.ok snapshot, state))
      (written : Polled.values.document? snapshot = some document) :
      Measures gateway time outcome before
        (some { outcome with valuesUpdated := true },
          (Polled.values.store ⟨snapshot, document⟩ { before with gateway := state }).dispatch
            .values document)
  /-- The measurements have no document. -/
  | breakDown {snapshot : ValueSnapshot} {state : γ}
      (answered : (ValueSnapshot.survey time).run gateway before.gateway = (.ok snapshot, state))
      (unwritten : Polled.values.document? snapshot = none) :
      Measures gateway time outcome before (none, { before with gateway := state })
  /-- A question fails. -/
  | fail {error : UpdateError} {state : γ}
      (failed : (ValueSnapshot.survey time).run gateway before.gateway = (.error error, state)) :
      Measures gateway time outcome before
        (some { outcome with failures := outcome.failures ++ [error] },
          { before with gateway := state }.setState time .disconnected)

/-- Nothing else comes of the second part of a tick. -/
theorem measures_tickValues (gateway : Gateway γ) (time : Int) (outcome : TickOutcome)
    (poller : Poller γ) :
    Measures gateway time outcome poller (poller.tickValues gateway time outcome) := by
  unfold tickValues ask
  cases answer : (ValueSnapshot.survey time).run gateway poller.gateway with
  | mk result state =>
      cases result with
      | error error => exact .fail answer
      | ok snapshot =>
          simp only
          cases written : ValuesDocument.ofSnapshot? snapshot with
          | none =>
              have unwritten : Polled.values.document? snapshot = none := by
                simp [Polled.document?, written]
              exact .breakDown answer unwritten
          | some document =>
              have written : Polled.values.document? snapshot = some document.text := by
                simp [Polled.document?, written]
              exact .commit answer written

/-- A tick that breaks down leaves the poller as it was but for its gateway. -/
theorem tickValues_of_broken {gateway : Gateway γ} {time : Int} {outcome : TickOutcome}
    {poller : Poller γ} (broken : (poller.tickValues gateway time outcome).1 = none) :
    (poller.tickValues gateway time outcome).2 =
      { poller with gateway := (poller.tickValues gateway time outcome).2.gateway } := by
  have measures := measures_tickValues gateway time outcome poller
  generalize poller.tickValues gateway time outcome = measured at broken measures ⊢
  cases measures with
  | commit answered written => contradiction
  | breakDown answered unwritten => rfl
  | fail failed => contradiction

/-- The second part of a tick is an attempt. -/
theorem attempt_tickValues (gateway : Gateway γ) (time : Int) (outcome : TickOutcome)
    (poller : Poller γ) :
    Attempt .values gateway time poller (poller.tickValues gateway time outcome).2 := by
  have measures := measures_tickValues gateway time outcome poller
  generalize poller.tickValues gateway time outcome = measured at measures ⊢
  cases measures with
  | commit answered written => exact .commit answered written
  | breakDown answered unwritten => exact .breakDown answered unwritten
  | fail failed => exact .fail failed

/-- The last part of a tick is an attempt. -/
theorem attempt_tickEvents (gateway : Gateway γ) (time : Int) (outcome : TickOutcome)
    (poller : Poller γ) :
    Attempt .events gateway time poller (poller.tickEvents gateway time outcome).2 := by
  unfold tickEvents ask
  cases answer : EventSnapshot.survey.run gateway poller.gateway with
  | mk result state =>
      cases result with
      | error error => exact .fail answer
      | ok snapshot => exact .commit answer rfl

/-! ## A tick by its parts -/

/-- The poller after the first part of a tick. -/
def afterIdentity (gateway : Gateway γ) (time : Int) (poller : Poller γ) : Poller γ :=
  (poller.tickIdentity gateway time .begun).2

/-- What the second part of a tick comes to. -/
def measured (gateway : Gateway γ) (time : Int) (poller : Poller γ) :
    Option TickOutcome × Poller γ :=
  (poller.afterIdentity gateway time).tickValues gateway time
    (poller.tickIdentity gateway time .begun).1

/-- The poller after the second part of a tick. -/
def afterValues (gateway : Gateway γ) (time : Int) (poller : Poller γ) : Poller γ :=
  (poller.measured gateway time).2

section Tick

variable {gateway : Gateway γ} {time : Int} {poller : Poller γ}

theorem tick_of_not_connected (apart : poller.state ≠ .connected) :
    poller.tick gateway time = (some .skipped, poller) := by
  rw [tick, if_neg apart]

/-- A connected device is read, and what is left of the tick depends on the second part. -/
theorem tick_eq (connected : poller.state = .connected) :
    poller.tick gateway time =
      match poller.measured gateway time with
      | (none, after) => (none, after)
      | (some outcome, after) =>
          (some (after.tickEvents gateway time outcome).1,
            (after.tickEvents gateway time outcome).2) := by
  rw [tick, if_pos connected]
  rfl

/-- A tick that breaks down ends with its second part. -/
theorem tick_of_broken (connected : poller.state = .connected)
    (broken : (poller.measured gateway time).1 = none) :
    poller.tick gateway time = (none, poller.afterValues gateway time) := by
  rw [tick_eq connected, afterValues]
  rcases reached : poller.measured gateway time with ⟨outcome, after⟩
  rw [reached] at broken
  cases broken
  rfl

/-- A tick that does not break down goes on to its last part. -/
theorem tick_of_measured (connected : poller.state = .connected) {outcome : TickOutcome}
    (going : (poller.measured gateway time).1 = some outcome) :
    poller.tick gateway time =
      (some ((poller.afterValues gateway time).tickEvents gateway time outcome).1,
        ((poller.afterValues gateway time).tickEvents gateway time outcome).2) := by
  rw [tick_eq connected, afterValues]
  rcases reached : poller.measured gateway time with ⟨outcome, after⟩
  rw [reached] at going
  cases going
  rfl

end Tick

end Poller

end InverterBridge
