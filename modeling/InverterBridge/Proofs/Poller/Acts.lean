import InverterBridge.Poller.Basic

/-!
# The acts of a poller

Everything that can happen to a poller is an act: it is started, an event is
handled, it ticks and recovers, somebody subscribes, or the gateway's own task
changes the gateway and the inbox.  A gateway is arbitrary, and so are the
order of the acts and their times, so what holds after every list of acts
holds of every history.

The lemmas say what the building blocks of the acts change.  Handing out a
document changes the record of documents alone, and entering a state changes
in addition the state and the availability.
-/

namespace InverterBridge

/-- Something that happens to a poller over a gateway with states in `γ`. -/
inductive PollerAct (γ : Type) where
  | start (time : Int)
  | handle (time : Int) (event : GatewayEvent)
  | tick (time : Int)
  | afterTick (time : Int) (outcome : TickOutcome)
  /-- The first part of a tick by itself. -/
  | readIdentity (time : Int) (outcome : TickOutcome)
  /-- The second part of a tick by itself. -/
  | readValues (time : Int) (outcome : TickOutcome)
  /-- The last part of a tick by itself. -/
  | readEvents (time : Int) (outcome : TickOutcome)
  | subscribe (channel : Channel) (subscriber : String)
  /-- The gateway's own task: another state, other events in the inbox. -/
  | surround (state : γ) (inbox : List GatewayEvent)

namespace Poller

variable {γ : Type}

/-- Apply an act. -/
def apply (gateway : Gateway γ) (poller : Poller γ) : PollerAct γ → Poller γ
  | .start time => poller.start gateway time
  | .handle time event => (poller.handle gateway time event).1
  | .tick time => (poller.tick gateway time).2
  | .afterTick time outcome => (poller.afterTick gateway time outcome).1
  | .readIdentity time outcome => (poller.tickIdentity gateway time outcome).2
  | .readValues time outcome => (poller.tickValues gateway time outcome).2
  | .readEvents time outcome => (poller.tickEvents gateway time outcome).2
  | .subscribe channel subscriber => poller.subscribe channel subscriber
  | .surround state inbox => { poller with gateway := state, inbox := inbox }

/-- Apply acts in order. -/
def applyAll (gateway : Gateway γ) (poller : Poller γ) (acts : List (PollerAct γ)) : Poller γ :=
  acts.foldl (apply gateway) poller

/-! ## Subscribers and documents -/

/-- Somebody has subscribed to a channel. -/
def Hears (poller : Poller γ) (channel : Channel) : Prop :=
  ∃ subscriber, (channel, subscriber) ∈ poller.subscribers

/-- The documents handed out on a channel, oldest first. -/
def documentsOn (poller : Poller γ) (channel : Channel) : List String :=
  (poller.dispatched.filter (·.channel = channel)).map Dispatch.document

variable {poller : Poller γ} {channel other : Channel} {document : String}

theorem hears_subscribe (poller : Poller γ) (channel : Channel) (subscriber : String) :
    (poller.subscribe channel subscriber).Hears channel :=
  ⟨subscriber, List.mem_cons_self⟩

/-- A subscription stays until another one takes its place. -/
theorem Hears.subscribe (hears : poller.Hears channel) (other : Channel)
    (subscriber : String) : (poller.subscribe other subscriber).Hears channel := by
  by_cases same : channel = other
  · subst other
    exact hears_subscribe poller channel subscriber
  · rcases hears with ⟨earlier, member⟩
    have kept : (channel, earlier) ∈ poller.subscribers.filter (·.1 != other) :=
      List.mem_filter.mpr ⟨member, by simpa using same⟩
    exact ⟨earlier, List.mem_cons_of_mem _ kept⟩

theorem Hears.lookup (hears : poller.Hears channel) :
    ∃ subscriber, poller.subscribers.lookup channel = some subscriber := by
  rcases hears with ⟨subscriber, member⟩
  exact Option.isSome_iff_exists.mp
    (List.lookup_isSome_iff.mpr ⟨(channel, subscriber), member, beq_self_eq_true channel⟩)

/-! ## Handing out a document -/

/-- Handing out a document changes the record of documents alone. -/
theorem dispatch_eq (poller : Poller γ) (channel : Channel) (document : String) :
    poller.dispatch channel document =
      { poller with dispatched := (poller.dispatch channel document).dispatched } := by
  unfold dispatch
  split <;> rfl

@[simp]
theorem gateway_dispatch : (poller.dispatch channel document).gateway = poller.gateway := by
  rw [dispatch_eq]

@[simp]
theorem inbox_dispatch : (poller.dispatch channel document).inbox = poller.inbox := by
  rw [dispatch_eq]

@[simp]
theorem state_dispatch : (poller.dispatch channel document).state = poller.state := by
  rw [dispatch_eq]

@[simp]
theorem subscribers_dispatch :
    (poller.dispatch channel document).subscribers = poller.subscribers := by
  rw [dispatch_eq]

@[simp]
theorem availability_dispatch :
    (poller.dispatch channel document).availability = poller.availability := by
  rw [dispatch_eq]

@[simp]
theorem identity_dispatch : (poller.dispatch channel document).identity = poller.identity := by
  rw [dispatch_eq]

@[simp]
theorem values_dispatch : (poller.dispatch channel document).values = poller.values := by
  rw [dispatch_eq]

@[simp]
theorem events_dispatch : (poller.dispatch channel document).events = poller.events := by
  rw [dispatch_eq]

theorem documentsOn_dispatch (hears : poller.Hears channel) (document : String) :
    (poller.dispatch channel document).documentsOn channel =
      poller.documentsOn channel ++ [document] := by
  rcases hears.lookup with ⟨subscriber, found⟩
  simp [dispatch, documentsOn, found]

@[simp]
theorem documentsOn_dispatch_of_ne (different : other ≠ channel) (document : String) :
    (poller.dispatch other document).documentsOn channel = poller.documentsOn channel := by
  unfold dispatch
  split <;> simp [documentsOn, different]

/-! ## Entering a state -/

/-- Entering a state changes the state, the availability and the record of
documents. -/
theorem setState_eq (time : Int) (state : ConnectionState) (poller : Poller γ) :
    poller.setState time state =
      { poller with
        state := state
        availability := (poller.setState time state).availability
        dispatched := (poller.setState time state).dispatched } := by
  unfold setState dispatchAvailability
  split
  · rfl
  · rw [dispatch_eq]

@[simp]
theorem gateway_setState (time : Int) (state : ConnectionState) (poller : Poller γ) :
    (poller.setState time state).gateway = poller.gateway := by
  rw [setState_eq]

@[simp]
theorem inbox_setState (time : Int) (state : ConnectionState) (poller : Poller γ) :
    (poller.setState time state).inbox = poller.inbox := by
  rw [setState_eq]

@[simp]
theorem state_setState (time : Int) (state : ConnectionState) (poller : Poller γ) :
    (poller.setState time state).state = state := by
  rw [setState_eq]

@[simp]
theorem subscribers_setState (time : Int) (state : ConnectionState) (poller : Poller γ) :
    (poller.setState time state).subscribers = poller.subscribers := by
  rw [setState_eq]

@[simp]
theorem identity_setState (time : Int) (state : ConnectionState) (poller : Poller γ) :
    (poller.setState time state).identity = poller.identity := by
  rw [setState_eq]

@[simp]
theorem values_setState (time : Int) (state : ConnectionState) (poller : Poller γ) :
    (poller.setState time state).values = poller.values := by
  rw [setState_eq]

@[simp]
theorem events_setState (time : Int) (state : ConnectionState) (poller : Poller γ) :
    (poller.setState time state).events = poller.events := by
  rw [setState_eq]

/-- Entering a state hands out documents on the availability channel only. -/
@[simp]
theorem documentsOn_setState (different : channel ≠ .availability) (time : Int)
    (state : ConnectionState) (poller : Poller γ) :
    (poller.setState time state).documentsOn channel = poller.documentsOn channel := by
  unfold setState dispatchAvailability
  split
  · rfl
  · exact documentsOn_dispatch_of_ne different.symm _

/-- The end of a poller shuts the gateway down. -/
theorem gateway_finish (gateway : Gateway γ) (time : Int) (poller : Poller γ) :
    (poller.finish gateway time).gateway = gateway.shutdown poller.gateway := by
  unfold finish dispatchAvailability
  split <;> simp

end Poller

end InverterBridge
