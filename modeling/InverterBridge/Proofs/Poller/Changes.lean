import InverterBridge.Proofs.Poller.Attempts
import Mathlib.Logic.Relation

/-!
# What an act can change

Every act is made of a few kinds of change: the surroundings of the poller
move, it enters a state, it commits a snapshot and hands out the document, or
somebody subscribes.  `Change` lists them, and `changes_apply` takes every act
apart.  A property that each change preserves therefore holds after every
history in which it holds at first.
-/

namespace InverterBridge

namespace Poller

variable {γ : Type}

/-- One change of a poller. -/
inductive Change : Poller γ → Poller γ → Prop
  /-- The gateway, the inbox or what is known of the link. -/
  | surround (poller : Poller γ) (state : γ) (inbox : List GatewayEvent) (identified : Bool) :
      Change poller { poller with gateway := state, inbox := inbox, identified := identified }
  /-- The end of polling is not entered by an act. -/
  | enter (poller : Poller γ) (time : Int) {state : ConnectionState}
      (running : state ≠ .shutdown) : Change poller (poller.setState time state)
  /-- The slot of a polled channel is replaced, and then its document handed out. -/
  | commit (poller : Poller γ) {α : Type} (polled : Polled α) {snapshot : α} {document : String}
      (written : polled.document? snapshot = some document) :
      Change poller
        ((polled.store ⟨snapshot, document⟩ poller).dispatch polled.channel document)
  | subscribe (poller : Poller γ) (channel : Channel) (subscriber : String) :
      Change poller (poller.subscribe channel subscriber)

/-- Changes one after the other. -/
def Changes : Poller γ → Poller γ → Prop :=
  Relation.ReflTransGen Change

theorem Change.changes {poller changed : Poller γ} (change : Change poller changed) :
    Changes poller changed :=
  Relation.ReflTransGen.single change

theorem Changes.refl (poller : Poller γ) : Changes poller poller :=
  Relation.ReflTransGen.refl

theorem Changes.trans {first second third : Poller γ} (before : Changes first second)
    (after : Changes second third) : Changes first third :=
  Relation.ReflTransGen.trans before after

/-- What every change preserves, changes in a row preserve. -/
theorem Changes.preserve {Holds : Poller γ → Prop}
    (preserved : ∀ {poller changed : Poller γ}, Change poller changed → Holds poller →
      Holds changed)
    {poller changed : Poller γ} (changes : Changes poller changed) (holds : Holds poller) :
    Holds changed := by
  induction changes with
  | refl => exact holds
  | tail _ change ih => exact preserved change ih

/-- A channel that is heard stays so. -/
theorem Change.hears {channel : Channel} {poller changed : Poller γ}
    (change : Change poller changed) (heard : poller.Hears channel) : changed.Hears channel := by
  cases change with
  | surround state inbox identified => exact heard
  | enter time running => simpa [Hears] using heard
  | commit polled written => simpa [Hears] using heard
  | subscribe other subscriber => exact heard.subscribe other subscriber

/-! ## Parts of an act -/

theorem changes_surround (poller : Poller γ) (state : γ) (inbox : List GatewayEvent) :
    Changes poller { poller with gateway := state, inbox := inbox } :=
  (Change.surround poller state inbox poller.identified).changes

theorem changes_setState (poller : Poller γ) (time : Int) (state : ConnectionState)
    (running : state ≠ .shutdown) : Changes poller (poller.setState time state) :=
  (Change.enter poller time running).changes

theorem changes_requestReconnect (gateway : Gateway γ) (poller : Poller γ) :
    Changes poller (poller.requestReconnect gateway) :=
  changes_surround poller _ _

theorem changes_start (gateway : Gateway γ) (time : Int) (poller : Poller γ) :
    Changes poller (poller.start gateway time) :=
  (changes_setState poller time .connecting (by decide)).trans (changes_surround _ _ _)

theorem changes_handleConnected (gateway : Gateway γ) (time : Int) (poller : Poller γ) :
    Changes poller (poller.handleConnected gateway time).1 := by
  have asked : Changes poller { poller with gateway := (gateway.ask .validate poller.gateway).2 } :=
    changes_surround poller _ poller.inbox
  unfold handleConnected
  split
  next answer state asking =>
    rw [asking] at asked
    cases answer with
    | ok valid => exact asked.trans (changes_setState _ time .connected (by decide))
    | error error =>
        simp only
        cases error.severity with
        | shutdown => exact asked
        | fatal => exact asked
        | transient =>
            exact (asked.trans (changes_setState _ time .disconnected (by decide))).trans
              (changes_requestReconnect gateway _)

theorem changes_handleError (gateway : Gateway γ) (time : Int) (error : GatewayError)
    (poller : Poller γ) : Changes poller (poller.handleError gateway time error).1 := by
  unfold handleError
  cases error.severity with
  | shutdown => exact Changes.refl poller
  | fatal => exact Changes.refl poller
  | transient =>
      exact ((changes_setState poller time .disconnected (by decide)).trans
        (changes_requestReconnect gateway _)).trans
          (changes_setState _ time .connecting (by decide))

theorem changes_handle (gateway : Gateway γ) (time : Int) (event : GatewayEvent)
    (poller : Poller γ) : Changes poller (poller.handle gateway time event).1 := by
  unfold handle
  split
  · exact Changes.refl poller
  · cases event with
    | connected => exact changes_handleConnected gateway time poller
    | disconnected delay =>
        exact (Change.surround poller poller.gateway poller.inbox false).changes.trans
          (changes_setState _ time .disconnected (by decide))
    | error error => exact changes_handleError gateway time error poller

/-- Whatever comes of an attempt, it is made of changes. -/
theorem Attempt.changes {α : Type} {polled : Polled α} {gateway : Gateway γ} {time : Int}
    {before after : Poller γ} (attempt : Attempt polled gateway time before after) :
    Changes before after := by
  have asked (state : γ) : Changes before { before with gateway := state } :=
    changes_surround before state before.inbox
  cases attempt with
  | commit answered written => exact (asked _).trans (Change.commit _ polled written).changes
  | breakDown answered unwritten => exact asked _
  | fail failed => exact (asked _).trans (changes_setState _ time .disconnected (by decide))
  | postpone failed transient => exact asked _

theorem changes_tickIdentity (gateway : Gateway γ) (time : Int) (outcome : TickOutcome)
    (poller : Poller γ) : Changes poller (poller.tickIdentity gateway time outcome).2 := by
  cases known : poller.identified with
  | true =>
      rw [tickIdentity_of_identified known]
      exact Changes.refl poller
  | false => exact (attempt_tickIdentity known gateway time outcome).changes

theorem changes_tickValues (gateway : Gateway γ) (time : Int) (outcome : TickOutcome)
    (poller : Poller γ) : Changes poller (poller.tickValues gateway time outcome).2 :=
  (attempt_tickValues gateway time outcome poller).changes

theorem changes_tickEvents (gateway : Gateway γ) (time : Int) (outcome : TickOutcome)
    (poller : Poller γ) : Changes poller (poller.tickEvents gateway time outcome).2 :=
  (attempt_tickEvents gateway time outcome poller).changes

theorem changes_tick (gateway : Gateway γ) (time : Int) (poller : Poller γ) :
    Changes poller (poller.tick gateway time).2 := by
  have measured : Changes poller (poller.afterValues gateway time) :=
    (changes_tickIdentity gateway time .begun poller).trans (changes_tickValues gateway time _ _)
  by_cases connected : poller.state = .connected
  · cases reached : (poller.measured gateway time).1 with
    | none =>
        rw [tick_of_broken connected reached]
        exact measured
    | some outcome =>
        rw [tick_of_measured connected reached]
        exact measured.trans (changes_tickEvents gateway time outcome _)
  · rw [tick_of_not_connected connected]
    exact Changes.refl poller

theorem changes_afterTick (gateway : Gateway γ) (time : Int) (outcome : TickOutcome)
    (poller : Poller γ) : Changes poller (poller.afterTick gateway time outcome).1 := by
  unfold afterTick
  split
  · exact Changes.refl poller
  · split
    · exact (changes_requestReconnect gateway poller).trans
        (changes_setState _ time .connecting (by decide))
    · exact Changes.refl poller

/-! ## Acts and histories -/

/-- Every act is made of changes. -/
theorem changes_apply (gateway : Gateway γ) (poller : Poller γ) (act : PollerAct γ) :
    Changes poller (poller.apply gateway act) := by
  cases act with
  | start time => exact changes_start gateway time poller
  | handle time event => exact changes_handle gateway time event poller
  | tick time => exact changes_tick gateway time poller
  | afterTick time outcome => exact changes_afterTick gateway time outcome poller
  | readIdentity time outcome => exact changes_tickIdentity gateway time outcome poller
  | readValues time outcome => exact changes_tickValues gateway time outcome poller
  | readEvents time outcome => exact changes_tickEvents gateway time outcome poller
  | subscribe channel subscriber => exact (Change.subscribe poller channel subscriber).changes
  | surround state inbox => exact changes_surround poller state inbox

/-- Every history is made of changes. -/
theorem changes_applyAll (gateway : Gateway γ) (poller : Poller γ) (acts : List (PollerAct γ)) :
    Changes poller (poller.applyAll gateway acts) := by
  induction acts generalizing poller with
  | nil => exact Changes.refl poller
  | cons first acts ih => exact (changes_apply gateway poller first).trans (ih _)

theorem hears_applyAll {channel : Channel} {poller : Poller γ} (heard : poller.Hears channel)
    (gateway : Gateway γ) (acts : List (PollerAct γ)) :
    (poller.applyAll gateway acts).Hears channel :=
  (changes_applyAll gateway poller acts).preserve Change.hears heard

end Poller

end InverterBridge
