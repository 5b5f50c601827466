import InverterBridge.Proofs.Poller.Ending

/-!
# The announced availability

A poller announces on the availability channel when its device goes online or
offline.  The invariant `Poller.Announced` ties the announcements to the state:
they alternate, beginning with online, and an odd number of them has been made
exactly while the poller is connected.  Hence the last announcement always
tells the state, and the end of polling adds one more, whatever it finds.

A run whose tick breaks down never comes to the end of polling.  It adds nothing,
so the last announcement may say online for good.
-/

namespace InverterBridge

namespace AvailabilityDocument

/-- The document says whether the device is online, at some time. -/
def Announces (document : String) (online : Bool) : Prop :=
  ∃ time, document = (AvailabilityDocument.mk (.ofOnline online) time).text

/-- The second letter of the status stands behind `{"status":"o`. -/
theorem letter_text (status : Availability) (time : Int) :
    (AvailabilityDocument.mk status time).text.toList[12]? =
      some (match status with
        | .online => 'n'
        | .offline => 'f') := by
  cases status <;>
    simp only [AvailabilityDocument.text, AvailabilityDocument.toJson, Json.render,
      String.toList_ofList] <;>
    rfl

/-- No document says both. -/
theorem Announces.unique {document : String} {first second : Bool}
    (announcesFirst : Announces document first) (announcesSecond : Announces document second) :
    first = second := by
  rcases announcesFirst with ⟨firstTime, eqFirst⟩
  rcases announcesSecond with ⟨secondTime, eqSecond⟩
  have letters := (letter_text (.ofOnline first) firstTime).symm.trans
    (eqFirst ▸ eqSecond ▸ letter_text (.ofOnline second) secondTime)
  cases first <;> cases second <;> simp_all [Availability.ofOnline]

end AvailabilityDocument

open AvailabilityDocument (Announces)

namespace Poller

variable {γ : Type}

/-- The documents say online and offline in turn, beginning with online. -/
def Alternate (documents : List String) : Prop :=
  ∀ position document, documents[position]? = some document →
    Announces document (position % 2 == 0)

theorem not_odd (number : Nat) : (!(number % 2 == 1)) = (number % 2 == 0) := by
  rw [Bool.eq_iff_iff, Bool.not_eq_true', beq_eq_false_iff_ne, beq_iff_eq]
  omega

theorem odd_succ (number : Nat) : ((number + 1) % 2 == 1) = (number % 2 == 0) := by
  rw [Bool.eq_iff_iff, beq_iff_eq, beq_iff_eq]
  omega

/-- One more document goes on with the alternation. -/
theorem Alternate.append {documents : List String} {document : String}
    (alternate : Alternate documents) (announces : Announces document (documents.length % 2 == 0)) :
    Alternate (documents ++ [document]) := by
  intro position found at_position
  rw [List.getElem?_append] at at_position
  split at at_position
  · exact alternate position found at_position
  · rcases List.getElem?_eq_some_iff.mp at_position with ⟨last, rfl⟩
    have position_eq : position = documents.length := by
      simp only [List.length_singleton] at last
      omega
    subst position_eq
    simpa using announces

/-- The last of the documents says online if their number is odd. -/
theorem Alternate.announces_getLast {documents : List String} {document : String}
    (alternate : Alternate documents) (last : documents.getLast? = some document) :
    Announces document (documents.length % 2 == 1) := by
  rw [List.getLast?_eq_getElem?] at last
  rcases List.getElem?_eq_some_iff.mp last with ⟨inside, -⟩
  have predecessor : documents.length - 1 + 1 = documents.length := by omega
  have parity := odd_succ (documents.length - 1)
  rw [predecessor] at parity
  exact parity ▸ alternate _ _ last

/-- The announcements agree with the state, and polling has not ended. -/
structure Announced (poller : Poller γ) : Prop where
  running : poller.state ≠ .shutdown
  early : ∀ dispatch ∈ poller.dispatched, dispatch.state ≠ .shutdown
  heard : poller.Hears .availability
  alternate : Alternate (poller.documentsOn .availability)
  current : poller.availability = (poller.documentsOn .availability).getLast?
  parity : poller.state.isOnline = ((poller.documentsOn .availability).length % 2 == 1)

variable {poller : Poller γ}

/-- What touches neither the state nor the documents keeps them in agreement. -/
theorem Announced.congr (announced : Announced poller) {changed : Poller γ}
    (heard : changed.Hears .availability) (dispatched : changed.dispatched = poller.dispatched)
    (availability : changed.availability = poller.availability)
    (state : changed.state = poller.state) : Announced changed := by
  have documents : changed.documentsOn .availability = poller.documentsOn .availability := by
    rw [documentsOn, documentsOn, dispatched]
  exact {
    running := state ▸ announced.running
    early := dispatched ▸ announced.early
    heard := heard
    alternate := documents ▸ announced.alternate
    current := by rw [availability, documents, announced.current]
    parity := by rw [state, documents, announced.parity] }

/-- A document that is handed out while polling goes on. -/
theorem early_dispatch (poller : Poller γ) (running : poller.state ≠ .shutdown)
    (early : ∀ dispatch ∈ poller.dispatched, dispatch.state ≠ .shutdown) (channel : Channel)
    (document : String) :
    ∀ dispatch ∈ (poller.dispatch channel document).dispatched, dispatch.state ≠ .shutdown := by
  unfold dispatch
  split
  · exact early
  · rw [List.forall_mem_append, List.forall_mem_singleton]
    exact ⟨early, running⟩

/-- What is handed out on another channel keeps the announcements in agreement. -/
theorem Announced.dispatch (announced : Announced poller) {channel : Channel}
    (other : channel ≠ .availability) (document : String) :
    Announced (poller.dispatch channel document) where
  running := by simpa using announced.running
  early := early_dispatch poller announced.running announced.early channel document
  heard := by simpa [Hears] using announced.heard
  alternate := by simpa [other] using announced.alternate
  current := by simpa [other] using announced.current
  parity := by simpa [other] using announced.parity

/-! ## Announcements -/

theorem documentsOn_dispatchAvailability (hears : poller.Hears .availability) (time : Int)
    (online : Bool) :
    (poller.dispatchAvailability time online).documentsOn .availability =
      poller.documentsOn .availability ++
        [(AvailabilityDocument.mk (.ofOnline online) time).text] :=
  documentsOn_dispatch
    (show Hears { poller with
      availability := some (AvailabilityDocument.mk (.ofOnline online) time).text }
        .availability from hears) _

theorem availability_dispatchAvailability (time : Int) (online : Bool) :
    (poller.dispatchAvailability time online).availability =
      some (AvailabilityDocument.mk (.ofOnline online) time).text := by
  simp [dispatchAvailability]

/-- A change between online and offline is announced. -/
theorem Announced.setState (announced : Announced poller) (time : Int)
    {state : ConnectionState} (running : state ≠ .shutdown) :
    Announced (poller.setState time state) := by
  by_cases same : poller.state.isOnline = state.isOnline
  · have entered : poller.setState time state = { poller with state := state } := by
      simp only [Poller.setState, if_pos same]
    rw [entered]
    exact {
      running := running
      early := announced.early
      heard := announced.heard
      alternate := announced.alternate
      current := announced.current
      parity := same ▸ announced.parity }
  · have entered : poller.setState time state =
        { poller with state := state }.dispatchAvailability time state.isOnline := by
      simp only [Poller.setState, if_neg same]
    have heard : Hears { poller with state := state } .availability := announced.heard
    have documents : ({ poller with state := state }.dispatchAvailability time
        state.isOnline).documentsOn .availability = poller.documentsOn .availability ++
          [(AvailabilityDocument.mk (.ofOnline state.isOnline) time).text] :=
      documentsOn_dispatchAvailability heard time state.isOnline
    have turned : state.isOnline = ((poller.documentsOn .availability).length % 2 == 0) := by
      rw [announced.parity] at same
      rw [Bool.eq_not_of_ne (Ne.symm same), not_odd]
    exact {
      running := by simpa using running
      early := by
        rw [entered]
        exact early_dispatch { poller with state := state, availability := _ } running
          announced.early .availability _
      heard := by simpa [Hears] using announced.heard
      alternate := by
        rw [entered, documents]
        exact announced.alternate.append ⟨time, by rw [turned]⟩
      current := by
        rw [entered, documents, availability_dispatchAvailability, List.getLast?_concat]
      parity := by
        rw [state_setState, entered, documents, List.length_append, List.length_singleton,
          odd_succ, turned] }

/-- A poller is connected exactly when it has last said online. -/
theorem Announced.connected_iff (announced : Announced poller) :
    poller.state = .connected ↔
      ∃ document, (poller.documentsOn .availability).getLast? = some document ∧
        Announces document true := by
  have parity := announced.parity
  rw [ConnectionState.isOnline] at parity
  constructor
  · intro connected
    have odd : ((poller.documentsOn .availability).length % 2 == 1) = true := by
      rw [← parity, connected]
      rfl
    have nonempty : poller.documentsOn .availability ≠ [] := by
      intro empty
      simp [empty] at odd
    have last := List.getLast?_eq_some_getLast nonempty
    exact ⟨_, last, odd ▸ announced.alternate.announces_getLast last⟩
  · rintro ⟨document, last, online⟩
    have odd := (announced.alternate.announces_getLast last).unique online
    rw [odd] at parity
    exact beq_iff_eq.mp parity

/-- Every change keeps the announcements in agreement with the state. -/
theorem Announced.change {changed : Poller γ} (change : Change poller changed)
    (announced : Announced poller) : Announced changed := by
  have heard := change.hears announced.heard
  cases change with
  | surround state inbox identified =>
      exact announced.congr heard rfl rfl rfl
  | enter time running => exact announced.setState time running
  | @commit _ polled snapshot document written =>
      have stored : Announced (polled.store ⟨snapshot, document⟩ poller) :=
        announced.congr (by simpa [Hears] using announced.heard) (by simp) (by simp) (by simp)
      exact stored.dispatch polled.channel_ne_availability _
  | subscribe channel subscriber =>
      exact announced.congr heard rfl rfl rfl

/-- Every history keeps the announcements in agreement with the state. -/
theorem Announced.applyAll (announced : Announced poller) (gateway : Gateway γ)
    (acts : List (PollerAct γ)) : Announced (poller.applyAll gateway acts) :=
  (changes_applyAll gateway poller acts).preserve Announced.change announced

/-! ## The end of polling -/

/-- What the announcements of a poller say while polling goes on. -/
structure Announcing (poller : Poller γ) : Prop where
  /-- They say online and offline in turn, beginning with online. -/
  alternate : Alternate (poller.documentsOn .availability)
  /-- The poller is connected exactly when the last of them says online. -/
  connected_iff : poller.state = .connected ↔
    ∃ document, (poller.documentsOn .availability).getLast? = some document ∧
      Announces document true
  /-- The last of them is the one that is kept. -/
  kept : poller.availability = (poller.documentsOn .availability).getLast?
  /-- No document has been handed out at the end of polling. -/
  early : ∀ dispatch ∈ poller.dispatched, dispatch.state ≠ .shutdown

theorem Announced.announcing (announced : Announced poller) : Announcing poller :=
  ⟨announced.alternate, announced.connected_iff, announced.current, announced.early⟩

/-- One more document has been handed out at the end of polling: it says offline, it is the last,
and it is kept. -/
def SignedOff (before after : Poller γ) : Prop :=
  ∃ last, after.dispatched = before.dispatched ++ [last] ∧
    last.channel = .availability ∧ Announces last.document false ∧ last.state = .shutdown ∧
    after.availability = some last.document ∧ after.state = .shutdown

/-- The end of polling signs off, whatever the state. -/
theorem Announced.finish (announced : Announced poller) (gateway : Gateway γ) (time : Int) :
    SignedOff poller (poller.finish gateway time) := by
  have heard : Hears { poller with state := .shutdown } .availability := announced.heard
  rcases heard.lookup with ⟨subscriber, found⟩
  let document := (AvailabilityDocument.mk .offline time).text
  refine ⟨⟨.availability, subscriber, document, .shutdown⟩, ?_, rfl, ⟨time, rfl⟩, rfl, ?_,
    state_finish ..⟩
  · rw [finish_eq, dispatchAvailability, Poller.dispatch, found]
    rfl
  · rw [finish_eq]
    exact availability_dispatchAvailability time false

end Poller

/-! ## Runs -/

namespace LoggedRun

variable {γ : Type} {site : Site γ} {run next : LoggedRun γ}

end LoggedRun

namespace LoggedRun

end LoggedRun

end InverterBridge
