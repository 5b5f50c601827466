import InverterBridge.Proofs.Poller.Calls

/-!
# One identity for each link

The identity of the device is read once after each loss of the link.  An
`IdentityNote` says what an act of a run means for it: a loss of the link has been
handled, or the device has been asked, with or without success.  The flag
`Poller.identified` is what the notes tell (`LoggedRun.Tracks`), whatever fails, is
checked or is asked for anew in between, so the device is asked only while its
identity is not known (`IdentityNote.Orderly`).
-/

namespace InverterBridge

/-- What happens to the identity of the device. -/
inductive IdentityNote where
  /-- The loss of the link has been handled. -/
  | lost
  /-- The device has been asked, and the update has failed. -/
  | missed
  /-- The device has been asked, and the update has succeeded. -/
  | read
  deriving DecidableEq, Repr

namespace IdentityNote

/-- Whether the device has been asked. -/
def asks : IdentityNote → Bool
  | .lost => false
  | .missed | .read => true

/-- The note of an update that has come to a result. -/
def ofResult {α ε : Type} : Except ε α → IdentityNote
  | .ok _ => .read
  | .error _ => .missed

/-- Whether the identity is known after a note. -/
def leaves (known : Bool) : IdentityNote → Bool
  | .lost => false
  | .missed => known
  | .read => true

/-- The identity is known after the notes: it has been read, or was known at first, and the
link has not been lost since. -/
def Known (initially : Bool) (notes : List IdentityNote) : Prop :=
  (initially = true ∧ .lost ∉ notes) ∨
    ∃ before after, notes = before ++ .read :: after ∧ .lost ∉ after

/-- The device has only been asked while its identity was not known. -/
def Orderly (initially : Bool) (notes : List IdentityNote) : Prop :=
  ∀ before note after, notes = before ++ note :: after → note.asks = true →
    ¬ Known initially before

variable {initially : Bool} {notes news : List IdentityNote} {note : IdentityNote}

theorem known_nil : Known initially [] ↔ initially = true := by
  simp [Known]

/-- Without a loss of the link the identity stays known. -/
theorem Known.append (known : Known initially notes) (kept : .lost ∉ news) :
    Known initially (notes ++ news) := by
  rcases known with ⟨first, unbroken⟩ | ⟨before, after, rfl, unbroken⟩
  · exact .inl ⟨first, by simp [unbroken, kept]⟩
  · exact .inr ⟨before, after ++ news, by simp, by simp [unbroken, kept]⟩

/-- A note leaves the identity known or unknown. -/
theorem known_concat : Known initially (notes ++ [note]) ↔
    note = .read ∨ note ≠ .lost ∧ Known initially notes := by
  constructor
  · rintro (⟨first, unbroken⟩ | ⟨before, after, split, unbroken⟩)
    · have apart : .lost ∉ notes ∧ note ≠ .lost := by simpa [eq_comm] using unbroken
      exact .inr ⟨apart.2, .inl ⟨first, apart.1⟩⟩
    · rcases List.eq_nil_or_concat after with rfl | ⟨between, last, rfl⟩
      · exact .inl (by simpa using (List.append_inj' split rfl).2)
      · have ends : notes ++ [note] = (before ++ .read :: between) ++ [last] := by simpa using split
        rcases List.append_inj' ends rfl with ⟨rfl, same⟩
        cases same
        have apart : .lost ∉ between ∧ note ≠ .lost := by simpa [eq_comm] using unbroken
        exact .inr ⟨apart.2, .inr ⟨before, between, rfl, apart.1⟩⟩
  · rintro (rfl | ⟨kept, known⟩)
    · exact .inr ⟨notes, [], rfl, nofun⟩
    · exact known.append (by simpa using kept.symm)

theorem leaves_eq_true_iff {known : Bool} (tells : known = true ↔ Known initially notes) :
    note.leaves known = true ↔ Known initially (notes ++ [note]) := by
  rw [known_concat, ← tells]
  cases note <;> simp [leaves]

theorem orderly_nil : Orderly initially [] := by
  intro before note after split
  simp at split

theorem Orderly.concat (orderly : Orderly initially notes)
    (unknown : note.asks = true → ¬ Known initially notes) :
    Orderly initially (notes ++ [note]) := by
  intro before found after split asks
  rcases List.eq_nil_or_concat after with rfl | ⟨between, last, rfl⟩
  · rcases List.append_inj' split rfl with ⟨rfl, same⟩
    cases same
    exact unknown asks
  · have ends : notes ++ [note] = (before ++ found :: between) ++ [last] := by simpa using split
    exact orderly before found between (List.append_inj' ends rfl).1 asks

/-- While the identity is known and the link is kept the device is not asked. -/
theorem Orderly.asks_eq_false (orderly : Orderly initially (notes ++ news))
    (known : Known initially notes) (kept : .lost ∉ news) : ∀ note ∈ news, note.asks = false := by
  intro note member
  rcases List.append_of_mem member with ⟨before, after, rfl⟩
  have unbroken : .lost ∉ before := fun lost => kept (List.mem_append_left _ lost)
  rw [Bool.eq_false_iff]
  exact fun asks => orderly (notes ++ before) note after (by simp) asks (known.append unbroken)

/-- While the link is kept the identity is read once at most. -/
theorem Orderly.count_read_le_one (orderly : Orderly initially (notes ++ news))
    (kept : .lost ∉ news) : news.count .read ≤ 1 := by
  by_cases member : .read ∈ news
  · rcases List.eq_append_cons_of_mem member with ⟨before, after, rfl, first⟩
    have known : Known initially (notes ++ before ++ [.read]) := known_concat.mpr (.inl rfl)
    have orderly : Orderly initially (notes ++ before ++ [.read] ++ after) := by simpa using orderly
    have silent := orderly.asks_eq_false known fun lost => kept (by simp [lost])
    have last : .read ∉ after := fun again => nomatch silent .read again
    simp [List.count_eq_zero.mpr first, List.count_eq_zero.mpr last]
  · rw [List.count_eq_zero.mpr member]
    exact Nat.zero_le 1

end IdentityNote

open IdentityNote (Known Orderly)

/-- Ordinary calls do not ask for the identity. -/
theorem GatewayEntry.count_ordinary {entries : List GatewayEntry}
    (ordinary : ∀ entry ∈ entries, entry.Ordinary) :
    entries.count (.ask .fetchDeviceInfo) = 0 :=
  List.count_eq_zero.mpr fun asks => (ordinary _ asks).ne_identify rfl

namespace Poller

variable {γ : Type} {gateway : Gateway γ} {time : Int} {before after : Poller (Logged γ)}

/-- A document reaches the subscriber if there is one, and is lost otherwise. -/
theorem documentsOn_dispatch_self (poller : Poller γ) (channel : Channel) (document : String) :
    ∃ documents, (poller.dispatch channel document).documentsOn channel =
        poller.documentsOn channel ++ documents ∧
      documents.length ≤ 1 ∧ (poller.Hears channel → documents.length = 1) := by
  by_cases hears : poller.Hears channel
  · exact ⟨[document], documentsOn_dispatch hears document, Nat.le_refl 1, fun _ => rfl⟩
  · refine ⟨[], ?_, Nat.zero_le 1, fun heard => absurd heard hears⟩
    rw [List.append_nil, dispatch]
    split
    · rfl
    next subscriber found =>
      rcases List.lookup_isSome_iff.mp (Option.isSome_of_eq_some found) with ⟨pair, member, same⟩
      cases eq_of_beq same
      exact absurd ⟨pair.2, member⟩ hears

/-- What an attempt to read the identity does to it: with success the identity is known and
its document is handed out. -/
theorem Attempt.identity (attempt : Attempt .device gateway.logged time before after)
    (unknown : before.identified = false) {result : Except UpdateError DeviceSnapshot}
    (ended : (DeviceSnapshot.survey.run gateway.logged before.gateway).1 = result) :
    after.identified = (IdentityNote.ofResult result).leaves false ∧
      ∃ documents, after.documentsOn .device = before.documentsOn .device ++ documents ∧
        documents.length ≤ [IdentityNote.ofResult result].count .read ∧
        (before.Hears .device →
          documents.length = [IdentityNote.ofResult result].count .read) := by
  cases attempt with
  | @commit snapshot document state answered written =>
      have ok : Except.ok snapshot = result := by
        rw [← ended]
        exact congrArg Prod.fst answered.symm
      subst ok
      let committed := Polled.device.store ⟨snapshot, document⟩ { before with gateway := state }
      exact ⟨by simp [Polled.store, IdentityNote.ofResult, IdentityNote.leaves],
        committed.documentsOn_dispatch_self .device document⟩
  | breakDown answered unwritten => cases unwritten
  | @fail error state failed =>
      have error : Except.error error = result := by
        rw [← ended]; exact congrArg Prod.fst failed.symm
      subst error
      refine ⟨by simpa [IdentityNote.ofResult, IdentityNote.leaves] using unknown, [], ?_, ?_⟩
      · rw [List.append_nil]
        exact (Polled.device.untouched_setState _ time .disconnected).documents_eq
      · simp [IdentityNote.ofResult]
  | @postpone error state failed transient =>
      have error : Except.error error = result := by
        rw [← ended]; exact congrArg Prod.fst failed.symm
      subst error
      refine ⟨by simpa [IdentityNote.ofResult, IdentityNote.leaves] using unknown, [], ?_, ?_⟩
      · exact (List.append_nil _).symm
      · simp [IdentityNote.ofResult]

end Poller

namespace LoggedRun

variable {γ : Type} {site : Site γ} {run next : LoggedRun γ}

/-! ## Notes of a run -/

/-- What an act means for the identity. -/
def identityNote? (site : Site γ) (run : LoggedRun γ) : RunAct γ → Option IdentityNote
  | .poll =>
      match run.activity with
      | .handling event instant =>
          if instant ≤ run.now ∧ event.isLoss = true then some .lost else none
      | .identifying instant =>
          if instant ≤ run.now then
            some (.ofResult (DeviceSnapshot.survey.run site.gateway.logged run.poller.gateway).1)
          else none
      | _ => none
  | _ => none

/-- The notes of acts in order. -/
def identityNotes (site : Site γ) : LoggedRun γ → List (RunAct γ) → List IdentityNote
  | _, [] => []
  | run, act :: acts =>
      (run.identityNote? site act).toList ++ identityNotes site (run.act site act) acts

/-- How often the gateway has been asked for the identity. -/
def identityRequests (run : LoggedRun γ) : Nat :=
  run.log.count (.ask .fetchDeviceInfo)

/-- What an act with a note, or without one, does to the identity. -/
structure Notes (run : LoggedRun γ) (note? : Option IdentityNote) (next : LoggedRun γ) : Prop where
  identified_eq : next.poller.identified =
    note?.elim run.poller.identified (·.leaves run.poller.identified)
  requests : next.identityRequests = run.identityRequests + note?.toList.countP IdentityNote.asks
  documents : ∃ documents, next.poller.documentsOn .device =
      run.poller.documentsOn .device ++ documents ∧
    documents.length ≤ note?.toList.count .read ∧
      (run.poller.Hears .device → documents.length = note?.toList.count .read)
  unknown : ∀ note ∈ note?, note.asks = true → run.poller.identified = false
  hears : run.poller.Hears .device → next.poller.Hears .device

/-- Neither does the end of the gateway. -/
theorem count_closing (run : LoggedRun γ) : run.closing.count (.ask .fetchDeviceInfo) = 0 := by
  unfold closing
  split <;> rfl

theorem Notes.refl (run : LoggedRun γ) : Notes run none run :=
  ⟨rfl, rfl, ⟨[], by simp, by simp, by simp⟩, nofun, id⟩

/-- A move that does not identify the device has a note if it handles the loss of the link. -/
theorem Goes.notes {poller : Poller (Logged γ)} (goes : Goes site run poller)
    (leads : LeadsTo site run poller next) (other : run.identifies = false) :
    Notes run (if run.losesLink = true then some .lost else none) next := by
  have works := goes.works other
  have documents : next.poller.documentsOn .device = run.poller.documentsOn .device :=
    (leads.documents_eq (by decide)).trans works.documents_eq
  have requests : next.identityRequests = run.identityRequests := by
    rcases works.log with ⟨entries, log, ordinary⟩
    rw [identityRequests, leads.log_eq, log, List.count_append, List.count_append,
      GatewayEntry.count_ordinary ordinary, count_closing]
    rfl
  have identified := leads.identified_eq.trans works.identified_eq
  have hears : run.poller.Hears .device → next.poller.Hears .device := by
    unfold Poller.Hears
    rw [leads.subscribers_eq]
    exact goes.changes.preserve Poller.Change.hears
  cases lost : run.losesLink with
  | true =>
      rw [lost] at identified
      exact ⟨by simpa [IdentityNote.leaves] using identified, by simp [requests, IdentityNote.asks],
        ⟨[], by simp [documents], by simp, by simp⟩, by simp [IdentityNote.asks], hears⟩
  | false =>
      rw [lost] at identified
      exact ⟨by simpa using identified, by simp [requests],
        ⟨[], by simp [documents], by simp, by simp⟩, by simp, hears⟩

/-- A move that identifies the device asks for the identity once, and with success its
document is handed out. -/
theorem Goes.notes_identity {poller : Poller (Logged γ)} (goes : Goes site run poller)
    (leads : LeadsTo site run poller next) (identifies : run.identifies = true)
    (unknown : run.poller.identified = false) :
    Notes run (some (.ofResult
      (DeviceSnapshot.survey.run site.gateway.logged run.poller.gateway).1)) next := by
  rcases goes.identity identifies with ⟨attempted, attempt, works⟩
  have requests : next.identityRequests = run.identityRequests + 1 := by
    rcases attempt.log_identity with ⟨entries, log, ordinary⟩
    rcases works.log with ⟨later, grown, usual⟩
    rw [identityRequests, leads.log_eq, grown, log, List.count_append, List.count_append,
      List.count_append, List.count_cons_self, GatewayEntry.count_ordinary ordinary,
      GatewayEntry.count_ordinary usual, count_closing]
    rfl
  have hears : run.poller.Hears .device → next.poller.Hears .device := by
    unfold Poller.Hears
    rw [leads.subscribers_eq]
    exact goes.changes.preserve Poller.Change.hears
  rcases attempt.identity unknown rfl with ⟨identified, documents, handedOut, most, exactly⟩
  have handedOn : next.poller.documentsOn .device = run.poller.documentsOn .device ++ documents :=
    (leads.documents_eq (by decide)).trans (works.documents_eq.trans handedOut)
  exact {
    identified_eq := by
      rw [leads.identified_eq, works.identified_eq, identified, Option.elim_some, unknown]
    requests := by cases (DeviceSnapshot.survey.run _ run.poller.gateway).1 <;> exact requests
    documents := ⟨documents, handedOn, most, exactly⟩
    unknown := fun _ _ _ => unknown
    hears := hears }

/-- The note of a move. -/
theorem identityNote?_of_move (move : PollerRun.Move site.logged run next) :
    run.identityNote? site .poll =
      if run.identifies = true then
        some (.ofResult (DeviceSnapshot.survey.run site.gateway.logged run.poller.gateway).1)
      else if run.losesLink = true then some .lost else none := by
  cases move with
  | quit waits released => simp [identityNote?, identifies, updates?, losesLink, waits]
  | take waits held arrived => simp [identityNote?, identifies, updates?, losesLink, waits]
  | tick waits held quiet due => simp [identityNote?, identifies, updates?, losesLink, waits]
  | handle handles due => simp [identityNote?, identifies, updates?, losesLink, handles, due]
  | identify identifies due =>
      simp [identityNote?, LoggedRun.identifies, updates?, identifies, due]
  | measure measures due => simp [identityNote?, identifies, updates?, losesLink, measures]
  | observe observes due => simp [identityNote?, identifies, updates?, losesLink, observes]

/-- Where the task has to wait there is no note. -/
theorem identityNote?_of_step_eq_none (waits : PollerRun.step site.logged run = none) :
    run.identityNote? site .poll = none := by
  cases activity : run.activity with
  | handling event instant =>
      simp only [PollerRun.step, activity] at waits
      split at waits
      · contradiction
      next early => simp [identityNote?, activity, early]
  | identifying instant =>
      simp only [PollerRun.step, activity] at waits
      split at waits
      · contradiction
      next early => simp [identityNote?, activity, early]
  | _ => simp [identityNote?, activity]

/-- The notes so far tell whether the identity is known. -/
structure Tracks (initially : Bool) (run : LoggedRun γ) (notes : List IdentityNote) : Prop where
  sound : Sound run
  seeks : Seeks run
  tells : run.poller.identified = true ↔ Known initially notes
  orderly : Orderly initially notes

variable {initially : Bool} {notes : List IdentityNote}

theorem Tracks.notes_act (tracks : Tracks initially run notes) (site : Site γ) (act : RunAct γ) :
    Notes run (run.identityNote? site act) (run.act site act) := by
  cases act with
  | poll =>
      cases step : PollerRun.step site.logged run with
      | none =>
          rw [identityNote?_of_step_eq_none step, LoggedRun.act, step]
          exact Notes.refl run
      | some next =>
          have move := PollerRun.move_of_step step
          rw [identityNote?_of_move move, LoggedRun.act, step, Option.getD_some]
          rcases tracks.sound.exists_goes tracks.seeks move with ⟨poller, goes, leads⟩
          split
          next identifies => exact goes.notes_identity leads identifies (tracks.seeks identifies)
          next other => exact goes.notes leads (Bool.eq_false_iff.mpr other)
  | surround state events =>
      have calm : (events.map GatewayEntry.event).count (.ask .fetchDeviceInfo) = 0 :=
        List.count_eq_zero.mpr (by simp)
      refine ⟨rfl, ?_, ⟨[], (List.append_nil _).symm, Nat.le_refl 0, fun _ => rfl⟩,
        fun note found => absurd found.symm (Option.some_ne_none note), id⟩
      exact (List.count_append ..).trans (congrArg _ calm)
  | _ =>
      exact ⟨rfl, rfl, ⟨[], (List.append_nil _).symm, Nat.le_refl 0, fun _ => rfl⟩,
        fun note found => absurd found.symm (Option.some_ne_none note), id⟩

theorem Tracks.act (tracks : Tracks initially run notes) (site : Site γ) (act : RunAct γ) :
    Tracks initially (run.act site act) (notes ++ (run.identityNote? site act).toList) := by
  have step := tracks.notes_act site act
  refine ⟨tracks.sound.act site act, tracks.seeks.act site act, ?_, ?_⟩
  · rw [step.identified_eq]
    cases run.identityNote? site act with
    | none => simpa using tracks.tells
    | some note => exact IdentityNote.leaves_eq_true_iff tracks.tells
  · cases found : run.identityNote? site act with
    | none => simpa using tracks.orderly
    | some note =>
        refine tracks.orderly.concat fun asks known => ?_
        have unknown := step.unknown note found asks
        rw [tracks.tells.mpr known] at unknown
        contradiction

theorem Tracks.actAll (tracks : Tracks initially run notes) (site : Site γ)
    (acts : List (RunAct γ)) :
    Tracks initially (run.actAll site acts) (notes ++ identityNotes site run acts) := by
  induction acts generalizing run notes with
  | nil =>
      rw [identityNotes, List.append_nil]
      exact tracks
  | cons act acts ih =>
      rw [identityNotes, ← List.append_assoc]
      exact ih (tracks.act site act)

/-- The gateway is asked for the identity as often as the notes say. -/
theorem Tracks.requests_actAll (tracks : Tracks initially run notes) (site : Site γ)
    (acts : List (RunAct γ)) :
    (run.actAll site acts).identityRequests =
      run.identityRequests + (identityNotes site run acts).countP IdentityNote.asks := by
  induction acts generalizing run notes with
  | nil => rfl
  | cons act acts ih =>
      change ((run.act site act).actAll site acts).identityRequests = _
      rw [ih (tracks.act site act), (tracks.notes_act site act).requests, identityNotes,
        List.countP_append, Nat.add_assoc]

/-- A document of the device is handed out for each note of success. -/
theorem Tracks.documents_actAll (tracks : Tracks initially run notes) (site : Site γ)
    (acts : List (RunAct γ)) :
    ∃ documents, (run.actAll site acts).poller.documentsOn .device =
        run.poller.documentsOn .device ++ documents ∧
      documents.length ≤ (identityNotes site run acts).count .read ∧
      (run.poller.Hears .device →
        documents.length = (identityNotes site run acts).count .read) := by
  induction acts generalizing run notes with
  | nil => exact ⟨[], (List.append_nil _).symm, Nat.le_refl 0, fun _ => rfl⟩
  | cons act acts ih =>
      have step := tracks.notes_act site act
      rcases step.documents with ⟨documents, first, most, exactly⟩
      rcases ih (tracks.act site act) with ⟨more, rest, atMost, all⟩
      refine ⟨documents ++ more, ?_, ?_, ?_⟩
      · rw [← List.append_assoc, ← first]
        exact rest
      · rw [identityNotes, List.count_append, List.length_append]
        exact Nat.add_le_add most atMost
      · intro hears
        rw [identityNotes, List.count_append, List.length_append, exactly hears,
          all (step.hears hears)]

/-! ## Ticks -/

/-- The next move begins a tick of a connected device. -/
def BeginsTick (run : LoggedRun γ) : Prop :=
  run.activity = .waiting ∧ run.shutdown.released = false ∧ run.poller.inbox = [] ∧
    run.deadline ≤ run.now ∧ run.poller.state = .connected

/-- A tick of a connected device identifies it first unless it is known. -/
theorem BeginsTick.identifies (begins : run.BeginsTick) (site : Site γ) :
    (run.act site .poll).identifies = !run.poller.identified := by
  rcases begins with ⟨waits, held, quiet, due, connected⟩
  have move : PollerRun.Move site.logged run (run.beginTick site.logged) :=
    .tick waits held quiet due
  rw [LoggedRun.act, move.step, Option.getD_some, PollerRun.beginTick, if_pos connected]
  cases run.poller.identified <;> rfl

/-- A tick that identifies the device asks for the identity when it is due. -/
theorem Tracks.requests_due (tracks : Tracks initially run notes) {instant : Nat}
    (identifies : run.activity = .identifying instant) (due : instant ≤ run.now) (site : Site γ) :
    (run.act site .poll).identityRequests = run.identityRequests + 1 := by
  rw [(tracks.notes_act site .poll).requests]
  simp only [identityNote?, identifies, due, if_true]
  cases (DeviceSnapshot.survey.run site.gateway.logged run.poller.gateway).1 <;> rfl

/-- A tick that identifies the device goes on only by asking for the identity. -/
theorem Tracks.insists_act (tracks : Tracks initially run notes)
    (identifies : run.identifies = true) (site : Site γ) (act : RunAct γ) :
    (run.act site act).identifies = true ∨
      run.identityRequests < (run.act site act).identityRequests := by
  cases act with
  | poll =>
      rcases act_poll site run with same | move
      · rw [same]
        exact .inl identifies
      · have step := (tracks.notes_act site .poll).requests
        rw [identityNote?_of_move move, if_pos identifies] at step
        refine .inr ?_
        rw [step]
        cases (DeviceSnapshot.survey.run site.gateway.logged run.poller.gateway).1 <;>
          exact Nat.lt_succ_self _
  | _ => exact .inl identifies

theorem Tracks.insists (tracks : Tracks initially run notes)
    (identifies : run.identifies = true) (site : Site γ) (acts : List (RunAct γ)) :
    (run.actAll site acts).identifies = true ∨
      run.identityRequests < (run.actAll site acts).identityRequests := by
  induction acts generalizing run notes with
  | nil => exact .inl identifies
  | cons act acts ih =>
      have later := tracks.act site act
      rcases tracks.insists_act identifies site act with still | asked
      · have never := (tracks.notes_act site act).requests
        rcases ih later still with still | asked
        · exact .inl still
        · refine .inr (Nat.lt_of_le_of_lt ?_ asked)
          rw [never]
          exact Nat.le_add_right _ _
      · refine .inr (Nat.lt_of_lt_of_le asked ?_)
        change _ ≤ ((run.act site act).actAll site acts).identityRequests
        rw [later.requests_actAll site acts]
        exact Nat.le_add_right _ _

/-! ## A whole run -/

theorem tracks_start (site : Site γ) (interval : Nat) (poller : Poller γ) :
    Tracks poller.identified (start site interval poller) [] where
  sound := sound_start site interval poller
  seeks := seeks_start site interval poller
  tells := by
    rw [IdentityNote.known_nil]
    simp [start, PollerRun.start, Poller.start, Poller.receive, Poller.through]
  orderly := IdentityNote.orderly_nil

theorem identityRequests_start (site : Site γ) (interval : Nat) (poller : Poller γ) :
    (start site interval poller).identityRequests = 0 := by
  rcases Poller.log_start site.gateway (site.timeOfDay 0)
    (poller.through fun state => ⟨state, []⟩) with ⟨events, log⟩
  have connects : (start site interval poller).log = [] ++ .connect :: events.map .event := log
  rw [identityRequests, connects]
  exact List.count_eq_zero.mpr (by simp)

/-- What the notes of a run say about its device documents and its calls for the identity,
and what a next tick does. -/
structure OncePerLink (site : Site γ) (initially : Bool) (run : LoggedRun γ)
    (notes : List IdentityNote) : Prop where
  /-- The device has been asked for its identity as often as the notes say. -/
  requests : run.identityRequests = notes.countP IdentityNote.asks
  /-- It has been asked only while the identity was not known. -/
  orderly : Orderly initially notes
  /-- Until the next loss of the link one device document at most is handed out. -/
  once (later : List (RunAct γ)) : .lost ∉ identityNotes site run later →
    ∃ documents, (run.actAll site later).poller.documentsOn .device =
      run.poller.documentsOn .device ++ documents ∧ documents.length ≤ 1
  /-- Once the identity is known, the device is not asked and no document handed out until
  the next loss of the link. -/
  silent (later : List (RunAct γ)) : Known initially notes →
    .lost ∉ identityNotes site run later →
      (run.actAll site later).identityRequests = run.identityRequests ∧
        (run.actAll site later).poller.documentsOn .device = run.poller.documentsOn .device
  /-- A tick of a connected device identifies it unless it is known. -/
  begins : run.BeginsTick → ((run.act site .poll).identifies = true ↔ ¬ Known initially notes)
  /-- A tick that identifies the device goes on only by asking it. -/
  insists (later : List (RunAct γ)) : run.identifies = true →
    (run.actAll site later).identifies = true ∨
      run.identityRequests < (run.actAll site later).identityRequests
  /-- It asks as soon as the gateway has had the time that it takes. -/
  due (instant : Nat) : run.activity = .identifying instant → instant ≤ run.now →
    (run.act site .poll).identityRequests = run.identityRequests + 1

theorem Tracks.oncePerLink (tracks : Tracks initially run notes) (site : Site γ)
    (requests : run.identityRequests = notes.countP IdentityNote.asks) :
    run.OncePerLink site initially notes where
  requests := requests
  orderly := tracks.orderly
  once later kept := by
    rcases tracks.documents_actAll site later with ⟨documents, handedOut, most, -⟩
    have once := (tracks.actAll site later).orderly.count_read_le_one kept
    exact ⟨documents, handedOut, Nat.le_trans most once⟩
  silent later known kept := by
    have silent := (tracks.actAll site later).orderly.asks_eq_false known kept
    have unread : .read ∉ identityNotes site run later := fun read => nomatch silent .read read
    have unasked : (identityNotes site run later).countP IdentityNote.asks = 0 :=
      List.countP_eq_zero.mpr fun note member => by simp [silent note member]
    rcases tracks.documents_actAll site later with ⟨documents, handedOut, most, -⟩
    rw [List.count_eq_zero.mpr unread, Nat.le_zero, List.length_eq_zero_iff] at most
    rw [tracks.requests_actAll site later, unasked, handedOut, most, List.append_nil]
    exact ⟨rfl, rfl⟩
  begins begins := by
    rw [begins.identifies site, ← tracks.tells]
    simp
  insists later identifies := tracks.insists identifies site later
  due instant identifies due := tracks.requests_due identifies due site

end LoggedRun

/-- Over every gateway, in every run and after every list of acts, whatever fails, is checked,
is reported or is asked for anew: from one handled loss of the link to the next the device
document is handed out once at most; after a successful update the device is not asked for
its identity until the loss of the link has been handled; and as long as no update has
succeeded since then, every tick of a connected device asks it.  With a subscriber there is
one document for every successful update. -/
theorem identity_once_per_link {γ : Type} (site : Site γ) (interval : Nat) (poller : Poller γ)
    (acts : List (RunAct γ)) :
    let start := LoggedRun.start site interval poller
    let run := start.actAll site acts
    let notes := LoggedRun.identityNotes site start acts
    run.OncePerLink site poller.identified notes ∧
      (poller.Hears .device → (run.poller.documentsOn .device).length =
        (poller.documentsOn .device).length + notes.count .read) := by
  intro start run notes
  have begun := LoggedRun.tracks_start site interval poller
  have tracks : LoggedRun.Tracks poller.identified run notes := begun.actAll site acts
  constructor
  · have requests := begun.requests_actAll site acts
    rw [LoggedRun.identityRequests_start, Nat.zero_add] at requests
    exact tracks.oncePerLink site requests
  · intro hears
    have first : start.poller.documentsOn .device = poller.documentsOn .device := by
      exact Poller.documentsOn_setState (by decide) _ _ _
    rcases begun.documents_actAll site acts with ⟨documents, handedOut, -, exactly⟩
    have heard : start.poller.Hears .device := by
      simpa [start, LoggedRun.start, PollerRun.start, Poller.start, Poller.receive,
        Poller.through, Poller.Hears] using hears
    rw [handedOut, List.length_append, exactly heard, first]

end InverterBridge
