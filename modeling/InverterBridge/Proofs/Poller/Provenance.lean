import InverterBridge.Proofs.Poller.Calls

/-!
# Where a committed snapshot comes from

A move of the polling task replaces the slot of a channel only by what one survey of the
channel has found in this move (`LoggedRun.Sound.slot_move`), and it takes the gateway
through calls only, so what every call preserves a move preserves
(`LoggedRun.Sound.preserves_move`).
-/

namespace InverterBridge

variable {α γ : Type}

/-! ## What every call preserves -/

/-- No call of the gateway breaks a property of its state. -/
structure Gateway.Preserves (gateway : Gateway γ) (holds : γ → Prop) : Prop where
  connect (state : γ) : holds state → holds (gateway.connect state).2
  reconnect (state : γ) : holds state → holds (gateway.reconnect state).2
  shutdown (state : γ) : holds state → holds (gateway.shutdown state)
  ask (question : Question) (state : γ) : holds state → holds (gateway.ask question state).2

variable {gateway : Gateway γ} {holds : γ → Prop}

theorem Gateway.Preserves.logged (preserves : gateway.Preserves holds) :
    gateway.logged.Preserves fun logged => holds logged.state where
  connect := fun logged => preserves.connect logged.state
  reconnect := fun logged => preserves.reconnect logged.state
  shutdown := fun logged => preserves.shutdown logged.state
  ask := fun question logged => preserves.ask question logged.state

theorem Survey.preserves_run (preserves : gateway.Preserves holds) (survey : Survey α)
    {state : γ} (start : holds state) : holds (survey.run gateway state).2 := by
  induction survey generalizing state with
  | done value => exact start
  | fail error => exact start
  | ask question next ih => exact ih _ (preserves.ask question state start)

/-- The channel tells the three polled channels apart. -/
theorem Polled.heq_of_channel_eq {β : Type} {polled : Polled α} {other : Polled β}
    (same : polled.channel = other.channel) : α = β ∧ polled ≍ other := by
  cases polled <;> cases other <;> first | exact ⟨rfl, HEq.rfl⟩ | contradiction

namespace Poller

variable {before after : Poller γ}

theorem Deeds.preserves (preserves : gateway.Preserves holds)
    (deeds : Deeds gateway before after) (start : holds before.gateway) :
    holds after.gateway := by
  have step {before after : Poller γ} (deed : Deed gateway before after)
      (start : (holds ∘ Poller.gateway) before) : (holds ∘ Poller.gateway) after := by
    cases deed with
    | take rest => exact start
    | check => exact preserves.ask _ _ start
    | reconnect => exact preserves.reconnect _ start
    | enter time running => simpa using start
  exact deeds.preserve step start

theorem Attempt.preserves (preserves : gateway.Preserves holds) {polled : Polled α} {time : Int}
    (attempt : Attempt polled gateway time before after) (start : holds before.gateway) :
    holds after.gateway :=
  attempt.gateway_eq ▸ Survey.preserves_run preserves _ start

/-- The slot after an attempt is as before, or what the survey has found. -/
theorem Attempt.slot_cases {polled : Polled α} {time : Int}
    (attempt : Attempt polled gateway time before after) :
    polled.slot after = polled.slot before ∨
      ∃ snapshot document, ((polled.survey time).run gateway before.gateway).1 = .ok snapshot ∧
        polled.document? snapshot = some document ∧
          polled.slot after = some ⟨snapshot, document⟩ := by
  cases attempt with
  | @commit snapshot document state answered written =>
      exact .inr ⟨snapshot, document, by rw [answered], written, by simp⟩
  | breakDown answered unwritten => exact .inl (polled.untouched_gateway before _).slot_eq
  | fail failed =>
      exact .inl ((polled.untouched_gateway before _).trans
        (polled.untouched_setState _ time _)).slot_eq
  | postpone failed transient => exact .inl (polled.untouched_gateway before _).slot_eq

theorem slot_start (polled : Polled α) (gateway : Gateway γ) (time : Int) (poller : Poller γ) :
    polled.slot (poller.start gateway time) = polled.slot poller :=
  (polled.slot_surround (poller.setState time .connecting) _ _ _).trans
    (polled.slot_setState poller time .connecting)

theorem slot_finish (polled : Polled α) (gateway : Gateway γ) (time : Int) (poller : Poller γ) :
    polled.slot (poller.finish gateway time) = polled.slot poller := by
  rw [finish_eq]
  cases polled <;> simp [dispatchAvailability, Polled.slot]

end Poller

/-! ## Moves -/

namespace LoggedRun

variable {site : Site γ} {run next : LoggedRun γ} {polled : Polled α}

/-- What has been found by one survey of a channel in this state of a run is committed. -/
structure Commits (site : Site γ) (run : LoggedRun γ) (polled : Polled α)
    (committed : Committed α) : Prop where
  updates : run.updates? = some polled.channel
  surveyed : ((polled.survey (run.time site.logged)).run site.gateway
    run.poller.gateway.state).1 = .ok committed.snapshot
  written : polled.document? committed.snapshot = some committed.document

theorem Goes.slot_cases {poller : Poller (Logged γ)} (goes : Goes site run poller)
    (polled : Polled α) :
    polled.slot poller = polled.slot run.poller ∨
      ∃ committed, polled.slot poller = some committed ∧ Commits site run polled committed := by
  cases goes with
  | deeds idle deeds =>
      exact .inl ((deeds.untouched polled).slot_eq.trans (polled.slot_surround _ _ _ _))
  | @attempt β other attempted poller updates attempt deeds =>
      have kept := (deeds.untouched polled).slot_eq
      by_cases same : other.channel = polled.channel
      · rcases Polled.heq_of_channel_eq same.symm with ⟨rfl, equal⟩
        cases equal
        rw [kept]
        refine attempt.slot_cases.imp id ?_
        rintro ⟨snapshot, document, surveyed, written, stored⟩
        refine ⟨⟨snapshot, document⟩, stored, updates, ?_, written⟩
        have seen := Survey.run_view site.gateway.logged_shows
          (polled.survey (run.time site.logged)) run.poller.gateway
        rw [seen]
        exact surveyed
      · exact .inl (kept.trans (attempt.untouched same).slot_eq)

theorem LeadsTo.slot_eq {poller : Poller (Logged γ)} (leads : LeadsTo site run poller next) :
    polled.slot next.poller = polled.slot poller := by
  rcases leads with ⟨-, rfl⟩ | ⟨cause, rfl⟩
  · rfl
  · exact Poller.slot_finish polled _ _ poller

/-- A move leaves a slot as it is, or it commits what a survey has found. -/
theorem Sound.slot_move (sound : Sound run) (seeks : Seeks run)
    (move : PollerRun.Move site.logged run next) (polled : Polled α) :
    polled.slot next.poller = polled.slot run.poller ∨
      ∃ committed, polled.slot next.poller = some committed ∧
        Commits site run polled committed := by
  rcases sound.exists_goes seeks move with ⟨poller, goes, leads⟩
  rw [leads.slot_eq]
  exact goes.slot_cases polled

theorem Goes.preserves {holds : γ → Prop} (preserves : site.gateway.Preserves holds)
    {poller : Poller (Logged γ)} (goes : Goes site run poller)
    (start : holds run.poller.gateway.state) : holds poller.gateway.state := by
  cases goes with
  | deeds idle deeds => exact deeds.preserves preserves.logged start
  | attempt polled updates attempt deeds =>
      exact deeds.preserves preserves.logged (attempt.preserves preserves.logged start)

/-- What every call of the gateway preserves, every move preserves. -/
theorem Sound.preserves_move {holds : γ → Prop} (preserves : site.gateway.Preserves holds)
    (sound : Sound run) (seeks : Seeks run) (move : PollerRun.Move site.logged run next)
    (start : holds run.poller.gateway.state) : holds next.poller.gateway.state := by
  rcases sound.exists_goes seeks move with ⟨poller, goes, leads⟩
  have done := goes.preserves preserves start
  rcases leads with ⟨-, rfl⟩ | ⟨cause, rfl⟩
  · exact done
  · change holds (poller.finish site.gateway.logged _).gateway.state
    rw [Poller.gateway_finish]
    exact preserves.shutdown _ done

end LoggedRun

end InverterBridge
