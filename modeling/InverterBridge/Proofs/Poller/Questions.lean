import InverterBridge.Poller.Reading
import Mathlib.Data.List.Forall2

/-!
# The questions of a survey

A survey is a tree of questions, and what holds of all its branches holds of
every run.  `Survey.Conforms` speaks of the questions that a survey may ask and
of the values with which it may end.  The surveys of the three polled channels
begin with one question that goes to the device; after it they only ask for
what has been read.

A recording gateway writes down the questions in the order in which they are
asked and otherwise leaves the gateway as it is.
-/

namespace InverterBridge

/-- Whether a question goes to the device; the others are answered from what
has been read. -/
def Question.needsLink : Question → Bool
  | .validate | .fetchDeviceInfo | .fetchRegisters | .fetchEventRegisters => true
  | _ => false

namespace Survey

variable {α β γ : Type}

/-- The questions that are asked when a survey is run. -/
def questions (gateway : Gateway γ) : Survey α → γ → List Question
  | .done _, _ => []
  | .fail _, _ => []
  | .ask question next, state =>
      question ::
        (next (gateway.ask question state).1).questions gateway (gateway.ask question state).2

/-- Every question of a survey is allowed, and every value it ends with is wanted. -/
def Conforms (allowed : Question → Prop) (wanted : α → Prop) : Survey α → Prop
  | .done value => wanted value
  | .fail _ => True
  | .ask question next =>
      allowed question ∧ ∀ answer, (next answer).Conforms allowed wanted

variable {allowed : Question → Prop} {wanted : α → Prop} {required : β → Prop}

theorem Conforms.bind {first : Survey α} {next : α → Survey β}
    (before : first.Conforms allowed wanted)
    (after : ∀ value, wanted value → (next value).Conforms allowed required) :
    (first.bind next).Conforms allowed required := by
  induction first with
  | done value => exact after value before
  | fail error => trivial
  | ask question step ih => exact ⟨before.1, fun answer => ih answer (before.2 answer)⟩

theorem conforms_read {question : Question} (may : allowed question) (quantity : String) :
    (read quantity question).Conforms allowed fun _ => True := by
  constructor
  · exact may
  · rintro (error | value) <;> trivial

theorem conforms_readOptional {question : Question} (may : allowed question)
    (quantity : String) : (readOptional quantity question).Conforms allowed fun _ => True := by
  constructor
  · exact may
  · rintro (error | value)
    · simp only
      split <;> trivial
    · trivial

theorem Conforms.mono {survey : Survey α} {permitted : Question → Prop} {accepted : α → Prop}
    (conforms : survey.Conforms allowed wanted)
    (permits : ∀ question, allowed question → permitted question)
    (accepts : ∀ value, wanted value → accepted value) :
    survey.Conforms permitted accepted := by
  induction survey with
  | done value => exact accepts value conforms
  | fail error => trivial
  | ask question next ih =>
      exact ⟨permits question conforms.1, fun answer => ih answer (conforms.2 answer)⟩

/-- A survey that begins with a question goes on as it does after any answer. -/
theorem Conforms.afterRead {question : Question} (may : allowed question) {quantity : String}
    {next : question.Answer → Survey α}
    (after : ∀ answer, (next answer).Conforms allowed wanted) :
    (read quantity question >>= next).Conforms allowed wanted :=
  (conforms_read may quantity).bind fun answer _ => after answer

/-- A survey of a list ends with one value for each entry. -/
theorem conforms_each {survey : α → Survey β}
    (each : ∀ entry, (survey entry).Conforms allowed fun _ => True) (entries : List α) :
    (Survey.each survey entries).Conforms allowed fun values =>
      values.length = entries.length := by
  induction entries with
  | nil => rfl
  | cons entry entries ih =>
      apply (each entry).bind
      intro value _
      apply ih.bind
      intro values length
      simpa [Conforms] using length

/-- A run asks allowed questions only. -/
theorem Conforms.allowed_of_mem {survey : Survey α} (conforms : survey.Conforms allowed wanted)
    {gateway : Gateway γ} {state : γ} {question : Question}
    (asked : question ∈ survey.questions gateway state) : allowed question := by
  induction survey generalizing state with
  | done value => contradiction
  | fail error => contradiction
  | ask first next ih =>
      rcases List.mem_cons.mp asked with rfl | later
      · exact conforms.1
      · exact ih _ (conforms.2 _) later

/-- A run that succeeds ends with a wanted value. -/
theorem Conforms.wanted_of_run {survey : Survey α} (conforms : survey.Conforms allowed wanted)
    {gateway : Gateway γ} {state : γ} {value : α}
    (ended : (survey.run gateway state).1 = .ok value) : wanted value := by
  induction survey generalizing state with
  | done found =>
      cases ended
      exact conforms
  | fail error => contradiction
  | ask first next ih => exact ih _ (conforms.2 _) ended

/-- A survey begins with a fetch, then asks only for what has been read, and
ends with a wanted value. -/
def Fetches (fetch : Question) (wanted : α → Prop) (survey : Survey α) : Prop :=
  ∃ quantity next, survey = read quantity fetch >>= next ∧
    ∀ answer, (next answer).Conforms (·.needsLink = false) wanted

/-- Of the questions of such a survey the fetch alone goes to the device. -/
theorem Fetches.linkQuestions {fetch : Question} {survey : Survey α}
    (fetches : survey.Fetches fetch wanted) (needsLink : fetch.needsLink = true)
    (gateway : Gateway γ) (state : γ) :
    (survey.questions gateway state).filter Question.needsLink = [fetch] := by
  rcases fetches with ⟨quantity, next, rfl, after⟩
  obtain ⟨step, begins, only⟩ : ∃ step, read quantity fetch >>= next = .ask fetch step ∧
      ∀ answer, (step answer).Conforms (·.needsLink = false) wanted := by
    refine ⟨_, rfl, ?_⟩
    rintro (error | answer)
    · trivial
    · exact after answer
  rw [begins, questions, List.filter_cons_of_pos needsLink, List.cons_inj_right,
    List.filter_eq_nil_iff]
  intro question asked
  simp [(only _).allowed_of_mem asked]

theorem Fetches.weaken {fetch : Question} {survey : Survey α} {accepted : α → Prop}
    (fetches : survey.Fetches fetch wanted) (accepts : ∀ value, wanted value → accepted value) :
    survey.Fetches fetch accepted := by
  rcases fetches with ⟨quantity, next, begins, after⟩
  exact ⟨quantity, next, begins, fun answer => (after answer).mono (fun _ only => only) accepts⟩

theorem Fetches.wanted_of_run {fetch : Question} {survey : Survey α}
    (fetches : survey.Fetches fetch wanted) {gateway : Gateway γ} {state : γ} {value : α}
    (ended : (survey.run gateway state).1 = .ok value) : wanted value := by
  rcases fetches with ⟨quantity, next, rfl, after⟩
  have conforms : (read quantity fetch >>= next).Conforms (fun _ => True) wanted :=
    Conforms.afterRead trivial fun answer =>
      (after answer).mono (fun _ _ => trivial) fun _ wants => wants
  exact conforms.wanted_of_run ended

end Survey

/-! ## The surveys of the polled channels -/

namespace DeviceSnapshot

theorem fetches_survey : survey.Fetches .fetchDeviceInfo fun _ => True := by
  refine ⟨_, _, rfl, fun _ => ?_⟩
  iterate 10 refine Survey.Conforms.afterRead (by rfl) fun _ => ?_
  trivial

end DeviceSnapshot

namespace PhaseValues

theorem conforms_survey (phase : Phase) :
    (survey phase).Conforms (·.needsLink = false) fun _ => True := by
  apply Survey.Conforms.afterRead (by rfl)
  intro voltage
  apply Survey.Conforms.afterRead (by rfl)
  intro current
  trivial

end PhaseValues

namespace InputValues

theorem conforms_energySurvey (hybrid : Bool) (input : Input) :
    (energySurvey hybrid input).Conforms (·.needsLink = false) fun _ => True := by
  cases hybrid with
  | true => trivial
  | false => exact (Survey.conforms_readOptional (by rfl) _).bind fun energy _ => trivial

theorem conforms_survey (hybrid : Bool) (index : Nat) :
    (survey hybrid index).Conforms (·.needsLink = false) fun _ => True := by
  apply (conforms_energySurvey hybrid (.module index)).bind
  intro energy _
  apply Survey.Conforms.afterRead (by rfl)
  intro voltage
  apply Survey.Conforms.afterRead (by rfl)
  intro current
  apply Survey.Conforms.afterRead (by rfl)
  intro power
  trivial

end InputValues

namespace ValueSnapshot

/-- The entries of a snapshot are those of the phases and inputs that were read. -/
def Entries (snapshot : ValueSnapshot) : Prop :=
  ∃ phases inputs : UInt8,
    snapshot.phases.length = (phasesRead phases).length ∧
      snapshot.inputs.length = (inputsRead inputs).length

/-- After the fetch the measurements are asked for, phase by phase and input by
input. -/
theorem fetches_survey (time : Int) : (survey time).Fetches .fetchRegisters Entries := by
  refine ⟨_, _, rfl, fun _ => ?_⟩
  apply Survey.Conforms.afterRead (by rfl)
  intro phases
  apply Survey.Conforms.afterRead (by rfl)
  intro inputs
  iterate 6 refine Survey.Conforms.afterRead (by rfl) fun _ => ?_
  apply (Survey.conforms_each PhaseValues.conforms_survey _).bind
  intro phaseValues phaseCount
  iterate 2 refine Survey.Conforms.afterRead (by rfl) fun _ => ?_
  apply (Survey.conforms_each (InputValues.conforms_survey _) _).bind
  intro inputValues inputCount
  exact ⟨phases, inputs, phaseCount, inputCount⟩

/-- At most three phases are read. -/
theorem Entries.length_phases_le {snapshot : ValueSnapshot} (entries : snapshot.Entries) :
    snapshot.phases.length ≤ 3 := by
  rcases entries with ⟨phases, inputs, phaseCount, -⟩
  rw [phaseCount, phasesRead, List.length_take]
  exact Nat.min_le_right _ _

end ValueSnapshot

namespace EventSnapshot

theorem fetches_survey : survey.Fetches .fetchEventRegisters fun _ => True := by
  refine ⟨_, _, rfl, fun _ => ?_⟩
  iterate 3 refine Survey.Conforms.afterRead (by rfl) fun _ => ?_
  trivial

end EventSnapshot

/-! ## Failures that are excused -/

namespace Survey

variable {α β γ : Type} {gateway : Gateway γ} {state : γ} {excused : UpdateError → Prop}

/-- A survey leaves the gateway as it is, and it only fails for an excused reason. -/
structure Settles (excused : UpdateError → Prop) (gateway : Gateway γ) (state : γ)
    (survey : Survey α) : Prop where
  state_eq : (survey.run gateway state).2 = state
  excuse : ∀ error, (survey.run gateway state).1 = .error error → excused error

theorem settles_done (value : α) : (done value).Settles excused gateway state :=
  ⟨rfl, nofun⟩

theorem Settles.bind {first : Survey α} {next : α → Survey β}
    (before : first.Settles excused gateway state)
    (after : ∀ value, (first.run gateway state).1 = .ok value →
      (next value).Settles excused gateway state) :
    (first.bind next).Settles excused gateway state := by
  have unchanged := before.state_eq
  cases ran : first.run gateway state with
  | mk result moved =>
      rw [ran] at unchanged
      subst unchanged
      cases result with
      | ok value =>
          have later := after value (by rw [ran])
          exact ⟨by simpa [run_bind, ran] using later.state_eq,
            by simpa [run_bind, ran] using later.excuse⟩
      | error error =>
          have excuse := before.excuse error (by rw [ran])
          exact ⟨by simp [run_bind, ran], by simpa [run_bind, ran] using excuse⟩

/-- A question that is answered leads on to the rest of the survey. -/
theorem run_read_bind {question : Question} {value : question.Answer}
    (answer : (gateway.ask question state).1 = .ok value) (quantity : String)
    (next : question.Answer → Survey α) :
    (read quantity question >>= next).run gateway state =
      (next value).run gateway (gateway.ask question state).2 := by
  change Survey.run gateway ((read quantity question).bind next) state = _
  rw [run_bind, read, run_ask, answer]
  rfl

/-- The value of a question that is read is its answer. -/
theorem answer_of_read {quantity : String} {question : Question} {value : question.Answer}
    (done : ((read quantity question).run gateway state).1 = .ok value) :
    (gateway.ask question state).1 = .ok value := by
  rw [read, run_ask] at done
  cases answer : (gateway.ask question state).1 with
  | ok found =>
      rw [answer] at done
      cases done
      rfl
  | error error =>
      rw [answer] at done
      contradiction

theorem settles_read {question : Question}
    (unchanged : (gateway.ask question state).2 = state) (quantity : String)
    (excuse : ∀ error, (gateway.ask question state).1 = .error error →
      excused (.gateway quantity error)) :
    (read quantity question).Settles excused gateway state := by
  cases answer : (gateway.ask question state).1 with
  | ok value =>
      constructor <;> rw [read, run_ask, answer]
      · exact unchanged
      · exact nofun
  | error error =>
      constructor <;> rw [read, run_ask, answer]
      · exact unchanged
      · rintro _ ⟨⟩
        exact excuse error answer

theorem settles_readOptional {question : Question}
    (unchanged : (gateway.ask question state).2 = state) (quantity : String)
    (excuse : ∀ error, (gateway.ask question state).1 = .error error →
      excused (.gateway quantity error)) :
    (readOptional quantity question).Settles excused gateway state := by
  cases answer : (gateway.ask question state).1 with
  | ok value =>
      constructor <;> rw [readOptional, run_ask, answer]
      · exact unchanged
      · exact nofun
  | error error =>
      constructor <;> rw [readOptional, run_ask, answer] <;> simp only
      · split <;> exact unchanged
      · intro found failed
        split at failed
        · contradiction
        · cases failed
          exact excuse error answer

theorem settles_each {survey : α → Survey β} {entries : List α}
    (each : ∀ entry ∈ entries, (survey entry).Settles excused gateway state) :
    (Survey.each survey entries).Settles excused gateway state := by
  induction entries with
  | nil => exact settles_done []
  | cons entry entries ih =>
      have later := ih fun entry mem => each entry (List.mem_cons_of_mem _ mem)
      exact (each entry List.mem_cons_self).bind fun value _ =>
        later.bind fun values _ => settles_done _

/-- If the survey of every entry ends with a value, so does that of the list. -/
theorem exists_run_each {survey : α → Survey β}
    (each : ∀ entry, ∃ value, (survey entry).run gateway state = (.ok value, state))
    (entries : List α) :
    ∃ values, (Survey.each survey entries).run gateway state = (.ok values, state) ∧
      values.length = entries.length := by
  induction entries with
  | nil => exact ⟨[], rfl, rfl⟩
  | cons entry entries ih =>
      rcases each entry with ⟨value, first⟩
      rcases ih with ⟨values, later, length⟩
      refine ⟨value :: values, ?_, by simp [length]⟩
      simp [Survey.each, run_bind, first, later]

end Survey

/-! ## What a survey yields -/

namespace Survey

variable {α β γ : Type} {gateway : Gateway γ} {state : γ} {wanted : α → Prop} {required : β → Prop}

/-- With success a survey leaves the gateway as it is and ends with a wanted value. -/
def Yields (gateway : Gateway γ) (state : γ) (wanted : α → Prop) (survey : Survey α) : Prop :=
  ∀ value last, survey.run gateway state = (.ok value, last) → last = state ∧ wanted value

theorem yields_done {value : α} (wants : wanted value) :
    (done value).Yields gateway state wanted := by
  rintro _ _ ⟨⟩
  exact ⟨rfl, wants⟩

theorem Yields.bind {first : Survey α} {next : α → Survey β}
    (before : first.Yields gateway state wanted)
    (after : ∀ value, wanted value → (next value).Yields gateway state required) :
    (first.bind next).Yields gateway state required := by
  intro value last ended
  rw [run_bind] at ended
  split at ended
  next found middle ran =>
    rcases before found middle ran with ⟨rfl, wants⟩
    exact after found wants value last ended
  next => cases ended

theorem yields_read {question : Question} (settled : (gateway.ask question state).2 = state)
    (quantity : String) :
    (read quantity question).Yields gateway state fun value =>
      (gateway.ask question state).1 = .ok value := by
  intro value last ended
  have answer := answer_of_read (congrArg Prod.fst ended)
  rw [read, run_ask, answer] at ended
  cases ended
  exact ⟨settled, answer⟩

/-- An answer that may be missing is missing if the device does not implement it. -/
def Optional {α : Type} (answer : GatewayResult α) : Option α → Prop
  | some value => answer = .ok value
  | none => ∃ severity point, answer = .error ⟨severity, .notImplemented point⟩

theorem yields_readOptional {question : Question}
    (settled : (gateway.ask question state).2 = state) (quantity : String) :
    (readOptional quantity question).Yields gateway state
      (Optional (gateway.ask question state).1) := by
  intro value last ended
  rw [readOptional, run_ask] at ended
  cases answer : (gateway.ask question state).1 with
  | ok found =>
      rw [answer] at ended
      cases ended
      exact ⟨settled, rfl⟩
  | error error =>
      rw [answer] at ended
      simp only at ended
      split at ended
      next point cause =>
        cases ended
        exact ⟨settled, error.severity, point, by rw [← cause]⟩
      next => cases ended

/-- A survey of a list yields a wanted value for each entry, in order. -/
theorem yields_each {survey : α → Survey β} {related : α → β → Prop}
    (each : ∀ entry, (survey entry).Yields gateway state (related entry)) (entries : List α) :
    (Survey.each survey entries).Yields gateway state (List.Forall₂ related entries) := by
  induction entries with
  | nil => exact yields_done .nil
  | cons entry entries ih =>
      exact (each entry).bind fun value first => ih.bind fun values rest =>
        yields_done (.cons first rest)

end Survey

/-! ## Recording -/

/-- The gateway with a record of the questions in the order in which they are asked. -/
def Gateway.recording {γ : Type} (gateway : Gateway γ) : Gateway (γ × List Question) where
  connect := fun (state, record) =>
    ((gateway.connect state).1, ((gateway.connect state).2, record))
  reconnect := fun (state, record) =>
    ((gateway.reconnect state).1, ((gateway.reconnect state).2, record))
  shutdown := fun (state, record) => (gateway.shutdown state, record)
  ask := fun question (state, record) =>
    ((gateway.ask question state).1,
      ((gateway.ask question state).2, record ++ [question]))

/-- Recording adds the questions of the survey to the record and changes nothing else. -/
theorem Survey.run_recording {α γ : Type} (gateway : Gateway γ) (survey : Survey α) (state : γ)
    (record : List Question) :
    survey.run gateway.recording (state, record) =
      ((survey.run gateway state).1,
        ((survey.run gateway state).2, record ++ survey.questions gateway state)) := by
  induction survey generalizing state record with
  | done value => simp [questions]
  | fail error => simp [questions]
  | ask question next ih =>
      rw [run_ask, run_ask, questions]
      have later := ih (gateway.ask question state).1 (gateway.ask question state).2
        (record ++ [question])
      rw [List.append_assoc] at later
      exact later

end InverterBridge
