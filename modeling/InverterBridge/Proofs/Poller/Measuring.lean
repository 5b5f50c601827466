import InverterBridge.Proofs.Poller.Replies
import InverterBridge.Proofs.Poller.Updates
import Mathlib.Data.List.Nodup

/-!
# The order in which a device is measured

An update of the values asks for the registers, then how much there is to read, and then for one
quantity after the other: those of the inverter, the phases, and the inputs.  `Scope.order` is this
order.  Every update keeps to it up to the first answer that fails, and the snapshot of one that
goes through has an entry for each phase and each input with the answers about this phase or input
(`values_in_reading_order`).
-/

namespace InverterBridge

/-- How much there is to read of a device, as the device has it. -/
structure Scope where
  phases : UInt8
  inputs : UInt8
  hybrid : Bool
  deriving DecidableEq, Repr

/-! ## Orders -/

/-- The inquiries about a phase. -/
def PhaseValues.order (phase : Phase) : List Inquiry :=
  [⟨"ac_voltage", .acVoltage phase, false⟩, ⟨"ac_current", .acCurrent phase, false⟩]

/-- The inquiry about the energy of an input, which is not made of a hybrid device. -/
def InputValues.energyOrder (hybrid : Bool) (index : Nat) : List Inquiry :=
  if hybrid then [] else [⟨"dc_energy", .dc .energy (.module index), true⟩]

/-- The inquiries about an input. -/
def InputValues.order (hybrid : Bool) (index : Nat) : List Inquiry :=
  energyOrder hybrid index ++
    [⟨"dc_voltage", .dc .voltage (.module index), false⟩,
      ⟨"dc_current", .dc .current (.module index), false⟩,
      ⟨"dc_power", .dc .power (.module index), false⟩]

namespace Scope

/-- The inquiries with which an update begins. -/
def opening : List Inquiry :=
  [⟨"registers", .fetchRegisters, false⟩, ⟨"phases", .phases, false⟩,
    ⟨"inputs", .inputs, false⟩, ⟨"hybrid", .hybrid, false⟩]

/-- The inquiries about the measurements. -/
def measurements (scope : Scope) : List Inquiry :=
  [⟨"ac_energy", .energy, false⟩, ⟨"ac_power_active", .activePower, false⟩,
    ⟨"ac_power_apparent", .apparentPower, false⟩, ⟨"ac_power_reactive", .reactivePower, false⟩,
    ⟨"ac_power_factor", .powerFactor, false⟩] ++
  ((ValueSnapshot.phasesRead scope.phases).flatMap PhaseValues.order ++
    ([⟨"ac_frequency", .frequency, false⟩, ⟨"dc_power", .dc .power .total, false⟩] ++
      (ValueSnapshot.inputsRead scope.inputs).flatMap (InputValues.order scope.hybrid)))

/-- The inquiries of an update in the order in which they are made. -/
def order (scope : Scope) : List Inquiry :=
  opening ++ scope.measurements

/-- What the device has answered of its phases, inputs and battery is the scope. -/
structure AnsweredBy (replies : List Reply) (scope : Scope) : Prop where
  phases : ⟨.phases, .ok scope.phases⟩ ∈ replies
  inputs : ⟨.inputs, .ok scope.inputs⟩ ∈ replies
  hybrid : ⟨.hybrid, .ok scope.hybrid⟩ ∈ replies

/-- No other scope has been answered, though an update that fails may not have asked for all. -/
structure Reported (scope : Scope) (replies : List Reply) : Prop where
  phases : ∀ count, ⟨.phases, .ok count⟩ ∈ replies → count = scope.phases
  inputs : ∀ count, ⟨.inputs, .ok count⟩ ∈ replies → count = scope.inputs
  hybrid : ∀ answer, ⟨.hybrid, .ok answer⟩ ∈ replies → answer = scope.hybrid

end Scope

/-! ## Entries -/

/-- The entry of a phase holds the answers about this phase. -/
structure PhaseValues.AnsweredFor (phase : Phase) (replies : List Reply) (entry : PhaseValues) :
    Prop where
  voltage : ⟨.acVoltage phase, .ok entry.voltage⟩ ∈ replies
  current : ⟨.acCurrent phase, .ok entry.current⟩ ∈ replies

/-- The energy of an input: known if it was answered, and not if the device is hybrid or does not
implement it. -/
inductive InputValues.EnergyAnswered (index : Nat) (replies : List Reply) :
    Bool → Option Float → Prop
  | hybrid : EnergyAnswered index replies true none
  | known {wattHours : Float}
      (answered : ⟨.dc .energy (.module index), .ok wattHours⟩ ∈ replies) :
      EnergyAnswered index replies false (some (kilowattHours wattHours))
  | notImplemented {severity : Severity} {point : String}
      (answered :
        ⟨.dc .energy (.module index), .error ⟨severity, .notImplemented point⟩⟩ ∈ replies) :
      EnergyAnswered index replies false none

/-- The entry of an input holds the answers about this input. -/
structure InputValues.AnsweredFor (hybrid : Bool) (index : Nat) (replies : List Reply)
    (entry : InputValues) : Prop where
  voltage : ⟨.dc .voltage (.module index), .ok entry.voltage⟩ ∈ replies
  current : ⟨.dc .current (.module index), .ok entry.current⟩ ∈ replies
  power : ⟨.dc .power (.module index), .ok entry.power⟩ ∈ replies
  energy : EnergyAnswered index replies hybrid entry.energy

/-- A snapshot is made of the replies, with one entry for each phase and each input that is read. -/
structure ValueSnapshot.MadeOf (time : Int) (scope : Scope) (replies : List Reply)
    (snapshot : ValueSnapshot) : Prop where
  time_eq : snapshot.time = time
  energy : ∃ wattHours, ⟨.energy, .ok wattHours⟩ ∈ replies ∧
    snapshot.energy = kilowattHours wattHours
  activePower : ⟨.activePower, .ok snapshot.activePower⟩ ∈ replies
  apparentPower : ⟨.apparentPower, .ok snapshot.apparentPower⟩ ∈ replies
  reactivePower : ⟨.reactivePower, .ok snapshot.reactivePower⟩ ∈ replies
  powerFactor : ⟨.powerFactor, .ok snapshot.powerFactor⟩ ∈ replies
  frequency : ⟨.frequency, .ok snapshot.frequency⟩ ∈ replies
  dcPower : ⟨.dc .power .total, .ok snapshot.dcPower⟩ ∈ replies
  efficiency_eq :
    snapshot.efficiency = InverterBridge.efficiency snapshot.activePower snapshot.dcPower
  phases_length : snapshot.phases.length = max 1 (min 3 scope.phases.toNat)
  phases : ∀ (phase : Phase) (entry : PhaseValues), snapshot.phases[phase.index]? = some entry →
    entry.AnsweredFor phase replies
  inputs_length : snapshot.inputs.length = max 1 scope.inputs.toNat
  inputs : ∀ (index : Nat) (entry : InputValues), snapshot.inputs[index]? = some entry →
    entry.AnsweredFor scope.hybrid index replies

/-! ## Surveys -/

section Surveys

variable {γ : Type} (gateway : Gateway γ)

theorem PhaseValues.reads_survey (phase : Phase) :
    (survey phase).Reads gateway (order phase) (AnsweredFor phase) := by
  apply ((Survey.reads_read "ac_voltage" (.acVoltage phase)).bind fun voltage =>
    (Survey.reads_read "ac_current" (.acCurrent phase)).bind_done (PhaseValues.mk voltage)).mono
  rintro all _ ⟨voltage, first, current, second, rfl⟩
  exact ⟨first, second⟩

theorem InputValues.reads_energySurvey (hybrid : Bool) (index : Nat) :
    (energySurvey hybrid (.module index)).Reads gateway (energyOrder hybrid index)
      fun all energy => EnergyAnswered index all hybrid energy := by
  cases hybrid with
  | true => exact Survey.reads_done fun _ => .hybrid
  | false =>
      apply ((Survey.reads_readOptional "dc_energy" (.dc .energy (.module index))).bind_done
        (Option.map kilowattHours)).mono
      rintro all _ ⟨energy, ⟨answer, answered, optional⟩, rfl⟩
      cases energy with
      | some wattHours =>
          cases optional
          exact .known answered
      | none =>
          obtain ⟨severity, point, rfl⟩ := optional
          exact .notImplemented answered

theorem InputValues.reads_survey (hybrid : Bool) (index : Nat) :
    (survey hybrid index).Reads gateway (order hybrid index) (AnsweredFor hybrid index) := by
  apply ((reads_energySurvey gateway hybrid index).bind fun energy =>
    (Survey.reads_read "dc_voltage" (.dc .voltage (.module index))).bind fun voltage =>
    (Survey.reads_read "dc_current" (.dc .current (.module index))).bind fun current =>
    (Survey.reads_read "dc_power" (.dc .power (.module index))).bind_done fun power =>
      (⟨voltage, current, power, energy⟩ : InputValues)).mono
  rintro all _ ⟨energy, first, voltage, second, current, third, power, fourth, rfl⟩
  exact ⟨second, third, fourth, first⟩

/-- The part of an update that reads the registers and asks how much there is to read. -/
def Scope.survey : Survey Scope := do
  Survey.read "registers" .fetchRegisters
  let phases ← Survey.read "phases" .phases
  let inputs ← Survey.read "inputs" .inputs
  let hybrid ← Survey.read "hybrid" .hybrid
  return ⟨phases, inputs, hybrid⟩

/-- The scope is what the device answers. -/
theorem Scope.reads_survey : survey.Reads gateway opening AnsweredBy := by
  apply ((Survey.reads_read "registers" .fetchRegisters).bind fun _ =>
    (Survey.reads_read "phases" .phases).bind fun phases =>
    (Survey.reads_read "inputs" .inputs).bind fun inputs =>
    (Survey.reads_read "hybrid" .hybrid).bind_done (Scope.mk phases inputs)).mono
  rintro all _ ⟨_, _, phases, phasesRead, inputs, inputsRead, hybrid, hybridRead, rfl⟩
  exact ⟨phasesRead, inputsRead, hybridRead⟩

namespace ValueSnapshot

/-- The part of an update that reads the measurements. -/
def measurementSurvey (time : Int) (scope : Scope) : Survey ValueSnapshot := do
  let energy ← Survey.read "ac_energy" .energy
  let activePower ← Survey.read "ac_power_active" .activePower
  let apparentPower ← Survey.read "ac_power_apparent" .apparentPower
  let reactivePower ← Survey.read "ac_power_reactive" .reactivePower
  let powerFactor ← Survey.read "ac_power_factor" .powerFactor
  let phases ← Survey.each PhaseValues.survey (phasesRead scope.phases)
  let frequency ← Survey.read "ac_frequency" .frequency
  let dcPower ← Survey.read "dc_power" (.dc .power .total)
  let inputs ← Survey.each (InputValues.survey scope.hybrid) (inputsRead scope.inputs)
  return {
    time
    energy := kilowattHours energy
    activePower, apparentPower, reactivePower, powerFactor, phases, frequency, dcPower
    efficiency := InverterBridge.efficiency activePower dcPower
    inputs }

theorem survey_eq (time : Int) : survey time = Scope.survey.bind (measurementSurvey time) := by
  simp only [Scope.survey, Bind.bind, Survey.bind_assoc]
  rfl

theorem length_phasesRead (phases : UInt8) :
    (phasesRead phases).length = max 1 (min 3 phases.toNat) := by
  have three : Phase.all.length = 3 := rfl
  rw [phasesRead, List.length_take, three]
  omega

theorem getElem?_phasesRead {phases : UInt8} {phase : Phase}
    (inside : phase.index < (phasesRead phases).length) :
    (phasesRead phases)[phase.index]? = some phase := by
  rw [phasesRead, List.length_take] at inside
  rw [phasesRead, List.getElem?_take_of_lt (Nat.lt_of_lt_of_le inside (Nat.min_le_left _ _))]
  cases phase <;> rfl

/-- What relates two lists relates their entries at the same place. -/
theorem related_of_getElem? {α β : Type} {related : α → β → Prop} {first : List α}
    {second : List β} (pairwise : List.Forall₂ related first second) {place : Nat} {left : α}
    {right : β} (found : first[place]? = some left) (other : second[place]? = some right) :
    related left right := by
  obtain ⟨inside, rfl⟩ := List.getElem?_eq_some_iff.mp found
  obtain ⟨alsoInside, rfl⟩ := List.getElem?_eq_some_iff.mp other
  exact pairwise.get inside alsoInside

/-- The measurements are read in their order. -/
theorem reads_measurementSurvey (time : Int) (scope : Scope) :
    (measurementSurvey time scope).Reads gateway scope.measurements (MadeOf time scope) := by
  apply ((Survey.reads_read "ac_energy" .energy).bind fun energy =>
    (Survey.reads_read "ac_power_active" .activePower).bind fun activePower =>
    (Survey.reads_read "ac_power_apparent" .apparentPower).bind fun apparentPower =>
    (Survey.reads_read "ac_power_reactive" .reactivePower).bind fun reactivePower =>
    (Survey.reads_read "ac_power_factor" .powerFactor).bind fun powerFactor =>
    (Survey.reads_each (PhaseValues.reads_survey gateway) (phasesRead scope.phases)).bind
      fun phases =>
    (Survey.reads_read "ac_frequency" .frequency).bind fun frequency =>
    (Survey.reads_read "dc_power" (.dc .power .total)).bind fun dcPower =>
    (Survey.reads_each (InputValues.reads_survey gateway scope.hybrid)
      (inputsRead scope.inputs)).bind_done fun inputs =>
        ({ time
           energy := kilowattHours energy
           activePower, apparentPower, reactivePower, powerFactor, phases, frequency, dcPower
           efficiency := InverterBridge.efficiency activePower dcPower
           inputs } : ValueSnapshot)).mono
  rintro all _ ⟨energy, energyRead, activePower, activeRead, apparentPower, apparentRead,
    reactivePower, reactiveRead, powerFactor, factorRead, phases, phasesFit, frequency,
    frequencyRead, dcPower, dcRead, inputs, inputsFit, rfl⟩
  constructor
  case time_eq => rfl
  case energy => exact ⟨energy, energyRead, rfl⟩
  case activePower => exact activeRead
  case apparentPower => exact apparentRead
  case reactivePower => exact reactiveRead
  case powerFactor => exact factorRead
  case frequency => exact frequencyRead
  case dcPower => exact dcRead
  case efficiency_eq => rfl
  case phases_length => exact phasesFit.length_eq.symm.trans (length_phasesRead scope.phases)
  case phases =>
    intro phase entry found
    obtain ⟨inside, -⟩ := List.getElem?_eq_some_iff.mp found
    exact related_of_getElem? phasesFit
      (getElem?_phasesRead (phasesFit.length_eq.symm ▸ inside)) found
  case inputs_length => exact inputsFit.length_eq.symm.trans List.length_range
  case inputs =>
    intro index entry found
    obtain ⟨inside, -⟩ := List.getElem?_eq_some_iff.mp found
    rw [← inputsFit.length_eq, inputsRead, List.length_range] at inside
    exact related_of_getElem? inputsFit (List.getElem?_range inside) found

end ValueSnapshot

end Surveys

/-! ## Each question once -/

/-- The part of an update to which a question belongs: the inverter, its phases, the totals and the
inputs. -/
def Question.part : Question → Nat
  | .acVoltage _ | .acCurrent _ => 1
  | .frequency | .dc _ .total => 2
  | .dc _ (.module _) => 3
  | _ => 0

/-- Questions of one part are followed by questions of later ones. -/
theorem nodup_append_of_part {first second : List Question} (part : Nat) (distinct : first.Nodup)
    (alsoDistinct : second.Nodup) (here : ∀ question ∈ first, question.part = part)
    (later : ∀ question ∈ second, part < question.part) : (first ++ second).Nodup := by
  rw [List.nodup_append]
  refine ⟨distinct, alsoDistinct, ?_⟩
  rintro question asked _ again rfl
  exact Nat.ne_of_gt (later question again) (here question asked)

theorem PhaseValues.question_of_mem_order {phase : Phase} {question : Question}
    (asked : question ∈ (order phase).map Inquiry.question) :
    question = .acVoltage phase ∨ question = .acCurrent phase := by
  simpa [order] using asked

theorem InputValues.question_of_mem_order {hybrid : Bool} {index : Nat} {question : Question}
    (asked : question ∈ (order hybrid index).map Inquiry.question) :
    ∃ point, question = .dc point (.module index) := by
  cases hybrid <;> simp [order, energyOrder] at asked <;> grind

namespace Scope

/-- The questions about the phases. -/
def phaseQuestions (scope : Scope) : List Question :=
  (ValueSnapshot.phasesRead scope.phases).flatMap fun phase =>
    (PhaseValues.order phase).map Inquiry.question

/-- The questions about the inputs. -/
def inputQuestions (scope : Scope) : List Question :=
  (ValueSnapshot.inputsRead scope.inputs).flatMap fun index =>
    (InputValues.order scope.hybrid index).map Inquiry.question

theorem questions_order (scope : Scope) :
    scope.order.map Inquiry.question =
      [.fetchRegisters, .phases, .inputs, .hybrid, .energy, .activePower, .apparentPower,
        .reactivePower, .powerFactor] ++
      (scope.phaseQuestions ++ ([.frequency, .dc .power .total] ++ scope.inputQuestions)) := by
  simp [order, opening, measurements, phaseQuestions, inputQuestions, List.map_flatMap]

theorem nodup_phaseQuestions (scope : Scope) : scope.phaseQuestions.Nodup := by
  have distinct : (ValueSnapshot.phasesRead scope.phases).Nodup :=
    (by decide : Phase.all.Nodup).sublist (List.take_sublist _ _)
  rw [phaseQuestions, List.nodup_flatMap]
  constructor
  · intro phase _
    simp [PhaseValues.order]
  · apply distinct.imp
    intro first second different question here there
    rcases PhaseValues.question_of_mem_order here with rfl | rfl <;>
      rcases PhaseValues.question_of_mem_order there with same | same <;> cases same <;>
        exact different rfl

theorem nodup_inputQuestions (scope : Scope) : scope.inputQuestions.Nodup := by
  rw [inputQuestions, List.nodup_flatMap]
  constructor
  · intro index _
    cases scope.hybrid <;> simp [InputValues.order, InputValues.energyOrder]
  · apply List.nodup_range.imp
    intro first second different question here there
    obtain ⟨point, rfl⟩ := InputValues.question_of_mem_order here
    obtain ⟨other, same⟩ := InputValues.question_of_mem_order there
    cases same
    exact different rfl

theorem part_of_mem_phaseQuestions {scope : Scope} {question : Question}
    (asked : question ∈ scope.phaseQuestions) : question.part = 1 := by
  obtain ⟨phase, -, asked⟩ := List.mem_flatMap.mp asked
  rcases PhaseValues.question_of_mem_order asked with rfl | rfl <;> rfl

theorem part_of_mem_inputQuestions {scope : Scope} {question : Question}
    (asked : question ∈ scope.inputQuestions) : question.part = 3 := by
  obtain ⟨index, -, asked⟩ := List.mem_flatMap.mp asked
  obtain ⟨point, rfl⟩ := InputValues.question_of_mem_order asked
  rfl

/-- No question stands twice in an order. -/
theorem nodup_order (scope : Scope) : (scope.order.map Inquiry.question).Nodup := by
  have measured : ([Question.frequency, .dc .power .total] ++ scope.inputQuestions).Nodup := by
    apply nodup_append_of_part 2 (by decide) scope.nodup_inputQuestions (by decide)
    intro question asked
    rw [part_of_mem_inputQuestions asked]
    decide
  have afterPhases : ∀ question ∈ [.frequency, .dc .power .total] ++ scope.inputQuestions,
      1 < question.part := by
    intro question asked
    rcases List.mem_append.mp asked with total | input
    · exact (by decide : ∀ question ∈ [Question.frequency, .dc .power .total],
        1 < question.part) question total
    · rw [part_of_mem_inputQuestions input]
      decide
  rw [questions_order]
  apply nodup_append_of_part 0 (by decide) _ (by decide)
  · intro question asked
    rcases List.mem_append.mp asked with phase | later
    · rw [part_of_mem_phaseQuestions phase]
      decide
    · exact Nat.lt_trans Nat.zero_lt_one (afterPhases question later)
  · exact nodup_append_of_part 1 scope.nodup_phaseQuestions measured
      (fun _ => part_of_mem_phaseQuestions) afterPhases

end Scope

/-! ## What a run reports -/

/-- To a question that is asked once there is one answer. -/
theorem Reply.value_eq_of_nodup {replies : List Reply} {question : Question}
    {value found : question.Answer} (distinct : (replies.map Reply.question).Nodup)
    (answered : ⟨question, .ok value⟩ ∈ replies) (again : ⟨question, .ok found⟩ ∈ replies) :
    found = value := by
  have same : (⟨question, .ok found⟩ : Reply) = ⟨question, .ok value⟩ :=
    List.inj_on_of_nodup_map distinct again answered rfl
  cases same
  rfl

/-- What the device has reported to a question, or anything if it has not been asked. -/
theorem Reply.exists_reported {replies : List Reply} (question : Question)
    (anything : question.Answer) (distinct : (replies.map Reply.question).Nodup) :
    ∃ value : question.Answer, ∀ found, ⟨question, .ok found⟩ ∈ replies → found = value := by
  by_cases reported : ∃ value, ⟨question, .ok value⟩ ∈ replies
  · obtain ⟨value, answered⟩ := reported
    exact ⟨value, fun _ again => Reply.value_eq_of_nodup distinct answered again⟩
  · exact ⟨anything, fun found answered => absurd ⟨found, answered⟩ reported⟩

/-- The device has reported some scope, even if not all of it has been asked. -/
theorem Scope.exists_reported {replies : List Reply}
    (distinct : (replies.map Reply.question).Nodup) : ∃ scope : Scope, scope.Reported replies := by
  obtain ⟨phases, phasesReported⟩ := Reply.exists_reported .phases (0 : UInt8) distinct
  obtain ⟨inputs, inputsReported⟩ := Reply.exists_reported .inputs (0 : UInt8) distinct
  obtain ⟨hybrid, hybridReported⟩ := Reply.exists_reported .hybrid false distinct
  exact ⟨⟨phases, inputs, hybrid⟩, phasesReported, inputsReported, hybridReported⟩

theorem Scope.AnsweredBy.reported {replies : List Reply} {scope : Scope}
    (answered : scope.AnsweredBy replies) (distinct : (replies.map Reply.question).Nodup) :
    scope.Reported replies where
  phases _ := Reply.value_eq_of_nodup distinct answered.phases
  inputs _ := Reply.value_eq_of_nodup distinct answered.inputs
  hybrid _ := Reply.value_eq_of_nodup distinct answered.hybrid

/-- The questions of a run that keeps to an order are distinct. -/
theorem Scope.nodup_questions {scope : Scope} {replies : List Reply}
    {failure : Option UpdateError} (follows : Follows scope.order replies failure) :
    (replies.map Reply.question).Nodup :=
  scope.nodup_order.sublist follows.questions_prefix.sublist

section Runs

variable {γ : Type} (gateway : Gateway γ)

/-- Every run of the survey keeps to the order of the scope that the device reports. -/
theorem ValueSnapshot.reports_survey (time : Int) (state : γ) :
    ∃ scope : Scope, scope.Reported ((survey time).replies gateway state) ∧
      (((survey time).replies gateway state).map Reply.question).Nodup ∧
      Survey.Reports scope.order (MadeOf time scope) ((survey time).replies gateway state)
        ((survey time).run gateway state).1 := by
  rw [survey_eq]
  rcases Survey.reports_bind (Scope.reads_survey gateway) (reads_measurementSurvey gateway time)
    state with ⟨scope, reports, answered⟩ | ⟨error, failed, stopped⟩
  · obtain ⟨failure, follows⟩ := reports.exists_follows
    have distinct := Scope.nodup_questions follows
    have reported : scope.AnsweredBy
        ((Scope.survey.bind (measurementSurvey time)).replies gateway state) := by
      apply answered.2
      rw [Survey.replies_bind]
      exact List.subset_append_left _ _
    exact ⟨scope, reported.reported distinct, distinct, reports.mono fun _ _ fits => fits.2⟩
  · -- The device may not have been asked for all of its scope; nothing depends on the rest.
    have distinct := Scope.nodup_questions
      (stopped.append_of_failure (Scope.mk 0 0 false).measurements)
    obtain ⟨scope, reported⟩ := Scope.exists_reported distinct
    rw [failed]
    exact ⟨scope, reported, distinct, stopped.append_of_failure scope.measurements⟩

namespace Poller

/-- A snapshot that has been read has a document unless it has 255 inputs. -/
theorem document?_eq_none_iff_of_run {gateway : Gateway γ} {time : Int} {state : γ}
    {snapshot : ValueSnapshot} {scope : Scope} {replies : List Reply}
    (ran : ((ValueSnapshot.survey time).run gateway state).1 = .ok snapshot)
    (made : snapshot.MadeOf time scope replies) :
    Polled.values.document? snapshot = none ↔ 255 ≤ scope.inputs.toNat := by
  have inputs := made.inputs_length
  rw [ValueSnapshot.document?_eq_none_iff ((ValueSnapshot.fetches_survey time).wanted_of_run ran)]
  omega

/-- An update of the values makes the inquiries about what the device reports in their order, none
twice.  Either one of them fails; then it is the last one, its quantity and error are the failure,
and the slot is left alone.  Or the answers about each phase and each input make a snapshot, which
goes into the slot unless there are 255 inputs: then the tick breaks down, and the poller is left
as it was but for its gateway. -/
theorem values_in_reading_order (time : Int) (outcome : TickOutcome) (poller : Poller γ) :
    let replies := (ValueSnapshot.survey time).replies gateway poller.gateway
    let after := poller.tickValues gateway time outcome
    ∃ scope : Scope, scope.Reported replies ∧
      ((ValueSnapshot.survey time).questions gateway poller.gateway).Nodup ∧
      match ((ValueSnapshot.survey time).run gateway poller.gateway).1 with
      | .error error =>
          Follows scope.order replies (some error) ∧
            after.1 = some { outcome with failures := outcome.failures ++ [error] } ∧
            after.2.values = poller.values
      | .ok snapshot =>
          Follows scope.order replies none ∧ snapshot.MadeOf time scope replies ∧
            if scope.inputs.toNat < 255 then
              ∃ document, Polled.values.document? snapshot = some document ∧
                after.2.values = some ⟨snapshot, document⟩ ∧
                after.1 = some { outcome with valuesUpdated := true }
            else
              after = (none, { poller with gateway := after.2.gateway }) := by
  intro replies after
  obtain ⟨scope, reported, distinct, reports⟩ :=
    ValueSnapshot.reports_survey gateway time poller.gateway
  rw [Survey.map_question_replies] at distinct
  refine ⟨scope, reported, distinct, ?_⟩
  have measures : Measures gateway time outcome poller after :=
    measures_tickValues gateway time outcome poller
  clear_value after
  cases measures with
  | @fail error state failed =>
      rw [failed] at reports ⊢
      exact ⟨reports, rfl, Polled.values.slot_setState _ time .disconnected⟩
  | @commit snapshot document state answered written =>
      rw [answered] at reports ⊢
      have made := reports.2 replies (List.Subset.refl _)
      have unwritten_iff := document?_eq_none_iff_of_run (congrArg Prod.fst answered) made
      have fewer : scope.inputs.toNat < 255 := by
        rw [← Nat.not_le, ← unwritten_iff, written]
        exact Option.some_ne_none _
      refine ⟨reports.1, made, ?_⟩
      rw [if_pos fewer]
      exact ⟨document, written, Polled.values.slot_dispatch .., rfl⟩
  | @breakDown snapshot state answered unwritten =>
      rw [answered] at reports ⊢
      have made := reports.2 replies (List.Subset.refl _)
      have unwritten_iff := document?_eq_none_iff_of_run (congrArg Prod.fst answered) made
      refine ⟨reports.1, made, ?_⟩
      rw [if_neg (Nat.not_lt.mpr (unwritten_iff.mp unwritten))]

end Poller

end Runs

namespace Poller

/-- With 255 inputs no inquiry fails, and nevertheless nothing goes into the slot. -/
theorem not_committed_of_255_inputs :
    let after := (initial "inverter" ()).tickValues (.resting 255) 0 .begun
    (∃ snapshot, ((ValueSnapshot.survey 0).run (.resting 255) ()).1 = .ok snapshot) ∧
      after.2.values = none ∧ after.1 = none := by
  intro after
  obtain ⟨snapshot, answered, length⟩ := exists_resting_snapshot 0 255
  have broken : after.1 = none :=
    tickValues_eq_none_iff.mpr ⟨snapshot, answered, by rw [length]; decide⟩
  refine ⟨⟨snapshot, answered⟩, ?_, broken⟩
  rw [tickValues_of_broken broken]
  rfl

end Poller

end InverterBridge
