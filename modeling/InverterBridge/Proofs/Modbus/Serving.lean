import InverterBridge.Proofs.Modbus.Readable
import InverterBridge.Proofs.Poller.Updates

/-!
# Whether an accepted device serves a poll

`ModbusGateway.Serves` is what a poll of the values needs of a device: the
fetch succeeds, every announced phase and input is readable, and the update is
declined for points that are not implemented alone.  An accepted device serves
every poll whose requests are answered, except for its inputs:
`ModbusGateway.serves_iff_of_accepted` says what the input model must look like.
-/

namespace InverterBridge

namespace ModbusGateway

variable {δ : Type} {wire : Wire δ} {gateway : ModbusGateway δ} {models : ModelMap}

/-- What a poll of the values needs of a device. -/
structure Serves (wire : Wire δ) (time : Int) (gateway : ModbusGateway δ) : Prop where
  fetched : (gateway.ask wire .fetchRegisters).1 = .ok ()
  phases : ∃ count, ((gateway.ask wire .fetchRegisters).2.ask wire .phases).1 = .ok count ∧
    ∀ phase : Phase, phase.index < count.toNat →
      Readable ((gateway.ask wire .fetchRegisters).2.ask wire (.acVoltage phase)).1 ∧
        Readable ((gateway.ask wire .fetchRegisters).2.ask wire (.acCurrent phase)).1
  inputs : InputsReadable wire (gateway.ask wire .fetchRegisters).2
  update :
    (∃ snapshot document,
      ((ValueSnapshot.survey time).run (ModbusGateway.gateway wire) gateway).1 = .ok snapshot ∧
        Polled.values.document? snapshot = some document) ∨
    ∃ error, ((ValueSnapshot.survey time).run (ModbusGateway.gateway wire) gateway).1 =
      .error error ∧ error.Unimplemented

/-! ## The survey of the values -/

/-- A getter whose answer is readable settles. -/
theorem settles_getter {question : Question} (getter : question.needsLink = false)
    (readable : Readable (gateway.ask wire question).1) (quantity : String) :
    (Survey.read quantity question).Settles UpdateError.Unimplemented
      (ModbusGateway.gateway wire) gateway := by
  apply Survey.settles_read (ask_getter getter wire gateway) quantity
  intro error failed
  rcases readable error failed with ⟨point, rfl⟩
  exact ⟨quantity, point, rfl⟩

/-- Of the phases that are read each is a phase of the inverter. -/
theorem index_lt_of_mem_phasesRead {count : UInt8}
    (bounds : 1 ≤ count.toNat ∧ count.toNat ≤ 3) {phase : Phase}
    (mem : phase ∈ ValueSnapshot.phasesRead count) : phase.index < count.toNat := by
  rcases bounds with ⟨least, most⟩
  have taken : max 1 (min 3 count.toNat) = count.toNat := by omega
  rw [ValueSnapshot.phasesRead, taken] at mem
  have few : count.toNat = 1 ∨ count.toNat = 2 ∨ count.toNat = 3 := by omega
  rcases few with number | number | number <;> rw [number] at mem ⊢ <;> cases phase <;>
    simp_all [Phase.all, Phase.index]

namespace Fetched

variable {inverter : InverterBlock} (fetched : gateway.Fetched models inverter)

include fetched

theorem settles_phase {phase : Phase} (has : phase.index < inverter.phases.toNat) :
    (PhaseValues.survey phase).Settles UpdateError.Unimplemented
      (ModbusGateway.gateway wire) gateway := by
  rcases fetched.readable_phase has with ⟨voltage, current⟩
  apply (settles_getter rfl voltage _).bind
  intro _ _
  apply (settles_getter rfl current _).bind
  intro _ _
  exact Survey.settles_done _

omit fetched in
theorem settles_input {index : Nat}
    (readable : ∀ point, Readable (gateway.ask wire (.dc point (.module index))).1)
    (hybrid : Bool) :
    (InputValues.survey hybrid index).Settles UpdateError.Unimplemented
      (ModbusGateway.gateway wire) gateway := by
  have energy : (InputValues.energySurvey hybrid (.module index)).Settles
      UpdateError.Unimplemented (ModbusGateway.gateway wire) gateway := by
    cases hybrid with
    | true => exact Survey.settles_done _
    | false =>
        apply Survey.Settles.bind
        · apply Survey.settles_readOptional (ask_getter rfl wire gateway) _
          intro error failed
          rcases readable .energy error failed with ⟨point, rfl⟩
          exact ⟨_, point, rfl⟩
        · intro _ _
          exact Survey.settles_done _
  apply energy.bind
  intro _ _
  apply (settles_getter rfl (readable .voltage) _).bind
  intro _ _
  apply (settles_getter rfl (readable .current) _).bind
  intro _ _
  apply (settles_getter rfl (readable .power) _).bind
  intro _ _
  exact Survey.settles_done _

/-- The phases that are read are those of the inverter. -/
theorem settles_phases {count : UInt8} (answer : (gateway.ask wire .phases).1 = .ok count) :
    (Survey.each PhaseValues.survey (ValueSnapshot.phasesRead count)).Settles
      UpdateError.Unimplemented (ModbusGateway.gateway wire) gateway := by
  have count_eq : count = inverter.phases :=
    Except.ok.inj (answer.symm.trans (fetched.phases_eq wire))
  have bounds := phasesOfModel_bounds inverter.layout_eq
  apply Survey.settles_each
  intro phase mem
  rw [count_eq] at mem
  exact fetched.settles_phase (index_lt_of_mem_phasesRead bounds mem)

/-- The inputs that are read are those that are announced. -/
theorem settles_inputs (inputs : InputsReadable wire gateway) {count : UInt8}
    (answer : (gateway.ask wire .inputs).1 = .ok count) (hybrid : Bool) :
    (Survey.each (InputValues.survey hybrid) (ValueSnapshot.inputsRead count)).Settles
      UpdateError.Unimplemented (ModbusGateway.gateway wire) gateway := by
  rcases inputs with ⟨announced, announcement, readable⟩
  have count_eq : count = announced := Except.ok.inj (answer.symm.trans announcement)
  have one := fetched.one_le_inputs wire answer
  apply Survey.settles_each
  intro index mem
  rw [ValueSnapshot.inputsRead, List.mem_range] at mem
  exact settles_input (readable index (by rw [← count_eq]; omega)) hybrid

/-- Once the registers have been fetched, only points that are not implemented
end the survey of the values early. -/
theorem settles_values (inputs : InputsReadable wire gateway) (time : Int) :
    ∃ next, ValueSnapshot.survey time = Survey.read "registers" .fetchRegisters >>= next ∧
      ∀ answer, (next answer).Settles UpdateError.Unimplemented
        (ModbusGateway.gateway wire) gateway := by
  have phases : Readable (gateway.ask wire .phases).1 := fetched.phases_eq wire ▸ readable_ok _
  have count : Readable (gateway.ask wire .inputs).1 := by
    rcases inputs with ⟨announced, announcement, -⟩
    exact announcement ▸ readable_ok _
  have hybrid : Readable (gateway.ask wire .hybrid).1 := fetched.hybrid_eq wire ▸ readable_ok _
  have energy : Readable (gateway.ask wire .energy).1 := fetched.readable_quantity .energy rfl
  have active : Readable (gateway.ask wire .activePower).1 :=
    fetched.readable_quantity .activePower rfl
  have apparent : Readable (gateway.ask wire .apparentPower).1 :=
    fetched.readable_quantity .apparentPower rfl
  have reactive : Readable (gateway.ask wire .reactivePower).1 :=
    fetched.readable_quantity .reactivePower rfl
  have factor : Readable (gateway.ask wire .powerFactor).1 :=
    fetched.readable_quantity .powerFactor rfl
  have frequency : Readable (gateway.ask wire .frequency).1 :=
    fetched.readable_quantity .frequency rfl
  have total : Readable (gateway.ask wire (.dc .power .total)).1 := fetched.readable_total .power
  refine ⟨_, rfl, fun _ => ?_⟩
  apply (settles_getter rfl phases _).bind
  intro phaseCount phasesRead
  apply (settles_getter rfl count _).bind
  intro inputCount inputsRead
  apply (settles_getter rfl hybrid _).bind
  intro isHybrid _
  apply (settles_getter rfl energy _).bind
  intro _ _
  apply (settles_getter rfl active _).bind
  intro _ _
  apply (settles_getter rfl apparent _).bind
  intro _ _
  apply (settles_getter rfl reactive _).bind
  intro _ _
  apply (settles_getter rfl factor _).bind
  intro _ _
  apply (fetched.settles_phases (Survey.answer_of_read phasesRead)).bind
  intro _ _
  apply (settles_getter rfl frequency _).bind
  intro _ _
  apply (settles_getter rfl total _).bind
  intro _ _
  apply (fetched.settles_inputs inputs (Survey.answer_of_read inputsRead) isHybrid).bind
  intro _ _
  exact Survey.settles_done _

end Fetched

/-! ## The input model -/

/-- The input model, if there is one, has registers for a module and declares one. -/
def InputModelServes (wire : Wire δ) (gateway : ModbusGateway δ) (models : ModelMap) : Prop :=
  ∀ header, models.inputModel? = some header →
    inputHeadLength + inputModuleLength ≤ header.length.toNat ∧
      ∀ registers, ((gateway.fetchInverter wire models).2.readModel wire header).1 =
        .ok registers → 0 < (registers.getD inputCountOffset 0).toNat

/-- After the inverter the inputs are fetched and readable exactly if the input
model serves. -/
theorem inputs_served_iff {inverter : InverterBlock} (accepted : models.Accepted)
    (answered : PollAnswered wire gateway models)
    (read : (gateway.fetchInverter wire models).2.Fetched models inverter) :
    (((gateway.fetchInverter wire models).2.fetchInputs wire models).1 = .ok () ∧
        InputsReadable wire ((gateway.fetchInverter wire models).2.fetchInputs wire models).2) ↔
      InputModelServes wire gateway models := by
  have fetched := read.fetchInputs wire
  cases present : models.inputModel? with
  | none =>
      obtain ⟨done, cached⟩ := fetchInputs_of_absent present wire
        (gateway.fetchInverter wire models).2
      apply iff_of_true ⟨done, fetched.inputsReadable_of_absent present cached⟩
      intro header found
      rw [present] at found
      contradiction
  | some header =>
      have mem : header ∈ models.models := List.mem_of_find?_eq_some present
      obtain ⟨registers, done⟩ := read_of_answered (answered.inputs header present)
        (accepted.registers_inside mem)
      have whole : registers.length = header.length.toNat := length_of_read done
      have serves_iff : InputModelServes wire gateway models ↔
          inputHeadLength + inputModuleLength ≤ registers.length ∧
            0 < (registers.getD inputCountOffset 0).toNat := by
        rw [whole]
        constructor
        · intro serves
          rcases serves header present with ⟨long_enough, declared⟩
          exact ⟨long_enough, declared registers done⟩
        · rintro ⟨long_enough, declared⟩ other found
          cases present.symm.trans found
          constructor
          · exact long_enough
          · intro others same
            cases done.symm.trans same
            exact declared
      rw [serves_iff]
      by_cases head : inputHeadLength ≤ registers.length
      · rcases fetchInputs_of_long present done head with ⟨ended, cached⟩
        rw [fetched.inputsReadable_iff present cached, InputBlock.moduleCount_pos_iff]
        exact and_iff_right ended
      · have failed := fetchInputs_of_short present done (Nat.not_le.mp head)
        rw [failed]
        apply iff_of_false (fun served => nomatch served.1)
        intro serves
        exact head (Nat.le_trans (Nat.le_add_right _ _) serves.1)

/-! ## Polls of an accepted device -/

/-- The fetch of an accepted device is that of its inverter and then of its inputs. -/
theorem exists_fetched (accepted : models.Accepted) (known : gateway.models = some models)
    (answered : PollAnswered wire gateway models) :
    ∃ inverter, (gateway.fetchInverter wire models).2.Fetched models inverter ∧
      gateway.ask wire .fetchRegisters =
        (gateway.fetchInverter wire models).2.fetchInputs wire models := by
  rcases accepted.exists_inverter with ⟨header, layout, found, -⟩
  rcases fetchInverter_of_answered accepted known answered with ⟨inverter, done, read⟩
  exact ⟨inverter, read,
    fetchRegisters_eq (answered.inverter header found).running known done⟩

/-- A poll of an accepted device is served exactly if the input model serves and
not all of 255 inputs are read. -/
theorem serves_iff_of_accepted (accepted : models.Accepted)
    (known : gateway.models = some models) (answered : PollAnswered wire gateway models)
    (time : Int) :
    Serves wire time gateway ↔
      InputModelServes wire gateway models ∧
        ¬ ∃ snapshot,
          ((ValueSnapshot.survey time).run (ModbusGateway.gateway wire) gateway).1 =
              .ok snapshot ∧
            255 ≤ snapshot.inputs.length := by
  rcases exists_fetched accepted known answered with ⟨inverter, read, fetch_eq⟩
  have inputs_iff := inputs_served_iff accepted answered read
  have fetched := read.fetchInputs wire
  rw [← fetch_eq] at inputs_iff fetched
  constructor
  · intro serves
    constructor
    · exact inputs_iff.mp ⟨serves.fetched, serves.inputs⟩
    · rintro ⟨snapshot, done, wide⟩
      have unwritten := (ValueSnapshot.document?_eq_none_iff
        ((ValueSnapshot.fetches_survey time).wanted_of_run done)).mpr wide
      rcases serves.update with ⟨written, document, same, has⟩ | ⟨error, failed, -⟩
      · cases done.symm.trans same
        rw [unwritten] at has
        contradiction
      · cases done.symm.trans failed
  · rintro ⟨served, fewer⟩
    rcases inputs_iff.mpr served with ⟨done, inputs⟩
    rcases fetched.settles_values inputs time with ⟨next, survey_eq, settles⟩
    have excuse := (settles ()).excuse
    have run_eq : (ValueSnapshot.survey time).run (ModbusGateway.gateway wire) gateway =
        (next ()).run (ModbusGateway.gateway wire) (gateway.ask wire .fetchRegisters).2 := by
      rw [survey_eq]
      exact Survey.run_read_bind done _ _
    rw [← run_eq] at excuse
    refine ⟨done, ⟨_, fetched.phases_eq wire, ?_⟩, inputs, ?_⟩
    · intro phase has
      exact fetched.readable_phase has
    cases result : ((ValueSnapshot.survey time).run (ModbusGateway.gateway wire) gateway).1 with
    | error error => exact .inr ⟨error, rfl, excuse error result⟩
    | ok snapshot =>
        cases written : Polled.values.document? snapshot with
        | some document => exact .inl ⟨snapshot, document, rfl, written⟩
        | none =>
            have wide := (ValueSnapshot.document?_eq_none_iff
              ((ValueSnapshot.fetches_survey time).wanted_of_run result)).mp written
            exact absurd ⟨snapshot, result, wide⟩ fewer

/-- Over every wire and every history of a gateway, a poll of the device that it
has accepted last, all of whose requests are answered in full, is served
exactly if the input model, where there is one, has registers for a module and
declares one, and not all of 255 inputs are read. -/
theorem accepted_device_serves_iff (wire : Wire δ) (device : DeviceConfig) (line : δ)
    (acts : List (Act δ)) (time : Int) (models : ModelMap)
    (known : ((initial device line).applyAll wire acts).models = some models)
    (answered : PollAnswered wire ((initial device line).applyAll wire acts) models) :
    let gateway := (initial device line).applyAll wire acts
    Serves wire time gateway ↔
      InputModelServes wire gateway models ∧
        ¬ ∃ snapshot,
          ((ValueSnapshot.survey time).run (ModbusGateway.gateway wire) gateway).1 =
              .ok snapshot ∧
            255 ≤ snapshot.inputs.length :=
  serves_iff_of_accepted ((trusted_initial device line).applyAll wire acts models known) known
    answered time

/-! ## Devices with and without a module -/

theorem eq_ok_of_toOption {ε α : Type} {answer : Except ε α} {value : α}
    (found : answer.toOption = some value) : answer = .ok value := by
  cases answer with
  | ok other =>
      cases found
      rfl
  | error error => contradiction

/-- A wire to a device that answers every request from its registers. -/
def memoryWire (register : Nat → UInt16) : Wire Unit where
  openLink := fun _ line => (.ok (), line)
  send := fun _ request line =>
    (.registers ((List.range request.count).map fun index => register (request.address + index)),
      line)

theorem allAnswered_memoryWire (register : Nat → UInt16) (unit : UInt8)
    (requests : List ReadRequest) (line : Unit) :
    AllAnswered ((memoryWire register).send unit) requests line := by
  induction requests with
  | nil => trivial
  | cons request requests ih => exact ⟨⟨_, rfl, by simp⟩, ih⟩

theorem pollAnswered_memoryWire {register : Nat → UInt16} {gateway : ModbusGateway Unit}
    (running : gateway.supervisor.shuttingDown = false)
    (linked : gateway.supervisor.linked = true) (models : ModelMap) :
    PollAnswered (memoryWire register) gateway models where
  inverter := fun _ _ => ⟨running, linked, allAnswered_memoryWire _ _ _ _⟩
  inputs := fun _ _ =>
    have kept := kept_fetchInverter (memoryWire register) models gateway
    { running := kept.supervisor_eq ▸ running
      linked := kept.supervisor_eq ▸ linked
      requests := allAnswered_memoryWire _ _ _ _ }

/-- The registers of a device with an identity, an inverter and an input model. -/
def registersWith (inputs : List UInt16) : List UInt16 :=
  sunspecMarker ++ [1, 66] ++ List.replicate 66 0 ++ [103, 50] ++ List.replicate 50 0 ++
    [160, UInt16.ofNat inputs.length] ++ inputs ++ [endModelId, 0]

/-- The models of this device. -/
def modelsWith (inputs : List UInt16) : ModelMap :=
  ⟨[⟨1, 40004, 66⟩, ⟨103, 40072, 50⟩, ⟨160, 40124, UInt16.ofNat inputs.length⟩]⟩

/-- The wire to this device. -/
def wireWith (inputs : List UInt16) : Wire Unit :=
  memoryWire fun address => (registersWith inputs).getD (address - 40000) 0

/-- Connect and check the device. -/
def acceptingActs : List (Act Unit) :=
  [.connect, .supervise 0, .supervise 0, .ask .validate]

/-- A gateway that has connected to this device and checked it. -/
def gatewayWith (inputs : List UInt16) : ModbusGateway Unit :=
  (initial ⟨"inverter", .tcp "localhost" 502, 1, 40000, 1000, .default⟩ ()).applyAll
    (wireWith inputs) acceptingActs

/-- An input model with one declared module. -/
def oneModule : List UInt16 :=
  List.replicate 6 0 ++ [1] ++ List.replicate 21 0

/-- The gateway to a device with one module reads one input. -/
theorem few_inputs_of_oneModule :
    ¬ ∃ snapshot,
      ((ValueSnapshot.survey 0).run (ModbusGateway.gateway (wireWith oneModule))
          (gatewayWith oneModule)).1 = .ok snapshot ∧
        255 ≤ snapshot.inputs.length := by
  rintro ⟨snapshot, done, wide⟩
  have narrow : (((ValueSnapshot.survey 0).run (ModbusGateway.gateway (wireWith oneModule))
      (gatewayWith oneModule)).1.toOption.any fun snapshot =>
        decide (255 ≤ snapshot.inputs.length)) = false := by
    decide +kernel
  rw [done] at narrow
  exact of_decide_eq_false narrow wide

theorem inputModelServes_of_oneModule :
    InputModelServes (wireWith oneModule) (gatewayWith oneModule) (modelsWith oneModule) := by
  intro header found
  have present : (modelsWith oneModule).inputModel? = some ⟨160, 40124, 28⟩ := by
    decide +kernel
  cases present.symm.trans found
  constructor
  · decide
  intro registers read
  have whole : (((gatewayWith oneModule).fetchInverter (wireWith oneModule)
      (modelsWith oneModule)).2.readModel (wireWith oneModule) ⟨160, 40124, 28⟩).1 =
        .ok oneModule :=
    eq_ok_of_toOption (by decide +kernel)
  cases whole.symm.trans read
  decide

/-- A device with one module is accepted and serves. -/
theorem one_module_serves :
    (gatewayWith oneModule).models = some (modelsWith oneModule) ∧
      PollAnswered (wireWith oneModule) (gatewayWith oneModule) (modelsWith oneModule) ∧
      Serves (wireWith oneModule) 0 (gatewayWith oneModule) := by
  have known : (gatewayWith oneModule).models = some (modelsWith oneModule) := by
    decide +kernel
  have answered : PollAnswered (wireWith oneModule) (gatewayWith oneModule)
      (modelsWith oneModule) :=
    pollAnswered_memoryWire (by decide +kernel) (by decide +kernel) _
  exact ⟨known, answered,
    (accepted_device_serves_iff _ _ _ acceptingActs 0 _ known answered).mpr
      ⟨inputModelServes_of_oneModule, few_inputs_of_oneModule⟩⟩

/-- What a served poll of this device tells about its input model. -/
theorem inputModelServes_of_serves {inputs : List UInt16}
    (known : (gatewayWith inputs).models = some (modelsWith inputs))
    (answered : PollAnswered (wireWith inputs) (gatewayWith inputs) (modelsWith inputs))
    (serves : Serves (wireWith inputs) 0 (gatewayWith inputs)) :
    InputModelServes (wireWith inputs) (gatewayWith inputs) (modelsWith inputs) := by
  have accepted := (trusted_initial _ ()).applyAll _ acceptingActs _ known
  exact ((serves_iff_of_accepted accepted known answered 0).mp serves).1

/-- An input model without a complete head. -/
def shortModel : List UInt16 :=
  List.replicate 4 0

/-- An input model with registers for a module that declares none. -/
def emptyModel : List UInt16 :=
  List.replicate 28 0

/-- Devices whose input model has no complete head or declares no module are
accepted and do not serve. -/
theorem without_module_not_served :
    ((gatewayWith shortModel).models = some (modelsWith shortModel) ∧
        PollAnswered (wireWith shortModel) (gatewayWith shortModel) (modelsWith shortModel) ∧
        ¬ Serves (wireWith shortModel) 0 (gatewayWith shortModel)) ∧
      (gatewayWith emptyModel).models = some (modelsWith emptyModel) ∧
        PollAnswered (wireWith emptyModel) (gatewayWith emptyModel) (modelsWith emptyModel) ∧
        ¬ Serves (wireWith emptyModel) 0 (gatewayWith emptyModel) := by
  constructor
  · have known : (gatewayWith shortModel).models = some (modelsWith shortModel) := by
      decide +kernel
    have answered : PollAnswered (wireWith shortModel) (gatewayWith shortModel)
        (modelsWith shortModel) :=
      pollAnswered_memoryWire (by decide +kernel) (by decide +kernel) _
    have present : (modelsWith shortModel).inputModel? = some ⟨160, 40124, 4⟩ := by
      decide +kernel
    have unserved : ¬ Serves (wireWith shortModel) 0 (gatewayWith shortModel) := by
      intro serves
      have served := inputModelServes_of_serves known answered serves
      exact absurd (served _ present).1 (by decide)
    exact ⟨known, answered, unserved⟩
  · have known : (gatewayWith emptyModel).models = some (modelsWith emptyModel) := by
      decide +kernel
    have answered : PollAnswered (wireWith emptyModel) (gatewayWith emptyModel)
        (modelsWith emptyModel) :=
      pollAnswered_memoryWire (by decide +kernel) (by decide +kernel) _
    have present : (modelsWith emptyModel).inputModel? = some ⟨160, 40124, 28⟩ := by
      decide +kernel
    have read : (((gatewayWith emptyModel).fetchInverter (wireWith emptyModel)
        (modelsWith emptyModel)).2.readModel (wireWith emptyModel) ⟨160, 40124, 28⟩).1 =
          .ok emptyModel :=
      eq_ok_of_toOption (by decide +kernel)
    have unserved : ¬ Serves (wireWith emptyModel) 0 (gatewayWith emptyModel) := by
      intro serves
      have served := inputModelServes_of_serves known answered serves
      exact absurd ((served _ present).2 _ read) (by decide)
    exact ⟨known, answered, unserved⟩

end ModbusGateway

end InverterBridge
