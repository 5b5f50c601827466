import InverterBridge.Proofs.Modbus.Readable
import InverterBridge.Proofs.Poller.Questions

/-!
# Snapshots of blocks

The values of a snapshot are read from two blocks of registers: that of the inverter and,
if the device has an input model, that of the inputs.  `ValueSnapshot.ReadFrom` says which
value comes from where; a snapshot is determined by its blocks.
-/

namespace InverterBridge

/-- The blocks that a fetch of the measurements brings, with the models of the device. -/
structure FetchedBlocks where
  models : ModelMap
  inverter : InverterBlock
  inputs : Option InputBlock

namespace FetchedBlocks

/-- The number of inputs: that of the modules and one at least, or one without an input model. -/
def inputCount (blocks : FetchedBlocks) : UInt8 :=
  match blocks.inputs with
  | none => 1
  | some block => UInt8.ofNat (max 1 block.moduleCount)

/-- A quantity of an input. -/
def read (blocks : FetchedBlocks) (point : DcPoint) (input : Input) : GatewayResult Float :=
  readInput blocks.inverter blocks.inputs point input

end FetchedBlocks

/-! ## Where the values come from -/

/-- The values of a phase are those of an inverter block. -/
structure PhaseValues.ReadFrom (inverter : InverterBlock) (phase : Phase) (values : PhaseValues) :
    Prop where
  voltage : inverter.read (.acVoltage phase) = .ok values.voltage
  current : inverter.read (.acCurrent phase) = .ok values.current

/-- The values of an input are those of the blocks; the inputs of a hybrid device have no
energy. -/
structure InputValues.ReadFrom (blocks : FetchedBlocks) (index : Nat) (values : InputValues) :
    Prop where
  voltage : blocks.read .voltage (.module index) = .ok values.voltage
  current : blocks.read .current (.module index) = .ok values.current
  power : blocks.read .power (.module index) = .ok values.power
  hybrid : blocks.models.isHybrid = true → values.energy = none
  energy : blocks.models.isHybrid = false → ∃ wattHours,
    Survey.Optional (blocks.read .energy (.module index)) wattHours ∧
      values.energy = wattHours.map kilowattHours

/-- The measurements are those of the blocks. -/
structure ValueSnapshot.ReadFrom (blocks : FetchedBlocks) (time : Int)
    (snapshot : ValueSnapshot) : Prop where
  time : snapshot.time = time
  energy : ∃ wattHours, blocks.inverter.read .energy = .ok wattHours ∧
    snapshot.energy = kilowattHours wattHours
  activePower : blocks.inverter.read .activePower = .ok snapshot.activePower
  apparentPower : blocks.inverter.read .apparentPower = .ok snapshot.apparentPower
  reactivePower : blocks.inverter.read .reactivePower = .ok snapshot.reactivePower
  powerFactor : blocks.inverter.read .powerFactor = .ok snapshot.powerFactor
  phases : List.Forall₂ (PhaseValues.ReadFrom blocks.inverter)
    (ValueSnapshot.phasesRead blocks.inverter.phases) snapshot.phases
  frequency : blocks.inverter.read .frequency = .ok snapshot.frequency
  dcPower : blocks.read .power .total = .ok snapshot.dcPower
  efficiency : snapshot.efficiency =
    InverterBridge.efficiency snapshot.activePower snapshot.dcPower
  inputs : List.Forall₂ (InputValues.ReadFrom blocks)
    (ValueSnapshot.inputsRead blocks.inputCount) snapshot.inputs

/-- The operating state and the events are those of an inverter block. -/
structure EventSnapshot.ReadFrom (inverter : InverterBlock) (snapshot : EventSnapshot) : Prop where
  activeCode : inverter.activeStateCode = .ok snapshot.activeCode
  state : inverter.operatingState.map stateName = .ok snapshot.state
  events : inverter.eventBits.map eventNames = .ok snapshot.events

/-! ## Blocks determine their snapshots -/

/-- One answer has one value. -/
theorem eq_of_answers {α : Type} {answer : GatewayResult α} {first second : α}
    (one : answer = .ok first) (other : answer = .ok second) : first = second :=
  Except.ok.inj (one.symm.trans other)

theorem PhaseValues.rightUnique_readFrom (inverter : InverterBlock) :
    Relator.RightUnique (ReadFrom inverter) := by
  rintro phase ⟨voltage, current⟩ ⟨otherVoltage, otherCurrent⟩ one other
  cases eq_of_answers one.voltage other.voltage
  cases eq_of_answers one.current other.current
  rfl

theorem Survey.Optional.unique {α : Type} {answer : GatewayResult α} {first second : Option α}
    (one : Optional answer first) (other : Optional answer second) : first = second := by
  cases first with
  | none =>
      rcases one with ⟨severity, point, refused⟩
      cases second with
      | none => rfl
      | some value => cases refused.symm.trans other
  | some value =>
      cases second with
      | none =>
          rcases other with ⟨severity, point, refused⟩
          cases refused.symm.trans one
      | some found => rw [eq_of_answers one other]

theorem InputValues.rightUnique_readFrom (blocks : FetchedBlocks) :
    Relator.RightUnique (ReadFrom blocks) := by
  intro index first second one other
  have energy : first.energy = second.energy := by
    cases hybrid : blocks.models.isHybrid with
    | true => rw [one.hybrid hybrid, other.hybrid hybrid]
    | false =>
        rcases one.energy hybrid with ⟨wattHours, read, same⟩
        rcases other.energy hybrid with ⟨others, readToo, sameToo⟩
        rw [same, sameToo, read.unique readToo]
  cases first
  cases second
  cases eq_of_answers one.voltage other.voltage
  cases eq_of_answers one.current other.current
  cases eq_of_answers one.power other.power
  cases energy
  rfl

/-- A snapshot is determined by the blocks and the time. -/
theorem ValueSnapshot.ReadFrom.unique {blocks : FetchedBlocks} {time : Int}
    {first second : ValueSnapshot} (one : ReadFrom blocks time first)
    (other : ReadFrom blocks time second) : first = second := by
  rcases one.energy with ⟨wattHours, read, energy⟩
  rcases other.energy with ⟨others, readToo, energyToo⟩
  cases eq_of_answers read readToo
  have phases := List.right_unique_forall₂'
    (PhaseValues.rightUnique_readFrom _) one.phases other.phases
  have inputs := List.right_unique_forall₂'
    (InputValues.rightUnique_readFrom _) one.inputs other.inputs
  have activePower := eq_of_answers one.activePower other.activePower
  have dcPower := eq_of_answers one.dcPower other.dcPower
  have efficiency : first.efficiency = second.efficiency := by
    rw [one.efficiency, other.efficiency, activePower, dcPower]
  have sameTime := one.time.trans other.time.symm
  have sameEnergy := energy.trans energyToo.symm
  have apparentPower := eq_of_answers one.apparentPower other.apparentPower
  have reactivePower := eq_of_answers one.reactivePower other.reactivePower
  have powerFactor := eq_of_answers one.powerFactor other.powerFactor
  have frequency := eq_of_answers one.frequency other.frequency
  cases first
  cases second
  simp_all

/-! ## What the gateway answers -/

namespace ModbusGateway

variable {δ : Type} {wire : Wire δ} {gateway : ModbusGateway δ} {blocks : FetchedBlocks}

/-- A getter yields its answer. -/
theorem yields_getter {question : Question} (getter : question.needsLink = false)
    (quantity : String) :
    (Survey.read quantity question).Yields (ModbusGateway.gateway wire) gateway fun value =>
      (gateway.ask wire question).1 = .ok value :=
  Survey.yields_read (ask_getter getter wire gateway) quantity

/-- The gateway answers from the blocks of a fetch. -/
structure Holds (gateway : ModbusGateway δ) (blocks : FetchedBlocks) : Prop
    extends Fetched gateway blocks.models blocks.inverter where
  inputs_eq : gateway.cache.inputs = blocks.inputs
  inputs_none : blocks.inputs = none ↔ blocks.models.inputModel? = none

namespace Holds

variable (holds : gateway.Holds blocks)

include holds

theorem quantity (quantity : Quantity) :
    gateway.quantity quantity = blocks.inverter.read quantity :=
  holds.quantity_eq quantity

theorem panel (point : DcPoint) (input : Input) :
    gateway.panel point input = blocks.read point input := by
  rw [holds.panel_eq, holds.inputs_eq]
  rfl

/-- The inputs are counted in the block of the fetch. -/
theorem inputs : (gateway.ask wire .inputs).1 = .ok blocks.inputCount := by
  cases cached : blocks.inputs with
  | none =>
      rw [holds.inputs_eq_one wire (holds.inputs_none.mp cached), FetchedBlocks.inputCount, cached]
  | some block =>
      cases model : blocks.models.inputModel? with
      | none => simp [holds.inputs_none.mpr model] at cached
      | some header =>
          rw [Fetched.inputs_eq holds.toFetched wire model (holds.inputs_eq.trans cached),
            FetchedBlocks.inputCount, cached]

theorem yields_phase (phase : Phase) :
    (PhaseValues.survey phase).Yields (ModbusGateway.gateway wire) gateway
      (PhaseValues.ReadFrom blocks.inverter phase) := by
  apply (yields_getter rfl _).bind
  intro voltage readVoltage
  apply (yields_getter rfl _).bind
  intro current readCurrent
  exact Survey.yields_done
    ⟨(holds.quantity _).symm.trans readVoltage, (holds.quantity _).symm.trans readCurrent⟩

theorem yields_energy (index : Nat) :
    (InputValues.energySurvey blocks.models.isHybrid (.module index)).Yields
      (ModbusGateway.gateway wire) gateway fun energy =>
        (blocks.models.isHybrid = true → energy = none) ∧
          (blocks.models.isHybrid = false → ∃ wattHours,
            Survey.Optional (blocks.read .energy (.module index)) wattHours ∧
              energy = wattHours.map kilowattHours) := by
  cases blocks.models.isHybrid with
  | true => exact Survey.yields_done ⟨fun _ => rfl, nofun⟩
  | false =>
      apply (Survey.yields_readOptional (ask_getter rfl wire gateway) _).bind
      intro wattHours read
      rw [← holds.panel]
      exact Survey.yields_done ⟨nofun, fun _ => ⟨wattHours, read, rfl⟩⟩

theorem yields_input (index : Nat) :
    (InputValues.survey blocks.models.isHybrid index).Yields (ModbusGateway.gateway wire) gateway
      (InputValues.ReadFrom blocks index) := by
  apply (holds.yields_energy index).bind
  intro energy fromEnergy
  apply (yields_getter rfl _).bind
  intro voltage readVoltage
  apply (yields_getter rfl _).bind
  intro current readCurrent
  apply (yields_getter rfl _).bind
  intro power readPower
  exact Survey.yields_done {
    voltage := (holds.panel _ _).symm.trans readVoltage
    current := (holds.panel _ _).symm.trans readCurrent
    power := (holds.panel _ _).symm.trans readPower
    hybrid := fromEnergy.1
    energy := fromEnergy.2 }

/-- Once the blocks have been fetched, the survey of the measurements yields a snapshot of
them. -/
theorem yields_values (time : Int) :
    ∃ next, ValueSnapshot.survey time = Survey.read "registers" .fetchRegisters >>= next ∧
      ∀ answer, (next answer).Yields (ModbusGateway.gateway wire) gateway
        (ValueSnapshot.ReadFrom blocks time) := by
  refine ⟨_, rfl, fun _ => ?_⟩
  apply (yields_getter rfl _).bind
  intro phaseCount readPhases
  apply (yields_getter rfl _).bind
  intro inputCount readInputs
  apply (yields_getter rfl _).bind
  intro hybrid readHybrid
  cases eq_of_answers (holds.phases_eq wire) readPhases
  cases eq_of_answers holds.inputs readInputs
  cases eq_of_answers (holds.hybrid_eq wire) readHybrid
  apply (yields_getter rfl _).bind
  intro energy readEnergy
  apply (yields_getter rfl _).bind
  intro activePower readActive
  apply (yields_getter rfl _).bind
  intro apparentPower readApparent
  apply (yields_getter rfl _).bind
  intro reactivePower readReactive
  apply (yields_getter rfl _).bind
  intro powerFactor readFactor
  apply (Survey.yields_each holds.yields_phase _).bind
  intro phases fromPhases
  apply (yields_getter rfl _).bind
  intro frequency readFrequency
  apply (yields_getter rfl _).bind
  intro dcPower readPower
  apply (Survey.yields_each holds.yields_input _).bind
  intro inputs fromInputs
  exact Survey.yields_done {
    time := rfl
    energy := ⟨energy, (holds.quantity _).symm.trans readEnergy, rfl⟩
    activePower := (holds.quantity _).symm.trans readActive
    apparentPower := (holds.quantity _).symm.trans readApparent
    reactivePower := (holds.quantity _).symm.trans readReactive
    powerFactor := (holds.quantity _).symm.trans readFactor
    phases := fromPhases
    frequency := (holds.quantity _).symm.trans readFrequency
    dcPower := (holds.panel _ _).symm.trans readPower
    efficiency := rfl
    inputs := fromInputs }

end Holds

/-- Once the inverter has been fetched, the survey of the events yields a snapshot of it. -/
theorem Fetched.yields_events {models : ModelMap} {inverter : InverterBlock}
    (fetched : gateway.Fetched models inverter) :
    ∃ next, EventSnapshot.survey = Survey.read "event registers" .fetchEventRegisters >>= next ∧
      ∀ answer, (next answer).Yields (ModbusGateway.gateway wire) gateway
        (EventSnapshot.ReadFrom inverter) := by
  have ofInverter {α : Type} (point : String) (read : InverterBlock → GatewayResult α) :
      gateway.ofInverter point read = read inverter := by
    simp [ModbusGateway.ofInverter, ofBlock, checkRunning, fetched.running, fetched.cached,
      Except.bind]
  refine ⟨_, rfl, fun _ => ?_⟩
  apply (yields_getter rfl _).bind
  intro activeCode readCode
  apply (yields_getter rfl _).bind
  intro state readState
  apply (yields_getter rfl _).bind
  intro events readEvents
  exact Survey.yields_done {
    activeCode := (ofInverter _ _).symm.trans readCode
    state := (ofInverter _ _).symm.trans readState
    events := (ofInverter _ _).symm.trans readEvents }

end ModbusGateway

end InverterBridge
