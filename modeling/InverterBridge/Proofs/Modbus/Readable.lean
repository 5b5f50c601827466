import InverterBridge.Proofs.Modbus.Acceptance

/-!
# What an accepted device lets a poll read

An answer is readable if it is there or the device marks the point as not
implemented.  The inverter model of an accepted device is long enough, so once
its registers have been fetched every phase is readable.  The input model is
not looked at by the check: its fetch fails without a complete head, and the
inputs are readable if it has a module.
-/

namespace InverterBridge

/-- An answer is there, or the device marks the point as not implemented. -/
def Readable {α : Type} (answer : GatewayResult α) : Prop :=
  ∀ error, answer = .error error → ∃ point, error = .notImplemented point

theorem readable_ok {α : Type} (value : α) : Readable (.ok value : GatewayResult α) :=
  nofun

theorem readable_notImplemented {α : Type} (point : String) :
    Readable (.error (.notImplemented point) : GatewayResult α) := by
  rintro _ ⟨⟩
  exact ⟨point, rfl⟩

/-- The update is declined because of a point that is not implemented. -/
def UpdateError.Unimplemented (error : UpdateError) : Prop :=
  ∃ quantity point, error = .gateway quantity (.notImplemented point)

/-! ## Blocks -/

namespace InverterBlock

/-- What belongs to the phases of the inverter, or to none, can be read. -/
theorem readable_read (block : InverterBlock) (quantity : Quantity)
    (has : block.hasPhase quantity = true) : Readable (block.read quantity) := by
  have implemented : Readable (read.implemented block quantity) := by
    unfold read.implemented
    split
    · exact readable_notImplemented _
    · exact readable_ok _
  unfold read
  unfold hasPhase at has
  cases phase : quantity.phase? with
  | none => exact implemented
  | some phase =>
      simp_all

theorem readable_total (block : InverterBlock) (point : DcPoint) :
    Readable (block.total point) := by
  cases point with
  | current => exact block.readable_read .dcCurrent rfl
  | voltage => exact block.readable_read .dcVoltage rfl
  | power => exact block.readable_read .dcPower rfl
  | energy => exact readable_notImplemented _

/-- Registers that are long enough for the layout of their model are accepted. -/
theorem exists_ofRegisters {model : UInt16} {layout : RegisterModel} {registers : List UInt16}
    (layout_eq : RegisterModel.ofModel? model = some layout)
    (long_enough : layout.minLength ≤ registers.length) :
    ∃ block, ofRegisters model registers = .ok block ∧ block.model = model := by
  unfold ofRegisters
  split
  next missing => simp [layout_eq] at missing
  next found same =>
    rw [layout_eq] at same
    cases same
    rw [dif_pos long_enough]
    exact ⟨_, rfl, rfl⟩

end InverterBlock

namespace InputBlock

theorem readable_read_iff {block : InputBlock} {index : Nat} {point : DcPoint} :
    Readable (block.read index point) ↔ index < block.moduleCount := by
  unfold read
  split
  next counted =>
    apply iff_of_true _ counted
    split
    · exact readable_notImplemented _
    · exact readable_ok _
  next uncounted =>
    apply iff_of_false _ uncounted
    intro readable
    rcases readable _ rfl with ⟨point, same⟩
    cases same

/-- There is a module if the registers suffice for one and one is declared. -/
theorem moduleCount_pos_iff {block : InputBlock} :
    0 < block.moduleCount ↔
      inputHeadLength + inputModuleLength ≤ block.registers.length ∧
        0 < (block.register inputCountOffset).toNat := by
  simp only [moduleCount, inputHeadLength, inputModuleLength]
  omega

end InputBlock

/-! ## The chain of an accepted device -/

namespace ModelMap

variable {models : ModelMap}

theorem mem_of_inverter {header : ModelHeader} (found : models.inverter = .ok header) :
    header ∈ models.models := by
  unfold inverter at found
  split at found
  next first search =>
    cases found
    exact List.mem_of_find?_eq_some search
  next => contradiction

/-- A check that succeeds has found an inverter model that is long enough for its
layout. -/
theorem exists_layout_of_checkInverter {checked : ModelHeader}
    (done : models.checkInverter = .ok checked) :
    ∃ layout, models.inverter = .ok checked ∧
      RegisterModel.ofModel? checked.id = some layout ∧
      layout.minLength ≤ checked.length.toNat := by
  unfold checkInverter at done
  cases found : models.inverter with
  | error error =>
      rw [found] at done
      contradiction
  | ok header =>
      rw [found] at done
      simp only [Except.bind] at done
      split at done
      · contradiction
      next layout layout_eq =>
        split at done
        · contradiction
        next long_enough =>
          cases done
          exact ⟨layout, rfl, layout_eq, by omega⟩

/-- An accepted device has an inverter model that is long enough for its layout. -/
theorem Accepted.exists_inverter (accepted : models.Accepted) :
    ∃ header layout, models.inverter = .ok header ∧
      RegisterModel.ofModel? header.id = some layout ∧
      layout.minLength ≤ header.length.toNat := by
  have valid := accepted.valid
  unfold validate at valid
  cases common : models.checkCommon with
  | error error =>
      rw [common] at valid
      contradiction
  | ok header =>
      rw [common] at valid
      cases checked : models.checkInverter with
      | error error =>
          simp only [Except.bind, checked] at valid
          contradiction
      | ok inverter => exact ⟨inverter, exists_layout_of_checkInverter checked⟩

/-- The registers of a model of an accepted device lie in the register space. -/
theorem Accepted.registers_inside (accepted : models.Accepted) {header : ModelHeader}
    (mem : header ∈ models.models) :
    header.address.toNat + header.length.toNat ≤ addressBound := by
  have inside := accepted.inside header mem
  simp only [ModelHeader.nextAddress, ModbusGateway.lastHeaderAddress] at inside
  simp only [addressBound]
  omega

end ModelMap

/-- The last digit of an inverter model is a number of phases. -/
theorem phasesOfModel_bounds {model : UInt16} {layout : RegisterModel}
    (layout_eq : RegisterModel.ofModel? model = some layout) :
    1 ≤ (phasesOfModel model).toNat ∧ (phasesOfModel model).toNat ≤ 3 := by
  unfold RegisterModel.ofModel? at layout_eq
  have digit : (phasesOfModel model).toNat = model.toNat % 10 := by
    simp only [phasesOfModel, UInt8.toNat_ofNat']
    omega
  rw [digit]
  split at layout_eq
  · omega
  · split at layout_eq
    · omega
    · contradiction

/-! ## Fetches -/

namespace ModbusGateway

variable {δ : Type} {wire : Wire δ} {gateway : ModbusGateway δ} {models : ModelMap}

/-- Every request that a poll of the values makes is answered in full. -/
structure PollAnswered (wire : Wire δ) (gateway : ModbusGateway δ) (models : ModelMap) :
    Prop where
  inverter : ∀ header, models.inverter = .ok header →
    gateway.Answered wire header.address.toNat header.length.toNat
  inputs : ∀ header, models.inputModel? = some header →
    (gateway.fetchInverter wire models).2.Answered wire header.address.toNat header.length.toNat

/-- The inverter of a device has been read. -/
structure Fetched (gateway : ModbusGateway δ) (models : ModelMap) (inverter : InverterBlock) :
    Prop where
  running : gateway.supervisor.shuttingDown = false
  known : gateway.models = some models
  cached : gateway.cache.inverter = some inverter
  model_eq : models.inverter.map (·.id) = .ok inverter.model

/-- The inverter of an accepted device is read when its requests are answered. -/
theorem fetchInverter_of_answered (accepted : models.Accepted)
    (known : gateway.models = some models) (answered : PollAnswered wire gateway models) :
    ∃ inverter, (gateway.fetchInverter wire models).1 = .ok () ∧
      (gateway.fetchInverter wire models).2.Fetched models inverter := by
  rcases accepted.exists_inverter with ⟨header, layout, found, layout_eq, long_enough⟩
  have answers := answered.inverter header found
  obtain ⟨registers, done⟩ := read_of_answered answers
    (accepted.registers_inside (ModelMap.mem_of_inverter found))
  obtain ⟨block, taken, model_eq⟩ := InverterBlock.exists_ofRegisters layout_eq
    (length_of_read done ▸ long_enough)
  have kept := kept_read wire header.address.toNat header.length.toNat gateway
  simp only [fetchInverter, readModel, found, andThen_ok, andThen_of_ok done, taken]
  refine ⟨block, trivial, ?_, ?_, rfl, ?_⟩
  · exact kept.supervisor_eq ▸ answers.running
  · exact kept.models_eq ▸ known
  · rw [found, model_eq]
    rfl

/-- Reading the inputs leaves the inverter in the cache. -/
theorem Fetched.fetchInputs {inverter : InverterBlock} (fetched : gateway.Fetched models inverter)
    (wire : Wire δ) : (gateway.fetchInputs wire models).2.Fetched models inverter := by
  have kept := kept_fetchInputs wire models gateway
  have cached : (gateway.fetchInputs wire models).2.cache.inverter = gateway.cache.inverter := by
    unfold ModbusGateway.fetchInputs
    split
    · rfl
    next header present =>
      unfold readModel
      cases done : (gateway.read wire header.address.toNat header.length.toNat).1 with
      | error error => simp [andThen_of_error done]
      | ok registers =>
          rw [andThen_of_ok done]
          cases InputBlock.ofRegisters registers <;> simp [andThen_ok, andThen_error]
  exact {
    running := kept.supervisor_eq ▸ fetched.running
    known := kept.models_eq ▸ fetched.known
    cached := cached ▸ fetched.cached
    model_eq := fetched.model_eq }

theorem chain_eq (running : gateway.supervisor.shuttingDown = false)
    (known : gateway.models = some models) : gateway.chain = .ok models := by
  simp [chain, checkRunning, running, known, Except.bind]

/-- After the inverter a fetch of the measurements reads the inputs. -/
theorem fetchRegisters_eq (running : gateway.supervisor.shuttingDown = false)
    (known : gateway.models = some models)
    (read : (gateway.fetchInverter wire models).1 = .ok ()) :
    gateway.fetchRegisters wire =
      (gateway.fetchInverter wire models).2.fetchInputs wire models := by
  rw [fetchRegisters, chain_eq running known, andThen_ok, andThen_of_ok read]

theorem fetchInputs_of_absent (absent : models.inputModel? = none) (wire : Wire δ)
    (gateway : ModbusGateway δ) :
    (gateway.fetchInputs wire models).1 = .ok () ∧
      (gateway.fetchInputs wire models).2.cache.inputs = none := by
  simp [ModbusGateway.fetchInputs, absent]

/-- The error of an input model without a complete head. -/
theorem fetchInputs_of_short {header : ModelHeader} {registers : List UInt16}
    (present : models.inputModel? = some header)
    (read : (gateway.readModel wire header).1 = .ok registers)
    (short : registers.length < inputHeadLength) :
    (gateway.fetchInputs wire models).1 =
      .error (.invalidDevice ("MPPT block too short (" ++ natText registers.length ++
        " registers)")) := by
  simp [ModbusGateway.fetchInputs, present, andThen_of_ok read, andThen_error,
    InputBlock.ofRegisters, Nat.not_le.mpr short]

theorem fetchInputs_of_long {header : ModelHeader} {registers : List UInt16}
    (present : models.inputModel? = some header)
    (read : (gateway.readModel wire header).1 = .ok registers)
    (long_enough : inputHeadLength ≤ registers.length) :
    (gateway.fetchInputs wire models).1 = .ok () ∧
      (gateway.fetchInputs wire models).2.cache.inputs = some ⟨registers, long_enough⟩ := by
  simp [ModbusGateway.fetchInputs, present, andThen_of_ok read, InputBlock.ofRegisters,
    long_enough]

/-! ## Getters -/

namespace Fetched

variable {inverter : InverterBlock} (fetched : gateway.Fetched models inverter)

include fetched

theorem quantity_eq (quantity : Quantity) : gateway.quantity quantity = inverter.read quantity := by
  simp [ModbusGateway.quantity, ofInverter, ofBlock, checkRunning, fetched.running,
    fetched.cached, Except.bind]

theorem panel_eq (point : DcPoint) (input : Input) :
    gateway.panel point input = readInput inverter gateway.cache.inputs point input := by
  simp [ModbusGateway.panel, ofInverter, ofBlock, checkRunning, fetched.running,
    fetched.cached, Except.bind]

theorem phases_eq (wire : Wire δ) : (gateway.ask wire .phases).1 = .ok inverter.phases := by
  have model_eq : gateway.inverterModel = .ok inverter.model := by
    rw [inverterModel, chain_eq fetched.running fetched.known]
    exact fetched.model_eq
  change gateway.inverterModel.map phasesOfModel = _
  rw [model_eq]
  rfl

theorem hybrid_eq (wire : Wire δ) : (gateway.ask wire .hybrid).1 = .ok models.isHybrid := by
  change gateway.chain.map ModelMap.isHybrid = _
  rw [chain_eq fetched.running fetched.known]
  rfl

/-- Without an input model there is one input. -/
theorem inputs_eq_one (wire : Wire δ) (absent : models.inputModel? = none) :
    (gateway.ask wire .inputs).1 = .ok 1 := by
  change gateway.inputCount = _
  rw [inputCount, chain_eq fetched.running fetched.known]
  simp [Except.bind, absent]

/-- With an input model there are as many inputs as modules, and one at least. -/
theorem inputs_eq (wire : Wire δ) {header : ModelHeader} {block : InputBlock}
    (present : models.inputModel? = some header) (cached : gateway.cache.inputs = some block) :
    (gateway.ask wire .inputs).1 = .ok (UInt8.ofNat (max 1 block.moduleCount)) := by
  change gateway.inputCount = _
  rw [inputCount, chain_eq fetched.running fetched.known]
  simp [Except.bind, present, cached]

/-- There is one input at least. -/
theorem one_le_inputs (wire : Wire δ) {count : UInt8}
    (answer : (gateway.ask wire .inputs).1 = .ok count) :
    1 ≤ count.toNat := by
  change gateway.inputCount = _ at answer
  rw [inputCount, chain_eq fetched.running fetched.known] at answer
  simp only [Except.bind] at answer
  split at answer
  · cases answer
    decide
  · contradiction
  next header block present cached =>
    have few := block.moduleCount_le
    cases answer
    rw [UInt8.toNat_ofNat']
    omega

/-- A quantity of a phase of the inverter, or of none, can be read. -/
theorem readable_quantity (quantity : Quantity) (has : inverter.hasPhase quantity = true) :
    Readable (gateway.quantity quantity) := by
  rw [fetched.quantity_eq]
  exact inverter.readable_read quantity has

/-- The phases of the inverter can be read. -/
theorem readable_phase {phase : Phase} (has : phase.index < inverter.phases.toNat) :
    Readable (gateway.ask wire (.acVoltage phase)).1 ∧
      Readable (gateway.ask wire (.acCurrent phase)).1 :=
  ⟨fetched.readable_quantity (.acVoltage phase)
      (by simpa [InverterBlock.hasPhase, Quantity.phase?] using has),
    fetched.readable_quantity (.acCurrent phase)
      (by simpa [InverterBlock.hasPhase, Quantity.phase?] using has)⟩

/-- The totals of the inverter can be read. -/
theorem readable_total (point : DcPoint) : Readable (gateway.panel point .total) := by
  rw [fetched.panel_eq]
  exact inverter.readable_total point

end Fetched

/-- Every input that is announced can be read. -/
def InputsReadable (wire : Wire δ) (gateway : ModbusGateway δ) : Prop :=
  ∃ count, (gateway.ask wire .inputs).1 = .ok count ∧
    ∀ index < count.toNat, ∀ point, Readable (gateway.ask wire (.dc point (.module index))).1

namespace Fetched

variable {inverter : InverterBlock} (fetched : gateway.Fetched models inverter)

include fetched

/-- Without an input model the totals of the inverter stand for the only input. -/
theorem inputsReadable_of_absent (absent : models.inputModel? = none)
    (cached : gateway.cache.inputs = none) : InputsReadable wire gateway := by
  refine ⟨1, fetched.inputs_eq_one wire absent, ?_⟩
  intro index inside point
  have first : index = 0 := by
    have one : (1 : UInt8).toNat = 1 := rfl
    omega
  change Readable (gateway.panel _ _)
  rw [fetched.panel_eq, cached, first]
  exact inverter.readable_total point

/-- An input model serves its announced inputs if it has a module. -/
theorem inputsReadable_iff {header : ModelHeader} {block : InputBlock}
    (present : models.inputModel? = some header) (cached : gateway.cache.inputs = some block) :
    InputsReadable wire gateway ↔ 0 < block.moduleCount := by
  have few := block.moduleCount_le
  have announced : (UInt8.ofNat (max 1 block.moduleCount)).toNat = max 1 block.moduleCount := by
    rw [UInt8.toNat_ofNat']
    omega
  have readable (index : Nat) (point : DcPoint) :
      Readable (gateway.ask wire (.dc point (.module index))).1 ↔ index < block.moduleCount := by
    change Readable (gateway.panel _ _) ↔ _
    rw [fetched.panel_eq, cached]
    exact InputBlock.readable_read_iff
  constructor
  · rintro ⟨count, answer, inputs⟩
    rw [fetched.inputs_eq wire present cached] at answer
    cases answer
    exact (readable 0 .energy).mp (inputs 0 (by omega) .energy)
  · intro modules
    refine ⟨_, fetched.inputs_eq wire present cached, ?_⟩
    intro index inside point
    exact (readable index point).mpr (by omega)

end Fetched

end ModbusGateway

end InverterBridge
