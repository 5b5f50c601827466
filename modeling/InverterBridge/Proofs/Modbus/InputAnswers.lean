import InverterBridge.Proofs.Modbus.Records
import InverterBridge.Proofs.Modbus.Serving

/-!
# What a gateway answers for an input

On a device with an input model the quantities of an input stand in its input
block.  `ModbusGateway.FromInputModel` says that an answer for an input comes
from this block, and that there is none before the block has been fetched, as
there is no number of inputs.  The exception is a gateway that has fetched the
inverter of such a device and not its inputs: it takes the device for one without
an input model and answers for the first input with the totals of the inverter
(`ModbusGateway.fromInputModel_iff`, `ModbusGateway.total_answered_for_input`).
-/

namespace InverterBridge

namespace InputBlock

/-- Only an input that is counted is answered for. -/
theorem lt_moduleCount_of_read {block : InputBlock} {index : Nat} {point : DcPoint}
    {value : Float} (answer : block.read index point = .ok value) : index < block.moduleCount := by
  apply readable_read_iff.mp
  rw [answer]
  exact readable_ok value

end InputBlock

namespace ModbusGateway

variable {δ : Type} {wire : Wire δ} {gateway : ModbusGateway δ} {models : ModelMap}
  {header : ModelHeader}

/-- What is answered for an input is read from the input block, of an input that is
announced.  Before the block has been fetched there is no answer and no announcement. -/
structure FromInputModel (gateway : ModbusGateway δ) (point : DcPoint) (index : Nat) : Prop where
  value : ∀ value, gateway.panel point (.module index) = .ok value →
    ∃ block count, gateway.cache.inputs = some block ∧ block.read index point = .ok value ∧
      gateway.inputCount = .ok count ∧ index < count.toNat
  unfetched : gateway.supervisor.shuttingDown = false → gateway.cache.inputs = none →
    gateway.panel point (.module index) = .error (.notFetched point.name) ∧
      gateway.inputCount = .error (.notFetched "inputs")

/-! ## Answers and the cache -/

theorem panel_of_shuttingDown (closing : gateway.supervisor.shuttingDown = true) (point : DcPoint)
    (input : Input) : gateway.panel point input = .error .shuttingDown := by
  simp [panel, ofInverter, ofBlock, checkRunning, closing, Except.bind]

theorem panel_of_running (running : gateway.supervisor.shuttingDown = false) (point : DcPoint)
    (input : Input) :
    gateway.panel point input =
      match gateway.cache.inverter with
      | none => .error (.notFetched point.name)
      | some inverter => readInput inverter gateway.cache.inputs point input := by
  simp only [panel, ofInverter, ofBlock, checkRunning, running, Except.bind]
  cases gateway.cache.inverter <;> rfl

/-- With an input model the number of inputs is that of its block. -/
theorem inputCount_of_running (running : gateway.supervisor.shuttingDown = false)
    (known : gateway.models = some models) (present : models.inputModel? = some header) :
    gateway.inputCount =
      match gateway.cache.inputs with
      | none => .error (.notFetched "inputs")
      | some block => .ok (UInt8.ofNat (max 1 block.moduleCount)) := by
  rw [inputCount, chain_eq running known]
  simp only [Except.bind, present]
  cases gateway.cache.inputs <;> rfl

/-- What is read from the input block is an answer from it. -/
theorem fromInputModel_of_cached (known : gateway.models = some models)
    (present : models.inputModel? = some header) {block : InputBlock}
    (cached : gateway.cache.inputs = some block) (point : DcPoint) (index : Nat) :
    gateway.FromInputModel point index where
  value := by
    intro value answer
    cases closing : gateway.supervisor.shuttingDown with
    | true =>
        rw [panel_of_shuttingDown closing] at answer
        contradiction
    | false =>
        rw [panel_of_running closing, cached] at answer
        split at answer
        · contradiction
        · have counted := InputBlock.lt_moduleCount_of_read answer
          have few := block.moduleCount_le
          refine ⟨block, UInt8.ofNat (max 1 block.moduleCount), cached, answer, ?_, ?_⟩
          · rw [inputCount_of_running closing known present, cached]
          · rw [UInt8.toNat_ofNat']
            omega
  unfetched := by
    intro _ missing
    rw [cached] at missing
    contradiction

/-- Without the inverter nothing is answered for an input. -/
theorem fromInputModel_of_unfetched (known : gateway.models = some models)
    (present : models.inputModel? = some header)
    (missing : gateway.supervisor.shuttingDown = true ∨ gateway.cache.inverter = none)
    (point : DcPoint) (index : Nat) : gateway.FromInputModel point index where
  value := by
    intro value answer
    cases closing : gateway.supervisor.shuttingDown with
    | true =>
        rw [panel_of_shuttingDown closing] at answer
        contradiction
    | false =>
        rw [panel_of_running closing, missing.resolve_left (by simp [closing])] at answer
        contradiction
  unfetched := by
    intro running uncounted
    have uncached := missing.resolve_left (by simp [running])
    rw [panel_of_running running, uncached, inputCount_of_running running known present, uncounted]
    exact ⟨rfl, rfl⟩

/-- With the inverter alone in the cache the device is taken for one without an input
model. -/
theorem panel_of_inverter {inverter : InverterBlock}
    (running : gateway.supervisor.shuttingDown = false)
    (cached : gateway.cache.inverter = some inverter) (missing : gateway.cache.inputs = none)
    (point : DcPoint) (index : Nat) :
    gateway.panel point (.module index) =
      if index = 0 then inverter.total point
      else .error (.transient (.outOfRange ("input " ++ natText (index + 1)))) := by
  rw [panel_of_running running, cached, missing]
  rfl

/-- The answers for the inputs come from the input block in exactly those states in
which the inverter is not in the cache without the inputs. -/
theorem fromInputModel_iff (known : gateway.models = some models)
    (present : models.inputModel? = some header) :
    (∀ point index, gateway.FromInputModel point index) ↔
      gateway.supervisor.shuttingDown = true ∨ gateway.cache.inverter = none ∨
        gateway.cache.inputs ≠ none := by
  constructor
  · intro answers
    by_contra exception
    simp only [not_or, Bool.not_eq_true, not_not] at exception
    rcases exception with ⟨running, fetched, missing⟩
    rcases Option.ne_none_iff_exists'.mp fetched with ⟨inverter, cached⟩
    have refused := ((answers .energy 0).unfetched running missing).1
    rw [panel_of_inverter running cached missing] at refused
    simp [InverterBlock.total, GatewayError.notImplemented, GatewayError.notFetched,
      GatewayError.transient] at refused
  · rintro (closing | missing | cached) point index
    · exact fromInputModel_of_unfetched known present (.inl closing) point index
    · exact fromInputModel_of_unfetched known present (.inr missing) point index
    · rcases Option.ne_none_iff_exists'.mp cached with ⟨block, cached⟩
      exact fromInputModel_of_cached known present cached point index

/-! ## Fetches and the input block -/

/-- Once the inputs have been fetched their block is in the cache. -/
theorem inputs_of_fetchInputs (present : models.inputModel? = some header)
    (done : (gateway.fetchInputs wire models).1 = .ok ()) :
    (gateway.fetchInputs wire models).2.cache.inputs ≠ none := by
  unfold fetchInputs at done ⊢
  simp only [present] at done ⊢
  rcases exists_of_andThen_ok done with ⟨registers, read, done⟩
  rw [andThen_of_ok read]
  rcases exists_of_andThen_ok done with ⟨block, taken, -⟩
  rw [andThen_of_ok taken]
  simp

/-- A fetch of the inputs that fails leaves their block in the cache. -/
theorem inputs_fetchInputs (present : models.inputModel? = some header)
    (cached : gateway.cache.inputs ≠ none) :
    (gateway.fetchInputs wire models).2.cache.inputs ≠ none := by
  unfold fetchInputs
  simp only [present]
  have read : (gateway.readModel wire header).2.cache.inputs ≠ none := by
    rw [readModel, cache_read]
    exact cached
  refine andThen_preserves (motive := fun gateway => gateway.cache.inputs ≠ none) read ?_
  intro registers _
  refine andThen_preserves (motive := fun gateway => gateway.cache.inputs ≠ none) read ?_
  intro block _
  simp

theorem inputs_fetchCommon (wire : Wire δ) (models : ModelMap) (gateway : ModbusGateway δ) :
    (gateway.fetchCommon wire models).2.cache.inputs = gateway.cache.inputs :=
  fetchCommon_preserves (motive := fun after => after.cache.inputs = gateway.cache.inputs) models
    rfl (fun _ => by rw [readModel, cache_read]) fun _ _ same => same

theorem inputs_fetchInverter (wire : Wire δ) (models : ModelMap) (gateway : ModbusGateway δ) :
    (gateway.fetchInverter wire models).2.cache.inputs = gateway.cache.inputs :=
  fetchInverter_preserves (motive := fun after => after.cache.inputs = gateway.cache.inputs) models
    rfl (fun _ => by rw [readModel, cache_read]) fun _ _ same => same

/-- A fetch of the identity or of the measurements that succeeds has fetched the inputs. -/
theorem inputs_of_fetch (known : gateway.models = some models)
    (present : models.inputModel? = some header) :
    ((gateway.fetchDeviceInfo wire).1 = .ok () →
        (gateway.fetchDeviceInfo wire).2.cache.inputs ≠ none) ∧
      ((gateway.fetchRegisters wire).1 = .ok () →
        (gateway.fetchRegisters wire).2.cache.inputs ≠ none) := by
  constructor
  all_goals
    intro done
    rcases exists_of_andThen_ok done with ⟨found, followed, done⟩
    cases known.symm.trans (models_of_chain followed)
    rcases exists_of_andThen_ok done with ⟨⟨⟩, fetched, done⟩
  · rw [fetchDeviceInfo, andThen_of_ok followed, andThen_of_ok fetched]
    exact inputs_of_fetchInputs present done
  · rw [fetchRegisters, andThen_of_ok followed, andThen_of_ok fetched]
    exact inputs_of_fetchInputs present done

/-- Only a check that succeeds takes the input block out of the cache. -/
theorem inputs_apply (known : gateway.models = some models)
    (present : models.inputModel? = some header) (cached : gateway.cache.inputs ≠ none)
    {act : Act δ} (other : gateway.passes wire act = false) :
    (gateway.apply wire act).cache.inputs ≠ none := by
  cases act with
  | ask question =>
      by_cases check : question = .validate
      · subst check
        rcases validate_cases wire gateway with ⟨error, -, untouched⟩ | ⟨done, -⟩
        · exact untouched.cache_eq ▸ cached
        · rw [passes_validate_eq_true_iff.mpr done] at other
          contradiction
      · apply ask_preserves (motive := fun after => after.cache.inputs ≠ none) check cached
        · exact fun found => inputs_fetchCommon wire found gateway ▸ cached
        · exact fun found => inputs_fetchInverter wire found gateway ▸ cached
        · intro found fetched same _ cached
          cases known.symm.trans same
          exact inputs_fetchInputs present cached
  | supervise now =>
      rcases exists_apply_supervise wire now gateway with ⟨supervisor, line, moved, -⟩
      exact moved ▸ cached
  | _ => exact cached

/-! ## Every history -/

/-- Over every wire and every history of a gateway that has accepted a device with
an input model:

* the input block in the cache, if any, has been read from the input model of this
  device, and since the check that accepted it;
* every answer for an input comes from this block, and before it has been fetched
  there is neither an answer nor a number of inputs, in exactly those states in which
  the inverter is not in the cache without the inputs;
* a fetch of the identity or of the measurements that succeeds leads to such a state,
  and only a check that succeeds takes the input block out of the cache again;
* with the inverter alone in the cache the first input is answered with the totals of
  the inverter, although no number of inputs is. -/
theorem inputs_answered_from_their_model (wire : Wire δ) (device : DeviceConfig) (line : δ)
    (acts : List (Act δ)) (models : ModelMap) (header : ModelHeader)
    (known : ((initial device line).applyAll wire acts).models = some models)
    (present : models.inputModel? = some header) :
    let gateway := (initial device line).applyAll wire acts
    let recorded := (initial device line).logged.recordAll wire acts
    recorded.forget = gateway ∧
      (∀ block, gateway.cache.inputs = some block →
        HasRead recorded.line.log header block.registers) ∧
      ((∀ point index, gateway.FromInputModel point index) ↔
        gateway.supervisor.shuttingDown = true ∨ gateway.cache.inverter = none ∨
          gateway.cache.inputs ≠ none) ∧
      ((gateway.fetchDeviceInfo wire).1 = .ok () →
        (gateway.fetchDeviceInfo wire).2.cache.inputs ≠ none) ∧
      ((gateway.fetchRegisters wire).1 = .ok () →
        (gateway.fetchRegisters wire).2.cache.inputs ≠ none) ∧
      (gateway.cache.inputs ≠ none → ∀ act, gateway.passes wire act = false →
        (gateway.apply wire act).cache.inputs ≠ none) ∧
      ∀ inverter, gateway.supervisor.shuttingDown = false →
        gateway.cache.inverter = some inverter → gateway.cache.inputs = none →
          gateway.inputCount = .error (.notFetched "inputs") ∧
            ∀ point index, gateway.panel point (.module index) =
              if index = 0 then inverter.total point
              else .error (.transient (.outOfRange ("input " ++ natText (index + 1)))) := by
  intro gateway recorded
  have forgotten : recorded.forget = gateway := forget_recordAll wire _ acts
  have read : InputsRecorded recorded :=
    (inputsRecorded_initial device line).recordAll wire acts
  refine ⟨forgotten, ?_, fromInputModel_iff known present, (inputs_of_fetch known present).1,
    (inputs_of_fetch known present).2, ?_, ?_⟩
  · intro block cached
    rw [← forgotten] at cached
    rcases read block cached with ⟨others, other, found, first, hasRead⟩
    have same : recorded.forget.models = some models := forgotten ▸ known
    cases found.symm.trans same
    cases first.symm.trans present
    exact hasRead
  · intro cached act other
    exact inputs_apply known present cached other
  · intro inverter running cached missing
    constructor
    · rw [inputCount_of_running running known present, missing]
    · exact panel_of_inverter running cached missing

/-! ## A device with one module -/

/-- A history in which the measurements of this device are fetched. -/
def measuringActs : List (Act Unit) :=
  acceptingActs ++ [.ask .fetchRegisters]

/-- After its measurements have been fetched the input of this device is answered
from its input block. -/
theorem module_answered_after_measuring :
    let gateway := (initial ⟨"inverter", .tcp "localhost" 502, 1, 40000, 1000, .default⟩ ()).applyAll
      (wireWith oneModule) measuringActs
    gateway.models = some (modelsWith oneModule) ∧
      (modelsWith oneModule).inputModel? = some ⟨160, 40124, 28⟩ ∧
      gateway.cache.inputs ≠ none ∧ gateway.FromInputModel .power 0 := by
  intro gateway
  have known : gateway.models = some (modelsWith oneModule) := by
    decide +kernel
  have present : (modelsWith oneModule).inputModel? = some ⟨160, 40124, 28⟩ := by
    decide +kernel
  have cached : gateway.cache.inputs ≠ none := by
    decide +kernel
  have law := inputs_answered_from_their_model (wireWith oneModule) _ () measuringActs _ _ known
    present
  exact ⟨known, present, cached, law.2.2.1.mpr (.inr (.inr cached)) .power 0⟩

/-- After its events alone have been read the input of this device is answered with the
total of the inverter, although its number of inputs is not known. -/
theorem total_answered_for_input :
    let gateway := (gatewayWith oneModule).apply (wireWith oneModule) (.ask .fetchEventRegisters)
    gateway.models = some (modelsWith oneModule) ∧
      (modelsWith oneModule).inputModel? = some ⟨160, 40124, 28⟩ ∧
      gateway.cache.inputs = none ∧
      gateway.inputCount = .error (.notFetched "inputs") ∧
      (∃ value, gateway.panel .power (.module 0) = .ok value ∧
        gateway.panel .power .total = .ok value) ∧
      ¬ gateway.FromInputModel .power 0 := by
  intro gateway
  have known : gateway.models = some (modelsWith oneModule) := by
    decide +kernel
  have present : (modelsWith oneModule).inputModel? = some ⟨160, 40124, 28⟩ := by
    decide +kernel
  have missing : gateway.cache.inputs = none := by
    decide +kernel
  have running : gateway.supervisor.shuttingDown = false := by
    decide +kernel
  have answered : (gateway.panel .power (.module 0)).toOption.isSome = true := by
    decide +kernel
  rcases Option.isSome_iff_exists.mp answered with ⟨value, found⟩
  have module : gateway.panel .power (.module 0) = .ok value := eq_ok_of_toOption found
  refine ⟨known, present, missing, ?_, ⟨value, module, ?_⟩, ?_⟩
  · rw [inputCount_of_running running known present, missing]
  · rw [panel_of_running running, missing] at module
    rw [panel_of_running running, missing]
    exact module
  · intro law
    have refused := (law.unfetched running missing).1
    rw [module] at refused
    contradiction

end ModbusGateway

end InverterBridge
