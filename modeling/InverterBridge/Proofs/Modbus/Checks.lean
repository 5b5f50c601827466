import InverterBridge.Proofs.Modbus.Closing
import InverterBridge.Proofs.Modbus.Freshness
import InverterBridge.Proofs.Modbus.Memory

/-!
# A check replaces everything or nothing

A check that fails, wherever it does, leaves the models and the cache of a gateway as they were.
One that succeeds puts the models of the device that it has just read in the place of what was
known and empties the cache.  From then on a block of the cache is missing until it is fetched
(`ModbusGateway.Lacks`), and a question that is answered from it is refused: nothing of an earlier
device is told (`ModbusGateway.validate_all_or_nothing`).
-/

namespace InverterBridge

/-- A block of the cache that questions are answered from. -/
inductive CachedBlock where
  | common
  | inverter
  deriving DecidableEq, Repr

/-- The block that a question is answered from, and the name of the point in errors. -/
def Question.backing? : Question → Option (CachedBlock × String)
  | .energy => some (.inverter, Quantity.energy.name)
  | .activePower => some (.inverter, Quantity.activePower.name)
  | .apparentPower => some (.inverter, Quantity.apparentPower.name)
  | .reactivePower => some (.inverter, Quantity.reactivePower.name)
  | .powerFactor => some (.inverter, Quantity.powerFactor.name)
  | .frequency => some (.inverter, Quantity.frequency.name)
  | .acVoltage phase => some (.inverter, (Quantity.acVoltage phase).name)
  | .acCurrent phase => some (.inverter, (Quantity.acCurrent phase).name)
  | .dc point _ => some (.inverter, point.name)
  | .activeStateCode => some (.inverter, "active_code")
  | .state => some (.inverter, "state")
  | .events => some (.inverter, "events")
  | .manufacturer => some (.common, "manufacturer")
  | .model => some (.common, "model")
  | .serialNumber => some (.common, "serial")
  | .firmwareVersion => some (.common, "firmware")
  | .deviceAddress => some (.common, "modbus_address")
  | _ => none

namespace ModbusGateway

variable {δ : Type} {wire : Wire δ} {gateway : ModbusGateway δ} {block : CachedBlock}

/-- Whether an act is a fetch of a block. -/
def Act.fetches (block : CachedBlock) : Act δ → Bool
  | .ask .fetchDeviceInfo => block == .common
  | .ask .fetchRegisters => block == .inverter
  | .ask .fetchEventRegisters => block == .inverter
  | _ => false

/-- A block is missing in the cache. -/
def Lacks (block : CachedBlock) (gateway : ModbusGateway δ) : Prop :=
  match block with
  | .common => gateway.cache.common = none
  | .inverter => gateway.cache.inverter = none

theorem Lacks.congr {after : ModbusGateway δ} (lacks : gateway.Lacks block)
    (same : after.cache = gateway.cache) : after.Lacks block := by
  cases block with
  | common => exact (congrArg RegisterCache.common same).trans lacks
  | inverter => exact (congrArg RegisterCache.inverter same).trans lacks

theorem lacks_empty (empty : gateway.cache = .empty) (block : CachedBlock) :
    gateway.Lacks block := by
  cases block with
  | common => exact congrArg RegisterCache.common empty
  | inverter => exact congrArg RegisterCache.inverter empty

/-! ## Refusals -/

theorem ofBlock_none {α β : Type} (running : gateway.supervisor.shuttingDown = false)
    (point : String) (read : β → GatewayResult α) :
    gateway.ofBlock none point read = .error (.notFetched point) := by
  simp [ofBlock, checkRunning, running, Except.bind]

/-- A question is not answered from a block that is missing. -/
theorem ask_of_lacks {question : Question} {point : String}
    (backed : question.backing? = some (block, point)) (lacks : gateway.Lacks block)
    (wire : Wire δ) :
    (gateway.ask wire question).1 =
      .error (if gateway.supervisor.shuttingDown then .shuttingDown else .notFetched point) := by
  cases closing : gateway.supervisor.shuttingDown with
  | true => rw [ask_of_shuttingDown closing, if_pos rfl]
  | false =>
      rw [if_neg nofun]
      cases question <;> cases backed <;>
        simp only [Lacks] at lacks <;>
        simp only [ask, quantity, panel, ofInverter, ofCommon, lacks, ofBlock_none closing]

/-! ## What leaves a block missing -/

/-- A check that succeeds empties the cache; one that fails leaves it alone. -/
theorem Lacks.validate (lacks : gateway.Lacks block) (wire : Wire δ) :
    (gateway.validate wire).2.Lacks block := by
  rcases validate_cases wire gateway with ⟨error, -, untouched⟩ | ⟨-, kept, models, -, -, after⟩
  · exact lacks.congr untouched.cache_eq
  · rw [after]
    exact lacks_empty rfl block

theorem Lacks.fetchInputs (lacks : gateway.Lacks block) (wire : Wire δ) (models : ModelMap) :
    (gateway.fetchInputs wire models).2.Lacks block := by
  unfold ModbusGateway.fetchInputs
  split
  · cases block <;> exact lacks
  next header present =>
    have read := lacks.congr (cache_read wire header.address.toNat header.length.toNat gateway)
    refine andThen_preserves read fun registers _ => andThen_preserves read fun inputs _ => ?_
    cases block <;> exact read

/-- The identity is fetched without the inverter. -/
theorem Lacks.fetchDeviceInfo (lacks : gateway.Lacks .inverter) (wire : Wire δ) :
    (gateway.fetchDeviceInfo wire).2.Lacks .inverter := by
  refine andThen_preserves lacks fun models _ => ?_
  refine andThen_preserves ?_ fun _ _ => Lacks.fetchInputs ?_ wire models <;>
  · refine fetchCommon_preserves models lacks (fun header => ?_) fun after common kept => kept
    exact lacks.congr (cache_read wire _ _ gateway)

theorem Lacks.fetchInverter (lacks : gateway.Lacks .common) (wire : Wire δ) (models : ModelMap) :
    (gateway.fetchInverter wire models).2.Lacks .common := by
  refine fetchInverter_preserves models lacks (fun header => ?_) fun after inverter kept => kept
  exact lacks.congr (cache_read wire _ _ gateway)

/-- The measurements and the events are fetched without the identity. -/
theorem Lacks.fetchRegisters (lacks : gateway.Lacks .common) (wire : Wire δ) :
    (gateway.fetchRegisters wire).2.Lacks .common :=
  andThen_preserves lacks fun models _ =>
    andThen_preserves (lacks.fetchInverter wire models) fun _ _ =>
      (lacks.fetchInverter wire models).fetchInputs wire models

theorem Lacks.fetchEventRegisters (lacks : gateway.Lacks .common) (wire : Wire δ) :
    (gateway.fetchEventRegisters wire).2.Lacks .common :=
  andThen_preserves lacks fun models _ => lacks.fetchInverter wire models

/-- A block stays missing unless it is fetched. -/
theorem Lacks.apply (lacks : gateway.Lacks block) (wire : Wire δ) {act : Act δ}
    (other : act.fetches block = false) : (gateway.apply wire act).Lacks block := by
  cases act with
  | ask question =>
      change (gateway.ask wire question).2.Lacks block
      cases getter : question.needsLink with
      | false => rwa [ask_getter getter]
      | true =>
          cases question with
          | validate => exact lacks.validate wire
          | fetchDeviceInfo =>
              cases block with
              | common => contradiction
              | inverter => exact lacks.fetchDeviceInfo wire
          | fetchRegisters =>
              cases block with
              | common => exact lacks.fetchRegisters wire
              | inverter => contradiction
          | fetchEventRegisters =>
              cases block with
              | common => exact lacks.fetchEventRegisters wire
              | inverter => contradiction
          | _ => contradiction
  | supervise now =>
      obtain ⟨supervisor, line, moved, -⟩ := exists_apply_supervise wire now gateway
      rw [moved]
      exact lacks.congr rfl
  | connect => exact lacks.congr rfl
  | reconnect => exact lacks.congr rfl
  | shutdown => exact lacks.congr rfl
  | surround line => exact lacks.congr rfl

theorem Lacks.applyAll (lacks : gateway.Lacks block) (wire : Wire δ) {acts : List (Act δ)}
    (others : ∀ act ∈ acts, act.fetches block = false) :
    (gateway.applyAll wire acts).Lacks block := by
  induction acts generalizing gateway with
  | nil => exact lacks
  | cons act acts ih =>
      rw [List.forall_mem_cons] at others
      exact ih (lacks.apply wire others.1) others.2

/-! ## Checks -/

/-- Where nothing is changed but the line. -/
theorem Untouched.eq {before after : ModbusGateway δ} (untouched : Untouched before after) :
    after = { before with line := after.line } := by
  obtain ⟨⟨device, supervisor, models⟩, cache⟩ := untouched
  cases after
  simp_all

/-- A check that succeeds keeps the models whose headers it has read, one after the other from the
marker to the end of the chain, and empties the cache. -/
theorem replaced_of_validate (done : (gateway.validate wire).1 = .ok ()) :
    ∃ map last rest,
      (gateway.validate wire).2 = { gateway with
        models := some map
        cache := .empty
        line := (gateway.validate wire).2.line } ∧
      gateway.exchanges wire .validate =
        ⟨⟨gateway.device.baseAddress.toNat, 2⟩, .registers sunspecMarker⟩ ::
          map.models.map ModelHeader.exchange ++
            [⟨⟨last, 2⟩, .registers [endModelId, rest]⟩] := by
  have shows : gateway.validate wire = shown (gateway.logged.validate wire.logged) :=
    validate_forget wire gateway.logged
  obtain ⟨map, last, rest, known, -, -, read⟩ :=
    wellFormed_of_validate wire gateway.logged (congrArg Prod.fst shows ▸ done)
  have stored : (gateway.validate wire).2.models = some map :=
    (congrArg (fun checked => checked.2.models) shows).trans known
  refine ⟨map, last, rest, ?_, read⟩
  rcases validate_cases wire gateway with
    ⟨error, failed, -⟩ | ⟨-, kept, models, untouched, -, after⟩
  · rw [failed] at done
    contradiction
  · rw [untouched.eq] at after
    rw [after] at stored ⊢
    rw [← stored]

/-- **A check replaces everything or nothing.** Over any wire and from any state, a check that
fails changes nothing but the line.  One that succeeds puts the models that it has just read in the
place of what was known and empties the cache.  Whatever happens to the gateway afterwards, until a
block is fetched every question that is answered from it is refused because it has not been
fetched, or because the gateway has been shut down. -/
theorem validate_all_or_nothing (wire : Wire δ) (gateway : ModbusGateway δ) :
    let base := gateway.device.baseAddress.toNat
    let after := (gateway.validate wire).2
    (∀ error, (gateway.validate wire).1 = .error error →
      after = { gateway with line := after.line }) ∧
    ((gateway.validate wire).1 = .ok () →
      (∃ map last rest,
        after = { gateway with models := some map, cache := .empty, line := after.line } ∧
          gateway.exchanges wire .validate =
            ⟨⟨base, 2⟩, .registers sunspecMarker⟩ :: map.models.map ModelHeader.exchange ++
              [⟨⟨last, 2⟩, .registers [endModelId, rest]⟩]) ∧
      ∀ block acts, (∀ act ∈ acts, Act.fetches block act = false) →
        let later := after.applyAll wire acts
        ∀ question point, question.backing? = some (block, point) →
          (later.ask wire question).1 =
            .error (if later.supervisor.shuttingDown then .shuttingDown
              else .notFetched point)) := by
  intro base after
  constructor
  · intro error failed
    rcases validate_cases wire gateway with ⟨-, -, untouched⟩ | ⟨done, -⟩
    · exact untouched.eq
    · rw [done] at failed
      contradiction
  · intro done
    obtain ⟨map, last, rest, after_eq, read⟩ := replaced_of_validate done
    refine ⟨⟨map, last, rest, after_eq, read⟩, ?_⟩
    intro block acts others later question point backed
    have empty : after.cache = .empty := congrArg ModbusGateway.cache after_eq
    exact ask_of_lacks backed ((lacks_empty empty block).applyAll wire others) wire

/-- A gateway that has checked a device with an identity model and an inverter model. -/
def checkedGateway : ModbusGateway Unit :=
  (connectedTo 0).applyAll (memoryWire (memoryOfMany 0)) [.ask .validate]

/-- Once the gateway has been shut down it no longer says what has not been fetched. -/
theorem not_notFetched_after_shutdown :
    let wire := memoryWire (memoryOfMany 0)
    ((connectedTo 0).validate wire).1 = .ok () ∧
      (checkedGateway.ask wire .energy).1 = .error (.notFetched "ac_energy") ∧
      ((checkedGateway.applyAll wire [.shutdown]).ask wire .energy).1 = .error .shuttingDown ∧
      ((checkedGateway.applyAll wire [.shutdown]).ask wire .energy).1 ≠
        .error (.notFetched "ac_energy") := by
  refine ⟨?_, ?_, ?_, ?_⟩ <;> decide +kernel

end ModbusGateway

end InverterBridge
