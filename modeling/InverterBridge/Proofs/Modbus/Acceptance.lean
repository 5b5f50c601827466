import InverterBridge.Proofs.Modbus.Reading
import InverterBridge.Proofs.Poller.Questions

/-!
# Accepted devices

A device is accepted when its chain of models can be followed to the end and
holds the models that polling needs.  The models of a gateway are those of the
last device it has accepted: whatever happens to the gateway and its link
between two checks, the models stay.  `ModbusGateway.Trusted` is the invariant.
-/

namespace InverterBridge

namespace ModelMap

/-- What is known of the models of an accepted device: they hold what polling
needs, and their registers lie in the register space. -/
structure Accepted (models : ModelMap) : Prop where
  valid : models.validate = .ok ()
  inside : ∀ header ∈ models.models, header.nextAddress ≤ ModbusGateway.lastHeaderAddress

end ModelMap

namespace ModbusGateway

variable {δ α β : Type} {wire : Wire δ} {gateway before after : ModbusGateway δ}

/-! ## Steps in a row -/

@[simp]
theorem andThen_ok (value : α) (gateway : ModbusGateway δ)
    (next : α → ModbusGateway δ → GatewayResult β × ModbusGateway δ) :
    andThen (.ok value, gateway) next = next value gateway :=
  rfl

@[simp]
theorem andThen_error (error : GatewayError) (gateway : ModbusGateway δ)
    (next : α → ModbusGateway δ → GatewayResult β × ModbusGateway δ) :
    andThen (.error error, gateway) next = (.error error, gateway) :=
  rfl

theorem andThen_of_ok {step : GatewayResult α × ModbusGateway δ} {value : α}
    (done : step.1 = .ok value)
    (next : α → ModbusGateway δ → GatewayResult β × ModbusGateway δ) :
    andThen step next = next value step.2 := by
  rcases step with ⟨result, moved⟩
  cases done
  rfl

theorem andThen_of_error {step : GatewayResult α × ModbusGateway δ} {error : GatewayError}
    (failed : step.1 = .error error)
    (next : α → ModbusGateway δ → GatewayResult β × ModbusGateway δ) :
    andThen step next = (.error error, step.2) := by
  rcases step with ⟨result, moved⟩
  cases failed
  rfl

/-- Steps in a row succeed one after the other. -/
theorem exists_of_andThen_ok {step : GatewayResult α × ModbusGateway δ}
    {next : α → ModbusGateway δ → GatewayResult β × ModbusGateway δ} {final : β}
    (done : (andThen step next).1 = .ok final) :
    ∃ value, step.1 = .ok value ∧ (next value step.2).1 = .ok final := by
  cases result : step.1 with
  | ok value => exact ⟨value, rfl, andThen_of_ok result next ▸ done⟩
  | error error =>
      rw [andThen_of_error result] at done
      contradiction

/-- What a step and what follows it preserve, both together do. -/
theorem andThen_preserves {motive : ModbusGateway δ → Prop}
    {step : GatewayResult α × ModbusGateway δ}
    {next : α → ModbusGateway δ → GatewayResult β × ModbusGateway δ} (first : motive step.2)
    (second : ∀ value, step.1 = .ok value → motive (next value step.2).2) :
    motive (andThen step next).2 := by
  cases result : step.1 with
  | ok value =>
      rw [andThen_of_ok result]
      exact second value result
  | error error =>
      rw [andThen_of_error result]
      exact first

/-- The device, the supervisor and the models are the same. -/
structure Kept (before after : ModbusGateway δ) : Prop where
  device_eq : after.device = before.device
  supervisor_eq : after.supervisor = before.supervisor
  models_eq : after.models = before.models

theorem Kept.refl (gateway : ModbusGateway δ) : Kept gateway gateway :=
  ⟨rfl, rfl, rfl⟩

theorem Kept.trans {middle : ModbusGateway δ} (first : Kept before middle)
    (second : Kept middle after) : Kept before after where
  device_eq := second.device_eq.trans first.device_eq
  supervisor_eq := second.supervisor_eq.trans first.supervisor_eq
  models_eq := second.models_eq.trans first.models_eq

theorem kept_read (wire : Wire δ) (address count : Nat) (gateway : ModbusGateway δ) :
    Kept gateway (gateway.read wire address count).2 := by
  rw [read_eq]
  exact ⟨rfl, rfl, rfl⟩

/-- Nothing is changed but the line. -/
structure Untouched (before after : ModbusGateway δ) : Prop extends Kept before after where
  cache_eq : after.cache = before.cache

theorem Untouched.refl (gateway : ModbusGateway δ) : Untouched gateway gateway :=
  ⟨.refl gateway, rfl⟩

theorem Untouched.trans {middle : ModbusGateway δ} (first : Untouched before middle)
    (second : Untouched middle after) : Untouched before after :=
  ⟨first.toKept.trans second.toKept, second.cache_eq.trans first.cache_eq⟩

theorem untouched_read (wire : Wire δ) (address count : Nat) (gateway : ModbusGateway δ) :
    Untouched gateway (gateway.read wire address count).2 :=
  ⟨kept_read wire address count gateway, cache_read wire address count gateway⟩

/-! ## Following the chain -/

theorem untouched_walk (wire : Wire δ) (headers address : Nat) (gateway : ModbusGateway δ) :
    Untouched gateway (walk wire headers address gateway).2 := by
  induction headers generalizing address gateway with
  | zero => exact .refl gateway
  | succ headers ih =>
      unfold walk
      split
      · have read := untouched_read wire address 2 gateway
        refine andThen_preserves read ?_
        intro registers _
        simp only
        split
        · exact read
        · refine andThen_preserves ?_ fun models _ => ?_ <;> exact read.trans (ih _ _)
      · exact .refl gateway

/-- A chain that has been followed began where a header may stand. -/
theorem address_le_of_walk {headers address : Nat} {models : List ModelHeader}
    (done : (walk wire headers address gateway).1 = .ok models) :
    address ≤ lastHeaderAddress := by
  cases headers with
  | zero => contradiction
  | succ headers =>
      unfold walk at done
      split at done
      next inside => exact inside
      next => contradiction

/-- Behind every model of a chain that has been followed there is another header. -/
theorem nextAddress_le_of_walk {headers address : Nat} {models : List ModelHeader}
    (done : (walk wire headers address gateway).1 = .ok models) :
    ∀ header ∈ models, header.nextAddress ≤ lastHeaderAddress := by
  induction headers generalizing address gateway models with
  | zero => contradiction
  | succ headers ih =>
      unfold walk at done
      split at done
      · rcases exists_of_andThen_ok done with ⟨registers, -, done⟩
        simp only at done
        split at done
        · cases done
          simp
        · rcases exists_of_andThen_ok done with ⟨later, walked, done⟩
          cases done
          intro header mem
          rcases List.mem_cons.mp mem with rfl | mem
          · exact address_le_of_walk walked
          · exact ih walked header mem
      · contradiction

/-! ## Checking and asking -/

/-- A check that fails changes nothing but the line; one that succeeds also puts the
models of an accepted device in the place of what was known, and empties the cache. -/
theorem validate_cases (wire : Wire δ) (gateway : ModbusGateway δ) :
    (∃ error, (gateway.validate wire).1 = .error error ∧
        Untouched gateway (gateway.validate wire).2) ∨
      (gateway.validate wire).1 = .ok () ∧
        ∃ kept models, Untouched gateway kept ∧ models.Accepted ∧
          (gateway.validate wire).2 = { kept with models := some models, cache := .empty } := by
  let marked := gateway.read wire gateway.device.baseAddress.toNat 2
  have read : Untouched gateway marked.2 := untouched_read wire _ 2 gateway
  unfold validate
  cases marker : marked.1 with
  | error error =>
      rw [andThen_of_error marker]
      exact .inl ⟨error, rfl, read⟩
  | ok registers =>
      rw [andThen_of_ok marker]
      split
      · let followed := walk wire maxModels (gateway.device.baseAddress.toNat + 2) marked.2
        have walked : Untouched gateway followed.2 := read.trans (untouched_walk wire _ _ _)
        cases found : followed.1 with
        | error error =>
            rw [andThen_of_error found]
            exact .inl ⟨error, rfl, walked⟩
        | ok models =>
            rw [andThen_of_ok found]
            cases valid : (ModelMap.mk models).validate with
            | error error => exact .inl ⟨error, rfl, walked⟩
            | ok _ =>
                exact .inr ⟨rfl, followed.2, ⟨models⟩, walked,
                  ⟨valid, nextAddress_le_of_walk found⟩, rfl⟩
      · exact .inl ⟨_, rfl, read⟩

/-- A check changes nothing but the line, or it also puts the models of an accepted
device in the place of what was known. -/
theorem kept_or_accepted_validate (wire : Wire δ) (gateway : ModbusGateway δ) :
    Kept gateway (gateway.validate wire).2 ∨
      ∃ kept models, Kept gateway kept ∧ models.Accepted ∧
        (gateway.validate wire).2 = { kept with models := some models, cache := .empty } := by
  rcases validate_cases wire gateway with
    ⟨error, -, untouched⟩ | ⟨-, kept, models, untouched, accepted, after⟩
  · exact .inl untouched.toKept
  · exact .inr ⟨kept, models, untouched.toKept, accepted, after⟩

/-- A check leaves the models alone or puts those of an accepted device in their place. -/
theorem models_validate (wire : Wire δ) (gateway : ModbusGateway δ) :
    (gateway.validate wire).2.models = gateway.models ∨
      ∃ models, (gateway.validate wire).2.models = some models ∧ models.Accepted := by
  rcases kept_or_accepted_validate wire gateway with kept | ⟨kept, models, -, accepted, after⟩
  · exact .inl kept.models_eq
  · exact .inr ⟨models, by rw [after], accepted⟩

/-- What readings and a new identity in the cache preserve, a fetch of the identity
preserves. -/
theorem fetchCommon_preserves {motive : ModbusGateway δ → Prop} (models : ModelMap)
    (start : motive gateway) (read : ∀ header, motive (gateway.readModel wire header).2)
    (store : ∀ after common, motive after →
      motive { after with cache := { after.cache with common := some common } }) :
    motive (gateway.fetchCommon wire models).2 := by
  refine andThen_preserves start ?_
  intro header _
  refine andThen_preserves (read header) ?_
  intro registers _
  refine andThen_preserves (read header) ?_
  intro common _
  exact store _ common (read header)

/-- What readings and a new inverter in the cache preserve, a fetch of the inverter
preserves. -/
theorem fetchInverter_preserves {motive : ModbusGateway δ → Prop} (models : ModelMap)
    (start : motive gateway) (read : ∀ header, motive (gateway.readModel wire header).2)
    (store : ∀ after block, motive after →
      motive { after with cache := { after.cache with inverter := some block } }) :
    motive (gateway.fetchInverter wire models).2 := by
  refine andThen_preserves start ?_
  intro header _
  refine andThen_preserves (read header) ?_
  intro registers _
  refine andThen_preserves (read header) ?_
  intro block _
  exact store _ block (read header)

theorem kept_fetchCommon (wire : Wire δ) (models : ModelMap) (gateway : ModbusGateway δ) :
    Kept gateway (gateway.fetchCommon wire models).2 := by
  apply fetchCommon_preserves models (.refl gateway)
  · intro header
    exact kept_read wire _ _ gateway
  · intro after common kept
    exact ⟨kept.device_eq, kept.supervisor_eq, kept.models_eq⟩

theorem kept_fetchInverter (wire : Wire δ) (models : ModelMap) (gateway : ModbusGateway δ) :
    Kept gateway (gateway.fetchInverter wire models).2 := by
  apply fetchInverter_preserves models (.refl gateway)
  · intro header
    exact kept_read wire _ _ gateway
  · intro after block kept
    exact ⟨kept.device_eq, kept.supervisor_eq, kept.models_eq⟩

theorem kept_fetchInputs (wire : Wire δ) (models : ModelMap) (gateway : ModbusGateway δ) :
    Kept gateway (gateway.fetchInputs wire models).2 := by
  unfold fetchInputs
  split
  · exact ⟨rfl, rfl, rfl⟩
  next header present =>
    have kept := kept_read wire header.address.toNat header.length.toNat gateway
    refine andThen_preserves kept ?_
    intro registers _
    refine andThen_preserves kept ?_
    intro block _
    exact ⟨kept.device_eq, kept.supervisor_eq, kept.models_eq⟩

/-- A chain that is there is the one that was found by the last check. -/
theorem models_of_chain {gateway : ModbusGateway δ} {models : ModelMap}
    (found : gateway.chain = .ok models) : gateway.models = some models := by
  unfold chain at found
  cases running : gateway.checkRunning with
  | error error => simp [running, Except.bind] at found
  | ok _ =>
      simp only [running, Except.bind] at found
      split at found <;> simp_all

/-- A question about what has been read changes nothing. -/
theorem ask_getter {question : Question} (getter : question.needsLink = false) (wire : Wire δ)
    (gateway : ModbusGateway δ) : (gateway.ask wire question).2 = gateway := by
  cases question <;> first | rfl | contradiction

/-- What the fetches preserve, every question but a check preserves; the models of a fetch
are those of the gateway. -/
theorem ask_preserves {motive : ModbusGateway δ → Prop} {question : Question}
    (other : question ≠ .validate) (start : motive gateway)
    (common : ∀ models, motive (gateway.fetchCommon wire models).2)
    (inverter : ∀ models, motive (gateway.fetchInverter wire models).2)
    (inputs : ∀ models fetched, gateway.models = some models → fetched.models = some models →
      motive fetched → motive (fetched.fetchInputs wire models).2) :
    motive (gateway.ask wire question).2 := by
  cases getter : question.needsLink with
  | false => rwa [ask_getter getter]
  | true =>
      cases question with
      | validate => contradiction
      | fetchDeviceInfo =>
          refine andThen_preserves start ?_
          intro models found
          have known := models_of_chain found
          have kept := kept_fetchCommon wire models gateway
          exact andThen_preserves (common models) fun _ _ =>
            inputs models _ known (kept.models_eq.trans known) (common models)
      | fetchRegisters =>
          refine andThen_preserves start ?_
          intro models found
          have known := models_of_chain found
          have kept := kept_fetchInverter wire models gateway
          exact andThen_preserves (inverter models) fun _ _ =>
            inputs models _ known (kept.models_eq.trans known) (inverter models)
      | fetchEventRegisters => exact andThen_preserves start fun models _ => inverter models
      | _ => contradiction

/-- Only a check changes the models. -/
theorem kept_ask {question : Question} (other : question ≠ .validate) (wire : Wire δ)
    (gateway : ModbusGateway δ) : Kept gateway (gateway.ask wire question).2 := by
  apply ask_preserves other (.refl gateway)
  · exact fun models => kept_fetchCommon wire models gateway
  · exact fun models => kept_fetchInverter wire models gateway
  · exact fun models fetched _ _ kept => kept.trans (kept_fetchInputs wire models fetched)

/-! ## Histories -/

/-- Something that happens to a gateway over a link. -/
inductive Act (δ : Type) where
  | ask (question : Question)
  | connect
  | reconnect
  | shutdown
  /-- One move of the supervisor, if it does not have to wait. -/
  | supervise (now : Nat)
  /-- The other side of the link changes by itself. -/
  | surround (line : δ)

/-- Apply an act. -/
def apply (wire : Wire δ) (gateway : ModbusGateway δ) : Act δ → ModbusGateway δ
  | .ask question => (gateway.ask wire question).2
  | .connect => gateway.connect.2
  | .reconnect => gateway.reconnect.2
  | .shutdown => gateway.shutdown
  | .supervise now =>
      match gateway.supervise wire now with
      | none => gateway
      | some (_, moved) => moved
  | .surround line => { gateway with line := line }

/-- Apply acts in order. -/
def applyAll (wire : Wire δ) (gateway : ModbusGateway δ) (acts : List (Act δ)) :
    ModbusGateway δ :=
  acts.foldl (apply wire) gateway

/-- The models of a gateway are those of an accepted device. -/
def Trusted (gateway : ModbusGateway δ) : Prop :=
  ∀ models, gateway.models = some models → models.Accepted

theorem trusted_initial (device : DeviceConfig) (line : δ) : Trusted (initial device line) := by
  intro models known
  contradiction

theorem Trusted.congr (trusted : Trusted before) (same : after.models = before.models) :
    Trusted after :=
  fun models known => trusted models (same ▸ known)

/-- A move of the supervisor changes nothing else but the line, where a link is opened. -/
theorem exists_apply_supervise (wire : Wire δ) (now : Nat) (gateway : ModbusGateway δ) :
    ∃ supervisor line,
      gateway.apply wire (.supervise now) =
        { gateway with supervisor := supervisor, line := line } ∧
      (line = gateway.line ∨ line = (wire.openLink gateway.device.connection gateway.line).2) := by
  by_cases opening : gateway.supervisor.phase = .opening
  · simp only [apply, supervise, opening, if_true]
    exact ⟨_, _, rfl, .inr rfl⟩
  · simp only [apply, supervise, opening, if_false]
    cases gateway.supervisor.step now with
    | none => exact ⟨_, _, rfl, .inl rfl⟩
    | some moved => exact ⟨_, _, rfl, .inl rfl⟩

/-- Every act keeps the models trusted. -/
theorem Trusted.apply (trusted : Trusted gateway) (wire : Wire δ) (act : Act δ) :
    Trusted (gateway.apply wire act) := by
  cases act with
  | ask question =>
      by_cases check : question = .validate
      · subst check
        rcases models_validate wire gateway with same | ⟨models, known, accepted⟩
        · exact trusted.congr same
        · intro found same
          cases known.symm.trans same
          exact accepted
      · exact trusted.congr (kept_ask check wire gateway).models_eq
  | connect => exact trusted.congr rfl
  | reconnect => exact trusted.congr rfl
  | shutdown => exact trusted.congr rfl
  | supervise now =>
      rcases exists_apply_supervise wire now gateway with ⟨supervisor, line, moved, -⟩
      exact moved ▸ trusted.congr rfl
  | surround line => exact trusted.congr rfl

/-- Every history keeps the models trusted. -/
theorem Trusted.applyAll (trusted : Trusted gateway) (wire : Wire δ) (acts : List (Act δ)) :
    Trusted (gateway.applyAll wire acts) := by
  induction acts generalizing gateway with
  | nil => exact trusted
  | cons first acts ih => exact ih (trusted.apply wire first)

end ModbusGateway

end InverterBridge
