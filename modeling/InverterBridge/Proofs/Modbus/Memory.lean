import InverterBridge.Proofs.Modbus.Chain
import InverterBridge.Proofs.Modbus.Serving
import InverterBridge.Proofs.Modbus.Supervised

/-!
# The memory of a device

A device holds its models in its memory: the marker at the base address, and behind it one
model after the other up to an end marker.  `ModelMap.EndsIn` says that a memory holds such a
chain, and `ModbusGateway.validate_memory` says when a check that reads nothing but what the
memory holds accepts the device.

A check gives up after 64 models without a look at the header that follows them.  So it
accepts chains of up to 63 models, and it misses the end of a chain of 64.
-/

namespace InverterBridge

/-- An exchange has brought what a memory holds. -/
def Exchange.Shows (memory : Nat → UInt16) (exchange : Exchange) : Prop :=
  exchange.reply = .registers ((List.range exchange.request.count).map fun index =>
    memory (exchange.request.address + index))

instance (memory : Nat → UInt16) (exchange : Exchange) : Decidable (exchange.Shows memory) :=
  inferInstanceAs (Decidable (_ = _))

theorem Exchange.shows_two {memory : Nat → UInt16} {address : Nat} {reply : ReadReply} :
    Exchange.Shows memory ⟨⟨address, 2⟩, reply⟩ ↔
      reply = .registers [memory address, memory (address + 1)] := by
  simp [Shows, List.range_succ]

/-! ## Chains in a memory -/

namespace ModelHeader

/-- The header that a memory holds at an address. -/
def inMemory (memory : Nat → UInt16) (address : Nat) : ModelHeader :=
  ⟨memory address, UInt16.ofNat (address + 2), memory (address + 1)⟩

/-- Models stand in a memory, from the header at one address on up to a header at another
one.  None of them ends the chain, and behind every header there is room for a register. -/
inductive StandIn (memory : Nat → UInt16) : Nat → List ModelHeader → Nat → Prop
  | nil (address : Nat) : StandIn memory address [] address
  | cons {header : ModelHeader} {models : List ModelHeader} {address last : Nat}
      (inside : address ≤ ModbusGateway.lastHeaderAddress)
      (found : header = inMemory memory address) (continues : memory address ≠ endModelId)
      (rest : StandIn memory header.nextAddress models last) :
      StandIn memory address (header :: models) last

variable {memory : Nat → UInt16} {header : ModelHeader} {models : List ModelHeader}
  {address last : Nat}

theorem standIn_nil_iff : StandIn memory address [] last ↔ address = last := by
  constructor
  · rintro ⟨⟩
    rfl
  · rintro rfl
    exact .nil _

theorem standIn_cons_iff :
    StandIn memory address (header :: models) last ↔
      address ≤ ModbusGateway.lastHeaderAddress ∧ header = inMemory memory address ∧
        memory address ≠ endModelId ∧ StandIn memory header.nextAddress models last := by
  constructor
  · rintro (_ | ⟨inside, found, continues, rest⟩)
    exact ⟨inside, found, continues, rest⟩
  · rintro ⟨inside, found, continues, rest⟩
    exact .cons inside found continues rest

instance decidableStandIn (memory : Nat → UInt16) :
    ∀ (models : List ModelHeader) (address last : Nat),
      Decidable (StandIn memory address models last)
  | [], _, _ => decidable_of_iff' _ standIn_nil_iff
  | header :: models, _, last =>
      have := decidableStandIn memory models header.nextAddress last
      decidable_of_iff' _ standIn_cons_iff

end ModelHeader

/-- The error of a check that has followed as many models as it may. -/
def ModbusGateway.noEndMarker : GatewayError :=
  .invalidDevice ("no end marker after " ++ natText maxModels ++ " models")

/-- It is told from the others by its beginning. -/
theorem ModbusGateway.invalidDevice_ne_noEndMarker {message : String}
    (other : message.toList.take 4 ≠ ['n', 'o', ' ', 'e']) :
    GatewayError.invalidDevice message ≠ noEndMarker := by
  intro same
  cases same
  exact other rfl

namespace ModelMap

/-- A memory holds a marker and behind it models, up to an address. -/
structure LieIn (memory : Nat → UInt16) (base last : Nat) (map : ModelMap) : Prop where
  marker : [memory base, memory (base + 1)] = sunspecMarker
  models : ModelHeader.StandIn memory (base + 2) map.models last

/-- A memory holds a marker and behind it models, up to an end marker. -/
structure EndsIn (memory : Nat → UInt16) (base last : Nat) (map : ModelMap) : Prop
    extends LieIn memory base last map where
  inside : last ≤ ModbusGateway.lastHeaderAddress
  ends : memory last = endModelId

/-- The first identity model and the first inverter model are there and long enough. -/
structure Sufficient (map : ModelMap) : Prop where
  common : ∃ header, map.common = .ok header ∧ commonMinLength ≤ header.length.toNat
  inverter : ∃ header layout, map.inverter = .ok header ∧ header.layout? = some layout ∧
    layout.minLength ≤ header.length.toNat

/-- A device that has passed the check has what polling needs. -/
theorem Accepted.sufficient {map : ModelMap} (accepted : map.Accepted) : map.Sufficient :=
  ⟨accepted.exists_common, accepted.exists_inverter⟩

/-- Models with what polling needs pass the check. -/
theorem Sufficient.valid {map : ModelMap} (sufficient : map.Sufficient) :
    map.validate = .ok () := by
  rcases sufficient.common with ⟨common, foundCommon, longCommon⟩
  rcases sufficient.inverter with ⟨inverter, layout, foundInverter, known, longInverter⟩
  have checkedCommon : map.checkCommon = .ok common := by
    simp [checkCommon, foundCommon, Except.bind, Nat.not_lt.mpr longCommon]
  have checkedInverter : map.checkInverter = .ok inverter := by
    simp [checkInverter, foundInverter, Except.bind, known, Nat.not_lt.mpr longInverter]
  simp [validate, checkedCommon, checkedInverter, Except.bind, Except.map]

theorem checkCommon_ne_noEndMarker (map : ModelMap) :
    map.checkCommon ≠ .error ModbusGateway.noEndMarker := by
  unfold checkCommon common
  cases map.find? commonModelId with
  | none => decide
  | some header =>
      simp only [Except.bind]
      split
      · rw [ne_eq, Except.error.injEq]
        exact ModbusGateway.invalidDevice_ne_noEndMarker (by simp)
      · nofun

theorem checkInverter_ne_noEndMarker (map : ModelMap) :
    map.checkInverter ≠ .error ModbusGateway.noEndMarker := by
  unfold checkInverter inverter
  cases map.inverter? with
  | none => decide
  | some header =>
      simp only [Except.bind]
      split
      · decide
      · split
        · rw [ne_eq, Except.error.injEq]
          exact ModbusGateway.invalidDevice_ne_noEndMarker (by simp)
        · nofun

/-- What is wrong with models is not that they have no end. -/
theorem validate_ne_noEndMarker (map : ModelMap) :
    map.validate ≠ .error ModbusGateway.noEndMarker := by
  unfold validate
  cases common : map.checkCommon with
  | error error =>
      intro gaveUp
      cases gaveUp
      exact map.checkCommon_ne_noEndMarker common
  | ok _ =>
      cases inverter : map.checkInverter with
      | error error =>
          intro gaveUp
          cases gaveUp
          exact map.checkInverter_ne_noEndMarker inverter
      | ok _ => nofun

end ModelMap

/-! ## Following a chain in a memory -/

namespace ModbusGateway

variable {δ : Type} {wire : Wire δ} {gateway : ModbusGateway (LoggedLine δ)}
  {memory : Nat → UInt16}

/-- A link is up, and all that has been read over it is what a memory holds. -/
structure Reading (memory : Nat → UInt16) (gateway : ModbusGateway (LoggedLine δ)) : Prop where
  running : gateway.supervisor.shuttingDown = false
  linked : gateway.supervisor.linked = true
  shown : ∀ exchange ∈ gateway.line.log, exchange.Shows memory

/-- What is read is what the memory holds. -/
theorem Reading.read {address : Nat}
    (reading : Reading memory (gateway.read wire.logged address 2).2)
    (inside : address < addressBound) :
    (gateway.read wire.logged address 2).1 = .ok [memory address, memory (address + 1)] := by
  have kept := kept_read wire.logged address 2 gateway
  have running := kept.supervisor_eq ▸ reading.running
  have linked := kept.supervisor_eq ▸ reading.linked
  have shown := reading.shown
  rw [read_two, if_neg (by simp [running]), if_pos linked, if_pos inside] at shown ⊢
  have reply : (wire.send gateway.device.unitId ⟨address, 2⟩ gateway.line.line).1 =
      .registers [memory address, memory (address + 1)] :=
    Exchange.shows_two.mp (shown _ (List.mem_append_right _ (List.mem_singleton_self _)))
  change ReadRequest.accept ⟨address, 2⟩ _
    (wire.send gateway.device.unitId ⟨address, 2⟩ gateway.line.line).1 = _
  rw [reply, ReadRequest.accept_registers rfl]

/-- What has been read until a step has been read after it. -/
theorem Reading.of_walk {headers address : Nat}
    (reading : Reading memory (walk wire.logged headers address gateway).2) :
    Reading memory gateway := by
  have untouched := untouched_walk wire.logged headers address gateway
  rcases exists_log_walk wire gateway headers address with ⟨news, logged, -⟩
  refine ⟨untouched.supervisor_eq ▸ reading.running, untouched.supervisor_eq ▸ reading.linked,
    fun exchange member => reading.shown exchange ?_⟩
  rw [logged]
  exact List.mem_append_left _ member

/-- One header is read off the memory; a walk goes on behind its model or is at the end. -/
theorem walk_succ {headers address : Nat} (inside : address ≤ lastHeaderAddress)
    (reading : Reading memory (walk wire.logged (headers + 1) address gateway).2) :
    walk wire.logged (headers + 1) address gateway =
      if memory address = endModelId then (.ok [], (gateway.read wire.logged address 2).2)
      else
        andThen (walk wire.logged headers (ModelHeader.inMemory memory address).nextAddress
          (gateway.read wire.logged address 2).2) fun models gateway =>
            (.ok (ModelHeader.inMemory memory address :: models), gateway) := by
  have fits : address < addressBound := by
    simp only [lastHeaderAddress] at inside
    simp only [addressBound]
    omega
  rw [walk, if_pos inside] at reading ⊢
  cases result : (gateway.read wire.logged address 2).1 with
  | error error =>
      rw [andThen_of_error result] at reading
      rw [reading.read fits] at result
      contradiction
  | ok registers =>
      -- What is known is known of the end of the walk; what has been read here is part of it.
      have read : Reading memory (gateway.read wire.logged address 2).2 := by
        rw [andThen_of_ok result] at reading
        simp only at reading
        split at reading
        · exact reading
        · rw [snd_andThen_map] at reading
          exact reading.of_walk
      rw [andThen_of_ok (read.read fits)]
      rfl

/-- A walk that may read on goes on with the next model of a chain. -/
theorem walk_of_continues {headers address : Nat} (inside : address ≤ lastHeaderAddress)
    (continues : memory address ≠ endModelId)
    (reading : Reading memory (walk wire.logged (headers + 1) address gateway).2) :
    ∃ after,
      Reading memory
          (walk wire.logged headers (ModelHeader.inMemory memory address).nextAddress after).2 ∧
        walk wire.logged (headers + 1) address gateway =
          andThen (walk wire.logged headers (ModelHeader.inMemory memory address).nextAddress after)
            fun models gateway =>
              (.ok (ModelHeader.inMemory memory address :: models), gateway) := by
  have step := walk_succ inside reading
  rw [if_neg continues] at step
  refine ⟨_, ?_, step⟩
  rw [step, snd_andThen_map] at reading
  exact reading

/-- Nothing fails where a value is only put into another form. -/
theorem error_of_andThen_map {α β ε : Type} {step : GatewayResult α × ModbusGateway ε}
    {make : α → β} {error : GatewayError}
    (failed : (andThen step fun value gateway => (.ok (make value), gateway)).1 = .error error) :
    step.1 = .error error := by
  cases result : step.1 with
  | error other =>
      rw [andThen_of_error result] at failed
      exact congrArg Except.error (Except.error.inj failed)
  | ok value =>
      rw [andThen_of_ok result] at failed
      contradiction

variable {address last : Nat} {models : List ModelHeader}

/-- A walk that may read more headers than there are models finds the end of the chain. -/
theorem walk_of_ends (stand : ModelHeader.StandIn memory address models last)
    (inside : last ≤ lastHeaderAddress) (ends : memory last = endModelId) {headers : Nat}
    (few : models.length < headers)
    (reading : Reading memory (walk wire.logged headers address gateway).2) :
    (walk wire.logged headers address gateway).1 = .ok models := by
  induction stand generalizing headers gateway with
  | nil address =>
      cases headers with
      | zero => contradiction
      | succ headers => rw [walk_succ inside reading, if_pos ends]
  | cons begins found continues rest ih =>
      cases headers with
      | zero => contradiction
      | succ headers =>
          rcases walk_of_continues begins continues reading with ⟨after, later, step⟩
          subst found
          have walked := ih inside ends (Nat.lt_of_succ_lt_succ few) later
          rw [step, andThen_of_ok walked]

/-- A walk that may not read more headers than there are models gives up, whatever stands
behind them. -/
theorem walk_of_many (stand : ModelHeader.StandIn memory address models last) {headers : Nat}
    (many : headers ≤ models.length)
    (reading : Reading memory (walk wire.logged headers address gateway).2) :
    (walk wire.logged headers address gateway).1 = .error noEndMarker := by
  induction stand generalizing headers gateway with
  | nil address =>
      rw [Nat.le_zero.mp many]
      rfl
  | cons begins found continues rest ih =>
      cases headers with
      | zero => rfl
      | succ headers =>
          rcases walk_of_continues begins continues reading with ⟨after, later, step⟩
          subst found
          have failed := ih (Nat.le_of_succ_le_succ many) later
          rw [step, andThen_of_error failed]

/-- Only after as many models as it may read a walk gives up. -/
theorem standIn_of_walk {headers : Nat}
    (failed : (walk wire.logged headers address gateway).1 = .error noEndMarker)
    (reading : Reading memory (walk wire.logged headers address gateway).2) :
    ∃ models last, ModelHeader.StandIn memory address models last ∧ models.length = headers := by
  induction headers generalizing address gateway with
  | zero => exact ⟨[], address, .nil address, rfl⟩
  | succ headers ih =>
      by_cases inside : address ≤ lastHeaderAddress
      · by_cases ends : memory address = endModelId
        · rw [walk_succ inside reading, if_pos ends] at failed
          contradiction
        · rcases walk_of_continues inside ends reading with ⟨after, later, step⟩
          rw [step] at failed
          have failedLater := error_of_andThen_map failed
          rcases ih failedLater later with ⟨models, last, stand, length⟩
          exact ⟨_ :: models, last, .cons inside rfl ends stand, congrArg Nat.succ length⟩
      · rw [walk, if_neg inside] at failed
        have other : noEndMarker ≠
            .invalidDevice "model chain runs past the register space" := by
          decide
        exact absurd (Except.error.inj failed).symm other

/-! ## Checking a device with a memory -/

/-- What comes of a check: it finds no marker, or it follows the chain, and with the end of it
keeps the models if they are what polling needs. -/
theorem validate_cases_of_reading (reading : Reading memory (gateway.validate wire.logged).2) :
    let base := gateway.device.baseAddress.toNat
    let checked := gateway.validate wire.logged
    ([memory base, memory (base + 1)] ≠ sunspecMarker ∧
        checked.1 = .error (.invalidDevice ("SunS marker not found at " ++ natText base))) ∨
      [memory base, memory (base + 1)] = sunspecMarker ∧
        ∃ after, let walked := walk wire.logged maxModels (base + 2) after
          Reading memory walked.2 ∧
            ((∃ error, walked.1 = .error error ∧ checked.1 = .error error) ∨
              (∃ models error, walked.1 = .ok models ∧
                (ModelMap.mk models).validate = .error error ∧ checked.1 = .error error) ∨
              ∃ models, walked.1 = .ok models ∧ (ModelMap.mk models).validate = .ok () ∧
                checked.1 = .ok () ∧ checked.2.models = some ⟨models⟩ ∧
                checked.2.cache = .empty) := by
  intro base checked
  let marked := gateway.read wire.logged base 2
  have fits : base < addressBound := gateway.device.baseAddress.toNat_lt
  simp only [checked]
  unfold validate at reading ⊢
  cases result : marked.1 with
  | error error =>
      rw [andThen_of_error result] at reading
      cases result.symm.trans (reading.read fits)
  | ok registers =>
      rw [andThen_of_ok result] at reading ⊢
      have whole : registers.take 2 = registers :=
        List.take_of_length_le (Nat.le_of_eq (length_of_read result))
      by_cases found : isMarker registers = true
      · let walked := walk wire.logged maxModels (base + 2) marked.2
        rw [if_pos found] at reading ⊢
        have followed : Reading memory walked.2 := by
          cases ended : walked.1 with
          | error error => rwa [andThen_of_error ended] at reading
          | ok models =>
              rw [andThen_of_ok ended] at reading
              split at reading
              · exact reading
              · exact ⟨reading.running, reading.linked, reading.shown⟩
        cases result.symm.trans (followed.of_walk.read fits)
        refine .inr ⟨(isMarker_iff _).mp found, marked.2, followed, ?_⟩
        cases ended : walked.1 with
        | error error => exact .inl ⟨error, rfl, by rw [andThen_of_error ended]⟩
        | ok models =>
            rw [andThen_of_ok ended]
            cases valid : (ModelMap.mk models).validate with
            | error error => exact .inr (.inl ⟨models, error, rfl, valid, rfl⟩)
            | ok _ => exact .inr (.inr ⟨models, rfl, valid, rfl, rfl, rfl⟩)
      · rw [if_neg found] at reading ⊢
        cases result.symm.trans (reading.read fits)
        exact .inl ⟨fun same => found ((isMarker_iff _).mpr same), rfl⟩

/-- A check of a chain that ends succeeds exactly if a walk reaches its end and the models are
what polling needs. -/
theorem validate_of_endsIn {map : ModelMap}
    (ends : map.EndsIn memory gateway.device.baseAddress.toNat last)
    (reading : Reading memory (gateway.validate wire.logged).2) :
    let checked := gateway.validate wire.logged
    (checked.1 = .ok () ↔ map.models.length < maxModels ∧ map.Sufficient) ∧
      (checked.1 = .ok () → checked.2.models = some map ∧ checked.2.cache = .empty) := by
  intro checked
  rcases validate_cases_of_reading reading with ⟨unmarked, -⟩ | ⟨-, after, followed, outcome⟩
  · exact absurd ends.marker unmarked
  have failure {error : GatewayError} (failed : checked.1 = .error error)
      (unmet : ¬ (map.models.length < maxModels ∧ map.Sufficient)) :
      (checked.1 = .ok () ↔ map.models.length < maxModels ∧ map.Sufficient) ∧
        (checked.1 = .ok () → checked.2.models = some map ∧ checked.2.cache = .empty) := by
    rw [failed]
    exact ⟨iff_of_false nofun unmet, nofun⟩
  by_cases few : map.models.length < maxModels
  · have walked := walk_of_ends ends.models ends.inside ends.ends few followed
    rcases outcome with ⟨error, failed, -⟩ | ⟨models, error, same, invalid, failed⟩ |
      ⟨models, same, valid, done, kept, emptied⟩
    · cases walked.symm.trans failed
    · cases walked.symm.trans same
      refine failure failed fun ⟨_, sufficient⟩ => ?_
      cases invalid.symm.trans sufficient.valid
    · cases walked.symm.trans same
      have accepted : map.Accepted := ⟨valid, nextAddress_le_of_walk walked⟩
      exact ⟨iff_of_true done ⟨few, accepted.sufficient⟩, fun _ => ⟨kept, emptied⟩⟩
  · have gaveUp := walk_of_many ends.models (Nat.le_of_not_lt few) followed
    rcases outcome with ⟨error, -, failed⟩ | ⟨models, error, walked, -⟩ | ⟨models, walked, -⟩
    · exact failure failed fun ⟨fewer, _⟩ => few fewer
    · cases gaveUp.symm.trans walked
    · cases gaveUp.symm.trans walked

/-- A check gives up exactly at a chain of as many models as it may follow. -/
theorem validate_eq_noEndMarker_iff (reading : Reading memory (gateway.validate wire.logged).2) :
    (gateway.validate wire.logged).1 = .error noEndMarker ↔
      ∃ (map : ModelMap) (last : Nat),
        map.LieIn memory gateway.device.baseAddress.toNat last ∧
          map.models.length = maxModels := by
  rcases validate_cases_of_reading reading with
    ⟨unmarked, failed⟩ | ⟨marked, after, followed, outcome⟩
  · constructor
    · intro gaveUp
      have other := Except.error.inj (failed.symm.trans gaveUp)
      exact absurd other (invalidDevice_ne_noEndMarker (by simp))
    · rintro ⟨map, last, lie, -⟩
      exact absurd lie.marker unmarked
  constructor
  · intro gaveUp
    have gaveUpWalk : (walk wire.logged maxModels (gateway.device.baseAddress.toNat + 2) after).1 =
        .error noEndMarker := by
      rcases outcome with ⟨error, walked, failed⟩ | ⟨models, error, -, invalid, failed⟩ |
        ⟨models, -, -, done, -⟩
      · cases failed.symm.trans gaveUp
        exact walked
      · cases failed.symm.trans gaveUp
        exact absurd invalid (ModelMap.validate_ne_noEndMarker _)
      · cases done.symm.trans gaveUp
    rcases standIn_of_walk gaveUpWalk followed with ⟨models, last, stand, length⟩
    exact ⟨⟨models⟩, last, ⟨marked, stand⟩, length⟩
  · rintro ⟨map, last, lie, length⟩
    have gaveUp := walk_of_many lie.models length.ge followed
    rcases outcome with ⟨error, walked, failed⟩ | ⟨models, error, walked, -⟩ | ⟨models, walked, -⟩
    · cases gaveUp.symm.trans walked
      exact failed
    · cases gaveUp.symm.trans walked
    · cases gaveUp.symm.trans walked

/-- A check of a device over a link that is up, all of whose requests are answered from a
memory, whatever the memory holds and wherever the marker stands in it:

* with a chain of models up to an end marker it succeeds exactly if these are fewer than 64 and
  hold what polling needs, and then it keeps them and empties the cache;
* it gives up for want of an end marker exactly at a chain of 64 models, whatever stands
  behind them. -/
theorem validate_memory (wire : Wire δ) (gateway : ModbusGateway δ) (memory : Nat → UInt16)
    (running : gateway.supervisor.shuttingDown = false)
    (linked : gateway.supervisor.linked = true)
    (answered : ∀ exchange ∈ (gateway.logged.validate wire.logged).2.line.log,
      exchange.Shows memory) :
    let base := gateway.device.baseAddress.toNat
    let checked := gateway.validate wire
    (∀ (map : ModelMap) (last : Nat), map.EndsIn memory base last →
        (checked.1 = .ok () ↔ map.models.length < maxModels ∧ map.Sufficient) ∧
          (checked.1 = .ok () → checked.2.models = some map ∧ checked.2.cache = .empty)) ∧
      (checked.1 = .error (.invalidDevice "no end marker after 64 models") ↔
        ∃ (map : ModelMap) (last : Nat),
          map.LieIn memory base last ∧ map.models.length = maxModels) := by
  intro base checked
  have supervisor_eq := supervisor_ask wire.logged .validate gateway.logged
  have reading : Reading memory (gateway.logged.validate wire.logged).2 :=
    ⟨(congrArg Supervisor.shuttingDown supervisor_eq).trans running,
      (congrArg Supervisor.linked supervisor_eq).trans linked, answered⟩
  have forgotten : checked = shown (gateway.logged.validate wire.logged) :=
    validate_forget wire gateway.logged
  have gaveUp : GatewayError.invalidDevice "no end marker after 64 models" = noEndMarker := by
    decide
  rw [forgotten, gaveUp]
  exact ⟨fun map last ends => validate_of_endsIn ends reading,
    validate_eq_noEndMarker_iff reading⟩

/-! ## Devices with many models -/

/-- The models of a device with an identity, an inverter and models of its own behind them,
four registers each. -/
def manyModels (count : Nat) : ModelMap :=
  ⟨⟨1, 40004, 66⟩ :: ⟨103, 40072, 50⟩ ::
    (List.range count).map fun index => ⟨64001, UInt16.ofNat (40124 + 6 * index), 4⟩⟩

/-- The memory of this device. -/
def memoryOfMany (count address : Nat) : UInt16 :=
  if address < 40122 then
    (sunspecMarker ++ [1, 66] ++ List.replicate 66 0 ++ [103, 50]).getD (address - 40000) 0
  else if address = 40122 + 6 * count then endModelId
  else [64001, 4].getD ((address - 40122) % 6) 0

/-- A gateway that has connected to this device. -/
def connectedTo (count : Nat) : ModbusGateway Unit :=
  (initial ⟨"inverter", .tcp "localhost" 502, 1, 40000, 1000, .default⟩ ()).applyAll
    (memoryWire (memoryOfMany count)) [.connect, .supervise 0, .supervise 0]

theorem sufficient_manyModels (count : Nat) : (manyModels count).Sufficient where
  common := ⟨⟨1, 40004, 66⟩, rfl, by decide⟩
  inverter := ⟨⟨103, 40072, 50⟩, .scaledInteger, rfl, rfl, by decide⟩

/-- A device with 63 models passes the check. -/
theorem sixty_three_models_accepted :
    let gateway := connectedTo 61
    gateway.supervisor.linked = true ∧ (manyModels 61).models.length = 63 ∧
      (gateway.validate (memoryWire (memoryOfMany 61))).1 = .ok () := by
  intro gateway
  have linked : gateway.supervisor.linked = true := by decide +kernel
  have checks := validate_memory (memoryWire (memoryOfMany 61)) gateway (memoryOfMany 61)
    (by decide +kernel) linked (by decide +kernel)
  have ends : (manyModels 61).EndsIn (memoryOfMany 61) 40000 40488 :=
    ⟨⟨by decide +kernel, by decide +kernel⟩, by decide, by decide +kernel⟩
  have accepted := (checks.1 (manyModels 61) 40488 ends).1
  exact ⟨linked, by decide +kernel, accepted.mpr ⟨by decide +kernel, sufficient_manyModels 61⟩⟩

/-- A device with 64 models does not, although its chain ends behind them. -/
theorem sixty_four_models_refused :
    let gateway := connectedTo 62
    let wire := memoryWire (memoryOfMany 62)
    gateway.supervisor.shuttingDown = false ∧ gateway.supervisor.linked = true ∧
      (∀ exchange ∈ (gateway.logged.validate wire.logged).2.line.log,
        exchange.Shows (memoryOfMany 62)) ∧
      (manyModels 62).EndsIn (memoryOfMany 62) 40000 40494 ∧
      (manyModels 62).models.length = maxModels ∧ (manyModels 62).Sufficient ∧
      (gateway.validate wire).1 = .error (.invalidDevice "no end marker after 64 models") := by
  intro gateway wire
  refine ⟨by decide +kernel, by decide +kernel, by decide +kernel,
    ⟨⟨by decide +kernel, by decide +kernel⟩, by decide, by decide +kernel⟩, by decide +kernel,
    sufficient_manyModels 62, by decide +kernel⟩

end ModbusGateway

end InverterBridge
