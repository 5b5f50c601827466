import InverterBridge.Proofs.Document.Values
import InverterBridge.Proofs.Modbus.Freshness

/-!
# Published measurements are read again

The document that an update of the measurements dispatches is read as a document of the same
snapshot exactly if the rounded measurements are finite (`Poller.dispatched_values_read_back`).
The registers of a device can hold measurements that are not: the single-precision layout has
infinities, which unlike NaN do not mark a point as not implemented, and a scale factor can be too
large for a double.  A document with such a number is refused
(`Poller.infinite_power_not_read_back`), or read without it if it is the energy of an input.
-/

namespace InverterBridge

namespace ValuesDocument

/-! ## Documents of snapshots -/

/-- A document has the time of a snapshot and its phases and inputs in their order, numbered from
one, with an energy exactly where the snapshot has one. -/
structure Describes (document : ValuesDocument) (snapshot : ValueSnapshot) : Prop where
  time : document.time = snapshot.time
  phases : document.phases.map (·.id.toNat) = List.range' 1 snapshot.phases.length
  inputs : document.inputs.map (·.id.toNat) = List.range' 1 snapshot.inputs.length
  energies : document.inputs.map (·.energy.isSome) = snapshot.inputs.map (·.energy.isSome)

variable {snapshot : ValueSnapshot} {document : ValuesDocument}

/-- Numbered entries are the entries in their order with the numbers from one upwards. -/
theorem numbered?_eq_some {α : Type} {entries : List α} {numbered : List (UInt8 × α)}
    (found : numbered? entries = some numbered) :
    numbered.map (·.1.toNat) = List.range' 1 entries.length ∧
      numbered.map Prod.snd = entries := by
  unfold numbered? at found
  split at found
  case isTrue few =>
    cases found
    constructor
    · apply List.ext_getElem
      · simp
      · intro index _ inside
        rw [List.length_range'] at inside
        simp only [List.getElem_map, List.getElem_mapIdx, List.getElem_range', Nat.one_mul,
          Nat.add_comm 1]
        exact UInt8.toNat_ofNat_of_lt' (show index + 1 < 256 by omega)
    · apply List.ext_getElem <;> simp
  case isFalse => cases found

/-- What the document of a snapshot is made of. -/
theorem ofSnapshot?_eq_some (made : ofSnapshot? snapshot = some document) :
    ∃ phases inputs, numbered? snapshot.phases = some phases ∧
      numbered? snapshot.inputs = some inputs ∧ document = {
        time := snapshot.time
        energy := roundTo snapshot.energy 1
        activePower := roundTo snapshot.activePower 1
        apparentPower := roundTo snapshot.apparentPower 1
        reactivePower := roundTo snapshot.reactivePower 1
        powerFactor := roundTo snapshot.powerFactor 1
        phases := phases.map fun (id, phase) => .ofValues id phase
        frequency := roundTo snapshot.frequency 2
        dcPower := roundTo snapshot.dcPower 1
        efficiency := roundTo snapshot.efficiency 1
        inputs := inputs.map fun (id, input) => .ofValues id input } := by
  unfold ofSnapshot? at made
  split at made
  next phases inputs numberedPhases numberedInputs =>
    exact ⟨phases, inputs, numberedPhases, numberedInputs, (Option.some.inj made).symm⟩
  next => cases made

theorem describes_of_ofSnapshot? (made : ofSnapshot? snapshot = some document) :
    document.Describes snapshot := by
  obtain ⟨phases, inputs, numberedPhases, numberedInputs, rfl⟩ := ofSnapshot?_eq_some made
  obtain ⟨phaseNumbers, -⟩ := numbered?_eq_some numberedPhases
  obtain ⟨inputNumbers, inputValues⟩ := numbered?_eq_some numberedInputs
  constructor
  · rfl
  · rw [← phaseNumbers, List.map_map]
    rfl
  · rw [← inputNumbers, List.map_map]
    rfl
  · rw [← inputValues, List.map_map, List.map_map]
    refine List.map_congr_left fun entry _ => ?_
    simp [InputEntry.ofValues]

/-- The numbers of a document have been rounded. -/
theorem isRounded_numbers (made : ofSnapshot? snapshot = some document) :
    ∀ number ∈ document.numbers, IsRounded number := by
  have one (value : Float) : IsRounded (roundTo value 1) := isRounded_roundTo value (by simp)
  have two (value : Float) : IsRounded (roundTo value 2) := isRounded_roundTo value (by simp)
  have three (value : Float) : IsRounded (roundTo value 3) := isRounded_roundTo value (by simp)
  obtain ⟨phases, inputs, -, -, rfl⟩ := ofSnapshot?_eq_some made
  rw [numbers, List.forall_mem_append, forall_ownNumbers_iff, List.forall_mem_flatMap]
  refine ⟨⟨one _, one _, one _, one _, one _, two _, one _, one _, ?_⟩, ?_⟩
  · simp only [List.forall_mem_map, PhaseEntry.numbers, PhaseEntry.ofValues]
    simp [two, three]
  · simp only [List.forall_mem_map, InputEntry.numbers, InputEntry.required, InputEntry.ofValues]
    simp [one, two, three]

/-! ## Reading a document -/

/-- What restores the document of a snapshot describes the snapshot exactly if no energy has been
lost. -/
theorem Describes.describes_iff {decoded : ValuesDocument} (described : document.Describes snapshot)
    (restores : document.Restores decoded) :
    decoded.Describes snapshot ↔
      ∀ entry ∈ document.inputs, ∀ number ∈ entry.energy.toList, number.isFinite = true := by
  rw [← energies_kept_iff]
  constructor
  · intro describes
    rw [← restores.energies, describes.energies, described.energies]
  · intro kept
    have phases := congrArg (List.map UInt8.toNat) restores.phases
    have inputs := congrArg (List.map UInt8.toNat) restores.inputs
    rw [List.map_map, List.map_map] at phases inputs
    exact {
      time := restores.time.trans described.time
      phases := phases.trans described.phases
      inputs := inputs.trans described.inputs
      energies := (restores.energies.trans kept).trans described.energies }

section

variable {time : Int64} (taken : snapshot.time = time.toInt)
  (made : ofSnapshot? snapshot = some document)

include taken made

theorem time_eq_of_ofSnapshot? : document.time = time.toInt :=
  (describes_of_ofSnapshot? made).time.trans taken

/-- The text of the document of a snapshot is read exactly if the numbers that it needs are
finite. -/
theorem exists_readStrict_iff :
    (∃ decoded, readStrict ValuesDocument.decode document.text = .ok decoded) ↔
      ∀ number ∈ document.required, number.isFinite = true := by
  rw [text, Json.readStrict_render _ _ document.levels_toJson]
  exact exists_decode_iff (time_eq_of_ofSnapshot? taken made) (isRounded_numbers made)

/-- Whatever is read of the text of the document of a snapshot restores the document. -/
theorem restores_of_readStrict {decoded : ValuesDocument}
    (read : readStrict ValuesDocument.decode document.text = .ok decoded) :
    document.Restores decoded := by
  rw [text, Json.readStrict_render _ _ document.levels_toJson] at read
  exact restores_of_decode (time_eq_of_ofSnapshot? taken made) (isRounded_numbers made) read

/-- The text of the document of a snapshot is read as one that describes the snapshot exactly if
its numbers are finite. -/
theorem exists_describes_iff :
    (∃ decoded, readStrict ValuesDocument.decode document.text = .ok decoded ∧
        document.Restores decoded ∧ decoded.Describes snapshot) ↔
      ∀ number ∈ document.numbers, number.isFinite = true := by
  have described := describes_of_ofSnapshot? made
  rw [forall_numbers_iff, ← exists_readStrict_iff taken made]
  constructor
  · rintro ⟨decoded, read, restores, describes⟩
    exact ⟨⟨decoded, read⟩, (described.describes_iff restores).mp describes⟩
  · rintro ⟨⟨decoded, read⟩, energies⟩
    have restores := restores_of_readStrict taken made read
    exact ⟨decoded, read, restores, (described.describes_iff restores).mpr energies⟩

end

end ValuesDocument

/-! ## Updates of the measurements -/

namespace Poller

variable {γ : Type} {gateway : Gateway γ} {poller : Poller γ} {time : Int}
  {snapshot : ValueSnapshot} {document : ValuesDocument}

/-- An update commits the snapshot that its survey finds, with the text of its document, and
dispatches this text. -/
theorem commits_of_survey (outcome : TickOutcome)
    (surveyed : ((ValueSnapshot.survey time).run gateway poller.gateway).1 = .ok snapshot)
    (written : ValuesDocument.ofSnapshot? snapshot = some document) :
    (poller.tickValues gateway time outcome).2.values = some ⟨snapshot, document.text⟩ ∧
      (poller.tickValues gateway time outcome).2.dispatched = poller.dispatched ++
        (poller.subscribers.lookup .values).toList.map
          (fun subscriber => ⟨.values, subscriber, document.text, poller.state⟩) := by
  have updated : (poller.tickValues gateway time outcome).2 = { poller with
      gateway := ((ValueSnapshot.survey time).run gateway poller.gateway).2
      values := some ⟨snapshot, document.text⟩ }.dispatch .values document.text := by
    simp [tickValues, ask, surveyed, written]
  rw [updated, dispatch]
  cases poller.subscribers.lookup .values <;> simp

/-- **Published measurements are read again if they are finite.** Whatever the registers of a
device hold, an update that finds a snapshot with a document commits the snapshot with the text of
the document and dispatches this text; the snapshot is read from the blocks that the fetch of the
update has read.  The text can be read again exactly if all rounded numbers but the energies of
the inputs are finite, then with the same time, phases and inputs.  It is read as a document of
the snapshot, with an energy for exactly the inputs that have one, exactly if all rounded numbers
are finite. -/
theorem dispatched_values_read_back {δ : Type} (wire : Wire δ) (poller : Poller (ModbusGateway δ))
    (time : Int64) (outcome : TickOutcome) {snapshot : ValueSnapshot} {document : ValuesDocument}
    (surveyed : ((ValueSnapshot.survey time.toInt).run (ModbusGateway.gateway wire)
      poller.gateway).1 = .ok snapshot)
    (written : ValuesDocument.ofSnapshot? snapshot = some document) :
    let after := (poller.tickValues (ModbusGateway.gateway wire) time.toInt outcome).2
    after.values = some ⟨snapshot, document.text⟩ ∧
      after.dispatched = poller.dispatched ++
        (poller.subscribers.lookup .values).toList.map
          (fun subscriber => ⟨.values, subscriber, document.text, poller.state⟩) ∧
      (∃ blocks, FetchedBlocks.ReadIn blocks (poller.gateway.exchanges wire .fetchRegisters) ∧
        snapshot.ReadFrom blocks time.toInt) ∧
      document.Describes snapshot ∧
      ((∃ decoded, readStrict ValuesDocument.decode document.text = .ok decoded) ↔
        ∀ number ∈ document.required, number.isFinite = true) ∧
      (∀ decoded, readStrict ValuesDocument.decode document.text = .ok decoded →
        document.Restores decoded) ∧
      ((∃ decoded, readStrict ValuesDocument.decode document.text = .ok decoded ∧
          document.Restores decoded ∧ decoded.Describes snapshot) ↔
        ∀ number ∈ document.numbers, number.isFinite = true) := by
  intro after
  obtain ⟨blocks, -, read, readFrom⟩ := ModbusGateway.exists_blocks_of_survey surveyed
  obtain ⟨committed, dispatched⟩ := commits_of_survey outcome surveyed written
  exact ⟨committed, dispatched, ⟨blocks, read, readFrom⟩,
    ValuesDocument.describes_of_ofSnapshot? written,
    ValuesDocument.exists_readStrict_iff readFrom.time written,
    fun decoded => ValuesDocument.restores_of_readStrict readFrom.time written,
    ValuesDocument.exists_describes_iff readFrom.time written⟩

/-! ## A device with one phase -/

/-- The registers of a device with one phase in the single-precision layout and this active
power; everything else is zero. -/
def singleRegisters (high low : UInt16) : List UInt16 :=
  sunspecMarker ++ [1, 66] ++ List.replicate 66 0 ++ [111, 50] ++ List.replicate 20 0 ++
    [high, low] ++ List.replicate 28 0 ++ [endModelId, 0]

/-- The wire to this device. -/
def singleWire (high low : UInt16) : Wire Unit :=
  ModbusGateway.memoryWire fun address => (singleRegisters high low).getD (address - 40000) 0

/-- A gateway that has connected to this device and checked it. -/
def singleGateway (high low : UInt16) : ModbusGateway Unit :=
  (ModbusGateway.initial ⟨"inverter", .tcp "localhost" 502, 1, 40000, 1000, .default⟩ ()).applyAll
    (singleWire high low) ModbusGateway.acceptingActs

/-- A connected poller over this gateway with a subscriber. -/
def singlePoller (high low : UInt16) : Poller (ModbusGateway Unit) :=
  { Poller.initial "inverter" (singleGateway high low) with
    state := .connected
    subscribers := [(.values, "bus")] }

/-- The document of an update of this device, if it finds a snapshot with a document. -/
def singleDocument? (high low : UInt16) : Option (ValueSnapshot × ValuesDocument) :=
  ((ValueSnapshot.survey 0).run (ModbusGateway.gateway (singleWire high low))
      (singleGateway high low)).1.toOption.bind fun snapshot =>
    (ValuesDocument.ofSnapshot? snapshot).map (snapshot, ·)

theorem of_singleDocument? {high low : UInt16} {snapshot : ValueSnapshot}
    {document : ValuesDocument} (found : singleDocument? high low = some (snapshot, document)) :
    ((ValueSnapshot.survey (0 : Int64).toInt).run (ModbusGateway.gateway (singleWire high low))
        (singleGateway high low)).1 = .ok snapshot ∧
      ValuesDocument.ofSnapshot? snapshot = some document := by
  rw [singleDocument?, Option.bind_eq_some_iff] at found
  obtain ⟨surveyed, answered, found⟩ := found
  obtain ⟨written, found, pair⟩ := Option.map_eq_some_iff.mp found
  cases pair
  rw [Int64.toInt_zero]
  exact ⟨ModbusGateway.eq_ok_of_toOption answered, found⟩

/-- The measurements of this device are read again if its power is 1500 watts. -/
theorem finite_power_read_back :
    ∃ snapshot document, singleDocument? 0x44BB 0x8000 = some (snapshot, document) ∧
      ∃ decoded, readStrict ValuesDocument.decode document.text = .ok decoded ∧
        document.Restores decoded ∧ decoded.Describes snapshot := by
  have finite : (singleDocument? 0x44BB 0x8000).any
      (fun found => found.2.numbers.all Float.isFinite) = true := by
    decide +kernel
  cases found : singleDocument? 0x44BB 0x8000 with
  | none => simp [found] at finite
  | some pair =>
      obtain ⟨snapshot, document⟩ := pair
      rw [found, Option.any_some, List.all_eq_true] at finite
      obtain ⟨surveyed, written⟩ := of_singleDocument? found
      have law := dispatched_values_read_back (singleWire 0x44BB 0x8000)
        (singlePoller 0x44BB 0x8000) 0 .begun surveyed written
      exact ⟨snapshot, document, rfl, law.2.2.2.2.2.2.mpr finite⟩

/-- The measurements of this device are dispatched but can not be read again if its power is
infinite. -/
theorem infinite_power_not_read_back :
    ∃ snapshot document, singleDocument? 0x7F80 0 = some (snapshot, document) ∧
      ((singlePoller 0x7F80 0).tickValues (ModbusGateway.gateway (singleWire 0x7F80 0))
        (0 : Int64).toInt .begun).2.dispatched =
          [⟨.values, "bus", document.text, .connected⟩] ∧
      ¬ ∃ decoded, readStrict ValuesDocument.decode document.text = .ok decoded := by
  have infinite : (singleDocument? 0x7F80 0).any
      (fun found => !found.2.required.all Float.isFinite) = true := by
    decide +kernel
  cases found : singleDocument? 0x7F80 0 with
  | none => simp [found] at infinite
  | some pair =>
      obtain ⟨snapshot, document⟩ := pair
      rw [found, Option.any_some, Bool.not_eq_true', ← Bool.not_eq_true, List.all_eq_true]
        at infinite
      obtain ⟨surveyed, written⟩ := of_singleDocument? found
      obtain ⟨blocks, -, -, readFrom⟩ := ModbusGateway.exists_blocks_of_survey surveyed
      have dispatched : ((singlePoller 0x7F80 0).tickValues _ _ .begun).2.dispatched = _ :=
        (commits_of_survey .begun surveyed written).2
      refine ⟨snapshot, document, rfl, dispatched, ?_⟩
      rw [ValuesDocument.exists_readStrict_iff readFrom.time written]
      exact infinite

end Poller

end InverterBridge
