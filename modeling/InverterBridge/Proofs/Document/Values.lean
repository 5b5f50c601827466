import InverterBridge.Document.Values
import InverterBridge.Proofs.Json.Records

/-!
# Values documents are read again

A number of a document has been rounded; it is written so that it is read again exactly if it is
finite (`exists_float_iff`), and null is written for any other number.  Null is refused for a
number that a document needs, and read as an absent one for the energy of an input.  Hence a
document is read again exactly if the numbers that it needs are finite
(`ValuesDocument.exists_decode_iff`), without the energies that are not.
-/

namespace InverterBridge

/-! ## Numbers -/

theorem presented_integer {value : Int} (lower : -2 ^ 63 ≤ value) (upper : value < 2 ^ 64) :
    (Json.integer value).presented =
      .number (.ok (.integer value)) (.ok (Float.ofInt value)) := by
  rw [Json.presented, (Strict.isLeaf_intText value).firstNode_eq, Strict.Literal.node,
    Strict.number_ofInt lower upper]
  rfl

/-- A byte is read as it is written. -/
theorem uint8_presented (value : UInt8) :
    Dialect.uint8 .strict (Json.integer value.toNat).presented = .ok value := by
  have small : value.toNat < 256 := value.toNat_lt
  simp only [presented_integer (by omega : (-2 ^ 63 : Int) ≤ value.toNat) (by omega), Dialect.uint8,
    Dialect.integer]
  rw [if_pos (by omega)]
  simp [Except.map]

/-- An unsigned integer of 16 bits is read as it is written. -/
theorem uint16_presented (value : UInt16) :
    Dialect.uint16 .strict (Json.integer value.toNat).presented = .ok value := by
  have small : value.toNat < 65536 := value.toNat_lt
  simp only [presented_integer (by omega : (-2 ^ 63 : Int) ≤ value.toNat) (by omega),
    Dialect.uint16, Dialect.integer]
  rw [if_pos (by omega)]
  simp [Except.map]

/-- An integer of 64 bits is read as it is written. -/
theorem int64_presented (value : Int64) :
    Dialect.int64 .strict (Json.integer value.toInt).presented = .ok value.toInt := by
  have lower := value.le_toInt
  have upper := value.toInt_lt
  simp only [presented_integer lower (by omega), Dialect.int64, Dialect.integer]
  rw [if_pos (by omega)]

/-- A number that is well below the largest double if it is finite.  The reader scales written
digits in doubles, so it could refuse a number closer to the end of the range as too large. -/
def IsRounded (value : Float) : Prop :=
  value.isFinite = true → IsAtMost roundedBound value

theorem isRounded_roundTo (value : Float) {decimals : Int}
    (used : decimals = 1 ∨ decimals = 2 ∨ decimals = 3) : IsRounded (roundTo value decimals) :=
  isAtMost_roundTo used

/-- A rounded number is read again exactly if it is finite. -/
theorem exists_float_iff {value : Float} (rounded : IsRounded value) :
    (∃ read, Dialect.float .strict (Json.float value).presented = .ok read) ↔
      value.isFinite = true := by
  rw [Json.presented]
  constructor
  · rintro ⟨read, decoded⟩
    by_contra notFinite
    rw [Strict.firstNode_of_not_finite (by simpa using notFinite)] at decoded
    cases decoded
  · intro finite
    obtain ⟨read, presented⟩ := Strict.firstNode_of_isAtMost (rounded finite)
    exact ⟨read, by rw [presented]; rfl⟩

/-- An optional number is read as a number if it is finite, and as an absent one otherwise. -/
theorem exists_optional_float {value : Float} (rounded : IsRounded value) :
    ∃ read, Dialect.optional (Dialect.float .strict) (Json.float value).presented = .ok read ∧
      read.isSome = value.isFinite := by
  rw [Json.presented]
  cases finite : value.isFinite with
  | false =>
      rw [Strict.firstNode_of_not_finite finite]
      exact ⟨none, rfl, rfl⟩
  | true =>
      obtain ⟨read, presented⟩ := Strict.firstNode_of_isAtMost (rounded finite)
      exact ⟨some read, by rw [presented]; rfl, rfl⟩

/-! ## Entries -/

theorem exists_forall₂_iff {α β : Type} {reads : α → β → Prop} {items : List α} :
    (∃ values, List.Forall₂ reads items values) ↔ ∀ item ∈ items, ∃ value, reads item value := by
  induction items with
  | nil => simp
  | cons item items ih =>
      rw [List.forall_mem_cons, ← ih]
      simp only [List.forall₂_cons_left_iff]
      constructor
      · rintro ⟨-, value, values, read, rest, rfl⟩
        exact ⟨⟨value, read⟩, ⟨values, rest⟩⟩
      · rintro ⟨⟨value, read⟩, ⟨values, rest⟩⟩
        exact ⟨_, value, values, read, rest, rfl⟩

/-- Two lists look the same if their entries do one by one. -/
theorem map_eq_map_of_forall₂ {α β γ : Type} {view : α → γ} {seen : β → γ} {items : List α}
    {values : List β}
    (same : List.Forall₂ (fun item value => seen value = view item) items values) :
    values.map seen = items.map view := by
  rw [← List.forall₂_eq_eq_eq, List.forall₂_map_left_iff, List.forall₂_map_right_iff]
  exact same.flip

namespace PhaseEntry

/-- The numbers of an entry. -/
def numbers (entry : PhaseEntry) : List Float :=
  [entry.voltage, entry.current]

theorem decode_iff {entry decoded : PhaseEntry} :
    decode .strict entry.toJson.presented = .ok decoded ↔
      Dialect.float .strict (Json.float entry.voltage).presented = .ok decoded.voltage ∧
        Dialect.float .strict (Json.float entry.current).presented = .ok decoded.current ∧
          entry.id = decoded.id := by
  refine (Dialect.record_presented_iff ?_ ?_ ?_).trans ?_
  · exact .seq (.seq (.map (.single ..) _) (.single ..)) (.single ..)
  · simp
  · exact List.Subset.refl _
  · obtain ⟨id, voltage, current⟩ := decoded
    simp [Fields.fromMembers_seq_iff, Fields.fromMembers_map_iff, Fields.fromMembers_required_iff,
      List.lookup, uint8_presented]

/-- An entry is read again exactly if its numbers are finite. -/
theorem exists_decode_iff {entry : PhaseEntry}
    (rounded : ∀ number ∈ entry.numbers, IsRounded number) :
    (∃ decoded, decode .strict entry.toJson.presented = .ok decoded) ↔
      ∀ number ∈ entry.numbers, number.isFinite = true := by
  simp only [numbers, List.mem_cons, List.not_mem_nil, or_false, forall_eq_or_imp, forall_eq]
    at rounded ⊢
  rw [← exists_float_iff rounded.1, ← exists_float_iff rounded.2]
  constructor
  · rintro ⟨decoded, read⟩
    obtain ⟨voltage, current, -⟩ := decode_iff.mp read
    exact ⟨⟨_, voltage⟩, ⟨_, current⟩⟩
  · rintro ⟨⟨voltage, readVoltage⟩, ⟨current, readCurrent⟩⟩
    exact ⟨⟨entry.id, voltage, current⟩, decode_iff.mpr ⟨readVoltage, readCurrent, rfl⟩⟩

end PhaseEntry

namespace InputEntry

/-- The numbers that an entry needs. -/
def required (entry : InputEntry) : List Float :=
  [entry.voltage, entry.current, entry.power]

/-- The numbers of an entry. -/
def numbers (entry : InputEntry) : List Float :=
  entry.required ++ entry.energy.toList

/-- Whether an entry has an energy that is finite. -/
def hasFiniteEnergy (entry : InputEntry) : Bool :=
  entry.energy.any Float.isFinite

/-- A known energy is read as a number or null, and one that is not known is none. -/
def ReadsEnergy : Option Float → Option Float → Prop
  | none, decoded => none = decoded
  | some energy, decoded =>
      Dialect.optional (Dialect.float .strict) (Json.float energy).presented = .ok decoded

theorem decode_iff {entry decoded : InputEntry} :
    decode .strict entry.toJson.presented = .ok decoded ↔
      Dialect.float .strict (Json.float entry.voltage).presented = .ok decoded.voltage ∧
        Dialect.float .strict (Json.float entry.current).presented = .ok decoded.current ∧
          Dialect.float .strict (Json.float entry.power).presented = .ok decoded.power ∧
            ReadsEnergy entry.energy decoded.energy ∧ entry.id = decoded.id := by
  refine (Dialect.record_presented_iff ?_ ?_ ?_).trans ?_
  · exact .seq (.seq (.seq (.seq (.map (.single ..) _) (.single ..)) (.single ..)) (.single ..))
      (.single ..)
  · cases entry.energy <;> simp
  · cases entry.energy with
    | none =>
        change ["id", "dc_voltage", "dc_current", "dc_power"] ⊆
          ["id", "dc_voltage", "dc_current", "dc_power", "dc_energy"]
        simp
    | some energy => exact List.Subset.refl _
  · obtain ⟨id, voltage, current, power, energy⟩ := decoded
    cases entry.energy <;>
      simp [Fields.fromMembers_seq_iff, Fields.fromMembers_map_iff,
        Fields.fromMembers_required_iff, Fields.fromMembers_withDefault_iff, List.lookup,
        uint8_presented, and_assoc, ReadsEnergy]
    exact fun _ _ _ => and_comm

theorem ReadsEnergy.unique {energy first second : Option Float}
    (one : ReadsEnergy energy first) (other : ReadsEnergy energy second) : first = second := by
  cases energy with
  | none => exact one.symm.trans other
  | some number => exact Except.ok.inj (one.symm.trans other)

theorem exists_readsEnergy {energy : Option Float}
    (rounded : ∀ number ∈ energy.toList, IsRounded number) :
    ∃ decoded, ReadsEnergy energy decoded ∧ decoded.isSome = energy.any Float.isFinite := by
  cases energy with
  | none => exact ⟨none, rfl, rfl⟩
  | some number => exact exists_optional_float (rounded number (by simp))

/-- The energy of an entry is read exactly if it is finite. -/
theorem hasFiniteEnergy_of_decode {entry decoded : InputEntry}
    (rounded : ∀ number ∈ entry.numbers, IsRounded number)
    (read : decode .strict entry.toJson.presented = .ok decoded) :
    decoded.energy.isSome = entry.hasFiniteEnergy := by
  obtain ⟨-, -, -, reads, -⟩ := decode_iff.mp read
  rw [numbers, List.forall_mem_append] at rounded
  obtain ⟨energy, readsToo, known⟩ := exists_readsEnergy rounded.2
  rw [hasFiniteEnergy, ← known, reads.unique readsToo]

/-- An entry is read again exactly if the numbers that it needs are finite. -/
theorem exists_decode_iff {entry : InputEntry}
    (rounded : ∀ number ∈ entry.numbers, IsRounded number) :
    (∃ decoded, decode .strict entry.toJson.presented = .ok decoded) ↔
      ∀ number ∈ entry.required, number.isFinite = true := by
  rw [numbers, List.forall_mem_append] at rounded
  obtain ⟨energy, readEnergy, -⟩ := exists_readsEnergy rounded.2
  have others := rounded.1
  simp only [required, List.mem_cons, List.not_mem_nil, or_false, forall_eq_or_imp, forall_eq]
    at others ⊢
  rw [← exists_float_iff others.1, ← exists_float_iff others.2.1, ← exists_float_iff others.2.2]
  constructor
  · rintro ⟨decoded, read⟩
    obtain ⟨voltage, current, power, -⟩ := decode_iff.mp read
    exact ⟨⟨_, voltage⟩, ⟨_, current⟩, ⟨_, power⟩⟩
  · rintro ⟨⟨voltage, readVoltage⟩, ⟨current, readCurrent⟩, ⟨power, readPower⟩⟩
    exact ⟨⟨entry.id, voltage, current, power, energy⟩,
      decode_iff.mpr ⟨readVoltage, readCurrent, readPower, readEnergy, rfl⟩⟩

end InputEntry

/-! ## Documents -/

namespace ValuesDocument

/-- The numbers of a document outside its inputs. -/
def ownNumbers (document : ValuesDocument) : List Float :=
  [document.energy, document.activePower, document.apparentPower, document.reactivePower,
    document.powerFactor, document.frequency, document.dcPower, document.efficiency] ++
  document.phases.flatMap PhaseEntry.numbers

/-- The numbers that a document needs. -/
def required (document : ValuesDocument) : List Float :=
  document.ownNumbers ++ document.inputs.flatMap InputEntry.required

/-- The numbers of a document. -/
def numbers (document : ValuesDocument) : List Float :=
  document.ownNumbers ++ document.inputs.flatMap InputEntry.numbers

theorem decode_iff {document decoded : ValuesDocument} :
    decode .strict document.toJson.presented = .ok decoded ↔
      Dialect.int64 .strict (Json.integer document.time).presented = .ok decoded.time ∧
      Dialect.float .strict (Json.float document.energy).presented = .ok decoded.energy ∧
      Dialect.float .strict (Json.float document.activePower).presented =
        .ok decoded.activePower ∧
      Dialect.float .strict (Json.float document.apparentPower).presented =
        .ok decoded.apparentPower ∧
      Dialect.float .strict (Json.float document.reactivePower).presented =
        .ok decoded.reactivePower ∧
      Dialect.float .strict (Json.float document.powerFactor).presented =
        .ok decoded.powerFactor ∧
      List.Forall₂ (fun entry read =>
        PhaseEntry.decode .strict entry.toJson.presented = .ok read)
        document.phases decoded.phases ∧
      Dialect.float .strict (Json.float document.frequency).presented = .ok decoded.frequency ∧
      Dialect.float .strict (Json.float document.dcPower).presented = .ok decoded.dcPower ∧
      Dialect.float .strict (Json.float document.efficiency).presented = .ok decoded.efficiency ∧
      List.Forall₂ (fun entry read =>
        InputEntry.decode .strict entry.toJson.presented = .ok read)
        document.inputs decoded.inputs := by
  refine (Dialect.record_presented_iff ?_ ?_ ?_).trans ?_
  -- Every field checks what it decodes, no name is repeated, and every member has a field.
  · exact .seq (.seq (.seq (.seq (.seq (.seq (.seq (.seq (.seq (.seq (.map (.single ..) _)
      (.single ..)) (.single ..)) (.single ..)) (.single ..)) (.single ..)) (.single ..))
      (.single ..)) (.single ..)) (.single ..)) (.single ..)
  · simp
  · exact List.Subset.refl _
  · obtain ⟨time, energy, activePower, apparentPower, reactivePower, powerFactor, phases, frequency,
      dcPower, efficiency, inputs⟩ := decoded
    simp only [List.lookup, Fields.fromMembers_seq_iff, Fields.fromMembers_map_iff,
      Fields.fromMembers_required_iff, BEq.rfl, String.reduceBEq, Option.map_some,
      Option.some.injEq, exists_eq_left', exists_and_left, exists_exists_and_eq_and,
      exists_exists_and_exists_and_eq_and, ↓existsAndEq, and_true, and_assoc,
      Dialect.list_presented_iff, List.forall₂_map_left_iff, mk.injEq]

/-- A document that was read has the time of another and its phases and inputs in their order,
with an energy exactly where there is a finite one. -/
structure Restores (document decoded : ValuesDocument) : Prop where
  time : decoded.time = document.time
  phases : decoded.phases.map PhaseEntry.id = document.phases.map PhaseEntry.id
  inputs : decoded.inputs.map InputEntry.id = document.inputs.map InputEntry.id
  energies : decoded.inputs.map (·.energy.isSome) =
    document.inputs.map InputEntry.hasFiniteEnergy

/-- What holds of the numbers of a document outside its inputs. -/
theorem forall_ownNumbers_iff {document : ValuesDocument} {holds : Float → Prop} :
    (∀ number ∈ document.ownNumbers, holds number) ↔
      holds document.energy ∧ holds document.activePower ∧ holds document.apparentPower ∧
      holds document.reactivePower ∧ holds document.powerFactor ∧ holds document.frequency ∧
      holds document.dcPower ∧ holds document.efficiency ∧
      ∀ entry ∈ document.phases, ∀ number ∈ entry.numbers, holds number := by
  simp only [ownNumbers, List.forall_mem_append, List.forall_mem_cons, List.forall_mem_flatMap]
  simp [and_assoc]

/-- Whatever is read of a document restores it. -/
theorem restores_of_decode {document decoded : ValuesDocument} {time : Int64}
    (time_eq : document.time = time.toInt)
    (rounded : ∀ number ∈ document.numbers, IsRounded number)
    (read : decode .strict document.toJson.presented = .ok decoded) :
    document.Restores decoded := by
  rw [numbers, List.forall_mem_append, List.forall_mem_flatMap] at rounded
  obtain ⟨readTime, -, -, -, -, -, phases, -, -, -, inputs⟩ := decode_iff.mp read
  have inputsRounded := (List.forall₂_and_left _ _).mpr ⟨rounded.2, inputs⟩
  rw [time_eq, int64_presented] at readTime
  exact {
    time := (Except.ok.inj readTime).symm.trans time_eq.symm
    phases := map_eq_map_of_forall₂ <|
      phases.imp fun _ _ read => (PhaseEntry.decode_iff.mp read).2.2.symm
    inputs := map_eq_map_of_forall₂ <|
      inputs.imp fun _ _ read => (InputEntry.decode_iff.mp read).2.2.2.2.symm
    energies := map_eq_map_of_forall₂ <|
      inputsRounded.imp fun _ _ read => InputEntry.hasFiniteEnergy_of_decode read.1 read.2 }

theorem exists_phases_iff {phases : List PhaseEntry}
    (rounded : ∀ entry ∈ phases, ∀ number ∈ entry.numbers, IsRounded number) :
    (∃ decoded, List.Forall₂ (fun entry read =>
        PhaseEntry.decode .strict entry.toJson.presented = .ok read) phases decoded) ↔
      ∀ entry ∈ phases, ∀ number ∈ entry.numbers, number.isFinite = true := by
  rw [exists_forall₂_iff]
  exact forall₂_congr fun entry listed => PhaseEntry.exists_decode_iff (rounded entry listed)

theorem exists_inputs_iff {inputs : List InputEntry}
    (rounded : ∀ entry ∈ inputs, ∀ number ∈ entry.numbers, IsRounded number) :
    (∃ decoded, List.Forall₂ (fun entry read =>
        InputEntry.decode .strict entry.toJson.presented = .ok read) inputs decoded) ↔
      ∀ entry ∈ inputs, ∀ number ∈ entry.required, number.isFinite = true := by
  rw [exists_forall₂_iff]
  exact forall₂_congr fun entry listed => InputEntry.exists_decode_iff (rounded entry listed)

/-- A document is read again exactly if the numbers that it needs are finite. -/
theorem exists_decode_iff {document : ValuesDocument} {time : Int64}
    (time_eq : document.time = time.toInt)
    (rounded : ∀ number ∈ document.numbers, IsRounded number) :
    (∃ decoded, decode .strict document.toJson.presented = .ok decoded) ↔
      ∀ number ∈ document.required, number.isFinite = true := by
  rw [numbers, List.forall_mem_append, List.forall_mem_flatMap, forall_ownNumbers_iff] at rounded
  rw [required, List.forall_mem_append, List.forall_mem_flatMap, forall_ownNumbers_iff]
  obtain ⟨⟨energy, activePower, apparentPower, reactivePower, powerFactor, frequency, dcPower,
    efficiency, phases⟩, inputs⟩ := rounded
  have readTime : Dialect.int64 .strict (Json.integer document.time).presented =
      .ok document.time := time_eq ▸ int64_presented time
  rw [← exists_float_iff energy, ← exists_float_iff activePower, ← exists_float_iff apparentPower,
    ← exists_float_iff reactivePower, ← exists_float_iff powerFactor, ← exists_float_iff frequency,
    ← exists_float_iff dcPower, ← exists_float_iff efficiency, ← exists_phases_iff phases,
    ← exists_inputs_iff inputs]
  constructor
  · rintro ⟨decoded, read⟩
    obtain ⟨-, energy, activePower, apparentPower, reactivePower, powerFactor, phases, frequency,
      dcPower, efficiency, inputs⟩ := decode_iff.mp read
    exact ⟨⟨⟨_, energy⟩, ⟨_, activePower⟩, ⟨_, apparentPower⟩, ⟨_, reactivePower⟩,
      ⟨_, powerFactor⟩, ⟨_, frequency⟩, ⟨_, dcPower⟩, ⟨_, efficiency⟩,
      ⟨_, phases⟩⟩, ⟨_, inputs⟩⟩
  · rintro ⟨⟨⟨energy, readEnergy⟩, ⟨activePower, readActive⟩, ⟨apparentPower, readApparent⟩,
      ⟨reactivePower, readReactive⟩, ⟨powerFactor, readFactor⟩, ⟨frequency, readFrequency⟩,
      ⟨dcPower, readPower⟩, ⟨efficiency, readEfficiency⟩, ⟨phases, readPhases⟩⟩,
      ⟨inputs, readInputs⟩⟩
    exact ⟨⟨document.time, energy, activePower, apparentPower, reactivePower, powerFactor, phases,
        frequency, dcPower, efficiency, inputs⟩,
      decode_iff.mpr ⟨readTime, readEnergy, readActive, readApparent, readReactive, readFactor,
        readPhases, readFrequency, readPower, readEfficiency, readInputs⟩⟩

/-- The energies of a document are kept exactly if they are finite. -/
theorem energies_kept_iff {document : ValuesDocument} :
    document.inputs.map InputEntry.hasFiniteEnergy = document.inputs.map (·.energy.isSome) ↔
      ∀ entry ∈ document.inputs, ∀ number ∈ entry.energy.toList, number.isFinite = true := by
  rw [List.map_inj_left]
  refine forall₂_congr fun entry _ => ?_
  rw [InputEntry.hasFiniteEnergy]
  cases entry.energy <;> simp

theorem forall_numbers_iff {document : ValuesDocument} {holds : Float → Prop} :
    (∀ number ∈ document.numbers, holds number) ↔
      (∀ number ∈ document.required, holds number) ∧
        ∀ entry ∈ document.inputs, ∀ number ∈ entry.energy.toList, holds number := by
  simp only [numbers, required, InputEntry.numbers, List.forall_mem_append,
    List.forall_mem_flatMap, forall_and, and_assoc]

theorem levels_toJson (document : ValuesDocument) : document.toJson.levels ≤ readableLevels := by
  have phases : Json.levelsOfItems (document.phases.map PhaseEntry.toJson) ≤ 1 :=
    Json.levelsOfItems_le fun item found => by
      obtain ⟨entry, -, rfl⟩ := List.mem_map.mp found
      exact le_refl 1
  have inputs : Json.levelsOfItems (document.inputs.map InputEntry.toJson) ≤ 1 :=
    Json.levelsOfItems_le fun item found => by
      obtain ⟨entry, -, rfl⟩ := List.mem_map.mp found
      rw [InputEntry.toJson]
      cases entry.energy <;> exact le_refl 1
  simp only [toJson, Json.levels, Json.levelsOfMembers, readableLevels]
  omega

end ValuesDocument

end InverterBridge
