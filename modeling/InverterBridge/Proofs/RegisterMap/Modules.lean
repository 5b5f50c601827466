import InverterBridge.Proofs.RegisterMap.Encoding
import InverterBridge.RegisterMap.Inputs

/-!
# The modules of an input block

The device declares how many modules its input block has, and the block may hold fewer or more.
The modules that count are the declared ones that fit (`le_moduleCount_iff`).  Each of them is read
inside the list, from the head and its own twenty registers, so the modules do not disturb each
other (`modules_as_encoded`).
-/

namespace InverterBridge

namespace DcPoint

/-- How a quantity of a module is encoded. -/
def encoding : DcPoint → IntegerEncoding
  | .energy => .accumulator
  | _ => .unsigned

/-- The quantities stand in a module in the order of their scale factors. -/
theorem moduleOffset_eq (point : DcPoint) : point.moduleOffset = 9 + point.scaleOffset := by
  cases point <;> rfl

/-- The point of a quantity in the module of an index. -/
def scaledPoint (point : DcPoint) (index : Nat) : ScaledPoint :=
  ⟨point.encoding, InputBlock.offset index point, point.scaleOffset⟩

end DcPoint

namespace InputBlock

/-- The offsets of a module. -/
def moduleOffsets (index : Nat) : List Nat :=
  List.range' (inputHeadLength + index * inputModuleLength) inputModuleLength

/-- The offsets of the scale factors. -/
def scaleOffsets : List Nat :=
  [0, 1, 2, 3]

theorem mem_moduleOffsets {index offset : Nat} :
    offset ∈ moduleOffsets index ↔ 8 + 20 * index ≤ offset ∧ offset < 8 + 20 * (index + 1) := by
  simp only [moduleOffsets, inputHeadLength, inputModuleLength, List.mem_range'_1]
  omega

theorem lt_of_mem_scaleOffsets {offset : Nat} (placed : offset ∈ scaleOffsets) : offset < 4 := by
  have all_placed : ∀ offset ∈ scaleOffsets, offset < 4 := by decide
  exact all_placed offset placed

theorem scaleOffset_mem (point : DcPoint) : point.scaleOffset ∈ scaleOffsets := by
  cases point <;> decide

/-- A quantity of a module stands in the module, and its scale factor in the head. -/
theorem mem_of_mem_offsets {point : DcPoint} {index offset : Nat}
    (placed : offset ∈ (point.scaledPoint index).offsets) :
    offset ∈ moduleOffsets index ∨ offset ∈ scaleOffsets := by
  rcases List.mem_append.mp placed with value | scale
  · left
    rw [mem_moduleOffsets]
    cases point <;>
      simp only [ScaledPoint.valueOffsets, DcPoint.scaledPoint, DcPoint.encoding,
        IntegerEncoding.width, InputBlock.offset, DcPoint.moduleOffset, inputHeadLength,
        inputModuleLength, List.mem_range'_1] at value <;>
      omega
  · right
    rw [List.mem_singleton.mp scale]
    exact scaleOffset_mem point

/-! ## Modules that count -/

theorem ofRegisters_eq_ok_iff {registers : List UInt16} {block : InputBlock} :
    ofRegisters registers = .ok block ↔ block.registers = registers := by
  constructor
  · intro accepted
    unfold ofRegisters at accepted
    split at accepted <;> cases accepted
    rfl
  · rintro rfl
    exact dif_pos block.long_enough

theorem exists_ofRegisters_iff (registers : List UInt16) :
    (∃ block, ofRegisters registers = .ok block) ↔ 8 ≤ registers.length := by
  constructor
  · rintro ⟨block, accepted⟩
    rw [← ofRegisters_eq_ok_iff.mp accepted]
    exact block.long_enough
  · intro long_enough
    exact ⟨⟨registers, long_enough⟩, ofRegisters_eq_ok_iff.mpr rfl⟩

variable (block : InputBlock)

theorem getElem?_registers {offset : Nat} (inside : offset < block.registers.length) :
    block.registers[offset]? = some (block.register offset) := by
  rw [register, List.getD_eq_getElem?_getD, List.getElem?_eq_getElem inside, Option.getD_some]

/-- The modules that count are declared, complete and numbered by a byte. -/
theorem le_moduleCount_iff (count : Nat) :
    count ≤ block.moduleCount ↔
      count ≤ (block.register inputCountOffset).toNat ∧
        8 + 20 * count ≤ block.registers.length ∧ count ≤ 255 := by
  have long_enough := block.long_enough
  simp only [moduleCount, inputHeadLength, inputModuleLength] at long_enough ⊢
  omega

/-- All that is read of a module that counts is inside the list. -/
theorem lt_length_of_mem_offsets {point : DcPoint} {index offset : Nat}
    (counted : index < block.moduleCount)
    (placed : offset ∈ (point.scaledPoint index).offsets) : offset < block.registers.length := by
  obtain ⟨-, complete, -⟩ := (block.le_moduleCount_iff (index + 1)).mp counted
  rcases mem_of_mem_offsets placed with own | scale
  · exact Nat.lt_of_lt_of_le (mem_moduleOffsets.mp own).2 complete
  · have := lt_of_mem_scaleOffsets scale
    omega

/-! ## Readings -/

theorem raw?_eq (index : Nat) (point : DcPoint) :
    block.raw? index point =
      if point.encoding.sentinel? = some (block.register (offset index point)) then none
      else some (Float.ofInt (point.encoding.decode (block.register (offset index point))
        (block.register (offset index point + 1)))) := by
  cases point with
  | current | voltage | power =>
      simp only [raw?, DcPoint.encoding, IntegerEncoding.sentinel?, IntegerEncoding.decode,
        unimplementedUnsigned, Option.some.injEq, eq_comm (a := block.register _)]
      rfl
  | energy =>
      simp only [raw?, DcPoint.encoding, IntegerEncoding.sentinel?, IntegerEncoding.decode,
        toNat_joinRegisters, toNat_joinBits, reduceCtorEq, ↓reduceIte]
      rfl

/-- The answer for a module that counts is decoded from its point. -/
theorem read_of_counted {index : Nat} (counted : index < block.moduleCount) (point : DcPoint) :
    block.read index point =
      if (point.scaledPoint index).Unimplemented block.register then
        .error (.notImplemented point.name)
      else .ok ((point.scaledPoint index).value block.register) := by
  have decoded : ((block.raw? index point).bind fun raw =>
      scaled? raw (block.register point.scaleOffset)) =
      if (point.scaledPoint index).Unimplemented block.register then none
      else some ((point.scaledPoint index).value block.register) :=
    (point.scaledPoint index).scaled?_eq block.register (block.raw?_eq index point)
  rw [read, if_pos counted, decoded]
  by_cases marked : (point.scaledPoint index).Unimplemented block.register
  · rw [if_pos marked, if_pos marked]
  · rw [if_neg marked, if_neg marked]

theorem read_of_uncounted {index : Nat} (uncounted : block.moduleCount ≤ index)
    (point : DcPoint) :
    block.read index point =
      .error (.transient (.outOfRange (point.name ++ " input " ++ natText (index + 1)))) :=
  if_neg (Nat.not_lt.mpr uncounted)

/-- What a block answers about a module that counts, by the registers that encode it. -/
structure ModuleAsEncoded (index : Nat) (point : DcPoint) : Prop where
  /-- Every register that is read is one of the list. -/
  inside : ∀ offset ∈ (point.scaledPoint index).offsets,
    block.registers[offset]? = some (block.register offset)
  notImplemented_iff : ∀ name, block.read index point = .error (.notImplemented name) ↔
    (point.scaledPoint index).Unimplemented block.register ∧ name = point.name
  /-- In all other cases there is a value, and it is what the registers stand for. -/
  value : ¬ (point.scaledPoint index).Unimplemented block.register →
    block.read index point = .ok ((point.scaledPoint index).value block.register)

theorem moduleAsEncoded {index : Nat} (counted : index < block.moduleCount) (point : DcPoint) :
    block.ModuleAsEncoded index point where
  inside _ placed := block.getElem?_registers (block.lt_length_of_mem_offsets counted placed)
  notImplemented_iff := by
    intro name
    rw [read_of_counted block counted]
    split
    next marked =>
      constructor
      · rintro ⟨⟩
        exact ⟨marked, rfl⟩
      · rintro ⟨-, rfl⟩
        rfl
    next unmarked =>
      apply iff_of_false
      · rintro ⟨⟩
      · exact fun marked => unmarked marked.1
  value unmarked := by rw [read_of_counted block counted, if_neg unmarked]

/-! ## Isolation -/

variable {block}

theorem moduleCount_of_agree {other : InputBlock}
    (length : other.registers.length = block.registers.length)
    (declared : other.register inputCountOffset = block.register inputCountOffset) :
    other.moduleCount = block.moduleCount := by
  rw [moduleCount, moduleCount, declared, length]

/-- A module is read from its own registers, the scale factors and the declared number. -/
theorem read_of_agree {other : InputBlock} {index : Nat}
    (length : other.registers.length = block.registers.length)
    (declared : other.register inputCountOffset = block.register inputCountOffset)
    (scales : ∀ offset ∈ scaleOffsets, other.register offset = block.register offset)
    (own : ∀ offset ∈ moduleOffsets index, other.register offset = block.register offset)
    (point : DcPoint) : other.read index point = block.read index point := by
  have count := moduleCount_of_agree length declared
  have agree : ∀ offset ∈ (point.scaledPoint index).offsets,
      other.register offset = block.register offset :=
    fun offset placed => (mem_of_mem_offsets placed).elim (own offset) (scales offset)
  by_cases counted : index < block.moduleCount
  · rw [read_of_counted block counted, read_of_counted other (count ▸ counted)]
    simp only [ScaledPoint.unimplemented_of_agree agree, ScaledPoint.value_of_agree agree]
  · rw [read_of_uncounted block (Nat.not_lt.mp counted),
      read_of_uncounted other (count ▸ Nat.not_lt.mp counted)]

theorem not_mem_moduleOffsets_of_ne {index changed offset : Nat} (apart : changed ≠ index)
    (own : offset ∈ moduleOffsets index) : offset ∉ moduleOffsets changed := by
  rw [mem_moduleOffsets] at own ⊢
  omega

/-- Registers of another module that change do not change what is read of a module. -/
theorem read_of_changed {other : InputBlock} {index changed : Nat} (apart : changed ≠ index)
    (length : other.registers.length = block.registers.length)
    (elsewhere : ∀ offset, offset ∉ moduleOffsets changed →
      other.register offset = block.register offset) (point : DcPoint) :
    other.read index point = block.read index point := by
  have head : ∀ offset, offset < 8 → other.register offset = block.register offset := by
    intro offset early
    apply elsewhere
    rw [mem_moduleOffsets]
    omega
  apply read_of_agree length
  · exact head inputCountOffset (by decide)
  · intro offset placed
    exact head offset (Nat.lt_trans (lt_of_mem_scaleOffsets placed) (by decide))
  · exact fun offset own => elsewhere offset (not_mem_moduleOffsets_of_ne apart own)

/-- A block is accepted if its head is complete.  The modules that count are the declared and
complete ones, at most as many as a byte can number; they are read inside the list as they are
encoded, each from its own registers, and the others are out of range. -/
theorem modules_as_encoded (registers : List UInt16) :
    ((∃ block, ofRegisters registers = .ok block) ↔ 8 ≤ registers.length) ∧
    ∀ block, ofRegisters registers = .ok block →
      block.registers = registers ∧
      registers[6]? = some (block.register 6) ∧
      block.moduleCount =
        min (min (block.register 6).toNat ((registers.length - 8) / 20)) 255 ∧
      (∀ count, count ≤ block.moduleCount ↔
        count ≤ (block.register 6).toNat ∧ 8 + 20 * count ≤ registers.length ∧ count ≤ 255) ∧
      ∀ index point,
        (index < block.moduleCount → block.ModuleAsEncoded index point) ∧
        (block.moduleCount ≤ index → block.read index point =
          .error (.transient (.outOfRange (point.name ++ " input " ++ natText (index + 1))))) ∧
        (∀ other : InputBlock, other.registers.length = registers.length →
          other.register 6 = block.register 6 →
          (∀ offset ∈ scaleOffsets, other.register offset = block.register offset) →
          (∀ offset ∈ moduleOffsets index, other.register offset = block.register offset) →
            other.read index point = block.read index point) ∧
        ∀ (other : InputBlock) (changed : Nat), changed ≠ index →
          other.registers.length = registers.length →
          (∀ offset, offset ∉ moduleOffsets changed →
            other.register offset = block.register offset) →
            other.read index point = block.read index point := by
  constructor
  · exact exists_ofRegisters_iff registers
  · intro block accepted
    obtain rfl := ofRegisters_eq_ok_iff.mp accepted
    have long_enough : 8 ≤ block.registers.length := block.long_enough
    refine ⟨rfl, block.getElem?_registers (by omega), rfl, block.le_moduleCount_iff, ?_⟩
    intro index point
    exact ⟨fun counted => block.moduleAsEncoded counted point,
      fun uncounted => block.read_of_uncounted uncounted point,
      fun other length declared scales own => read_of_agree length declared scales own point,
      fun other changed apart length elsewhere => read_of_changed apart length elsewhere point⟩

end InputBlock

end InverterBridge
