import InverterBridge.RegisterMap.Inverter

/-!
# Encodings of integer points

An integer point takes one register or two and has a scale factor in another register.  What it
stands for is said here on a function from offsets to registers: whether the point is implemented
(`ScaledPoint.Unimplemented`) and which number it is (`ScaledPoint.value`).  Both look at the
offsets of the point and at no others (`ScaledPoint.offsets`).
-/

namespace InverterBridge

/-! ## Words -/

/-- The bits of two registers, the higher half first. -/
def joinBits (high low : UInt16) : BitVec 32 :=
  high.toBitVec ++ low.toBitVec

theorem toNat_joinBits (high low : UInt16) :
    (joinBits high low).toNat = high.toNat * 65536 + low.toNat := by
  have below : low.toBitVec.toNat < 2 ^ 16 := low.toBitVec.isLt
  rw [joinBits, BitVec.toNat_append, ← Nat.shiftLeft_add_eq_or_of_lt below, Nat.shiftLeft_eq]
  rfl

theorem toNat_joinRegisters (high low : UInt16) :
    (joinRegisters high low).toNat = high.toNat * 65536 + low.toNat := by
  have := high.toNat_lt
  have := low.toNat_lt
  simp [joinRegisters]
  omega

theorem toBitVec_joinRegisters (high low : UInt16) :
    (joinRegisters high low).toBitVec = joinBits high low :=
  BitVec.eq_of_toNat_eq ((toNat_joinRegisters high low).trans (toNat_joinBits high low).symm)

/-- A signed register is read in two's complement. -/
theorem signedRegister_eq_toInt (register : UInt16) :
    signedRegister register = register.toBitVec.toInt := by
  rw [signedRegister, BitVec.toInt_eq_toNat_cond]
  simp only [UInt16.toNat_toBitVec]
  split <;> split <;> omega

/-! ## Encodings -/

namespace IntegerEncoding

/-- The registers of a value. -/
def width : IntegerEncoding → Nat
  | .unsigned => 1
  | .signed => 1
  | .accumulator => 2

/-- The register that marks a point as not implemented; a number of two registers has none. -/
def sentinel? : IntegerEncoding → Option UInt16
  | .unsigned => some 0xFFFF
  | .signed => some 0x8000
  | .accumulator => none

/-- The number that is encoded in a register, or in it and the next one. -/
def decode (first second : UInt16) : IntegerEncoding → Int
  | .unsigned => first.toNat
  | .signed => first.toBitVec.toInt
  | .accumulator => (joinBits first second).toNat

end IntegerEncoding

/-! ## Points -/

namespace ScaledPoint

variable (point : ScaledPoint) (register : Nat → UInt16)

/-- The offsets of the value of a point. -/
def valueOffsets : List Nat :=
  List.range' point.offset point.encoding.width

/-- The offsets of a point, that of its scale factor included. -/
def offsets : List Nat :=
  point.valueOffsets ++ [point.scaleOffset]

/-- The value or the scale factor says that the point is not implemented. -/
def Unimplemented : Prop :=
  point.encoding.sentinel? = some (register point.offset) ∨ register point.scaleOffset = 0x8000

instance : Decidable (point.Unimplemented register) :=
  inferInstanceAs (Decidable (_ ∨ _))

/-- The integer of a point times its power of ten. -/
def value : Float :=
  Float.ofInt (point.encoding.decode (register point.offset) (register (point.offset + 1))) *
    powerOfTen (register point.scaleOffset).toBitVec.toInt

theorem offset_mem_offsets : point.offset ∈ point.offsets := by
  apply List.mem_append_left
  cases encoding : point.encoding <;> simp [valueOffsets, encoding, IntegerEncoding.width]

theorem scaleOffset_mem_offsets : point.scaleOffset ∈ point.offsets :=
  List.mem_append_right _ (List.mem_singleton.mpr rfl)

theorem succ_mem_offsets (long : point.encoding = .accumulator) :
    point.offset + 1 ∈ point.offsets := by
  apply List.mem_append_left
  simp [valueOffsets, long, IntegerEncoding.width]

variable {point register}

theorem unimplemented_of_agree {other : Nat → UInt16}
    (agree : ∀ offset ∈ point.offsets, other offset = register offset) :
    point.Unimplemented other ↔ point.Unimplemented register := by
  rw [Unimplemented, Unimplemented, agree _ point.offset_mem_offsets,
    agree _ point.scaleOffset_mem_offsets]

theorem value_of_agree {other : Nat → UInt16}
    (agree : ∀ offset ∈ point.offsets, other offset = register offset) :
    point.value other = point.value register := by
  have second : point.encoding.decode (register point.offset) (other (point.offset + 1)) =
      point.encoding.decode (register point.offset) (register (point.offset + 1)) := by
    cases encoding : point.encoding with
    | unsigned => rfl
    | signed => rfl
    | accumulator => rw [agree _ (point.succ_mem_offsets encoding)]
  rw [value, value, agree _ point.offset_mem_offsets, agree _ point.scaleOffset_mem_offsets, second]

/-- Applying a scale factor to a raw value that is there unless its register is the sentinel. -/
theorem scaled?_eq (point : ScaledPoint) (register : Nat → UInt16) {raw? : Option Float}
    (raw_eq : raw? =
      if point.encoding.sentinel? = some (register point.offset) then none
      else some (Float.ofInt (point.encoding.decode (register point.offset)
        (register (point.offset + 1))))) :
    (raw?.bind fun raw => scaled? raw (register point.scaleOffset)) =
      if point.Unimplemented register then none else some (point.value register) := by
  rw [raw_eq]
  by_cases marked : point.encoding.sentinel? = some (register point.offset)
  · rw [if_pos marked, if_pos (.inl marked), Option.bind_none]
  · rw [if_neg marked, Option.bind_some, scaled?, signedRegister_eq_toInt, unimplementedSigned]
    simp only [Unimplemented, marked, false_or, value]

end ScaledPoint

end InverterBridge
