import InverterBridge.Gateway.Error
import InverterBridge.RegisterMap.Layout
import InverterBridge.RegisterMap.Register

/-!
# The inverter models

A `Quantity` is a measurement of an inverter.  Each layout places it at a point
of its own: `Quantity.scaledPoint` gives the integer register and its scale
factor, `Quantity.singleOffset` the two registers of the single-precision
number.  A block of registers is accepted when it is long enough for its
layout, and then every point lies inside of it.
-/

namespace InverterBridge

/-- A measurement of an inverter model. -/
inductive Quantity where
  | acCurrent (phase : Phase)
  | acVoltage (phase : Phase)
  | activePower
  | frequency
  | apparentPower
  | reactivePower
  | powerFactor
  | energy
  | dcCurrent
  | dcVoltage
  | dcPower
  deriving DecidableEq, Repr

/-- How an integer point is encoded. -/
inductive IntegerEncoding where
  | unsigned
  | signed
  /-- An unsigned number of two registers that is always implemented. -/
  | accumulator
  deriving DecidableEq, Repr

/-- An integer point: its encoding, its offset and that of its scale factor. -/
structure ScaledPoint where
  encoding : IntegerEncoding
  offset : Nat
  scaleOffset : Nat
  deriving DecidableEq, Repr

namespace Quantity

/-- The name of a quantity in errors. -/
def name : Quantity → String
  | .acCurrent _ => "ac_current"
  | .acVoltage _ => "ac_voltage"
  | .activePower => "ac_power_active"
  | .frequency => "ac_frequency"
  | .apparentPower => "ac_power_apparent"
  | .reactivePower => "ac_power_reactive"
  | .powerFactor => "ac_power_factor"
  | .energy => "ac_energy"
  | .dcCurrent => "dc_current"
  | .dcVoltage => "dc_voltage"
  | .dcPower => "dc_power"

/-- The phase a quantity belongs to, if it belongs to one. -/
def phase? : Quantity → Option Phase
  | .acCurrent phase => some phase
  | .acVoltage phase => some phase
  | _ => none

/-- The point of a quantity in the layout of scaled integers. -/
def scaledPoint : Quantity → ScaledPoint
  | .acCurrent phase => ⟨.unsigned, 1 + phase.index, 4⟩
  | .acVoltage phase => ⟨.unsigned, 8 + phase.index, 11⟩
  | .activePower => ⟨.signed, 12, 13⟩
  | .frequency => ⟨.unsigned, 14, 15⟩
  | .apparentPower => ⟨.signed, 16, 17⟩
  | .reactivePower => ⟨.signed, 18, 19⟩
  | .powerFactor => ⟨.signed, 20, 21⟩
  | .energy => ⟨.accumulator, 22, 24⟩
  | .dcCurrent => ⟨.unsigned, 25, 26⟩
  | .dcVoltage => ⟨.unsigned, 27, 28⟩
  | .dcPower => ⟨.signed, 29, 30⟩

/-- The offset of a quantity in the layout of single-precision numbers. -/
def singleOffset : Quantity → Nat
  | .acCurrent phase => 2 + 2 * phase.index
  | .acVoltage phase => 14 + 2 * phase.index
  | .activePower => 20
  | .frequency => 22
  | .apparentPower => 24
  | .reactivePower => 26
  | .powerFactor => 28
  | .energy => 30
  | .dcCurrent => 32
  | .dcVoltage => 34
  | .dcPower => 36

end Quantity

namespace RegisterModel

/-- The offset of the operating state. -/
def stateOffset : RegisterModel → Nat
  | .scaledInteger => 36
  | .float => 46

/-- The offset of the operating state in the words of the vendor. -/
def vendorStateOffset : RegisterModel → Nat
  | .scaledInteger => 37
  | .float => 47

/-- The offset of the two event registers. -/
def eventOffset : RegisterModel → Nat
  | .scaledInteger => 38
  | .float => 48

@[simp]
theorem eventOffset_add_two (layout : RegisterModel) :
    layout.eventOffset + 2 = layout.minLength := by
  cases layout <;> rfl

end RegisterModel

/-- The registers of an inverter model that are long enough for its layout. -/
structure InverterBlock where
  model : UInt16
  layout : RegisterModel
  registers : List UInt16
  layout_eq : RegisterModel.ofModel? model = some layout
  long_enough : layout.minLength ≤ registers.length
  deriving DecidableEq

namespace InverterBlock

/-- Accept the registers of an inverter model. -/
def ofRegisters (model : UInt16) (registers : List UInt16) : GatewayResult InverterBlock :=
  match layout_eq : RegisterModel.ofModel? model with
  | none =>
      .error (.invalidDevice ("model " ++ natText model.toNat ++ " is not an inverter"))
  | some layout =>
      if long_enough : layout.minLength ≤ registers.length then
        .ok ⟨model, layout, registers, layout_eq, long_enough⟩
      else
        .error (.invalidDevice
          ("inverter block too short (" ++ natText registers.length ++ " registers)"))

/-- The number of phases of the inverter. -/
def phases (block : InverterBlock) : UInt8 :=
  phasesOfModel block.model

/-- The register at an offset; all offsets in use lie inside the block. -/
def register (block : InverterBlock) (offset : Nat) : UInt16 :=
  block.registers.getD offset 0

/-- The 32-bit number at an offset. -/
def pair (block : InverterBlock) (offset : Nat) : UInt32 :=
  joinRegisters (block.register offset) (block.register (offset + 1))

/-- The raw value of an integer point, none if it is not implemented. -/
def raw? (block : InverterBlock) (point : ScaledPoint) : Option Float :=
  match point.encoding with
  | .unsigned =>
      if block.register point.offset = unimplementedUnsigned then none
      else some (Float.ofNat (block.register point.offset).toNat)
  | .signed =>
      if block.register point.offset = unimplementedSigned then none
      else some (Float.ofInt (signedRegister (block.register point.offset)))
  | .accumulator => some (Float.ofNat (block.pair point.offset).toNat)

/-- The value of an integer point, none if it or its scale factor is not implemented. -/
def scaledValue? (block : InverterBlock) (point : ScaledPoint) : Option Float :=
  (block.raw? point).bind fun raw => scaled? raw (block.register point.scaleOffset)

/-- The value of a single-precision point; a NaN marks it as not implemented. -/
def singleValue? (block : InverterBlock) (offset : Nat) : Option Float :=
  if isSingleNaN (block.pair offset) then none else some (widenSingle (block.pair offset))

/-- The value of a quantity, none if the device does not implement it. -/
def value? (block : InverterBlock) (quantity : Quantity) : Option Float :=
  match block.layout with
  | .scaledInteger => block.scaledValue? quantity.scaledPoint
  | .float => block.singleValue? quantity.singleOffset

/-- Whether the inverter has the phase of a quantity. -/
def hasPhase (block : InverterBlock) (quantity : Quantity) : Bool :=
  match quantity.phase? with
  | none => true
  | some phase => phase.index < block.phases.toNat

/-- Read a quantity. -/
def read (block : InverterBlock) (quantity : Quantity) : GatewayResult Float :=
  match quantity.phase? with
  | some phase =>
      if phase.index < block.phases.toNat then
        implemented block quantity
      else
        .error (.transient (.outOfRange (quantity.name ++ " phase " ++ phase.name)))
  | none => implemented block quantity
where
  /-- The value of a quantity, or the error that it is not implemented. -/
  implemented (block : InverterBlock) (quantity : Quantity) : GatewayResult Float :=
    match block.value? quantity with
    | none => .error (.notImplemented quantity.name)
    | some value => .ok value

/-- The operating state. -/
def operatingState (block : InverterBlock) : GatewayResult UInt16 :=
  let code := block.register block.layout.stateOffset
  if code = unimplementedUnsigned then .error (.notImplemented "state") else .ok code

/-- The operating state in the words of the vendor, or else the operating state. -/
def activeStateCode (block : InverterBlock) : GatewayResult UInt16 :=
  let code := block.register block.layout.vendorStateOffset
  if code = unimplementedUnsigned then block.operatingState else .ok code

/-- The bit field of the active events. -/
def eventBits (block : InverterBlock) : GatewayResult UInt32 :=
  let bits := block.pair block.layout.eventOffset
  if bits = unimplementedBits then .error (.notImplemented "events") else .ok bits

end InverterBlock

end InverterBridge
