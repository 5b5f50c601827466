import InverterBridge.Gateway.Error
import InverterBridge.RegisterMap.Register

/-!
# The model of the inputs

The input model has a head of eight registers with the scale factors and the
declared number of modules, followed by modules of twenty registers each.
Only modules that are declared and complete count.
-/

namespace InverterBridge

/-- A quantity on the panel side. -/
inductive DcPoint where
  | current
  | voltage
  | power
  | energy
  deriving DecidableEq, Repr

namespace DcPoint

/-- The name of a quantity in errors. -/
def name : DcPoint → String
  | .current => "dc_current"
  | .voltage => "dc_voltage"
  | .power => "dc_power"
  | .energy => "dc_energy"

/-- The offset of the scale factor in the head. -/
def scaleOffset : DcPoint → Nat
  | .current => 0
  | .voltage => 1
  | .power => 2
  | .energy => 3

/-- The offset of the quantity in a module. -/
def moduleOffset : DcPoint → Nat
  | .current => 9
  | .voltage => 10
  | .power => 11
  | .energy => 12

end DcPoint

/-- The registers of the head. -/
def inputHeadLength : Nat := 8

/-- The registers of a module. -/
def inputModuleLength : Nat := 20

/-- The offset of the declared number of modules. -/
def inputCountOffset : Nat := 6

/-- The registers of an input model with a complete head. -/
structure InputBlock where
  registers : List UInt16
  long_enough : inputHeadLength ≤ registers.length
  deriving DecidableEq

namespace InputBlock

/-- Accept the registers of an input model. -/
def ofRegisters (registers : List UInt16) : GatewayResult InputBlock :=
  if long_enough : inputHeadLength ≤ registers.length then
    .ok ⟨registers, long_enough⟩
  else
    .error (.invalidDevice
      ("MPPT block too short (" ++ natText registers.length ++ " registers)"))

/-- The register at an offset; all offsets in use lie inside the block. -/
def register (block : InputBlock) (offset : Nat) : UInt16 :=
  block.registers.getD offset 0

/-- The number of modules that are declared and complete, at most 255. -/
def moduleCount (block : InputBlock) : Nat :=
  min (min (block.register inputCountOffset).toNat
    ((block.registers.length - inputHeadLength) / inputModuleLength)) 255

theorem moduleCount_le (block : InputBlock) : block.moduleCount ≤ 255 :=
  Nat.min_le_right _ _

/-- The offset of a quantity of a module. -/
def offset (index : Nat) (point : DcPoint) : Nat :=
  inputHeadLength + index * inputModuleLength + point.moduleOffset

/-- The raw value of a quantity of a module, none if it is not implemented. -/
def raw? (block : InputBlock) (index : Nat) (point : DcPoint) : Option Float :=
  let first := block.register (offset index point)
  match point with
  | .energy =>
      some (Float.ofNat (joinRegisters first (block.register (offset index point + 1))).toNat)
  | _ => if first = unimplementedUnsigned then none else some (Float.ofNat first.toNat)

/-- Read a quantity of a module. -/
def read (block : InputBlock) (index : Nat) (point : DcPoint) : GatewayResult Float :=
  if index < block.moduleCount then
    match (block.raw? index point).bind fun raw =>
        scaled? raw (block.register point.scaleOffset) with
    | none => .error (.notImplemented point.name)
    | some value => .ok value
  else
    .error (.transient (.outOfRange (point.name ++ " input " ++ natText (index + 1))))

end InputBlock

end InverterBridge
