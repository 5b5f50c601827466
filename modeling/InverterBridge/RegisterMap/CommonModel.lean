import InverterBridge.Gateway.Error
import InverterBridge.RegisterMap.Chain
import InverterBridge.RegisterMap.Register

/-!
# The identity model

The identity model holds the strings by which a device names itself and its
Modbus address.
-/

namespace InverterBridge

/-- The identity of a device. -/
structure CommonModel where
  manufacturer : String
  model : String
  version : String
  serial : String
  deviceAddress : UInt16
  deriving DecidableEq, Repr

namespace CommonModel

/-- The registers from `first` to below `last`. -/
def part (registers : List UInt16) (first last : Nat) : List UInt16 :=
  (registers.drop first).take (last - first)

/-- Read the identity from a register block. -/
def decode (registers : List UInt16) : GatewayResult CommonModel :=
  match registers[64]? with
  | none =>
      .error (.invalidDevice
        ("common model block too short (" ++ natText registers.length ++ " registers)"))
  | some address =>
      .ok {
        manufacturer := registerText (part registers 0 16)
        model := registerText (part registers 16 32)
        version := registerText (part registers 40 48)
        serial := registerText (part registers 48 64)
        deviceAddress := address }

end CommonModel

end InverterBridge
