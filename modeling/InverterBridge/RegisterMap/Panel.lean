import InverterBridge.RegisterMap.Inputs
import InverterBridge.RegisterMap.Inverter

/-!
# The panel side of a device

With an input model each input is read from its module.  Without one the
device has a single input whose values are the totals of the inverter, and the
energy of an input is not known.
-/

namespace InverterBridge

/-- What is read on the panel side. -/
inductive Input where
  /-- The sum over all inputs. -/
  | total
  /-- One input, counted from zero. -/
  | module (index : Nat)
  deriving DecidableEq, Repr

namespace Input

/-- The input of an index; inputs are numbered from one in a byte, so an index
of 255 has none. -/
def ofIndex? (index : Nat) : Option Input :=
  if index < 255 then some (.module index) else none

end Input

/-- The total of a quantity, as the inverter reports it. -/
def InverterBlock.total (block : InverterBlock) : DcPoint → GatewayResult Float
  | .current => block.read .dcCurrent
  | .voltage => block.read .dcVoltage
  | .power => block.read .dcPower
  | .energy => .error (.notImplemented DcPoint.energy.name)

/-- Read a quantity of an input. -/
def readInput (inverter : InverterBlock) (inputs : Option InputBlock) (point : DcPoint) :
    Input → GatewayResult Float
  | .total => inverter.total point
  | .module index =>
      match inputs with
      | some block => block.read index point
      | none =>
          if index = 0 then inverter.total point
          else .error (.transient (.outOfRange ("input " ++ natText (index + 1))))

end InverterBridge
