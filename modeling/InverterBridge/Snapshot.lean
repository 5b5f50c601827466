/-!
# Snapshots

A snapshot is what one successful poll of a device found out about one
channel.  It is replaced as a whole by the next one and never edited.
Energies are in kilowatt hours, powers in watts, voltages in volts and currents
in amperes.
-/

namespace InverterBridge

/-- Measurements of one phase on the grid side. -/
structure PhaseValues where
  voltage : Float
  current : Float
  deriving DecidableEq, Repr

/-- Measurements of one input on the panel side; not every device reports the
energy of an input. -/
structure InputValues where
  voltage : Float
  current : Float
  power : Float
  energy : Option Float
  deriving DecidableEq, Repr

/-- All numeric measurements of one poll; `time` is in milliseconds since the epoch. -/
structure ValueSnapshot where
  time : Int
  energy : Float
  activePower : Float
  apparentPower : Float
  reactivePower : Float
  powerFactor : Float
  phases : List PhaseValues
  frequency : Float
  dcPower : Float
  efficiency : Float
  inputs : List InputValues
  deriving DecidableEq, Repr

/-- The operating state and the active events of a device. -/
structure EventSnapshot where
  activeCode : UInt16
  state : String
  events : List String
  deriving DecidableEq, Repr

/-- The two register layouts of an inverter. -/
inductive RegisterModel where
  /-- Single-precision points. -/
  | float
  /-- Integer points with scale factors. -/
  | scaledInteger
  deriving DecidableEq, Repr

/-- The identity and the capabilities of a device. -/
structure DeviceSnapshot where
  manufacturer : String
  model : String
  serial : String
  firmware : String
  inverterModel : UInt16
  registerModel : RegisterModel
  phases : UInt8
  inputs : UInt8
  hybrid : Bool
  modbusAddress : UInt16
  deriving DecidableEq, Repr

/-- Below this magnitude the power of the panels counts as none. -/
def efficiencyThreshold : Float := 1e-12

/-- Conversion efficiency in percent, zero while the panels give no power. -/
def efficiency (activePower dcPower : Float) : Float :=
  if efficiencyThreshold < dcPower.abs then activePower / dcPower * 100.0 else 0.0

end InverterBridge
