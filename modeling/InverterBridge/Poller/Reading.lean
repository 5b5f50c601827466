import InverterBridge.Poller.Survey
import InverterBridge.Snapshot

/-!
# Reading a device

The surveys from which the snapshots of the three polled channels are made.
The gateway answers energies in watt hours; snapshots hold kilowatt hours.
-/

namespace InverterBridge

/-- The kilowatt hours of a number of watt hours. -/
def kilowattHours (wattHours : Float) : Float :=
  wattHours * 1e-3

namespace DeviceSnapshot

/-- Read the identity of a device. -/
def survey : Survey DeviceSnapshot := do
  Survey.read "device info" .fetchDeviceInfo
  let floatRegisters ← Survey.read "register model" .floatRegisters
  let manufacturer ← Survey.read "manufacturer" .manufacturer
  let model ← Survey.read "model" .model
  let serial ← Survey.read "serial number" .serialNumber
  let firmware ← Survey.read "firmware version" .firmwareVersion
  let inverterModel ← Survey.read "inverter id" .inverterModel
  let phases ← Survey.read "phases" .phases
  let inputs ← Survey.read "inputs" .inputs
  let hybrid ← Survey.read "hybrid" .hybrid
  let modbusAddress ← Survey.read "device address" .deviceAddress
  return {
    manufacturer, model, serial, firmware, inverterModel
    registerModel := if floatRegisters then .float else .scaledInteger
    phases, inputs, hybrid, modbusAddress }

end DeviceSnapshot

namespace PhaseValues

/-- Read a phase. -/
def survey (phase : Phase) : Survey PhaseValues := do
  let voltage ← Survey.read "ac_voltage" (.acVoltage phase)
  let current ← Survey.read "ac_current" (.acCurrent phase)
  return ⟨voltage, current⟩

end PhaseValues

namespace InputValues

/-- Read the energy of an input.

A hybrid device moves energy through the battery as well, so the energies of
its inputs mean nothing. -/
def energySurvey (hybrid : Bool) (input : Input) : Survey (Option Float) :=
  if hybrid then .done none
  else
    (Survey.readOptional "dc_energy" (.dc .energy input)).bind fun energy =>
      .done (energy.map kilowattHours)

/-- Read an input. -/
def survey (hybrid : Bool) (index : Nat) : Survey InputValues := do
  let energy ← energySurvey hybrid (.module index)
  let voltage ← Survey.read "dc_voltage" (.dc .voltage (.module index))
  let current ← Survey.read "dc_current" (.dc .current (.module index))
  let power ← Survey.read "dc_power" (.dc .power (.module index))
  return ⟨voltage, current, power, energy⟩

end InputValues

namespace ValueSnapshot

/-- The phases that are read: one at least and three at most. -/
def phasesRead (phases : UInt8) : List Phase :=
  Phase.all.take (max 1 (min 3 phases.toNat))

/-- The inputs that are read: one at least. -/
def inputsRead (inputs : UInt8) : List Nat :=
  List.range (max 1 inputs.toNat)

/-- Read the measurements of a device. -/
def survey (time : Int) : Survey ValueSnapshot := do
  Survey.read "registers" .fetchRegisters
  let phaseCount ← Survey.read "phases" .phases
  let inputCount ← Survey.read "inputs" .inputs
  let hybrid ← Survey.read "hybrid" .hybrid
  let energy ← Survey.read "ac_energy" .energy
  let activePower ← Survey.read "ac_power_active" .activePower
  let apparentPower ← Survey.read "ac_power_apparent" .apparentPower
  let reactivePower ← Survey.read "ac_power_reactive" .reactivePower
  let powerFactor ← Survey.read "ac_power_factor" .powerFactor
  let phases ← Survey.each PhaseValues.survey (phasesRead phaseCount)
  let frequency ← Survey.read "ac_frequency" .frequency
  let dcPower ← Survey.read "dc_power" (.dc .power .total)
  let inputs ← Survey.each (InputValues.survey hybrid) (inputsRead inputCount)
  return {
    time
    energy := kilowattHours energy
    activePower, apparentPower, reactivePower, powerFactor, phases, frequency, dcPower
    efficiency := InverterBridge.efficiency activePower dcPower
    inputs }

end ValueSnapshot

namespace EventSnapshot

/-- Read the operating state and the events of a device. -/
def survey : Survey EventSnapshot := do
  Survey.read "event registers" .fetchEventRegisters
  let activeCode ← Survey.read "active state code" .activeStateCode
  let state ← Survey.read "state" .state
  let events ← Survey.read "events" .events
  return ⟨activeCode, state, events⟩

end EventSnapshot

end InverterBridge
