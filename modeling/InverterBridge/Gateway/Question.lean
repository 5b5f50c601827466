import InverterBridge.Gateway.Error
import InverterBridge.RegisterMap.Panel

/-!
# What a gateway can be asked

A gateway owns the link to one device.  Everything it is asked is a `Question`,
and the type of the answer depends on the question: a fetch only succeeds or
fails, a getter answers from what the last fetch has read.  Changes of the link
are reported by events.
-/

namespace InverterBridge

/-- A question to a gateway. -/
inductive Question where
  /-- Check that the connected device is of the supported kind. -/
  | validate
  /-- Read the identity of the device. -/
  | fetchDeviceInfo
  /-- Read the measurements. -/
  | fetchRegisters
  /-- Read the operating state and the events. -/
  | fetchEventRegisters
  | energy
  | activePower
  | apparentPower
  | reactivePower
  | powerFactor
  | frequency
  | acVoltage (phase : Phase)
  | acCurrent (phase : Phase)
  | dc (point : DcPoint) (input : Input)
  | activeStateCode
  | state
  | events
  | manufacturer
  | model
  | serialNumber
  | firmwareVersion
  | deviceAddress
  | inverterModel
  | phases
  | inputs
  | hybrid
  | floatRegisters
  deriving DecidableEq, Repr

/-- The type of the answers to a question. -/
@[reducible]
def Question.Answer : Question → Type
  | .validate | .fetchDeviceInfo | .fetchRegisters | .fetchEventRegisters => Unit
  | .energy | .activePower | .apparentPower | .reactivePower | .powerFactor | .frequency => Float
  | .acVoltage _ | .acCurrent _ | .dc _ _ => Float
  | .activeStateCode | .deviceAddress | .inverterModel => UInt16
  | .state | .manufacturer | .model | .serialNumber | .firmwareVersion => String
  | .events => List String
  | .phases | .inputs => UInt8
  | .hybrid | .floatRegisters => Bool

/-- A change of the link to a device. -/
inductive GatewayEvent where
  /-- The link is up; the device has not been validated yet. -/
  | connected
  /-- The link is down and is tried again after a delay. -/
  | disconnected (delay : Duration)
  /-- An error outside of any question. -/
  | error (error : GatewayError)
  deriving DecidableEq, Repr

/-- A gateway whose state is of type `γ`.

Asking may change the state.  Connecting and reconnecting may report events at
once; other events come later from the gateway's own task. -/
structure Gateway (γ : Type) where
  connect : γ → List GatewayEvent × γ
  reconnect : γ → List GatewayEvent × γ
  shutdown : γ → γ
  ask : (question : Question) → γ → GatewayResult question.Answer × γ

end InverterBridge
