import InverterBridge.Gateway.Error
import InverterBridge.RegisterMap.Layout

/-!
# The chain of models

After the marker a device lists its models: a header of identifier and length,
the data registers, the next header, and so on to an end marker.  A
`ModelMap` is the list of models found; the bridge needs the identity model
and an inverter model that are long enough, an input model is used where there
is one, and a storage model marks a hybrid device.
-/

namespace InverterBridge

/-- The model of the identity strings. -/
def commonModelId : UInt16 := 1

/-- The model of a battery. -/
def storageModelId : UInt16 := 124

/-- The model of the inputs on the panel side. -/
def inputModelId : UInt16 := 160

/-- The identifier that ends the chain. -/
def endModelId : UInt16 := 0xFFFF

/-- The most models that are followed. -/
def maxModels : Nat := 64

/-- The registers the identity model needs, up to and including the address. -/
def commonMinLength : Nat := 65

/-- A model of the chain: its identifier, the address of its first data
register and the number of data registers. -/
structure ModelHeader where
  id : UInt16
  address : UInt16
  length : UInt16
  deriving DecidableEq, Repr

namespace ModelHeader

/-- The address after the last data register, where the next header stands. -/
def nextAddress (header : ModelHeader) : Nat :=
  header.address.toNat + header.length.toNat

/-- The layout of the model, if it is an inverter model. -/
def layout? (header : ModelHeader) : Option RegisterModel :=
  RegisterModel.ofModel? header.id

end ModelHeader

/-- The models of a device in the order of their addresses. -/
structure ModelMap where
  models : List ModelHeader
  deriving DecidableEq, Repr

namespace ModelMap

/-- The first model of an identifier. -/
def find? (map : ModelMap) (id : UInt16) : Option ModelHeader :=
  map.models.find? (·.id == id)

/-- The identity model. -/
def common (map : ModelMap) : GatewayResult ModelHeader :=
  match map.find? commonModelId with
  | some header => .ok header
  | none => .error (.invalidDevice "common model (1) missing")

/-- The first inverter model. -/
def inverter? (map : ModelMap) : Option ModelHeader :=
  map.models.find? (·.layout?.isSome)

/-- The first inverter model, which every supported device has. -/
def inverter (map : ModelMap) : GatewayResult ModelHeader :=
  match map.inverter? with
  | some header => .ok header
  | none => .error (.invalidDevice "no inverter model (101-103, 111-113)")

/-- The model of the inputs, if the device has one. -/
def inputModel? (map : ModelMap) : Option ModelHeader :=
  map.find? inputModelId

/-- Whether the device has a battery. -/
def isHybrid (map : ModelMap) : Bool :=
  (map.find? storageModelId).isSome

/-- The identity model, if it is long enough. -/
def checkCommon (map : ModelMap) : GatewayResult ModelHeader :=
  map.common.bind fun header =>
    if header.length.toNat < commonMinLength then
      .error (.invalidDevice
        ("common model too short (" ++ natText header.length.toNat ++ " registers)"))
    else
      .ok header

/-- The inverter model, if it is long enough for its layout. -/
def checkInverter (map : ModelMap) : GatewayResult ModelHeader :=
  map.inverter.bind fun header =>
    match header.layout? with
    | none => .error (.invalidDevice "unsupported inverter model")
    | some layout =>
        if header.length.toNat < layout.minLength then
          .error (.invalidDevice
            ("inverter model " ++ natText header.id.toNat ++ " too short (" ++
              natText header.length.toNat ++ " registers)"))
        else
          .ok header

/-- Check that the chain holds what polling needs. -/
def validate (map : ModelMap) : GatewayResult Unit :=
  map.checkCommon.bind fun _ => map.checkInverter.map fun _ => ()

end ModelMap

end InverterBridge
