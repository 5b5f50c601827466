import InverterBridge.Modbus.Link
import InverterBridge.Modbus.Supervisor
import InverterBridge.RegisterMap.Chain
import InverterBridge.RegisterMap.CommonModel
import InverterBridge.RegisterMap.Names
import InverterBridge.RegisterMap.Panel

/-!
# A gateway over Modbus

The gateway follows the chain of models of a device once, when the device is
checked.  Every fetch reads whole models into a cache, and the getters answer
from the cache.  A check that succeeds empties the cache, so that nothing of an
earlier device is left in it; a check that fails leaves it alone.
-/

namespace InverterBridge

/-- The blocks that have been read since the last successful check. -/
structure RegisterCache where
  common : Option CommonModel
  inverter : Option InverterBlock
  inputs : Option InputBlock
  deriving DecidableEq

/-- A cache without blocks. -/
def RegisterCache.empty : RegisterCache :=
  ⟨none, none, none⟩

/-- A gateway with the state `δ` of the other side. -/
structure ModbusGateway (δ : Type) where
  device : DeviceConfig
  supervisor : Supervisor
  models : Option ModelMap
  cache : RegisterCache
  line : δ

namespace ModbusGateway

variable {δ α : Type}

/-- A gateway that has not been connected. -/
def initial (device : DeviceConfig) (line : δ) : ModbusGateway δ where
  device := device
  supervisor := .initial device.reconnect
  models := none
  cache := .empty
  line := line

/-- A gateway that shuts down answers nothing. -/
def checkRunning (gateway : ModbusGateway δ) : GatewayResult Unit :=
  if gateway.supervisor.shuttingDown then .error .shuttingDown else .ok ()

/-! ## Reading -/

/-- Read registers over the open link. -/
def read (wire : Wire δ) (address count : Nat) (gateway : ModbusGateway δ) :
    GatewayResult (List UInt16) × ModbusGateway δ :=
  if gateway.supervisor.shuttingDown then (.error .shuttingDown, gateway)
  else if gateway.supervisor.linked then
    let (result, line) :=
      readPieces (wire.send gateway.device.unitId) gateway.device.timeout address
        (ReadRequest.pieces address count) gateway.line
    (result, { gateway with line := line })
  else (.error (.transient .notConnected), gateway)

/-- Go on with what a step has found, or end with its failure. -/
def andThen {β : Type} (step : GatewayResult α × ModbusGateway δ)
    (next : α → ModbusGateway δ → GatewayResult β × ModbusGateway δ) :
    GatewayResult β × ModbusGateway δ :=
  match step with
  | (.ok value, gateway) => next value gateway
  | (.error error, gateway) => (.error error, gateway)

/-- The last address at which a header may stand. -/
def lastHeaderAddress : Nat := 65533

/-- Follow the chain of models from a header address on.  The number bounds the
headers. -/
def walk (wire : Wire δ) : Nat → Nat → ModbusGateway δ →
    GatewayResult (List ModelHeader) × ModbusGateway δ
  | 0, _, gateway =>
      (.error (.invalidDevice ("no end marker after " ++ natText maxModels ++ " models")), gateway)
  | headers + 1, address, gateway =>
      if address ≤ lastHeaderAddress then
        andThen (gateway.read wire address 2) fun registers gateway =>
          let id := registers.getD 0 0
          if id = endModelId then (.ok [], gateway)
          else
            let header : ModelHeader := ⟨id, UInt16.ofNat (address + 2), registers.getD 1 0⟩
            andThen (walk wire headers header.nextAddress gateway) fun models gateway =>
              (.ok (header :: models), gateway)
      else (.error (.invalidDevice "model chain runs past the register space"), gateway)

/-- Check the device: follow its chain of models, and keep it if it holds what
polling needs. -/
def validate (wire : Wire δ) (gateway : ModbusGateway δ) :
    GatewayResult Unit × ModbusGateway δ :=
  let base := gateway.device.baseAddress.toNat
  andThen (gateway.read wire base 2) fun marker gateway =>
    if isMarker marker then
      andThen (walk wire maxModels (base + 2) gateway) fun models gateway =>
        match (ModelMap.mk models).validate with
        | .error error => (.error error, gateway)
        | .ok _ => (.ok (), { gateway with models := some ⟨models⟩, cache := .empty })
    else
      (.error (.invalidDevice ("SunS marker not found at " ++ natText base)), gateway)

/-- The chain of models found by the last successful check. -/
def chain (gateway : ModbusGateway δ) : GatewayResult ModelMap :=
  gateway.checkRunning.bind fun _ =>
    match gateway.models with
    | some models => .ok models
    | none => .error (.notFetched "model chain")

/-- Read the data registers of a model. -/
def readModel (wire : Wire δ) (header : ModelHeader) (gateway : ModbusGateway δ) :
    GatewayResult (List UInt16) × ModbusGateway δ :=
  gateway.read wire header.address.toNat header.length.toNat

/-- Read the identity model. -/
def fetchCommon (wire : Wire δ) (models : ModelMap) (gateway : ModbusGateway δ) :
    GatewayResult Unit × ModbusGateway δ :=
  andThen (models.common, gateway) fun header gateway =>
    andThen (gateway.readModel wire header) fun registers gateway =>
      andThen (CommonModel.decode registers, gateway) fun common gateway =>
        (.ok (), { gateway with cache := { gateway.cache with common := some common } })

/-- Read the inverter model. -/
def fetchInverter (wire : Wire δ) (models : ModelMap) (gateway : ModbusGateway δ) :
    GatewayResult Unit × ModbusGateway δ :=
  andThen (models.inverter, gateway) fun header gateway =>
    andThen (gateway.readModel wire header) fun registers gateway =>
      andThen (InverterBlock.ofRegisters header.id registers, gateway) fun block gateway =>
        (.ok (), { gateway with cache := { gateway.cache with inverter := some block } })

/-- Read the input model, if the device has one. -/
def fetchInputs (wire : Wire δ) (models : ModelMap) (gateway : ModbusGateway δ) :
    GatewayResult Unit × ModbusGateway δ :=
  match models.inputModel? with
  | none => (.ok (), { gateway with cache := { gateway.cache with inputs := none } })
  | some header =>
      andThen (gateway.readModel wire header) fun registers gateway =>
        andThen (InputBlock.ofRegisters registers, gateway) fun block gateway =>
          (.ok (), { gateway with cache := { gateway.cache with inputs := some block } })

/-- Read the identity of the device. -/
def fetchDeviceInfo (wire : Wire δ) (gateway : ModbusGateway δ) :
    GatewayResult Unit × ModbusGateway δ :=
  andThen (gateway.chain, gateway) fun models gateway =>
    andThen (gateway.fetchCommon wire models) fun _ gateway =>
      gateway.fetchInputs wire models

/-- Read the measurements. -/
def fetchRegisters (wire : Wire δ) (gateway : ModbusGateway δ) :
    GatewayResult Unit × ModbusGateway δ :=
  andThen (gateway.chain, gateway) fun models gateway =>
    andThen (gateway.fetchInverter wire models) fun _ gateway =>
      gateway.fetchInputs wire models

/-- Read the operating state and the events. -/
def fetchEventRegisters (wire : Wire δ) (gateway : ModbusGateway δ) :
    GatewayResult Unit × ModbusGateway δ :=
  andThen (gateway.chain, gateway) fun models gateway =>
    gateway.fetchInverter wire models

/-! ## Getters -/

/-- Answer from a block of the cache. -/
def ofBlock {β : Type} (gateway : ModbusGateway δ) (block : Option β) (point : String)
    (read : β → GatewayResult α) : GatewayResult α :=
  gateway.checkRunning.bind fun _ =>
    match block with
    | some block => read block
    | none => .error (.notFetched point)

/-- Answer from the inverter block. -/
def ofInverter (gateway : ModbusGateway δ) (point : String)
    (read : InverterBlock → GatewayResult α) : GatewayResult α :=
  gateway.ofBlock gateway.cache.inverter point read

/-- Answer from the identity. -/
def ofCommon (gateway : ModbusGateway δ) (point : String) (read : CommonModel → α) :
    GatewayResult α :=
  gateway.ofBlock gateway.cache.common point fun common => .ok (read common)

/-- A measurement. -/
def quantity (gateway : ModbusGateway δ) (quantity : Quantity) : GatewayResult Float :=
  gateway.ofInverter quantity.name (·.read quantity)

/-- A quantity on the panel side. -/
def panel (gateway : ModbusGateway δ) (point : DcPoint) (input : Input) : GatewayResult Float :=
  gateway.ofInverter point.name fun inverter =>
    readInput inverter gateway.cache.inputs point input

/-- The identifier of the inverter model. -/
def inverterModel (gateway : ModbusGateway δ) : GatewayResult UInt16 :=
  gateway.chain.bind fun models => models.inverter.map (·.id)

/-- The number of inputs: one without an input model, and at least one. -/
def inputCount (gateway : ModbusGateway δ) : GatewayResult UInt8 :=
  gateway.chain.bind fun models =>
    match models.inputModel?, gateway.cache.inputs with
    | none, _ => .ok 1
    | some _, none => .error (.notFetched "inputs")
    | some _, some block => .ok (UInt8.ofNat (max 1 block.moduleCount))

/-- Answer a question. -/
def ask (wire : Wire δ) : (question : Question) → ModbusGateway δ →
    GatewayResult question.Answer × ModbusGateway δ
  | .validate, gateway => gateway.validate wire
  | .fetchDeviceInfo, gateway => gateway.fetchDeviceInfo wire
  | .fetchRegisters, gateway => gateway.fetchRegisters wire
  | .fetchEventRegisters, gateway => gateway.fetchEventRegisters wire
  | .energy, gateway => (gateway.quantity .energy, gateway)
  | .activePower, gateway => (gateway.quantity .activePower, gateway)
  | .apparentPower, gateway => (gateway.quantity .apparentPower, gateway)
  | .reactivePower, gateway => (gateway.quantity .reactivePower, gateway)
  | .powerFactor, gateway => (gateway.quantity .powerFactor, gateway)
  | .frequency, gateway => (gateway.quantity .frequency, gateway)
  | .acVoltage phase, gateway => (gateway.quantity (.acVoltage phase), gateway)
  | .acCurrent phase, gateway => (gateway.quantity (.acCurrent phase), gateway)
  | .dc point input, gateway => (gateway.panel point input, gateway)
  | .activeStateCode, gateway =>
      (gateway.ofInverter "active_code" InverterBlock.activeStateCode, gateway)
  | .state, gateway =>
      (gateway.ofInverter "state" fun block => block.operatingState.map stateName, gateway)
  | .events, gateway =>
      (gateway.ofInverter "events" fun block => block.eventBits.map eventNames, gateway)
  | .manufacturer, gateway => (gateway.ofCommon "manufacturer" (·.manufacturer), gateway)
  | .model, gateway => (gateway.ofCommon "model" (·.model), gateway)
  | .serialNumber, gateway => (gateway.ofCommon "serial" (·.serial), gateway)
  | .firmwareVersion, gateway => (gateway.ofCommon "firmware" (·.version), gateway)
  | .deviceAddress, gateway => (gateway.ofCommon "modbus_address" (·.deviceAddress), gateway)
  | .inverterModel, gateway => (gateway.inverterModel, gateway)
  | .phases, gateway => (gateway.inverterModel.map phasesOfModel, gateway)
  | .inputs, gateway => (gateway.inputCount, gateway)
  | .hybrid, gateway => (gateway.chain.map ModelMap.isHybrid, gateway)
  | .floatRegisters, gateway =>
      (gateway.inverterModel.map fun id => RegisterModel.ofModel? id == some .float, gateway)

/-! ## The link -/

/-- Start to connect. -/
def connect (gateway : ModbusGateway δ) : List GatewayEvent × ModbusGateway δ :=
  let (events, supervisor) := gateway.supervisor.connect gateway.device.reconnect
  (events, { gateway with supervisor := supervisor })

/-- Ask for a new link; its events come later. -/
def reconnect (gateway : ModbusGateway δ) : List GatewayEvent × ModbusGateway δ :=
  ([], { gateway with supervisor := gateway.supervisor.request })

/-- Shut down and wait until the link is closed. -/
def shutdown (gateway : ModbusGateway δ) : ModbusGateway δ :=
  { gateway with supervisor := gateway.supervisor.shutdown }

/-- One move of the supervisor of the link, none while it has to wait. -/
def supervise (wire : Wire δ) (now : Nat) (gateway : ModbusGateway δ) :
    Option (List GatewayEvent × ModbusGateway δ) :=
  if gateway.supervisor.phase = .opening then
    let connection := gateway.device.connection
    let (result, line) := wire.openLink connection gateway.line
    let (events, supervisor) :=
      gateway.supervisor.opened now (result.mapError (LinkFailure.error connection))
    some (events, { gateway with supervisor := supervisor, line := line })
  else
    (gateway.supervisor.step now).map fun (events, supervisor) =>
      (events, { gateway with supervisor := supervisor })

/-- The gateway over a wire as a gateway. -/
def gateway (wire : Wire δ) : Gateway (ModbusGateway δ) where
  connect := connect
  reconnect := reconnect
  shutdown := shutdown
  ask := ask wire

end ModbusGateway

end InverterBridge
