import InverterBridge.Json.Printer
import InverterBridge.Json.Record
import InverterBridge.Number.Rounding
import InverterBridge.Snapshot

/-!
# The values document

The document of the `values` channel carries the measurements of a snapshot
rounded to the places that are meaningful for each quantity: one for energies,
powers, the power factor and the efficiency, two for voltages and the
frequency, three for currents.  Phases and inputs are numbered from one; the
numbers are bytes, so a snapshot with 255 or more entries has no document.
-/

namespace InverterBridge

/-- A phase of the values document. -/
structure PhaseEntry where
  id : UInt8
  voltage : Float
  current : Float
  deriving DecidableEq, Repr

/-- An input of the values document. -/
structure InputEntry where
  id : UInt8
  voltage : Float
  current : Float
  power : Float
  energy : Option Float
  deriving DecidableEq, Repr

/-- The document of the `values` channel. -/
structure ValuesDocument where
  time : Int
  energy : Float
  activePower : Float
  apparentPower : Float
  reactivePower : Float
  powerFactor : Float
  phases : List PhaseEntry
  frequency : Float
  dcPower : Float
  efficiency : Float
  inputs : List InputEntry
  deriving DecidableEq, Repr

/-- Entries paired with the numbers from one upwards.

The number after the last one has to fit a byte as well. -/
def numbered? {α : Type} (entries : List α) : Option (List (UInt8 × α)) :=
  if entries.length < 255 then
    some (entries.mapIdx fun index entry => (UInt8.ofNat (index + 1), entry))
  else
    none

theorem numbered?_eq_none_iff {α : Type} {entries : List α} :
    numbered? entries = none ↔ 255 ≤ entries.length := by
  simp only [numbered?]
  split <;> simp <;> omega

namespace PhaseEntry

/-- The entry of a phase. -/
def ofValues (id : UInt8) (phase : PhaseValues) : PhaseEntry where
  id := id
  voltage := roundTo phase.voltage 2
  current := roundTo phase.current 3

/-- The entry as a JSON value. -/
def toJson (entry : PhaseEntry) : Json :=
  .object [
    ("id", .integer entry.id.toNat),
    ("ac_voltage", .float entry.voltage),
    ("ac_current", .float entry.current)]

/-- Read an entry of a phase. -/
def decode (dialect : Dialect) : Decoder PhaseEntry :=
  dialect.record "struct PhaseDocument"
    (PhaseEntry.mk
      <$> Fields.required "id" dialect.uint8
      <*> Fields.required "ac_voltage" dialect.float
      <*> Fields.required "ac_current" dialect.float)

end PhaseEntry

namespace InputEntry

/-- The entry of an input. -/
def ofValues (id : UInt8) (input : InputValues) : InputEntry where
  id := id
  voltage := roundTo input.voltage 2
  current := roundTo input.current 3
  power := roundTo input.power 1
  energy := input.energy.map fun energy => roundTo energy 1

/-- The entry as a JSON value; an energy that is not known is left out. -/
def toJson (entry : InputEntry) : Json :=
  .object ([
    ("id", .integer entry.id.toNat),
    ("dc_voltage", .float entry.voltage),
    ("dc_current", .float entry.current),
    ("dc_power", .float entry.power)] ++
    match entry.energy with
    | none => []
    | some energy => [("dc_energy", .float energy)])

/-- Read an entry of an input. -/
def decode (dialect : Dialect) : Decoder InputEntry :=
  dialect.record "struct InputDocument"
    (InputEntry.mk
      <$> Fields.required "id" dialect.uint8
      <*> Fields.required "dc_voltage" dialect.float
      <*> Fields.required "dc_current" dialect.float
      <*> Fields.required "dc_power" dialect.float
      <*> Fields.withDefault "dc_energy" (Dialect.optional dialect.float) none)

end InputEntry

namespace ValuesDocument

/-- The document of a snapshot. -/
def ofSnapshot? (values : ValueSnapshot) : Option ValuesDocument :=
  match numbered? values.phases, numbered? values.inputs with
  | some phases, some inputs =>
      some {
        time := values.time
        energy := roundTo values.energy 1
        activePower := roundTo values.activePower 1
        apparentPower := roundTo values.apparentPower 1
        reactivePower := roundTo values.reactivePower 1
        powerFactor := roundTo values.powerFactor 1
        phases := phases.map fun (id, phase) => .ofValues id phase
        frequency := roundTo values.frequency 2
        dcPower := roundTo values.dcPower 1
        efficiency := roundTo values.efficiency 1
        inputs := inputs.map fun (id, input) => .ofValues id input }
  | _, _ => none

/-- The document as a JSON value. -/
def toJson (document : ValuesDocument) : Json :=
  .object [
    ("time", .integer document.time),
    ("ac_energy", .float document.energy),
    ("ac_power_active", .float document.activePower),
    ("ac_power_apparent", .float document.apparentPower),
    ("ac_power_reactive", .float document.reactivePower),
    ("ac_power_factor", .float document.powerFactor),
    ("phases", .array (document.phases.map PhaseEntry.toJson)),
    ("ac_frequency", .float document.frequency),
    ("dc_power", .float document.dcPower),
    ("efficiency", .float document.efficiency),
    ("inputs", .array (document.inputs.map InputEntry.toJson))]

/-- The text of the document. -/
def text (document : ValuesDocument) : String :=
  document.toJson.render

/-- Read a values document. -/
def decode (dialect : Dialect) : Decoder ValuesDocument :=
  dialect.record "struct ValuesDocument"
    (ValuesDocument.mk
      <$> Fields.required "time" dialect.int64
      <*> Fields.required "ac_energy" dialect.float
      <*> Fields.required "ac_power_active" dialect.float
      <*> Fields.required "ac_power_apparent" dialect.float
      <*> Fields.required "ac_power_reactive" dialect.float
      <*> Fields.required "ac_power_factor" dialect.float
      <*> Fields.required "phases" (Dialect.list (PhaseEntry.decode dialect))
      <*> Fields.required "ac_frequency" dialect.float
      <*> Fields.required "dc_power" dialect.float
      <*> Fields.required "efficiency" dialect.float
      <*> Fields.required "inputs" (Dialect.list (InputEntry.decode dialect)))

end ValuesDocument

end InverterBridge
