import InverterBridge.Number.Decimal

/-!
# Names of states and events

Operating states are numbered, and the active events are the bits of a 32-bit
field.  The standard names the lowest sixteen bits; the others are named by
their number.
-/

namespace InverterBridge

/-- The name of an operating state. -/
def stateName (code : UInt16) : String :=
  match code.toNat with
  | 1 => "Off"
  | 2 => "Sleeping"
  | 3 => "Starting"
  | 4 => "MPPT"
  | 5 => "Throttled"
  | 6 => "ShuttingDown"
  | 7 => "Fault"
  | 8 => "Standby"
  | _ => "Unknown"

/-- The standard names of the lowest event bits. -/
def standardEvents : List String := [
  "GROUND_FAULT", "DC_OVER_VOLT", "AC_DISCONNECT", "DC_DISCONNECT",
  "GRID_DISCONNECT", "CABINET_OPEN", "MANUAL_SHUTDOWN", "OVER_TEMP",
  "OVER_FREQUENCY", "UNDER_FREQUENCY", "AC_OVER_VOLT", "AC_UNDER_VOLT",
  "BLOWN_STRING_FUSE", "UNDER_TEMP", "MEMORY_LOSS", "HW_TEST_FAILURE"]

/-- The name of an event bit. -/
def eventName (bit : Nat) : String :=
  match standardEvents[bit]? with
  | some name => name
  | none => "EVENT_" ++ natText bit

/-- The bits of a field that are set, lowest first. -/
def setBits (field : UInt32) : List Nat :=
  (List.range 32).filter field.toNat.testBit

/-- The names of the active events, lowest bit first. -/
def eventNames (field : UInt32) : List String :=
  (setBits field).map eventName

@[simp]
theorem length_eventNames (field : UInt32) :
    (eventNames field).length = (setBits field).length := by
  simp [eventNames]

theorem mem_setBits_iff (field : UInt32) (bit : Nat) :
    bit ∈ setBits field ↔ bit < 32 ∧ field.toNat.testBit bit = true := by
  simp [setBits]

end InverterBridge
