import InverterBridge.Snapshot

/-!
# Layouts of the inverter models

The inverter models come in two layouts with the same points at different
places: integers with scale factors (models 101 to 103) and single-precision
numbers (models 111 to 113).  The last digit of the model is the number of
phases.
-/

namespace InverterBridge

namespace RegisterModel

/-- The layout of an inverter model. -/
def ofModel? (model : UInt16) : Option RegisterModel :=
  if 101 ≤ model.toNat ∧ model.toNat ≤ 103 then some .scaledInteger
  else if 111 ≤ model.toNat ∧ model.toNat ≤ 113 then some .float
  else none

/-- The registers an inverter block needs, up to and including the events. -/
def minLength : RegisterModel → Nat
  | .scaledInteger => 40
  | .float => 50

end RegisterModel

/-- The number of phases of an inverter model. -/
def phasesOfModel (model : UInt16) : UInt8 :=
  UInt8.ofNat (model.toNat % 10)

/-- A phase on the grid side. -/
inductive Phase where
  | a
  | b
  | c
  deriving DecidableEq, Repr

namespace Phase

/-- All phases in order. -/
def all : List Phase :=
  [.a, .b, .c]

/-- The position of a phase. -/
def index : Phase → Nat
  | .a => 0
  | .b => 1
  | .c => 2

/-- The letter of a phase. -/
def name : Phase → String
  | .a => "A"
  | .b => "B"
  | .c => "C"

end Phase

end InverterBridge
