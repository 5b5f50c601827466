import InverterBridge.Json.Value

/-!
# Looking into JSON values

Access by name and kind for values whose shape is not fixed.  What is missing
or of another kind counts as empty.
-/

namespace InverterBridge.Json

/-- The members of an object. -/
def members : Json → List (String × Json)
  | .object members => members
  | _ => []

/-- The items of an array. -/
def items : Json → List Json
  | .array items => items
  | _ => []

/-- The member of a name. -/
def member? (value : Json) (name : String) : Option Json :=
  value.members.lookup name

/-- The member of a name, or null. -/
def member (value : Json) (name : String) : Json :=
  (value.member? name).getD .null

/-- The text of a string. -/
def asText : Json → String
  | .text value => value
  | _ => ""

/-- The value of an integer. -/
def asInt : Json → Int
  | .integer value => value
  | _ => 0

/-- The value of an integer that is not negative. -/
def asNat (value : Json) : Nat :=
  value.asInt.toNat

/-- The value of a truth value. -/
def asBool : Json → Bool
  | .bool value => value
  | _ => false

/-- An integer as a register. -/
def asRegister (value : Json) : UInt16 :=
  UInt16.ofNat value.asNat

/-- An integer as a byte. -/
def asByte (value : Json) : UInt8 :=
  UInt8.ofNat value.asNat

/-- The texts of an array of strings. -/
def asTexts (value : Json) : List String :=
  value.items.map asText

/-- The registers of an array of integers. -/
def asRegisters (value : Json) : List UInt16 :=
  value.items.map asRegister

end InverterBridge.Json
