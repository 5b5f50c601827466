import InverterBridge.Json.DecodeError
import InverterBridge.Json.Value

/-!
# Values as a text presents them

A decoder reports the first thing that is wrong in the order of the text, be
it a misplaced character or a value of the wrong shape.  So a text is first
read into a `Node`: a tree whose containers say how they end and whose leaves
say what reading them gives.  Where the text departs from its grammar the tree
simply stops, and a decoder meets the fault exactly when it gets there.
-/

namespace InverterBridge

/-- A number that was read. -/
inductive Number where
  | integer (value : Int)
  | float (value : Float)
  deriving DecidableEq, Repr

namespace Number

/-- The number as a double. -/
def toFloat : Number → Float
  | .integer value => Float.ofInt value
  | .float value => value

/-- The number as a found value. -/
def found : Number → Found
  | .integer value => .integer value
  | .float value => .float value

/-- The number as a JSON value. -/
def toJson : Number → Json
  | .integer value => .integer value
  | .float value => .float value

end Number

/-- How a container ends. -/
inductive Ending where
  /-- By its closing bracket. -/
  | closed
  /-- By a break after an element or at the start. -/
  | cut (fault : Break)
  /-- By a break after a comma. -/
  | dangling (fault : Break)
  deriving DecidableEq, Repr

namespace Ending

/-- Ask for the closing bracket where no further element is expected. -/
def finish : Ending → Except DecodeError Unit
  | .closed => .ok ()
  | .cut fault => .error (.text fault.reading)
  | .dangling fault => .error (.text fault.reading)

@[simp]
theorem finish_closed : finish .closed = .ok () :=
  rfl

end Ending

/-- What stands where a value is missing. -/
inductive Beginning where
  | nothing
  | text
  | other
  deriving DecidableEq, Repr

/-- A value as a text presents it.

A number carries two readings: as whatever kind of number it is, and directly
as a floating-point number.  Two wrappers say what some readers have to know:
`wide` is around a value whose second character is not ASCII, and `deep` around
a container nested so deeply that it can only be passed over. -/
inductive Node where
  | null
  | bool (value : Bool)
  | number (value : Except DecodeError Number) (direct : Except DecodeError Float)
  | text (value : Except DecodeError String)
  | array (items : List Node) (ending : Ending)
  | object (members : List (Except DecodeError String × Node)) (ending : Ending)
  | broken (fault : Break) (beginning : Beginning)
  | wide (inner : Node)
  | deep (inner : Node)
  deriving Inhabited

namespace Node

/-- The value without the wrapper that only matters to readers of numbers. -/
def bare : Node → Node
  | .wide inner => inner
  | node => node

@[simp]
theorem bare_text (value : Except DecodeError String) : (text value).bare = .text value :=
  rfl

/-- The error of finding this value where `expected` should stand. -/
def mismatch (expected : String) : Node → DecodeError
  | .null => .invalidType .null expected
  | .bool value => .invalidType (.bool value) expected
  | .number (.ok value) _ => .invalidType value.found expected
  | .number (.error cause) _ => cause
  | .text (.ok value) => .invalidType (.text value) expected
  | .text (.error cause) => cause
  | .array _ _ => .invalidType .sequence expected
  | .object _ _ => .invalidType .map expected
  | .broken fault _ => .text fault.reading
  | .wide inner => inner.mismatch expected
  | .deep _ => .text .malformed

mutual

/-- The value itself; the first error in the order of the text is reported. -/
def content : Node → Except DecodeError Json
  | .null => .ok .null
  | .bool value => .ok (.bool value)
  | .number value _ => value.map Number.toJson
  | .text value => value.map Json.text
  | .array items ending =>
      match contentItems items with
      | .error cause => .error cause
      | .ok values => ending.finish.map fun _ => .array values
  | .object members ending =>
      match contentMembers members with
      | .error cause => .error cause
      | .ok values => ending.finish.map fun _ => .object values
  | .broken fault _ => .error (.text fault.reading)
  | .wide inner => inner.content
  | .deep _ => .error (.text .malformed)

/-- The items of an array. -/
def contentItems : List Node → Except DecodeError (List Json)
  | [] => .ok []
  | item :: items =>
      match item.content with
      | .error cause => .error cause
      | .ok value => (contentItems items).map (value :: ·)

/-- The members of an object. -/
def contentMembers :
    List (Except DecodeError String × Node) → Except DecodeError (List (String × Json))
  | [] => .ok []
  | (key, member) :: members =>
      match key with
      | .error cause => .error cause
      | .ok name =>
          match member.content with
          | .error cause => .error cause
          | .ok value => (contentMembers members).map ((name, value) :: ·)

end

mutual

/-- A value that has been read once already, presented again. -/
def ofJson : Json → Node
  | .null => .null
  | .bool value => .bool value
  | .integer value => .number (.ok (.integer value)) (.ok (Float.ofInt value))
  | .float value => .number (.ok (.float value)) (.ok value)
  | .text value => .text (.ok value)
  | .array items => .array (ofItems items) .closed
  | .object members => .object (ofMembers members) .closed

/-- The items of an array, presented again. -/
def ofItems : List Json → List Node
  | [] => []
  | item :: items => ofJson item :: ofItems items

/-- The members of an object, presented again. -/
def ofMembers : List (String × Json) → List (Except DecodeError String × Node)
  | [] => []
  | (key, value) :: members => (.ok key, ofJson value) :: ofMembers members

end

mutual

/-- The first fault of the text inside a value that is passed over unread. -/
def firstFault : Node → Option Fault
  | .array items ending => (faultOfItems items).or (faultOfEnding ending)
  | .object members ending => (faultOfMembers members).or (faultOfEnding ending)
  | .broken fault _ => some fault.passing
  | .wide inner => inner.firstFault
  | .deep inner => inner.firstFault
  | _ => none

/-- The first fault among the items of an array. -/
def faultOfItems : List Node → Option Fault
  | [] => none
  | item :: items => item.firstFault.or (faultOfItems items)

/-- The first fault among the members of an object. -/
def faultOfMembers : List (Except DecodeError String × Node) → Option Fault
  | [] => none
  | (_, member) :: members => member.firstFault.or (faultOfMembers members)

/-- The fault by which a container ends. -/
def faultOfEnding : Ending → Option Fault
  | .closed => none
  | .cut fault => some fault.passing
  | .dangling fault => some fault.passing

end

mutual

/-- The value with every container below the given number of levels marked as
too deep. -/
def limited (levels : Nat) : Node → Node
  | .array items ending =>
      match levels with
      | 0 => .deep (.array items ending)
      | below + 1 => .array (limitedItems below items) ending
  | .object members ending =>
      match levels with
      | 0 => .deep (.object members ending)
      | below + 1 => .object (limitedMembers below members) ending
  | .wide inner => .wide (inner.limited levels)
  | node => node

/-- The items of an array, limited. -/
def limitedItems (levels : Nat) : List Node → List Node
  | [] => []
  | item :: items => item.limited levels :: limitedItems levels items

/-- The members of an object, limited. -/
def limitedMembers (levels : Nat) :
    List (Except DecodeError String × Node) → List (Except DecodeError String × Node)
  | [] => []
  | (key, member) :: members => (key, member.limited levels) :: limitedMembers levels members

end

end Node

end InverterBridge
