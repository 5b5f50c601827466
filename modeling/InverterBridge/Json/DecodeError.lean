import InverterBridge.Number.Decimal
import InverterBridge.Text.Invisible

/-!
# Why a text cannot be decoded

A text fails to decode because it is not well formed, because a literal in it
cannot be read, or because a value does not have the shape that its place asks
for.  The causes are kept apart; `DecodeError.message` words them.
-/

namespace InverterBridge

/-- How a text departs from its grammar. -/
inductive Fault where
  /-- The text ends in the middle of a value. -/
  | incomplete
  /-- A character stands where it may not. -/
  | malformed
  deriving DecidableEq, Repr

/-- Where a text stops before a value or a container is complete.

A reader reports a number or a string up to the first thing that is wrong with
it; one that passes over it looks at less and may report another fault. -/
structure Break where
  reading : Fault
  passing : Fault
  deriving DecidableEq, Repr

/-- A break that every reader reports alike. -/
def Fault.plain (fault : Fault) : Break :=
  ⟨fault, fault⟩

/-- The kind of value that was found where another was expected. -/
inductive Found where
  | null
  | bool (value : Bool)
  | integer (value : Int)
  | float (value : Float)
  | text (value : String)
  | sequence
  | map
  deriving DecidableEq, Repr

/-- Literals of the relaxed format that are well formed but have no meaning in
their place. -/
inductive Unreadable where
  | number
  | numberTooLarge
  | integer
  | hexadecimal
  | missingTrailSurrogate
  | unexpectedTrailSurrogate
  | expectedTrailSurrogate
  | emptyChoice
  | notAChoice
  deriving DecidableEq, Repr

/-- Why a text does not decode. -/
inductive DecodeError where
  | text (fault : Fault)
  | unreadable (literal : Unreadable)
  | invalidType (found : Found) (expected : String)
  | invalidValue (found : Found) (expected : String)
  | invalidLength (length : Nat) (expected : String)
  | unknownVariant (name : String) (expected : List String)
  | missingField (name : String)
  | duplicateField (name : String)
  /-- The reader itself breaks down and reports nothing. -/
  | breakdown
  deriving DecidableEq, Repr

/-- How messages show what was found; the formats differ in the name of the
null value and in the notation of floating-point numbers. -/
structure Wording where
  nullName : String
  layout : DecimalLayout
  deriving DecidableEq, Repr

namespace Wording

/-- Messages about documents show numbers as documents do. -/
def document : Wording := ⟨"null", .document⟩

/-- Messages about configurations never use an exponent. -/
def configuration : Wording := ⟨"unit value", .message⟩

end Wording

/-- A name in message quotes. -/
def ticked (name : String) : String :=
  "`" ++ name ++ "`"

namespace Found

/-- The found value in words. -/
def message (wording : Wording) : Found → String
  | .null => wording.nullName
  | .bool true => "boolean `true`"
  | .bool false => "boolean `false`"
  | .integer value => "integer " ++ ticked (intText value)
  | .float value => "floating point " ++ ticked (wording.layout.shownNumber value)
  | .text value => "string " ++ shown value
  | .sequence => "sequence"
  | .map => "map"

end Found

namespace Unreadable

/-- The unreadable literal in words. -/
def message : Unreadable → String
  | .number => "error parsing number"
  | .numberTooLarge => "error parsing number: too large"
  | .integer => "error parsing integer"
  | .hexadecimal => "error parsing hex"
  | .missingTrailSurrogate => "missing unicode trail surrogate"
  | .unexpectedTrailSurrogate => "unexpected unicode trail surrogate"
  | .expectedTrailSurrogate => "expecting unicode trail surrogate"
  | .emptyChoice => "expected a nonempty object"
  | .notAChoice => "expected a string or an object"

end Unreadable

namespace DecodeError

/-- The names that would have been accepted. -/
def alternatives : List String → String
  | [] => "there are no variants"
  | [only] => "expected " ++ ticked only
  | [first, second] => "expected " ++ ticked first ++ " or " ++ ticked second
  | names => "expected one of " ++ ", ".intercalate (names.map ticked)

/-- The cause in words. -/
def message (wording : Wording) : DecodeError → String
  | .text .incomplete => "eof"
  | .text .malformed => "syntax"
  | .unreadable literal => literal.message
  | .invalidType found expected =>
      "invalid type: " ++ found.message wording ++ ", expected " ++ expected
  | .invalidValue found expected =>
      "invalid value: " ++ found.message wording ++ ", expected " ++ expected
  | .invalidLength length expected =>
      "invalid length " ++ natText length ++ ", expected " ++ expected
  | .unknownVariant name expected =>
      "unknown variant " ++ ticked name ++ ", " ++ alternatives expected
  | .missingField name => "missing field " ++ ticked name
  | .duplicateField name => "duplicate field " ++ ticked name
  | .breakdown => ""

end DecodeError

end InverterBridge
