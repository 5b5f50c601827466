import InverterBridge.Json.Value
import InverterBridge.Number.Decimal
import InverterBridge.Text.Quoted

/-!
# Text of JSON values

Documents are written without blanks, members in the order of the object and
numbers by their shortest digits.  NaN and the infinities have no JSON form
and are written as `null`.
-/

namespace InverterBridge.Json

/-- The text of a floating-point number. -/
def floatText (value : Float) : List Char :=
  match DecimalLayout.document.text? value with
  | some digits => digits.toList
  | none => "null".toList

mutual

/-- The characters of a value. -/
def chars : Json → List Char
  | .null => "null".toList
  | .bool true => "true".toList
  | .bool false => "false".toList
  | .integer value => (intText value).toList
  | .float value => floatText value
  | .text value => Quoted.encode value.toList
  | .array [] => ['[', ']']
  | .array (item :: items) => '[' :: (item.chars ++ moreItems items)
  | .object [] => ['\x7b', '\x7d']
  | .object ((key, value) :: members) =>
      '\x7b' :: (Quoted.encode key.toList ++ ':' :: (value.chars ++ moreMembers members))

/-- The items after the first, up to the closing bracket. -/
def moreItems : List Json → List Char
  | [] => [']']
  | item :: items => ',' :: (item.chars ++ moreItems items)

/-- The members after the first, up to the closing brace. -/
def moreMembers : List (String × Json) → List Char
  | [] => ['\x7d']
  | (key, value) :: members =>
      ',' :: (Quoted.encode key.toList ++ ':' :: (value.chars ++ moreMembers members))

end

/-- The text of a value. -/
def render (value : Json) : String :=
  String.ofList value.chars

end InverterBridge.Json
