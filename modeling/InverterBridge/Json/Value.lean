/-!
# JSON values

Integers and floating-point numbers are kept apart, because documents write
them differently.  The members of an object are a list in the order in which
they are written; an object built from arbitrary keys is kept sorted by key,
with the last value of a key winning.
-/

namespace InverterBridge

/-- A JSON value. -/
inductive Json where
  | null
  | bool (value : Bool)
  | integer (value : Int)
  | float (value : Float)
  | text (value : String)
  | array (items : List Json)
  | object (members : List (String × Json))
  deriving Repr, Inhabited

namespace Json

/-- Store a member in a list sorted by key, replacing an earlier value. -/
def insertMember (key : String) (value : Json) :
    List (String × Json) → List (String × Json)
  | [] => [(key, value)]
  | (first, old) :: rest =>
      if key = first then (key, value) :: rest
      else if key < first then (key, value) :: (first, old) :: rest
      else (first, old) :: insertMember key value rest

@[simp]
theorem insertMember_nil (key : String) (value : Json) :
    insertMember key value [] = [(key, value)] :=
  rfl

/-- Store several members one after the other. -/
def insertMembers (members additions : List (String × Json)) : List (String × Json) :=
  additions.foldl (fun sorted entry => insertMember entry.1 entry.2 sorted) members

@[simp]
theorem insertMembers_cons (members : List (String × Json)) (entry : String × Json)
    (additions : List (String × Json)) :
    insertMembers members (entry :: additions) =
      insertMembers (insertMember entry.1 entry.2 members) additions :=
  rfl

mutual

/-- The value with the members of every object sorted by key. -/
def sorted : Json → Json
  | .null => .null
  | .bool value => .bool value
  | .integer value => .integer value
  | .float value => .float value
  | .text value => .text value
  | .array items => .array (sortedItems items)
  | .object members => .object (insertMembers [] (sortedMembers members))

/-- Every item with its objects sorted. -/
def sortedItems : List Json → List Json
  | [] => []
  | item :: items => item.sorted :: sortedItems items

/-- Every member value with its objects sorted. -/
def sortedMembers : List (String × Json) → List (String × Json)
  | [] => []
  | (key, value) :: members => (key, value.sorted) :: sortedMembers members

end

end Json

end InverterBridge
