import InverterBridge.Json.Decoder
import InverterBridge.Json.Tree

/-!
# Decoding records

A record is given by an object, or by an array of its fields in order.  The
members of an object are looked at in the order of the text, so that a wrong
value is reported before a field that is missing; fields with a default may be
left out; unknown members are passed over and repeated ones refused.

`Fields` describes the fields of a record once for both forms and is put
together field by field in the manner of an applicative functor.
-/

namespace InverterBridge

/-- The elements of an array that are still to be asked for. -/
structure Elements where
  rest : List Node
  ending : Ending
  taken : Nat

/-- The fields of a record of type `α`.

`checks` decodes a member by name for its errors alone, `fromMembers` builds
the record from the members by name, and `fromElements` from the elements of
an array, where the given error reports one that is missing. -/
structure Fields (α : Type) where
  checks : List (String × (Node → Except DecodeError Unit))
  fromMembers : (String → Option Node) → Except DecodeError α
  fromElements : (Nat → DecodeError) → Elements → Except DecodeError (α × Elements)

namespace Fields

variable {α β : Type}

/-- A record without fields. -/
def none (value : α) : Fields α where
  checks := []
  fromMembers := fun _ => .ok value
  fromElements := fun _ elements => .ok (value, elements)

/-- The fields of a function and of its argument, in this order. -/
def apply (function : Fields (α → β)) (argument : Unit → Fields α) : Fields β where
  checks := function.checks ++ (argument ()).checks
  fromMembers := fun members =>
    match function.fromMembers members with
    | .error cause => .error cause
    | .ok build => ((argument ()).fromMembers members).map build
  fromElements := fun missing elements =>
    match function.fromElements missing elements with
    | .error cause => .error cause
    | .ok (build, rest) =>
        ((argument ()).fromElements missing rest).map fun (value, after) => (build value, after)

instance : Applicative Fields where
  pure := none
  seq := apply

/-- One field; without a member of that name its value is `absent`, and with
too few elements it is `short`, which may be told the error of a missing
element. -/
def single (name : String) (decode : Decoder α) (absent : Except DecodeError α)
    (short : DecodeError → Except DecodeError α) : Fields α where
  checks := [(name, fun node => (decode node).map fun _ => ())]
  fromMembers := fun members =>
    match members name with
    | some node => decode node
    | Option.none => absent
  fromElements := fun missing elements =>
    match elements.rest with
    | node :: rest =>
        (decode node).map fun value =>
          (value, { elements with rest := rest, taken := elements.taken + 1 })
    | [] =>
        match elements.ending.finish with
        | .error cause => .error cause
        | .ok _ => (short (missing elements.taken)).map fun value => (value, elements)

/-- A field that has to be present. -/
def required (name : String) (decode : Decoder α) : Fields α :=
  single name decode (.error (.missingField name)) .error

/-- A field with a default. -/
def withDefault (name : String) (decode : Decoder α) (default : α) : Fields α :=
  single name decode (.ok default) fun _ => .ok default

/-- The number of fields. -/
def count (fields : Fields α) : Nat :=
  fields.checks.length

end Fields

/-- The value of the first member of a name. -/
def memberNamed (members : List (Except DecodeError String × Node)) (name : String) :
    Option Node :=
  members.findSome? fun (key, node) =>
    match key with
    | .ok found => if found = name then some node else none
    | .error _ => none

namespace Dialect

variable {α : Type}

/-- Look at the members of an object in order: known ones are decoded and must
not repeat, and the others are handed to `other`. -/
def checkMembers (checks : List (String × (Node → Except DecodeError Unit)))
    (other : Node → Except DecodeError Unit) :
    List String → List (Except DecodeError String × Node) → Except DecodeError Unit
  | _, [] => .ok ()
  | seen, (key, node) :: members =>
      match key with
      | .error cause => .error cause
      | .ok name =>
          match checks.lookup name with
          | none =>
              match other node with
              | .error cause => .error cause
              | .ok _ => checkMembers checks other seen members
          | some check =>
              if name ∈ seen then
                .error (.duplicateField name)
              else
                match check node with
                | .error cause => .error cause
                | .ok _ => checkMembers checks other (name :: seen) members

/-- The error of an array that is too short for a record. -/
def tooFewElements (shape : String) (count : Nat) (taken : Nat) : DecodeError :=
  .invalidLength taken (shape ++ " with " ++ natText count ++
    (if count = 1 then " element" else " elements"))

/-- A record from its elements. -/
def recordOfElements (dialect : Dialect) (shape : String) (fields : Fields α)
    (items : List Node) (ending : Ending) : Except DecodeError α :=
  match fields.fromElements (tooFewElements shape fields.count) ⟨items, ending, 0⟩ with
  | .error cause => .error cause
  | .ok (value, elements) =>
      (dialect.surplus elements.taken elements.rest elements.ending).map fun _ => value

/-- A record from its members. -/
def recordOfMembers (dialect : Dialect) (fields : Fields α)
    (members : List (Except DecodeError String × Node)) (ending : Ending) :
    Except DecodeError α :=
  match checkMembers fields.checks dialect.skip [] members with
  | .error cause => .error cause
  | .ok _ =>
      match ending.finish with
      | .error cause => .error cause
      | .ok _ => fields.fromMembers (memberNamed members)

/-- A record of the given shape. -/
def record (dialect : Dialect) (shape : String) (fields : Fields α) : Decoder α := fun node =>
  match node.bare with
  | .object members ending => dialect.recordOfMembers fields members ending
  | .array items ending => dialect.recordOfElements shape fields items ending
  | node => .error (node.mismatch shape)

/-! ## Alternatives told apart by a tag -/

/-- What has been found of a tagged value: the alternative, and the members
other than the tag. -/
structure Untagged (α : Type) where
  alternative : Option α
  others : List (String × Json)

/-- Separate the tag of a tagged object from its other members, which are
buffered in order until the tag is known. -/
def untag (tag : String) (alternatives : List (String × α)) :
    Untagged α → List (Except DecodeError String × Node) →
      Except DecodeError (Untagged α)
  | found, [] => .ok { found with others := found.others.reverse }
  | found, (key, node) :: members =>
      match key with
      | .error cause => .error cause
      | .ok name =>
          if name = tag then
            if found.alternative.isSome then
              .error (.duplicateField tag)
            else
              match identifier alternatives node with
              | .error cause => .error cause
              | .ok alternative =>
                  untag tag alternatives { found with alternative := some alternative } members
          else
            match node.content with
            | .error cause => .error cause
            | .ok value =>
                untag tag alternatives { found with others := (name, value) :: found.others }
                  members

/-- A value whose alternative is told by a tag: a member of an object, or the
first element of an array.  The rest is then decoded by `decode`. -/
def tagged {β : Type} (shape tag : String)
    (alternatives : List (String × α)) (decode : α → Decoder β) : Decoder β := fun node =>
  match node.bare with
  | .object members ending =>
      match untag tag alternatives ⟨none, []⟩ members with
      | .error cause => .error cause
      | .ok found =>
          match ending.finish with
          | .error cause => .error cause
          | .ok _ =>
              match found.alternative with
              | none => .error (.missingField tag)
              | some alternative =>
                  decode alternative (.object (Node.ofMembers found.others) .closed)
  | .array items ending =>
      match items with
      | [] =>
          match ending.finish with
          | .error cause => .error cause
          | .ok _ => .error (.missingField tag)
      | first :: rest =>
          match identifier alternatives first with
          | .error cause => .error cause
          | .ok alternative =>
              match Node.content (.array rest ending) with
              | .error cause => .error cause
              | .ok content => decode alternative (Node.ofJson content)
  | node => .error (node.mismatch shape)

end Dialect

/-- How many levels of containers of a document can be read. -/
def readableLevels : Nat := 127

/-- Decode a strict text.

What follows the value is looked at last. -/
def decodeStrict {α : Type} (decode : Decoder α) (reading : Reading) : Except DecodeError α :=
  match decode (reading.root.limited readableLevels) with
  | .error cause => .error cause
  | .ok value =>
      match reading.fault with
      | none => .ok value
      | some fault => .error (.text fault)

end InverterBridge
