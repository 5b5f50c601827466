import InverterBridge.Json.Node

/-!
# Decoding values

A decoder turns a `Node` into a value of a type or reports the first error in
the order of the text.  The three dialects differ in a few rules, which are
gathered here: how an integer is read, how one of several names is chosen,
what happens to surplus elements, and what is looked at in a value that is
passed over.
-/

namespace InverterBridge

/-- Where a value comes from. -/
inductive Dialect where
  /-- A document, by the letter of the grammar. -/
  | strict
  /-- A configuration file. -/
  | relaxed
  /-- A value that was read once already, to find out which shape it has. -/
  | buffered
  deriving DecidableEq, Repr

/-- A reader of values of a type. -/
abbrev Decoder (α : Type) := Node → Except DecodeError α

namespace Dialect

/-- A floating-point number as the nearest integer towards zero within bounds;
NaN gives zero. -/
def clampFloat (low high : Int) (value : Float) : Int :=
  match BinaryFraction.ofFloat? value with
  | none => if value < 0.0 then low else if 0.0 < value then high else 0
  | some fraction =>
      let magnitude : Nat := fraction.ratio.1 / fraction.ratio.2
      let whole : Int := if fraction.negative then -(magnitude : Int) else magnitude
      if whole < low then low else if high < whole then high else whole

/-- The error of finding no number where a configuration file asks for one.

The first two bytes are compared with the mark of a hexadecimal number, which
breaks down where the second byte is only part of a character. -/
def notANumber : Node → DecodeError
  | .wide _ => .breakdown
  | _ => .unreadable .number

/-- An integer from `low` to `high`.

Documents admit integers in range only.  Configuration files admit any number
and bring it into range. -/
def integer (dialect : Dialect) (low high : Int) (expected : String) : Decoder Int
  | .number value direct =>
      match dialect with
      | .relaxed => direct.map (clampFloat low high)
      | _ =>
          match value with
          | .error cause => .error cause
          | .ok (.integer whole) =>
              if low ≤ whole ∧ whole ≤ high then .ok whole
              else .error (.invalidValue (.integer whole) expected)
          | .ok (.float number) => .error (.invalidType (.float number) expected)
  | node =>
      match dialect with
      | .relaxed => .error (notANumber node)
      | _ => .error (node.mismatch expected)

/-- An unsigned integer of 8 bits. -/
def uint8 (dialect : Dialect) : Decoder UInt8 := fun node =>
  (dialect.integer 0 255 "u8" node).map fun value => UInt8.ofNat value.toNat

/-- An unsigned integer of 16 bits. -/
def uint16 (dialect : Dialect) : Decoder UInt16 := fun node =>
  (dialect.integer 0 65535 "u16" node).map fun value => UInt16.ofNat value.toNat

/-- An unsigned integer of 32 bits. -/
def uint32 (dialect : Dialect) : Decoder UInt32 := fun node =>
  (dialect.integer 0 4294967295 "u32" node).map fun value => UInt32.ofNat value.toNat

/-- An unsigned integer of 64 bits. -/
def uint64 (dialect : Dialect) : Decoder UInt64 := fun node =>
  (dialect.integer 0 18446744073709551615 "u64" node).map fun value => UInt64.ofNat value.toNat

/-- A size, an unsigned integer of 64 bits under a name of its own. -/
def size (dialect : Dialect) : Decoder UInt64 := fun node =>
  (dialect.integer 0 18446744073709551615 "usize" node).map fun value => UInt64.ofNat value.toNat

/-- A signed integer of 64 bits. -/
def int64 (dialect : Dialect) : Decoder Int :=
  dialect.integer (-9223372036854775808) 9223372036854775807 "i64"

/-- A floating-point number; integers are admitted. -/
def float (dialect : Dialect) : Decoder Float
  | .number value direct =>
      match dialect with
      | .relaxed => direct
      | _ => value.map Number.toFloat
  | node =>
      match dialect with
      | .relaxed => .error (notANumber node)
      | _ => .error (node.mismatch "f64")

/-- A truth value. -/
def bool : Decoder Bool
  | .bool value => .ok value
  | node => .error (node.mismatch "a boolean")

/-- A string. -/
def text : Decoder String := fun node =>
  match node.bare with
  | .text value => value
  | node => .error (node.mismatch "a string")

/-- A value or null. -/
def optional {α : Type} (decode : Decoder α) : Decoder (Option α)
  | .null => .ok none
  | node => (decode node).map some

/-- Every node of a list, in order. -/
def each {α : Type} (decode : Decoder α) : List Node → Except DecodeError (List α)
  | [] => .ok []
  | node :: nodes =>
      match decode node with
      | .error cause => .error cause
      | .ok value => (each decode nodes).map (value :: ·)

/-- A list of values. -/
def list {α : Type} (decode : Decoder α) : Decoder (List α) := fun node =>
  match node.bare with
  | .array items ending =>
      match each decode items with
      | .error cause => .error cause
      | .ok values => ending.finish.map fun _ => values
  | node => .error (node.mismatch "a sequence")

/-- Elements after the last one that was asked for.

A document may not have any; configuration files may; in a buffered value they
count as a wrong length. -/
def surplus (dialect : Dialect) (taken : Nat) (rest : List Node) (ending : Ending) :
    Except DecodeError Unit :=
  match dialect with
  | .relaxed => .ok ()
  | .buffered =>
      if rest.isEmpty then .ok ()
      else
        .error (.invalidLength (taken + rest.length)
          (natText taken ++ (if taken = 1 then " element" else " elements") ++ " in sequence"))
  | .strict =>
      match rest, ending with
      | [], .closed => .ok ()
      | [], .cut fault => .error (.text fault.reading)
      | _, _ => .error (.text .malformed)

/-- Pass over a value.

In a document only its grammar is looked at; in a configuration file its
literals have to be readable as well. -/
def skip (dialect : Dialect) (node : Node) : Except DecodeError Unit :=
  match dialect with
  | .strict =>
      match node.firstFault with
      | none => .ok ()
      | some fault => .error (.text fault)
  | .relaxed => node.content.map fun _ => ()
  | .buffered => .ok ()

/-- One of several named alternatives. -/
def named {α : Type} (alternatives : List (String × α)) (name : String) :
    Except DecodeError α :=
  match alternatives.lookup name with
  | some value => .ok value
  | none => .error (.unknownVariant name (alternatives.map Prod.fst))

/-- The name of an alternative where only a name may stand. -/
def identifier {α : Type} (alternatives : List (String × α)) : Decoder α := fun node =>
  match node.bare with
  | .text value => value.bind (named alternatives)
  | node => .error (node.mismatch "variant identifier")

/-- An alternative without a value of its own, given by its name or by an
object whose first key is the name. -/
def choice {α : Type} (dialect : Dialect) (alternatives : List (String × α)) :
    Decoder α := fun node =>
  match node.bare with
  | .text value => value.bind (named alternatives)
  | .object members ending =>
      match dialect, members with
      | .relaxed, [] => .error (.unreadable .emptyChoice)
      | _, [] =>
          match ending with
          | .cut fault => .error (.text fault.reading)
          | _ => .error (.text .malformed)
      | _, (key, value) :: rest =>
          match key.bind (named alternatives) with
          | .error cause => .error cause
          | .ok alternative =>
              match dialect with
              | .relaxed => .ok alternative
              | _ =>
                  match value with
                  | .null =>
                      (dialect.surplus 1 (rest.map Prod.snd) ending).map fun _ => alternative
                  | other => .error (other.mismatch "unit")
  | .broken fault beginning =>
      match beginning with
      | .nothing => .error (.text .incomplete)
      | .text => .error (.text fault.reading)
      | .other => .error (.text .malformed)
  | _ =>
      match dialect with
      | .relaxed => .error (.unreadable .notAChoice)
      | _ => .error (.text .malformed)

end Dialect

end InverterBridge
